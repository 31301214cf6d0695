import Verse.Lib.Program

/-!
# A medium that fails

Programs that write to a durable medium one step after the other, where any step may fail or be
the last one the process makes.

An `Outcome` is what becomes of one step: it is made, or it fails, or the process ends in the
middle of it, in the last two cases after a part of the step. Which outcomes the steps of a
program meet is given beforehand, as a list that runs out into steps that are made; so a claim
about every list is a claim about every place where a program can be interrupted and every place
where it can be refused, any number of each.

`Stop` tells apart the three ways in which a program ends early: the program itself refuses, a
write fails and the process lives to know it, or the process is gone. Nothing that a program
does about an error is done after a crash (`onFailure`).
-/

namespace Lib

open Program

/-- What becomes of a step. -/
inductive Outcome where
  | made
  | failed (part : Nat)
  | crashed (part : Nat)
deriving DecidableEq, Repr

/-- Why a program stops. -/
inductive Stop (ε : Type) where
  | refused (e : ε)
  | failed
  | crashed
deriving DecidableEq, Repr

/-- A disk, what the process has in memory, and what will become of the next steps. -/
structure Medium (δ μ : Type) where
  disk : δ
  memory : μ
  outcomes : List Outcome

/-- A step on a disk: what a part of it does, and all of it. -/
abbrev Effect (δ : Type) := Option Nat → δ → δ

variable {ε δ μ α β : Type}

/-- A step that is made whole or not at all. -/
def Effect.atomic (change : δ → δ) : Effect δ
  | some 0, disk => disk
  | _, disk => change disk

theorem Effect.atomic_cases (change : δ → δ) (part : Option Nat) (disk : δ) :
    Effect.atomic change part disk = disk ∨ Effect.atomic change part disk = change disk := by
  rcases part with _ | _ | _
  · exact .inr rfl
  · exact .inl rfl
  · exact .inr rfl

/-- A step that leaves the disk as it is and may still fail, such as waiting for it. -/
def Effect.none : Effect δ := fun _ disk => disk

abbrev MediumProgram (ε δ μ α : Type) := Program (Stop ε) (Medium δ μ) α

def perform (effect : Effect δ) : MediumProgram ε δ μ Unit := fun medium =>
  match medium.outcomes with
  | [] => .ok () { medium with disk := effect .none medium.disk }
  | .made :: rest =>
    .ok () { medium with disk := effect .none medium.disk, outcomes := rest }
  | .failed part :: rest =>
    .error .failed { medium with disk := effect (some part) medium.disk, outcomes := rest }
  | .crashed part :: rest =>
    .error .crashed { medium with disk := effect (some part) medium.disk, outcomes := rest }

/-- A computation that may refuse. -/
def check (x : Except ε α) : MediumProgram ε δ μ α := lift .refused x

def memory : MediumProgram ε δ μ μ := do return (← get).memory

def remember (change : μ → μ) : MediumProgram ε δ μ Unit :=
  modify fun medium => { medium with memory := change medium.memory }

/-- Do something about an error before passing it on. A crash leaves no time for it, and what is
    done about the error may itself come to nothing. -/
def onFailure (repair : MediumProgram ε δ μ Unit) (x : MediumProgram ε δ μ α) :
    MediumProgram ε δ μ α := fun medium =>
  match x medium with
  | .ok a medium' => .ok a medium'
  | .error .crashed medium' => .error .crashed medium'
  | .error e medium' =>
    match repair medium' with
    | .error .crashed medium'' => .error .crashed medium''
    | .ok _ medium'' => .error e medium''
    | .error _ medium'' => .error e medium''

/-! ## Rules -/

variable {repair : MediumProgram ε δ μ Unit} {effect : Effect δ}

variable {x : Except ε α} {change : μ → μ} {f : α → MediumProgram ε δ μ β}

section

variable {P : Medium δ μ → Prop} {Q : α → Medium δ μ → Prop} {E : Stop ε → Medium δ μ → Prop}

theorem Triple.perform {Q : Unit → Medium δ μ → Prop}
    (hmade : ∀ medium rest, P medium →
      Q () { medium with disk := effect .none medium.disk, outcomes := rest })
    (hfailed : ∀ medium part rest, P medium →
      E .failed { medium with disk := effect (some part) medium.disk, outcomes := rest })
    (hcrashed : ∀ medium part rest, P medium →
      E .crashed { medium with disk := effect (some part) medium.disk, outcomes := rest }) :
    Triple P (perform effect : MediumProgram ε δ μ Unit) Q E := by
  intro medium hmedium
  unfold Lib.perform
  obtain ⟨disk, memory, outcomes⟩ := medium
  cases outcomes with
  | nil => exact hmade _ [] hmedium
  | cons outcome rest =>
    cases outcome with
    | made => exact hmade _ rest hmedium
    | failed part => exact hfailed _ part rest hmedium
    | crashed part => exact hcrashed _ part rest hmedium

theorem Triple.check (hok : ∀ a, x = .ok a → ∀ medium, P medium → Q a medium)
    (hrefused : ∀ e, x = .error e → ∀ medium, P medium → E (.refused e) medium) :
    Triple P (check x : MediumProgram ε δ μ α) Q E :=
  .lift hok hrefused

theorem Triple.memory {Q : μ → Medium δ μ → Prop} (h : ∀ medium, P medium → Q medium.memory medium) :
    Triple P (memory : MediumProgram ε δ μ μ) Q E := h

theorem Triple.remember {Q : Unit → Medium δ μ → Prop}
    (h : ∀ medium, P medium → Q () { medium with memory := change medium.memory }) :
    Triple P (remember change : MediumProgram ε δ μ Unit) Q E := h

theorem Triple.bind_check
    {Q : β → Medium δ μ → Prop}
    (hrefused : ∀ e, x = .error e → ∀ medium, P medium → E (.refused e) medium)
    (hok : ∀ a, x = .ok a → Triple P (f a) Q E) : Triple P (Lib.check x >>= f) Q E :=
  .bind_lift hrefused hok

theorem Triple.bind_memory {f} (h : ∀ read, P read → Triple P (f read.memory) Q E) :
    Triple P (Lib.memory >>= f) Q E :=
  .bind_get h

variable {R : Medium δ μ → Prop}

/-- A step that leaves `R` wherever it is interrupted. -/
theorem Triple.perform_safe {Q : Unit → Medium δ μ → Prop}
    (hmade : ∀ medium rest, P medium →
      Q () { medium with disk := effect .none medium.disk, outcomes := rest })
    (hstopped : ∀ medium part rest, P medium →
      R { medium with disk := effect (some part) medium.disk, outcomes := rest }) :
    Triple P (Lib.perform effect : MediumProgram ε δ μ Unit) Q
      fun e medium => R medium ∧ ∀ reason, e ≠ .refused reason :=
  .perform hmade (fun medium part rest hm => ⟨hstopped medium part rest hm, by simp⟩)
    fun medium part rest hm => ⟨hstopped medium part rest hm, by simp⟩

/-- What is done about an error must lead from how the error was met to how it is passed on. -/
theorem Triple.onFailure {x} {E' : Stop ε → Medium δ μ → Prop} (hx : Triple P x Q E')
    (hcrashed : ∀ medium, E' .crashed medium → E .crashed medium)
    (hrepair : ∀ e, e ≠ .crashed → Triple (E' e) repair (fun _ => E e)
      fun stop medium => match stop with
        | .crashed => E .crashed medium
        | _ => E e medium) :
    Triple P (onFailure repair x) Q E := by
  intro medium hmedium
  have hrun := hx medium hmedium
  rw [Lib.onFailure]
  cases hcase : x medium with
  | ok a medium' =>
    rw [hcase] at hrun
    exact hrun
  | error e medium' =>
    rw [hcase] at hrun
    cases e with
    | crashed => exact hcrashed medium' hrun
    | refused e =>
      have := hrepair (.refused e) (by simp) medium' hrun
      cases hfix : repair medium' with
      | ok a medium'' => simpa only [hfix] using this
      | error e' medium'' => cases e' <;> simpa only [hfix] using this
    | failed =>
      have := hrepair .failed (by simp) medium' hrun
      cases hfix : repair medium' with
      | ok a medium'' => simpa only [hfix] using this
      | error e' medium'' => cases e' <;> simpa only [hfix] using this

theorem Keeps.perform (h : ∀ medium part rest, P medium →
      P { medium with disk := effect part medium.disk, outcomes := rest }) :
    Keeps P (perform effect : MediumProgram ε δ μ Unit) :=
  Triple.perform (fun medium rest hm => h medium none rest hm)
    (fun medium part rest hm => h medium (some part) rest hm)
    fun medium part rest hm => h medium (some part) rest hm

/-- A program that is only ever interrupted still is when something is done about it. -/
theorem Triple.onFailure_of_keeps {x}
    (hx : Triple P x Q fun e medium => R medium ∧ ∀ reason, e ≠ .refused reason)
    (hrepair : Keeps R repair) :
    Triple P (Lib.onFailure repair x) Q
      fun e medium => R medium ∧ ∀ reason, e ≠ .refused reason := by
  refine Triple.onFailure hx (fun _ hm => hm) fun e _ => ?_
  intro medium hm
  have hrun := hrepair medium hm.1
  cases hfix : repair medium with
  | ok a medium' =>
    rw [hfix] at hrun
    exact ⟨hrun, hm.2⟩
  | error e' medium' =>
    rw [hfix] at hrun
    cases e' with
    | crashed => exact ⟨hrun, by simp⟩
    | refused | failed => exact ⟨hrun, hm.2⟩

end

/-! ## Programs that nothing interrupts -/

/-- Started in `P` the program ends in `P`, and has only its own refusals to stop it. -/
def Refusing (P : Medium δ μ → Prop) (x : MediumProgram ε δ μ α) : Prop :=
  Triple P x (fun _ => P) fun e medium => P medium ∧ ∃ reason, e = .refused reason

variable {a : α} {e : ε}

section

variable {P : Medium δ μ → Prop} {x : MediumProgram ε δ μ α}

theorem Refusing.bind (hx : Refusing P x)
    (hf : ∀ a, Refusing P (f a)) : Refusing P (x >>= f) := Triple.bind hx hf

theorem Refusing.pure : Refusing P (pure a : MediumProgram ε δ μ α) := fun _ h => h

theorem Refusing.forget (hx : Refusing P x) : Refusing P (forget x) := hx.bind fun _ => .pure

theorem Refusing.refuse : Refusing P (throw (.refused e) : MediumProgram ε δ μ α) :=
  fun _ h => ⟨h, e, rfl⟩

theorem Refusing.get : Refusing P (get : MediumProgram ε δ μ (Medium δ μ)) := fun _ h => h

theorem Refusing.memory : Refusing P (memory : MediumProgram ε δ μ μ) := fun _ h => h

theorem Refusing.check {y} : Refusing P (check y : MediumProgram ε δ μ α) :=
  Triple.check (fun _ _ _ h => h) fun e _ _ h => ⟨h, e, rfl⟩

variable {c : Prop}

theorem Refusing.ite [Decidable c] {y} (hx : Refusing P x) (hy : Refusing P y) :
    Refusing P (if c then x else y) := Triple.ite (fun _ => hx) fun _ => hy

theorem Refusing.only [Decidable c] {y : MediumProgram ε δ μ Unit}
    {rest : Unit → MediumProgram ε δ μ α} (hy : Refusing P y) (hrest : Refusing P (rest ())) :
    Refusing P (if c then y >>= rest else rest ()) :=
  .ite (hy.bind fun _ => hrest) hrest

end

/-- Where every step is made, the program has only its own refusals to stop it. -/
abbrev Quiet (x : MediumProgram ε δ μ α) : Prop := Refusing (·.outcomes = []) x

variable {medium : Medium δ μ}

section

variable {x : MediumProgram ε δ μ α}

theorem Quiet.remember : Quiet (remember change : MediumProgram ε δ μ Unit) :=
  fun _ h => h

theorem Quiet.perform : Quiet (perform effect : MediumProgram ε δ μ Unit) := by
  intro medium h
  obtain ⟨disk, memory, outcomes⟩ := medium
  obtain rfl : outcomes = [] := h
  rfl

theorem Quiet.onFailure (hrepair : Quiet repair)
    (hx : Quiet x) : Quiet (onFailure repair x) := by
  intro medium hmedium
  have hrun := hx medium hmedium
  rw [Lib.onFailure]
  cases hcase : x medium with
  | ok a medium' =>
    rw [hcase] at hrun
    exact hrun
  | error e medium' =>
    rw [hcase] at hrun
    obtain ⟨hclean, reason, rfl⟩ := hrun
    have hrun := hrepair medium' hclean
    cases hfix : repair medium' with
    | ok a medium'' =>
      rw [hfix] at hrun
      simpa only [hfix] using ⟨hrun, reason, rfl⟩
    | error e' medium'' =>
      rw [hfix] at hrun
      obtain ⟨hclean, reason', rfl⟩ := hrun
      simpa only [hfix] using ⟨hclean, reason, rfl⟩

/-- A program that nothing interrupts and that has nothing to refuse ends with a value. -/
theorem exists_ok_of_quiet {P : Medium δ μ → Prop} {Q : α → Medium δ μ → Prop}
    {E : Stop ε → Medium δ μ → Prop} (hquiet : Quiet x) (h : Triple P x Q E)
    (hE : ∀ reason medium, ¬ E (.refused reason) medium) (hP : P medium)
    (houtcomes : medium.outcomes = []) :
    ∃ a medium', x medium = .ok a medium' ∧ Q a medium' ∧ medium'.outcomes = [] := by
  have hrun := h medium hP
  have hclean := hquiet medium houtcomes
  cases hx : x medium with
  | ok a medium' =>
    rw [hx] at hrun hclean
    exact ⟨a, medium', rfl, hrun, hclean⟩
  | error e medium' =>
    rw [hx] at hrun hclean
    obtain ⟨-, reason, rfl⟩ := hclean
    exact absurd hrun (hE reason medium')

end

theorem run_check_ok (h : x = .ok a) :
    (check x : MediumProgram ε δ μ α) medium = .ok a medium := by
  unfold check Program.lift
  rw [h]

theorem run_check_error (h : x = .error e) :
    (check x : MediumProgram ε δ μ α) medium = .error (.refused e) medium := by
  unfold check Program.lift
  rw [h]

/-! ## Steps one after another

A program that only takes steps is decided by the first step that is not made. -/

def performAll : List (Effect δ) → MediumProgram ε δ μ Unit
  | [] => pure ()
  | effect :: rest => perform effect >>= fun _ => performAll rest

/-- Which of so many steps is the first that is not made, and what becomes of it. -/
def fault : Nat → List Outcome → Option (Nat × Outcome)
  | 0, _ => none
  | _ + 1, [] => none
  | n + 1, .made :: rest => (fault n rest).map fun found => (found.1 + 1, found.2)
  | _ + 1, outcome :: _ => some (0, outcome)

/-- What the steps do when they are all made. -/
def Effect.all (effects : List (Effect δ)) (disk : δ) : δ :=
  effects.foldl (fun disk effect => effect .none disk) disk

/-- What they do when only a part is made of the one with that number, and none after it. -/
def Effect.upTo : List (Effect δ) → Nat → Nat → δ → δ
  | [], _, _, disk => disk
  | effect :: _, 0, part, disk => effect (some part) disk
  | effect :: rest, n + 1, part, disk => Effect.upTo rest n part (effect .none disk)

section

variable {effects : List (Effect δ)} {medium : Medium δ μ}

theorem performAll_made (h : fault effects.length medium.outcomes = none) :
    ∃ rest, (performAll effects : MediumProgram ε δ μ Unit) medium
      = .ok () { medium with disk := Effect.all effects medium.disk, outcomes := rest } := by
  induction effects generalizing medium with
  | nil => exact ⟨medium.outcomes, rfl⟩
  | cons effect rest ih =>
    obtain ⟨disk, memory, outcomes⟩ := medium
    cases outcomes with
    | nil =>
      have hrest := @ih ⟨effect .none disk, memory, []⟩ (by cases rest <;> rfl)
      exact hrest
    | cons outcome outcomes =>
      cases outcome with
      | made =>
        have hrest := @ih ⟨effect .none disk, memory, outcomes⟩ (Option.map_eq_none_iff.mp h)
        exact hrest
      | failed part | crashed part => cases h

variable {step : Nat} {outcome : Outcome}

/-- The step that is not made ends the program, and the steps before it have been made. -/
theorem performAll_stopped {part : Nat} {stop : Stop ε}
    (h : fault effects.length medium.outcomes = some (step, outcome))
    (hstop : outcome = .failed part ∧ stop = .failed ∨ outcome = .crashed part ∧ stop = .crashed) :
    (performAll effects : MediumProgram ε δ μ Unit) medium
      = .error stop { medium with
          disk := Effect.upTo effects step part medium.disk
          outcomes := medium.outcomes.drop (step + 1) } := by
  induction effects generalizing medium step with
  | nil => cases h
  | cons effect rest ih =>
    obtain ⟨disk, memory, outcomes⟩ := medium
    cases outcomes with
    | nil => cases h
    | cons first outcomes =>
      cases first with
      | made =>
        obtain ⟨⟨n, found⟩, hfound, heq⟩ := Option.map_eq_some_iff.mp h
        obtain ⟨rfl, rfl⟩ := Prod.mk.inj heq
        have hrest := @ih ⟨effect .none disk, memory, outcomes⟩ n hfound
        exact hrest
      | failed part' =>
        cases h
        rcases hstop with ⟨heq, rfl⟩ | ⟨heq, -⟩
        · cases heq
          rfl
        · cases heq
      | crashed part' =>
        cases h
        rcases hstop with ⟨heq, -⟩ | ⟨heq, rfl⟩
        · cases heq
        · cases heq
          rfl

variable {n : Nat} {outcomes : List Outcome}

/-- The step that is found was not made. -/
theorem fault_ne_made :
    fault n outcomes ≠ some (step, .made) := by
  induction n generalizing step outcomes with
  | zero => intro h; cases h
  | succ n ih =>
    intro h
    cases outcomes with
    | nil => cases h
    | cons first outcomes =>
      cases first with
      | made =>
        obtain ⟨⟨m, found⟩, hfound, heq⟩ := Option.map_eq_some_iff.mp h
        obtain ⟨-, rfl⟩ := Prod.mk.inj heq
        exact ih hfound
      | failed part | crashed part => cases h

theorem fault_lt
    (h : fault n outcomes = some (step, outcome)) : step < n := by
  induction n generalizing step outcomes with
  | zero => cases h
  | succ n ih =>
    cases outcomes with
    | nil => cases h
    | cons first outcomes =>
      cases first with
      | made =>
        obtain ⟨⟨m, found⟩, hfound, heq⟩ := Option.map_eq_some_iff.mp h
        obtain ⟨rfl, rfl⟩ := Prod.mk.inj heq
        exact Nat.succ_lt_succ (ih hfound)
      | failed part | crashed part => cases h; exact Nat.succ_pos n

end

end Lib
