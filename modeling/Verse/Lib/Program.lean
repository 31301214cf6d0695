import Verse.Lib.Result

/-!
# Programs that keep what they did

A program that writes as it goes and then fails has still written. `Program ε σ α` is a state
program of that kind: it ends with a value or with an error, and either way with a state.

`Triple P x Q E` is the usual judgment about one, with a postcondition for each way of ending.
`Keeps P x` is the triple whose three conditions are the same, which is how frame facts and
invariants are stated; it follows from the parts of a program without looking at what they
compute.
-/

namespace Lib

variable {ε ε' σ τ α β : Type}

abbrev Program (ε σ α : Type) := EStateM ε σ α

namespace Program

/-- The state a program leaves, however it ends. -/
def final (x : Program ε σ α) (s : σ) : σ :=
  match x s with
  | .ok _ s' => s'
  | .error _ s' => s'

/-- The value or the error a program ends with. -/
def result (x : Program ε σ α) (s : σ) : Except ε α :=
  match x s with
  | .ok a _ => .ok a
  | .error e _ => .error e

/-- A computation that does not touch the state. -/
@[irreducible] def lift (wrap : ε' → ε) (x : Except ε' α) : Program ε σ α := fun s =>
  match x with
  | .ok a => .ok a s
  | .error e => .error (wrap e) s

/-- Run a program on a part of the state. -/
def zoom (get : τ → σ) (set : σ → τ → τ) (wrap : ε → ε') (x : Program ε σ α) :
    Program ε' τ α := fun t =>
  match x (get t) with
  | .ok a s => .ok a (set s t)
  | .error e s => .error (wrap e) (set s t)

/-- Run a program, and change the state once more if it fails. -/
def onError (change : σ → σ) (x : Program ε σ α) : Program ε σ α := fun s =>
  match x s with
  | .ok a s' => .ok a s'
  | .error e s' => .error e (change s')

/-- Run a program and look at how it ended. -/
def attempt (x : Program ε σ α) : Program ε σ (Except ε α) := fun s =>
  match x s with
  | .ok a s' => .ok (.ok a) s'
  | .error e s' => .ok (.error e) s'

/-- Run a program for what it does. -/
def forget (x : Program ε σ α) : Program ε σ Unit := x >>= fun _ => pure ()

/-- Run a program so many times. -/
def times (x : Program ε σ Unit) : Nat → Program ε σ Unit
  | 0 => pure ()
  | n + 1 => x >>= fun _ => times x n

/-! How the constructs run. -/

theorem run_bind (x : Program ε σ α) (f : α → Program ε σ β) (s : σ) :
    (x >>= f) s = match x s with
      | .ok a s' => f a s'
      | .error e s' => .error e s' := rfl

theorem run_pure (a : α) (s : σ) : (pure a : Program ε σ α) s = .ok a s := rfl

theorem run_throw (e : ε) (s : σ) : (throw e : Program ε σ α) s = .error e s := rfl

theorem run_get (s : σ) : (get : Program ε σ σ) s = .ok s s := rfl

theorem run_ite (c : Prop) [Decidable c] (x y : Program ε σ α) (s : σ) :
    (if c then x else y) s = if c then x s else y s := by
  split <;> rfl

end Program

open Program

/-! ## Triples -/

/-- Started in `P`, the program ends with a value in `Q` or with an error in `E`. -/
def Triple (P : σ → Prop) (x : Program ε σ α) (Q : α → σ → Prop) (E : ε → σ → Prop) : Prop :=
  ∀ s, P s → match x s with
    | .ok a s' => Q a s'
    | .error e s' => E e s'

variable {c : Prop}

variable {s : σ} {a : α} {e : ε} {f : α → Program ε σ β} {wrap : ε' → ε} {y : Except ε' α}
  {change : σ → σ}

section

variable {P P' : σ → Prop} {Q Q' : α → σ → Prop} {E E' : ε → σ → Prop} {x : Program ε σ α}

variable {s' : σ}

theorem Triple.ok (h : Triple P x Q E) (hs : P s) (hx : x s = .ok a s') :
    Q a s' := by
  have := h s hs
  rwa [hx] at this

theorem Triple.error (h : Triple P x Q E) (hs : P s)
    (hx : x s = .error e s') : E e s' := by
  have := h s hs
  rwa [hx] at this

theorem Triple.pure (h : ∀ s, P s → Q a s) : Triple P (pure a : Program ε σ α) Q E := h

theorem Triple.throw (h : ∀ s, P s → E e s) :
    Triple P (throw e : Program ε σ α) Q E := h

theorem Triple.bind {R : α → σ → Prop} {Q : β → σ → Prop}
    (hx : Triple P x R E) (hf : ∀ a, Triple (R a) (f a) Q E) : Triple P (x >>= f) Q E := by
  intro s hs
  have := hx s hs
  show match EStateM.bind x f s with
    | .ok a s' => Q a s'
    | .error e s' => E e s'
  rw [EStateM.bind]
  cases hrun : x s with
  | ok a s' =>
    rw [hrun] at this
    exact hf a s' this
  | error e s' =>
    rw [hrun] at this
    exact this

theorem Triple.get {Q : σ → σ → Prop} (h : ∀ s, P s → Q s s) :
    Triple P (get : Program ε σ σ) Q E := h

theorem Triple.modify {Q : Unit → σ → Prop} {f : σ → σ} (h : ∀ s, P s → Q () (f s)) :
    Triple P (modify f : Program ε σ Unit) Q E := h

theorem Triple.weaken (h : Triple P x Q E) (hP : ∀ s, P' s → P s)
    (hQ : ∀ a s, Q a s → Q' a s) (hE : ∀ e s, E e s → E' e s) : Triple P' x Q' E' := by
  intro s hs
  have := h s (hP s hs)
  cases hrun : x s with
  | ok a s' =>
    rw [hrun] at this
    exact hQ a s' this
  | error e s' =>
    rw [hrun] at this
    exact hE e s' this

theorem Triple.pre (h : Triple P x Q E) (hP : ∀ s, P' s → P s) : Triple P' x Q E :=
  h.weaken hP (fun _ _ hq => hq) fun _ _ he => he

theorem Triple.post (h : Triple P x Q E) (hQ : ∀ a s, Q a s → Q' a s) : Triple P x Q' E :=
  h.weaken (fun _ hp => hp) hQ fun _ _ he => he

theorem Triple.fail (h : Triple P x Q E) (hE : ∀ e s, E e s → E' e s) : Triple P x Q E' :=
  h.weaken (fun _ hp => hp) (fun _ _ hq => hq) hE

theorem Triple.lift
    (hok : ∀ a, y = .ok a → ∀ s, P s → Q a s)
    (herror : ∀ e, y = .error e → ∀ s, P s → E (wrap e) s) :
    Triple P (lift wrap y : Program ε σ α) Q E := by
  intro s hs
  unfold Program.lift
  cases hy : y with
  | ok a => exact hok a hy s hs
  | error e => exact herror e hy s hs

theorem Triple.ite [Decidable c] {y} (hx : c → Triple P x Q E) (hy : ¬ c → Triple P y Q E) :
    Triple P (if c then x else y) Q E := by
  by_cases h : c
  · rw [if_pos h]
    exact hx h
  · rw [if_neg h]
    exact hy h

/-- Something done only in one case, and what comes after it in both. -/
theorem Triple.only [Decidable c] {R : σ → Prop} {y rest} (hdone : c → Triple P y (fun _ => R) E)
    (hskipped : ¬ c → ∀ s, P s → R s) (hrest : Triple R (rest ()) Q E) :
    Triple P (if c then y >>= rest else rest ()) Q E :=
  .ite (fun h => (hdone h).bind fun _ => hrest)
    fun h => hrest.pre (hskipped h)

/-- A fact that does not depend on the state may be taken out of the precondition. -/
theorem Triple.given (h : c → Triple P x Q E) : Triple (fun s => c ∧ P s) x Q E :=
  fun s hs => h hs.1 s hs.2

/-- What is computed on the way leaves the state alone, and is known afterwards. -/
theorem Triple.bind_lift
    {Q : β → σ → Prop} (herror : ∀ e, y = .error e → ∀ s, P s → E (wrap e) s)
    (hok : ∀ a, y = .ok a → Triple P (f a) Q E) : Triple P (Program.lift wrap y >>= f) Q E :=
  Triple.bind (R := fun a s => y = .ok a ∧ P s) (.lift (fun _ ha _ hs => ⟨ha, hs⟩) herror)
    fun a => .given (hok a)

/-- The state that is read is one the program may be in. -/
theorem Triple.bind_get {f} (h : ∀ read, P read → Triple P (f read) Q E) :
    Triple P (MonadState.get >>= f) Q E :=
  Triple.bind (R := fun read s => P read ∧ P s) (.get fun _ hs => ⟨hs, hs⟩)
    fun read => .given (h read)

/-- A part of the state that is read is known from then on. -/
theorem Triple.bind_part {γ : Type} {f} (part : σ → γ)
    (h : ∀ read, Triple (fun s => P s ∧ part s = part read) (f read) Q E) :
    Triple P (MonadState.get >>= f) Q E :=
  Triple.bind (R := fun read s => P s ∧ part s = part read) (.get fun _ hs => ⟨hs, rfl⟩) h

theorem Triple.bind_read {f} (h : ∀ read, P read → Triple (· = read) (f read) Q E) :
    Triple P (MonadState.get >>= f) Q E :=
  Triple.bind (R := fun read s => P read ∧ s = read) (.get fun _ hs => ⟨hs, rfl⟩)
    fun read => .given (h read)

theorem Triple.bind_throw {f} (h : ∀ s, P s → E e s) :
    Triple P ((MonadExcept.throw e : Program ε σ β) >>= f) Q E :=
  Triple.bind (R := fun _ _ => False) (.throw h) fun _ _ hfalse => hfalse.elim

theorem Triple.onError (h : Triple P x Q fun e s => E e (change s)) :
    Triple P (Program.onError change x) Q E := by
  intro s hs
  have := h s hs
  rw [Program.onError]
  cases hrun : x s with
  | ok a s' | error e s' =>
    rw [hrun] at this
    exact this

theorem Triple.zoom {get : τ → σ} {set wrap} {P : τ → Prop} {Q : α → τ → Prop} {E : ε' → τ → Prop}
    (h : ∀ t, P t → Triple (· = get t) x (fun a s => Q a (set s t))
      fun e s => E (wrap e) (set s t)) :
    Triple P (Program.zoom get set wrap x) Q E := by
  intro t ht
  have := h t ht (get t) rfl
  rw [Program.zoom]
  cases hrun : x (get t) with
  | ok a s' | error e s' =>
    rw [hrun] at this
    exact this

end

/-! ## Frames -/

/-- The program starts and ends in `P`, however it ends. -/
abbrev Keeps (P : σ → Prop) (x : Program ε σ α) : Prop := Triple P x (fun _ => P) fun _ => P

section

variable {P : σ → Prop} {x : Program ε σ α}

theorem Keeps.final (h : Keeps P x) (hs : P s) : P (x.final s) := by
  have := h s hs
  rw [Program.final]
  cases hrun : x s with
  | ok a s' | error e s' =>
    rw [hrun] at this
    exact this

theorem Keeps.bind (hx : Keeps P x) (hf : ∀ a, Keeps P (f a)) :
    Keeps P (x >>= f) := Triple.bind hx hf

theorem Keeps.pure : Keeps P (pure a : Program ε σ α) := fun _ hs => hs

theorem Keeps.throw : Keeps P (throw e : Program ε σ α) := fun _ hs => hs

theorem Keeps.get : Keeps P (get : Program ε σ σ) := fun _ hs => hs

theorem Keeps.modify {f : σ → σ} (h : ∀ s, P s → P (f s)) :
    Keeps P (modify f : Program ε σ Unit) := h

theorem Keeps.lift : Keeps P (lift wrap y : Program ε σ α) :=
  Triple.lift (fun _ _ _ hs => hs) fun _ _ _ hs => hs

theorem Keeps.ite [Decidable c] {y} (hx : Keeps P x) (hy : Keeps P y) :
    Keeps P (if c then x else y) :=
  Triple.ite (fun _ => hx) fun _ => hy

/-- A guard that stops the program, and what comes after it. -/
theorem Keeps.unless [Decidable c] {f : Unit → Program ε σ α}
    (h : Keeps P (f ())) :
    Keeps P (if c then (MonadExcept.throw e : Program ε σ Unit) >>= f else f ()) :=
  .ite (Keeps.throw.bind fun _ => h) h

theorem Keeps.forget (h : Keeps P x) : Keeps P (forget x) := h.bind fun _ => .pure

theorem Keeps.times {x : Program ε σ Unit} (h : Keeps P x) (n : Nat) : Keeps P (times x n) := by
  induction n with
  | zero => exact Keeps.pure
  | succ n ih => exact h.bind fun _ => ih

theorem Keeps.onError (h : Keeps P x) (hchange : ∀ s, P s → P (change s)) :
    Keeps P (onError change x) :=
  Triple.onError (h.fail fun _ s hs => hchange s hs)

theorem Triple.attempt {Q : α → σ → Prop} {E : ε → σ → Prop} (h : Triple P x Q E) :
    Triple P (attempt x) (fun r s => match r with | .ok a => Q a s | .error e => E e s)
      fun _ _ => False := by
  intro s hs
  have := h s hs
  rw [Program.attempt]
  cases hrun : x s with
  | ok a s' | error e s' =>
    rw [hrun] at this
    exact this

end

end Lib
