import Mathlib

/-!
# Fallible computations, read backwards

A validation routine is a chain of guards: each either stops the computation with its own
error or lets it go on. Proofs about such a chain run in one direction, from *it returned
a value* to *every guard passed*, so this file gives the two guard shapes names and states,
for each, the equation that reads a successful run backwards.

`rejectIf` keeps the polarity of an early return (the condition under which the routine
fails), because that is how the guards are written at the place they are copied from.
-/

namespace Lib

universe u

variable {ε α β : Type u}

/-- Stop with `e` when the condition holds. -/
def rejectIf {ε : Type*} (c : Prop) [Decidable c] (e : ε) : Except ε Unit :=
  if c then .error e else .ok ()

/-- The value of an option, or stop with `e`. -/
def demand {ε α : Type*} (o : Option α) (e : ε) : Except ε α :=
  match o with
  | some a => .ok a
  | none => .error e

/-- Run a check over every element of a list, stopping at the first failure. -/
def checkAll {ε α : Type} (check : α → Except ε Unit) : List α → Except ε Unit
  | [] => .ok ()
  | a :: rest => check a >>= fun _ => checkAll check rest

/-- Run a check over a list, each element in the light of those before it: the shape of a loop
    that collects what it has seen. -/
def checkEach {ε α : Type} (check : (earlier : List α) → α → Except ε Unit)
    (earlier : List α) : List α → Except ε Unit
  | [] => .ok ()
  | a :: rest => check earlier a >>= fun _ => checkEach check (earlier ++ [a]) rest

/-- Run a check over every pair of a list, the earlier element first. -/
def checkPairs {ε α : Type} (check : α → α → Except ε Unit) : List α → Except ε Unit
  | [] => .ok ()
  | a :: rest => checkAll (check a) rest >>= fun _ => checkPairs check rest

/-- Run a check over every two neighbours of a list, the earlier element first. -/
def checkWindows {ε α : Type} (check : α → α → Except ε Unit) : List α → Except ε Unit
  | a :: b :: rest => check a b >>= fun _ => checkWindows check (b :: rest)
  | _ => .ok ()

/-- A computation returns one value. -/
theorem ok_unique {ε α : Type*} {x : Except ε α} {a b : α} (ha : x = .ok a) (hb : x = .ok b) :
    a = b :=
  Except.ok.inj (ha.symm.trans hb)

@[simp] theorem rejectIf_eq_ok {ε : Type*} {c : Prop} [Decidable c] {e : ε} {u : Unit} :
    rejectIf c e = .ok u ↔ ¬ c := by
  unfold rejectIf
  split <;> simp_all

@[simp] theorem rejectIf_eq_error {ε : Type*} {c : Prop} [Decidable c] {e e' : ε} :
    rejectIf c e = .error e' ↔ c ∧ e = e' := by
  unfold rejectIf
  split <;> simp_all

@[simp] theorem demand_eq_ok {ε α : Type*} {o : Option α} {e : ε} {a : α} :
    demand o e = .ok a ↔ o = some a := by
  cases o <;> simp [demand]

@[simp] theorem demand_some {ε α : Type*} {e : ε} {a : α} :
    demand (some a) e = .ok a := rfl

@[simp] theorem bind_eq_ok {x : Except ε α} {f : α → Except ε β} {b : β} :
    (x >>= f) = .ok b ↔ ∃ a, x = .ok a ∧ f a = .ok b := by
  cases x with
  | error e | ok a => simp [bind, Except.bind]

@[simp] theorem pure_eq_ok {a b : α} :
    (pure a : Except ε α) = .ok b ↔ a = b := by
  simp [pure, Except.pure]

@[simp] theorem map_eq_ok {x : Except ε α} {f : α → β} {b : β} :
    f <$> x = .ok b ↔ ∃ a, x = .ok a ∧ f a = b := by
  cases x <;> simp [Functor.map, Except.map]

@[simp] theorem mapError_eq_ok {ε ε' α : Type*} {x : Except ε α} {f : ε → ε'} {a : α} :
    x.mapError f = .ok a ↔ x = .ok a := by
  cases x <;> simp [Except.mapError]

@[simp] theorem checkAll_eq_ok {ε α : Type} {check : α → Except ε Unit} {l : List α} {u : Unit} :
    checkAll check l = .ok u ↔ ∀ a ∈ l, check a = .ok () := by
  induction l with
  | nil => simp [checkAll]
  | cons a rest ih =>
    simp only [checkAll, bind_eq_ok, List.forall_mem_cons, ih]
    exact ⟨fun ⟨_, h, hr⟩ => ⟨h, hr⟩, fun ⟨h, hr⟩ => ⟨(), h, hr⟩⟩

@[simp] theorem checkPairs_eq_ok {ε α : Type} {check : α → α → Except ε Unit} {l : List α}
    {u : Unit} : checkPairs check l = .ok u ↔ l.Pairwise fun a b => check a b = .ok () := by
  induction l with
  | nil => simp [checkPairs]
  | cons a rest ih =>
    simp only [checkPairs, bind_eq_ok, checkAll_eq_ok, List.pairwise_cons, ih]
    exact ⟨fun ⟨_, h, hr⟩ => ⟨h, hr⟩, fun ⟨h, hr⟩ => ⟨(), h, hr⟩⟩

@[simp] theorem checkWindows_eq_ok {ε α : Type} {check : α → α → Except ε Unit} {l : List α}
    {u : Unit} : checkWindows check l = .ok u ↔ l.IsChain fun a b => check a b = .ok () := by
  induction l with
  | nil => simp [checkWindows]
  | cons a rest ih =>
    cases rest with
    | nil => simp [checkWindows]
    | cons b rest =>
      simp only [checkWindows, bind_eq_ok, List.isChain_cons_cons, ih]
      exact ⟨fun ⟨_, h, hr⟩ => ⟨h, hr⟩, fun ⟨h, hr⟩ => ⟨(), h, hr⟩⟩

/-- The loop accepts when each element passes in the light of those before it. -/
theorem checkEach_eq_ok_iff_split {ε α : Type} {check : List α → α → Except ε Unit}
    {earlier l : List α} {u : Unit} :
    checkEach check earlier l = .ok u ↔
      ∀ before a after, l = before ++ a :: after → check (earlier ++ before) a = .ok () := by
  induction l generalizing earlier with
  | nil => simp [checkEach]
  | cons a rest ih =>
    rw [checkEach, bind_eq_ok]
    constructor
    · rintro ⟨⟨⟩, ha, hrest⟩ before b after heq
      cases before with
      | nil =>
        obtain ⟨rfl, rfl⟩ := List.cons.inj heq
        simpa using ha
      | cons c before =>
        obtain ⟨rfl, rfl⟩ := List.cons.inj heq
        simpa using ih.mp hrest before b after rfl
    · intro h
      refine ⟨(), by simpa using h [] a rest rfl, ih.mpr fun before b after heq => ?_⟩
      simpa using h (a :: before) b after (by rw [heq, List.cons_append])

/-- The loop over a list with one more element is the loop, and then a check of it. -/
theorem checkEach_concat {ε α : Type} {check : List α → α → Except ε Unit} {l : List α} {a : α}
    {u : Unit} : checkEach check [] (l ++ [a]) = .ok u ↔
      checkEach check [] l = .ok () ∧ check l a = .ok () := by
  have hloop : ∀ earlier, checkEach check earlier (l ++ [a]) = .ok u ↔
      checkEach check earlier l = .ok () ∧ check (earlier ++ l) a = .ok () := by
    induction l with
    | nil =>
      intro earlier
      simp only [List.nil_append, checkEach, bind_eq_ok, List.append_nil, true_and]
      exact ⟨fun ⟨_, h, _⟩ => h, fun h => ⟨(), h, trivial⟩⟩
    | cons b rest ih =>
      intro earlier
      simp only [List.cons_append, checkEach, bind_eq_ok, ih, List.append_assoc, List.nil_append]
      exact ⟨fun ⟨_, hb, hrest, ha⟩ => ⟨⟨(), hb, hrest⟩, ha⟩,
        fun ⟨⟨_, hb, hrest⟩, ha⟩ => ⟨(), hb, hrest, ha⟩⟩
  simpa using hloop []

/-- Where a check is a condition on the element and a relation to each element before it, the
    loop accepts when all conditions hold and the relation holds of every earlier and later
    pair. -/
theorem checkEach_eq_ok {ε α : Type} {check : List α → α → Except ε Unit} {P : α → Prop}
    {R : α → α → Prop}
    (hcheck : ∀ earlier a, check earlier a = .ok () ↔ P a ∧ ∀ b ∈ earlier, R b a)
    {earlier l : List α} {u : Unit} :
    checkEach check earlier l = .ok u ↔
      (∀ a ∈ l, P a) ∧ l.Pairwise R ∧ ∀ b ∈ earlier, ∀ a ∈ l, R b a := by
  induction l generalizing earlier with
  | nil => simp [checkEach]
  | cons a rest ih =>
    rw [checkEach, bind_eq_ok]
    constructor
    · rintro ⟨⟨⟩, ha, hrest⟩
      obtain ⟨hP, hR⟩ := (hcheck earlier a).mp ha
      obtain ⟨hPs, hpair, hRs⟩ := ih.mp hrest
      refine ⟨List.forall_mem_cons.mpr ⟨hP, hPs⟩, List.pairwise_cons.mpr ⟨?_, hpair⟩, ?_⟩
      · intro c hc
        exact hRs a (by simp) c hc
      · intro b hb
        exact List.forall_mem_cons.mpr ⟨hR b hb, hRs b (by simp [hb])⟩
    · rintro ⟨hP, hpair, hR⟩
      rw [List.pairwise_cons] at hpair
      refine ⟨(), (hcheck earlier a).mpr ⟨hP a (by simp), fun b hb => hR b hb a (by simp)⟩,
        ih.mpr ⟨fun c hc => hP c (by simp [hc]), hpair.2, ?_⟩⟩
      intro b hb c hc
      rcases List.mem_append.mp hb with hb | hb
      · exact hR b hb c (by simp [hc])
      · rw [List.mem_singleton.mp hb]
        exact hpair.1 c hc

@[simp] theorem ite_eq_ok {ε α : Type*} {c : Prop} [Decidable c] {x y : Except ε α} {a : α} :
    (if c then x else y) = .ok a ↔ (c ∧ x = .ok a) ∨ (¬ c ∧ y = .ok a) := by
  by_cases h : c <;> simp [h]

/-- What a computation that can be evaluated is seen to return. -/
theorem exists_ok_of_any {ε α : Type*} {x : Except ε α} {p} (h : x.toOption.any p = true) :
    ∃ a, x = .ok a ∧ p a = true := by
  cases x with
  | error e => cases h
  | ok a => exact ⟨a, rfl, h⟩

/-! ## Failures

The same shapes read from a failure: where it can have come from. -/

@[simp] theorem bind_eq_error {x : Except ε α} {f : α → Except ε β} {e : ε} :
    (x >>= f) = .error e ↔ x = .error e ∨ ∃ a, x = .ok a ∧ f a = .error e := by
  cases x with
  | error e | ok a => simp [bind, Except.bind]

@[simp] theorem pure_eq_error {a : α} {e : ε} : (pure a : Except ε α) = .error e ↔ False := by
  simp [pure, Except.pure]

@[simp] theorem demand_eq_error {ε α : Type*} {o : Option α} {e e' : ε} :
    demand o e = .error e' ↔ o = none ∧ e = e' := by
  cases o <;> simp [demand]

@[simp] theorem mapError_eq_error {ε ε' α : Type*} {x : Except ε α} {f} {e' : ε'} :
    x.mapError f = .error e' ↔ ∃ e, x = .error e ∧ f e = e' := by
  cases x <;> simp [Except.mapError]

@[simp] theorem ite_eq_error {ε α : Type*} {c : Prop} [Decidable c] {x y : Except ε α} {e : ε} :
    (if c then x else y) = .error e ↔ (c ∧ x = .error e) ∨ (¬ c ∧ y = .error e) := by
  by_cases h : c <;> simp [h]

/-- A loop over a list fails with what a check of one of its elements fails with. -/
theorem checkAll_eq_error {ε α : Type} {check : α → Except ε Unit} {l : List α} {e : ε}
    (h : checkAll check l = .error e) : ∃ a ∈ l, check a = .error e := by
  induction l with
  | nil => cases h
  | cons a rest ih =>
    rw [checkAll, bind_eq_error] at h
    rcases h with ha | ⟨-, -, hrest⟩
    · exact ⟨a, List.mem_cons_self, ha⟩
    · obtain ⟨b, hb, hcheck⟩ := ih hrest
      exact ⟨b, List.mem_cons_of_mem _ hb, hcheck⟩

theorem checkEach_eq_error {ε α : Type} {check : List α → α → Except ε Unit}
    {earlier l : List α} {e : ε} (h : checkEach check earlier l = .error e) :
    ∃ before, ∃ a ∈ l, check before a = .error e := by
  induction l generalizing earlier with
  | nil => cases h
  | cons a rest ih =>
    rw [checkEach, bind_eq_error] at h
    rcases h with ha | ⟨-, -, hrest⟩
    · exact ⟨earlier, a, List.mem_cons_self, ha⟩
    · obtain ⟨before, b, hb, hcheck⟩ := ih hrest
      exact ⟨before, b, List.mem_cons_of_mem _ hb, hcheck⟩

theorem foldlM_eq_error {step : β → α → Except ε β} {b : β} {l : List α} {e : ε}
    (h : l.foldlM step b = .error e) : ∃ b', ∃ a ∈ l, step b' a = .error e := by
  induction l generalizing b with
  | nil => cases h
  | cons a rest ih =>
    rw [List.foldlM_cons, bind_eq_error] at h
    rcases h with ha | ⟨_, -, hrest⟩
    · exact ⟨b, a, List.mem_cons_self, ha⟩
    · obtain ⟨b', c, hc, hstep⟩ := ih hrest
      exact ⟨b', c, List.mem_cons_of_mem _ hc, hstep⟩

/-- Whatever the computation fails with has the property. -/
def FailsOnly {ε α : Type} (P : ε → Prop) (x : Except ε α) : Prop := ∀ e, x = .error e → P e

namespace FailsOnly

variable {ε α β : Type} {P : ε → Prop} {e : ε}

theorem bind {x : Except ε α} {f : α → Except ε β} (hx : FailsOnly P x)
    (hf : ∀ a, x = .ok a → FailsOnly P (f a)) : FailsOnly P (x >>= f) := by
  intro e he
  rcases bind_eq_error.mp he with h | ⟨a, ha, h⟩
  · exact hx e h
  · exact hf a ha e h

theorem pure (a : α) : FailsOnly P (Pure.pure a : Except ε α) := by
  intro e he
  cases he

theorem demand {o : Option α} (h : P e) : FailsOnly P (Lib.demand o e) := by
  intro e' he
  rw [demand_eq_error] at he
  exact he.2 ▸ h

theorem rejectIf {c : Prop} [Decidable c] (h : P e) : FailsOnly P (Lib.rejectIf c e) := by
  intro e' he
  rw [rejectIf_eq_error] at he
  exact he.2 ▸ h

theorem checkAll {check} {l : List α} (h : ∀ a ∈ l, FailsOnly P (check a)) :
    FailsOnly P (Lib.checkAll check l) := by
  intro e he
  obtain ⟨a, ha, hcheck⟩ := checkAll_eq_error he
  exact h a ha e hcheck

theorem checkEach {check : List α → α → Except ε Unit} {earlier l : List α}
    (h : ∀ before, ∀ a ∈ l, FailsOnly P (check before a)) :
    FailsOnly P (Lib.checkEach check earlier l) := by
  intro e he
  obtain ⟨before, a, ha, hcheck⟩ := checkEach_eq_error he
  exact h before a ha e hcheck

theorem checkPairs {check} {l : List α} (h : ∀ a ∈ l, ∀ b ∈ l, FailsOnly P (check a b)) :
    FailsOnly P (Lib.checkPairs check l) := by
  induction l with
  | nil => exact .pure ()
  | cons a rest ih =>
    refine .bind (.checkAll fun b hb => ?_) fun _ _ => ih fun b hb c hc => ?_
    · exact h a List.mem_cons_self b (List.mem_cons_of_mem _ hb)
    · exact h b (List.mem_cons_of_mem _ hb) c (List.mem_cons_of_mem _ hc)

end FailsOnly

/-- A list is mapped when each of its elements is. -/
theorem mapM_eq_ok_iff_forall₂ {f : α → Except ε β} {l : List α} {l' : List β} :
    l.mapM f = .ok l' ↔ List.Forall₂ (fun a b => f a = .ok b) l l' := by
  induction l generalizing l' with
  | nil =>
    rw [List.mapM_nil, pure_eq_ok, List.forall₂_nil_left_iff, eq_comm]
  | cons a rest ih =>
    rw [List.mapM_cons, List.forall₂_cons_left_iff]
    simp only [bind_eq_ok, pure_eq_ok, ih]
    constructor
    · rintro ⟨b, hb, bs, hbs, rfl⟩
      exact ⟨b, bs, hb, hbs, rfl⟩
    · rintro ⟨b, bs, hb, hbs, rfl⟩
      exact ⟨b, hb, bs, hbs, rfl⟩

theorem exists_of_mem_mapM {f : α → Except ε β} {l : List α} {l' : List β}
    (h : l.mapM f = .ok l') : ∀ b ∈ l', ∃ a ∈ l, f a = .ok b := by
  induction mapM_eq_ok_iff_forall₂.mp h with
  | nil => intro b hb; cases hb
  | cons hhead htail ih =>
    intro b hb
    rcases List.mem_cons.mp hb with rfl | hb
    · exact ⟨_, List.mem_cons_self, hhead⟩
    · obtain ⟨a, ha, hf⟩ := ih (mapM_eq_ok_iff_forall₂.mpr htail) b hb
      exact ⟨a, List.mem_cons_of_mem _ ha, hf⟩

theorem exists_mem_mapM {f : α → Except ε β} {l : List α} {l' : List β}
    (h : l.mapM f = .ok l') : ∀ a ∈ l, ∃ b ∈ l', f a = .ok b := by
  induction mapM_eq_ok_iff_forall₂.mp h with
  | nil => intro a ha; cases ha
  | cons hhead htail ih =>
    intro a ha
    rcases List.mem_cons.mp ha with rfl | ha
    · exact ⟨_, List.mem_cons_self, hhead⟩
    · obtain ⟨b, hb, hf⟩ := ih (mapM_eq_ok_iff_forall₂.mpr htail) a ha
      exact ⟨b, List.mem_cons_of_mem _ hb, hf⟩

theorem mapM_eq_error {f : α → Except ε β} {l : List α} {e : ε}
    (h : l.mapM f = .error e) : ∃ a ∈ l, f a = .error e := by
  induction l with
  | nil => cases h
  | cons a rest ih =>
    rw [List.mapM_cons, bind_eq_error] at h
    rcases h with ha | ⟨_, -, hrest⟩
    · exact ⟨a, List.mem_cons_self, ha⟩
    · simp only [bind_eq_error, pure_eq_error, and_false, exists_false, or_false] at hrest
      obtain ⟨b, hb, hf⟩ := ih hrest
      exact ⟨b, List.mem_cons_of_mem _ hb, hf⟩

end Lib
