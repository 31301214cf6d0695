import Verse.Lib.Result

/-!
# Runs of a fallible step

A service that accepts or refuses one request at a time is a step
`σ → ι → Except ε σ`, and its life is `runAll`: a list of requests, each accepted in turn.

Two things are said about a run. `Throughout P` is about its *states*, the first and every
later one; `Along C` is about its *steps*, a condition on each request and the state it
meets. The rules below are the only inductions over runs: an invariant lifts to every state
(`throughout_of_preserved`), a relation that is reflexive and transitive lifts from one step
to the run (`relates_of_step`), and where one condition on a step decides whether the next
state is good, the same condition along the run decides whether all of them are
(`throughout_iff_along`).
-/

namespace Lib

variable {σ ι ε : Type}

/-- The state a list of requests leads to, each of them accepted. -/
def runAll (step : σ → ι → Except ε σ) (s : σ) : List ι → Except ε σ
  | [] => .ok s
  | i :: rest => step s i >>= fun s' => runAll step s' rest

/-- Every state the run visits, the first one included, satisfies `P`. -/
def Throughout (step : σ → ι → Except ε σ) (P : σ → Prop) (s : σ) : List ι → Prop
  | [] => P s
  | i :: rest => P s ∧ ∀ s', step s i = .ok s' → Throughout step P s' rest

/-- Every request of the run meets a state at which `C` holds of the two. -/
def Along (step : σ → ι → Except ε σ) (C : σ → ι → Prop) (s : σ) : List ι → Prop
  | [] => True
  | i :: rest => C s i ∧ ∀ s', step s i = .ok s' → Along step C s' rest

variable {step : σ → ι → Except ε σ} {s s' : σ} {is js : List ι}

@[simp] theorem runAll_nil : runAll step s [] = .ok s := rfl

theorem runAll_cons_eq_ok {i : ι} :
    runAll step s (i :: is) = .ok s' ↔ ∃ m, step s i = .ok m ∧ runAll step m is = .ok s' := by
  simp [runAll]

theorem runAll_append_eq_ok :
    runAll step s (is ++ js) = .ok s' ↔
      ∃ m, runAll step s is = .ok m ∧ runAll step m js = .ok s' := by
  induction is generalizing s with
  | nil => simp
  | cons i rest ih =>
    simp only [List.cons_append, runAll_cons_eq_ok, ih]
    constructor
    · rintro ⟨m, hm, n, hn, hj⟩; exact ⟨n, ⟨m, hm, hn⟩, hj⟩
    · rintro ⟨n, ⟨m, hm, hn⟩, hj⟩; exact ⟨m, hm, n, hn, hj⟩

/-- A step that accepts every request. -/
theorem runAll_total (f : σ → ι → σ) (s : σ) (is : List ι) :
    runAll (fun s i => (.ok (f s i) : Except ε σ)) s is = .ok (is.foldl f s) := by
  induction is generalizing s with
  | nil => rfl
  | cons i rest ih => exact ih (f s i)

variable {P : σ → Prop}

theorem Throughout.head (h : Throughout step P s is) : P s := by
  cases is with
  | nil => exact h
  | cons i rest => exact h.1

theorem Throughout.last (h : Throughout step P s is)
    (hrun : runAll step s is = .ok s') : P s' := by
  induction is generalizing s with
  | nil => obtain rfl : s = s' := by simpa using hrun
           exact h
  | cons i rest ih =>
    obtain ⟨m, hm, hr⟩ := runAll_cons_eq_ok.mp hrun
    exact ih (h.2 m hm) hr

theorem throughout_of_preserved (hstep : ∀ {s i s'}, P s → step s i = .ok s' → P s') (h : P s) :
    Throughout step P s is := by
  induction is generalizing s with
  | nil => exact h
  | cons i rest ih => exact ⟨h, fun s' hs => ih (hstep h hs)⟩

variable {C : σ → ι → Prop}

theorem along_of_preserved
    (hstep : ∀ {s i s'}, P s → step s i = .ok s' → P s') (hC : ∀ {s i}, P s → C s i)
    (h : P s) : Along step C s is := by
  induction is generalizing s with
  | nil => trivial
  | cons i rest ih => exact ⟨hC h, fun s' hs => ih (hstep h hs)⟩

theorem preserved_of_run (hstep : ∀ {s i s'}, P s → step s i = .ok s' → P s') (h : P s)
    (hrun : runAll step s is = .ok s') : P s' :=
  (throughout_of_preserved hstep h).last hrun

variable {G G' : σ → Prop}

/-- Two properties that an invariant makes equivalent hold together throughout a run. -/
theorem throughout_congr
    (hP : ∀ {s i s'}, P s → step s i = .ok s' → P s') (hG : ∀ {s}, P s → (G s ↔ G' s))
    (h : P s) : Throughout step G s is ↔ Throughout step G' s is := by
  induction is generalizing s with
  | nil => exact hG h
  | cons i rest ih =>
    constructor
    · intro ht
      exact ⟨(hG h).mp ht.1, fun s' hs => (ih (hP h hs)).mp (ht.2 s' hs)⟩
    · intro ht
      exact ⟨(hG h).mpr ht.1, fun s' hs => (ih (hP h hs)).mpr (ht.2 s' hs)⟩

theorem throughout_and :
    Throughout step (fun s => G s ∧ G' s) s is ↔
      Throughout step G s is ∧ Throughout step G' s is := by
  induction is generalizing s with
  | nil => exact Iff.rfl
  | cons i rest ih =>
    constructor
    · intro ht
      exact ⟨⟨ht.1.1, fun s' hs => (ih.mp (ht.2 s' hs)).1⟩,
        ⟨ht.1.2, fun s' hs => (ih.mp (ht.2 s' hs)).2⟩⟩
    · intro ht
      obtain ⟨⟨hg, hrest⟩, ⟨hg', hrest'⟩⟩ := ht
      exact ⟨⟨hg, hg'⟩, fun s' hs => ih.mpr ⟨hrest s' hs, hrest' s' hs⟩⟩

variable {R : σ → σ → Prop}

/-- A reflexive and transitive relation between the two ends of a step, which may use an
    invariant at its beginning, relates the two ends of a run. -/
theorem relates_of_members
    (hP : ∀ {s i s'}, P s → step s i = .ok s' → P s')
    (hR : ∀ {s i s'}, i ∈ is → P s → step s i = .ok s' → R s s')
    (hrefl : ∀ s, R s s) (htrans : ∀ {a b c}, R a b → R b c → R a c)
    (h : P s) (hrun : runAll step s is = .ok s') : R s s' := by
  induction is generalizing s with
  | nil => obtain rfl : s = s' := by simpa using hrun
           exact hrefl s
  | cons i rest ih =>
    obtain ⟨m, hm, hr⟩ := runAll_cons_eq_ok.mp hrun
    have hrest : ∀ {s j s'}, j ∈ rest → P s → step s j = .ok s' → R s s' :=
      fun hj => hR (List.mem_cons_of_mem _ hj)
    exact htrans (hR List.mem_cons_self h hm) (ih hrest (hP h hm) hr)

theorem relates_of_step
    (hP : ∀ {s i s'}, P s → step s i = .ok s' → P s')
    (hR : ∀ {s i s'}, P s → step s i = .ok s' → R s s')
    (hrefl : ∀ s, R s s) (htrans : ∀ {a b c}, R a b → R b c → R a c)
    (h : P s) (hrun : runAll step s is = .ok s') : R s s' :=
  relates_of_members hP (fun _ => hR) hrefl htrans h hrun

/-- Where `C` at an accepted step of the run decides whether the state it leads to satisfies
    `G`, a run that begins in `G` stays in it exactly when `C` holds along it. -/
theorem throughout_iff_along
    (hP : ∀ {s i s'}, P s → G s → step s i = .ok s' → P s')
    (hC : ∀ {s i s'}, i ∈ is → P s → G s → step s i = .ok s' → (G s' ↔ C s i))
    (h : P s) (hg : G s) (hrun : runAll step s is = .ok s') :
    Throughout step G s is ↔ Along step C s is := by
  induction is generalizing s with
  | nil => exact ⟨fun _ => trivial, fun _ => hg⟩
  | cons i rest ih =>
    obtain ⟨m, hm, hr⟩ := runAll_cons_eq_ok.mp hrun
    have hunique : ∀ {m'}, step s i = .ok m' → m' = m := fun h' =>
      ok_unique h' hm
    have hrest : ∀ {s j s'}, j ∈ rest → P s → G s → step s j = .ok s' → (G s' ↔ C s j) :=
      fun hj => hC (List.mem_cons_of_mem _ hj)
    have hfirst := hC List.mem_cons_self h hg hm
    constructor
    · rintro ⟨_, ht⟩
      have hgm : G m := (ht m hm).head
      refine ⟨hfirst.mp hgm, fun s' hs => ?_⟩
      obtain rfl := hunique hs
      exact (ih hrest (hP h hg hm) hgm hr).mp (ht s' hs)
    · rintro ⟨hc, ha⟩
      refine ⟨hg, fun s' hs => ?_⟩
      obtain rfl := hunique hs
      exact (ih hrest (hP h hg hm) (hfirst.mpr hc) hr).mpr (ha s' hs)

end Lib
