import Verse.Lib.Run

/-!
# Hash chains

A log is chained when every record it takes fixes the digest it met: two records that leave one
digest are the same record and have met the same digest, or they collide. A digest then tells
all that went before it. Two runs that end at one digest are the same records as far back as
both go (`ChainedLog.suffix`), and the same runs if they begin at a digest that is never come to
again (`ChainedLog.eq_of_runs`).

What it is to collide is a parameter: a collision is of two records and the states they were
taken in, and it is found in the runs, not somewhere.
-/

namespace Lib

variable {σ τ ι η ε ε' : Type}

/-- Two logs of the same records, under one digest. -/
def ChainedLog (step : σ → ι → Except ε σ) (step' : τ → ι → Except ε' τ) (digest : σ → η)
    (digest' : τ → η) (Collides : σ → ι → τ → ι → Prop) : Prop :=
  ∀ {s s' : σ} {t t' : τ} {i j : ι}, step s i = .ok s' → step' t j = .ok t' →
    digest s' = digest' t' → (i = j ∧ digest s = digest' t) ∨ Collides s i t j

variable {step : σ → ι → Except ε σ} {step' : τ → ι → Except ε' τ} {digest : σ → η}
  {digest' : τ → η} {Collides : σ → ι → τ → ι → Prop} {s s' : σ} {t t' : τ} {is js : List ι}

/-- Two runs come to records that collide, and go on alike. -/
def RunsCollide (step : σ → ι → Except ε σ) (step' : τ → ι → Except ε' τ)
    (Collides : σ → ι → τ → ι → Prop) (s : σ) (is : List ι) (t : τ) (js : List ι) : Prop :=
  ∃ before i before' j after m n, is = before ++ i :: after ∧ js = before' ++ j :: after
    ∧ runAll step s before = .ok m ∧ runAll step' t before' = .ok n ∧ Collides m i n j

theorem RunsCollide.concat (h : RunsCollide step step' Collides s is t js) (last : ι) :
    RunsCollide step step' Collides s (is ++ [last]) t (js ++ [last]) := by
  obtain ⟨before, i, before', j, after, m, n, rfl, rfl, hm, hn, hcollides⟩ := h
  refine ⟨before, i, before', j, after ++ [last], m, n, ?_, ?_, hm, hn, hcollides⟩
  · rw [List.append_assoc, List.cons_append]
  · rw [List.append_assoc, List.cons_append]

theorem RunsCollide.members {Collide : ι → ι → Prop}
    (h : RunsCollide step step' (fun _ i _ j => Collide i j) s is t js) :
    ∃ i ∈ is, ∃ j ∈ js, Collide i j := by
  obtain ⟨before, i, before', j, after, m, n, rfl, rfl, -, -, hcollide⟩ := h
  exact ⟨i, by simp, j, by simp, hcollide⟩

/-- What every record adds to a count, a run adds as often as it is long. -/
theorem count_of_run {count : σ → Nat}
    (hstep : ∀ {s i s'}, step s i = .ok s' → count s' = count s + 1)
    (hrun : runAll step s is = .ok s') : count s' = count s + is.length := by
  induction is generalizing s with
  | nil =>
    obtain rfl := Except.ok.inj hrun
    rfl
  | cons i rest ih =>
    obtain ⟨m, hm, hrest⟩ := runAll_cons_eq_ok.mp hrun
    rw [ih hrest, hstep hm, List.length_cons]
    omega

theorem runAll_concat_eq_ok {i : ι} :
    runAll step s (is ++ [i]) = .ok s' ↔ ∃ m, runAll step s is = .ok m ∧ step m i = .ok s' := by
  simp [runAll_append_eq_ok, runAll_cons_eq_ok]

/-- What every record leaves holds at the end of a run that takes any. -/
theorem last_of_run {P : σ → Prop} (hstep : ∀ {s i s'}, step s i = .ok s' → P s')
    (hsome : is ≠ []) (hrun : runAll step s is = .ok s') : P s' := by
  obtain ⟨before, last, rfl⟩ := (List.eq_nil_or_concat' is).resolve_left hsome
  obtain ⟨m, -, hlast⟩ := runAll_concat_eq_ok.mp hrun
  exact hstep hlast

theorem runAll_eq_foldlM : runAll step s is = is.foldlM step s := by
  induction is generalizing s with
  | nil => rfl
  | cons i rest ih => exact congrArg (step s i >>= ·) (funext fun _ => ih)

/-- Two runs that end at one digest: the shorter of them is the end of the longer. -/
theorem ChainedLog.suffix (h : ChainedLog step step' digest digest' Collides)
    (hs : runAll step s is = .ok s') (ht : runAll step' t js = .ok t')
    (hends : digest s' = digest' t') :
    (∃ before m, is = before ++ js ∧ runAll step s before = .ok m ∧ digest m = digest' t)
      ∨ (∃ before n, js = before ++ is ∧ runAll step' t before = .ok n ∧ digest s = digest' n)
      ∨ RunsCollide step step' Collides s is t js := by
  -- from the end, since the digest that is known is the last one
  induction is using List.reverseRecOn generalizing js s' t' with
  | nil =>
    obtain rfl := Except.ok.inj hs
    exact .inr (.inl ⟨js, t', (List.append_nil js).symm, ht, hends⟩)
  | append_singleton is i ih =>
    cases js using List.reverseRecOn with
    | nil =>
      obtain rfl := Except.ok.inj ht
      exact .inl ⟨is ++ [i], s', (List.append_nil _).symm, hs, hends⟩
    | append_singleton js j =>
      obtain ⟨m, hm, hi⟩ := runAll_concat_eq_ok.mp hs
      obtain ⟨n, hn, hj⟩ := runAll_concat_eq_ok.mp ht
      rcases h hi hj hends with ⟨rfl, hprior⟩ | hcollides
      · rcases ih hm hn hprior with ⟨before, m', rfl, hbefore⟩ | ⟨before, n', rfl, hbefore⟩ |
          hcollide
        · exact .inl ⟨before, m', List.append_assoc .., hbefore⟩
        · exact .inr (.inl ⟨before, n', List.append_assoc .., hbefore⟩)
        · exact .inr (.inr (hcollide.concat i))
      · exact .inr (.inr ⟨is, i, js, j, [], m, n, rfl, rfl, hm, hn, hcollides⟩)

/-- Two runs from a digest that no record leaves. -/
theorem ChainedLog.eq_of_runs {root : η} (h : ChainedLog step step' digest digest' Collides)
    (hroot : ∀ {s i s'}, step s i = .ok s' → digest s' ≠ root)
    (hroot' : ∀ {t j t'}, step' t j = .ok t' → digest' t' ≠ root)
    (hs : runAll step s is = .ok s') (ht : runAll step' t js = .ok t')
    (hbegins : digest s = root) (hbegins' : digest' t = root) (hends : digest s' = digest' t') :
    is = js ∨ RunsCollide step step' Collides s is t js := by
  rcases h.suffix hs ht hends with ⟨before, m, rfl, hm, hmet⟩ | ⟨before, n, rfl, hn, hmet⟩ |
    hcollide
  · have hnone : before = [] := by
      by_contra hsome
      exact last_of_run hroot hsome hm (hmet.trans hbegins')
    exact .inl (by rw [hnone, List.nil_append])
  · have hnone : before = [] := by
      by_contra hsome
      exact last_of_run hroot' hsome hn (hmet.symm.trans hbegins)
    exact .inl (by rw [hnone, List.nil_append])
  · exact .inr hcollide

end Lib
