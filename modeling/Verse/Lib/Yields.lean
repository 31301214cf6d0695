import Verse.Lib.Program

/-!
# What a program returns

Where only the value of a program matters, and not the states it went through, the judgment is
`Yields x Q`: if the program returns, its value is in `Q`. A loop over a list returns what its
body keeps true of the elements it has been through (`Yields.foldlM`).
-/

namespace Lib

variable {ε ε' σ τ α β : Type} {x : Program ε σ α} {Q : α → Prop}

/-- Every value the program returns is in `Q`. -/
def Yields (x : Program ε σ α) (Q : α → Prop) : Prop := ∀ s a s', x s = .ok a s' → Q a

namespace Yields

theorem any : Yields x fun _ => True := fun _ _ _ _ => trivial

theorem weaken {R : α → Prop} (h : Yields x Q) (hQ : ∀ a, Q a → R a) : Yields x R :=
  fun s a s' hx => hQ a (h s a s' hx)

theorem pure {a : α} (h : Q a) : Yields (pure a : Program ε σ α) Q := by
  intro s b s' hx
  cases hx
  exact h

theorem bind {R : β → Prop} {f} (hx : Yields x Q) (hf : ∀ a, Q a → Yields (f a) R) :
    Yields (x >>= f) R := by
  intro s b s' hrun
  rw [Program.run_bind] at hrun
  cases hfirst : x s with
  | ok a middle =>
    rw [hfirst] at hrun
    exact hf a (hx s a middle hfirst) middle b s' hrun
  | error e middle =>
    rw [hfirst] at hrun
    cases hrun

theorem zoom {get : τ → σ} {set : σ → τ → τ} {wrap : ε → ε'} (h : Yields x Q) :
    Yields (Program.zoom get set wrap x) Q := by
  intro t a t' hx
  unfold Program.zoom at hx
  cases hrun : x (get t) with
  | ok b s =>
    rw [hrun] at hx
    cases hx
    exact h _ _ _ hrun
  | error e s =>
    rw [hrun] at hx
    cases hx

variable {body : β → α → Program ε σ β} {l : List α} {b : β}

theorem foldlM_from {P : List α → β → Prop}
    (hbody : ∀ before b a, P before b → Yields (body b a) (P (before ++ [a])))
    {before : List α} (h : P before b) :
    Yields (l.foldlM body b) (P (before ++ l)) := by
  induction l generalizing before b with
  | nil =>
    rw [List.append_nil]
    exact pure h
  | cons a rest ih =>
    rw [List.foldlM_cons]
    refine bind (hbody before b a h) fun next hnext => ?_
    have hrest := ih hnext
    rwa [List.append_assoc, List.singleton_append] at hrest

/-- A loop: `P` holds of the elements that have been through and the value carried. -/
theorem foldlM (P : List α → β → Prop)
    (hbody : ∀ before b a, P before b → Yields (body b a) (P (before ++ [a])))
    (h : P [] b) : Yields (l.foldlM body b) (P l) :=
  foldlM_from hbody h

end Yields
end Lib
