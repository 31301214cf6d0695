import Verse.Lib.Program

/-!
# Loops in programs

A loop over a list keeps an assertion about the elements it has been through and the value it
carries, where its body does. The body may use where in the list it is.
-/

namespace Lib

variable {ε σ α β : Type} {I : List α → β → σ → Prop} {E : ε → σ → Prop}
  {body : β → α → Program ε σ β} {l : List α} {b : β}

theorem Triple.foldlM_from {before rest : List α} (hl : l = before ++ rest)
    (hbody : ∀ before a rest b, l = before ++ a :: rest →
      Triple (I before b) (body b a) (I (before ++ [a])) E) :
    Triple (I before b) (rest.foldlM body b) (I l) E := by
  induction rest generalizing before b with
  | nil =>
    rw [List.append_nil] at hl
    subst hl
    exact .pure fun _ h => h
  | cons a rest ih =>
    rw [List.foldlM_cons]
    refine .bind (hbody before a rest b hl) fun next => ih ?_
    rw [hl, List.append_assoc, List.singleton_append]

theorem Triple.foldlM (hbody : ∀ before a rest b, l = before ++ a :: rest →
      Triple (I before b) (body b a) (I (before ++ [a])) E) :
    Triple (I [] b) (l.foldlM body b) (I l) E :=
  foldlM_from rfl hbody

/-- Where a program ends in the same assertion however it ends, that is where it leaves its state. -/
theorem Triple.final {P R : σ → Prop} {x : Program ε σ α} (h : Triple P x (fun _ => R) fun _ => R)
    {s : σ} (hs : P s) : R (x.final s) := by
  have hend := h s hs
  rw [Program.final]
  cases hrun : x s with
  | ok a s' | error e s' =>
    rw [hrun] at hend
    exact hend

theorem Keeps.foldlM {P : σ → Prop} (hbody : ∀ b a, Keeps P (body b a)) :
    Keeps P (l.foldlM body b) :=
  Triple.foldlM (I := fun _ _ => P) fun _ a _ b _ => hbody b a

end Lib
