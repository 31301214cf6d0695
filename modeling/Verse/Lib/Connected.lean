import Mathlib.Data.Set.Basic
import Mathlib.Logic.Relation

/-!
# Connected components

Steps between neighbours that stay inside a set, and what they connect. A component of a set is
a connected part of it that no step leaves; two points of the set are in one component exactly
when steps lead from one to the other.
-/

namespace Lib

variable {α : Type*} {adj : α → α → Prop} {s t c d : Set α} {a b x : α}

/-- Steps between neighbours inside a set lead from one point to the other. -/
def Joined (adj : α → α → Prop) (s : Set α) : α → α → Prop :=
  Relation.ReflTransGen fun a b => a ∈ s ∧ b ∈ s ∧ adj a b

/-- Every two points of the set are joined inside it. -/
def Connected (adj : α → α → Prop) (s : Set α) : Prop :=
  ∀ a ∈ s, ∀ b ∈ s, Joined adj s a b

/-- A connected part that no step leaves. -/
structure IsComponent (adj : α → α → Prop) (s c : Set α) : Prop where
  subset : c ⊆ s
  nonempty : c.Nonempty
  connected : Connected adj c
  closed : ∀ a ∈ c, ∀ b ∈ s, adj a b → b ∈ c

theorem Joined.mono (h : Joined adj s a b) (hst : s ⊆ t) : Joined adj t a b := by
  induction h with
  | refl => exact .refl
  | tail _ hstep ih => exact ih.tail ⟨hst hstep.1, hst hstep.2.1, hstep.2.2⟩

theorem Joined.step (ha : a ∈ s) (hb : b ∈ s) (hadj : adj a b) : Joined adj s a b :=
  .single ⟨ha, hb, hadj⟩

theorem Joined.trans (h₁ : Joined adj s a b) (h₂ : Joined adj s b x) : Joined adj s a x :=
  Relation.ReflTransGen.trans h₁ h₂

theorem Joined.symm (hsymm : ∀ a b, adj a b → adj b a) (h : Joined adj s a b) :
    Joined adj s b a := by
  induction h with
  | refl => exact .refl
  | tail _ hstep ih => exact .head ⟨hstep.2.1, hstep.1, hsymm _ _ hstep.2.2⟩ ih

/-- A set with a point that is joined to all others is connected. -/
theorem Connected.of_joined (hsymm : ∀ a b, adj a b → adj b a)
    (h : ∀ b ∈ s, Joined adj s a b) : Connected adj s :=
  fun b hb x hx => ((h b hb).symm hsymm).trans (h x hx)

/-- What is next to what need only be known inside the set. -/
theorem Joined.congr {adj' : α → α → Prop} (hadj : ∀ a ∈ s, ∀ b ∈ s, adj a b → adj' a b)
    (h : Joined adj s a b) : Joined adj' s a b := by
  induction h with
  | refl => exact .refl
  | tail _ hstep ih => exact ih.tail ⟨hstep.1, hstep.2.1, hadj _ hstep.1 _ hstep.2.1 hstep.2.2⟩

namespace IsComponent

theorem congr {adj' : α → α → Prop} (hadj : ∀ a ∈ s, ∀ b ∈ s, adj a b ↔ adj' a b)
    (h : IsComponent adj s c) : IsComponent adj' s c where
  subset := h.subset
  nonempty := h.nonempty
  connected a ha b hb := (h.connected a ha b hb).congr fun x hx y hy =>
    (hadj x (h.subset hx) y (h.subset hy)).mp
  closed a ha b hb hnext := h.closed a ha b hb ((hadj a (h.subset ha) b hb).mpr hnext)

/-- What is left of a set without one of its components has the components of the set. -/
theorem of_rest (hsymm : ∀ a b, adj a b → adj b a) (h : IsComponent adj s c)
    (hsplit : ∀ a, a ∈ s ↔ a ∈ c ∨ a ∈ t) (hapart : ∀ a ∈ c, a ∉ t)
    (hd : IsComponent adj t d) : IsComponent adj s d where
  subset a ha := (hsplit a).mpr (.inr (hd.subset ha))
  nonempty := hd.nonempty
  connected := hd.connected
  closed a ha b hb hadj := by
    rcases (hsplit b).mp hb with hc | ht
    · -- a step from the rest into the component would be a step out of it
      have hac : a ∈ c :=
        h.closed b hc a ((hsplit a).mpr (.inr (hd.subset ha))) (hsymm _ _ hadj)
      exact absurd (hd.subset ha) (hapart a hac)
    · exact hd.closed a ha b ht hadj

end IsComponent

end Lib
