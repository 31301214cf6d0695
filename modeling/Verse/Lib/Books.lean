import Mathlib.Order.Basic
import Mathlib.Order.MinMax

/-!
# Double entry

An account of one kind of good: what was ever entered, what is held, and what is spent for
good. A movement of goods is recorded on both sides, so it changes `entered` by as much as
`held` and `spent` together; nothing ever leaves `entered`.

A scale reads holdings through a counter that stops at its last value. Whether the reading
balances is then weaker than whether the books do, but it survives a recorded movement all the
same, as long as the readings still fit the counter (`Follows.reads`).
-/

namespace Lib

/-- The books of one kind of good. -/
structure Books where
  (entered held spent : Nat)
deriving DecidableEq, Repr

namespace Books

variable {a b c : Books} {cap : Nat}

/-- Everything entered is held or spent. -/
def Balanced (b : Books) : Prop := b.entered = b.held + b.spent

/-- The same, on a scale that stops at `cap`. -/
def Reads (cap : Nat) (b : Books) : Prop := b.entered = min b.held cap + b.spent

/-- Both readings are within the counter. -/
def Fits (cap : Nat) (b : Books) : Prop := b.entered ≤ cap ∧ min b.held cap + b.spent ≤ cap

instance : Decidable (Reads cap b) := inferInstanceAs (Decidable (_ = _))

/-- The books after some movements, each recorded on both sides. -/
structure Follows (b b' : Books) : Prop where
  both : b'.entered + (b.held + b.spent) = b.entered + (b'.held + b'.spent)
  grows : b.entered ≤ b'.entered

theorem Follows.refl (b : Books) : Follows b b := ⟨rfl, le_rfl⟩

theorem Follows.trans (h₁ : Follows a b) (h₂ : Follows b c) : Follows a c := by
  obtain ⟨hboth₁, hgrows₁⟩ := h₁
  obtain ⟨hboth₂, hgrows₂⟩ := h₂
  exact ⟨by omega, hgrows₁.trans hgrows₂⟩

/-- Movements keep balanced books balanced. -/
theorem Follows.balanced (h : Follows a b) (ha : a.Balanced) : b.Balanced := by
  have hboth := h.both
  unfold Balanced at *
  omega

/-- They keep a reading balanced too. Where the scale was at its last value, nothing can have
    been spent yet, and spending would now take the reading out of the counter. -/
theorem Follows.reads (h : Follows a b) (ha : a.Reads cap) (hcap : a.entered ≤ cap)
    (hb : b.Fits cap) : b.Reads cap := by
  obtain ⟨hboth, hgrows⟩ := h
  obtain ⟨hentered, hreading⟩ := hb
  unfold Reads at *
  rcases le_or_gt a.held cap with hheld | hheld
  · rw [min_eq_left hheld] at ha
    omega
  · rw [min_eq_right hheld.le] at ha
    omega

/-- A reading within the counter, of a scale that has not stopped, is the books themselves. -/
theorem Reads.balanced (h : b.Reads cap) (hheld : b.held ≤ cap) : b.Balanced := by
  unfold Reads at h
  rwa [min_eq_left hheld] at h

end Books
end Lib
