import Mathlib.Algebra.Order.Group.Unbundled.Int
import Mathlib.Data.String.Basic
import Verse.Lib.Result

/-!
# Exact arithmetic in fixed widths

A machine integer is an integer that fits. A checked operation computes the exact result and
returns it when it fits; a plain one stops the program when it does not. Either way what comes
back is the exact value, which is all a proof needs.

Two notations for integers are read here as well: the decimal one (`parseInt`), and the one that
counts the edges a number is away from zero, with what is left lying around zero (`carry`).
-/

namespace Lib

/-! ## Values that fit -/

/-- A two's complement integer of so many bits. -/
def FitsSigned (bits : Nat) (n : Int) : Prop := -2 ^ (bits - 1) ≤ n ∧ n < 2 ^ (bits - 1)

instance (bits : Nat) : DecidablePred (FitsSigned bits) := fun _ => inferInstanceAs (Decidable (_ ∧ _))

/-- A natural number of so many bits. -/
def FitsUnsigned (bits : Nat) (n : Nat) : Prop := n < 2 ^ bits

instance (bits : Nat) : DecidablePred (FitsUnsigned bits) := fun _ => inferInstanceAs (Decidable (_ < _))

section Checked

variable {α ε : Type} {fits : α → Prop} [DecidablePred fits] {exact result : α} {e : ε}

/-- The exact result of an operation, if it fits. -/
def checked (fits : α → Prop) [DecidablePred fits] (exact : α) : Option α :=
  if fits exact then some exact else none

@[simp] theorem checked_eq_some : checked fits exact = some result ↔ fits exact ∧ exact = result := by
  unfold checked
  split <;> simp_all

/-- The exact result of an operation that stops the program when it does not fit. -/
def plain (fits : α → Prop) [DecidablePred fits] (e : ε) (exact : α) : Except ε α :=
  if fits exact then .ok exact else .error e

@[simp] theorem plain_eq_ok : plain fits e exact = .ok result ↔ fits exact ∧ exact = result := by
  unfold plain
  split <;> simp_all

theorem plain_of_fits (h : fits exact) : plain fits e exact = .ok exact := if_pos h

end Checked

/-! ## Decimal numbers -/

/-- The number a nonempty list of decimal digits stands for. -/
def decimal (digits : List Char) : Option Nat :=
  if digits ≠ [] ∧ digits.all Char.isDigit then some (Nat.ofDigitChars 10 digits 0) else none

/-- A decimal number with or without a sign. -/
def parseInt (text : String) : Option Int :=
  match text.toList with
  | '-' :: digits => (decimal digits).map fun n => -(n : Int)
  | '+' :: digits => (decimal digits).map fun n => (n : Int)
  | digits => (decimal digits).map fun n => (n : Int)

theorem decimal_toDigits (n : Nat) : decimal (Nat.toDigits 10 n) = some n := by
  have hdigits : (Nat.toDigits 10 n).all Char.isDigit := by
    rw [List.all_eq_true]
    intro c hc
    exact Nat.isDigit_of_mem_toDigits (by decide) (by decide) hc
  rw [decimal, if_pos ⟨Nat.toDigits_ne_nil, hdigits⟩, Nat.ofDigitChars_ten_toDigits]

/-- An integer is read back from its decimal digits. -/
theorem parseInt_toString (n : Int) : parseInt (toString n) = some n := by
  cases n with
  | ofNat m =>
    have hchars : (toString (Int.ofNat m)).toList = Nat.toDigits 10 m := Nat.toList_repr
    have hhead : ∀ c ∈ Nat.toDigits 10 m, c.isDigit := fun c hc =>
      Nat.isDigit_of_mem_toDigits (by decide) (by decide) hc
    have hdecimal := decimal_toDigits m
    unfold parseInt
    rw [hchars]
    generalize Nat.toDigits 10 m = digits at hhead hdecimal
    -- A sign is no digit.
    split
    · exact absurd (hhead '-' List.mem_cons_self) (by decide)
    · exact absurd (hhead '+' List.mem_cons_self) (by decide)
    · rw [hdecimal]
      rfl
  | negSucc m =>
    have hchars : (toString (Int.negSucc m)).toList = '-' :: Nat.toDigits 10 (m + 1) := by
      show ("-" ++ Nat.repr (m + 1)).toList = _
      rw [String.toList_append, Nat.toList_repr]
      rfl
    unfold parseInt
    rw [hchars]
    simp only [decimal_toDigits]
    rfl

theorem toString_int_injective {m n : Int} (h : toString m = toString n) : m = n := by
  have hparsed := congrArg parseInt h
  rw [parseInt_toString, parseInt_toString] at hparsed
  exact Option.some.inj hparsed

/-! ## Edges away from zero -/

/-- How many edges a number is away, counted from half an edge below zero. -/
def carry (edge half n : Int) : Int := (n + half) / edge

end Lib
