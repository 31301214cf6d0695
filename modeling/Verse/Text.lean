import Mathlib.Data.String.Basic

/-!
# Canonical text

Identifiers and hashes are plain strings in the stored documents; what makes one canonical
is a predicate that every reader re-checks. The alphabets differ between the files that
declare them by one character, so there is one definition over the alphabet and one name
for each.

Lengths are byte lengths. The alphabets are ASCII, so a character of an accepted string is a
byte of it, and a string with any other character is refused by the alphabet.
-/

namespace Verse

/-- `2^64 - 1`, the largest value a `u64` counter holds. -/
abbrev u64Max : Nat := 2 ^ 64 - 1

/-- `u64::checked_add`. -/
def checkedAdd (a b : Nat) : Option Nat := if a + b ≤ u64Max then some (a + b) else none

@[simp] theorem checkedAdd_eq_some {a b c : Nat} :
    checkedAdd a b = some c ↔ a + b ≤ u64Max ∧ a + b = c := by
  unfold checkedAdd
  split <;> simp_all

/-- Nonempty, at most 128 bytes, and drawn from ASCII letters, digits and `extra`. -/
def boundedText (extra : Char → Bool) (value : String) : Bool :=
  !value.toList.isEmpty && decide (value.utf8ByteSize ≤ 128) &&
    value.toList.all fun c => c.isAlphanum || extra c

/-- `validate_stable_id`, `valid_stable_id` and `valid_transfer_id` accept the same texts. -/
def validStableId (value : String) : Bool :=
  boundedText (fun c => c == '-' || c == '_' || c == '.' || c == ':') value

/-- `valid_player_id` leaves out the colon. -/
def validPlayerId (value : String) : Bool :=
  boundedText (fun c => c == '-' || c == '_' || c == '.') value

/-- `valid_blake3_hex`: 64 lowercase hexadecimal digits. -/
def validBlake3Hex (value : String) : Bool :=
  decide (value.utf8ByteSize = 64) &&
    value.toList.all fun c => c.isDigit || decide ('a' ≤ c ∧ c ≤ 'f')

/-- Unicode `White_Space`. -/
def isWhitespace (c : Char) : Bool :=
  (9 ≤ c.toNat && c.toNat ≤ 13) || c.toNat = 0x20 || c.toNat = 0x85 || c.toNat = 0xA0 ||
    c.toNat = 0x1680 || (0x2000 ≤ c.toNat && c.toNat ≤ 0x200A) || c.toNat = 0x2028 ||
    c.toNat = 0x2029 || c.toNat = 0x202F || c.toNat = 0x205F || c.toNat = 0x3000

/-- `value.trim().is_empty()`. -/
def isBlank (value : String) : Bool := value.toList.all isWhitespace

theorem validStableId_nonempty {value : String} (h : validStableId value = true) :
    value ≠ "" := by
  rintro rfl
  simp [validStableId, boundedText] at h

end Verse
