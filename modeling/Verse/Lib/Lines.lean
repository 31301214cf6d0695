import Mathlib.Data.List.Basic

/-!
# A file of lines

An append-only file of records, each record a line and no record containing the symbol that ends
a line. A writer that is interrupted leaves a part of its line behind, so what a reader finds is
some whole lines and a tail.

`splitLines` is what the reader makes of the file, `joinLines` what the writer made; they agree
on any file whose tail ends no line (`splitLines_append`). A line is also found again by where
it starts (`take_drop_joinLines`).
-/

namespace Lib

variable {β : Type} {newline : β}

/-- The lines, each ended. -/
def joinLines (newline : β) (lines : List (List β)) : List β :=
  lines.flatMap fun line => line ++ [newline]

/-- The lines that are ended, and what follows the last of them. -/
def splitLines [DecidableEq β] (newline : β) : List β → List (List β) × List β
  | [] => ([], [])
  | b :: rest =>
    if b = newline then ([] :: (splitLines newline rest).1, (splitLines newline rest).2)
    else
      match splitLines newline rest with
      | ([], tail) => ([], b :: tail)
      | (line :: lines, tail) => ((b :: line) :: lines, tail)

variable {lines : List (List β)}

variable {line : List β}

@[simp] theorem joinLines_cons :
    joinLines newline (line :: lines) = line ++ newline :: joinLines newline lines := by
  simp [joinLines]

theorem joinLines_append {lines'} :
    joinLines newline (lines ++ lines') = joinLines newline lines ++ joinLines newline lines' := by
  simp [joinLines]

theorem joinLines_concat :
    joinLines newline (lines ++ [line]) = joinLines newline lines ++ (line ++ [newline]) := by
  simp [joinLines]

/-- Every line takes room. -/
theorem length_le_joinLines :
    lines.length ≤ (joinLines newline lines).length := by
  induction lines with
  | nil => simp
  | cons line lines ih =>
    simp only [joinLines_cons, List.length_cons, List.length_append]
    omega

variable {tail : List β}

section

variable [DecidableEq β]

theorem splitLines_tail (h : newline ∉ tail) :
    splitLines newline tail = ([], tail) := by
  induction tail with
  | nil => rfl
  | cons b rest ih =>
    obtain ⟨hb, hrest⟩ := not_or.mp (List.mem_cons.not.mp h)
    rw [splitLines, if_neg (Ne.symm hb), ih hrest]

theorem splitLines_line {rest : List β} (h : newline ∉ line) :
    splitLines newline (line ++ newline :: rest) =
      (line :: (splitLines newline rest).1, (splitLines newline rest).2) := by
  induction line with
  | nil => simp [splitLines]
  | cons b line ih =>
    obtain ⟨hb, hline⟩ := not_or.mp (List.mem_cons.not.mp h)
    rw [List.cons_append, splitLines, if_neg (Ne.symm hb), ih hline]

/-- A reader finds the lines that were written and the tail that was not finished. -/
theorem splitLines_append
    (hlines : ∀ line ∈ lines, newline ∉ line) (htail : newline ∉ tail) :
    splitLines newline (joinLines newline lines ++ tail) = (lines, tail) := by
  induction lines with
  | nil => exact splitLines_tail htail
  | cons line lines ih =>
    obtain ⟨hline, hlines⟩ := List.forall_mem_cons.mp hlines
    rw [joinLines_cons, List.append_assoc, List.cons_append, splitLines_line hline, ih hlines]

end

/-- A line is where the lines before it end. -/
theorem take_drop_joinLines {before after} :
    ((joinLines newline (before ++ line :: after) ++ tail).drop
      (joinLines newline before).length).take line.length = line := by
  rw [joinLines_append, List.append_assoc, List.drop_left, joinLines_cons, List.append_assoc,
    List.take_left]

/-! ## Numbers in a line -/

/-- Numbers are told apart by their decimal digits. -/
theorem toString_nat_injective {m n : Nat} (h : (toString m : String) = toString n) :
    m = n := by
  have hdigits : Nat.toDigits 10 m = Nat.toDigits 10 n := by
    simpa [toString, Nat.repr] using congrArg String.toList h
  calc m = Nat.ofDigitChars 10 (Nat.toDigits 10 m) 0 := Nat.ofDigitChars_ten_toDigits.symm
    _ = n := by rw [hdigits, Nat.ofDigitChars_ten_toDigits]

end Lib
