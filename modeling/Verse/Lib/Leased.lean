import Mathlib.Data.List.TakeWhile

/-!
# A queue of leased items

Items wait in line, each with the tick its lease runs out at. At a tick the items at the front
whose lease is over are dropped, and the one behind them is used.

`turn` is one tick and `turns` one after another. Both say what they took, when and to what
end, and everything below is about that record: what was taken and what still waits are the
line there was (`turns_split`), so that no item is taken twice, passed over or taken before one
ahead of it; and what becomes of an item depends on its lease alone (`use_of_mem_turns`).
-/

namespace Lib.Leased

/-- What becomes of an item. -/
inductive Use where
  | expired
  | applied
deriving DecidableEq

structure Taking (α : Type) where
  item : α
  tick : Nat
  use : Use
deriving DecidableEq

variable {α : Type} (lease : α → Nat)

/-- The items at the front whose lease is over. -/
def overdue (tick : Nat) (queue : List α) : List α :=
  queue.takeWhile fun item => decide (lease item ≤ tick)

/-- The items behind those. -/
def current (tick : Nat) (queue : List α) : List α :=
  queue.dropWhile fun item => decide (lease item ≤ tick)

/-- What one tick takes. -/
def taken (tick : Nat) (queue : List α) : List (Taking α) :=
  ((overdue lease tick queue).map fun item => ⟨item, tick, .expired⟩)
    ++ ((current lease tick queue).head?.map fun item => ⟨item, tick, .applied⟩).toList

/-- One tick: what it takes and what it leaves. -/
def turn (tick : Nat) (queue : List α) : List (Taking α) × List α :=
  (taken lease tick queue, (current lease tick queue).tail)

/-- One tick after another. -/
def turns : List Nat → List α → List (Taking α) × List α
  | [], queue => ([], queue)
  | tick :: ticks, queue =>
    let after := turns ticks (turn lease tick queue).2
    ((turn lease tick queue).1 ++ after.1, after.2)

variable {lease} {tick : Nat} {ticks : List Nat} {queue : List α}

theorem overdue_append_current : overdue lease tick queue ++ current lease tick queue = queue :=
  List.takeWhile_append_dropWhile

theorem drop_overdue :
    queue.drop (overdue lease tick queue).length = current lease tick queue :=
  calc queue.drop (overdue lease tick queue).length
    _ = (overdue lease tick queue ++ current lease tick queue).drop
        (overdue lease tick queue).length := by rw [overdue_append_current]
    _ = current lease tick queue := List.drop_left

variable {item : α}

theorem lease_le_of_mem_overdue (h : item ∈ overdue lease tick queue) :
    lease item ≤ tick := by
  have hover := List.mem_takeWhile_imp (p := fun item => decide (lease item ≤ tick)) h
  exact of_decide_eq_true hover

theorem lt_lease_of_head?_current (h : (current lease tick queue).head? = some item) :
    tick < lease item := by
  have hnot := List.head?_dropWhile_not (fun item => decide (lease item ≤ tick)) queue
  rw [current] at h
  rw [h] at hnot
  exact Nat.lt_of_not_le (of_decide_eq_false hnot)

theorem turn_of_current_nil (h : current lease tick queue = []) :
    turn lease tick queue
      = ((overdue lease tick queue).map fun item => ⟨item, tick, .expired⟩, []) := by
  simp [turn, taken, h]

theorem turn_of_current_cons {rest : List α}
    (h : current lease tick queue = item :: rest) :
    turn lease tick queue
      = (((overdue lease tick queue).map fun item => ⟨item, tick, .expired⟩)
          ++ [⟨item, tick, .applied⟩], rest) := by
  simp [turn, taken, h]

/-- What was taken and what still waits are the line there was. -/
theorem turn_split : (turn lease tick queue).1.map Taking.item ++ (turn lease tick queue).2 = queue := by
  have hhead : ((current lease tick queue).head?.map
        fun item => (⟨item, tick, .applied⟩ : Taking α)).toList.map Taking.item
      ++ (current lease tick queue).tail = current lease tick queue := by
    cases current lease tick queue <;> rfl
  have hover : ((overdue lease tick queue).map
      fun item => (⟨item, tick, .expired⟩ : Taking α)).map Taking.item
        = overdue lease tick queue := by
    rw [List.map_map]
    exact List.map_id _
  simp only [turn, taken, List.map_append, hover, List.append_assoc, hhead]
  exact overdue_append_current

theorem turns_split :
    (turns lease ticks queue).1.map Taking.item ++ (turns lease ticks queue).2 = queue := by
  induction ticks generalizing queue with
  | nil => rfl
  | cons tick ticks ih =>
    simp only [turns, List.map_append, List.append_assoc, ih]
    exact turn_split

variable {taking : Taking α}

/-- The lease of an item decides what becomes of it. -/
theorem use_of_mem_turn (h : taking ∈ (turn lease tick queue).1) :
    taking.tick = tick ∧ (taking.use = .expired ↔ lease taking.item ≤ tick) := by
  rcases List.mem_append.mp h with hover | hnext
  · obtain ⟨item, hitem, rfl⟩ := List.mem_map.mp hover
    exact ⟨rfl, iff_of_true rfl (lease_le_of_mem_overdue hitem)⟩
  · simp only [Option.mem_toList, Option.map_eq_some_iff] at hnext
    obtain ⟨item, hitem, rfl⟩ := hnext
    have hlease := lt_lease_of_head?_current hitem
    exact ⟨rfl, iff_of_false (by simp) (by simpa using hlease)⟩

/-- What is applied is the last thing a tick takes. -/
theorem exists_append_of_applied
    (h : ⟨item, tick, .applied⟩ ∈ (turn lease tick queue).1) :
    ∃ before, (turn lease tick queue).1 = before ++ [⟨item, tick, .applied⟩] := by
  rcases List.mem_append.mp h with hover | hnext
  · obtain ⟨other, -, hother⟩ := List.mem_map.mp hover
    cases hother
  · simp only [Option.mem_toList, Option.map_eq_some_iff] at hnext
    obtain ⟨other, hother, hsame⟩ := hnext
    cases hsame
    refine ⟨(overdue lease tick queue).map fun item => ⟨item, tick, .expired⟩, ?_⟩
    simp only [turn, taken, hother, Option.map_some, Option.toList_some]

theorem use_of_mem_turns (h : taking ∈ (turns lease ticks queue).1) :
    taking.tick ∈ ticks ∧ (taking.use = .expired ↔ lease taking.item ≤ taking.tick) := by
  induction ticks generalizing queue with
  | nil => exact absurd h (List.not_mem_nil)
  | cons tick ticks ih =>
    rcases List.mem_append.mp h with hnow | hlater
    · obtain ⟨rfl, huse⟩ := use_of_mem_turn hnow
      exact ⟨List.mem_cons_self, huse⟩
    · obtain ⟨hmem, huse⟩ := ih hlater
      exact ⟨List.mem_cons_of_mem _ hmem, huse⟩

/-- A tick takes at least one item of a line that is not empty. -/
theorem length_turn_le : (turn lease tick queue).2.length ≤ queue.length - 1 := by
  have hsplit : (overdue lease tick queue).length + (current lease tick queue).length
      = queue.length := by
    rw [← List.length_append, overdue_append_current]
  simp only [turn, List.length_tail]
  omega

/-- So a line is empty after as many ticks as it is long. -/
theorem length_turns_le : (turns lease ticks queue).2.length ≤ queue.length - ticks.length := by
  induction ticks generalizing queue with
  | nil => exact le_rfl
  | cons tick ticks ih =>
    have hturn : (turn lease tick queue).2.length ≤ queue.length - 1 := length_turn_le
    have hrest : (turns lease ticks (turn lease tick queue).2).2.length
        ≤ (turn lease tick queue).2.length - ticks.length := ih
    simp only [turns, List.length_cons]
    omega

end Lib.Leased
