import Verse.Engine.Accounted
import Verse.Engine.Refusal

/-!
# Conservation

An event ends with a weighing of the world it made. From a valid world that balances the
weighing never finds a difference: what the event moved it also recorded (`Accepted.accounted`
in its commit form), and books that follow recorded movements go on reading balanced as long as
their sums fit the counters, which a sum that does not fit never says.
-/

namespace Verse

open Lib

namespace WorldState

variable {host : Host} {w w' : WorldState}

theorem weigh_unweighed {eventSequence : Nat} (hbalances : w.Balances) (h : Accounted w w') :
    Unweighed (w'.weigh eventSequence) := by
  unfold weigh
  rw [unweighed_bind]
  constructor
  · intro e he
    rw [conservation_eq_error he]
    rfl
  · intro totals htotals
    simp [h.balances hbalances htotals]

/-- Conservation. No event brings a valid world that balances to a violation, and after every
    event that is accepted the world balances again: the books of every resource have followed
    movements recorded on both sides, and what was mined came out of the ground. -/
theorem conserved (hvalid : w.validatePlayerRoster host = .ok ()) (hbalances : w.Balances)
    (event : CanonicalEvent) :
    (∀ eventSequence, w.applyEvent host event ≠ .error (.conservationViolation eventSequence))
      ∧ ∀ w', w.applyEvent host event = .ok w' → w'.Balances ∧ Accounted w w' := by
  have haccounted : ∀ {payload next},
      w.commitEvent host { event with payload } = .ok next → Accounted w next :=
    accounted_of_commitEvent ((validatePlayerRoster_eq_ok host).mp hvalid)
  constructor
  · intro eventSequence h
    have hrefused : Unweighed (w.applyEvent host event) := by
      simp only [applyEvent, unweighed_bind, validateHeader_unweighed, validateEnvelope_unweighed,
        commitEvent_unweighed, unweighed_pure, implies_true, true_and, and_true]
      intro _ _
      refine ⟨unweighed_mapError fun _ => rfl, ?_⟩
      intro payload _ _ _ next hcommit
      exact weigh_unweighed hbalances (haccounted hcommit)
    exact absurd (hrefused _ h) (by simp)
  · intro w' h
    simp only [applyEvent, weigh, bind_eq_ok, rejectIf_eq_ok, pure_eq_ok, Bool.not_eq_false] at h
    obtain ⟨-, -, payload, -, -, -, next, hcommit, -, ⟨totals, htotals, hvalid⟩, rfl⟩ := h
    exact ⟨⟨totals, htotals, hvalid⟩, haccounted hcommit⟩

end WorldState

/-! The refinery of the small cell finishes its batch: two ore are gone and one unit of refined
material is there. -/

/-- The first second of machine work in the small cell, and the cell after it. -/
def proofQuantum : Option (CanonicalEvent × WorldState) := do
  let payload ← (proofCell.productionQuantumPayload proofHost (firstOccurrence proofCell)).toOption
  let quantum := systemEvent proofCell "production-quantum" 1000 payload
  let worked ← (proofCell.applyEvent proofHost quantum).toOption
  return (quantum, worked)

namespace WorldState

/-- The quantum turns two units of ore into one of refined material. -/
theorem conserved_quantum : ∃ quantum worked,
    proofCell.applyEvent proofHost quantum = .ok worked
      ∧ (∀ eventSequence,
          proofCell.applyEvent proofHost quantum ≠ .error (.conservationViolation eventSequence))
      ∧ worked.Balances ∧ Accounted proofCell worked
      ∧ (proofCell.books .ore = ⟨2, 2, 0⟩ ∧ worked.books .ore = ⟨2, 0, 2⟩)
      ∧ (proofCell.books .refinedMaterial = ⟨0, 0, 0⟩
        ∧ worked.books .refinedMaterial = ⟨1, 1, 0⟩) := by
  have hrun : proofQuantum.any fun r => decide (proofCell.applyEvent proofHost r.1 = .ok r.2
        ∧ (proofCell.books .ore = ⟨2, 2, 0⟩ ∧ r.2.books .ore = ⟨2, 0, 2⟩)
        ∧ (proofCell.books .refinedMaterial = ⟨0, 0, 0⟩
          ∧ r.2.books .refinedMaterial = ⟨1, 1, 0⟩)) := by decide +kernel
  have hstart : proofCell.validatePlayerRoster proofHost = .ok () ∧ proofCell.Balances := by
    decide +kernel
  cases hquantum : proofQuantum with
  | none => simp [hquantum] at hrun
  | some r =>
    obtain ⟨quantum, worked⟩ := r
    simp only [hquantum, Option.any_some, decide_eq_true_eq] at hrun
    obtain ⟨happlied, hore, hrefined⟩ := hrun
    obtain ⟨hviolation, hafter⟩ := conserved hstart.1 hstart.2 quantum
    obtain ⟨hbalances, haccounted⟩ := hafter worked happlied
    exact ⟨quantum, worked, happlied, hviolation, hbalances, haccounted, hore, hrefined⟩

end WorldState
end Verse
