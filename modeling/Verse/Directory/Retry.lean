import Verse.Directory.Reopen

/-!
# Asking the directory again

A caller that has not heard back asks again. What it asked may have been committed, so each
operation that a caller may have to ask for twice looks first for its own outcome, by the
identities, hashes, fences and phases it was given, and answers with the record it finds.

`respond` is an operation with its answer. Here is one lemma for each operation: what it
committed is what it recognises, so that asking again gives the same answer and commits nothing.
A claim and a recovery are not among them; each names the generation it replaces.
-/

namespace Verse.Directory

open Lib

/-- The record an operation answers with. -/
inductive DirectoryRecord where
  | assignment (record : CellAssignmentRecord)
  | placement (record : AggregatePlacementRecord)
  | transfer (record : CellTransferRecord)
deriving DecidableEq

/-- An operation: the document it leaves and the record it answers with. -/
def respond (ids : CellIds) (document : CellDirectoryDocument) :
    DirectoryOp → Fallible (CellDirectoryDocument × DirectoryRecord)
  | .claim cellKey generation holderId fence =>
    Prod.map id .assignment <$> claim ids document cellKey generation holderId fence
  | .release cellKey generation holderId =>
    Prod.map id .assignment <$> release ids document cellKey generation holderId
  | .recoverAssignment cellKey generation holderId fence =>
    Prod.map id .assignment <$> recoverAssignment ids document cellKey generation holderId fence
  | .registerPlacement aggregateId kind cellKey =>
    Prod.map id .placement <$> registerPlacement ids document aggregateId kind cellKey
  | .prepareTransfer aggregateId generation transferId destination packageHash =>
    Prod.map id .transfer <$> prepareTransfer ids document aggregateId generation transferId
      destination packageHash
  | .recordSourcePrepared transferId proof =>
    Prod.map id .transfer <$> recordSourcePrepared ids document transferId proof
  | .recordQuarantine transferId packageHash receiptHash proof =>
    Prod.map id .transfer <$> recordQuarantine ids document transferId packageHash receiptHash proof
  | .commitTransfer transferId generation =>
    Prod.map id .transfer <$> commitTransfer ids document transferId generation
  | .recordImported transferId proof =>
    Prod.map id .transfer <$> recordImported ids document transferId proof
  | .finalizeTransfer transferId proof =>
    Prod.map id .transfer <$> finalizeTransfer ids document transferId proof
  | .requestAbort transferId => Prod.map id .transfer <$> requestAbort document transferId
  | .recordAbortCleanup transferId proof =>
    Prod.map id .transfer <$> recordAbortCleanup ids document transferId proof
  | .finalizeAbort transferId => Prod.map id .transfer <$> finalizeAbort document transferId

/-- The operations that recognise their own outcome. -/
def DirectoryOp.Repeatable : DirectoryOp → Prop
  | .claim .. | .recoverAssignment .. => False
  | .release .. | .registerPlacement .. | .prepareTransfer .. | .recordSourcePrepared ..
  | .recordQuarantine .. | .commitTransfer .. | .recordImported .. | .finalizeTransfer ..
  | .requestAbort .. | .recordAbortCleanup .. | .finalizeAbort .. => True

instance : DecidablePred DirectoryOp.Repeatable := fun op => by
  unfold DirectoryOp.Repeatable
  cases op <;> infer_instance

variable {ids : CellIds} {d : CellDirectoryDocument}

/-! ## Assignments and placements -/

variable {generation : Nat}

theorem release_again {cellKey : CellKeyV1} {holderId : String} {r}
    (h : release ids d cellKey generation holderId = .ok r) :
    release ids r.1 cellKey generation holderId = .ok r := by
  have hfirst := h
  simp only [release, cellIdOf, commitDocument_eq_ok, bind_eq_ok, demand_eq_ok, pure_eq_ok,
    rejectIf_eq_ok, ite_eq_ok, not_or, not_not] at h
  obtain ⟨⟨⟩, hholder, cellId, hid, a, ha, ⟨-, rfl⟩ |
    ⟨-, -, ⟨hgeneration, -, -⟩, -, -, _, ⟨-, rfl⟩, rfl⟩⟩ := h
  · exact hfirst
  · simp only [release, cellIdOf, bind_eq_ok, demand_eq_ok]
    refine ⟨(), hholder, cellId, hid, _, OrdMap.get?_insert_self, ?_⟩
    rw [if_pos ⟨rfl, hgeneration, rfl⟩]
    rfl

theorem registerPlacement_again {aggregateId : String} {kind} {cellKey : CellKeyV1} {r}
    (h : registerPlacement ids d aggregateId kind cellKey = .ok r) :
    registerPlacement ids r.1 aggregateId kind cellKey = .ok r := by
  have hfirst := h
  simp only [registerPlacement, bind_eq_ok] at h
  obtain ⟨⟨⟩, haggregate, a, ha, h⟩ := h
  cases hp : d.placements.get? aggregateId with
  | some existing =>
    simp only [hp, ite_eq_ok, pure_eq_ok, reduceCtorEq, and_false, or_false] at h
    obtain ⟨-, rfl⟩ := h
    exact hfirst
  | none =>
    simp only [hp, bind_eq_ok, commitDocument_eq_ok, pure_eq_ok] at h
    obtain ⟨_, ⟨-, rfl⟩, rfl⟩ := h
    simp only [registerPlacement, bind_eq_ok]
    refine ⟨(), haggregate, a, ha, ?_⟩
    simp only [OrdMap.get?_insert_self, if_true]
    rfl

/-! ## Transfers -/

variable {r : CellDirectoryDocument × CellTransferRecord}

theorem prepareTransfer_again {aggregateId transferId packageHash : String}
    {destinationCellKey : CellKeyV1}
    (h : prepareTransfer ids d aggregateId generation transferId destinationCellKey packageHash
      = .ok r) :
    prepareTransfer ids r.1 aggregateId generation transferId destinationCellKey packageHash
      = .ok r := by
  have hfirst := h
  simp only [prepareTransfer, bind_eq_ok] at h
  obtain ⟨⟨⟩, haggregate, ⟨⟩, htransfer, ⟨⟩, hpackage, h⟩ := h
  cases ht : d.transfers.get? transferId with
  | some existing =>
    simp only [ht, ite_eq_ok, pure_eq_ok, reduceCtorEq, and_false, or_false] at h
    obtain ⟨-, rfl⟩ := h
    exact hfirst
  | none =>
    simp only [ht, bind_eq_ok, rejectIf_eq_ok, not_or, not_not, commitDocument_eq_ok,
      pure_eq_ok] at h
    obtain ⟨p, -, _, -, _, -, -, -, -, ⟨-, -, rfl, -⟩, _, -, _, ⟨-, rfl⟩, rfl⟩ := h
    simp only [prepareTransfer, bind_eq_ok]
    refine ⟨(), haggregate, (), htransfer, (), hpackage, ?_⟩
    simp only [OrdMap.get?_insert_self, and_self, if_true]
    rfl

variable {transferId : String}

theorem recordSourcePrepared_again {proof : CellTransferPrepareProof}
    (h : recordSourcePrepared ids d transferId proof = .ok r) :
    recordSourcePrepared ids r.1 transferId proof = .ok r := by
  have hfirst := h
  simp only [recordSourcePrepared, bind_eq_ok, transfer_eq_ok, resolveProofGeneration_eq_ok] at h
  obtain ⟨t, ht, source, hsource, generation, hresolves, ⟨⟩, hproof, h⟩ := h
  cases he : t.sourcePrepareProof with
  | some existing =>
    simp only [he, ite_eq_ok, pure_eq_ok, reduceCtorEq, and_false, or_false] at h
    obtain ⟨-, rfl⟩ := h
    exact hfirst
  | none =>
    simp only [he, bind_eq_ok, commitDocument_eq_ok, pure_eq_ok] at h
    obtain ⟨-, -, -, -, _, ⟨-, rfl⟩, rfl⟩ := h
    simp only [recordSourcePrepared, bind_eq_ok, transfer_eq_ok, resolveProofGeneration_eq_ok]
    refine ⟨_, OrdMap.get?_insert_self, source, hsource, generation, hresolves, (), hproof, ?_⟩
    simp only [if_true]
    rfl

theorem recordQuarantine_again {transferId packageHash receiptHash : String} {proof}
    (h : recordQuarantine ids d transferId packageHash receiptHash proof = .ok r) :
    recordQuarantine ids r.1 transferId packageHash receiptHash proof = .ok r := by
  have hfirst := h
  simp only [recordQuarantine, bind_eq_ok, rejectIf_eq_ok, not_not, transfer_eq_ok,
    resolveProofGeneration_eq_ok, ite_eq_ok, pure_eq_ok, reduceCtorEq, and_false, or_false,
    commitDocument_eq_ok] at h
  obtain ⟨⟨⟩, hpackage, ⟨⟩, hreceipt, t, ht, -, hsame, destination, hdestination, generation,
    hresolves, -, hbinds, ⟨-, -, rfl⟩ | ⟨-, -, -, -, -, -, -, _, ⟨-, rfl⟩, rfl⟩⟩ := h
  · exact hfirst
  · simp only [recordQuarantine, bind_eq_ok, rejectIf_eq_ok, not_not, transfer_eq_ok,
      resolveProofGeneration_eq_ok]
    refine ⟨(), hpackage, (), hreceipt, _, OrdMap.get?_insert_self, (), hsame, destination,
      hdestination, generation, hresolves, (), hbinds, ?_⟩
    simp only [and_self, if_true]
    rfl

theorem commitTransfer_again (h : commitTransfer ids d transferId generation = .ok r) :
    commitTransfer ids r.1 transferId generation = .ok r := by
  have hfirst := h
  simp only [commitTransfer, bind_eq_ok, rejectIf_eq_ok, not_or, not_not, transfer_eq_ok,
    ite_eq_ok, pure_eq_ok, commitDocument_eq_ok] at h
  obtain ⟨t, ht, ⟨-, rfl⟩ | ⟨-, -, ⟨-, hgeneration, -⟩, _, -, _, -, -, -, p, -, -, -, _,
    ⟨-, rfl⟩, rfl⟩⟩ := h
  · exact hfirst
  · simp only [commitTransfer, bind_eq_ok, transfer_eq_ok]
    refine ⟨_, OrdMap.get?_insert_self, ?_⟩
    rw [if_pos ⟨.inl rfl, hgeneration⟩]
    rfl

theorem recordImported_again {proof} (h : recordImported ids d transferId proof = .ok r) :
    recordImported ids r.1 transferId proof = .ok r := by
  have hfirst := h
  simp only [recordImported, bind_eq_ok, transfer_eq_ok, resolveProofGeneration_eq_ok, ite_eq_ok,
    pure_eq_ok, reduceCtorEq, and_false, or_false, commitDocument_eq_ok] at h
  obtain ⟨t, ht, destination, hdestination, generation, hresolves, ⟨-, -, rfl⟩ |
    ⟨-, p, -, -, -, -, -, -, -, _, ⟨-, rfl⟩, rfl⟩⟩ := h
  · exact hfirst
  · simp only [recordImported, bind_eq_ok, transfer_eq_ok, resolveProofGeneration_eq_ok]
    refine ⟨_, OrdMap.get?_insert_self, destination, hdestination, generation, hresolves, ?_⟩
    simp only [true_or, if_true]
    rfl

theorem finalizeTransfer_again {proof} (h : finalizeTransfer ids d transferId proof = .ok r) :
    finalizeTransfer ids r.1 transferId proof = .ok r := by
  have hfirst := h
  simp only [finalizeTransfer, bind_eq_ok, transfer_eq_ok, resolveProofGeneration_eq_ok,
    ite_eq_ok, pure_eq_ok, reduceCtorEq, and_false, or_false, commitDocument_eq_ok] at h
  obtain ⟨t, ht, source, hsource, generation, hresolves, ⟨-, -, rfl⟩ |
    ⟨-, -, -, _, -, -, -, -, -, -, -, _, ⟨-, rfl⟩, rfl⟩⟩ := h
  · exact hfirst
  · simp only [finalizeTransfer, bind_eq_ok, transfer_eq_ok, resolveProofGeneration_eq_ok]
    refine ⟨_, OrdMap.get?_insert_self, source, hsource, generation, hresolves, ?_⟩
    simp only [if_true]
    rfl

/-! ## Aborts -/

theorem requestAbort_again
    (h : requestAbort d transferId = .ok r) : requestAbort r.1 transferId = .ok r := by
  have hfirst := h
  simp only [requestAbort, bind_eq_ok, transfer_eq_ok, ite_eq_ok, pure_eq_ok,
    commitDocument_eq_ok] at h
  obtain ⟨t, ht, ⟨-, rfl⟩ | ⟨-, -, -, _, -, -, -, _, ⟨-, rfl⟩, rfl⟩⟩ := h
  · exact hfirst
  · simp only [requestAbort, bind_eq_ok, transfer_eq_ok]
    refine ⟨_, OrdMap.get?_insert_self, ?_⟩
    rw [if_pos (.inl rfl)]
    rfl

/-- A cleanup on record is found under its role, and is all that changes. -/
theorem recordAbortCleanup_again {proof} (h : recordAbortCleanup ids d transferId proof = .ok r) :
    recordAbortCleanup ids r.1 transferId proof = .ok r := by
  have hfirst := h
  simp only [recordAbortCleanup, bind_eq_ok, rejectIf_eq_ok, not_not, transfer_eq_ok,
    resolveProofGeneration_eq_ok] at h
  obtain ⟨t, ht, -, hphase, cell, hcell, generation, hresolves, ⟨⟩, hproof, h⟩ := h
  cases he : t.abortProof proof.role with
  | some existing =>
    simp only [he, ite_eq_ok, pure_eq_ok, reduceCtorEq, and_false, or_false] at h
    obtain ⟨-, rfl⟩ := h
    exact hfirst
  | none =>
    simp only [he, bind_eq_ok, commitDocument_eq_ok, pure_eq_ok] at h
    obtain ⟨-, -, _, ⟨-, rfl⟩, rfl⟩ := h
    simp only [recordAbortCleanup, bind_eq_ok, rejectIf_eq_ok, not_not, transfer_eq_ok,
      resolveProofGeneration_eq_ok]
    obtain ⟨_, _, _, _, role, _, _, _, _, _⟩ := proof
    cases role with
    | source | destination =>
      refine ⟨_, OrdMap.get?_insert_self, (), hphase, cell, hcell, generation, hresolves, (),
        hproof, ?_⟩
      simp only [CellTransferRecord.withAbortProof, CellTransferRecord.abortProof, if_true]
      rfl

theorem finalizeAbort_again
    (h : finalizeAbort d transferId = .ok r) : finalizeAbort r.1 transferId = .ok r := by
  have hfirst := h
  simp only [finalizeAbort, bind_eq_ok, transfer_eq_ok, ite_eq_ok, pure_eq_ok,
    commitDocument_eq_ok] at h
  obtain ⟨t, ht, ⟨-, rfl⟩ | ⟨-, -, -, _, -, -, -, _, ⟨-, rfl⟩, rfl⟩⟩ := h
  · exact hfirst
  · simp only [finalizeAbort, bind_eq_ok, transfer_eq_ok]
    refine ⟨_, OrdMap.get?_insert_self, ?_⟩
    rw [if_pos rfl]
    rfl

/-! ## All of them -/

/-- Whatever the document, an operation that was just accepted and is asked for again gives the
    same answer, and the document stays as it is, its revision included. -/
theorem directory_retries {op : DirectoryOp} {r : CellDirectoryDocument × DirectoryRecord}
    (hop : op.Repeatable) (h : respond ids d op = .ok r) : respond ids r.1 op = .ok r := by
  cases op <;> simp only [respond, map_eq_ok] at h ⊢ <;> obtain ⟨r, h, rfl⟩ := h
  case claim => exact hop.elim
  case recoverAssignment => exact hop.elim
  case release => exact ⟨r, release_again h, rfl⟩
  case registerPlacement => exact ⟨r, registerPlacement_again h, rfl⟩
  case prepareTransfer => exact ⟨r, prepareTransfer_again h, rfl⟩
  case recordSourcePrepared => exact ⟨r, recordSourcePrepared_again h, rfl⟩
  case recordQuarantine => exact ⟨r, recordQuarantine_again h, rfl⟩
  case commitTransfer => exact ⟨r, commitTransfer_again h, rfl⟩
  case recordImported => exact ⟨r, recordImported_again h, rfl⟩
  case finalizeTransfer => exact ⟨r, finalizeTransfer_again h, rfl⟩
  case requestAbort => exact ⟨r, requestAbort_again h, rfl⟩
  case recordAbortCleanup => exact ⟨r, recordAbortCleanup_again h, rfl⟩
  case finalizeAbort => exact ⟨r, finalizeAbort_again h, rfl⟩

/-- The abort of a prepared transfer, asked for twice: the second time the directory has it on
    record. -/
theorem directory_retries_abortedEarly :
    ∃ d r, respond proofCellIds d (.requestAbort "transfer-grid-abort") = .ok r ∧ r.1 ≠ d
      ∧ respond proofCellIds r.1 (.requestAbort "transfer-grid-abort") = .ok r := by
  obtain ⟨-, d, -, -, hd⟩ :=
    @exists_run_of_ranFrom proofCellIds proofManifest proofCellKeys (abortedEarly.take 4)
      (fun _ d => (respond proofCellIds d (.requestAbort "transfer-grid-abort")).toOption.any
        fun r => r.1 ≠ d) _ (by decide +kernel)
  obtain ⟨r, hr, hne⟩ := exists_ok_of_any hd
  exact ⟨d, r, hr, of_decide_eq_true hne, directory_retries trivial hr⟩

end Verse.Directory
