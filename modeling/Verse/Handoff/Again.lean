import Verse.Engine.Frame

/-!
# Staging a handoff again

After a crash each cell stages the step it was at once more, whether or not the step had been
committed. No flag says so: a stage looks for the lock, the reservation, the witness or the
absence that it would itself have left, compared hash by hash, and returns the world it finds.

A stage validates the world it returns and not the one it is given. For one of the five this
matters: an abort at the source takes a lock away and does not look at the witnesses, but when
it finds no lock it demands that there be no witness of the transfer. That a valid world has no
witness of a transfer it still holds a lock for is what makes the second abort agree with the
first.

The counters of the ledger need no argument about stages. What each returns is valid, and a
valid world's counters are the sums over its witnesses.
-/

namespace Verse

open Lib
open Directory (CellTransferRecord)

variable {host : Host} {w w' : WorldState} {package : PlayerTransferPackage}
  {transfer : CellTransferRecord} {receipt : PlayerTransferQuarantineReceipt}

/-- The five stages, with what each is given. -/
inductive HandoffStage where
  | lock (package : PlayerTransferPackage) (transfer : CellTransferRecord)
  | quarantine (destinationFencingToken : Nat) (package : PlayerTransferPackage)
  | committedExport (package : PlayerTransferPackage) (transfer : CellTransferRecord)
  | committedImport (package : PlayerTransferPackage) (receipt : PlayerTransferQuarantineReceipt)
      (transfer : CellTransferRecord)
  | abort (package : PlayerTransferPackage) (transfer : CellTransferRecord)

/-- A stage: the world it returns, and the receipt a quarantine returns with it. -/
def HandoffStage.run (host : Host) (w : WorldState) :
    HandoffStage → Handoff (WorldState × Option PlayerTransferQuarantineReceipt)
  | .lock package transfer =>
    (fun staged => (staged, none)) <$> stagePreparedEvaLock host w package transfer
  | .quarantine token package =>
    Prod.map id some <$> stageEvaPlayerQuarantine host w token package
  | .committedExport package transfer =>
    (fun staged => (staged, none)) <$> stageCommittedEvaExport host w package transfer
  | .committedImport package receipt transfer =>
    (fun staged => (staged, none)) <$> stageCommittedEvaImport host w package receipt transfer
  | .abort package transfer =>
    (fun staged => (staged, none)) <$> stageAbortedEvaUnlock host w package transfer

/-! ## Lock and quarantine -/

theorem stagePreparedEvaLock_again (h : stagePreparedEvaLock host w package transfer = .ok w') :
    stagePreparedEvaLock host w' package transfer = .ok w' := by
  obtain ⟨-, hstaged, ⟨rfl, -⟩ | ⟨-, -, -, -, rfl⟩⟩ := stagePreparedEvaLock_eq_ok h
  · exact h
  · simp only [stagePreparedEvaLock, bind_eq_ok] at h ⊢
    obtain ⟨⟨⟩, hpackage, ⟨⟩, htransfer, -⟩ := h
    refine ⟨(), hpackage, (), htransfer, ?_⟩
    simp only [WorldState.withLock, OrdMap.get?_insert_self, bind_eq_ok, rejectIf_eq_ok, ne_eq,
      not_true_eq_false, not_false_eq_true, pure_eq_ok, and_true]
    exact ⟨(), trivial, (), hstaged⟩

variable {token : Nat}

/-- A receipt is found again in the reservation that was made of it. -/
theorem receiptFromReservation_transferReservation
    (h : quarantineEvaPlayerTransfer host w token package = .ok receipt) :
    receipt.validate host = .ok ()
      ∧ receiptFromReservation (transferReservation package receipt) = receipt := by
  simp only [quarantineEvaPlayerTransfer, bind_eq_ok, rejectIf_eq_ok, not_or, not_not,
    pure_eq_ok, ne_eq] at h
  obtain ⟨-, -, -, -, _, -, -, ⟨-, hcell, -⟩, ⟨⟩, hreceipt, rfl⟩ := h
  refine ⟨hreceipt, ?_⟩
  simp only [receiptFromReservation, transferReservation, hcell]

theorem stageEvaPlayerQuarantine_again
    (h : stageEvaPlayerQuarantine host w token package = .ok (w', receipt)) :
    stageEvaPlayerQuarantine host w' token package = .ok (w', receipt) := by
  obtain ⟨-, hstaged, ⟨rfl, -⟩ | ⟨-, hquarantine, rfl⟩⟩ := stageEvaPlayerQuarantine_eq_ok h
  · exact h
  · obtain ⟨hreceipt, hsame⟩ := receiptFromReservation_transferReservation hquarantine
    have hfound : (w.withReservation
        (transferReservation package receipt)).playerTransferReservations.get? package.transferId
          = some (transferReservation package receipt) := OrdMap.get?_insert_self
    simp only [stageEvaPlayerQuarantine, bind_eq_ok] at h ⊢
    obtain ⟨⟨⟩, hpackage, -⟩ := h
    refine ⟨(), hpackage, ?_⟩
    simp only [hfound, hsame, bind_eq_ok, rejectIf_eq_ok, ne_eq, not_true_eq_false,
      not_false_eq_true, pure_eq_ok, and_true]
    exact ⟨(), trivial, (), hreceipt, (), hstaged⟩

/-! ## Export and import -/

variable {witness : TransferConservationWitness}

theorem lacksSubject_withoutSubject :
    lacksSubject ((withoutSubject w package).withWitness witness) package := by
  simp only [lacksSubject, WorldState.withWitness, withoutSubject, OrdMap.get?_erase, if_true,
    and_self]

theorem stageCommittedEvaExport_again
    (h : stageCommittedEvaExport host w package transfer = .ok w') :
    stageCommittedEvaExport host w' package transfer = .ok w' := by
  obtain ⟨-, hstaged, ⟨rfl, -⟩ | ⟨-, -, -, -, -, rfl⟩⟩ := stageCommittedEvaExport_eq_ok h
  · exact h
  · have hfound : ((withoutSubject w package).withWitness
        (transferWitness package .exporting)).transferWitnesses.get? package.transferId
          = some (transferWitness package .exporting) := OrdMap.get?_insert_self
    simp only [stageCommittedEvaExport, bind_eq_ok] at h ⊢
    obtain ⟨⟨⟩, hpackage, ⟨⟩, htransfer, -⟩ := h
    refine ⟨(), hpackage, (), htransfer, ?_⟩
    simp only [hfound, bind_eq_ok, rejectIf_eq_ok, ne_eq, not_or, not_not, pure_eq_ok, and_true,
      true_and]
    exact ⟨(), lacksSubject_withoutSubject, (), hstaged⟩

theorem holdsSubject_withSubject
    (h : lacksSubject w package) :
    holdsSubject ((withSubject w package).withWitness witness) package
      package.destinationPlayer := by
  obtain ⟨-, -, hhistory⟩ := h
  refine ⟨OrdMap.get?_insert_self, OrdMap.get?_insert_self, ?_⟩
  unfold withSubject
  cases package.operationHistory with
  | none => exact hhistory
  | some history => exact OrdMap.get?_insert_self

theorem stageCommittedEvaImport_again
    (h : stageCommittedEvaImport host w package receipt transfer = .ok w') :
    stageCommittedEvaImport host w' package receipt transfer = .ok w' := by
  obtain ⟨-, hstaged, ⟨rfl, -⟩ | ⟨-, -, -, -, hlacks, rfl⟩⟩ := stageCommittedEvaImport_eq_ok h
  · exact h
  · have hfound : ((withSubject w package).withWitness
        (transferWitness package .importing)).transferWitnesses.get? package.transferId
          = some (transferWitness package .importing) := OrdMap.get?_insert_self
    simp only [stageCommittedEvaImport, bind_eq_ok] at h ⊢
    obtain ⟨⟨⟩, hpackage, ⟨⟩, hreceipt, ⟨⟩, htransfer, ⟨⟩, hbound, -⟩ := h
    refine ⟨(), hpackage, (), hreceipt, (), htransfer, (), hbound, ?_⟩
    simp only [hfound, bind_eq_ok, rejectIf_eq_ok, ne_eq, not_or, not_not, pure_eq_ok, and_true,
      true_and]
    exact ⟨(), holdsSubject_withSubject hlacks, (), hstaged⟩

/-! ## Abort -/

theorem stageAbortedAtDestination_again
    (h : stageAbortedAtDestination host w package transfer = .ok w') :
    stageAbortedAtDestination host w' package transfer = .ok w' ∧ w'.cellId = w.cellId := by
  have hfirst := h
  simp only [stageAbortedAtDestination, bind_eq_ok] at h
  obtain ⟨⟨⟩, habsent, h⟩ := h
  cases hreservation : w.playerTransferReservations.get? package.transferId with
  | none =>
    simp only [hreservation, bind_eq_ok, pure_eq_ok] at h
    obtain ⟨-, -, rfl⟩ := h
    exact ⟨hfirst, rfl⟩
  | some existing =>
    simp only [hreservation, bind_eq_ok, pure_eq_ok] at h
    obtain ⟨-, -, ⟨⟩, hstaged, rfl⟩ := h
    refine ⟨?_, rfl⟩
    simp only [stageAbortedAtDestination, bind_eq_ok]
    refine ⟨(), habsent, ?_⟩
    simp only [OrdMap.get?_erase, if_true, bind_eq_ok, pure_eq_ok, and_true]
    exact ⟨(), hstaged⟩

theorem stageAbortedAtSource_again (hvalid : Valid host w)
    (h : stageAbortedAtSource host w package = .ok w') :
    stageAbortedAtSource host w' package = .ok w' ∧ w'.cellId = w.cellId := by
  have hfirst := h
  unfold stageAbortedAtSource at h
  cases hlock : w.playerTransferLocks.get? package.aggregateId with
  | none =>
    simp only [hlock, bind_eq_ok, pure_eq_ok] at h
    obtain ⟨-, -, -, -, rfl⟩ := h
    exact ⟨hfirst, rfl⟩
  | some existing =>
    simp only [hlock, bind_eq_ok, rejectIf_eq_ok, not_or, not_not, pure_eq_ok] at h
    obtain ⟨-, ⟨rfl, hplayer, hinventory, -⟩, ⟨⟩, hstaged, rfl⟩ := h
    have hopen : w.transferWitnesses.get? package.transferId = none :=
      (hvalid.locks _ _ hlock).open_
    refine ⟨?_, rfl⟩
    unfold stageAbortedAtSource
    simp only [OrdMap.get?_erase, if_true, OrdMap.contains, hplayer, hinventory, hopen, bind_eq_ok,
      rejectIf_eq_ok, pure_eq_ok, and_true]
    exact ⟨(), by simp, (), hstaged⟩

theorem stageAbortedEvaUnlock_again (hvalid : Valid host w)
    (h : stageAbortedEvaUnlock host w package transfer = .ok w') :
    stageAbortedEvaUnlock host w' package transfer = .ok w' := by
  simp only [stageAbortedEvaUnlock, bind_eq_ok] at h
  obtain ⟨⟨⟩, hpackage, ⟨⟩, hphase, ⟨⟩, htransfer, h⟩ := h
  simp only [stageAbortedEvaUnlock, bind_eq_ok]
  refine ⟨(), hpackage, (), hphase, (), htransfer, ?_⟩
  split_ifs at h with hcell
  · obtain ⟨hagain, hsame⟩ := stageAbortedAtDestination_again h
    rw [if_pos (hsame ▸ hcell)]
    exact hagain
  · obtain ⟨⟨⟩, hsource, h⟩ := bind_eq_ok.mp h
    obtain ⟨hagain, hsame⟩ := stageAbortedAtSource_again hvalid h
    rw [if_neg (hsame ▸ hcell)]
    exact bind_eq_ok.mpr ⟨(), hsame ▸ hsource, hagain⟩

/-! ## All of them -/

theorem valid_of_validateStagedWorld (h : validateStagedWorld host w = .ok ()) : Valid host w := by
  simp only [validateStagedWorld, bind_eq_ok, mapError_eq_ok] at h
  obtain ⟨⟨⟩, hvalid, -⟩ := h
  exact (validatePlayerRoster_eq_ok host).mp hvalid

variable {stage : HandoffStage} {r : WorldState × Option PlayerTransferQuarantineReceipt}

theorem HandoffStage.valid_of_run
    (h : stage.run host w = .ok r) : Valid host r.1 := by
  cases stage <;> simp only [HandoffStage.run, map_eq_ok] at h <;> obtain ⟨staged, h, rfl⟩ := h
  case lock => exact valid_of_validateStagedWorld (stagePreparedEvaLock_eq_ok h).2.1
  case quarantine => exact valid_of_validateStagedWorld (stageEvaPlayerQuarantine_eq_ok h).2.1
  case committedExport => exact valid_of_validateStagedWorld (stageCommittedEvaExport_eq_ok h).2.1
  case committedImport => exact valid_of_validateStagedWorld (stageCommittedEvaImport_eq_ok h).2.1
  case abort => exact valid_of_validateStagedWorld (stageAbortedEvaUnlock_eq_ok h).2.1

theorem HandoffStage.run_again
    (hvalid : Valid host w)
    (h : stage.run host w = .ok r) : stage.run host r.1 = .ok r := by
  cases stage <;> simp only [HandoffStage.run, map_eq_ok] at h ⊢ <;> obtain ⟨staged, h, rfl⟩ := h
  case lock => exact ⟨staged, stagePreparedEvaLock_again h, rfl⟩
  case quarantine => exact ⟨staged, stageEvaPlayerQuarantine_again h, rfl⟩
  case committedExport => exact ⟨staged, stageCommittedEvaExport_again h, rfl⟩
  case committedImport => exact ⟨staged, stageCommittedEvaImport_again h, rfl⟩
  case abort => exact ⟨staged, stageAbortedEvaUnlock_again hvalid h, rfl⟩

/-- The import and export counters are the sums over the recorded witnesses. -/
def WorldState.CountersExact (w : WorldState) : Prop :=
  ∀ direction resource,
    (w.ledger.transferred direction).amount resource = w.witnessTotal direction resource

theorem Valid.countersExact (h : Valid host w) : w.CountersExact :=
  fun direction resource => (h.witnesses.totals direction resource).1

/-- From a valid world, a stage run again on what it returned returns the same, and the counters
    are exact in whatever world any stages, one after the other, lead to. -/
theorem handoff_stages (hvalid : Valid host w) :
    (∀ (stage : HandoffStage) r, stage.run host w = .ok r → stage.run host r.1 = .ok r)
      ∧ ∀ stages w', runAll (fun w (stage : HandoffStage) => Prod.fst <$> stage.run host w) w stages
          = .ok w' → w'.CountersExact := by
  have hstep : ∀ {w : WorldState} {stage : HandoffStage} {w'}, Valid host w →
      Prod.fst <$> stage.run host w = .ok w' → Valid host w' := by
    intro w stage w' _ h
    obtain ⟨r, hr, rfl⟩ := map_eq_ok.mp h
    exact HandoffStage.valid_of_run hr
  refine ⟨fun stage r h => HandoffStage.run_again hvalid h, fun stages w' hrun => ?_⟩
  have hreached : Valid host w' := preserved_of_run hstep hvalid hrun
  exact hreached.countersExact

/-! A player at the edge of its cell is locked for a transfer, and freed when that is aborted. -/

def proofCrossing : PlayerTransferContext where
  transferId := "transfer-east"
  sourceCellKey := Directory.cellOriginKey
  destinationCellKey := { Directory.cellOriginKey with cellX := 501 }
  sourceAssignmentGeneration := 1
  destinationAssignmentGeneration := 1
  sourceFencingToken := 5
  priorPlacementGeneration := 1
  resultingPlacementGeneration := 2

/-- What the directory has recorded of a package. -/
def recordedTransfer (package : PlayerTransferPackage) (phase : Directory.TransferPhase) :
    CellTransferRecord where
  transferId := package.transferId
  aggregateId := package.aggregateId
  aggregateKind := .player
  sourceCellKey := package.sourceCellKey
  sourceCellId := package.sourceCellId
  destinationCellKey := package.destinationCellKey
  destinationCellId := package.destinationCellId
  sourceAssignmentGeneration := package.sourceAssignmentGeneration
  destinationAssignmentGeneration := package.destinationAssignmentGeneration
  priorPlacementGeneration := package.priorPlacementGeneration
  resultingPlacementGeneration := package.resultingPlacementGeneration
  packageHash := package.packageHash
  quarantineReceiptHash := none
  sourcePrepareProof := none
  destinationQuarantineProof := none
  importProof := none
  finalizationProof := none
  sourceAbortProof := none
  destinationAbortProof := none
  phase := phase

/-- The package, the world with the lock, and the world that the abort returns. -/
def lockedAndFreed : Handoff (PlayerTransferPackage
    × (WorldState × Option PlayerTransferQuarantineReceipt)
    × (WorldState × Option PlayerTransferQuarantineReceipt)) := do
  let package ← prepareEvaPlayerTransfer proofHost proofCell "player-1" proofCrossing
  let locked ← (HandoffStage.lock package (recordedTransfer package .prepared)).run proofHost
    proofCell
  let freed ← (HandoffStage.abort package (recordedTransfer package .aborting)).run proofHost
    locked.1
  return (package, locked, freed)

/-- The player is locked and freed again; the abort once more leaves the world as it is. -/
theorem handoff_stages_freed : ∃ package locked freed,
    (HandoffStage.lock package (recordedTransfer package .prepared)).run proofHost proofCell
        = .ok locked
      ∧ (HandoffStage.abort package (recordedTransfer package .aborting)).run proofHost locked.1
        = .ok freed
      ∧ locked.1 ≠ freed.1
      ∧ (HandoffStage.abort package (recordedTransfer package .aborting)).run proofHost freed.1
        = .ok freed := by
  have hevaluated : lockedAndFreed.toOption.any
      (fun r => decide (r.2.1.1.playerTransferLocks ≠ r.2.2.1.playerTransferLocks)) = true := by
    decide +kernel
  obtain ⟨⟨_, _, _⟩, hrun, hne⟩ := exists_ok_of_any hevaluated
  simp only [lockedAndFreed, bind_eq_ok, pure_eq_ok, Prod.mk.injEq] at hrun
  obtain ⟨package, -, locked, hlocked, freed, hfreed, rfl, rfl, rfl⟩ := hrun
  have hvalid : Valid proofHost locked.1 := HandoffStage.valid_of_run hlocked
  refine ⟨package, locked, freed, hlocked, hfreed, fun heq => ?_,
    (handoff_stages hvalid).1 _ _ hfreed⟩
  rw [heq] at hne
  exact absurd rfl (of_decide_eq_true hne)

end Verse
