import Verse.Directory.Document
import Verse.Lib.Result

/-!
# What a stored directory must satisfy

`validateDocument` is the gate a directory passes each time it is opened: a document that
fails it can never be opened again, whatever wrote it. It is written here loop body by loop
body, in the order in which the checks are made, each with the error it gives.
-/

namespace Verse.Directory

open Lib

def validateStableId (value kind : String) : Fallible Unit :=
  rejectIf (¬ validStableId value)
    (.invalidDirectory s!"{kind} ID is not bounded canonical text")

def validateHash (value kind : String) : Fallible Unit :=
  rejectIf (¬ validBlake3Hex value)
    (.invalidDirectory s!"{kind} hash is not canonical BLAKE3 text")

def validateHolder (holderId : String) : Fallible Unit :=
  validateStableId holderId "assignment holder"

/-! ## Proofs against the transfer they belong to -/

def validatePrepareProof (transfer : CellTransferRecord) (proof : CellTransferPrepareProof) :
    Fallible Unit := do
  validateHash proof.sourceEventHash "source prepare event"
  validateHash proof.sourceWorldHash "source prepare world"
  rejectIf (proof.transferId ≠ transfer.transferId
      ∨ proof.packageHash ≠ transfer.packageHash
      ∨ proof.sourceCellId ≠ transfer.sourceCellId
      ∨ proof.sourceAssignmentGeneration < transfer.sourceAssignmentGeneration
      ∨ proof.priorPlacementGeneration ≠ transfer.priorPlacementGeneration
      ∨ proof.sourceFencingToken = 0
      ∨ proof.sourceEventSequence = 0)
    (.transferConflict transfer.transferId
      "source prepare proof does not bind the prepared transfer")

def validateQuarantineProof (transfer : CellTransferRecord)
    (proof : CellTransferQuarantineProof) : Fallible Unit := do
  validateHash proof.destinationEventHash "destination quarantine event"
  validateHash proof.destinationWorldHash "destination quarantine world"
  rejectIf (proof.transferId ≠ transfer.transferId
      ∨ proof.packageHash ≠ transfer.packageHash
      ∨ (∃ receipt ∈ transfer.quarantineReceiptHash, receipt ≠ proof.quarantineReceiptHash)
      ∨ proof.destinationCellId ≠ transfer.destinationCellId
      ∨ proof.destinationAssignmentGeneration < transfer.destinationAssignmentGeneration
      ∨ proof.resultingPlacementGeneration ≠ transfer.resultingPlacementGeneration
      ∨ proof.destinationFencingToken = 0
      ∨ proof.destinationEventSequence = 0)
    (.transferConflict transfer.transferId
      "destination quarantine proof does not bind the prepared transfer")

def validateImportProof (transfer : CellTransferRecord) (proof : CellTransferImportProof) :
    Fallible Unit := do
  validateHash proof.destinationEventHash "destination import event"
  validateHash proof.destinationWorldHash "destination import world"
  rejectIf (proof.transferId ≠ transfer.transferId
      ∨ proof.packageHash ≠ transfer.packageHash
      ∨ transfer.quarantineReceiptHash ≠ some proof.quarantineReceiptHash
      ∨ proof.destinationCellId ≠ transfer.destinationCellId
      ∨ proof.destinationAssignmentGeneration < transfer.destinationAssignmentGeneration
      ∨ proof.resultingPlacementGeneration ≠ transfer.resultingPlacementGeneration
      ∨ proof.destinationFencingToken = 0
      ∨ proof.destinationEventSequence = 0)
    (.transferConflict transfer.transferId
      "destination import proof does not bind the committed transfer")

def validateFinalizationProof (transfer : CellTransferRecord)
    (proof : CellTransferFinalizationProof) : Fallible Unit := do
  validateHash proof.sourceEventHash "source finalization event"
  validateHash proof.sourceWorldHash "source finalization world"
  rejectIf (proof.transferId ≠ transfer.transferId
      ∨ proof.packageHash ≠ transfer.packageHash
      ∨ proof.sourceCellId ≠ transfer.sourceCellId
      ∨ proof.sourceAssignmentGeneration < transfer.sourceAssignmentGeneration
      ∨ proof.resultingPlacementGeneration ≠ transfer.resultingPlacementGeneration
      ∨ proof.sourceFencingToken = 0
      ∨ proof.sourceEventSequence = 0)
    (.transferConflict transfer.transferId
      "source finalization proof does not bind the committed transfer")

/-- The cell an abort cleanup must have happened in, by role. -/
def CellTransferRecord.abortCellId (transfer : CellTransferRecord) :
    TransferAbortRole → String
  | .source => transfer.sourceCellId
  | .destination => transfer.destinationCellId

/-- The earliest assignment generation an abort cleanup may carry, by role. -/
def CellTransferRecord.abortMinimumGeneration (transfer : CellTransferRecord) :
    TransferAbortRole → Nat
  | .source => transfer.sourceAssignmentGeneration
  | .destination => transfer.destinationAssignmentGeneration

def validateAbortProof (transfer : CellTransferRecord) (proof : CellTransferAbortProof) :
    Fallible Unit := do
  validateHash proof.eventHash "abort cleanup event"
  validateHash proof.worldHash "abort cleanup world"
  rejectIf (proof.transferId ≠ transfer.transferId
      ∨ proof.packageHash ≠ transfer.packageHash
      ∨ proof.cellId ≠ transfer.abortCellId proof.role
      ∨ proof.assignmentGeneration < transfer.abortMinimumGeneration proof.role
      ∨ proof.fencingToken = 0
      ∨ proof.eventSequence = 0)
    (.transferConflict transfer.transferId
      "abort cleanup proof does not bind the transfer and cell role")

/-- The generation a proof names must carry the fence it names, in the cell's own history. -/
def validateHistoricalProofAuthority (transfer : CellTransferRecord)
    (assignmentGeneration fencingToken : Nat) (assignment : CellAssignmentRecord) :
    Fallible Unit :=
  rejectIf (assignment.fencingHistory.get? assignmentGeneration ≠ some fencingToken)
    (.invalidDirectory
      s!"transfer {transfer.transferId} proof generation is not bound to its historical cell fence")

/-! ## Assignments -/

/-- Generations must be `1, 2, ..`, each with a positive fence above the one before it. -/
def fencingHistoryInvalid (stored : CellAssignmentRecord) : Prop :=
  stored.fencingHistory.size ≠ stored.assignmentGeneration
    ∨ (∃ p ∈ stored.fencingHistory.entries.zipIdx,
        p.1.1 ≠ p.2 + 1
          ∨ p.1.2 = 0
          ∨ (0 < p.2 ∧ ∃ previous ∈ stored.fencingHistory.get? (p.1.1 - 1), previous ≥ p.1.2))
    ∨ (stored.fencingHistory.get? stored.assignmentGeneration).getD 0
        ≠ stored.authorityFencingToken

instance (stored : CellAssignmentRecord) : Decidable (fencingHistoryInvalid stored) := by
  unfold fencingHistoryInvalid; infer_instance

def validateAssignmentState (cellId : String) (stored : CellAssignmentRecord) : Fallible Unit :=
  match stored.state with
  | .sleeping =>
    rejectIf (stored.holderId.isSome) (.invalidDirectory s!"sleeping cell {cellId} retains a holder")
  | .assigned =>
    rejectIf (stored.assignmentGeneration = 0
        ∨ stored.authorityFencingToken = 0
        ∨ (∀ holder ∈ stored.holderId, holder = ""))
      (.invalidDirectory s!"assigned cell {cellId} lacks a generation or holder")
  | .claiming | .releasing =>
    .error (.invalidDirectory s!"cell {cellId} retained an incomplete assignment transition")

def validateAssignment (document : CellDirectoryDocument)
    (entry : String × CellAssignmentRecord) : Fallible Unit := do
  let cellId := entry.1
  let stored ← demand (document.assignments.get? cellId)
    (.invalidDirectory s!"directory is missing proof cell {cellId}")
  rejectIf (stored.cellId ≠ cellId ∨ stored.cellKey ≠ entry.2.cellKey)
    (.invalidDirectory s!"directory cell identity mismatch for {cellId}")
  validateAssignmentState cellId stored
  rejectIf (fencingHistoryInvalid stored)
    (.invalidDirectory s!"cell {cellId} assignment-to-fence history is invalid")

/-! ## Placements -/

/-- A resident aggregate has no transfer, a moving one has exactly one. -/
def AggregatePlacementRecord.bindingAgrees (placement : AggregatePlacementRecord) : Bool :=
  match placement.state with
  | .resident => placement.activeTransferId.isNone
  | .preparing | .inTransit => placement.activeTransferId.isSome

def validatePlacement (document : CellDirectoryDocument)
    (entry : String × AggregatePlacementRecord) : Fallible Unit := do
  let aggregateId := entry.1
  let placement := entry.2
  validateStableId aggregateId "aggregate"
  rejectIf (placement.aggregateId ≠ aggregateId ∨ placement.placementGeneration = 0)
    (.invalidDirectory
      s!"aggregate placement identity or generation is invalid for {aggregateId}")
  let assignment ← demand (document.assignments.get? placement.cellId)
    (.invalidDirectory s!"aggregate {aggregateId} references an unknown cell")
  rejectIf (assignment.cellKey ≠ placement.cellKey)
    (.invalidDirectory s!"aggregate {aggregateId} cell key and ID disagree")
  rejectIf (¬ placement.bindingAgrees)
    (.invalidDirectory
      s!"aggregate {aggregateId} placement state and transfer binding disagree")

/-! ## Transfers -/

/-- `placement_matches`: what the phase of a transfer says about its aggregate now. A
    terminal transfer, and an imported one, may have been overtaken by later moves. -/
def placementMatches (transferId : String) (transfer : CellTransferRecord)
    (placement : AggregatePlacementRecord) : Prop :=
  match transfer.phase with
  | .prepared | .quarantined | .aborting =>
    placement.state = .preparing
      ∧ placement.cellId = transfer.sourceCellId
      ∧ placement.placementGeneration = transfer.priorPlacementGeneration
      ∧ placement.activeTransferId = some transferId
  | .committed =>
    placement.state = .inTransit
      ∧ placement.cellId = transfer.destinationCellId
      ∧ placement.placementGeneration = transfer.resultingPlacementGeneration
      ∧ placement.activeTransferId = some transferId
  | .imported | .finalized =>
    placement.placementGeneration > transfer.resultingPlacementGeneration
      ∨ (placement.placementGeneration = transfer.resultingPlacementGeneration
        ∧ placement.cellId = transfer.destinationCellId)
  | .aborted =>
    placement.placementGeneration > transfer.priorPlacementGeneration
      ∨ (placement.placementGeneration = transfer.priorPlacementGeneration
        ∧ placement.cellId = transfer.sourceCellId)

instance (transferId : String) (transfer : CellTransferRecord)
    (placement : AggregatePlacementRecord) :
    Decidable (placementMatches transferId transfer placement) := by
  unfold placementMatches; cases transfer.phase <;> infer_instance

/-- The phases from quarantine to finalization, in which the receipt is on record. -/
def TransferPhase.holdsReceipt (phase : TransferPhase) : Prop :=
  phase = .quarantined ∨ phase = .committed ∨ phase = .imported ∨ phase = .finalized

instance (phase : TransferPhase) : Decidable phase.holdsReceipt := by
  unfold TransferPhase.holdsReceipt; infer_instance

/-- The last check of a transfer: its phase against the placement and against each optional
    proof. The disjuncts stand in the order of the source. -/
def phaseDisagrees (transferId : String) (transfer : CellTransferRecord)
    (placement : AggregatePlacementRecord) : Prop :=
  ¬ placementMatches transferId transfer placement
    ∨ (transfer.phase = .prepared ∧ transfer.quarantineReceiptHash.isSome)
    ∨ (transfer.phase.holdsReceipt ∧ transfer.quarantineReceiptHash.isNone)
    ∨ (transfer.sourcePrepareProof.isNone
        ∧ ¬ (transfer.phase = .prepared ∨ transfer.phase = .aborted))
    ∨ (transfer.destinationQuarantineProof.isSome ≠ transfer.quarantineReceiptHash.isSome)
    ∨ (transfer.phase.holdsReceipt ∧ transfer.destinationQuarantineProof.isNone)
    ∨ ((transfer.phase = .prepared ∨ transfer.phase = .quarantined
          ∨ transfer.phase = .committed ∨ transfer.phase = .aborting
          ∨ transfer.phase = .aborted)
        ∧ (transfer.importProof.isSome ∨ transfer.finalizationProof.isSome))
    ∨ (transfer.phase = .imported
        ∧ (transfer.importProof.isNone ∨ transfer.finalizationProof.isSome))
    ∨ (transfer.phase = .finalized
        ∧ (transfer.importProof.isNone ∨ transfer.finalizationProof.isNone))
    ∨ (¬ (transfer.phase = .aborting ∨ transfer.phase = .aborted)
        ∧ (transfer.sourceAbortProof.isSome ∨ transfer.destinationAbortProof.isSome))
    ∨ (transfer.phase = .aborted
        ∧ (transfer.sourceAbortProof.isNone ∨ transfer.destinationAbortProof.isNone))

instance (transferId : String) (transfer : CellTransferRecord)
    (placement : AggregatePlacementRecord) :
    Decidable (phaseDisagrees transferId transfer placement) := by
  unfold phaseDisagrees; infer_instance

/-- A check made only when the proof is there. -/
def whenSome {α : Type} (o : Option α) (check : α → Fallible Unit) : Fallible Unit :=
  match o with
  | some a => check a
  | none => .ok ()

@[simp] theorem whenSome_eq_ok {α : Type} {o : Option α} {check} {u : Unit} :
    whenSome o check = .ok u ↔ ∀ a, o = some a → check a = .ok () := by
  cases o <;> simp [whenSome]

def validateTransfer (document : CellDirectoryDocument) (entry : String × CellTransferRecord) :
    Fallible Unit := do
  let transferId := entry.1
  let transfer := entry.2
  validateStableId transferId "transfer"
  validateStableId transfer.aggregateId "aggregate"
  validateHash transfer.packageHash "transfer package"
  rejectIf (transfer.transferId ≠ transferId
      ∨ transfer.sourceCellId = transfer.destinationCellId
      ∨ transfer.sourceAssignmentGeneration = 0
      ∨ transfer.destinationAssignmentGeneration = 0
      ∨ transfer.priorPlacementGeneration = 0
      ∨ checkedAdd transfer.priorPlacementGeneration 1
          ≠ some transfer.resultingPlacementGeneration)
    (.invalidDirectory s!"transfer {transferId} immutable identity or generation is invalid")
  let source ← demand (document.assignments.get? transfer.sourceCellId)
    (.invalidDirectory s!"transfer {transferId} source cell is unknown")
  let destination ← demand (document.assignments.get? transfer.destinationCellId)
    (.invalidDirectory s!"transfer {transferId} destination cell is unknown")
  let placement ← demand (document.placements.get? transfer.aggregateId)
    (.invalidDirectory s!"transfer {transferId} aggregate placement is unknown")
  rejectIf (source.cellKey ≠ transfer.sourceCellKey
      ∨ destination.cellKey ≠ transfer.destinationCellKey
      ∨ placement.aggregateKind ≠ transfer.aggregateKind)
    (.invalidDirectory s!"transfer {transferId} cell or aggregate identity is inconsistent")
  whenSome transfer.quarantineReceiptHash fun receiptHash =>
    validateHash receiptHash "quarantine receipt"
  whenSome transfer.sourcePrepareProof fun proof => do
    validatePrepareProof transfer proof
    validateHistoricalProofAuthority transfer proof.sourceAssignmentGeneration
      proof.sourceFencingToken source
  whenSome transfer.destinationQuarantineProof fun proof => do
    validateQuarantineProof transfer proof
    validateHistoricalProofAuthority transfer proof.destinationAssignmentGeneration
      proof.destinationFencingToken destination
    rejectIf (transfer.quarantineReceiptHash ≠ some proof.quarantineReceiptHash)
      (.invalidDirectory s!"transfer {transferId} quarantine proof and receipt disagree")
  whenSome transfer.importProof fun proof => do
    validateImportProof transfer proof
    validateHistoricalProofAuthority transfer proof.destinationAssignmentGeneration
      proof.destinationFencingToken destination
  whenSome transfer.finalizationProof fun proof => do
    validateFinalizationProof transfer proof
    validateHistoricalProofAuthority transfer proof.sourceAssignmentGeneration
      proof.sourceFencingToken source
  whenSome transfer.sourceAbortProof fun proof => do
    validateAbortProof transfer proof
    validateHistoricalProofAuthority transfer proof.assignmentGeneration proof.fencingToken source
    rejectIf (proof.role ≠ .source)
      (.invalidDirectory s!"transfer {transferId} source abort proof has the wrong role")
  whenSome transfer.destinationAbortProof fun proof => do
    validateAbortProof transfer proof
    validateHistoricalProofAuthority transfer proof.assignmentGeneration proof.fencingToken
      destination
    rejectIf (proof.role ≠ .destination)
      (.invalidDirectory s!"transfer {transferId} destination abort proof has the wrong role")
  rejectIf (phaseDisagrees transferId transfer placement)
    (.invalidDirectory s!"transfer {transferId} phase and placement state disagree")

/-- `validate_document`, the check made whenever a stored directory is opened. -/
def validateDocument (document : CellDirectoryDocument) (universeManifest : UniverseManifest)
    (expectedAssignments : OrdMap String CellAssignmentRecord) : Fallible Unit := do
  rejectIf (document.schemaVersion ≠ cellDirectorySchemaVersion
      ∨ document.universeId ≠ universeManifest.universeId
      ∨ document.universeManifestHash ≠ universeManifest.manifestHash
      ∨ document.directoryRevision = 0
      ∨ document.assignments.size ≠ expectedAssignments.size)
    (.invalidDirectory "schema, universe, manifest, revision, or proof-cell count mismatch")
  checkAll (validateAssignment document) expectedAssignments.entries
  checkAll (validatePlacement document) document.placements.entries
  checkAll (validateTransfer document) document.transfers.entries

end Verse.Directory
