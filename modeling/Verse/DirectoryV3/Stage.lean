import Verse.DirectoryV3.Validate

/-!
# The stages of a bundled transfer

Each operation takes the current document to the document it would commit. A retry of an
operation that has already happened answers with the document as it is; every other accepted
operation answers with a document one revision higher, sealed and validated.

All but prepare are about a transfer on record, and differ in four things: when they recognise
their own earlier success, when they are ready, what they do to the placements and what they
write into the record. `stageTransfer` is the rest of them.
-/

namespace Verse.DirectoryV3

open Lib Directory

variable (codec : DirectoryCodec)

def conflict (transferId reason : String) : CellDirectoryError :=
  .transferConflict transferId reason

/-- The document an operation leaves behind: one revision on, under its own hash. -/
def transacted (prior next : CellDirectoryDocumentV3) : CellDirectoryDocumentV3 :=
  { next with directoryRevision := prior.directoryRevision + 1 }.sealed codec

def finishV3Transaction (prior next : CellDirectoryDocumentV3) :
    Fallible CellDirectoryDocumentV3 := do
  rejectIf (checkedAdd prior.directoryRevision 1 = none) .directoryRevisionExhausted
  (transacted codec prior next).validate codec
  return transacted codec prior next

def v3Transfer (document : CellDirectoryDocumentV3) (transferId : String) :
    Fallible CellTransferRecordV3 :=
  demand (document.transfers.get? transferId) (.unknownTransfer transferId)

/-! ## Prepare -/

/-- A request carries nothing that a later stage would have to prove. -/
def CellTransferRecordV3.Unproved (requested : CellTransferRecordV3) : Prop :=
  requested.phase = .prepared
    ∧ requested.quarantineReceiptHash = none
    ∧ requested.sourcePrepareProof = none
    ∧ requested.destinationQuarantineProof = none
    ∧ requested.sourceExportProof = none
    ∧ requested.importProof = none
    ∧ requested.destinationActivationProof = none
    ∧ requested.finalizationProof = none
    ∧ requested.sourceAbortProof = none
    ∧ requested.destinationAbortProof = none

instance (requested : CellTransferRecordV3) : Decidable requested.Unproved := by
  unfold CellTransferRecordV3.Unproved; infer_instance

/-- The two cells of a request, held as it says and next to each other. -/
def CellTransferRecordV3.RouteIsCurrent (requested : CellTransferRecordV3)
    (source destination : CellAssignmentRecord) : Prop :=
  source.cellKey = requested.sourceCellKey
    ∧ destination.cellKey = requested.destinationCellKey
    ∧ source.state = .assigned
    ∧ destination.state = .assigned
    ∧ source.assignmentGeneration = requested.sourceAssignmentGeneration
    ∧ source.authorityFencingToken = requested.sourceFencingToken
    ∧ destination.assignmentGeneration = requested.destinationAssignmentGeneration
    ∧ destination.authorityFencingToken = requested.destinationFencingToken
    ∧ areFaceNeighbors codec requested.sourceCellKey requested.destinationCellKey

instance (requested : CellTransferRecordV3) (source destination : CellAssignmentRecord) :
    Decidable (requested.RouteIsCurrent codec source destination) := by
  unfold CellTransferRecordV3.RouteIsCurrent; infer_instance

/-- A bundle at rest is set aside for its transfer. -/
def stageV3Prepare (document : CellDirectoryDocumentV3) (requested : CellTransferRecordV3) :
    Fallible CellDirectoryDocumentV3 := do
  document.validate codec
  rejectIf (¬ requested.Unproved)
    (conflict requested.transferId "v3 prepare request contains post-prepare evidence")
  let plan ← requested.validateIdentity codec requested.transferId
  let source ← demand (document.assignments.get? requested.sourceCellId)
    (.invalidDirectory "v3 prepare source assignment is unknown")
  let destination ← demand (document.assignments.get? requested.destinationCellId)
    (.invalidDirectory "v3 prepare destination assignment is unknown")
  requested.validatePhaseProofs codec.hashes source destination
  match document.transfers.get? requested.transferId with
  | some existing =>
    if existing.immutableMaterialMatches requested then return document
    else .error (conflict requested.transferId
      "v3 transfer ID is already bound to different immutable material")
  | none => do
    rejectIf (¬ requested.RouteIsCurrent codec source destination)
      (conflict requested.transferId "v3 prepare route does not match current cell authority")
    let placements ← stageBundledPlacementTransition codec.sky codec.memberRoot
      document.placements plan requested.transferId requested.bundle.memberRoot .prepare
    finishV3Transaction codec document
      { document with
        placements
        transfers := document.transfers.insert requested.transferId requested }

/-! ## The stages of a transfer on record -/

/-- The placements after an optional transition of a transfer's bundle. -/
def stagePlacements (document : CellDirectoryDocumentV3) (transferId : String)
    (current : CellTransferRecordV3) : Option BundledPlacementTransition → Fallible Placements
  | none => .ok document.placements
  | some transition => do
    let plan ← current.bundledPlan codec
    stageBundledPlacementTransition codec.sky codec.memberRoot document.placements plan transferId
      current.bundle.memberRoot transition

/-- `settled` answers true where the operation recognises its own earlier success, false where
    it is ready to happen, and with the conflict otherwise. -/
def stageTransfer (document : CellDirectoryDocumentV3) (transferId : String)
    (settled : CellTransferRecordV3 → Fallible Bool)
    (transition : Option BundledPlacementTransition)
    (record : CellTransferRecordV3 → CellTransferRecordV3) :
    Fallible CellDirectoryDocumentV3 := do
  document.validate codec
  let current ← v3Transfer document transferId
  if ← settled current then return document
  else do
    let placements ← stagePlacements codec document transferId current transition
    finishV3Transaction codec document
      { document with
        placements
        transfers := document.transfers.insert transferId (record current) }

/-- How a stage that records one proof is settled: the same proof in a phase that may hold it is
    a retry, any other proof a conflict. -/
def proofSettled (transferId : String) (existing : Option DirectoryPhaseProofV3)
    (proof : DirectoryPhaseProofV3) (retryPhase : Prop) [Decidable retryPhase]
    (changed : String) (ready : Prop) [Decidable ready] (notReady : String) : Fallible Bool :=
  match existing with
  | some recorded =>
    if recorded = proof ∧ retryPhase then .ok true else .error (conflict transferId changed)
  | none => if ready then .ok false else .error (conflict transferId notReady)

def applyV3SourcePrepareProof (document : CellDirectoryDocumentV3) (transferId : String)
    (proof : DirectoryPhaseProofV3) : Fallible CellDirectoryDocumentV3 :=
  stageTransfer codec document transferId
    (fun current => proofSettled transferId current.sourcePrepareProof proof
      True "v3 source-prepare retry changed its durable proof"
      (current.phase = .prepared) "v3 source-prepare proof arrived after prepare phase")
    none
    (fun current => { current with sourcePrepareProof := some proof })

/-- A quarantine that arrives while the transfer is being aborted is adopted without a change of
    phase, so that its reservation can be cleaned up. -/
def quarantineSettled (transferId receiptHash : String) (proof : DirectoryPhaseProofV3)
    (current : CellTransferRecordV3) : Fallible Bool :=
  if current.quarantineReceiptHash.isSome ∨ current.destinationQuarantineProof.isSome then
    if current.quarantineReceiptHash = some receiptHash
        ∧ current.destinationQuarantineProof = some proof then .ok true
    else .error (conflict transferId "v3 quarantine retry changed its receipt or durable proof")
  else if ¬ (current.phase = .prepared ∨ current.phase = .aborting)
      ∨ current.sourcePrepareProof = none ∨ current.destinationAbortProof.isSome then
    .error (conflict transferId "v3 transfer is not awaiting its first quarantine proof")
  else .ok false

def applyV3QuarantineProof (document : CellDirectoryDocumentV3) (transferId : String)
    (proof : DirectoryPhaseProofV3) : Fallible CellDirectoryDocumentV3 := do
  document.validate codec
  let receiptHash ← demand proof.quarantineReceiptHash
    (.invalidDirectory "typed destination-quarantine proof omits its receipt commitment")
  validateHashV3 receiptHash "quarantine receipt"
  stageTransfer codec document transferId (quarantineSettled transferId receiptHash proof) none
    (fun current => { current with
      quarantineReceiptHash := some receiptHash
      destinationQuarantineProof := some proof
      phase := if current.phase = .prepared then .quarantined else current.phase })

def stageV3Commit (document : CellDirectoryDocumentV3) (transferId expectedMemberRoot : String) :
    Fallible CellDirectoryDocumentV3 := do
  document.validate codec
  validateHashV3 expectedMemberRoot "member root"
  stageTransfer codec document transferId
    (fun current =>
      if current.bundle.memberRoot ≠ expectedMemberRoot then
        .error (conflict transferId "v3 commit member root changed after prepare")
      else if advanced current.phase then .ok true
      else if current.phase ≠ .quarantined ∨ current.sourcePrepareProof = none
          ∨ current.destinationQuarantineProof = none then
        .error (conflict transferId "v3 transfer is not quarantined with complete durable evidence")
      else .ok false)
    (some .commit)
    (fun current => { current with phase := .committed })

def applyV3ImportProof (document : CellDirectoryDocumentV3) (transferId : String)
    (proof : DirectoryPhaseProofV3) : Fallible CellDirectoryDocumentV3 :=
  stageTransfer codec document transferId
    (fun current => proofSettled transferId current.importProof proof
      (current.phase = .imported ∨ current.phase = .finalized)
      "v3 import retry changed its durable proof"
      (current.phase = .committed ∧ current.sourceExportProof.isSome)
      "v3 transfer is not committed with durable source-export evidence")
    (some .imported)
    (fun current => { current with importProof := some proof, phase := .imported })

def applyV3SourceExportProof (document : CellDirectoryDocumentV3) (transferId : String)
    (proof : DirectoryPhaseProofV3) : Fallible CellDirectoryDocumentV3 :=
  stageTransfer codec document transferId
    (fun current => proofSettled transferId current.sourceExportProof proof
      (current.phase = .committed ∨ current.phase = .imported ∨ current.phase = .finalized)
      "v3 source-export retry changed its durable proof"
      (current.phase = .committed ∧ current.importProof = none)
      "v3 source export requires a committed transfer before destination import")
    none
    (fun current => { current with sourceExportProof := some proof })

def applyV3DestinationActivationProof (document : CellDirectoryDocumentV3)
    (transferId : String) (proof : DirectoryPhaseProofV3) : Fallible CellDirectoryDocumentV3 :=
  stageTransfer codec document transferId
    (fun current => proofSettled transferId current.destinationActivationProof proof
      (current.phase = .imported ∨ current.phase = .finalized)
      "v3 destination-activation retry changed its durable proof"
      (current.phase = .imported ∧ current.importProof.isSome)
      "v3 destination activation requires a durably imported transfer")
    none
    (fun current => { current with destinationActivationProof := some proof })

def applyV3SourceFinalizationProof (document : CellDirectoryDocumentV3) (transferId : String)
    (proof : DirectoryPhaseProofV3) : Fallible CellDirectoryDocumentV3 :=
  stageTransfer codec document transferId
    (fun current => proofSettled transferId current.finalizationProof proof
      (current.phase = .finalized)
      "v3 finalization retry changed its durable proof"
      (current.phase = .imported ∧ current.importProof.isSome
        ∧ current.destinationActivationProof.isSome)
      "v3 transfer is not imported with durable destination-activation evidence")
    none
    (fun current => { current with finalizationProof := some proof, phase := .finalized })

def stageV3RequestAbort (document : CellDirectoryDocumentV3) (transferId : String) :
    Fallible CellDirectoryDocumentV3 :=
  stageTransfer codec document transferId
    (fun current =>
      if current.phase = .aborting ∨ current.phase = .aborted then .ok true
      else if ¬ (current.phase = .prepared ∨ current.phase = .quarantined) then
        .error (conflict transferId "v3 committed transfer cannot abort to its source")
      else .ok false)
    none
    (fun current => { current with phase := .aborting })

def applyV3AbortCleanupProof (document : CellDirectoryDocumentV3) (transferId : String)
    (proof : DirectoryPhaseProofV3) : Fallible CellDirectoryDocumentV3 :=
  stageTransfer codec document transferId
    (fun current =>
      let settled existing := proofSettled transferId existing proof
        (current.phase = .aborting ∨ current.phase = .aborted)
        "v3 abort cleanup retry changed its durable proof"
        (current.phase = .aborting) "v3 abort cleanup requires an aborting transfer"
      match proof.kind with
      | .sourceAbort => settled current.sourceAbortProof
      | .destinationAbort => settled current.destinationAbortProof
      | _ => .error (conflict transferId "v3 abort cleanup proof has a non-abort role"))
    none
    (fun current =>
      if proof.kind = .sourceAbort then { current with sourceAbortProof := some proof }
      else { current with destinationAbortProof := some proof })

def stageV3FinalizeAbort (document : CellDirectoryDocumentV3) (transferId : String) :
    Fallible CellDirectoryDocumentV3 :=
  stageTransfer codec document transferId
    (fun current =>
      if current.phase = .aborted then .ok true
      else if current.phase ≠ .aborting ∨ current.sourceAbortProof = none
          ∨ current.destinationAbortProof = none then
        .error (conflict transferId "v3 abort cannot finalize before both durable cell cleanups")
      else .ok false)
    (some .abort)
    (fun current => { current with phase := .aborted })

/-! ## From the typed proofs -/

/-- What the stages that take a typed proof do first: the proof validates, and it is about the
    root that the transfer on record is about. -/
def stageProof (document : CellDirectoryDocumentV3) (transferId : String)
    (checked : Except String Unit) (what : String) (rootAggregateId changedRoot : String)
    (apply : Fallible CellDirectoryDocumentV3) : Fallible CellDirectoryDocumentV3 := do
  checked.mapError fun source => .invalidDirectory s!"grid {what} proof is invalid: {source}"
  document.validate codec
  let current ← v3Transfer document transferId
  rejectIf (rootAggregateId ≠ current.rootAggregateId) (conflict transferId changedRoot)
  apply

def stageV3SourcePrepared (document : CellDirectoryDocumentV3) (transferId : String)
    (prepare : DraftGridPrepareProofV2) : Fallible CellDirectoryDocumentV3 :=
  stageProof codec document transferId (prepare.validateForDirectory codec.hashes)
    "source-prepare" prepare.rootAggregateId
    "v3 source-prepare proof changed its root aggregate"
    (applyV3SourcePrepareProof codec document transferId
      { kind := .sourcePrepare
        transferId := prepare.transferId
        memberRoot := prepare.memberRoot
        packageHash := prepare.packageHash
        cellId := prepare.sourceCellId
        assignmentGeneration := prepare.assignmentGeneration
        fencingToken := prepare.fencingToken
        eventSequence := prepare.eventSequence
        eventHash := prepare.eventHash
        eventPayloadHash := some prepare.eventPayloadHash
        worldHash := prepare.resultingActiveWorldHash
        prepareProofHash := some prepare.proofHash
        priorEventSequence := some prepare.priorEventSequence
        priorEventHash := some prepare.priorEventHash
        priorActiveWorldHash := some prepare.priorActiveWorldHash
        mutationWitnessHash := some prepare.mutationWitnessHash
        preparedAtSimulationTick := some prepare.preparedAtSimulationTick })

def stageV3Quarantine (document : CellDirectoryDocumentV3) (transferId : String)
    (quarantine : DraftGridQuarantineProofV2) : Fallible CellDirectoryDocumentV3 :=
  stageProof codec document transferId (quarantine.validateForDirectory codec.hashes)
    "destination-quarantine" quarantine.rootAggregateId
    "v3 destination-quarantine proof changed its root aggregate"
    (applyV3QuarantineProof codec document transferId
      { kind := .destinationQuarantine
        transferId := quarantine.transferId
        memberRoot := quarantine.memberRoot
        packageHash := quarantine.packageHash
        cellId := quarantine.destinationCellId
        assignmentGeneration := quarantine.assignmentGeneration
        fencingToken := quarantine.fencingToken
        eventSequence := quarantine.eventSequence
        eventHash := quarantine.eventHash
        eventPayloadHash := some quarantine.eventPayloadHash
        worldHash := quarantine.resultingActiveWorldHash
        quarantineReceiptHash := some quarantine.quarantineReceiptHash
        quarantineProofHash := some quarantine.proofHash
        priorEventSequence := some quarantine.priorEventSequence
        priorEventHash := some quarantine.priorEventHash
        priorActiveWorldHash := some quarantine.priorActiveWorldHash
        quarantinedAtUnixMs := some quarantine.quarantinedAtUnixMs
        mutationWitnessHash := some quarantine.mutationWitnessHash })

def stageV3DestinationImported (document : CellDirectoryDocumentV3) (transferId : String)
    (imported : DraftGridImportProofV2) : Fallible CellDirectoryDocumentV3 :=
  stageProof codec document transferId (imported.validate codec.hashes)
    "destination-import" imported.rootAggregateId
    "v3 destination-import proof changed its root aggregate"
    (applyV3ImportProof codec document transferId
      { kind := .destinationImport
        transferId := imported.transferId
        memberRoot := imported.memberRoot
        packageHash := imported.packageHash
        cellId := imported.destinationCellId
        assignmentGeneration := imported.assignmentGeneration
        fencingToken := imported.fencingToken
        eventSequence := imported.eventSequence
        eventHash := imported.eventHash
        eventPayloadHash := some imported.eventPayloadHash
        worldHash := imported.resultingActiveWorldHash
        quarantineReceiptHash := some imported.quarantineReceiptHash
        importProofHash := some imported.proofHash
        priorEventSequence := some imported.priorEventSequence
        priorEventHash := some imported.priorEventHash
        priorDraftWorldHash := some imported.priorDraftWorldHash
        quarantinedAtUnixMs := some imported.quarantinedAtUnixMs
        sourceExportProofHash := some imported.sourceExportProofHash
        sourceExportedAtUnixMs := some imported.sourceExportedAtUnixMs
        destinationProductionLifecycleGeneration :=
          some imported.destinationProductionLifecycleGeneration
        productionEligibilityRoot := some imported.productionEligibilityRoot
        mutationWitnessHash := some imported.mutationWitnessHash
        ledgerVector := some imported.ledgerVector
        trustedTimeUnixMs := some imported.importedAtUnixMs })

def stageV3SourceExported (document : CellDirectoryDocumentV3) (transferId : String)
    (exported : DraftGridExportProofV2) : Fallible CellDirectoryDocumentV3 :=
  stageProof codec document transferId (exported.validate codec.hashes)
    "source-export" exported.rootAggregateId
    "v3 source-export proof changed its root aggregate"
    (applyV3SourceExportProof codec document transferId
      { kind := .sourceExport
        transferId := exported.transferId
        memberRoot := exported.memberRoot
        packageHash := exported.packageHash
        cellId := exported.sourceCellId
        assignmentGeneration := exported.assignmentGeneration
        fencingToken := exported.fencingToken
        eventSequence := exported.eventSequence
        eventHash := exported.eventHash
        eventPayloadHash := some exported.eventPayloadHash
        worldHash := exported.resultingActiveWorldHash
        quarantineReceiptHash := some exported.quarantineReceiptHash
        exportProofHash := some exported.proofHash
        priorEventSequence := some exported.priorEventSequence
        priorEventHash := some exported.priorEventHash
        priorDraftWorldHash := some exported.priorDraftWorldHash
        mutationWitnessHash := some exported.mutationWitnessHash
        ledgerVector := some exported.ledgerVector
        trustedTimeUnixMs := some exported.exportedAtUnixMs })

def stageV3DestinationActivated (document : CellDirectoryDocumentV3) (transferId : String)
    (activation : DraftGridActivationProofV2) : Fallible CellDirectoryDocumentV3 :=
  stageProof codec document transferId (activation.validate codec.hashes)
    "destination-activation" activation.rootAggregateId
    "v3 destination-activation proof changed its root aggregate"
    (applyV3DestinationActivationProof codec document transferId
      { kind := .destinationActivation
        transferId := activation.transferId
        memberRoot := activation.memberRoot
        packageHash := activation.packageHash
        cellId := activation.destinationCellId
        assignmentGeneration := activation.assignmentGeneration
        fencingToken := activation.fencingToken
        eventSequence := activation.eventSequence
        eventHash := activation.eventHash
        eventPayloadHash := some activation.eventPayloadHash
        worldHash := activation.resultingActiveWorldHash
        quarantineReceiptHash := some activation.quarantineReceiptHash
        activationProofHash := some activation.proofHash
        destinationImportProofHash := some activation.destinationImportProofHash
        priorEventSequence := some activation.priorEventSequence
        priorEventHash := some activation.priorEventHash
        priorActiveWorldHash := some activation.priorActiveWorldHash
        importedAtUnixMs := some activation.importedAtUnixMs
        productionEligibilityRoot := some activation.productionEligibilityRoot
        mutationWitnessHash := some activation.mutationWitnessHash
        trustedTimeUnixMs := some activation.activatedAtUnixMs })

def stageV3SourceFinalized (document : CellDirectoryDocumentV3) (transferId : String)
    (finalization : DraftGridFinalizationProofV2) : Fallible CellDirectoryDocumentV3 :=
  stageProof codec document transferId (finalization.validate codec.hashes)
    "source-finalization" finalization.rootAggregateId
    "v3 source-finalization proof changed its root aggregate"
    (applyV3SourceFinalizationProof codec document transferId
      { kind := .sourceFinalization
        transferId := finalization.transferId
        memberRoot := finalization.memberRoot
        packageHash := finalization.packageHash
        cellId := finalization.sourceCellId
        assignmentGeneration := finalization.assignmentGeneration
        fencingToken := finalization.fencingToken
        eventSequence := finalization.eventSequence
        eventHash := finalization.eventHash
        eventPayloadHash := some finalization.eventPayloadHash
        worldHash := finalization.resultingActiveWorldHash
        activationProofHash := some finalization.destinationActivationProofHash
        finalizationProofHash := some finalization.proofHash
        destinationImportProofHash := some finalization.destinationImportProofHash
        priorEventSequence := some finalization.priorEventSequence
        priorEventHash := some finalization.priorEventHash
        priorActiveWorldHash := some finalization.priorActiveWorldHash
        importedAtUnixMs := some finalization.importedAtUnixMs
        destinationActivatedAtUnixMs := some finalization.activatedAtUnixMs
        sourceExportProofHash := some finalization.sourceExportProofHash
        sourceExportedAtUnixMs := some finalization.sourceExportedAtUnixMs
        mutationWitnessHash := some finalization.mutationWitnessHash
        trustedTimeUnixMs := some finalization.finalizedAtUnixMs })

/-- The one stage whose typed proof does not name the root, and which does not look at it. -/
def stageV3AbortCleanup (document : CellDirectoryDocumentV3) (transferId : String)
    (cleanup : DraftGridAbortCleanupProofV2) : Fallible CellDirectoryDocumentV3 := do
  (cleanup.validate codec.hashes).mapError fun source =>
    .invalidDirectory s!"grid abort cleanup proof is invalid: {source}"
  applyV3AbortCleanupProof codec document transferId
    { kind := match cleanup.side with
        | .source => .sourceAbort
        | .destination => .destinationAbort
      transferId := cleanup.transferId
      memberRoot := cleanup.memberRoot
      packageHash := cleanup.packageHash
      cellId := cleanup.cellId
      assignmentGeneration := cleanup.assignmentGeneration
      fencingToken := cleanup.fencingToken
      eventSequence := cleanup.eventSequence
      eventHash := cleanup.eventHash
      eventPayloadHash := some cleanup.eventPayloadHash
      worldHash := cleanup.resultingDraftWorldHash
      quarantineReceiptHash := cleanup.quarantineReceiptHash
      priorEventSequence := some cleanup.priorEventSequence
      priorEventHash := some cleanup.priorEventHash
      priorDraftWorldHash := some cleanup.priorDraftWorldHash
      mutationWitnessHash := some cleanup.mutationWitnessHash
      trustedTimeUnixMs := some cleanup.trustedTimeUnixMs
      abortWitnessHash := some cleanup.abortWitnessHash
      abortProofHash := some cleanup.proofHash
      resultingDraftWorldHash := some cleanup.resultingDraftWorldHash
      abortRemovedAuthority := some cleanup.removedAuthority }

end Verse.DirectoryV3
