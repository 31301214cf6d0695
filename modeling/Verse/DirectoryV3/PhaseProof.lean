import Verse.DirectoryV3.Document

/-!
# A recorded proof against its transfer

The directory re-reads every proof it holds each time the document changes. A proof must be of
the kind its slot is for, in the cell and under a fence that the cell's history knows, must
carry the fields of its kind and no others, and, where its kind has a typed proof, must be one.

The checks of one kind are spread over a dozen bindings, each saying for every kind whether a
group of fields is there; the last check asks for all of them at once.
-/

namespace Verse.DirectoryV3

open Lib Directory

/-- `validate_stable_id` of directory v3. -/
def validateStableIdV3 (value kind : String) : Fallible Unit :=
  rejectIf (¬ validStableId value)
    (.invalidDirectory s!"v3 {kind} ID is not bounded canonical text")

/-- `validate_hash` of directory v3. -/
def validateHashV3 (value kind : String) : Fallible Unit :=
  rejectIf (¬ validBlake3Hex value)
    (.invalidDirectory s!"v3 {kind} hash is not canonical BLAKE3 text")

section

variable (hashes : HandoffHashes)

/-! ## Back to the typed proofs -/

namespace DirectoryPhaseProofV3

variable (proof : DirectoryPhaseProofV3)

/-- `is_ok().then_some(proof)`: a typed proof only where it validates. -/
def whenValid {α : Type} (validate : α → Except String Unit) (typed : α) : Option α :=
  match validate typed with
  | .ok _ => some typed
  | .error _ => none

def sourcePrepareCellProof (rootAggregateId : String) : Option DraftGridPrepareProofV2 := do
  whenValid (·.validateForDirectory hashes)
    { transferId := proof.transferId
      rootAggregateId
      memberRoot := proof.memberRoot
      packageHash := proof.packageHash
      sourceCellId := proof.cellId
      assignmentGeneration := proof.assignmentGeneration
      fencingToken := proof.fencingToken
      priorEventSequence := ← proof.priorEventSequence
      priorEventHash := ← proof.priorEventHash
      eventSequence := proof.eventSequence
      eventHash := proof.eventHash
      eventPayloadHash := ← proof.eventPayloadHash
      priorActiveWorldHash := ← proof.priorActiveWorldHash
      resultingActiveWorldHash := proof.worldHash
      preparedAtSimulationTick := ← proof.preparedAtSimulationTick
      mutationWitnessHash := ← proof.mutationWitnessHash
      proofHash := ← proof.prepareProofHash }

def destinationQuarantineCellProof (rootAggregateId : String) :
    Option DraftGridQuarantineProofV2 := do
  whenValid (·.validateForDirectory hashes)
    { transferId := proof.transferId
      rootAggregateId
      memberRoot := proof.memberRoot
      packageHash := proof.packageHash
      destinationCellId := proof.cellId
      assignmentGeneration := proof.assignmentGeneration
      fencingToken := proof.fencingToken
      priorEventSequence := ← proof.priorEventSequence
      priorEventHash := ← proof.priorEventHash
      eventSequence := proof.eventSequence
      eventHash := proof.eventHash
      eventPayloadHash := ← proof.eventPayloadHash
      priorActiveWorldHash := ← proof.priorActiveWorldHash
      resultingActiveWorldHash := proof.worldHash
      quarantineReceiptHash := ← proof.quarantineReceiptHash
      quarantinedAtUnixMs := ← proof.quarantinedAtUnixMs
      mutationWitnessHash := ← proof.mutationWitnessHash
      proofHash := ← proof.quarantineProofHash }

/-- The export proof `validate_phase_proof` builds: three fields are needed, the others have
    defaults, which no valid proof carries. -/
def sourceExportCellProof (rootAggregateId : String) : Option DraftGridExportProofV2 := do
  whenValid (·.validate hashes)
    { transferId := proof.transferId
      rootAggregateId
      memberRoot := proof.memberRoot
      packageHash := proof.packageHash
      sourceCellId := proof.cellId
      assignmentGeneration := proof.assignmentGeneration
      fencingToken := proof.fencingToken
      priorEventSequence := proof.priorEventSequence.getD 0
      priorEventHash := proof.priorEventHash.getD ""
      eventSequence := proof.eventSequence
      eventHash := proof.eventHash
      eventPayloadHash := proof.eventPayloadHash.getD ""
      priorDraftWorldHash := proof.priorDraftWorldHash.getD ""
      resultingActiveWorldHash := proof.worldHash
      quarantineReceiptHash := proof.quarantineReceiptHash.getD ""
      exportedAtUnixMs := proof.trustedTimeUnixMs.getD 0
      mutationWitnessHash := ← proof.mutationWitnessHash
      proofHash := ← proof.exportProofHash
      ledgerVector := ← proof.ledgerVector }

def destinationImportCellProof (rootAggregateId : String) : Option DraftGridImportProofV2 := do
  whenValid (·.validate hashes)
    { transferId := proof.transferId
      rootAggregateId
      memberRoot := proof.memberRoot
      packageHash := proof.packageHash
      destinationCellId := proof.cellId
      assignmentGeneration := proof.assignmentGeneration
      fencingToken := proof.fencingToken
      priorEventSequence := ← proof.priorEventSequence
      priorEventHash := ← proof.priorEventHash
      eventSequence := proof.eventSequence
      eventHash := proof.eventHash
      eventPayloadHash := proof.eventPayloadHash.getD ""
      priorDraftWorldHash := ← proof.priorDraftWorldHash
      resultingActiveWorldHash := proof.worldHash
      quarantineReceiptHash := proof.quarantineReceiptHash.getD ""
      quarantinedAtUnixMs := ← proof.quarantinedAtUnixMs
      sourceExportProofHash := ← proof.sourceExportProofHash
      sourceExportedAtUnixMs := ← proof.sourceExportedAtUnixMs
      importedAtUnixMs := ← proof.trustedTimeUnixMs
      destinationProductionLifecycleGeneration :=
        ← proof.destinationProductionLifecycleGeneration
      productionEligibilityRoot := ← proof.productionEligibilityRoot
      mutationWitnessHash := ← proof.mutationWitnessHash
      proofHash := ← proof.importProofHash
      ledgerVector := ← proof.ledgerVector }

def destinationActivationCellProof (rootAggregateId : String) :
    Option DraftGridActivationProofV2 := do
  whenValid (·.validate hashes)
    { transferId := proof.transferId
      rootAggregateId
      memberRoot := proof.memberRoot
      packageHash := proof.packageHash
      destinationCellId := proof.cellId
      assignmentGeneration := proof.assignmentGeneration
      fencingToken := proof.fencingToken
      priorEventSequence := ← proof.priorEventSequence
      priorEventHash := ← proof.priorEventHash
      eventSequence := proof.eventSequence
      eventHash := proof.eventHash
      eventPayloadHash := proof.eventPayloadHash.getD ""
      priorActiveWorldHash := ← proof.priorActiveWorldHash
      resultingActiveWorldHash := proof.worldHash
      quarantineReceiptHash := proof.quarantineReceiptHash.getD ""
      destinationImportProofHash := ← proof.destinationImportProofHash
      importedAtUnixMs := ← proof.importedAtUnixMs
      activatedAtUnixMs := ← proof.trustedTimeUnixMs
      productionEligibilityRoot := ← proof.productionEligibilityRoot
      mutationWitnessHash := ← proof.mutationWitnessHash
      proofHash := ← proof.activationProofHash }

def sourceFinalizationCellProof (rootAggregateId : String) :
    Option DraftGridFinalizationProofV2 := do
  whenValid (·.validate hashes)
    { transferId := proof.transferId
      rootAggregateId
      memberRoot := proof.memberRoot
      packageHash := proof.packageHash
      sourceCellId := proof.cellId
      assignmentGeneration := proof.assignmentGeneration
      fencingToken := proof.fencingToken
      priorEventSequence := ← proof.priorEventSequence
      priorEventHash := ← proof.priorEventHash
      eventSequence := proof.eventSequence
      eventHash := proof.eventHash
      eventPayloadHash := ← proof.eventPayloadHash
      priorActiveWorldHash := ← proof.priorActiveWorldHash
      resultingActiveWorldHash := proof.worldHash
      sourceExportProofHash := ← proof.sourceExportProofHash
      sourceExportedAtUnixMs := ← proof.sourceExportedAtUnixMs
      destinationImportProofHash := ← proof.destinationImportProofHash
      importedAtUnixMs := ← proof.importedAtUnixMs
      destinationActivationProofHash := ← proof.activationProofHash
      activatedAtUnixMs := ← proof.destinationActivatedAtUnixMs
      finalizedAtUnixMs := ← proof.trustedTimeUnixMs
      mutationWitnessHash := ← proof.mutationWitnessHash
      proofHash := ← proof.finalizationProofHash }

/-- The cleanup proof `validate_phase_proof` builds for one side. -/
def abortCellProof (side : DraftGridTransferAbortSideV2) :
    Option DraftGridAbortCleanupProofV2 := do
  whenValid (·.validate hashes)
    { side
      transferId := proof.transferId
      memberRoot := proof.memberRoot
      packageHash := proof.packageHash
      cellId := proof.cellId
      assignmentGeneration := proof.assignmentGeneration
      fencingToken := proof.fencingToken
      eventSequence := proof.eventSequence
      eventHash := proof.eventHash
      eventPayloadHash := proof.eventPayloadHash.getD ""
      priorEventSequence := proof.priorEventSequence.getD 0
      priorEventHash := proof.priorEventHash.getD ""
      priorDraftWorldHash := proof.priorDraftWorldHash.getD ""
      resultingDraftWorldHash := proof.worldHash
      trustedTimeUnixMs := proof.trustedTimeUnixMs.getD 0
      mutationWitnessHash := proof.mutationWitnessHash.getD ""
      quarantineReceiptHash := proof.quarantineReceiptHash
      abortWitnessHash := ← proof.abortWitnessHash
      removedAuthority := ← proof.abortRemovedAuthority
      proofHash := proof.abortProofHash.getD "" }

end DirectoryPhaseProofV3

/-! ## The bindings -/

namespace CellTransferRecordV3

variable (transfer : CellTransferRecordV3) (proof : DirectoryPhaseProofV3)
  (expectedKind : DirectoryPhaseProofKindV3)

def prepareBindingValid : Prop :=
  if expectedKind = .sourcePrepare then
    (proof.sourcePrepareCellProof hashes transfer.rootAggregateId).isSome
  else proof.prepareProofHash = none ∧ proof.preparedAtSimulationTick = none

def quarantineBindingValid : Prop :=
  if expectedKind = .destinationQuarantine then
    (proof.destinationQuarantineCellProof hashes transfer.rootAggregateId).isSome
  else proof.quarantineProofHash = none

def exportBindingValid : Prop :=
  if expectedKind = .sourceExport then
    (proof.sourceExportCellProof hashes transfer.rootAggregateId).isSome
  else proof.exportProofHash = none

/-- What the kinds say of the fields an import adds; only the import itself is compared with the
    export it follows. -/
def importBindingValid : Prop :=
  match expectedKind with
  | .destinationImport =>
    (proof.destinationImportCellProof hashes transfer.rootAggregateId).isSome
      ∧ ∃ sourceExport ∈ transfer.sourceExportProof,
        proof.sourceExportProofHash = sourceExport.exportProofHash
          ∧ proof.sourceExportedAtUnixMs = sourceExport.trustedTimeUnixMs
  | .sourceFinalization =>
    proof.importProofHash = none ∧ proof.priorDraftWorldHash = none
      ∧ proof.quarantinedAtUnixMs = none ∧ proof.sourceExportProofHash.isSome
      ∧ proof.sourceExportedAtUnixMs.isSome
      ∧ proof.destinationProductionLifecycleGeneration = none
  | .destinationQuarantine =>
    proof.importProofHash = none ∧ proof.priorDraftWorldHash = none
      ∧ proof.quarantinedAtUnixMs.isSome ∧ proof.sourceExportProofHash = none
      ∧ proof.sourceExportedAtUnixMs = none
      ∧ proof.destinationProductionLifecycleGeneration = none
  | .sourceAbort | .destinationAbort | .sourceExport =>
    proof.importProofHash = none ∧ proof.priorDraftWorldHash.isSome
      ∧ proof.quarantinedAtUnixMs = none ∧ proof.sourceExportProofHash = none
      ∧ proof.sourceExportedAtUnixMs = none
      ∧ proof.destinationProductionLifecycleGeneration = none
  | .sourcePrepare | .destinationActivation =>
    proof.importProofHash = none ∧ proof.priorDraftWorldHash = none
      ∧ proof.quarantinedAtUnixMs = none ∧ proof.sourceExportProofHash = none
      ∧ proof.sourceExportedAtUnixMs = none
      ∧ proof.destinationProductionLifecycleGeneration = none

/-- An activation follows the import on record: no earlier fence, no earlier event, and where it
    is the very next event, the import's own hashes. -/
def activationFollows (imported : DirectoryPhaseProofV3) : Prop :=
  proof.destinationImportProofHash = imported.importProofHash
    ∧ proof.importedAtUnixMs = imported.trustedTimeUnixMs
    ∧ proof.productionEligibilityRoot = imported.productionEligibilityRoot
    ∧ proof.assignmentGeneration ≥ imported.assignmentGeneration
    ∧ proof.fencingToken ≥ imported.fencingToken
    ∧ (∃ sequence ∈ proof.priorEventSequence, sequence ≥ imported.eventSequence)
    ∧ (proof.priorEventSequence ≠ some imported.eventSequence
      ∨ (proof.priorEventHash = some imported.eventHash
        ∧ proof.priorActiveWorldHash = some imported.worldHash))

def activationBindingValid : Prop :=
  match expectedKind with
  | .destinationActivation =>
    (proof.destinationActivationCellProof hashes transfer.rootAggregateId).isSome
      ∧ ∃ imported ∈ transfer.importProof, activationFollows proof imported
  | .sourceFinalization =>
    proof.activationProofHash.isSome ∧ proof.destinationImportProofHash.isSome
      ∧ proof.priorActiveWorldHash.isSome ∧ proof.importedAtUnixMs.isSome
  | .sourcePrepare | .destinationQuarantine =>
    proof.activationProofHash = none ∧ proof.destinationImportProofHash = none
      ∧ proof.priorActiveWorldHash.isSome ∧ proof.importedAtUnixMs = none
  | .sourceExport | .destinationImport | .sourceAbort | .destinationAbort =>
    proof.activationProofHash = none ∧ proof.destinationImportProofHash = none
      ∧ proof.priorActiveWorldHash = none ∧ proof.importedAtUnixMs = none

/-- A finalization names the three proofs it closes. -/
def finalizationNames (finalization : DraftGridFinalizationProofV2) : Prop :=
  (∃ exported ∈ transfer.sourceExportProof,
      exported.exportProofHash = some finalization.sourceExportProofHash
        ∧ exported.trustedTimeUnixMs = some finalization.sourceExportedAtUnixMs)
    ∧ (∃ imported ∈ transfer.importProof,
      imported.importProofHash = some finalization.destinationImportProofHash
        ∧ imported.trustedTimeUnixMs = some finalization.importedAtUnixMs)
    ∧ ∃ activation ∈ transfer.destinationActivationProof,
      activation.activationProofHash = some finalization.destinationActivationProofHash
        ∧ activation.trustedTimeUnixMs = some finalization.activatedAtUnixMs

def finalizationBindingValid : Prop :=
  if expectedKind = .sourceFinalization then
    ∃ finalization ∈ proof.sourceFinalizationCellProof hashes transfer.rootAggregateId,
      transfer.finalizationNames finalization
  else proof.finalizationProofHash = none ∧ proof.destinationActivatedAtUnixMs = none

/-- Every kind has an event predecessor. -/
def eventPredecessorValid : Prop :=
  proof.priorEventSequence.isSome ∧ proof.priorEventHash.isSome

def productionRootValid : Prop :=
  (expectedKind = .destinationImport ∨ expectedKind = .destinationActivation)
    ↔ proof.productionEligibilityRoot.isSome

def sharedHandoffBindingValid : Prop :=
  match expectedKind with
  | .sourcePrepare =>
    proof.mutationWitnessHash.isSome ∧ proof.trustedTimeUnixMs = none
      ∧ proof.preparedAtSimulationTick.isSome
  | .destinationQuarantine =>
    proof.mutationWitnessHash.isSome ∧ proof.trustedTimeUnixMs = none
      ∧ proof.preparedAtSimulationTick = none
  | .sourceExport | .destinationImport | .destinationActivation | .sourceFinalization
  | .sourceAbort | .destinationAbort =>
    proof.mutationWitnessHash.isSome ∧ proof.trustedTimeUnixMs.isSome
      ∧ proof.preparedAtSimulationTick = none

def ledgerBindingValid : Prop :=
  (expectedKind = .sourceExport ∨ expectedKind = .destinationImport)
    ↔ proof.ledgerVector.isSome

def abortBindingValid : Prop :=
  match expectedKind with
  | .sourceAbort =>
    proof.resultingDraftWorldHash = some proof.worldHash
      ∧ (proof.abortCellProof hashes .source).isSome
  | .destinationAbort =>
    proof.resultingDraftWorldHash = some proof.worldHash
      ∧ (proof.abortCellProof hashes .destination).isSome
  | _ =>
    proof.abortWitnessHash = none ∧ proof.abortProofHash = none
      ∧ proof.resultingDraftWorldHash = none ∧ proof.abortRemovedAuthority = none

/-- A source cleanup may have been recorded before the receipt was known. -/
def receiptBindingValid (bindsReceipt : Bool) : Prop :=
  if expectedKind = .sourceAbort then
    ∀ receipt ∈ proof.quarantineReceiptHash, transfer.quarantineReceiptHash = some receipt
  else if bindsReceipt then proof.quarantineReceiptHash = transfer.quarantineReceiptHash
  else proof.quarantineReceiptHash = none

instance : Decidable (transfer.prepareBindingValid hashes proof expectedKind) := by
  unfold prepareBindingValid; infer_instance

instance : Decidable (transfer.quarantineBindingValid hashes proof expectedKind) := by
  unfold quarantineBindingValid; infer_instance

instance : Decidable (transfer.exportBindingValid hashes proof expectedKind) := by
  unfold exportBindingValid; infer_instance

instance : Decidable (transfer.importBindingValid hashes proof expectedKind) := by
  unfold importBindingValid; cases expectedKind <;> infer_instance

instance (imported : DirectoryPhaseProofV3) : Decidable (activationFollows proof imported) := by
  unfold activationFollows; infer_instance

instance : Decidable (transfer.activationBindingValid hashes proof expectedKind) := by
  unfold activationBindingValid; cases expectedKind <;> infer_instance

instance (finalization : DraftGridFinalizationProofV2) :
    Decidable (transfer.finalizationNames finalization) := by
  unfold finalizationNames; infer_instance

instance : Decidable (transfer.finalizationBindingValid hashes proof expectedKind) := by
  unfold finalizationBindingValid; infer_instance

instance : Decidable (eventPredecessorValid proof) := by
  unfold eventPredecessorValid; infer_instance

instance : Decidable (productionRootValid proof expectedKind) := by
  unfold productionRootValid; infer_instance

instance : Decidable (sharedHandoffBindingValid proof expectedKind) := by
  unfold sharedHandoffBindingValid; cases expectedKind <;> infer_instance

instance : Decidable (ledgerBindingValid proof expectedKind) := by
  unfold ledgerBindingValid; infer_instance

instance : Decidable (abortBindingValid hashes proof expectedKind) := by
  unfold abortBindingValid; cases expectedKind <;> infer_instance

instance (bindsReceipt : Bool) :
    Decidable (transfer.receiptBindingValid proof expectedKind bindsReceipt) := by
  unfold receiptBindingValid; infer_instance

/-! ## The check of one proof -/

/-- The optional hashes of a proof, each with what its error calls it, in the order in which
    they are checked. -/
def optionalHashes : List (Option String × String) :=
  [(proof.eventPayloadHash, "phase event payload"),
    (proof.prepareProofHash, "source-prepare proof"),
    (proof.quarantineProofHash, "destination-quarantine proof"),
    (proof.abortWitnessHash, "abort witness"), (proof.abortProofHash, "abort cleanup proof"),
    (proof.exportProofHash, "source-export proof"),
    (proof.importProofHash, "destination-import proof"),
    (proof.activationProofHash, "destination-activation proof"),
    (proof.finalizationProofHash, "source-finalization proof"),
    (proof.destinationImportProofHash, "activation destination-import proof"),
    (proof.priorEventHash.filter (· ≠ ""), "prior phase event"),
    (proof.priorDraftWorldHash, "prior draft world"),
    (proof.priorActiveWorldHash, "prior active world"),
    (proof.sourceExportProofHash, "import source-export proof"),
    (proof.productionEligibilityRoot, "import production eligibility"),
    (proof.mutationWitnessHash, "source-export mutation witness"),
    (proof.resultingDraftWorldHash, "resulting draft world")]

/-- `validate_phase_proof` of a proof that is there. -/
def validatePresentProof (expectedCellId : String) (minimumGeneration : Nat)
    (assignment : CellAssignmentRecord) (bindsReceipt : Bool) : Fallible Unit := do
  validateHashV3 proof.eventHash "phase event"
  validateHashV3 proof.worldHash "phase world"
  checkAll (fun field => whenSome field.1 fun hash => validateHashV3 hash field.2)
    (optionalHashes proof)
  rejectIf (proof.kind ≠ expectedKind
      ∨ proof.transferId ≠ transfer.transferId
      ∨ proof.memberRoot ≠ transfer.bundle.memberRoot
      ∨ proof.packageHash ≠ transfer.bundle.packageHash
      ∨ proof.cellId ≠ expectedCellId
      ∨ proof.assignmentGeneration < minimumGeneration
      ∨ assignment.fencingHistory.get? proof.assignmentGeneration ≠ some proof.fencingToken
      ∨ proof.eventSequence = 0
      ∨ ¬ transfer.prepareBindingValid hashes proof expectedKind
      ∨ ¬ transfer.quarantineBindingValid hashes proof expectedKind
      ∨ ¬ transfer.exportBindingValid hashes proof expectedKind
      ∨ ¬ transfer.importBindingValid hashes proof expectedKind
      ∨ ¬ transfer.activationBindingValid hashes proof expectedKind
      ∨ ¬ transfer.finalizationBindingValid hashes proof expectedKind
      ∨ ¬ eventPredecessorValid proof
      ∨ ¬ productionRootValid proof expectedKind
      ∨ ¬ sharedHandoffBindingValid proof expectedKind
      ∨ proof.eventPayloadHash = none
      ∨ ¬ ledgerBindingValid proof expectedKind
      ∨ ¬ abortBindingValid hashes proof expectedKind
      ∨ ¬ transfer.receiptBindingValid proof expectedKind bindsReceipt)
    (.invalidDirectory s!"v3 transfer {transfer.transferId} contains an invalid phase proof")

def validatePhaseProof (present : Option DirectoryPhaseProofV3) (expectedCellId : String)
    (minimumGeneration : Nat) (assignment : CellAssignmentRecord) (bindsReceipt : Bool) :
    Fallible Unit :=
  whenSome present fun proof =>
    transfer.validatePresentProof hashes proof expectedKind expectedCellId minimumGeneration
      assignment bindsReceipt

def validateProofOrder (earlier later : Option DirectoryPhaseProofV3) (phasePair : String) :
    Fallible Unit :=
  whenSome earlier fun first =>
    whenSome later fun second =>
      rejectIf (second.cellId ≠ first.cellId
          ∨ second.assignmentGeneration < first.assignmentGeneration
          ∨ second.eventSequence ≤ first.eventSequence)
        (.invalidDirectory s!"v3 transfer proof order is invalid for {phasePair}")

/-! ## The matrix of phases and proofs -/

/-- Which proofs each phase holds. -/
def phaseValid : Prop :=
  match transfer.phase with
  | .prepared =>
    transfer.quarantineReceiptHash = none ∧ transfer.destinationQuarantineProof = none
      ∧ transfer.sourceExportProof = none ∧ transfer.importProof = none
      ∧ transfer.destinationActivationProof = none ∧ transfer.finalizationProof = none
      ∧ transfer.sourceAbortProof = none ∧ transfer.destinationAbortProof = none
  | .quarantined =>
    transfer.quarantineReceiptHash.isSome ∧ transfer.sourcePrepareProof.isSome
      ∧ transfer.destinationQuarantineProof.isSome
      ∧ transfer.sourceExportProof = none ∧ transfer.importProof = none
      ∧ transfer.destinationActivationProof = none ∧ transfer.finalizationProof = none
      ∧ transfer.sourceAbortProof = none ∧ transfer.destinationAbortProof = none
  | .committed =>
    transfer.quarantineReceiptHash.isSome ∧ transfer.sourcePrepareProof.isSome
      ∧ transfer.destinationQuarantineProof.isSome
      ∧ transfer.importProof = none
      ∧ transfer.destinationActivationProof = none ∧ transfer.finalizationProof = none
      ∧ transfer.sourceAbortProof = none ∧ transfer.destinationAbortProof = none
  | .imported =>
    transfer.quarantineReceiptHash.isSome ∧ transfer.sourcePrepareProof.isSome
      ∧ transfer.destinationQuarantineProof.isSome
      ∧ transfer.sourceExportProof.isSome ∧ transfer.importProof.isSome
      ∧ transfer.finalizationProof = none
      ∧ transfer.sourceAbortProof = none ∧ transfer.destinationAbortProof = none
  | .finalized =>
    transfer.quarantineReceiptHash.isSome ∧ transfer.sourcePrepareProof.isSome
      ∧ transfer.destinationQuarantineProof.isSome
      ∧ transfer.sourceExportProof.isSome ∧ transfer.importProof.isSome
      ∧ transfer.destinationActivationProof.isSome ∧ transfer.finalizationProof.isSome
      ∧ transfer.sourceAbortProof = none ∧ transfer.destinationAbortProof = none
  | .aborting =>
    transfer.sourceExportProof = none ∧ transfer.destinationActivationProof = none
      ∧ transfer.importProof = none ∧ transfer.finalizationProof = none
      ∧ transfer.quarantineReceiptHash.isSome = transfer.destinationQuarantineProof.isSome
      ∧ (transfer.destinationQuarantineProof = none ∨ transfer.sourcePrepareProof.isSome)
  | .aborted =>
    transfer.sourceExportProof = none ∧ transfer.destinationActivationProof = none
      ∧ transfer.importProof = none ∧ transfer.finalizationProof = none
      ∧ transfer.sourceAbortProof.isSome ∧ transfer.destinationAbortProof.isSome
      ∧ transfer.quarantineReceiptHash.isSome = transfer.destinationQuarantineProof.isSome
      ∧ (transfer.destinationQuarantineProof = none ∨ transfer.sourcePrepareProof.isSome)

instance : Decidable transfer.phaseValid := by
  unfold phaseValid; cases transfer.phase <;> infer_instance

def validatePhaseProofs (source destination : CellAssignmentRecord) : Fallible Unit := do
  let atSource kind proof binds := transfer.validatePhaseProof hashes kind proof
    transfer.sourceCellId transfer.sourceAssignmentGeneration source binds
  let atDestination kind proof binds := transfer.validatePhaseProof hashes kind proof
    transfer.destinationCellId transfer.destinationAssignmentGeneration destination binds
  atSource .sourcePrepare transfer.sourcePrepareProof false
  atDestination .destinationQuarantine transfer.destinationQuarantineProof true
  atSource .sourceExport transfer.sourceExportProof true
  atDestination .destinationImport transfer.importProof true
  atDestination .destinationActivation transfer.destinationActivationProof true
  atSource .sourceFinalization transfer.finalizationProof false
  atSource .sourceAbort transfer.sourceAbortProof true
  atDestination .destinationAbort transfer.destinationAbortProof true
  validateProofOrder transfer.sourcePrepareProof transfer.sourceExportProof
    "source prepare and export"
  validateProofOrder transfer.sourceExportProof transfer.finalizationProof
    "source export and finalization"
  validateProofOrder transfer.destinationQuarantineProof transfer.importProof
    "destination quarantine and import"
  validateProofOrder transfer.importProof transfer.destinationActivationProof
    "destination import and activation"
  validateProofOrder transfer.sourcePrepareProof transfer.sourceAbortProof
    "source prepare and abort cleanup"
  validateProofOrder transfer.destinationQuarantineProof transfer.destinationAbortProof
    "destination quarantine and abort cleanup"
  rejectIf (¬ transfer.phaseValid)
    (.invalidDirectory
      s!"v3 transfer {transfer.transferId} phase and durable proof matrix disagree")

end CellTransferRecordV3

end

end Verse.DirectoryV3
