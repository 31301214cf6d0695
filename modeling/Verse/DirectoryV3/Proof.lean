import Verse.DirectoryV3.Bundle

/-!
# Proofs

Seven kinds of durable cell event move a bundle on, and each has a typed proof that the cell
makes of it. What all of them bind is the transfer, the package, the cell with the generation
and fence it was held under, and the event with its predecessor; what differs is which hashes
and times a kind adds. The directory keeps every proof in one flat record,
`DirectoryPhaseProofV3`, whose optional fields are the union of what the kinds add.

`HandoffHashes` stands for the hashes of the JSON of a proof.
-/

namespace Verse.DirectoryV3

open Lib Directory

structure DraftGridTransferLedgerVectorV2 where
  (ore refinedMaterial components : Nat)
deriving DecidableEq, Repr

structure DraftGridPrepareProofV2 where
  (transferId rootAggregateId memberRoot packageHash sourceCellId : String)
  (assignmentGeneration fencingToken priorEventSequence : Nat)
  priorEventHash : String
  eventSequence : Nat
  (eventHash eventPayloadHash priorActiveWorldHash resultingActiveWorldHash : String)
  preparedAtSimulationTick : Nat
  (mutationWitnessHash proofHash : String)
deriving DecidableEq

structure DraftGridQuarantineProofV2 where
  (transferId rootAggregateId memberRoot packageHash destinationCellId : String)
  (assignmentGeneration fencingToken priorEventSequence : Nat)
  priorEventHash : String
  eventSequence : Nat
  (eventHash eventPayloadHash priorActiveWorldHash resultingActiveWorldHash : String)
  quarantineReceiptHash : String
  quarantinedAtUnixMs : Nat
  (mutationWitnessHash proofHash : String)
deriving DecidableEq

structure DraftGridExportProofV2 where
  (transferId rootAggregateId memberRoot packageHash sourceCellId : String)
  (assignmentGeneration fencingToken priorEventSequence : Nat)
  priorEventHash : String
  eventSequence : Nat
  (eventHash eventPayloadHash priorDraftWorldHash resultingActiveWorldHash : String)
  quarantineReceiptHash : String
  exportedAtUnixMs : Nat
  (mutationWitnessHash proofHash : String)
  ledgerVector : DraftGridTransferLedgerVectorV2
deriving DecidableEq

structure DraftGridImportProofV2 where
  (transferId rootAggregateId memberRoot packageHash destinationCellId : String)
  (assignmentGeneration fencingToken priorEventSequence : Nat)
  priorEventHash : String
  eventSequence : Nat
  (eventHash eventPayloadHash priorDraftWorldHash resultingActiveWorldHash : String)
  quarantineReceiptHash : String
  quarantinedAtUnixMs : Nat
  sourceExportProofHash : String
  (sourceExportedAtUnixMs importedAtUnixMs destinationProductionLifecycleGeneration : Nat)
  (productionEligibilityRoot mutationWitnessHash proofHash : String)
  ledgerVector : DraftGridTransferLedgerVectorV2
deriving DecidableEq

structure DraftGridActivationProofV2 where
  (transferId rootAggregateId memberRoot packageHash destinationCellId : String)
  (assignmentGeneration fencingToken priorEventSequence : Nat)
  priorEventHash : String
  eventSequence : Nat
  (eventHash eventPayloadHash priorActiveWorldHash resultingActiveWorldHash : String)
  (quarantineReceiptHash destinationImportProofHash : String)
  (importedAtUnixMs activatedAtUnixMs : Nat)
  (productionEligibilityRoot mutationWitnessHash proofHash : String)
deriving DecidableEq

structure DraftGridFinalizationProofV2 where
  (transferId rootAggregateId memberRoot packageHash sourceCellId : String)
  (assignmentGeneration fencingToken priorEventSequence : Nat)
  priorEventHash : String
  eventSequence : Nat
  (eventHash eventPayloadHash priorActiveWorldHash resultingActiveWorldHash : String)
  sourceExportProofHash : String
  sourceExportedAtUnixMs : Nat
  destinationImportProofHash : String
  importedAtUnixMs : Nat
  destinationActivationProofHash : String
  (activatedAtUnixMs finalizedAtUnixMs : Nat)
  (mutationWitnessHash proofHash : String)
deriving DecidableEq

inductive DraftGridTransferAbortSideV2 where
  | source
  | destination
deriving DecidableEq, Repr

structure DraftGridAbortCleanupProofV2 where
  side : DraftGridTransferAbortSideV2
  (transferId memberRoot packageHash cellId : String)
  (assignmentGeneration fencingToken eventSequence : Nat)
  (eventHash eventPayloadHash : String)
  priorEventSequence : Nat
  (priorEventHash priorDraftWorldHash resultingDraftWorldHash : String)
  trustedTimeUnixMs : Nat
  mutationWitnessHash : String
  quarantineReceiptHash : Option String
  abortWitnessHash : String
  removedAuthority : Bool
  proofHash : String
deriving DecidableEq

structure HandoffHashes where
  (prepareWitness prepareProof : DraftGridPrepareProofV2 → String)
  (quarantineWitness quarantineProof : DraftGridQuarantineProofV2 → String)
  exportProof : DraftGridExportProofV2 → String
  importProof : DraftGridImportProofV2 → String
  activationProof : DraftGridActivationProofV2 → String
  finalizationProof : DraftGridFinalizationProofV2 → String
  abortProof : DraftGridAbortCleanupProofV2 → String

/-! ## Each proof against itself -/

/-- What every kind checks of what every kind binds. -/
def bindingInvalid (transferId memberRoot packageHash cellId : String)
    (assignmentGeneration fencingToken priorEventSequence : Nat) (priorEventHash : String)
    (eventSequence : Nat) (eventHash eventPayloadHash : String) : Prop :=
  ¬ validStableId transferId
    ∨ ¬ validBlake3Hex memberRoot
    ∨ ¬ validBlake3Hex packageHash
    ∨ ¬ validBlake3Hex cellId
    ∨ assignmentGeneration = 0
    ∨ fencingToken = 0
    ∨ (priorEventSequence = 0 ∧ priorEventHash ≠ "")
    ∨ (0 < priorEventSequence ∧ ¬ validBlake3Hex priorEventHash)
    ∨ checkedAdd priorEventSequence 1 ≠ some eventSequence
    ∨ ¬ validBlake3Hex eventHash
    ∨ ¬ validBlake3Hex eventPayloadHash

instance {t m p c : String} {g f s : Nat} {h : String} {n : Nat} {e y : String} :
    Decidable (bindingInvalid t m p c g f s h n e y) := by
  unfold bindingInvalid; infer_instance

section

variable (hashes : HandoffHashes)

def DraftGridPrepareProofV2.calculateMutationHash (proof : DraftGridPrepareProofV2) : String :=
  hashes.prepareWitness
    { proof with
      eventHash := "", resultingActiveWorldHash := "", mutationWitnessHash := ""
      proofHash := "" }

def DraftGridPrepareProofV2.validateForDirectory (proof : DraftGridPrepareProofV2) :
    Except String Unit :=
  rejectIf (bindingInvalid proof.transferId proof.memberRoot proof.packageHash
        proof.sourceCellId proof.assignmentGeneration proof.fencingToken
        proof.priorEventSequence proof.priorEventHash proof.eventSequence proof.eventHash
        proof.eventPayloadHash
      ∨ ¬ validStableId proof.rootAggregateId
      ∨ ¬ validBlake3Hex proof.priorActiveWorldHash
      ∨ ¬ validBlake3Hex proof.resultingActiveWorldHash
      ∨ ¬ validBlake3Hex proof.mutationWitnessHash
      ∨ proof.mutationWitnessHash ≠ proof.calculateMutationHash hashes
      ∨ ¬ validBlake3Hex proof.proofHash
      ∨ proof.proofHash ≠ hashes.prepareProof { proof with proofHash := "" })
    "grid closure package is invalid: grid prepare proof is not canonical event-17 material"

def DraftGridQuarantineProofV2.calculateMutationHash (proof : DraftGridQuarantineProofV2) :
    String :=
  hashes.quarantineWitness
    { proof with
      eventHash := "", resultingActiveWorldHash := "", mutationWitnessHash := ""
      proofHash := "" }

def DraftGridQuarantineProofV2.validateForDirectory (proof : DraftGridQuarantineProofV2) :
    Except String Unit :=
  rejectIf (bindingInvalid proof.transferId proof.memberRoot proof.packageHash
        proof.destinationCellId proof.assignmentGeneration proof.fencingToken
        proof.priorEventSequence proof.priorEventHash proof.eventSequence proof.eventHash
        proof.eventPayloadHash
      ∨ ¬ validStableId proof.rootAggregateId
      ∨ ¬ validBlake3Hex proof.priorActiveWorldHash
      ∨ ¬ validBlake3Hex proof.resultingActiveWorldHash
      ∨ ¬ validBlake3Hex proof.quarantineReceiptHash
      ∨ proof.quarantinedAtUnixMs = 0
      ∨ ¬ validBlake3Hex proof.mutationWitnessHash
      ∨ proof.mutationWitnessHash ≠ proof.calculateMutationHash hashes
      ∨ ¬ validBlake3Hex proof.proofHash
      ∨ proof.proofHash ≠ hashes.quarantineProof { proof with proofHash := "" })
    "grid closure package is invalid: grid quarantine proof is not canonical event-17 material"

def DraftGridExportProofV2.validate (proof : DraftGridExportProofV2) : Except String Unit :=
  rejectIf (bindingInvalid proof.transferId proof.memberRoot proof.packageHash
        proof.sourceCellId proof.assignmentGeneration proof.fencingToken
        proof.priorEventSequence proof.priorEventHash proof.eventSequence proof.eventHash
        proof.eventPayloadHash
      ∨ ¬ validStableId proof.rootAggregateId
      ∨ ¬ validBlake3Hex proof.priorDraftWorldHash
      ∨ ¬ validBlake3Hex proof.resultingActiveWorldHash
      ∨ ¬ validBlake3Hex proof.quarantineReceiptHash
      ∨ proof.exportedAtUnixMs = 0
      ∨ ¬ validBlake3Hex proof.mutationWitnessHash
      ∨ ¬ validBlake3Hex proof.proofHash
      ∨ proof.proofHash ≠ hashes.exportProof { proof with proofHash := "" })
    "grid source-export proof is not canonical fenced material"

def DraftGridImportProofV2.validate (proof : DraftGridImportProofV2) : Except String Unit :=
  rejectIf (bindingInvalid proof.transferId proof.memberRoot proof.packageHash
        proof.destinationCellId proof.assignmentGeneration proof.fencingToken
        proof.priorEventSequence proof.priorEventHash proof.eventSequence proof.eventHash
        proof.eventPayloadHash
      ∨ ¬ validStableId proof.rootAggregateId
      ∨ ¬ validBlake3Hex proof.priorDraftWorldHash
      ∨ ¬ validBlake3Hex proof.resultingActiveWorldHash
      ∨ ¬ validBlake3Hex proof.quarantineReceiptHash
      ∨ proof.quarantinedAtUnixMs = 0
      ∨ ¬ validBlake3Hex proof.sourceExportProofHash
      ∨ proof.sourceExportedAtUnixMs = 0
      ∨ proof.importedAtUnixMs < proof.quarantinedAtUnixMs
      ∨ proof.importedAtUnixMs < proof.sourceExportedAtUnixMs
      ∨ proof.destinationProductionLifecycleGeneration = 0
      ∨ ¬ validBlake3Hex proof.productionEligibilityRoot
      ∨ ¬ validBlake3Hex proof.mutationWitnessHash
      ∨ ¬ validBlake3Hex proof.proofHash
      ∨ proof.proofHash ≠ hashes.importProof { proof with proofHash := "" })
    "grid destination-import proof is not canonical fenced material"

def DraftGridActivationProofV2.validate (proof : DraftGridActivationProofV2) :
    Except String Unit :=
  rejectIf (bindingInvalid proof.transferId proof.memberRoot proof.packageHash
        proof.destinationCellId proof.assignmentGeneration proof.fencingToken
        proof.priorEventSequence proof.priorEventHash proof.eventSequence proof.eventHash
        proof.eventPayloadHash
      ∨ ¬ validStableId proof.rootAggregateId
      ∨ ¬ validBlake3Hex proof.priorActiveWorldHash
      ∨ ¬ validBlake3Hex proof.resultingActiveWorldHash
      ∨ ¬ validBlake3Hex proof.quarantineReceiptHash
      ∨ ¬ validBlake3Hex proof.destinationImportProofHash
      ∨ proof.importedAtUnixMs = 0
      ∨ proof.activatedAtUnixMs < proof.importedAtUnixMs
      ∨ ¬ validBlake3Hex proof.productionEligibilityRoot
      ∨ ¬ validBlake3Hex proof.mutationWitnessHash
      ∨ ¬ validBlake3Hex proof.proofHash
      ∨ proof.proofHash ≠ hashes.activationProof { proof with proofHash := "" })
    "grid destination-activation proof is not canonical fenced material"

def DraftGridFinalizationProofV2.validate (proof : DraftGridFinalizationProofV2) :
    Except String Unit :=
  rejectIf (bindingInvalid proof.transferId proof.memberRoot proof.packageHash
        proof.sourceCellId proof.assignmentGeneration proof.fencingToken
        proof.priorEventSequence proof.priorEventHash proof.eventSequence proof.eventHash
        proof.eventPayloadHash
      ∨ ¬ validStableId proof.rootAggregateId
      ∨ ¬ validBlake3Hex proof.priorActiveWorldHash
      ∨ ¬ validBlake3Hex proof.resultingActiveWorldHash
      ∨ ¬ validBlake3Hex proof.sourceExportProofHash
      ∨ proof.sourceExportedAtUnixMs = 0
      ∨ ¬ validBlake3Hex proof.destinationImportProofHash
      ∨ proof.importedAtUnixMs < proof.sourceExportedAtUnixMs
      ∨ ¬ validBlake3Hex proof.destinationActivationProofHash
      ∨ proof.activatedAtUnixMs < proof.importedAtUnixMs
      ∨ proof.finalizedAtUnixMs < proof.activatedAtUnixMs
      ∨ ¬ validBlake3Hex proof.mutationWitnessHash
      ∨ ¬ validBlake3Hex proof.proofHash
      ∨ proof.proofHash ≠ hashes.finalizationProof { proof with proofHash := "" })
    "grid source-finalization proof is not canonical fenced material"

def DraftGridAbortCleanupProofV2.validate (proof : DraftGridAbortCleanupProofV2) :
    Except String Unit :=
  rejectIf (bindingInvalid proof.transferId proof.memberRoot proof.packageHash
        proof.cellId proof.assignmentGeneration proof.fencingToken
        proof.priorEventSequence proof.priorEventHash proof.eventSequence proof.eventHash
        proof.eventPayloadHash
      ∨ proof.eventSequence = 0
      ∨ ¬ validBlake3Hex proof.priorDraftWorldHash
      ∨ ¬ validBlake3Hex proof.resultingDraftWorldHash
      ∨ proof.trustedTimeUnixMs = 0
      ∨ ¬ validBlake3Hex proof.mutationWitnessHash
      ∨ (∃ hash ∈ proof.quarantineReceiptHash, ¬ validBlake3Hex hash)
      ∨ ¬ validBlake3Hex proof.abortWitnessHash
      ∨ ¬ validBlake3Hex proof.proofHash
      ∨ proof.proofHash ≠ hashes.abortProof { proof with proofHash := "" })
    "grid abort cleanup proof is not canonical fenced material"

end

/-! ## The directory's record of a proof -/

inductive DirectoryPhaseProofKindV3 where
  | sourcePrepare
  | destinationQuarantine
  | sourceExport
  | destinationImport
  | destinationActivation
  | sourceFinalization
  | sourceAbort
  | destinationAbort
deriving DecidableEq, Repr

/-- A field that a kind does not add is absent. -/
structure DirectoryPhaseProofV3 where
  kind : DirectoryPhaseProofKindV3
  (transferId memberRoot packageHash cellId : String)
  (assignmentGeneration fencingToken eventSequence : Nat)
  eventHash : String
  eventPayloadHash : Option String := none
  worldHash : String
  quarantineReceiptHash : Option String := none
  exportProofHash : Option String := none
  prepareProofHash : Option String := none
  quarantineProofHash : Option String := none
  importProofHash : Option String := none
  activationProofHash : Option String := none
  finalizationProofHash : Option String := none
  destinationImportProofHash : Option String := none
  priorEventSequence : Option Nat := none
  priorEventHash : Option String := none
  priorDraftWorldHash : Option String := none
  priorActiveWorldHash : Option String := none
  quarantinedAtUnixMs : Option Nat := none
  importedAtUnixMs : Option Nat := none
  destinationActivatedAtUnixMs : Option Nat := none
  sourceExportProofHash : Option String := none
  sourceExportedAtUnixMs : Option Nat := none
  destinationProductionLifecycleGeneration : Option Nat := none
  productionEligibilityRoot : Option String := none
  mutationWitnessHash : Option String := none
  ledgerVector : Option DraftGridTransferLedgerVectorV2 := none
  trustedTimeUnixMs : Option Nat := none
  preparedAtSimulationTick : Option Nat := none
  abortWitnessHash : Option String := none
  abortProofHash : Option String := none
  resultingDraftWorldHash : Option String := none
  abortRemovedAuthority : Option Bool := none
deriving DecidableEq

end Verse.DirectoryV3
