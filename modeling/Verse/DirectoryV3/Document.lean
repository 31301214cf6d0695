import Mathlib.Data.Finset.Card
import Verse.DirectoryV3.Proof

/-!
# The directory document, version 3

Where version 2 moved one aggregate at a time, a transfer record here moves a bundle: the
immutable half of the record says which bundle goes from which cell to which, the mutable half
is a phase and eight proofs, each absent until its event is durable.

A document that was migrated from version 2 carries a genesis record. It pins the placements
that had already moved before the migration (`placementFloors`) and the identifiers that
version 2 had used up.

`DirectoryCodec` is what the directory relies on outside itself: cells, the hashes, and the
length of its own JSON. A hash is 64 lowercase hexadecimal digits whatever is hashed.
-/

namespace Verse.DirectoryV3

open Lib Directory

structure DirectoryBundleV3 where
  (packageSchemaVersion receiptSchemaVersion : Nat)
  aggregateKind : MobileAggregateKind
  (closureRoot conservationRoot packageHash : String)
  members : List BundledPlacementMember
  memberRoot : String
deriving DecidableEq

structure CellTransferRecordV3 where
  (transferId rootAggregateId : String)
  sourceCellKey : CellKeyV1
  sourceCellId : String
  destinationCellKey : CellKeyV1
  destinationCellId : String
  (sourceAssignmentGeneration sourceFencingToken destinationAssignmentGeneration : Nat)
  destinationFencingToken : Nat
  bundle : DirectoryBundleV3
  quarantineReceiptHash : Option String
  (sourcePrepareProof destinationQuarantineProof sourceExportProof : Option DirectoryPhaseProofV3)
  (importProof destinationActivationProof finalizationProof : Option DirectoryPhaseProofV3)
  (sourceAbortProof destinationAbortProof : Option DirectoryPhaseProofV3)
  phase : TransferPhase
deriving DecidableEq

structure MigrationPlacementFloorV1 where
  aggregateId : String
  aggregateKind : MobileAggregateKind
  cellKey : CellKeyV1
  cellId : String
  placementGeneration : Nat
deriving DecidableEq

structure DirectoryMigrationGenesisV1 where
  (schemaVersion sourceDirectoryRevision : Nat)
  sourceDirectoryDocumentHash : String
  sourceTerminalTransferCount : Nat
  sourceTerminalTransferRoot : String
  sourceTerminalTransferIds : Finset String
  (sourceAssignmentRoot sourcePlacementRoot targetAssignmentRoot targetPlacementRoot : String)
  (identityMapRoot productionOriginRoot normalizedGameplayRoot : String)
  placementFloors : OrdMap String MigrationPlacementFloorV1
  recordHash : String
deriving DecidableEq

/-- The directory of bundles, with a hash over itself. -/
structure CellDirectoryDocumentV3 where
  schemaVersion : Nat
  (universeId universeManifestHash : String)
  directoryRevision : Nat
  assignments : OrdMap String CellAssignmentRecord
  placements : Placements
  transfers : OrdMap String CellTransferRecordV3
  migrationGenesis : Option DirectoryMigrationGenesisV1
  documentHash : String
deriving DecidableEq

structure DirectoryCodec where
  sky : Celestial
  hashes : HandoffHashes
  memberRoot : BundledPlacementPlan → String
  assignmentRoot : OrdMap String CellAssignmentRecord → String
  placementRoot : Placements → String
  genesisRecordHash : DirectoryMigrationGenesisV1 → String
  documentHash : CellDirectoryDocumentV3 → String
  encodedLength : CellDirectoryDocumentV3 → Nat
  documentHash_hex : ∀ document, validBlake3Hex (documentHash document) = true

/-! ## Constants -/

def draftCellDirectoryV3SchemaVersion : Nat := 3
def draftAggregateTransferPackageSchemaVersion : Nat := 2
def draftAggregateTransferReceiptSchemaVersion : Nat := 2
def maxDraftDirectoryV3Bytes : Nat := 16 * 1024 * 1024
def maxDraftPlacements : Nat := 8192
def maxDraftTransfers : Nat := 1024
def maxDraftTransferMemberships : Nat := 8192

/-! ## What a transfer says -/

/-- `immutable_material_matches`: everything but the phase, the receipt and the proofs. -/
def CellTransferRecordV3.immutableMaterialMatches (transfer other : CellTransferRecordV3) :
    Prop :=
  transfer.transferId = other.transferId
    ∧ transfer.rootAggregateId = other.rootAggregateId
    ∧ transfer.sourceCellKey = other.sourceCellKey
    ∧ transfer.sourceCellId = other.sourceCellId
    ∧ transfer.destinationCellKey = other.destinationCellKey
    ∧ transfer.destinationCellId = other.destinationCellId
    ∧ transfer.sourceAssignmentGeneration = other.sourceAssignmentGeneration
    ∧ transfer.sourceFencingToken = other.sourceFencingToken
    ∧ transfer.destinationAssignmentGeneration = other.destinationAssignmentGeneration
    ∧ transfer.destinationFencingToken = other.destinationFencingToken
    ∧ transfer.bundle = other.bundle

instance (transfer other : CellTransferRecordV3) :
    Decidable (transfer.immutableMaterialMatches other) := by
  unfold CellTransferRecordV3.immutableMaterialMatches; infer_instance

/-- The plan a transfer carries. -/
def CellTransferRecordV3.plan (transfer : CellTransferRecordV3) : BundledPlacementPlan where
  rootAggregateId := transfer.rootAggregateId
  sourceCellKey := transfer.sourceCellKey
  sourceCellId := transfer.sourceCellId
  destinationCellKey := transfer.destinationCellKey
  destinationCellId := transfer.destinationCellId
  members := transfer.bundle.members
  memberRoot := transfer.bundle.memberRoot

@[simp] theorem CellTransferRecordV3.plan_members (transfer : CellTransferRecordV3) :
    transfer.plan.members = transfer.bundle.members := rfl

/-- The phases in which the placements have moved on for good. -/
def advanced (phase : TransferPhase) : Prop :=
  phase = .committed ∨ phase = .imported ∨ phase = .finalized

/-- The phases a transfer never leaves. -/
def terminal (phase : TransferPhase) : Prop := phase = .finalized ∨ phase = .aborted

instance (phase : TransferPhase) : Decidable (advanced phase) := by
  unfold advanced; infer_instance

instance (phase : TransferPhase) : Decidable (terminal phase) := by
  unfold terminal; infer_instance

end Verse.DirectoryV3
