import Verse.DirectoryV3.PhaseProof

/-!
# What every document must satisfy

A version 3 document is validated before and after every operation, so each operation answers
for the whole history it leaves behind: the old transfers still constrain the placements of
their members, and the generation of every placement has to be accounted for by the transfers
that moved it.

That accounting is `advances`: the moves that the transfers beyond their commit made, each from
a generation and a cell to the next. A placement's history is followed along it, one generation
at a time, from where the placement first was to where it is.
-/

namespace Verse.DirectoryV3

open Lib Directory

variable (codec : DirectoryCodec)

/-! ## Transfers on their own -/

namespace CellTransferRecordV3

variable (transfer : CellTransferRecordV3)

def bundledPlan : Fallible BundledPlacementPlan := do
  transfer.plan.validate codec.sky codec.memberRoot
  return transfer.plan

/-- The receipt is on record from quarantine on. -/
def receiptDisagrees : Prop :=
  (transfer.phase = .prepared ∧ transfer.quarantineReceiptHash.isSome)
    ∨ (transfer.phase.holdsReceipt ∧ transfer.quarantineReceiptHash = none)

instance : Decidable transfer.receiptDisagrees := by
  unfold receiptDisagrees; infer_instance

def validateIdentity (transferId : String) : Fallible BundledPlacementPlan := do
  validateStableIdV3 transferId "transfer"
  validateStableIdV3 transfer.rootAggregateId "root aggregate"
  validateHashV3 transfer.bundle.closureRoot "closure root"
  validateHashV3 transfer.bundle.conservationRoot "conservation root"
  validateHashV3 transfer.bundle.packageHash "package"
  validateHashV3 transfer.bundle.memberRoot "member root"
  rejectIf (transfer.transferId ≠ transferId
      ∨ transfer.bundle.packageSchemaVersion ≠ draftAggregateTransferPackageSchemaVersion
      ∨ transfer.bundle.receiptSchemaVersion ≠ draftAggregateTransferReceiptSchemaVersion
      ∨ transfer.bundle.aggregateKind ≠ .grid
      ∨ transfer.sourceAssignmentGeneration = 0
      ∨ transfer.sourceFencingToken = 0
      ∨ transfer.destinationAssignmentGeneration = 0
      ∨ transfer.destinationFencingToken = 0)
    (.invalidDirectory
      s!"v3 transfer {transferId} has invalid immutable identity, schema, or authority")
  whenSome transfer.quarantineReceiptHash fun receiptHash =>
    validateHashV3 receiptHash "quarantine receipt"
  rejectIf transfer.receiptDisagrees
    (.invalidDirectory s!"v3 transfer {transferId} phase and receipt binding disagree")
  let plan ← transfer.bundledPlan codec
  let root ← demand
    (plan.members.find? fun member => member.aggregateId = plan.rootAggregateId)
    (.invalidDirectory s!"v3 transfer {transferId} omits its root")
  rejectIf (root.aggregateKind ≠ transfer.bundle.aggregateKind)
    (.invalidDirectory s!"v3 transfer {transferId} root alias and member kind disagree")
  return plan

end CellTransferRecordV3

/-- `member_matches_phase`: what the phase of a transfer says about a member now. -/
def memberMatchesPhase (placement : AggregatePlacementRecord) (member : BundledPlacementMember)
    (transfer : CellTransferRecordV3) (transferId : String) : Prop :=
  match transfer.phase with
  | .prepared | .quarantined | .aborting =>
    placement.state = .preparing
      ∧ placement.cellKey = transfer.sourceCellKey
      ∧ placement.cellId = transfer.sourceCellId
      ∧ placement.placementGeneration = member.priorPlacementGeneration
      ∧ placement.activeTransferId = some transferId
  | .committed =>
    placement.state = .inTransit
      ∧ placement.cellKey = transfer.destinationCellKey
      ∧ placement.cellId = transfer.destinationCellId
      ∧ placement.placementGeneration = member.resultingPlacementGeneration
      ∧ placement.activeTransferId = some transferId
  | .imported | .finalized =>
    placement.placementGeneration > member.resultingPlacementGeneration
      ∨ (placement.state = .resident
        ∧ placement.cellKey = transfer.destinationCellKey
        ∧ placement.cellId = transfer.destinationCellId
        ∧ placement.placementGeneration = member.resultingPlacementGeneration
        ∧ placement.activeTransferId = none)
  | .aborted =>
    placement.placementGeneration > member.priorPlacementGeneration
      ∨ (placement.state = .resident
        ∧ placement.cellKey = transfer.sourceCellKey
        ∧ placement.cellId = transfer.sourceCellId
        ∧ placement.placementGeneration = member.priorPlacementGeneration
        ∧ placement.activeTransferId = none)

instance (placement : AggregatePlacementRecord) (member : BundledPlacementMember)
    (transfer : CellTransferRecordV3) (transferId : String) :
    Decidable (memberMatchesPhase placement member transfer transferId) := by
  unfold memberMatchesPhase; rcases transfer.phase <;> infer_instance

/-- `are_face_neighbors`. -/
def areFaceNeighbors (source destination : CellKeyV1) : Prop :=
  ∃ offset ∈ [((-1, 0, 0) : Int × Int × Int), (1, 0, 0), (0, -1, 0), (0, 1, 0), (0, 0, -1),
      (0, 0, 1)],
    codec.sky.neighborCellKey source offset = some destination

instance (source destination : CellKeyV1) :
    Decidable (areFaceNeighbors codec source destination) := by
  unfold areFaceNeighbors; infer_instance

/-! ## The moves on record -/

/-- One entry of the advance index: an aggregate went from a generation in a cell to another
    generation in another cell. -/
structure Advance where
  aggregateId : String
  generation : Nat
  cellId : String
  nextGeneration : Nat
  nextCellId : String
deriving DecidableEq

/-- The key an advance is indexed under. -/
def Advance.key (advance : Advance) : String × Nat × String :=
  (advance.aggregateId, advance.generation, advance.cellId)

def CellTransferRecordV3.advances (transfer : CellTransferRecordV3) : List Advance :=
  if advanced transfer.phase then
    transfer.bundle.members.map fun member =>
      { aggregateId := member.aggregateId
        generation := member.priorPlacementGeneration
        cellId := transfer.sourceCellId
        nextGeneration := member.resultingPlacementGeneration
        nextCellId := transfer.destinationCellId }
  else []

/-- The advance index, in the order in which it is filled. -/
def advancesOf (transfers : List (String × CellTransferRecordV3)) : List Advance :=
  transfers.flatMap fun entry => entry.2.advances

def membershipsOf (transfers : List (String × CellTransferRecordV3)) : Nat :=
  (transfers.map fun entry => entry.2.bundle.members.length).sum

/-- `validate_later_member_history`: from a generation in a cell along the advance index to the
    placement. `remaining` bounds the loop by the generations still to go. -/
def validateLaterMemberHistory (aggregateId : String) (placement : AggregatePlacementRecord)
    (index : List Advance) : (remaining generation : Nat) → (cellId : String) → Fallible Unit
  | 0, generation, cellId =>
    rejectIf (generation ≠ placement.placementGeneration ∨ cellId ≠ placement.cellId)
      (.invalidDirectory s!"v3 placement {aggregateId} history does not reach its current cell")
  | remaining + 1, generation, cellId => do
    let advance ← demand (index.find? fun advance => advance.key = (aggregateId, generation, cellId))
      (.invalidDirectory s!"v3 placement {aggregateId} skips a durable transfer generation")
    rejectIf (advance.nextGeneration ≠ min (generation + 1) u64Max)
      (.invalidDirectory s!"v3 placement {aggregateId} has a non-contiguous transfer history")
    validateLaterMemberHistory aggregateId placement index remaining advance.nextGeneration
      advance.nextCellId

/-- The history of a placement from a generation in a cell on. -/
def laterMemberHistory (aggregateId : String) (generation : Nat) (cellId : String)
    (placement : AggregatePlacementRecord) (index : List Advance) : Fallible Unit :=
  validateLaterMemberHistory aggregateId placement index
    (placement.placementGeneration - generation) generation cellId

/-! ## The document -/

namespace DirectoryMigrationGenesisV1

variable (genesis : DirectoryMigrationGenesisV1)

def calculateHash : String := codec.genesisRecordHash { genesis with recordHash := "" }

def validate : Fallible Unit :=
  rejectIf (genesis.schemaVersion ≠ 1
      ∨ genesis.sourceDirectoryRevision = 0
      ∨ ¬ [genesis.sourceDirectoryDocumentHash, genesis.sourceTerminalTransferRoot,
          genesis.sourceAssignmentRoot, genesis.sourcePlacementRoot,
          genesis.targetAssignmentRoot, genesis.targetPlacementRoot, genesis.identityMapRoot,
          genesis.productionOriginRoot, genesis.normalizedGameplayRoot,
          genesis.recordHash].all validBlake3Hex
      ∨ genesis.recordHash ≠ genesis.calculateHash codec
      ∨ genesis.sourceTerminalTransferCount ≠ genesis.sourceTerminalTransferIds.card
      ∨ (∃ transferId ∈ genesis.sourceTerminalTransferIds, ¬ validStableId transferId)
      ∨ ∃ floor ∈ genesis.placementFloors.entries,
          floor.2.aggregateId ≠ floor.1
            ∨ floor.2.placementGeneration ≤ 1
            ∨ floor.2.cellId = ""
            ∨ floor.2.cellKey.universeId = "")
    (.invalidDirectory "directory-v3 migration genesis record is invalid")

end DirectoryMigrationGenesisV1

namespace CellDirectoryDocumentV3

variable (document : CellDirectoryDocumentV3)

def calculateHash : String := codec.documentHash { document with documentHash := "" }

/-- The fences of a cell: one for each generation it has had, each above the one before. -/
def validateFenceHistory (cellId : String) (assignment : CellAssignmentRecord) :
    Fallible Unit := do
  rejectIf (assignment.fencingHistory.size ≠ assignment.assignmentGeneration
      ∨ (assignment.fencingHistory.get? assignment.assignmentGeneration).getD 0
          ≠ assignment.authorityFencingToken)
    (.invalidDirectory s!"v3 cell {cellId} has an incomplete authority history")
  checkEach (fun earlier generation => do
    let fence ← demand (assignment.fencingHistory.get? generation)
      (.invalidDirectory s!"v3 assigned cell {cellId} has a fence gap")
    let priorFence := (earlier.getLast?.bind assignment.fencingHistory.get?).getD 0
    rejectIf (fence ≤ priorFence)
      (.invalidDirectory s!"v3 assigned cell {cellId} has a non-increasing fence"))
    [] (List.range' 1 assignment.assignmentGeneration)

def validateAssignment (entry : String × CellAssignmentRecord) : Fallible Unit := do
  let cellId := entry.1
  let assignment := entry.2
  let derived ← demand (codec.sky.cellId assignment.cellKey)
    (.invalidDirectory (codec.sky.reason assignment.cellKey))
  rejectIf (cellId ≠ derived
      ∨ assignment.cellId ≠ cellId
      ∨ assignment.cellKey.universeId ≠ document.universeId)
    (.invalidDirectory s!"v3 assignment {cellId} has inconsistent cell identity")
  match assignment.state with
  | .sleeping =>
    rejectIf assignment.holderId.isSome
      (.invalidDirectory s!"v3 sleeping assignment {cellId} retains authority")
  | .assigned =>
    rejectIf (assignment.assignmentGeneration = 0
        ∨ assignment.authorityFencingToken = 0
        ∨ ∀ holderId ∈ assignment.holderId, holderId = "")
      (.invalidDirectory s!"v3 assigned cell {cellId} has invalid authority history")
  | .claiming | .releasing =>
    .error (.invalidDirectory
      s!"v3 cell {cellId} retained an incomplete authority transition")
  validateFenceHistory cellId assignment

def validateAssignments : Fallible Unit := do
  rejectIf (document.assignments.entries = [])
    (.invalidDirectory "v3 directory has no cell assignments")
  checkAll (validateAssignment codec document) document.assignments.entries

/-- The floors a genesis document must pin: the placements that had already moved. -/
def expectedFloors : OrdMap String MigrationPlacementFloorV1 :=
  OrdMap.ofList ((document.placements.entries.filter fun entry =>
      1 < entry.2.placementGeneration).map fun entry =>
    (entry.1,
      { aggregateId := entry.1
        aggregateKind := entry.2.aggregateKind
        cellKey := entry.2.cellKey
        cellId := entry.2.cellId
        placementGeneration := entry.2.placementGeneration }))

def validateMigrationFloor (entry : String × MigrationPlacementFloorV1) : Fallible Unit := do
  let aggregateId := entry.1
  let floor := entry.2
  let placement ← demand (document.placements.get? aggregateId)
    (.invalidDirectory s!"directory-v3 migration floor {aggregateId} has no current placement")
  let assignment ← demand (document.assignments.get? floor.cellId)
    (.invalidDirectory s!"directory-v3 migration floor {aggregateId} has no genesis cell")
  rejectIf (floor.cellKey ≠ assignment.cellKey
      ∨ floor.aggregateKind ≠ placement.aggregateKind
      ∨ placement.placementGeneration < floor.placementGeneration
      ∨ (placement.placementGeneration = floor.placementGeneration
        ∧ (placement.cellId ≠ floor.cellId ∨ placement.cellKey ≠ floor.cellKey)))
    (.invalidDirectory
      s!"directory-v3 migration floor {aggregateId} disagrees with placement history")

def validateMigrationGenesis : Fallible Unit :=
  whenSome document.migrationGenesis fun genesis => do
    genesis.validate codec
    rejectIf (document.directoryRevision = 1
        ∧ (genesis.targetAssignmentRoot ≠ codec.assignmentRoot document.assignments
          ∨ genesis.targetPlacementRoot ≠ codec.placementRoot document.placements))
      (.invalidDirectory "directory-v3 migration genesis roots differ from revision one")
    rejectIf (document.directoryRevision = 1
        ∧ genesis.placementFloors ≠ document.expectedFloors)
      (.invalidDirectory "directory-v3 migration placement floors are incomplete")
    checkAll document.validateMigrationFloor genesis.placementFloors.entries

def validatePlacement (entry : String × AggregatePlacementRecord) : Fallible Unit := do
  let aggregateId := entry.1
  let placement := entry.2
  validateStableIdV3 aggregateId "aggregate"
  let assignment ← demand (document.assignments.get? placement.cellId)
    (.invalidDirectory s!"v3 placement {aggregateId} references an unknown cell")
  rejectIf (placement.aggregateId ≠ aggregateId
      ∨ placement.placementGeneration = 0
      ∨ placement.cellKey ≠ assignment.cellKey)
    (.invalidDirectory s!"v3 placement {aggregateId} has invalid identity or generation")
  rejectIf (¬ placement.bindingAgrees)
    (.invalidDirectory s!"v3 placement {aggregateId} state and transfer binding disagree")

/-- The first loop over the transfers: identities, and the advance index as it is filled. The
    members of one bundle have distinct identifiers, so only an earlier transfer can have
    entered a member's key before. -/
def indexTransfer (earlier : List (String × CellTransferRecordV3))
    (entry : String × CellTransferRecordV3) : Fallible Unit := do
  let transferId := entry.1
  let transfer := entry.2
  rejectIf (∃ genesis ∈ document.migrationGenesis,
      transferId ∈ genesis.sourceTerminalTransferIds)
    (.invalidDirectory
      s!"v3 transfer {transferId} reuses a frozen source transfer identity")
  let plan ← transfer.validateIdentity codec transferId
  rejectIf (∃ genesis ∈ document.migrationGenesis, ∃ member ∈ plan.members,
      ∃ floor ∈ genesis.placementFloors.get? member.aggregateId,
        member.priorPlacementGeneration < floor.placementGeneration)
    (.invalidDirectory s!"v3 transfer {transferId} precedes a receipt-bound migration floor")
  rejectIf (maxDraftTransferMemberships < membershipsOf earlier + plan.members.length)
    (.invalidDirectory "v3 directory exceeds its transfer membership bound")
  checkAll (fun (advance : Advance) =>
      rejectIf (∃ before ∈ advancesOf earlier, before.key = advance.key)
        (.invalidDirectory
          s!"v3 transfer history is ambiguous for member {advance.aggregateId}"))
    transfer.advances

/-- From where the history of a member of a finished transfer is followed on, if it has moved
    since. -/
def terminalStart (transfer : CellTransferRecordV3) (member : BundledPlacementMember)
    (placement : AggregatePlacementRecord) : Option (Nat × String) :=
  match transfer.phase with
  | .imported | .finalized =>
    if placement.placementGeneration > member.resultingPlacementGeneration then
      some (member.resultingPlacementGeneration, transfer.destinationCellId)
    else none
  | .aborted =>
    if placement.placementGeneration > member.priorPlacementGeneration then
      some (member.priorPlacementGeneration, transfer.sourceCellId)
    else none
  | _ => none

def validateTransferMember (transferId : String) (transfer : CellTransferRecordV3)
    (member : BundledPlacementMember) : Fallible Unit := do
  let placement ← demand (document.placements.get? member.aggregateId)
    (.invalidDirectory s!"v3 transfer {transferId} member {member.aggregateId} has no placement")
  rejectIf (placement.aggregateKind ≠ member.aggregateKind
      ∨ ¬ memberMatchesPhase placement member transfer transferId)
    (.invalidDirectory
      s!"v3 transfer {transferId} member {member.aggregateId} disagrees with its phase")
  match terminalStart transfer member placement with
  | some (generation, cellId) =>
    laterMemberHistory member.aggregateId generation cellId placement
      (advancesOf document.transfers.entries)
  | none => return ()

/-- The second loop over the transfers: each against the cells and the placements. -/
def validateTransfer (entry : String × CellTransferRecordV3) : Fallible Unit := do
  let transferId := entry.1
  let transfer := entry.2
  let source ← demand (document.assignments.get? transfer.sourceCellId)
    (.invalidDirectory s!"v3 transfer {transferId} source cell is unknown")
  let destination ← demand (document.assignments.get? transfer.destinationCellId)
    (.invalidDirectory s!"v3 transfer {transferId} destination cell is unknown")
  rejectIf (source.cellKey ≠ transfer.sourceCellKey
      ∨ destination.cellKey ≠ transfer.destinationCellKey
      ∨ source.fencingHistory.get? transfer.sourceAssignmentGeneration
          ≠ some transfer.sourceFencingToken
      ∨ destination.fencingHistory.get? transfer.destinationAssignmentGeneration
          ≠ some transfer.destinationFencingToken
      ∨ ¬ areFaceNeighbors codec transfer.sourceCellKey transfer.destinationCellKey
      ∨ (¬ terminal transfer.phase
        ∧ (source.state ≠ .assigned ∨ destination.state ≠ .assigned)))
    (.invalidDirectory
      s!"v3 transfer {transferId} cell route or historical authority is invalid")
  transfer.validatePhaseProofs codec.hashes source destination
  checkAll (document.validateTransferMember transferId transfer) transfer.bundle.members
  rejectIf (∃ entry ∈ document.placements.entries,
      entry.2.activeTransferId = some transferId
        ∧ ¬ ∃ member ∈ transfer.bundle.members, member.aggregateId = entry.1)
    (.invalidDirectory s!"v3 transfer {transferId} is active on a nonmember placement")

/-- Where the history of a placement is followed from: its migration floor, or the one cell it
    left generation one in. -/
def validatePlacementHistory (aggregateId : String) (placement : AggregatePlacementRecord) :
    Fallible Unit :=
  let index := advancesOf document.transfers.entries
  if 1 < placement.placementGeneration then
    match document.migrationGenesis.bind (·.placementFloors.get? aggregateId) with
    | some floor =>
      laterMemberHistory aggregateId floor.placementGeneration floor.cellId placement index
    | none =>
      match index.filter fun advance =>
          advance.aggregateId = aggregateId ∧ advance.generation = 1 with
      | [] => .error (.invalidDirectory
          s!"v3 placement {aggregateId} has no durable generation-one origin")
      | [origin] => laterMemberHistory aggregateId 1 origin.cellId placement index
      | _ => .error (.invalidDirectory
          s!"v3 placement {aggregateId} has ambiguous generation-one history")
  else .ok ()

/-- The loop over the placements that follows the two over the transfers. -/
def validatePlacementTransfers (entry : String × AggregatePlacementRecord) : Fallible Unit := do
  let aggregateId := entry.1
  let placement := entry.2
  document.validatePlacementHistory aggregateId placement
  whenSome placement.activeTransferId fun transferId => do
    let transfer ← demand (document.transfers.get? transferId)
      (.invalidDirectory
        s!"v3 active placement {aggregateId} references an unknown transfer")
    rejectIf (¬ ∃ member ∈ transfer.bundle.members, member.aggregateId = aggregateId)
      (.invalidDirectory s!"v3 active placement {aggregateId} is absent from its transfer")

def validateTransfers : Fallible Unit := do
  checkEach (document.indexTransfer codec) [] document.transfers.entries
  checkAll (document.validateTransfer codec) document.transfers.entries
  checkAll document.validatePlacementTransfers document.placements.entries

/-- What is checked of the document before its parts. -/
def headerInvalid : Prop :=
  document.schemaVersion ≠ draftCellDirectoryV3SchemaVersion
    ∨ isBlank document.universeId
    ∨ ¬ validBlake3Hex document.universeManifestHash
    ∨ document.directoryRevision = 0
    ∨ document.assignments.size ≠ 2
    ∨ maxDraftPlacements < document.placements.size
    ∨ maxDraftTransfers < document.transfers.size
    ∨ maxDraftDirectoryV3Bytes < codec.encodedLength document
    ∨ ¬ validBlake3Hex document.documentHash
    ∨ document.documentHash ≠ document.calculateHash codec

instance : Decidable (document.headerInvalid codec) := by
  unfold headerInvalid; infer_instance

def validate : Fallible Unit := do
  rejectIf (document.headerInvalid codec)
    (.invalidDirectory "v3 directory schema, universe, manifest, revision, or hash is invalid")
  document.validateAssignments codec
  document.validateMigrationGenesis codec
  checkAll document.validatePlacement document.placements.entries
  document.validateTransfers codec

/-- `seal`. -/
def sealed : CellDirectoryDocumentV3 :=
  { document with documentHash := document.calculateHash codec }

end CellDirectoryDocumentV3

end Verse.DirectoryV3
