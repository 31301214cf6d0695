import Verse.LifecycleV2.Transitions

/-!
# An activated cell and its journal

The journal takes a record only when it can make the same record again: `validateExactSuccessor`
calls the transition that the two records suggest, with the assignment at the record's own
directory revision and the world as the prior record has it. The same validators read the whole
journal back when the cell is opened, and the last record is then held against the directory and
the world as they are.

`LifecycleCell` is the three parties together. `Step` is what moves one of them: a record is
made and appended, the directory commits an operation, the world commits the pending quantum.
The only operations on the authority of this cell are those its record asks for; everything
else the directory does is left free.
-/

namespace Verse.LifecycleV2

open Lib Directory DirectoryV3

/-! ## The transitions together -/

inductive LifecycleTransitionV2 where
  | requestAuthority (kind : LifecycleAuthorityOperationKindV2) (holderId : String)
  | finalizeAssigned
  | renewAndSetSchedule (nextOccurrence : Option ProductionScheduleOccurrence)
  | beginWorldCommit
  | acknowledgeWorldCommit (nextOccurrence : Option ProductionScheduleOccurrence)
  | finalizeSleeping
deriving DecidableEq

namespace LifecycleRecordV2

variable (codec : LifecycleCodec) (record : LifecycleRecordV2)

def apply (assignment : ValidatedCurrentCellAssignmentV3) (frontier : LifecycleWorldFrontierV2)
    (trustedNowUnixMs : Nat) : LifecycleTransitionV2 → Fallible LifecycleRecordV2
  | .requestAuthority kind holderId =>
    record.requestAuthority codec assignment frontier kind holderId trustedNowUnixMs
  | .finalizeAssigned => record.finalizeAssigned codec assignment frontier trustedNowUnixMs
  | .renewAndSetSchedule nextOccurrence =>
    record.renewAndSetSchedule codec assignment frontier trustedNowUnixMs nextOccurrence
  | .beginWorldCommit => record.beginWorldCommit codec assignment frontier trustedNowUnixMs
  | .acknowledgeWorldCommit nextOccurrence =>
    record.acknowledgeWorldCommit codec assignment frontier trustedNowUnixMs nextOccurrence
  | .finalizeSleeping => record.finalizeSleeping codec assignment frontier trustedNowUnixMs

/-! ## The validators of the journal -/

/-- The assignment the record was made under, from the directory's history. -/
def boundAssignment (history : DirectoryHistory) : Fallible ValidatedCurrentCellAssignmentV3 :=
  (historicalCellAssignment history record.directoryRevision record.directoryDocumentHash
    record.cellId).mapError .directory

/-- The record and the assignment agree on who holds the cell. -/
def holderMatches (assignment : CellAssignmentRecord) : Prop :=
  (assignment.state = .assigned ∧ assignment.holderId = record.holderId)
    ∨ (assignment.state = .sleeping ∧ assignment.holderId = none ∧ record.holderId = none)

instance (assignment : CellAssignmentRecord) : Decidable (record.holderMatches assignment) := by
  unfold holderMatches; infer_instance

def validateDirectoryBinding (history : DirectoryHistory) : Fallible Unit := do
  let assignment ← record.boundAssignment history
  rejectIf (¬ record.namesAssignment assignment ∨ ¬ record.holderMatches assignment.assignment)
    (.invalid "lifecycle record is not authenticated by its historical directory assignment")

/-- The record a transition makes of `prior`, if `record` is the one it made. -/
def expectedSuccessor (prior : LifecycleRecordV2)
    (assignment : ValidatedCurrentCellAssignmentV3) : Fallible LifecycleRecordV2 :=
  let now := record.lastTrustedUnixMs
  match prior.authorityOperation, record.authorityOperation with
  | none, some operation =>
    prior.requestAuthority codec assignment prior.worldFrontier operation.kind
      operation.holderId now
  | some operation, none =>
    match operation.kind with
    | .claim | .recovery => prior.finalizeAssigned codec assignment prior.worldFrontier now
    | .release => prior.finalizeSleeping codec assignment prior.worldFrontier now
  | none, none =>
    match prior.pendingWorldCommit, record.pendingWorldCommit with
    | none, some _ => prior.beginWorldCommit codec assignment prior.worldFrontier now
    | some _, none =>
      prior.acknowledgeWorldCommit codec assignment record.worldFrontier now
        record.nextProductionOccurrence
    | none, none =>
      prior.renewAndSetSchedule codec assignment prior.worldFrontier now
        record.nextProductionOccurrence
    | some _, some _ =>
      .error (.invalid "pending production transaction cannot change without acknowledgement")
  | some _, some _ =>
    .error (.invalid "pending authority transaction cannot be replaced in place")

def validateExactSuccessor (prior : LifecycleRecordV2) (history : DirectoryHistory) :
    Fallible Unit := do
  let assignment ← record.boundAssignment history
  let expected ← record.expectedSuccessor codec prior assignment
  rejectIf (record ≠ expected)
    (.invalid "lifecycle history contains a successor not produced by the state machine")

/-- The directory has not yet answered the operation. -/
def awaits (assignment : CellAssignmentRecord) (operation : LifecycleAuthorityOperationV2) :
    Prop :=
  assignment.state = operation.kind.expectedState
    ∧ assignment.assignmentGeneration = operation.expectedAssignmentGeneration
    ∧ assignment.authorityFencingToken = record.authorityFencingToken
    ∧ (operation.kind = .release → assignment.holderId = some operation.holderId)

/-- The directory has done what the operation asks. -/
def answered (assignment : CellAssignmentRecord) (operation : LifecycleAuthorityOperationV2) :
    Prop :=
  match operation.kind with
  | .claim | .recovery =>
    assignment.state = .assigned
      ∧ assignment.assignmentGeneration
          = (checkedAdd operation.expectedAssignmentGeneration 1).getD 0
      ∧ assignment.authorityFencingToken
          = (checkedAdd record.authorityFencingToken 1).getD 0
      ∧ assignment.holderId = some operation.holderId
  | .release =>
    assignment.state = .sleeping
      ∧ assignment.assignmentGeneration = operation.expectedAssignmentGeneration
      ∧ assignment.authorityFencingToken = record.authorityFencingToken
      ∧ assignment.holderId = none

instance (assignment : CellAssignmentRecord) (operation : LifecycleAuthorityOperationV2) :
    Decidable (record.awaits assignment operation) := by
  unfold awaits; infer_instance

instance (assignment : CellAssignmentRecord) (operation : LifecycleAuthorityOperationV2) :
    Decidable (record.answered assignment operation) := by
  unfold answered; split <;> infer_instance

def validateRecoveryView (assignment : ValidatedCurrentCellAssignmentV3)
    (frontier : LifecycleWorldFrontierV2) : Fallible Unit := do
  let directory := assignment.assignment
  rejectIf (assignment.universeId ≠ record.universeId
      ∨ assignment.universeManifestHash ≠ record.manifestHash
      ∨ directory.cellKey ≠ record.cellKey
      ∨ directory.cellId ≠ record.cellId)
    (.invalid "recovered lifecycle belongs to another directory assignment")
  record.requireWorldOrPendingSuccessor frontier
  match record.authorityOperation with
  | none =>
    if record.observedMode = .sleeping then
      rejectIf (directory.state ≠ .sleeping
          ∨ directory.holderId.isSome
          ∨ directory.assignmentGeneration ≠ record.assignmentGeneration
          ∨ directory.authorityFencingToken ≠ record.authorityFencingToken)
        (.invalid "sleeping lifecycle does not match the sleeping directory tip")
    else do
      record.requireAssignmentIdentity assignment
      rejectIf (directory.holderId ≠ record.holderId)
        (.invalid "assigned lifecycle holder differs from the directory tip")
  | some operation =>
    rejectIf (¬ (record.awaits directory operation ∨ record.answered directory operation))
      (.invalid (if operation.kind = .release
        then "pending release has no exact directory frontier"
        else "pending authority request has no exact directory frontier"))

end LifecycleRecordV2

/-! ## The world -/

/-- The parts of a world-21 state that the lifecycle reads, or a quantum of production changes. -/
structure ActivatedWorld where
  base : WorldState
  (stateHash activeWorldHash : String)
deriving DecidableEq

def ActivatedWorld.lifecycleWorldFrontier (world : ActivatedWorld) : LifecycleWorldFrontierV2 :=
  .fromWorld world.base world.stateHash world.activeWorldHash

/-- What a quantum leaves behind: the work of the machines and the hashes of the new state. -/
structure CommittedQuantum where
  planned : WorldState
  (eventHash stateHash activeWorldHash : String)
  eventHash_hex : validBlake3Hex eventHash = true
  stateHash_hex : validBlake3Hex stateHash = true
  activeWorldHash_hex : validBlake3Hex activeWorldHash = true

/-- `append_production_occurrence`, with its refusals told apart by nothing. -/
def ActivatedWorld.appendProductionOccurrence (world : ActivatedWorld)
    (occurrence : ProductionScheduleOccurrence) (acceptedTrustedAtUnixMs : Nat)
    (quantum : CommittedQuantum) : Option ActivatedWorld :=
  if acceptedTrustedAtUnixMs < occurrence.scheduledForUnixMs then none
  else if world.base.validateNextProductionOccurrence occurrence = .ok () then
    (checkedAdd world.base.eventSequence 1).map fun eventSequence =>
      { base := { world.base with
          player := quantum.planned.player
          inventories := quantum.planned.inventories
          productionQueues := quantum.planned.productionQueues
          ledger := quantum.planned.ledger
          productionClock := { world.base.productionClock with
            lastCommittedQuantumSequence := occurrence.productionQuantumSequence
            lastScheduledForUnixMs := occurrence.scheduledForUnixMs }
          eventSequence
          lastEventHash := quantum.eventHash }
        stateHash := quantum.stateHash
        activeWorldHash := quantum.activeWorldHash }
  else none

/-! ## The cell -/

/-- A cell with its directory, its world and its lifecycle records. -/
structure LifecycleCell where
  history : DirectoryHistory
  world : ActivatedWorld
  earlier : List LifecycleRecordV2
  current : LifecycleRecordV2

namespace LifecycleCell

variable (codec : LifecycleCodec) (cell : LifecycleCell)

/-- Every record of the journal, oldest first. -/
def records : List LifecycleRecordV2 := cell.earlier ++ [cell.current]

def append (record : LifecycleRecordV2) : LifecycleCell :=
  { cell with earlier := cell.records, current := record }

/-- The assignment of the cell at the tip of the directory. -/
def assignment : Fallible ValidatedCurrentCellAssignmentV3 :=
  (currentCellAssignment cell.history cell.current.cellId).mapError .directory

/-- A transition of the last record, with the directory and the world as they are. -/
def transition (trustedNowUnixMs : Nat) (transition : LifecycleTransitionV2) :
    Fallible LifecycleRecordV2 := do
  let assignment ← cell.assignment
  cell.current.apply codec assignment cell.world.lifecycleWorldFrontier trustedNowUnixMs transition

/-- `prepare_append`: what is asked of the record. -/
def prepareAppend (record : LifecycleRecordV2) : Fallible Unit := do
  record.validate codec
  record.validateDirectoryBinding cell.history
  record.validateExactSuccessor codec cell.current cell.history
  rejectIf (record.previousRecordHash ≠ cell.current.recordHash
      ∨ record.lifecycleRevision ≠ (checkedAdd cell.current.lifecycleRevision 1).getD 0)
    (.invalid "lifecycle append is not the exact successor")

end LifecycleCell

/-! ## Opening -/

/-- A record in the light of the one before it, as the journal is read. -/
def recoverSuccessor (codec : LifecycleCodec) (history : DirectoryHistory)
    (prior record : LifecycleRecordV2) : Fallible Unit := do
  record.validateDirectoryBinding history
  record.validateExactSuccessor codec prior history

/-- The chain of hashes and revisions, from the genesis on. -/
def recoverLink (codec : LifecycleCodec) (genesis : Protocol19TargetLifecycleGenesisV2)
    (before : List LifecycleRecordV2) (record : LifecycleRecordV2) : Fallible Unit := do
  record.validate codec
  let expectedRevision ← demand (checkedAdd before.length 2) (.exhausted "lifecycle revision")
  rejectIf (record.previousRecordHash
        ≠ (before.getLast?.map LifecycleRecordV2.recordHash).getD genesis.recordHash
      ∨ record.lifecycleRevision ≠ expectedRevision)
    (.invalid "lifecycle history chain is discontinuous")

/-- `recover`, of the records the head commits. -/
def recover (codec : LifecycleCodec) (genesis : Protocol19TargetLifecycleGenesisV2)
    (activeHeadHash : String) (initialFrontier : LifecycleWorldFrontierV2)
    (history : DirectoryHistory) (records : List LifecycleRecordV2) : Fallible Unit := do
  checkEach (recoverLink codec genesis) [] records
  match records with
  | [] => return ()
  | first :: _ => do
    let assignment ← (historicalCellAssignment history genesis.targetDirectoryRevision
      genesis.targetDirectoryDocumentHash genesis.cellId).mapError .directory
    let expected ←
      LifecycleRecordV2.initial codec assignment initialFrontier genesis activeHeadHash
    rejectIf (first ≠ expected)
      (.invalid "lifecycle history does not begin at the immutable genesis frontier")
    first.validateDirectoryBinding history
    checkWindows (recoverSuccessor codec history) records

def validateIdentity (genesis : Protocol19TargetLifecycleGenesisV2) (activeHeadHash : String)
    (current : LifecycleRecordV2) : Fallible Unit :=
  rejectIf (current.lifecycleGenesisHash ≠ genesis.recordHash
      ∨ current.activeHeadHash ≠ activeHeadHash
      ∨ current.cellKey ≠ genesis.cellKey
      ∨ current.cellId ≠ genesis.cellId
      ∨ current.manifestHash ≠ genesis.manifestHash
      ∨ current.migrationAnchorHash ≠ genesis.migrationAnchorHash)
    (.invalid "lifecycle record identity differs from immutable genesis")

/-- `open_or_initialize`, of a cell whose files are in place. -/
def LifecycleCell.openOrInitialize (codec : LifecycleCodec)
    (genesis : Protocol19TargetLifecycleGenesisV2) (activeHeadHash : String)
    (initialFrontier : LifecycleWorldFrontierV2) (cell : LifecycleCell) : Fallible Unit := do
  recover codec genesis activeHeadHash initialFrontier cell.history cell.records
  validateIdentity genesis activeHeadHash cell.current
  let assignment ←
    (currentCellAssignment cell.history genesis.cellId).mapError .directory
  cell.current.validateRecoveryView assignment cell.world.lifecycleWorldFrontier

/-! ## The life of a cell -/

/-- The pending operation is of this kind, at this generation and for this holder. -/
def LifecycleRecordV2.AsksFor (record : LifecycleRecordV2)
    (kind : LifecycleAuthorityOperationKindV2) (generation : Nat) (holderId : String) : Prop :=
  ∃ operation ∈ record.authorityOperation, operation.kind = kind
    ∧ operation.expectedAssignmentGeneration = generation ∧ operation.holderId = holderId

instance (record : LifecycleRecordV2) (kind : LifecycleAuthorityOperationKindV2)
    (generation : Nat) (holderId : String) : Decidable (record.AsksFor kind generation holderId) := by
  unfold LifecycleRecordV2.AsksFor; infer_instance

/-- An operation on the authority of the cell is the one its record asks for. -/
def LifecycleRecordV2.Drives (codec : LifecycleCodec) (record : LifecycleRecordV2) :
    DirectoryV3Op → Prop
  | .claim cellKey generation holderId =>
    codec.directory.sky.cellId cellKey = some record.cellId →
      record.AsksFor .claim generation holderId
  | .recover cellKey generation holderId =>
    codec.directory.sky.cellId cellKey = some record.cellId →
      record.AsksFor .recovery generation holderId
  | .release cellKey generation holderId =>
    codec.directory.sky.cellId cellKey = some record.cellId →
      record.AsksFor .release generation holderId
  | _ => True

/-- One thing that happens to a cell. -/
inductive LifecycleCell.Step (codec : LifecycleCodec) (cell : LifecycleCell) :
    LifecycleCell → Prop where
  | appended {trustedNowUnixMs : Nat} {transition : LifecycleTransitionV2}
      {record : LifecycleRecordV2}
      (made : cell.transition codec trustedNowUnixMs transition = .ok record)
      (accepted : cell.prepareAppend codec record = .ok ()) :
      LifecycleCell.Step codec cell (cell.append record)
  | directory {op : DirectoryV3Op} {history : DirectoryHistory}
      (driven : cell.current.Drives codec op)
      (committed : cell.history.step codec.directory op = .ok history) :
      LifecycleCell.Step codec cell { cell with history := history }
  | world {trustedNowUnixMs : Nat} {assignment : ValidatedCurrentCellAssignmentV3}
      {pending : PendingProductionCommitV2} {quantum : CommittedQuantum} {world : ActivatedWorld}
      (found : cell.assignment = .ok assignment)
      (authority : cell.current.requireEventAppendAuthority assignment
        cell.world.lifecycleWorldFrontier trustedNowUnixMs = .ok ())
      (awaited : cell.current.pendingWorldCommit = some pending)
      (committed : cell.world.appendProductionOccurrence pending.occurrence trustedNowUnixMs
        quantum = some world) :
      LifecycleCell.Step codec cell { cell with world := world }

/-- A cell that has just been activated: the directory has had a life of its own, the world and
    the directory are where the migration left them, and the first record is made. -/
structure Installation (codec : LifecycleCodec) where
  document : CellDirectoryDocumentV3
  operations : List DirectoryV3Op
  history : DirectoryHistory
  world : ActivatedWorld
  genesis : Protocol19TargetLifecycleGenesisV2
  activeHeadHash : String
  assignment : ValidatedCurrentCellAssignmentV3
  record : LifecycleRecordV2
  document_genesis : IsGenesis codec.directory document
  history_reached :
    DirectoryV3.run codec.directory (genesisHistory document) operations = .ok history
  world_universe : world.base.universeId = history.current.universeId
  world_cell : world.base.cellId = genesis.cellId
  world_manifest : world.base.universeManifestHash = genesis.manifestHash
  assignment_current : currentCellAssignment history genesis.cellId = .ok assignment
  record_initial : LifecycleRecordV2.initial codec assignment world.lifecycleWorldFrontier genesis
    activeHeadHash = .ok record

variable {codec : LifecycleCodec}

def Installation.start (installation : Installation codec) : LifecycleCell where
  history := installation.history
  world := installation.world
  earlier := []
  current := installation.record

/-- What a cell can have come to. -/
inductive Reached (installation : Installation codec) : LifecycleCell → Prop where
  | start : Reached installation installation.start
  | step {cell next : LifecycleCell} (before : Reached installation cell)
      (moved : cell.Step codec next) : Reached installation next

/-- The cell as it is opened: against the frontier the migration left. -/
def Installation.opens (installation : Installation codec) (cell : LifecycleCell) : Prop :=
  cell.openOrInitialize codec installation.genesis installation.activeHeadHash
    installation.world.lifecycleWorldFrontier = .ok ()

end Verse.LifecycleV2
