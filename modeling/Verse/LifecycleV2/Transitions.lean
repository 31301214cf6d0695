import Verse.LifecycleV2.Record

/-!
# The transitions of a lifecycle record

Six transitions make a record from the one before: an authority operation is requested, and
finished once the directory has answered it; a holder renews and arms an occurrence; a commit
of it is begun, and acknowledged once the world has made it; a released cell goes to sleep.

Each reads the assignment and the world as they are now. `successor` is what they share: the
next revision at a trusted time that has not gone back.
-/

namespace Verse.LifecycleV2

open Lib Directory DirectoryV3

def requireMonotonicTrustedTime (trustedNowUnixMs lastTrustedUnixMs : Nat) : Fallible Unit :=
  rejectIf (trustedNowUnixMs < lastTrustedUnixMs)
    (.invalid "trusted lifecycle time moved backward")

def requireEventAppendLeaseMargin (trustedNowUnixMs authorityExpiresAtUnixMs : Nat) :
    Fallible Unit := do
  let safeThrough ← demand (checkedAdd trustedNowUnixMs eventAppendLeaseMarginMillis)
    (.exhausted "event append lease safety margin")
  rejectIf (safeThrough > authorityExpiresAtUnixMs)
    (.invalid "lifecycle authority lacks the event append lease safety margin")

/-- The state of the directory an operation is asked for in. -/
def LifecycleAuthorityOperationKindV2.expectedState :
    LifecycleAuthorityOperationKindV2 → CellAssignmentState
  | .claim => .sleeping
  | .recovery | .release => .assigned

namespace PendingProductionCommitV2

variable (pending : PendingProductionCommitV2) (frontier : LifecycleWorldFrontierV2)

/-- The world has committed the pending occurrence and nothing else. -/
def committedBy : Prop :=
  frontier.eventSequence = (checkedAdd pending.priorEventSequence 1).getD 0
    ∧ frontier.productionLifecycleGeneration = pending.occurrence.lifecycleGeneration
    ∧ frontier.committedProductionSequence = pending.occurrence.productionQuantumSequence
    ∧ frontier.lastScheduledForUnixMs = pending.occurrence.scheduledForUnixMs

/-- The world is still where the pending commit found it. -/
def precededBy : Prop :=
  frontier.eventSequence = pending.priorEventSequence
    ∧ frontier.eventHash = pending.priorEventHash
    ∧ frontier.stateHash = pending.priorStateHash

instance : Decidable (pending.committedBy frontier) := by unfold committedBy; infer_instance
instance : Decidable (pending.precededBy frontier) := by unfold precededBy; infer_instance

end PendingProductionCommitV2

namespace LifecycleRecordV2

variable (codec : LifecycleCodec) (record : LifecycleRecordV2)
  (assignment : ValidatedCurrentCellAssignmentV3) (frontier : LifecycleWorldFrontierV2)

/-! ## What the transitions require -/

def requireWorldFrontier : Fallible Unit :=
  rejectIf (frontier ≠ record.worldFrontier)
    (.invalid "lifecycle and world frontiers differ")

/-- The assignment is of this cell, at the generation and the fence of the record. -/
def namesAssignment : Prop :=
  assignment.universeId = record.universeId
    ∧ assignment.universeManifestHash = record.manifestHash
    ∧ assignment.assignment.cellKey = record.cellKey
    ∧ assignment.assignment.cellId = record.cellId
    ∧ assignment.assignment.assignmentGeneration = record.assignmentGeneration
    ∧ assignment.assignment.authorityFencingToken = record.authorityFencingToken

instance : Decidable (record.namesAssignment assignment) := by
  unfold namesAssignment; infer_instance

def requireExactFrontiers : Fallible Unit := do
  record.requireWorldFrontier frontier
  rejectIf (¬ record.namesAssignment assignment)
    (.invalid "lifecycle and directory frontiers differ")

def requireAssignmentIdentity : Fallible Unit :=
  rejectIf (assignment.assignment.state ≠ .assigned ∨ ¬ record.namesAssignment assignment)
    (.invalid "current assignment does not match lifecycle authority")

def requireWorldOrPendingSuccessor : Fallible Unit :=
  if frontier = record.worldFrontier then pure ()
  else do
    let pending ← demand record.pendingWorldCommit
      (.invalid "lifecycle and world frontiers differ without a pending commit")
    rejectIf (¬ pending.committedBy frontier
        ∨ frontier.celestialRegistryHash ≠ record.celestialRegistryHash)
      (.invalid "lifecycle pending commit has a conflicting world successor")

def requireLiveAuthority (trustedNowUnixMs : Nat) : Fallible Unit := do
  record.requireAssignmentIdentity assignment
  rejectIf (record.observedMode ≠ .background
      ∨ record.holderId ≠ assignment.assignment.holderId
      ∨ record.authorityOperation.isSome
      ∨ ∀ expiry ∈ record.authorityExpiresAtUnixMs, trustedNowUnixMs ≥ expiry)
    (.invalid "lifecycle authority is not live")

def requireEventAppendAuthority (trustedNowUnixMs : Nat) : Fallible Unit := do
  requireMonotonicTrustedTime trustedNowUnixMs record.lastTrustedUnixMs
  record.requireLiveAuthority assignment trustedNowUnixMs
  requireEventAppendLeaseMargin trustedNowUnixMs (record.authorityExpiresAtUnixMs.getD 0)
  record.requireWorldFrontier frontier
  rejectIf (record.pendingWorldCommit = none)
    (.invalid "production event append has no pending lifecycle commit")

/-! ## The first record -/

/-- The directory and the world are where the migration left them. -/
def genesisDiffers (genesis : Protocol19TargetLifecycleGenesisV2)
    (assignment : ValidatedCurrentCellAssignmentV3) (frontier : LifecycleWorldFrontierV2) : Prop :=
  assignment.assignment.state ≠ .sleeping
    ∨ assignment.assignment.holderId.isSome
    ∨ assignment.directoryRevision ≠ genesis.targetDirectoryRevision
    ∨ assignment.directoryDocumentHash ≠ genesis.targetDirectoryDocumentHash
    ∨ assignment.assignment.assignmentGeneration ≠ genesis.assignmentGeneration
    ∨ assignment.assignment.authorityFencingToken ≠ genesis.authorityFencingToken
    ∨ assignment.assignment.cellKey ≠ genesis.cellKey
    ∨ assignment.assignment.cellId ≠ genesis.cellId
    ∨ assignment.universeManifestHash ≠ genesis.manifestHash
    ∨ frontier.stateHash ≠ genesis.snapshotStateHash
    ∨ frontier.activeWorldHash ≠ genesis.activeWorldHash
    ∨ ¬ (frontier.eventSequence = genesis.legacyEventSequence
        ∧ frontier.eventHash = genesis.legacyEventHeadHash)
    ∨ frontier.committedProductionSequence ≠ genesis.acknowledgedProductionSequence
    ∨ (frontier.committedProductionSequence = 0 ∧ frontier.lastScheduledForUnixMs ≠ 0)

instance (genesis : Protocol19TargetLifecycleGenesisV2) :
    Decidable (genesisDiffers genesis assignment frontier) := by
  unfold genesisDiffers; infer_instance

/-- The first record, before it is sealed. -/
def genesisRecord (assignment : ValidatedCurrentCellAssignmentV3)
    (frontier : LifecycleWorldFrontierV2) (genesis : Protocol19TargetLifecycleGenesisV2)
    (activeHeadHash : String) : LifecycleRecordV2 where
  schemaVersion := lifecycleRecordSchemaVersion
  compatibility := .canonical
  universeId := assignment.universeId
  cellKey := assignment.assignment.cellKey
  cellId := assignment.assignment.cellId
  manifestHash := assignment.universeManifestHash
  celestialRegistryHash := frontier.celestialRegistryHash
  migrationAnchorHash := genesis.migrationAnchorHash
  lifecycleGenesisHash := genesis.recordHash
  activeHeadHash := activeHeadHash
  lifecycleRevision := 2
  desiredMode := .sleeping
  observedMode := .sleeping
  directoryRevision := assignment.directoryRevision
  directoryDocumentHash := assignment.directoryDocumentHash
  assignmentGeneration := assignment.assignment.assignmentGeneration
  authorityFencingToken := assignment.assignment.authorityFencingToken
  holderId := none
  authorityAcquiredAtUnixMs := none
  authorityRenewedAtUnixMs := none
  authorityExpiresAtUnixMs := none
  lastTrustedUnixMs := genesis.trustedCutoffUnixMs
  activationCutoffUnixMs := none
  lastWorldEventSequence := frontier.eventSequence
  lastWorldEventHash := frontier.eventHash
  lastWorldStateHash := frontier.stateHash
  lastActiveWorldHash := frontier.activeWorldHash
  productionLifecycleGeneration := frontier.productionLifecycleGeneration
  acknowledgedProductionSequence := frontier.committedProductionSequence
  lastCommittedProductionScheduledForUnixMs := frontier.lastScheduledForUnixMs
  nextProductionOccurrence := none
  authorityOperation := none
  pendingWorldCommit := none
  previousRecordHash := genesis.recordHash
  recordHash := ""

def initial (genesis : Protocol19TargetLifecycleGenesisV2) (activeHeadHash : String) :
    Fallible LifecycleRecordV2 := do
  rejectIf (genesisDiffers genesis assignment frontier)
    (.invalid "runtime lifecycle genesis differs from its immutable directory or world frontier")
  sealRecord codec (genesisRecord assignment frontier genesis activeHeadHash)

/-! ## Successors -/

def successor (trustedNowUnixMs : Nat) : Fallible LifecycleRecordV2 := do
  requireMonotonicTrustedTime trustedNowUnixMs record.lastTrustedUnixMs
  let lifecycleRevision ← demand (checkedAdd record.lifecycleRevision 1)
    (.exhausted "lifecycle revision")
  return { record with
    lifecycleRevision
    lastTrustedUnixMs := trustedNowUnixMs
    previousRecordHash := record.recordHash
    recordHash := "" }

/-- The end of an authority that is taken or renewed now. -/
def authorityExpiry (trustedNowUnixMs : Nat) : Fallible Nat :=
  demand (checkedAdd trustedNowUnixMs authorityDurationMillis) (.exhausted "authority expiry")

/-- What a request asks of the assignment and the world. A recovery may find the pending commit
    made. -/
def requireRequestFrontiers (kind : LifecycleAuthorityOperationKindV2) : Fallible Unit :=
  match kind, record.pendingWorldCommit with
  | .recovery, some pending => do
    record.requireAssignmentIdentity assignment
    rejectIf (¬ (pending.precededBy frontier
        ∨ pending.committedBy frontier))
      (.invalid "pending production recovery found a conflicting world frontier")
  | _, _ => record.requireExactFrontiers assignment frontier

def requestAuthority (kind : LifecycleAuthorityOperationKindV2) (holderId : String)
    (trustedNowUnixMs : Nat) : Fallible LifecycleRecordV2 := do
  record.requireRequestFrontiers assignment frontier kind
  rejectIf (record.authorityOperation.isSome
      ∨ (record.pendingWorldCommit.isSome ∧ kind ≠ .recovery))
    (.invalid "another lifecycle transaction is already pending")
  rejectIf (assignment.assignment.state ≠ kind.expectedState ∨ isBlank holderId)
    (.invalid "authority request does not match the current assignment")
  rejectIf (kind = .release ∧ assignment.assignment.holderId ≠ some holderId)
    (.invalid "release request holder is not current")
  let operationId :=
    lifecycleOperationId kind assignment.assignment.assignmentGeneration holderId
  rejectIf (¬ operationIdStable operationId)
    (.invalid "lifecycle operation identity is not stable")
  let next ← record.successor trustedNowUnixMs
  sealRecord codec { next with
    desiredMode := if kind = .release then .sleeping else .background
    observedMode := if kind = .release then .draining else record.observedMode
    authorityOperation := some {
      kind
      operationId
      expectedAssignmentGeneration := assignment.assignment.assignmentGeneration
      holderId
      requestedAtUnixMs := trustedNowUnixMs } }

def finalizeAssigned (trustedNowUnixMs : Nat) : Fallible LifecycleRecordV2 := do
  let operation ← demand record.authorityOperation
    (.invalid "assigned finalization has no pending authority request")
  let refusal := LifecycleV2Error.invalid
    "directory successor does not match the pending authority request"
  rejectIf (operation.kind = .release
      ∨ assignment.assignment.state ≠ .assigned
      ∨ assignment.assignment.holderId ≠ some operation.holderId) refusal
  let assignmentGeneration ← demand (checkedAdd operation.expectedAssignmentGeneration 1)
    (.exhausted "assignment generation")
  rejectIf (assignment.assignment.assignmentGeneration ≠ assignmentGeneration) refusal
  record.requireWorldOrPendingSuccessor frontier
  let next ← record.successor trustedNowUnixMs
  let expiry ← authorityExpiry trustedNowUnixMs
  let next := { next with
    observedMode := .background
    directoryRevision := assignment.directoryRevision
    directoryDocumentHash := assignment.directoryDocumentHash
    assignmentGeneration := assignment.assignment.assignmentGeneration
    authorityFencingToken := assignment.assignment.authorityFencingToken
    holderId := assignment.assignment.holderId
    authorityAcquiredAtUnixMs := some trustedNowUnixMs
    authorityRenewedAtUnixMs := some trustedNowUnixMs
    authorityExpiresAtUnixMs := some expiry
    authorityOperation := none }
  -- a pending commit stays bound to its prior frontier; only its acknowledgement moves on
  sealRecord codec (if frontier = record.worldFrontier then next.installFrontier frontier else next)

def renewAndSetSchedule (trustedNowUnixMs : Nat)
    (nextOccurrence : Option ProductionScheduleOccurrence) : Fallible LifecycleRecordV2 := do
  record.requireLiveAuthority assignment trustedNowUnixMs
  record.requireWorldFrontier frontier
  checkAll (fun occurrence => validateOccurrence occurrence record frontier)
    nextOccurrence.toList
  let next ← record.successor trustedNowUnixMs
  let expiry ← authorityExpiry trustedNowUnixMs
  sealRecord codec <| installFrontier { next with
    directoryRevision := assignment.directoryRevision
    directoryDocumentHash := assignment.directoryDocumentHash
    authorityRenewedAtUnixMs := some trustedNowUnixMs
    authorityExpiresAtUnixMs := some expiry
    nextProductionOccurrence := nextOccurrence } frontier

def beginWorldCommit (trustedNowUnixMs : Nat) : Fallible LifecycleRecordV2 := do
  record.requireLiveAuthority assignment trustedNowUnixMs
  record.requireWorldFrontier frontier
  let occurrence ← demand record.nextProductionOccurrence
    (.invalid "production dispatch has no armed occurrence")
  rejectIf (occurrence.scheduledForUnixMs > trustedNowUnixMs)
    (.invalid "production occurrence is not due")
  rejectIf record.pendingWorldCommit.isSome (.invalid "a production event is already pending")
  let next ← record.successor trustedNowUnixMs
  sealRecord codec { next with
    pendingWorldCommit := some {
      occurrence
      priorEventSequence := frontier.eventSequence
      priorEventHash := frontier.eventHash
      priorStateHash := frontier.stateHash } }

def acknowledgeWorldCommit (trustedNowUnixMs : Nat)
    (nextOccurrence : Option ProductionScheduleOccurrence) : Fallible LifecycleRecordV2 := do
  record.requireLiveAuthority assignment trustedNowUnixMs
  let pending ← demand record.pendingWorldCommit
    (.invalid "production acknowledgement has no pending event")
  rejectIf (frontier.eventSequence ≠ (checkedAdd pending.priorEventSequence 1).getD 0
      ∨ frontier.committedProductionSequence ≠ pending.occurrence.productionQuantumSequence
      ∨ frontier.lastScheduledForUnixMs ≠ pending.occurrence.scheduledForUnixMs)
    (.invalid "world frontier is not the exact pending production successor")
  let next ← record.successor trustedNowUnixMs
  sealRecord codec <| installFrontier { next with
    pendingWorldCommit := none
    acknowledgedProductionSequence := frontier.committedProductionSequence
    nextProductionOccurrence := nextOccurrence } frontier

def finalizeSleeping (trustedNowUnixMs : Nat) : Fallible LifecycleRecordV2 := do
  let operation ← demand record.authorityOperation
    (.invalid "sleeping finalization has no pending release")
  rejectIf (operation.kind ≠ .release
      ∨ assignment.assignment.state ≠ .sleeping
      ∨ assignment.assignment.holderId.isSome
      ∨ assignment.assignment.assignmentGeneration ≠ operation.expectedAssignmentGeneration)
    (.invalid "sleeping directory tip does not match the pending release")
  record.requireWorldFrontier frontier
  let next ← record.successor trustedNowUnixMs
  sealRecord codec <| installFrontier { next with
    observedMode := .sleeping
    directoryRevision := assignment.directoryRevision
    directoryDocumentHash := assignment.directoryDocumentHash
    assignmentGeneration := assignment.assignment.assignmentGeneration
    authorityFencingToken := assignment.assignment.authorityFencingToken
    holderId := none
    authorityAcquiredAtUnixMs := none
    authorityRenewedAtUnixMs := none
    authorityExpiresAtUnixMs := none
    authorityOperation := none
    pendingWorldCommit := none } frontier

end LifecycleRecordV2

end Verse.LifecycleV2
