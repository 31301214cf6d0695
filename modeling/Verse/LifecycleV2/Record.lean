import Verse.DirectoryV3.Journal
import Verse.Engine.Schedule

/-!
# The lifecycle record of an activated cell

A cell that has been activated keeps a journal of lifecycle records, each the successor of the
one before. A record says which mode the cell is in, who holds it and until when, how far its
world has got, and which of two transactions is under way: an authority operation that the
directory has yet to answer, or a quantum of production that the world has yet to commit.

A record names the directory document it was made under. `currentCellAssignment` and
`historicalCellAssignment` are the two ways an assignment is read from the directory: at its
tip, and at the revision and hash that a record kept.

`LifecycleCodec` is what the journal relies on outside itself. The hash of a record is taken
with its own field cleared; it is 64 lowercase hexadecimal digits whatever is hashed.
-/

namespace Verse.LifecycleV2

open Lib Directory DirectoryV3

/-- `directory` is the source's `Invalid` of what the directory says. -/
inductive LifecycleV2Error where
  | invalid (reason : String)
  | directory (source : CellDirectoryError)
  | exhausted (what : String)
deriving DecidableEq, Repr

abbrev Fallible (α : Type) := Except LifecycleV2Error α

/-! ## Constants -/

def lifecycleRecordSchemaVersion : Nat := 2
def authorityDurationMillis : Nat := 15000
def eventAppendLeaseMarginMillis : Nat := 5000
def productionQuantumMillis : Nat := 1000

/-! ## The record -/

inductive LifecycleModeV2 where
  | sleeping
  | activating
  | background
  | draining
deriving DecidableEq, Repr

inductive LifecycleAuthorityOperationKindV2 where
  | claim
  | recovery
  | release
deriving DecidableEq, Repr

structure LifecycleAuthorityOperationV2 where
  kind : LifecycleAuthorityOperationKindV2
  operationId : String
  expectedAssignmentGeneration : Nat
  holderId : String
  requestedAtUnixMs : Nat
deriving DecidableEq, Repr

structure PendingProductionCommitV2 where
  occurrence : ProductionScheduleOccurrence
  priorEventSequence : Nat
  (priorEventHash priorStateHash : String)
deriving DecidableEq, Repr

structure LifecycleWorldFrontierV2 where
  eventSequence : Nat
  (eventHash stateHash activeWorldHash celestialRegistryHash : String)
  (productionLifecycleGeneration committedProductionSequence lastScheduledForUnixMs : Nat)
deriving DecidableEq, Repr

def LifecycleWorldFrontierV2.fromWorld (world : WorldState) (stateHash activeWorldHash : String) :
    LifecycleWorldFrontierV2 where
  eventSequence := world.eventSequence
  eventHash := world.lastEventHash
  stateHash := stateHash
  activeWorldHash := activeWorldHash
  celestialRegistryHash := world.celestialRegistryHash
  productionLifecycleGeneration := world.productionClock.lifecycleGeneration
  committedProductionSequence := world.productionClock.lastCommittedQuantumSequence
  lastScheduledForUnixMs := world.productionClock.lastScheduledForUnixMs

structure LifecycleRecordV2 where
  schemaVersion : Nat
  compatibility : Protocol19CompatibilityTuple
  universeId : String
  cellKey : CellKeyV1
  (cellId manifestHash celestialRegistryHash migrationAnchorHash lifecycleGenesisHash : String)
  activeHeadHash : String
  lifecycleRevision : Nat
  (desiredMode observedMode : LifecycleModeV2)
  directoryRevision : Nat
  directoryDocumentHash : String
  (assignmentGeneration authorityFencingToken : Nat)
  holderId : Option String
  (authorityAcquiredAtUnixMs authorityRenewedAtUnixMs authorityExpiresAtUnixMs : Option Nat)
  lastTrustedUnixMs : Nat
  activationCutoffUnixMs : Option Nat
  lastWorldEventSequence : Nat
  (lastWorldEventHash lastWorldStateHash lastActiveWorldHash : String)
  (productionLifecycleGeneration acknowledgedProductionSequence : Nat)
  lastCommittedProductionScheduledForUnixMs : Nat
  nextProductionOccurrence : Option ProductionScheduleOccurrence
  authorityOperation : Option LifecycleAuthorityOperationV2
  pendingWorldCommit : Option PendingProductionCommitV2
  (previousRecordHash recordHash : String)
deriving DecidableEq, Repr

/-- What the migration pinned of the cell: the fields of `Protocol19TargetLifecycleGenesisV2` that
    the first record is made from. -/
structure Protocol19TargetLifecycleGenesisV2 where
  cellKey : CellKeyV1
  (cellId manifestHash migrationAnchorHash : String)
  targetDirectoryRevision : Nat
  targetDirectoryDocumentHash : String
  (assignmentGeneration authorityFencingToken trustedCutoffUnixMs : Nat)
  (snapshotStateHash activeWorldHash : String)
  legacyEventSequence : Nat
  legacyEventHeadHash : String
  acknowledgedProductionSequence : Nat
  recordHash : String
deriving DecidableEq, Repr

structure LifecycleCodec where
  directory : DirectoryCodec
  recordHash : LifecycleRecordV2 → String
  recordHash_hex : ∀ record, validBlake3Hex (recordHash record) = true

/-! ## Assignments, as the directory has them -/

structure ValidatedCurrentCellAssignmentV3 where
  directoryRevision : Nat
  (directoryDocumentHash universeId universeManifestHash : String)
  assignment : CellAssignmentRecord
deriving DecidableEq

def assignmentFromDocument (document : CellDirectoryDocumentV3) (cellId : String) :
    Directory.Fallible ValidatedCurrentCellAssignmentV3 := do
  let assignment ← demand (document.assignments.get? cellId) (.unknownCell cellId)
  return {
    directoryRevision := document.directoryRevision
    directoryDocumentHash := document.documentHash
    universeId := document.universeId
    universeManifestHash := document.universeManifestHash
    assignment }

/-- `resolve_document`: the index has one location for each revision. -/
def resolveDocument (history : DirectoryHistory) (directoryRevision : Nat)
    (documentHash : String) : Directory.Fallible CellDirectoryDocumentV3 := do
  let document ← demand
    (history.documents.find? fun document => document.directoryRevision = directoryRevision)
    (.invalidDirectory s!"v3 directory history has no revision {directoryRevision}")
  rejectIf (document.documentHash ≠ documentHash)
    (.invalidDirectory
      s!"v3 directory history revision {directoryRevision} has a different document hash")
  return document

def currentCellAssignment (history : DirectoryHistory) (cellId : String) :
    Directory.Fallible ValidatedCurrentCellAssignmentV3 :=
  assignmentFromDocument history.current cellId

def historicalCellAssignment (history : DirectoryHistory) (directoryRevision : Nat)
    (documentHash cellId : String) : Directory.Fallible ValidatedCurrentCellAssignmentV3 := do
  let document ← resolveDocument history directoryRevision documentHash
  assignmentFromDocument document cellId

/-! ## What makes a record canonical -/

/-- The word an operation is named by. -/
def LifecycleAuthorityOperationKindV2.word : LifecycleAuthorityOperationKindV2 → String
  | .claim => "claim"
  | .recovery => "recover"
  | .release => "release"

/-- The identity of an operation, derived from what it asks for. -/
def lifecycleOperationId (kind : LifecycleAuthorityOperationKindV2)
    (assignmentGeneration : Nat) (holderId : String) : String :=
  "lifecycle-" ++ kind.word ++ "-" ++ toString assignmentGeneration ++ "-" ++ holderId

/-- An identity that is short enough and of ASCII letters, digits, `-`, `_` and `.`. -/
def operationIdStable (operationId : String) : Prop :=
  operationId.utf8ByteSize ≤ 192
    ∧ operationId.toList.all (fun c => c.isAlphanum || c == '-' || c == '_' || c == '.') = true

instance (operationId : String) : Decidable (operationIdStable operationId) := by
  unfold operationIdStable; infer_instance

def validateOccurrence (occurrence : ProductionScheduleOccurrence)
    (lifecycle : LifecycleRecordV2) (frontier : LifecycleWorldFrontierV2) : Fallible Unit := do
  let refusal := LifecycleV2Error.invalid "production occurrence is not the exact next cursor"
  rejectIf (occurrence.schemaVersion ≠ productionScheduleOccurrenceSchemaVersion
      ∨ occurrence.universeId ≠ lifecycle.universeId
      ∨ occurrence.cellId ≠ lifecycle.cellId
      ∨ occurrence.lifecycleGeneration ≠ frontier.productionLifecycleGeneration) refusal
  let nextSequence ← demand (checkedAdd frontier.committedProductionSequence 1)
    (.exhausted "production sequence")
  rejectIf (occurrence.productionQuantumSequence ≠ nextSequence
      ∨ occurrence.scheduledForUnixMs = 0
      ∨ occurrence.universeManifestHash ≠ lifecycle.manifestHash
      ∨ occurrence.celestialRegistryHash ≠ lifecycle.celestialRegistryHash) refusal
  -- an armed record keeps the cadence of the quanta it has committed
  if lifecycle.nextProductionOccurrence.isSome ∧ frontier.committedProductionSequence > 0 then do
    let following ← demand (checkedAdd frontier.lastScheduledForUnixMs productionQuantumMillis)
      (.exhausted "production schedule time")
    rejectIf (occurrence.scheduledForUnixMs ≠ following) refusal
  else pure ()

namespace LifecycleRecordV2

def worldFrontier (record : LifecycleRecordV2) : LifecycleWorldFrontierV2 where
  eventSequence := record.lastWorldEventSequence
  eventHash := record.lastWorldEventHash
  stateHash := record.lastWorldStateHash
  activeWorldHash := record.lastActiveWorldHash
  celestialRegistryHash := record.celestialRegistryHash
  productionLifecycleGeneration := record.productionLifecycleGeneration
  committedProductionSequence := record.acknowledgedProductionSequence
  lastScheduledForUnixMs := record.lastCommittedProductionScheduledForUnixMs

/-- `install_frontier`: the acknowledged sequence and the registry are not part of it. -/
def installFrontier (record : LifecycleRecordV2) (frontier : LifecycleWorldFrontierV2) :
    LifecycleRecordV2 :=
  { record with
    lastWorldEventSequence := frontier.eventSequence
    lastWorldEventHash := frontier.eventHash
    lastWorldStateHash := frontier.stateHash
    lastActiveWorldHash := frontier.activeWorldHash
    productionLifecycleGeneration := frontier.productionLifecycleGeneration
    lastCommittedProductionScheduledForUnixMs := frontier.lastScheduledForUnixMs }

variable (codec : LifecycleCodec) (record : LifecycleRecordV2)

def calculateHash : String := codec.recordHash { record with recordHash := "" }

/-- Whether the cell is in a mode in which somebody holds it. -/
def live : Prop := record.observedMode ≠ .sleeping

instance : Decidable record.live := by unfold live; infer_instance

def authorityTimes : Prop :=
  record.authorityAcquiredAtUnixMs.isSome
    ∧ record.authorityRenewedAtUnixMs.isSome
    ∧ record.authorityExpiresAtUnixMs.isSome

instance : Decidable record.authorityTimes := by unfold authorityTimes; infer_instance

def emptyEvent : Prop := record.lastWorldEventSequence = 0 ∧ record.lastWorldEventHash = ""

def populatedEvent : Prop :=
  record.lastWorldEventSequence > 0 ∧ validBlake3Hex record.lastWorldEventHash

instance : Decidable record.emptyEvent := by unfold emptyEvent; infer_instance
instance : Decidable record.populatedEvent := by unfold populatedEvent; infer_instance

/-- The fields that are checked one by one. -/
def notCanonical : Prop :=
  record.schemaVersion ≠ lifecycleRecordSchemaVersion
    ∨ record.compatibility ≠ .canonical
    ∨ isBlank record.universeId
    ∨ record.cellKey.universeId ≠ record.universeId
    ∨ ¬ validBlake3Hex record.cellId
    ∨ ¬ validBlake3Hex record.manifestHash
    ∨ ¬ validBlake3Hex record.celestialRegistryHash
    ∨ ¬ validBlake3Hex record.migrationAnchorHash
    ∨ ¬ validBlake3Hex record.lifecycleGenesisHash
    ∨ ¬ validBlake3Hex record.activeHeadHash
    ∨ record.lifecycleRevision < 2
    ∨ record.directoryRevision = 0
    ∨ ¬ validBlake3Hex record.directoryDocumentHash
    ∨ record.assignmentGeneration = 0
    ∨ record.authorityFencingToken = 0
    ∨ record.lastTrustedUnixMs = 0
    ∨ ¬ (record.emptyEvent ∨ record.populatedEvent)
    ∨ ¬ validBlake3Hex record.lastWorldStateHash
    ∨ ¬ validBlake3Hex record.lastActiveWorldHash
    ∨ record.productionLifecycleGeneration = 0
    ∨ record.acknowledgedProductionSequence > record.lastWorldEventSequence
    ∨ ¬ validBlake3Hex record.previousRecordHash
    ∨ ¬ validBlake3Hex record.recordHash
    ∨ ¬ (record.live ↔ record.holderId.isSome)
    ∨ ¬ (record.live ↔ record.authorityTimes)
    ∨ (∃ expiry ∈ record.authorityExpiresAtUnixMs,
        expiry ≤ record.authorityRenewedAtUnixMs.getD u64Max)
    ∨ (∃ renewed ∈ record.authorityRenewedAtUnixMs,
        renewed < record.authorityAcquiredAtUnixMs.getD renewed
          ∨ renewed > record.lastTrustedUnixMs)
    ∨ (record.pendingWorldCommit.isSome ∧ record.nextProductionOccurrence = none)
    ∨ record.recordHash ≠ record.calculateHash codec

instance : Decidable (record.notCanonical codec) := by
  unfold notCanonical; infer_instance

/-- The operation, the two modes and the holder agree. -/
def shapeIsValid : Prop :=
  match record.authorityOperation, record.observedMode with
  | none, .sleeping => record.desiredMode = .sleeping
  | none, .background => record.desiredMode = .background
  | some operation, .sleeping =>
    operation.kind = .claim ∧ record.desiredMode = .background
      ∧ operation.expectedAssignmentGeneration = record.assignmentGeneration
  | some operation, .background =>
    operation.kind = .recovery ∧ record.desiredMode = .background
      ∧ operation.expectedAssignmentGeneration = record.assignmentGeneration
  | some operation, .draining =>
    operation.kind = .release ∧ record.desiredMode = .sleeping
      ∧ operation.expectedAssignmentGeneration = record.assignmentGeneration
      ∧ record.holderId = some operation.holderId
  | _, _ => False

instance : Decidable record.shapeIsValid := by
  unfold shapeIsValid; split <;> infer_instance

/-- The pending commit is of the armed occurrence, at the frontier of the record. -/
def pendingBinds (pending : PendingProductionCommitV2) : Prop :=
  record.nextProductionOccurrence = some pending.occurrence
    ∧ pending.priorEventSequence = record.lastWorldEventSequence
    ∧ pending.priorEventHash = record.lastWorldEventHash
    ∧ pending.priorStateHash = record.lastWorldStateHash

instance (pending : PendingProductionCommitV2) : Decidable (record.pendingBinds pending) := by
  unfold pendingBinds; infer_instance

def validateOperation (operation : LifecycleAuthorityOperationV2) : Fallible Unit :=
  rejectIf (operation.operationId ≠
        lifecycleOperationId operation.kind operation.expectedAssignmentGeneration
          operation.holderId
      ∨ operation.requestedAtUnixMs ≠ record.lastTrustedUnixMs
      ∨ isBlank operation.holderId)
    (.invalid "lifecycle authority operation is not canonical")

def validate : Fallible Unit := do
  rejectIf (record.notCanonical codec) (.invalid "lifecycle record is not canonical")
  checkAll (fun occurrence => validateOccurrence occurrence record record.worldFrontier)
    record.nextProductionOccurrence.toList
  rejectIf (∃ pending ∈ record.pendingWorldCommit, ¬ record.pendingBinds pending)
    (.invalid "pending production commit does not bind the lifecycle frontier")
  rejectIf (¬ record.shapeIsValid)
    (.invalid "lifecycle mode and authority operation disagree")
  checkAll record.validateOperation record.authorityOperation.toList

/-- A record with the hash of itself. -/
def sealed : LifecycleRecordV2 := { record with recordHash := record.calculateHash codec }

/-- `seal`. -/
def sealRecord : Fallible LifecycleRecordV2 := do
  (record.sealed codec).validate codec
  return record.sealed codec

end LifecycleRecordV2

end Verse.LifecycleV2
