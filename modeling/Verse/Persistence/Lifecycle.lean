import Verse.Engine.Schedule

/-!
# The lifecycle record of a cell

Beside a cell's world lies one small file that says who holds the cell, until when, in which
mode, and how far its world had come: `cell-lifecycle.json`. It is replaced whole at every
step. This file has the record, the checks a reader makes of it, and the rules for the next
one, as functions of the record and of trusted time; what is on disk and when it is written is
`Verse.Persistence.Disk`.
-/

namespace Verse.Persistence

open Lib

/-- `LIFECYCLE_CONTROL_SCHEMA_VERSION`. -/
def lifecycleControlSchemaVersion : Nat := 2
def leaseDurationMillis : Nat := 15000
def leaseRenewalIntervalMillis : Nat := 5000
def leaseWriteSafetyMarginMillis : Nat := 5000
def trustedClockRollbackToleranceMillis : Nat := 1000

/-- What a cell is doing. -/
inductive LifecycleMode where
  | sleeping
  | activating
  | background
  | active
  | draining
deriving DecidableEq, Repr

namespace LifecycleMode

/-- The `Debug` text. -/
def text : LifecycleMode → String
  | sleeping => "Sleeping"
  | activating => "Activating"
  | background => "Background"
  | active => "Active"
  | draining => "Draining"

end LifecycleMode

/-- A commit that has been announced and may or may not have reached the journal. -/
structure PendingWorldCommit where
  eventSequence : Nat
  eventHash : String
  occurredAtUnixMs : Nat
  (priorNextOccurrence resultingNextOccurrence : Option ProductionScheduleOccurrence)
deriving DecidableEq, Repr

structure CellLifecycleRecord where
  schemaVersion : Nat
  (universeId cellId universeManifestHash celestialRegistryHash : String)
  lifecycleRevision : Nat
  (desiredMode observedMode : LifecycleMode)
  fencingToken : Nat
  holderId : Option String
  (acquiredAtUnixMs renewedAtUnixMs expiresAtUnixMs activationCutoffUnixMs : Option Nat)
  (lastTrustedUnixMs lastWorldEventSequence : Nat)
  (lastWorldEventHash lastWorldStateHash transferBoundaryHeadHash : String)
  nextProductionOccurrence : Option ProductionScheduleOccurrence
  acknowledgedProductionSequence : Nat
  pendingWorldCommit : Option PendingWorldCommit
  updatedAtUnixMs : Nat
deriving DecidableEq, Repr

/-- The part of the universe manifest a cell store binds. -/
structure RuntimeManifest where
  (universeId manifestHash celestialRegistryHash contentManifestVersion : String)
deriving DecidableEq, Repr

/-- `PersistenceError`, without the failures of the file system and of encodings. -/
inductive PersistenceError where
  | worldUniverseBindingMismatch
  | invalidCellIdentity (message : String)
  | eventUniverseBindingMismatch (context : String)
  | snapshotSchema (found expected : Nat)
  | snapshotHashMismatch
  | invalidPlayerRoster (message : String)
  | eventSchema (line : Nat) (foundName : String) (foundVersion : Nat) (expectedName : String)
      (expectedVersion : Nat)
  | fencingTokenChanged (expected found : Nat)
  | fencingTokenExhausted
  | leaseOwnershipChanged
  | missingLifecycleControl
  | invalidLifecycleControl (message : String)
  | storeReleased
  | leaseExpired (expiresAtUnixMs nowUnixMs : Nat)
  | leaseSafetyMarginInsufficient (remainingMillis requiredMillis : Nat)
  | trustedClockRollback (previousUnixMs nowUnixMs : Nat)
  | trustedClockUnavailable
  | liveFenceNotNewer (live recovered : Nat)
  | lifecycleWorldFrontierMismatch
  | invalidHistoricalFence (line previous found : Nat)
  | historicalFenceSnapshotMismatch (line snapshot found : Nat)
  | replay (eventSequence : Nat) (source : IntentError)
  | invalidTransferBoundary (message : String)
deriving DecidableEq, Repr

abbrev Persisted (α : Type) := Except PersistenceError α

/-- `IntentError`'s `Display` text. -/
def refusalText : IntentError → String
  | .rejected code message => s!"{code}: {message}"
  | .sequenceMismatch expected received =>
    s!"event sequence mismatch: expected {expected}, received {received}"
  | .previousHashMismatch => "event previous hash does not match authoritative state"
  | .invalidEventHash => "event hash is invalid"
  | .wrongAuthority => "event belongs to a different universe or cell"
  | .contentManifestMismatch => "event content manifest does not match authoritative state"
  | .conservationViolation eventSequence =>
    s!"conservation invariant failed after event {eventSequence}"
  | .panicked message => message

/-- `accept_trusted_time`: a clock may slip back a second, and is then held still. -/
def acceptTrustedTime (sample previous : Nat) : Persisted Nat := do
  rejectIf (sample < previous - trustedClockRollbackToleranceMillis)
    (.trustedClockRollback previous sample)
  return max sample previous

/-- `valid_lifecycle_transition`. -/
def validLifecycleTransition : LifecycleMode → LifecycleMode → Bool
  | .sleeping, .activating | .sleeping, .background => true
  | .background, .activating | .background, .sleeping => true
  | .activating, .active => true
  | .active, .draining => true
  | .draining, .background | .draining, .sleeping => true
  | _, _ => false

/-- `validate_occurrence_binding`. -/
def validateOccurrenceBinding (occurrence : ProductionScheduleOccurrence)
    (lifecycle : CellLifecycleRecord) : Persisted Unit :=
  rejectIf (occurrence.schemaVersion ≠ productionScheduleOccurrenceSchemaVersion
      ∨ occurrence.universeId ≠ lifecycle.universeId
      ∨ occurrence.cellId ≠ lifecycle.cellId
      ∨ occurrence.universeManifestHash ≠ lifecycle.universeManifestHash
      ∨ occurrence.celestialRegistryHash ≠ lifecycle.celestialRegistryHash
      ∨ occurrence.lifecycleGeneration = 0
      ∨ occurrence.productionQuantumSequence = 0
      ∨ occurrence.scheduledForUnixMs = 0)
    (.invalidLifecycleControl "production occurrence binding is invalid")

/-- The holder and the lease times a record of its mode must have. -/
def validateHolder (lifecycle : CellLifecycleRecord) : Persisted Unit :=
  match lifecycle.observedMode with
  | .sleeping => do
    rejectIf (lifecycle.holderId.isSome ∨ lifecycle.acquiredAtUnixMs.isSome
        ∨ lifecycle.renewedAtUnixMs.isSome ∨ lifecycle.expiresAtUnixMs.isSome)
      (.invalidLifecycleControl "sleeping lifecycle cannot retain a live holder or lease times")
    rejectIf lifecycle.activationCutoffUnixMs.isSome
      (.invalidLifecycleControl "sleeping lifecycle cannot retain an activation cut-off")
  | mode => do
    let incomplete := PersistenceError.invalidLifecycleControl
      "live lifecycle requires complete lease times"
    let acquired ← demand lifecycle.acquiredAtUnixMs incomplete
    let renewed ← demand lifecycle.renewedAtUnixMs incomplete
    let expires ← demand lifecycle.expiresAtUnixMs incomplete
    rejectIf (lifecycle.fencingToken = 0
        ∨ lifecycle.holderId.getD "" = ""
        ∨ acquired > renewed
        ∨ renewed > lifecycle.lastTrustedUnixMs
        ∨ lifecycle.lastTrustedUnixMs ≥ expires)
      (.invalidLifecycleControl "live lifecycle holder, fence, or timestamps are not canonical")
    match mode, lifecycle.activationCutoffUnixMs with
    | .activating, some cutoff =>
      rejectIf (cutoff > lifecycle.lastTrustedUnixMs)
        (.invalidLifecycleControl "activating lifecycle requires a trusted wake cut-off")
    | .activating, none =>
      .error (.invalidLifecycleControl "activating lifecycle requires a trusted wake cut-off")
    | _, none => return ()
    | _, some _ =>
      .error (.invalidLifecycleControl "only an activating lifecycle may retain a wake cut-off")

/-- The checks of the commit a record announces. -/
def validatePending (lifecycle : CellLifecycleRecord) (pending : PendingWorldCommit) :
    Persisted Unit := do
  rejectIf (pending.eventSequence ≤ lifecycle.lastWorldEventSequence
      ∨ pending.eventHash.utf8ByteSize ≠ 64
      ∨ pending.occurredAtUnixMs = 0)
    (.invalidLifecycleControl "pending world commit does not follow the durable world frontier")
  checkAll (validateOccurrenceBinding · lifecycle) pending.priorNextOccurrence.toList
  checkAll (validateOccurrenceBinding · lifecycle) pending.resultingNextOccurrence.toList

/-- `validate_prior_lifecycle`. -/
def validatePriorLifecycle (lifecycle : CellLifecycleRecord) (manifest : RuntimeManifest)
    (expectedCellId : String) : Persisted Unit := do
  rejectIf (lifecycle.schemaVersion ≠ lifecycleControlSchemaVersion)
    (.invalidLifecycleControl s!"schema {lifecycle.schemaVersion} is unsupported; expected {lifecycleControlSchemaVersion}")
  rejectIf (lifecycle.universeId ≠ manifest.universeId
      ∨ lifecycle.cellId ≠ expectedCellId
      ∨ lifecycle.universeManifestHash ≠ manifest.manifestHash
      ∨ lifecycle.celestialRegistryHash ≠ manifest.celestialRegistryHash)
    (.invalidLifecycleControl "universe, cell, or manifest binding mismatch")
  rejectIf (lifecycle.lifecycleRevision = 0)
    (.invalidLifecycleControl "lifecycle revision must be positive")
  rejectIf (lifecycle.transferBoundaryHeadHash ≠ ""
      ∧ validBlake3Hex lifecycle.transferBoundaryHeadHash = false)
    (.invalidLifecycleControl "transfer boundary head is not a canonical hash")
  validateHolder lifecycle
  rejectIf (lifecycle.updatedAtUnixMs < lifecycle.lastTrustedUnixMs)
    (.invalidLifecycleControl "lifecycle update time precedes trusted time")
  rejectIf (lifecycle.lastWorldEventSequence > 0
      ∧ (lifecycle.lastWorldEventHash.utf8ByteSize ≠ 64
        ∨ lifecycle.lastWorldStateHash.utf8ByteSize ≠ 64))
    (.invalidLifecycleControl "nonempty world frontier requires canonical hashes")
  checkAll (fun occurrence => do
      validateOccurrenceBinding occurrence lifecycle
      rejectIf (occurrence.productionQuantumSequence ≤ lifecycle.acknowledgedProductionSequence)
        (.invalidLifecycleControl
          "next production occurrence does not follow the acknowledged frontier"))
    lifecycle.nextProductionOccurrence.toList
  checkAll (validatePending lifecycle) lifecycle.pendingWorldCommit.toList

/-- `validate_live_lease_record`: the file is the record its holder last wrote, and unexpired. -/
def validateLiveLeaseRecord (expected : CellLifecycleRecord) (fencingToken : Nat)
    (found : CellLifecycleRecord) (nowUnixMs : Nat) : Persisted Unit := do
  rejectIf (found.fencingToken ≠ fencingToken)
    (.fencingTokenChanged fencingToken found.fencingToken)
  rejectIf (found.schemaVersion ≠ lifecycleControlSchemaVersion ∨ found ≠ expected)
    .leaseOwnershipChanged
  let expiresAtUnixMs ← demand found.expiresAtUnixMs .leaseOwnershipChanged
  rejectIf (nowUnixMs ≥ expiresAtUnixMs) (.leaseExpired expiresAtUnixMs nowUnixMs)

namespace CellLifecycleRecord

variable (host : Host)

/-- The next revision of a record. -/
def revise (lifecycle : CellLifecycleRecord) : Persisted CellLifecycleRecord := do
  let lifecycleRevision ← demand (checkedAdd lifecycle.lifecycleRevision 1)
    (.invalidLifecycleControl "lifecycle revision is exhausted")
  return { lifecycle with lifecycleRevision }

/-- The record as of now. -/
def stamped (lifecycle : CellLifecycleRecord) (nowUnixMs : Nat) : CellLifecycleRecord :=
  { lifecycle with lastTrustedUnixMs := nowUnixMs, updatedAtUnixMs := nowUnixMs }

/-- The record of a world that has come as far as `state`. -/
def atFrontier (lifecycle : CellLifecycleRecord) (state : WorldState) : CellLifecycleRecord :=
  { lifecycle with
    lastWorldEventSequence := state.eventSequence
    lastWorldEventHash := state.lastEventHash
    lastWorldStateHash := state.stateHash host }

/-- A record nobody holds. -/
def asleep (lifecycle : CellLifecycleRecord) : CellLifecycleRecord :=
  { lifecycle with
    desiredMode := .sleeping
    observedMode := .sleeping
    holderId := none
    acquiredAtUnixMs := none
    renewedAtUnixMs := none
    expiresAtUnixMs := none
    activationCutoffUnixMs := none }

/-- The record a worker takes a cell with. -/
def acquired (previous : Option CellLifecycleRecord) (manifest : RuntimeManifest)
    (cellId holderId : String) (lifecycleRevision fencingToken acquiredAtUnixMs
    expiresAtUnixMs : Nat) : CellLifecycleRecord where
  schemaVersion := lifecycleControlSchemaVersion
  universeId := manifest.universeId
  cellId := cellId
  universeManifestHash := manifest.manifestHash
  celestialRegistryHash := manifest.celestialRegistryHash
  lifecycleRevision := lifecycleRevision
  desiredMode := .active
  observedMode := .activating
  fencingToken := fencingToken
  holderId := some holderId
  acquiredAtUnixMs := some acquiredAtUnixMs
  renewedAtUnixMs := some acquiredAtUnixMs
  expiresAtUnixMs := some expiresAtUnixMs
  -- A wake that was cut short keeps the moment it was to catch up to.
  activationCutoffUnixMs :=
    ((previous.filter fun record => record.observedMode == .activating).bind
      activationCutoffUnixMs).or (some acquiredAtUnixMs)
  lastTrustedUnixMs := acquiredAtUnixMs
  lastWorldEventSequence := previous.elim 0 lastWorldEventSequence
  lastWorldEventHash := previous.elim "" lastWorldEventHash
  lastWorldStateHash := previous.elim "" lastWorldStateHash
  transferBoundaryHeadHash := previous.elim "" transferBoundaryHeadHash
  nextProductionOccurrence := previous.bind nextProductionOccurrence
  acknowledgedProductionSequence := previous.elim 0 acknowledgedProductionSequence
  pendingWorldCommit := previous.bind pendingWorldCommit
  updatedAtUnixMs := acquiredAtUnixMs

/-! ## Reconciling the record with the world found beside it -/

/-- A pending commit is settled by whether its event reached the journal. -/
def settlePending (lifecycle : CellLifecycleRecord) (state : WorldState) :
    Persisted CellLifecycleRecord :=
  match lifecycle.pendingWorldCommit with
  | none => return lifecycle
  | some pending =>
    if state.eventSequence < pending.eventSequence then
      return { lifecycle with
        pendingWorldCommit := none
        nextProductionOccurrence := pending.priorNextOccurrence }
    else if state.eventSequence = pending.eventSequence
        ∧ state.lastEventHash = pending.eventHash then
      return { lifecycle with
        pendingWorldCommit := none
        nextProductionOccurrence := pending.resultingNextOccurrence }
    else .error .lifecycleWorldFrontierMismatch

/-- The world is not behind the record, and is the recorded one if it is level with it. -/
def validateFrontier (lifecycle : CellLifecycleRecord) (state : WorldState) :
    Persisted Unit := do
  rejectIf (lifecycle.lastWorldEventSequence > state.eventSequence)
    .lifecycleWorldFrontierMismatch
  rejectIf (lifecycle.lastWorldEventSequence = state.eventSequence
      ∧ ((lifecycle.lastWorldEventHash ≠ ""
          ∧ lifecycle.lastWorldEventHash ≠ state.lastEventHash)
        ∨ (lifecycle.lastWorldStateHash ≠ ""
          ∧ lifecycle.lastWorldStateHash ≠ state.stateHash host)))
    .lifecycleWorldFrontierMismatch

/-- The occurrence a recorded schedule may be reopened with. -/
def validateNextOccurrence (state : WorldState) (runnable : Bool)
    (occurrence : ProductionScheduleOccurrence) : Persisted Unit := do
  let committedSequence := state.productionClock.lastCommittedQuantumSequence
  let expectedSequence ← demand (checkedAdd committedSequence 1)
    (.invalidLifecycleControl "production occurrence sequence is exhausted")
  let expectedTime ←
    if committedSequence = 0 then pure none
    else do
      let scheduled ← demand (checkedAdd state.productionClock.lastScheduledForUnixMs 1000)
        (.invalidLifecycleControl "production schedule time is exhausted")
      pure (some scheduled)
  rejectIf (runnable = false
      ∨ occurrence.lifecycleGeneration ≠ state.productionClock.lifecycleGeneration
      ∨ occurrence.productionQuantumSequence ≠ expectedSequence
      ∨ ∃ scheduled ∈ expectedTime, occurrence.scheduledForUnixMs ≠ scheduled)
    (.invalidLifecycleControl "next occurrence does not match canonical production state")

/-- The schedule of a reopened cell: the recorded one, or a new one for a cell found runnable
    without any. -/
def reconcileNext (lifecycle : CellLifecycleRecord) (state : WorldState) (nowUnixMs : Nat) :
    Persisted (Option ProductionScheduleOccurrence) := do
  let runnable ← (state.backgroundProductionIsRunnable host).mapError fun source =>
    .invalidLifecycleControl (refusalText source)
  match lifecycle.nextProductionOccurrence with
  | some occurrence => do
    validateNextOccurrence state runnable occurrence
    return some occurrence
  | none =>
    if runnable then do
      let scheduledForUnixMs ← demand (checkedAdd nowUnixMs 1000) .trustedClockUnavailable
      some <$> (state.nextProductionOccurrenceAt scheduledForUnixMs).mapError fun source =>
        .invalidLifecycleControl (refusalText source)
    else return none

/-- The body of `reconcile_lifecycle_with_world`, once the lease has been found live. -/
def reconciled (found : CellLifecycleRecord) (state : WorldState) (nowUnixMs : Nat) :
    Persisted CellLifecycleRecord := do
  let settled ← found.settlePending state
  settled.validateFrontier host state
  let committedSequence := state.productionClock.lastCommittedQuantumSequence
  rejectIf (settled.acknowledgedProductionSequence > committedSequence)
    (.invalidLifecycleControl "production acknowledgement is ahead of canonical world state")
  let nextProductionOccurrence ← settled.reconcileNext host state nowUnixMs
  return ({ settled with
    nextProductionOccurrence
    acknowledgedProductionSequence := committedSequence }.atFrontier host state).stamped
      nowUnixMs

end CellLifecycleRecord
end Verse.Persistence
