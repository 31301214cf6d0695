import Verse.Lib.Program
import Verse.Persistence.Boundary

/-!
# A cell on disk

The files of a cell are a snapshot, a journal of events, the journal of transfer boundaries and
the lifecycle record. `Disk` is their content; a journal may end in a line that was not
finished. Files are written one at a time, a record whole and a journal by appending, and
`Medium` keeps every content the disk has had: a crash is any of them, with nothing else left.

The clock is whatever it says when asked: a list of samples, used up from the front.
-/

namespace Verse.Persistence

open Lib Lib.Program

structure SnapshotDocument where
  schemaVersion : Nat
  stateHash : String
  eventSequence : Nat
  lastEventHash : String
  state : WorldState
deriving DecidableEq

/-- What is under the root of a cell. -/
structure Disk where
  snapshot : Option SnapshotDocument
  journal : List CanonicalEvent
  /-- The journal ends in an unfinished line. -/
  journalTorn : Bool
  boundaries : List DurableTransferBoundary
  /-- The boundary journal ends in an unfinished line. -/
  boundariesTorn : Bool
  lifecycle : Option CellLifecycleRecord
deriving DecidableEq

/-- A directory nothing has been written to. -/
def Disk.empty : Disk where
  snapshot := none
  journal := []
  journalTorn := false
  boundaries := []
  boundariesTorn := false
  lifecycle := none

structure Medium where
  disk : Disk
  /-- Every content written so far, the latest first. -/
  written : List Disk
  /-- What the clock will say; `none` where it cannot. -/
  samples : List (Option Nat)

/-- The fields of a `Store` that only the process has. -/
structure Writer where
  transferBoundaries : TransferBoundaryIndex
  fencingToken : Nat
  lifecycle : CellLifecycleRecord
  lastTrustedUnixMs : Nat
  writeEnabled : Bool
  recoveredObservedMode : Option LifecycleMode

/-- An open store: the medium, and what the process knows of it. -/
structure Store extends Medium, Writer

variable (site : Site)

/-! ## The medium -/

/-- One write that is durable once made. -/
def write (change : Disk → Disk) : Program PersistenceError Medium Unit :=
  modify fun medium =>
    { medium with disk := change medium.disk, written := change medium.disk :: medium.written }

/-- `now_unix_ms`. -/
def nowUnixMs : Program PersistenceError Medium Nat := do
  let medium ← get
  match medium.samples with
  | some sample :: rest => do
    set { medium with samples := rest }
    return sample
  | none :: rest => do
    set { medium with samples := rest }
    throw .trustedClockUnavailable
  | [] => throw .trustedClockUnavailable

def writeLifecycle (lifecycle : CellLifecycleRecord) : Program PersistenceError Medium Unit :=
  write fun disk => { disk with lifecycle := some lifecycle }

/-- A line of the journal: first a part of it, then all of it. -/
def appendJournal (event : CanonicalEvent) : Program PersistenceError Medium Unit := do
  write fun disk => { disk with journalTorn := true }
  write fun disk => { disk with journal := disk.journal ++ [event], journalTorn := false }

def appendBoundary (boundary : DurableTransferBoundary) :
    Program PersistenceError Medium Unit := do
  write fun disk => { disk with boundariesTorn := true }
  write fun disk => { disk with
    boundaries := disk.boundaries ++ [boundary], boundariesTorn := false }

/-! ## Reading what is there -/

/-- `world_binding_matches`. -/
def worldBindingMatches (state : WorldState) : Bool :=
  state.worldSeed == site.worldSeed
    && state.universeId == site.manifest.universeId
    && state.contentManifestVersion == site.manifest.contentManifestVersion
    && state.universeManifestHash == site.manifest.manifestHash
    && state.celestialRegistryHash == site.manifest.celestialRegistryHash
    && state.cellId == site.cellId
    && match site.host.cellKeyFromAddress state.cellAddress with
      | .ok cellKey => cellKey == site.cellKey
      | .error _ => false

/-- `event_binding_matches`; the binding of an event header is the same five fields. -/
def eventBindingMatches (event : CanonicalEvent) : Bool :=
  event.contentManifestVersion == site.manifest.contentManifestVersion
    && event.universeId == site.manifest.universeId
    && event.cellId == site.cellId
    && event.universeManifestHash == site.manifest.manifestHash
    && event.celestialRegistryHash == site.manifest.celestialRegistryHash

/-- A snapshot of this schema. -/
def validateSnapshotSchema (snapshot : SnapshotDocument) : Persisted Unit :=
  rejectIf (snapshot.schemaVersion ≠ worldSchemaVersion)
    (.snapshotSchema snapshot.schemaVersion worldSchemaVersion)

/-- The header of a snapshot is that of the world in it. -/
def validateSnapshotHash (snapshot : SnapshotDocument) : Persisted Unit :=
  rejectIf (snapshot.stateHash ≠ snapshot.state.stateHash site.host
      ∨ snapshot.eventSequence ≠ snapshot.state.eventSequence
      ∨ snapshot.lastEventHash ≠ snapshot.state.lastEventHash)
    .snapshotHashMismatch

def genesisWorld : Persisted WorldState := site.genesis.mapError .invalidCellIdentity

/-- The fence of a journal line, after those before it and beside the snapshot. -/
def validateHistoricalFence (line previous snapshotEventSequence snapshotFence : Nat)
    (event : CanonicalEvent) : Persisted Unit := do
  rejectIf (event.authorityFencingToken = 0 ∨ event.authorityFencingToken < previous)
    (.invalidHistoricalFence line previous event.authorityFencingToken)
  rejectIf ((event.eventSequence ≤ snapshotEventSequence
        ∧ event.authorityFencingToken > snapshotFence)
      ∨ (event.eventSequence > snapshotEventSequence
        ∧ event.authorityFencingToken < snapshotFence))
    (.historicalFenceSnapshotMismatch line snapshotFence event.authorityFencingToken)

/-- The fence the last line of a journal was written under. -/
def historicalFence (snapshotEventSequence snapshotFence : Nat) :
    (line previous : Nat) → List CanonicalEvent → Persisted Nat
  | _, previous, [] => return previous
  | line, previous, event :: rest => do
    validateHistoricalFence line previous snapshotEventSequence snapshotFence event
    historicalFence snapshotEventSequence snapshotFence (line + 1) event.authorityFencingToken rest

/-- `recover_persisted_fencing_frontier`. -/
def recoverPersistedFencingFrontier (disk : Disk) : Persisted Nat := do
  let (snapshotEventSequence, snapshotFence) ← match disk.snapshot with
    | some snapshot => do
      validateSnapshotSchema snapshot
      pure (snapshot.state.eventSequence, snapshot.state.fencingToken)
    | none => pure (0, 0)
  let historical ← historicalFence snapshotEventSequence snapshotFence 1 0 disk.journal
  return max snapshotFence historical

/-- `load_transfer_boundaries`, up to what it appends. A cell that has never crossed a boundary
    is not replayed for one. -/
def loadTransferBoundaries (disk : Disk) (lifecycle : CellLifecycleRecord) :
    Persisted LoadedTransferBoundaries :=
  let pendingIsTransfer := lifecycle.pendingWorldCommit.any fun pending =>
    disk.journal.any fun event => event.eventHash == pending.eventHash && isTransferEvent event
  if lifecycle.transferBoundaryHeadHash = "" ∧ disk.boundaries = [] ∧ pendingIsTransfer = false
  then return { index := .empty, head := "", backfill := none }
  else do
    let (snapshotEventSequence, base) ← match disk.snapshot with
      | some snapshot => do
        validateSnapshotSchema snapshot
        validateSnapshotHash site snapshot
        pure (snapshot.eventSequence, snapshot.state)
      | none => do
        let genesis ← genesisWorld site
        pure (0, genesis)
    readTransferBoundaries site snapshotEventSequence base disk.journal disk.boundaries lifecycle

/-! ## Taking a cell -/

/-- The record of the last holder. A world without one is refused. -/
def previousLifecycle (disk : Disk) : Persisted (Option CellLifecycleRecord) :=
  match disk.lifecycle with
  | some lifecycle => do
    validatePriorLifecycle lifecycle site.manifest site.cellId
    return some lifecycle
  | none => do
    rejectIf (disk.snapshot.isSome ∨ disk.journal ≠ [] ∨ disk.journalTorn)
      .missingLifecycleControl
    return none

/-- `Store::open_for_cell_with_clock`, by a process that holds the writer lock. -/
def openForCell (holderId : String) : Program PersistenceError Medium Writer := do
  let medium ← get
  let previous ← lift id (previousLifecycle site medium.disk)
  let recoveredFence ← lift id (recoverPersistedFencingFrontier medium.disk)
  let previousToken :=
    previous.elim recoveredFence fun lifecycle => max lifecycle.fencingToken recoveredFence
  let lifecycleRevision ← lift id <| match previous with
    | none => .ok 1
    | some lifecycle => demand (checkedAdd lifecycle.lifecycleRevision 1)
      (.invalidLifecycleControl "lifecycle revision is exhausted")
  let fencingToken ← lift id (demand (checkedAdd previousToken 1) .fencingTokenExhausted)
  let sample ← nowUnixMs
  let acquiredAtUnixMs ← lift id
    (acceptTrustedTime sample (previous.elim 0 CellLifecycleRecord.lastTrustedUnixMs))
  let expiresAtUnixMs ← lift id
    (demand (checkedAdd acquiredAtUnixMs leaseDurationMillis) .trustedClockUnavailable)
  let lifecycle := CellLifecycleRecord.acquired previous site.manifest site.cellId holderId
    lifecycleRevision fencingToken acquiredAtUnixMs expiresAtUnixMs
  writeLifecycle lifecycle
  if medium.disk.boundariesTorn then write fun disk => { disk with boundariesTorn := false }
  let loaded ← lift id (loadTransferBoundaries site medium.disk lifecycle)
  match loaded.backfill with
  | some boundary => appendBoundary boundary
  | none => pure ()
  let headed := { lifecycle with transferBoundaryHeadHash := loaded.head }
  if loaded.head ≠ lifecycle.transferBoundaryHeadHash then writeLifecycle headed
  return {
    transferBoundaries := loaded.index
    fencingToken
    lifecycle := headed
    lastTrustedUnixMs := acquiredAtUnixMs
    writeEnabled := true
    recoveredObservedMode := previous.map CellLifecycleRecord.observedMode }

namespace Store

/-! ## The lease -/

/-- A step of the medium under a store. -/
def onMedium {α : Type} (x : Program PersistenceError Medium α) :
    Program PersistenceError Store α :=
  zoom Store.toMedium (fun medium store => { store with toMedium := medium }) id x

/-- `trusted_unix_millis`. -/
def trustedUnixMillis : Program PersistenceError Store Nat := do
  let sample ← onMedium nowUnixMs
  let store ← get
  let accepted ← lift id (acceptTrustedTime sample store.lastTrustedUnixMs)
  modify fun store => { store with lastTrustedUnixMs := accepted }
  return accepted

/-- `read_current_lease`. -/
def readCurrentLease : Program PersistenceError Store CellLifecycleRecord := do
  let store ← get
  lift id (demand store.disk.lifecycle .leaseOwnershipChanged)

/-- Write a record and hold it. -/
def adopt (lifecycle : CellLifecycleRecord) : Program PersistenceError Store Unit := do
  onMedium (writeLifecycle lifecycle)
  modify fun store => { store with lifecycle }

/-- `renew_lease`: the file is read back first, and written only when a renewal is due. -/
def renewLease : Program PersistenceError Store Unit := do
  let found ← readCurrentLease
  let sample ← onMedium nowUnixMs
  let store ← get
  let now ← lift id (acceptTrustedTime sample store.lastTrustedUnixMs)
  lift id (validateLiveLeaseRecord store.lifecycle store.fencingToken found now)
  let renewedAtUnixMs ← lift id
    (demand store.lifecycle.renewedAtUnixMs .leaseOwnershipChanged)
  let expiresAtUnixMs ← lift id
    (demand store.lifecycle.expiresAtUnixMs .leaseOwnershipChanged)
  if now - renewedAtUnixMs ≥ leaseRenewalIntervalMillis
      ∨ expiresAtUnixMs - now < leaseWriteSafetyMarginMillis then do
    let extended ← lift id
      (demand (checkedAdd now leaseDurationMillis) .trustedClockUnavailable)
    adopt ({ found with
      renewedAtUnixMs := some now, expiresAtUnixMs := some extended }.stamped now)
  modify fun store => { store with lastTrustedUnixMs := now }

/-- The time left to the lease, after a renewal if one was due. -/
def remainingLease : Program PersistenceError Store Nat := do
  renewLease
  let now ← trustedUnixMillis
  let found ← readCurrentLease
  let store ← get
  lift id (validateLiveLeaseRecord store.lifecycle store.fencingToken found now)
  let expiresAtUnixMs ← lift id (demand found.expiresAtUnixMs .leaseOwnershipChanged)
  return expiresAtUnixMs - now

/-- Two attempts to have enough of the lease left. -/
def leaseAttempts : Program PersistenceError Store Unit := do
  let first ← remainingLease
  if first ≥ leaseWriteSafetyMarginMillis then return ()
  else do
    let second ← remainingLease
    if second ≥ leaseWriteSafetyMarginMillis then return ()
    else throw (.leaseSafetyMarginInsufficient second leaseWriteSafetyMarginMillis)

/-- `verify_live_lease_for_write`. -/
def verifyLiveLeaseForWrite : Program PersistenceError Store Unit := do
  let store ← get
  if store.writeEnabled = false then throw .storeReleased
  leaseAttempts

/-- `persist_lifecycle`: not once the lease has run out. -/
def persistLifecycle (lifecycle : CellLifecycleRecord) : Program PersistenceError Store Unit := do
  let now ← trustedUnixMillis
  let store ← get
  let expiresAtUnixMs ← lift id
    (demand store.lifecycle.expiresAtUnixMs .leaseOwnershipChanged)
  if now ≥ expiresAtUnixMs then throw (.leaseExpired expiresAtUnixMs now)
  adopt lifecycle

/-! ## Committing and saving -/

/-- `append_event`. -/
def appendEvent (event : CanonicalEvent) : Program PersistenceError Store Unit := do
  verifyLiveLeaseForWrite
  let store ← get
  if event.authorityFencingToken ≠ store.fencingToken then
    throw (.fencingTokenChanged store.fencingToken event.authorityFencingToken)
  if eventBindingMatches site event = false then throw (.eventUniverseBindingMismatch "append")
  onMedium (appendJournal event)

/-- The boundary of a committed event goes to its own journal and becomes the head. -/
def commitBoundary (boundary : DurableTransferBoundary) :
    Program PersistenceError Store Unit := do
  onMedium (appendBoundary boundary)
  modify fun store => { store with
    transferBoundaries := store.transferBoundaries.insert boundary.key boundary
    lifecycle := { store.lifecycle with transferBoundaryHeadHash := boundary.boundaryHash } }

/-- `commit_world_event`: announce the event, append it, append its boundary, and record how
    far the world has come. -/
def commitWorldEvent (event : CanonicalEvent) (resultingState : WorldState)
    (resultingNextOccurrence : Option ProductionScheduleOccurrence) :
    Program PersistenceError Store Unit := do
  verifyLiveLeaseForWrite
  let store ← get
  if event.authorityFencingToken ≠ store.fencingToken then
    throw (.fencingTokenChanged store.fencingToken event.authorityFencingToken)
  if resultingState.eventSequence ≠ event.eventSequence
      ∨ resultingState.lastEventHash ≠ event.eventHash
      ∨ resultingState.fencingToken ≠ store.fencingToken then
    throw .lifecycleWorldFrontierMismatch
  lift id (checkAll (validateOccurrenceBinding · store.lifecycle) resultingNextOccurrence.toList)
  let now ← trustedUnixMillis
  let store ← get
  persistLifecycle ({ store.lifecycle with
    pendingWorldCommit := some {
      eventSequence := event.eventSequence
      eventHash := event.eventHash
      occurredAtUnixMs := event.occurredAtUnixMs
      priorNextOccurrence := store.lifecycle.nextProductionOccurrence
      resultingNextOccurrence } }.stamped now)
  let unlinked ← lift id
    (transferBoundaryFromEvent site event (resultingState.stateHash site.host))
  let store ← get
  let boundary := unlinked.map fun boundary =>
    boundary.linked site store.lifecycle.transferBoundaryHeadHash
  match boundary with
  | some boundary =>
    if store.transferBoundaries.contains boundary.key then
      throw (.invalidTransferBoundary s!"transfer {boundary.transferId} already has a committed {boundary.kind.text} boundary")
  | none => pure ()
  appendEvent site event
  match boundary with
  | some boundary => commitBoundary boundary
  | none => pure ()
  let now ← trustedUnixMillis
  let store ← get
  persistLifecycle (({ store.lifecycle with
    nextProductionOccurrence := resultingNextOccurrence
    pendingWorldCommit := none }.atFrontier site.host resultingState).stamped now)

/-- `acknowledge_production_sequence`. -/
def acknowledgeProductionSequence (state : WorldState) :
    Program PersistenceError Store Unit := do
  verifyLiveLeaseForWrite
  let store ← get
  let sequence := state.productionClock.lastCommittedQuantumSequence
  if sequence ≤ store.lifecycle.acknowledgedProductionSequence then return ()
  if state.eventSequence ≠ store.lifecycle.lastWorldEventSequence
      ∨ state.lastEventHash ≠ store.lifecycle.lastWorldEventHash
      ∨ state.stateHash site.host ≠ store.lifecycle.lastWorldStateHash then
    throw .lifecycleWorldFrontierMismatch
  let now ← trustedUnixMillis
  let store ← get
  persistLifecycle ({ store.lifecycle with acknowledgedProductionSequence := sequence }.stamped now)

/-- `save_snapshot`: the snapshot, then the record. -/
def saveSnapshot (state : WorldState) : Program PersistenceError Store Unit := do
  verifyLiveLeaseForWrite
  let store ← get
  if state.fencingToken ≠ store.fencingToken then
    throw (.fencingTokenChanged store.fencingToken state.fencingToken)
  if worldBindingMatches site state = false then throw .worldUniverseBindingMismatch
  lift .invalidPlayerRoster (state.validatePlayerRoster site.host)
  onMedium (write fun disk => { disk with snapshot := some {
    schemaVersion := worldSchemaVersion
    stateHash := state.stateHash site.host
    eventSequence := state.eventSequence
    lastEventHash := state.lastEventHash
    state } })
  let now ← trustedUnixMillis
  let store ← get
  persistLifecycle ((store.lifecycle.atFrontier site.host state).stamped now)

/-! ## Modes -/

/-- The next revision of the record, in another mode and as of now. -/
def enterMode (desiredMode observedMode : LifecycleMode) (activationCutoff : Nat → Option Nat)
    (state : WorldState) : Program PersistenceError Store Unit := do
  let now ← trustedUnixMillis
  let store ← get
  let revised ← lift id store.lifecycle.revise
  persistLifecycle (({ revised with
    desiredMode, observedMode
    activationCutoffUnixMs := activationCutoff now }.atFrontier site.host state).stamped now)

/-- `publish_active`. -/
def publishActive (state : WorldState) : Program PersistenceError Store Unit := do
  verifyLiveLeaseForWrite
  let store ← get
  if store.lifecycle.observedMode = .active ∧ store.lifecycle.desiredMode = .active then return ()
  enterMode site .active .active (fun _ => none) state

/-- `transition_mode`. -/
def transitionMode (desiredMode observedMode : LifecycleMode) (state : WorldState) :
    Program PersistenceError Store Unit := do
  verifyLiveLeaseForWrite
  let store ← get
  if store.lifecycle.desiredMode = desiredMode ∧ store.lifecycle.observedMode = observedMode then
    return ()
  if validLifecycleTransition store.lifecycle.observedMode observedMode = false then
    throw (.invalidLifecycleControl s!"invalid transition from {store.lifecycle.observedMode.text} to {observedMode.text}")
  enterMode site desiredMode observedMode
    (fun now => if observedMode = .activating then some now else none) state

/-- Save, put the record to sleep and let go of the lock. -/
def fallAsleep (state : WorldState) : Program PersistenceError Store Unit := do
  saveSnapshot site state
  let now ← trustedUnixMillis
  let store ← get
  let revised ← lift id store.lifecycle.revise
  adopt ((revised.asleep.atFrontier site.host state).stamped now)
  modify fun store => { store with writeEnabled := false }

/-- `release_to_sleeping`. -/
def releaseToSleeping (state : WorldState) : Program PersistenceError Store Unit := do
  let store ← get
  if store.lifecycle.observedMode ≠ .draining ∧ store.lifecycle.observedMode ≠ .background then
    throw (.invalidLifecycleControl "only a draining or background cell may release to sleeping")
  fallAsleep site state

/-- Take a recovered cell back to sleep. -/
def restoreSleeping (state : WorldState) : Program PersistenceError Store LifecycleMode := do
  let store ← get
  if store.lifecycle.observedMode ≠ .activating then
    throw (.invalidLifecycleControl "sleeping recovery must hold activating authority")
  fallAsleep site state
  return .sleeping

/-- Take a recovered cell back to working in the background. -/
def restoreBackground (state : WorldState) : Program PersistenceError Store LifecycleMode := do
  verifyLiveLeaseForWrite
  enterMode site .background .background (fun _ => none) state
  return .background

/-- `restore_recovered_host_mode`: the mode a cell was found in, or for one found draining the
    mode it was draining to. -/
def restoreRecoveredHostMode (state : WorldState) :
    Program PersistenceError Store LifecycleMode := do
  let store ← get
  match store.recoveredObservedMode with
  | some .sleeping => restoreSleeping site state
  | some .background => restoreBackground site state
  | some .draining => do
    let runnable ← lift (fun source => .invalidLifecycleControl (refusalText source))
      (state.backgroundProductionIsRunnable site.host)
    let mode := if runnable then LifecycleMode.background else .sleeping
    modify fun store => { store with recoveredObservedMode := some mode }
    if runnable then restoreBackground site state else restoreSleeping site state
  | some .activating | some .active | none => return .activating

/-! ## Loading -/

/-- The world a replay starts from. -/
def loadBase (disk : Disk) : Persisted WorldState :=
  match disk.snapshot with
  | some snapshot => do
    validateSnapshotSchema snapshot
    rejectIf (worldBindingMatches site snapshot.state = false) .worldUniverseBindingMismatch
    (snapshot.state.validatePlayerRoster site.host).mapError .invalidPlayerRoster
    validateSnapshotHash site snapshot
    return snapshot.state
  | none => do
    let genesis ← genesisWorld site
    rejectIf (worldBindingMatches site genesis = false) .worldUniverseBindingMismatch
    return genesis

/-- The events of a journal applied in order, each of those the snapshot has already skipped;
    with the world they lead to comes the fence of the last line. -/
def replayJournal (snapshotEventSequence snapshotFence : Nat) :
    (line previous : Nat) → WorldState → List CanonicalEvent → Persisted (WorldState × Nat)
  | _, previous, state, [] => return (state, previous)
  | line, previous, state, event :: rest => do
    rejectIf (event.schemaName ≠ eventSchemaName ∨ event.schemaVersion ≠ eventSchemaVersion)
      (.eventSchema line event.schemaName event.schemaVersion eventSchemaName eventSchemaVersion)
    validateHistoricalFence line previous snapshotEventSequence snapshotFence event
    rejectIf (eventBindingMatches site event = false)
      (.eventUniverseBindingMismatch s!"journal line {line}")
    let state ←
      if event.eventSequence ≤ state.eventSequence then pure state
      else (state.applyEvent site.host event).mapError (.replay event.eventSequence)
    replayJournal snapshotEventSequence snapshotFence (line + 1) event.authorityFencingToken
      state rest

/-- `load_world_before_lifecycle_reconciliation`, from what is on disk. -/
def loadedWorld (disk : Disk) (fencingToken : Nat) : Persisted WorldState := do
  let base ← loadBase site disk
  let (state, historical) ←
    replayJournal site base.eventSequence base.fencingToken 1 0 base disk.journal
  (state.validatePlayerRoster site.host).mapError .invalidPlayerRoster
  rejectIf (worldBindingMatches site state = false) .worldUniverseBindingMismatch
  let recoveredFence := max state.fencingToken historical
  rejectIf (fencingToken ≤ recoveredFence) (.liveFenceNotNewer fencingToken recoveredFence)
  return state

/-- The unfinished line of the journal is cut off on the way. -/
def loadWorldBeforeLifecycleReconciliation : Program PersistenceError Store WorldState := do
  let store ← get
  let _ ← lift id (loadBase site store.disk)
  if store.disk.journalTorn then onMedium (write fun disk => { disk with journalTorn := false })
  lift id (loadedWorld site store.disk store.fencingToken)

/-- `reconcile_lifecycle_with_world`. -/
def reconcileLifecycleWithWorld (state : WorldState) : Program PersistenceError Store Unit := do
  let found ← readCurrentLease
  let now ← trustedUnixMillis
  let store ← get
  lift id (validateLiveLeaseRecord store.lifecycle store.fencingToken found now)
  let reconciled ← lift id (found.reconciled site.host state now)
  persistLifecycle reconciled

/-- `load_world`, while the lease is kept alive so many times. What loading found out is looked
    at only after the lease has been renewed once more. -/
def loadWorld (heartbeats : Nat) : Program PersistenceError Store WorldState := do
  times renewLease heartbeats
  let loaded ← attempt (loadWorldBeforeLifecycleReconciliation site)
  renewLease
  let state ← lift id loaded
  reconcileLifecycleWithWorld site state
  return state

end Store
end Verse.Persistence
