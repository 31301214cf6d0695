import Verse.Engine.Prepare
import Verse.Persistence.Disk

/-!
# A running cell

A `Cell` is a world in memory and the store it is kept in. Everything that changes the world
goes the same way: an event is prepared, applied to a copy, handed to the store with the next
production occurrence, and only then is the copy the world. A store that fails halts the cell:
the world in memory may then be one event behind the journal.

`Call` lists what a process asks of a cell. The second-by-second `advance` is a renewal
followed by system events and due production, and what its physics computes is the payload of
one of them.
-/

namespace Verse.Runtime

open Lib Lib.Program
open Persistence

/-- `MAX_PRODUCTION_CATCH_UP_QUANTA`. -/
def maxProductionCatchUpQuanta : Nat := 60

inductive RuntimeError where
  | persistence (source : PersistenceError)
  | intent (source : IntentError)
  | physics (message : String)
  | halted
  | lifecycleUnavailable (mode : LifecycleMode)
  | canonicalInvariant (message : String)
deriving DecidableEq

/-- `CellRuntime`, without the counters that only time an `advance`. -/
structure Cell where
  store : Store
  state : WorldState
  eventsSinceSnapshot : Nat
  /-- The physics scene has been built. -/
  (sceneReady halted : Bool)

abbrev Act (α : Type) := Program RuntimeError Cell α

variable (site : Site)

namespace Cell

/-! ## Reaching the store -/

def onStore {α : Type} (x : Program PersistenceError Store α) : Act α :=
  zoom Cell.store (fun store cell => { cell with store }) .persistence x

/-- A failure stops the cell from writing. -/
def orHalt {α : Type} (x : Act α) : Act α := onError (fun cell => { cell with halted := true }) x

def ensureRunning : Act Unit := do
  let cell ← get
  if cell.halted then throw .halted

def unavailable {α : Type} : Act α := do
  let cell ← get
  throw (.lifecycleUnavailable cell.store.lifecycle.observedMode)

def ensureMode (allowed : LifecycleMode → Bool) : Act Unit := do
  let cell ← get
  if allowed cell.store.lifecycle.observedMode = false then unavailable

def ensureScene : Act Unit := do
  let cell ← get
  if cell.sceneReady = false then unavailable

/-- `persist_snapshot`. -/
def persistSnapshot : Act Unit := do
  ensureRunning
  let cell ← get
  orHalt (onStore (Store.saveSnapshot site cell.state))
  modify fun cell => { cell with eventsSinceSnapshot := 0 }

/-- `after_event`. -/
def afterEvent : Act Unit := do
  modify fun cell => { cell with eventsSinceSnapshot := cell.eventsSinceSnapshot + 1 }
  let cell ← get
  if cell.eventsSinceSnapshot ≥ max site.snapshotEvery 1 then persistSnapshot site

/-! ## Committing an event -/

/-- `event_changes_physics_scene`. -/
def eventChangesPhysicsScene : EventPayload → Bool
  | .playerControlSet .. | .suitModeChanged .. | .suitOxygenChanged .. | .productionQueued ..
  | .productionQuantumCommitted .. | .gridControlSet .. | .physicsStepCommitted .. => false
  | _ => true

def isProductionQuantum : EventPayload → Bool
  | .productionQuantumCommitted .. => true
  | _ => false

/-- The world an event leads to and the occurrence that is next there, worked out on a copy. -/
def staged (event : CanonicalEvent) : Act (WorldState × Option ProductionScheduleOccurrence) := do
  let cell ← get
  let priorRunnable ← lift .intent (cell.state.backgroundProductionIsRunnable site.host)
  let next ← lift .intent (cell.state.applyEvent site.host event)
  let nextOccurrence ← lift .intent
    (WorldState.resultingNextProductionOccurrence site.host
      cell.store.lifecycle.nextProductionOccurrence priorRunnable next event)
  return (next, nextOccurrence)

/-- Hand an event to the store; the world it leads to is the world from then on. -/
def install (event : CanonicalEvent) (next : WorldState)
    (nextOccurrence : Option ProductionScheduleOccurrence) : Act Unit := do
  orHalt (onStore (Store.commitWorldEvent site event next nextOccurrence))
  modify fun cell => { cell with state := next }

/-- `commit_prepared_system_event`. -/
def commitPreparedSystemEvent (event : CanonicalEvent) : Act Unit := do
  let (next, nextOccurrence) ← staged site event
  if eventChangesPhysicsScene event.payload then do
    ensureScene
    lift .physics (site.sceneBuilds next)
  install site event next nextOccurrence
  if isProductionQuantum event.payload then do
    let cell ← get
    orHalt (onStore (Store.acknowledgeProductionSequence site cell.state))
  afterEvent site

/-- An event at the trusted time. -/
def timed (event : CanonicalEvent) : Act CanonicalEvent := do
  let now ← orHalt (onStore Store.trustedUnixMillis)
  return WorldState.retimed site.host event now

/-- `commit_system_event_recorded`. -/
def commitSystemEventRecorded (eventId : String) (payload : EventPayload) :
    Act CanonicalEvent := do
  let cell ← get
  let prepared ← lift .intent
    (cell.state.newEvent site.host { eventId, occurredAtUnixMs := 0 } none payload)
  let event ← timed site prepared
  commitPreparedSystemEvent site event
  return event

/-- `prepare_production_quantum_event`: its identity and its time are those of its occurrence. -/
def prepareProductionQuantumEvent (w : WorldState) (payload : EventPayload) :
    Intent CanonicalEvent :=
  match payload with
  | .productionQuantumCommitted occurrence _ _ => do
    w.validateNextProductionOccurrence occurrence
    let event ← w.newEvent site.host {
      eventId := site.host.productionOccurrenceEventId occurrence
      occurredAtUnixMs := occurrence.scheduledForUnixMs } none payload
    return { event with eventHash := event.calculateHash site.host }
  | _ => .error (.rejected "production_payload_invalid"
      "production commit requires a whole-cell quantum payload")

/-- `commit_production_quantum`. -/
def commitProductionQuantum (payload : EventPayload) : Act Unit := do
  let cell ← get
  let event ← lift .intent (prepareProductionQuantumEvent site cell.state payload)
  commitPreparedSystemEvent site event

/-! ## Production -/

def worksWhileAway : LifecycleMode → Bool
  | .active | .background | .activating => true
  | .sleeping | .draining => false

/-- `advance_background_production_occurrence`. -/
def advanceBackgroundProductionOccurrence (occurrence : ProductionScheduleOccurrence) :
    Act Bool := do
  ensureRunning
  ensureMode worksWhileAway
  let cell ← get
  if cell.state.productionOccurrenceIsCommitted occurrence then do
    orHalt (onStore (Store.acknowledgeProductionSequence site cell.state))
    return false
  else do
    if cell.store.lifecycle.nextProductionOccurrence ≠ some occurrence then
      throw (.intent (.rejected "production_occurrence_delivery_conflict"
        "scheduler delivery does not match the durable next production occurrence"))
    let payload ← lift .intent (cell.state.productionQuantumPayload site.host occurrence)
    commitProductionQuantum site payload
    return true

/-- `advance_due_production_through`, in as many turns as its time slice leaves room for; the
    value is whether more is due. -/
def advanceDueProductionThrough (cutoffUnixMs : Nat) : (turns committedQuanta : Nat) → Act Bool
  | 0, _ => do
    let cell ← get
    return cell.store.lifecycle.nextProductionOccurrence.any fun occurrence =>
      occurrence.scheduledForUnixMs ≤ cutoffUnixMs
  | turns + 1, committedQuanta => do
    let cell ← get
    match cell.store.lifecycle.nextProductionOccurrence with
    | none => return false
    | some occurrence =>
      if occurrence.scheduledForUnixMs > cutoffUnixMs then return false
      else if committedQuanta ≥ maxProductionCatchUpQuanta then return true
      else do
        let committed ← advanceBackgroundProductionOccurrence site occurrence
        advanceDueProductionThrough cutoffUnixMs turns
          (if committed then committedQuanta + 1 else committedQuanta)

/-- `advance_due_production`. -/
def advanceDueProduction (turns : Nat) : Act Bool := do
  ensureRunning
  let now ← orHalt (onStore Store.trustedUnixMillis)
  advanceDueProductionThrough site now turns 0

/-! ## Modes -/

/-- `background_dispatch_step`. -/
def backgroundDispatchStep (turns : Nat) : Act LifecycleMode := do
  ensureMode (· == .background)
  let _ ← advanceDueProduction site turns
  let cell ← get
  if cell.store.lifecycle.nextProductionOccurrence = none then do
    onStore (Store.releaseToSleeping site cell.state)
    return .sleeping
  else return .background

/-- `drain_to_background_or_sleeping`. -/
def drainToBackgroundOrSleeping : Act LifecycleMode := do
  ensureRunning
  ensureMode (· == .active)
  let cell ← get
  let runnable ← lift .intent (cell.state.backgroundProductionIsRunnable site.host)
  let desired := if runnable then LifecycleMode.background else .sleeping
  onStore (Store.transitionMode site desired .draining cell.state)
  persistSnapshot site
  let cell ← get
  if runnable then onStore (Store.transitionMode site .background .background cell.state)
  else onStore (Store.releaseToSleeping site cell.state)
  modify fun cell => { cell with sceneReady := false }
  return desired

/-- `initialize_physics`. -/
def initializePhysics : Act Unit := do
  let cell ← get
  if cell.sceneReady then return ()
  else do
    lift .physics (site.sceneBuilds cell.state)
    modify fun cell => { cell with sceneReady := true }

/-- `activation_step`: catch up to the moment of waking, and then go live. -/
def activationStep (turns : Nat) : Act Bool := do
  ensureRunning
  let cell ← get
  match cell.store.lifecycle.observedMode with
  | .active => return true
  | .background => catchUp
  | .activating => catchUp
  | .sleeping | .draining => unavailable
where
  catchUp : Act Bool := do
    let cell ← get
    if cell.store.lifecycle.observedMode = .background then
      onStore (Store.transitionMode site .active .activating cell.state)
    goLive
  goLive : Act Bool := do
    let cell ← get
    let cutoffUnixMs ← lift .persistence
      (demand cell.store.lifecycle.activationCutoffUnixMs
        (.invalidLifecycleControl "activating lifecycle has no durable wake cut-off"))
    let backlogRemaining ← advanceDueProductionThrough site cutoffUnixMs turns 0
    if backlogRemaining then return false
    else do
      persistSnapshot site
      initializePhysics site
      let cell ← get
      onStore (Store.publishActive site cell.state)
      return true

/-- `renew_lease`. -/
def renewLease : Act Unit := do
  ensureRunning
  orHalt (onStore Store.renewLease)

/-- The second half of `open_hosted_for_cell_with_clock`. -/
def restoreHostMode : Act LifecycleMode := do
  let cell ← get
  onStore (Store.restoreRecoveredHostMode site cell.state)

/-! ## Client operations -/

/-- `execute_as`. -/
def executeAs (eventId actorPlayerId : String) (message : ClientMessage) :
    Act IntentReceipt := do
  ensureRunning
  ensureMode (· == .active)
  let cell ← get
  orHalt (lift .canonicalInvariant (cell.state.validatePlayerRoster site.host))
  lift .intent (rejectIf (cell.state.player.byId.contains actorPlayerId = false)
    (.rejected "actor_not_present"
      "the authenticated player is not present in this simulation cell"))
  lift .intent (rejectIf (cell.state.playerTransferLocks.contains actorPlayerId)
    (.rejected "actor_transfer_locked" "the player is in an authoritative cross-cell handoff"))
  let (operationSequence, operationId) ← lift .intent (demand message.operation
    (.rejected "not_a_mutating_intent"
      "hello and snapshot requests are handled by the network service"))
  lift .intent (rejectIf (isBlank operationId ∨ operationId.utf8ByteSize > 128)
    (.rejected "invalid_operation_id" "operation ID must contain between 1 and 128 characters"))
  let intentFingerprint ← lift .intent
    (cell.state.clientIntentFingerprint site.host actorPlayerId message)
  match ← lift .intent (cell.state.validateOperationAttempt actorPlayerId operationSequence
    intentFingerprint) with
  | some receipt => return receipt
  | none => do
    let prepared ← lift .intent (cell.state.prepareClientEventAs site.host
      { eventId, occurredAtUnixMs := 0 } actorPlayerId message)
    let event ← timed site prepared
    let (next, nextOccurrence) ← staged site event
    ensureScene
    lift .physics (site.sceneFollows next event.payload)
    install site event next nextOccurrence
    afterEvent site
    let cell ← get
    let record ← lift .intent (demand
      ((cell.state.processedOperations.get? actorPlayerId).bind fun history =>
        history.retained.get? operationSequence) (.rejected "receipt_missing"
        "accepted operation did not produce a durable receipt"))
    return record.receipt

end Cell

/-! ## Calls -/

/-- What a process asks of a running cell. An event takes a fresh identifier from outside, and
    catching up takes as many turns as there is time for. -/
inductive Call where
  | execute (eventId actorPlayerId : String) (message : ClientMessage)
  | systemEvent (eventId : String) (payload : EventPayload)
  | deliver (occurrence : ProductionScheduleOccurrence)
  | advanceDueProduction (turns : Nat)
  | backgroundDispatch (turns : Nat)
  | drain
  | activate (turns : Nat)
  | restoreHostMode
  | persistSnapshot
  | renewLease

namespace Call

/-- The call itself; what it answers is for its caller. -/
def perform : Call → Act Unit
  | .execute eventId actorPlayerId message =>
    forget (Cell.executeAs site eventId actorPlayerId message)
  | .systemEvent eventId payload => do
    Cell.ensureRunning
    forget (Cell.commitSystemEventRecorded site eventId payload)
  | .deliver occurrence => forget (Cell.advanceBackgroundProductionOccurrence site occurrence)
  | .advanceDueProduction turns => forget (Cell.advanceDueProduction site turns)
  | .backgroundDispatch turns => forget (Cell.backgroundDispatchStep site turns)
  | .drain => forget (Cell.drainToBackgroundOrSleeping site)
  | .activate turns => forget (Cell.activationStep site turns)
  | .restoreHostMode => forget (Cell.restoreHostMode site)
  | .persistSnapshot => Cell.persistSnapshot site
  | .renewLease => Cell.renewLease

end Call

/-- The cell after a list of calls, each answered with a value or an error. -/
def afterCalls (cell : Cell) : List Call → Cell
  | [] => cell
  | call :: rest => afterCalls ((call.perform site).final cell) rest

/-! ## Opening -/

/-- `open_for_activation_for_cell_with_clock`: take the store, load the world, and write a first
    snapshot of a world that has no events. The steps of the medium go on after the store has
    been taken, so a failure keeps them too. -/
def openForActivation (holderId : String) (heartbeats : Nat) :
    Program PersistenceError Medium Cell := do
  let writer ← openForCell site holderId
  let medium ← get
  let load : Program PersistenceError Store WorldState := do
    let state ← Store.loadWorld site heartbeats
    let store ← get
    let state := { state with fencingToken := store.fencingToken }
    if state.eventSequence = 0 then Store.saveSnapshot site state
    return state
  match load { toMedium := medium, toWriter := writer } with
  | .ok state store => do
    set store.toMedium
    return { store, state, eventsSinceSnapshot := 0, sceneReady := false, halted := false }
  | .error e store => do
    set store.toMedium
    throw e

end Verse.Runtime
