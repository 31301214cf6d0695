import Mathlib.Data.Finset.Basic
import Verse.Runtime.Cell

/-!
# What a worker hosts

A worker keeps the runtime of one cell behind a lock, says in a channel of its own what its
authority is, and remembers who is connected. What it sees of the runtime is the mode it is in;
the runtime itself is `Verse.Runtime.Cell`. A runtime is hosted unless the cell sleeps.

A `Section` is what a task does while it holds the lock. Whatever a task does with no lock held,
such as telling a new authority, is not part of a section, and other tasks may come in between.
-/

namespace Verse.Worker

open Lib Lib.Program
open Persistence (LifecycleMode)
open Verse.Runtime (RuntimeError)

/-- What the calls into a runtime find out, none of them failing. -/
structure Findings where
  /-- Production has work to do in the background. -/
  runnable : Bool
  /-- An occurrence is scheduled once the due ones are committed. -/
  scheduled : Bool
  /-- How long it is until the next occurrence. -/
  waitMillis : Option Nat
  /-- More is due up to the moment of waking. -/
  backlog : Bool
  /-- What is wrong with the intent. -/
  refusal : Option IntentError

/-! ## The mode of a runtime -/

namespace Mode

def require (allowed : LifecycleMode → Bool) : Program RuntimeError LifecycleMode Unit := do
  let mode ← get
  if allowed mode = false then throw (.lifecycleUnavailable mode)

/-- `advance_with_outcome`. -/
def advance : Program RuntimeError LifecycleMode Unit := require (· == .active)

/-- `execute_as`. -/
def executeAs (found : Findings) : Program RuntimeError LifecycleMode Unit := do
  require (· == .active)
  match found.refusal with
  | some refusal => throw (.intent refusal)
  | none => return ()

/-- `production_wait_millis`. -/
def productionWaitMillis (found : Findings) : Program RuntimeError LifecycleMode (Option Nat) :=
  return found.waitMillis

/-- `background_dispatch_step`. -/
def backgroundDispatchStep (found : Findings) : Program RuntimeError LifecycleMode LifecycleMode := do
  require (· == .background)
  if found.scheduled then return .background
  else do
    set LifecycleMode.sleeping
    return .sleeping

/-- `drain_to_background_or_sleeping`; that it was `Draining` on the way nobody sees. -/
def drainToBackgroundOrSleeping (found : Findings) :
    Program RuntimeError LifecycleMode LifecycleMode := do
  require (· == .active)
  let desired := if found.runnable then LifecycleMode.background else .sleeping
  set desired
  return desired

/-- `activation_step`. -/
def activationStep (found : Findings) : Program RuntimeError LifecycleMode Bool := do
  let mode ← get
  match mode with
  | .active => return true
  | .background | .activating => do
    set (if found.backlog then LifecycleMode.activating else .active)
    return !found.backlog
  | .sleeping | .draining => throw (.lifecycleUnavailable mode)

end Mode

/-! ## The worker -/

/-- `WorkerAuthorityStatus`. A fenced worker tells why in the words of the error. -/
inductive WorkerAuthorityStatus where
  | active
  | sleeping
  | activating
  | background
  | draining (reason : String)
  | fenced (source : RuntimeError)
deriving DecidableEq

/-- The tasks that may be activating the cell. -/
inductive Task where
  | supervisor
  | session (id : Nat)
deriving DecidableEq

/-- What is under the runtime's lock: the runtime, unless the cell sleeps, and the mode it was last
    seen in. -/
structure HostedRuntime where
  runtime : Option LifecycleMode
  observedMode : LifecycleMode
deriving DecidableEq

/-- The cell in a mode, its runtime hosted unless it sleeps. -/
def HostedRuntime.of (mode : LifecycleMode) : HostedRuntime where
  runtime := if mode = .sleeping then none else some mode
  observedMode := mode

/-- `AppState` of a single-cell worker, but for what it tells its clients about the world. -/
structure AppState where
  hosted : HostedRuntime
  authority : WorkerAuthorityStatus
  /-- Who holds the activation gate. -/
  activationGate : Option Task
  /-- The lifecycle signal has been given since the supervisor began to listen for it. -/
  notified : Bool
  connectedPlayers : Finset String
  lastPlayerActivity : Nat
  /-- The worker's clock, in milliseconds. -/
  now : Nat

abbrev Section (α : Type) := Program RuntimeError AppState α

namespace AppState

/-- `AppState::new`, for a runtime in a given mode. -/
def new (observedMode : LifecycleMode) : AppState where
  hosted := .of observedMode
  authority := match observedMode with
    | .sleeping => .sleeping
    | .activating => .activating
    | .background => .background
    | .active => .active
    | .draining => .draining "the authoritative cell is recovering a drain"
  activationGate := none
  notified := false
  connectedPlayers := ∅
  lastPlayerActivity := 0
  now := 0

/-! ### What is said outside the lock -/

/-- `send_replace`, and `notify_waiters` after it. -/
def announce (app : AppState) (status : WorkerAuthorityStatus) : AppState :=
  { app with authority := status, notified := true }

/-- `publish_fenced`: the first reason stays. -/
def publishFenced (app : AppState) (source : RuntimeError) : AppState :=
  match app.authority with
  | .fenced _ => app
  | _ => { app with authority := .fenced source }

/-- `unavailable_reason`: a session can only go on with a live cell. -/
def unavailable (app : AppState) : Bool := app.authority != .active

/-- `admission_block_reason`. -/
def admissionBlocked (app : AppState) : Bool :=
  match app.authority with
  | .draining _ | .fenced _ => true
  | .sleeping | .activating | .background | .active => false

/-! ### Players -/

/-- `claim_player`, the first of its sections. -/
def claim (app : AppState) (playerId : String) : AppState :=
  { app with connectedPlayers := insert playerId app.connectedPlayers }

/-- `release_player`, the first of its sections. -/
def release (app : AppState) (playerId : String) : AppState :=
  { app with connectedPlayers := app.connectedPlayers.erase playerId }

/-- The second section of both. -/
def touch (app : AppState) : AppState :=
  { app with lastPlayerActivity := app.now, notified := true }

/-- `ensure_active` lets go of the gate. -/
def leaveGate (app : AppState) : AppState := { app with activationGate := none }

end AppState

/-! ## Under the lock -/

/-- A call into the hosted runtime, and what it answers; with no runtime it is refused before it is
    made. -/
def onRuntime {α : Type} (x : Program RuntimeError LifecycleMode α) : Section (Except RuntimeError α) :=
  fun app =>
    match app.hosted.runtime with
    | none => .error (.lifecycleUnavailable app.hosted.observedMode) app
    | some mode =>
      .ok (x.result mode) { app with hosted := { app.hosted with runtime := some (x.final mode) } }

/-- `hosted.lifecycle = runtime.lifecycle_status()`. -/
def keepStatus : Section Unit :=
  modify fun app => { app with hosted := { app.hosted with
    observedMode := app.hosted.runtime.getD app.hosted.observedMode } }

/-- `hosted.runtime.take()`. -/
def takeRuntime : Section Unit :=
  modify fun app => { app with hosted := { app.hosted with runtime := none } }

def tell (status : WorkerAuthorityStatus) : Section Unit :=
  modify fun app => app.announce status

namespace Section

/-- The section of `advance`. -/
def advance : Section (Except RuntimeError Unit) := do
  let result ← onRuntime Mode.advance
  keepStatus
  return result

/-- The section of `execute_as_at`. -/
def executeAsAt (found : Findings) : Section (Except RuntimeError Unit) := do
  let result ← onRuntime (Mode.executeAs found)
  keepStatus
  return result

/-- The section of `production_wait_millis`. -/
def productionWaitMillis (found : Findings) : Section (Except RuntimeError (Option Nat)) :=
  onRuntime (Mode.productionWaitMillis found)

/-- The section of `background_dispatch_step`. -/
def backgroundDispatchStep (found : Findings) : Section (Except RuntimeError LifecycleMode) := do
  let result ← onRuntime (Mode.backgroundDispatchStep found)
  keepStatus
  match result with
  | .ok .sleeping => do
    takeRuntime
    tell .sleeping
    return result
  | .ok .background | .error _ => return result
  | .ok mode => throw (.lifecycleUnavailable mode)

/-- The section of `drain_to_background_or_sleeping`. -/
def drainToBackgroundOrSleeping (found : Findings) : Section (Except RuntimeError LifecycleMode) := do
  let result ← onRuntime (Mode.drainToBackgroundOrSleeping found)
  keepStatus
  match result with
  | .ok .sleeping => do
    takeRuntime
    tell .sleeping
  | .ok .background => tell .background
  | _ => pure ()
  return result

/-- `Runtime::open_for_activation`, where no runtime is hosted. -/
def openForActivation : Section Unit :=
  modify fun app =>
    match app.hosted.runtime with
    | none => { app with hosted := { runtime := some .activating, observedMode := .activating } }
    | some _ => app

/-- The section of `activation_step`. -/
def activationStep (found : Findings) : Section (Except RuntimeError Bool) := do
  openForActivation
  modify fun app => { app with authority := .activating }
  let result ← onRuntime (Mode.activationStep found)
  keepStatus
  return result

end Section

end Verse.Worker
