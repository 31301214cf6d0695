import Verse.Lib.Run
import Verse.Worker.Host

/-!
# The supervisor and the sessions

Two kinds of task work on a hosted cell. The supervisor (`supervise`) looks at the mode of the
cell and acts on it: it advances a live cell, drains one that nobody plays in, dispatches the
production of one in the background. A session claims its player, sees to it that the cell is
live (`ensure_active`), and releases the player when it ends. Each takes the lock for one section
at a time, so what the supervisor has looked at may have changed before it acts.

`Node.step` lets one task take one step, a section or an announcement. `Watched` follows a
worker and keeps a record of what the supervisor has not seen: whether a session has been
activating the cell since it read the mode, and who came since it found nobody connected. That
record decides whether the supervisor acts on something that is no longer so
(`supervision_is_safe_iff`): its dispatch finds the cell awake and fences it, or its drain takes
the cell from a player who has just come.
-/

namespace Verse.Worker

open Lib Lib.Program
open Persistence (LifecycleMode)
open Verse.Runtime (RuntimeError)

/-! ## Tasks -/

/-- How far a task is with `ensure_active`. -/
inductive Activation where
  /-- It waits for the gate. -/
  | gate
  /-- It is about to look at the authority. -/
  | looking
  | stepping
  /-- The cell is live, and that is to be told. -/
  | publishing
  | fencing (source : RuntimeError)
  | returned (failure : Option RuntimeError)
deriving DecidableEq

/-- How far the supervisor is. -/
inductive Supervisor where
  /-- It is about to read the mode. -/
  | reading
  /-- The mode was `Active`: is anybody connected, and for how long has nobody been? -/
  | looking
  | timing
  | publishingDrain
  | draining
  | advancing
  /-- The mode was `Background`: how long is it until there is something to do? -/
  | measuring
  | registering (waitMillis : Nat)
  | waiting (deadline : Nat)
  | dispatching
  /-- The mode was `Sleeping`. -/
  | pausing
  | asleep
  /-- The mode was `Activating`. -/
  | activating (progress : Activation)
  | fencing (source : RuntimeError)
  | returned (source : RuntimeError)
deriving DecidableEq

/-- How far a session is. -/
inductive Session where
  | away
  /-- It was let in by the listener. -/
  | upgrading
  /-- It waits for the client's hello. -/
  | greeting
  | claiming (playerId : String)
  | touching (playerId : String)
  | ensuring (playerId : String) (progress : Activation)
  | checking (playerId : String)
  | serving (playerId : String)
  | leaving (playerId : String)
  | departing
deriving DecidableEq

/-- A worker and its tasks. -/
structure Node extends AppState where
  supervisor : Supervisor
  sessions : Nat → Session

/-- One step of a task, or of the world around the worker. -/
inductive Move where
  /-- Of the branches its `select` waits for, the supervisor takes the signal's. -/
  | supervise (signal : Bool) (found : Findings)
  | connect (id : Nat)
  /-- The hello of a player who is, or is not, in the cell. -/
  | hello (id : Nat) (playerId : String) (isPresent : Bool)
  | session (id : Nat) (found : Findings)
  | intent (id : Nat) (found : Findings)
  /-- The session ends, whatever ends it. -/
  | leave (id : Nat)
  | pass (millis : Nat)

/-! ## Steps -/

/-- `ensure_active`. -/
def Activation.step (task : Task) (found : Findings) (app : AppState) :
    Activation → Activation × AppState
  | .gate =>
    match app.activationGate with
    | none => (.looking, { app with activationGate := some task })
    | some _ => (.gate, app)
  | .looking => if app.authority = .active then (.returned none, app.leaveGate) else (.stepping, app)
  | .stepping =>
    match Section.activationStep found app with
    | .ok (.ok true) app => (.publishing, app)
    | .ok (.ok false) app => (.looking, app)
    | .ok (.error source) app => (.fencing source, app)
    | .error source app => (.returned (some source), app.leaveGate)
  | .publishing => (.returned none, (app.announce .active).leaveGate)
  | .fencing source => (.returned (some source), (app.publishFenced source).leaveGate)
  | .returned failure => (.returned failure, app)

variable (idleDrainAfter : Nat)

/-- `supervise`. -/
def Supervisor.step (signal : Bool) (found : Findings) (app : AppState) :
    Supervisor → Supervisor × AppState
  | .reading =>
    match app.hosted.observedMode with
    | .active => (.looking, app)
    | .background => (.measuring, app)
    | .sleeping => (.pausing, app)
    | .activating => (.activating .gate, app)
    | .draining => (.reading, app)
  -- A live cell.
  | .looking => (if app.connectedPlayers = ∅ then .timing else .advancing, app)
  | .timing =>
    (if idleDrainAfter ≤ app.now - app.lastPlayerActivity then .publishingDrain else .advancing, app)
  | .publishingDrain =>
    (.draining, { app with authority := .draining "the authoritative cell is draining" })
  | .draining =>
    match Section.drainToBackgroundOrSleeping found app with
    | .ok (.ok _) app => (.reading, app)
    | .ok (.error source) app => (.fencing source, app)
    | .error source app => (.returned source, app)
  | .advancing =>
    match Section.advance app with
    | .ok (.ok _) app => (.reading, app)
    | .ok (.error source) app | .error source app => (.returned source, app)
  -- Background production.
  | .measuring =>
    match Section.productionWaitMillis found app with
    | .ok (.ok waitMillis) app =>
      (if 0 < waitMillis.getD 0 then .registering (waitMillis.getD 0) else .dispatching, app)
    | .ok (.error source) app | .error source app => (.returned source, app)
  | .registering waitMillis => (.waiting (app.now + waitMillis), { app with notified := false })
  | .waiting deadline =>
    if signal = true ∧ app.notified = true then (.reading, app)
    else if signal = false ∧ deadline ≤ app.now then (.dispatching, app)
    else (.waiting deadline, app)
  | .dispatching =>
    match Section.backgroundDispatchStep found app with
    | .ok (.ok _) app => (.reading, app)
    | .ok (.error source) app => (.fencing source, app)
    | .error source app => (.returned source, app)
  -- A cell that sleeps, or that somebody is waking.
  | .pausing => (.asleep, { app with notified := false })
  | .asleep => (if app.notified then .reading else .asleep, app)
  | .activating progress =>
    match progress.step .supervisor found app with
    | (.returned none, app) => (.reading, app)
    | (.returned (some source), app) => (.returned source, app)
    | (progress, app) => (.activating progress, app)
  | .fencing source => (.returned source, app.publishFenced source)
  | .returned source => (.returned source, app)

/-- The part of a session that runs by itself. -/
def Session.step (id : Nat) (found : Findings) (app : AppState) : Session → Session × AppState
  | .away => (.away, app)
  | .upgrading => (if app.admissionBlocked then .away else .greeting, app)
  | .greeting => (.greeting, app)
  | .claiming playerId =>
    if playerId ∈ app.connectedPlayers then (.away, app)
    else (.touching playerId, app.claim playerId)
  | .touching playerId => (.ensuring playerId .gate, app.touch)
  | .ensuring playerId progress =>
    match progress.step (.session id) found app with
    | (.returned none, app) => (.checking playerId, app)
    | (.returned (some _), app) => (.leaving playerId, app)
    | (progress, app) => (.ensuring playerId progress, app)
  | .checking playerId => (if app.unavailable then .leaving playerId else .serving playerId, app)
  | .serving playerId => (.serving playerId, app)
  | .leaving playerId => (.departing, app.release playerId)
  | .departing => (.away, app.touch)

namespace Node

def setSession (w : Node) (id : Nat) (session : Session) : Node :=
  { w with sessions := Function.update w.sessions id session }

/-- One move; a move that cannot be made leaves the worker as it is. -/
def step (w : Node) : Move → Node
  | .supervise signal found =>
    let (supervisor, app) := w.supervisor.step idleDrainAfter signal found w.toAppState
    { w with toAppState := app, supervisor }
  | .connect id =>
    if w.sessions id = .away ∧ w.admissionBlocked = false then w.setSession id .upgrading else w
  | .hello id playerId isPresent =>
    if w.sessions id = .greeting then
      w.setSession id (if isPresent then .claiming playerId else .away)
    else w
  | .session id found =>
    let (session, app) := (w.sessions id).step id found w.toAppState
    { w.setSession id session with toAppState := app }
  | .intent id found =>
    match w.sessions id with
    | .serving _ =>
      match Section.executeAsAt found w.toAppState with
      | .ok _ app | .error _ app => { w with toAppState := app }
    | _ => w
  | .leave id =>
    match w.sessions id with
    | .serving playerId => w.setSession id (.leaving playerId)
    | .upgrading | .greeting => w.setSession id .away
    | _ => w
  | .pass millis => { w with now := w.now + millis }

/-- A worker that has just been started. -/
def start (observedMode : LifecycleMode) : Node where
  toAppState := .new observedMode
  supervisor := .reading
  sessions _ := .away

end Node

/-! ## What the supervisor has not seen -/

/-- A worker, and what has happened behind its supervisor's back. -/
structure Watched extends Node where
  /-- A session has been activating the cell since the supervisor read its mode. -/
  stirred : Bool
  /-- Who has come, and not gone again, since the supervisor found nobody connected. -/
  newcomers : Finset String
  /-- Who was connected when an idle drain took the cell out of `Active`. -/
  sleptUnder : Finset String

namespace Watched

def start (observedMode : LifecycleMode) : Watched where
  toNode := .start observedMode
  stirred := false
  newcomers := ∅
  sleptUnder := ∅

def stirs (w : Watched) : Move → Bool
  | .supervise .. => if w.supervisor = .reading then false else w.stirred
  | .session id _ =>
    match w.sessions id with
    | .ensuring _ .stepping => true
    | _ => w.stirred
  | _ => w.stirred

def comes (w : Watched) : Move → Finset String
  | .supervise .. => if w.supervisor = .looking then ∅ else w.newcomers
  | .session id _ =>
    match w.sessions id with
    | .claiming playerId =>
      if playerId ∈ w.connectedPlayers then w.newcomers else insert playerId w.newcomers
    | .leaving playerId => w.newcomers.erase playerId
    | _ => w.newcomers
  | _ => w.newcomers

def step (w : Watched) (move : Move) : Watched where
  toNode := w.toNode.step idleDrainAfter move
  stirred := w.stirs move
  newcomers := w.comes move
  sleptUnder :=
    match move with
    | .supervise .. =>
      if w.supervisor = .draining ∧ w.hosted.observedMode = .active
          ∧ (w.toNode.step idleDrainAfter move).hosted.observedMode ≠ .active then
        w.sleptUnder ∪ w.connectedPlayers
      else w.sleptUnder
    | _ => w.sleptUnder

/-- The supervisor has come to no error, its authority is not fenced, and no player was connected
    when it drained the cell. -/
structure Unharmed (w : Watched) : Prop where
  supervising : ∀ source, w.supervisor ≠ .fencing source ∧ w.supervisor ≠ .returned source
  unfenced : ∀ source, w.authority ≠ .fenced source
  undisturbed : w.sleptUnder = ∅

/-- The supervisor does not dispatch after a session has been activating the cell behind its back,
    and does not drain while somebody has come behind its back. -/
def Timely (w : Watched) : Move → Prop
  | .supervise .. =>
    (w.supervisor = .dispatching → w.stirred = false)
      ∧ (w.supervisor = .draining → w.newcomers = ∅)
  | _ => True

end Watched

end Verse.Worker
