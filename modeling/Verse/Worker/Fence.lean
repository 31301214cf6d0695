import Verse.Worker.Coordinator

/-!
# What a worker says of its authority

Every operation of a worker takes the lock of what it hosts for one section, and says in a
channel of its own what the worker's authority is: some of it while it holds the lock, the rest
when it has let go. `Stage` is how far an operation is: it says `Draining` before it takes the
lock, it is about to take it, or it still has something to say. Between two stages of one
operation any stage of another may come.

What is hosted is a runtime, unless the cell sleeps, or the coordinator of two cells. A section
sees of it whether it has halted; what the calls into it answer, and whether they halt it, comes
from outside. No section looks at the authority.
-/

namespace Verse.Worker.Fence

open Persistence (LifecycleMode)
open Verse.Runtime (RuntimeError)

/-! ## What is hosted -/

/-- `HostedRuntime`. -/
inductive Hosted where
  /-- A runtime, that has halted or not; none while the cell sleeps. -/
  | runtime (halted : Option Bool)
  | coordinator (halted : Bool)
deriving DecidableEq

/-- `is_halted`. -/
def Hosted.isHalted : Hosted → Bool
  | .runtime halted => halted.getD false
  | .coordinator halted => halted

/-- Why a worker was fenced: the words of an error, or words of its own. -/
inductive Reason where
  | error (source : RuntimeError)
  | words (text : String)
deriving DecidableEq

/-- `WorkerAuthorityStatus`. -/
inductive WorkerAuthorityStatus where
  | active
  | sleeping
  | activating
  | background
  | draining (reason : String)
  | fenced (reason : Reason)
deriving DecidableEq

def WorkerAuthorityStatus.isFenced : WorkerAuthorityStatus → Bool
  | .fenced _ => true
  | _ => false

/-- The value an operation returns, where anything depends on it. -/
inductive Reply where
  | done
  | flag (value : Bool)
  | mode (mode : LifecycleMode)
deriving DecidableEq

abbrev Outcome : Type := Except RuntimeError Reply

/-- What the calls of one section find out. -/
structure Findings where
  /-- `Runtime::open_for_activation`. -/
  opening : Except RuntimeError Unit
  /-- The call into the runtime, and whether it halts it if it fails. -/
  runtime : Except RuntimeError Unit
  halts : Bool
  /-- The call into the coordinator. -/
  coordinator : Except TwoCellRuntimeError Unit
  /-- The look at the player's route, and the second one, after the call. -/
  (route routeAfter : Except TwoCellRuntimeError Unit)
  /-- The runtime is live, in the answer of an activation step. -/
  live : Bool
  /-- The mode that a drain or a dispatch answers. -/
  mode : LifecycleMode
  /-- The mode the cell was last seen in. -/
  observedMode : LifecycleMode
  /-- The session's first frame can be projected. -/
  projection : Except String Unit

/-! ## Operations -/

inductive Operation where
  | advance
  /-- An intent, of a session that has acknowledged its route or has not. -/
  | executeAsAt (acknowledged : Bool)
  | renewLease
  | persistSnapshot
  | drainToBackgroundOrSleeping
  | activationStep
  | backgroundDispatchStep
  | productionWaitMillis
  | playerIsPresent
  | residentPlayerRoute
  /-- For a player or for a spectator. -/
  | initialSessionProjection (isPlayer : Bool)
  | validateCurrentSessionProjection (isPlayer : Bool)
deriving DecidableEq

/-- How far an operation is. -/
inductive Stage where
  /-- Nothing is under way; the last operation has returned this. -/
  | returned (outcome : Outcome)
  | called (operation : Operation)
  /-- A drain has said `Draining`, and is about to take the lock. -/
  | drained
  /-- `publish_fenced` is about to look at the authority. -/
  | fencing (reason : Reason) (outcome : Outcome)
  /-- `publish_fenced` has seen that it is not fenced. -/
  | publishing (reason : Reason) (outcome : Outcome)
  | announcing (status : WorkerAuthorityStatus) (outcome : Outcome)

namespace Stage

/-- No operation is under way. -/
def isIdle : Stage → Bool
  | .returned _ => true
  | _ => false

/-- The operation has yet to fence the worker. -/
def OwesFence : Stage → Prop
  | .fencing .. | .publishing .. => True
  | _ => False

end Stage

/-- What one step of an operation does. -/
structure Done where
  hosted : Hosted
  /-- What is said in this step. -/
  told : Option WorkerAuthorityStatus
  next : Stage

namespace Section

variable (found : Findings)

def returns (hosted : Hosted) (outcome : Outcome) : Done := ⟨hosted, none, .returned outcome⟩

/-- The operation fails with an error, and fences the worker for it. -/
def fences (hosted : Hosted) (source : RuntimeError) : Done :=
  ⟨hosted, none, .fencing (.error source) (.error source)⟩

/-- The operation fails with an error of the coordinator, and fences the worker for it if
    `coordinator_error_requires_fence`. -/
def fencesIfFatal (hosted : Hosted) (source : TwoCellRuntimeError) : Done :=
  if source.isFatal then fences hosted source.toRuntimeError
  else returns hosted (.error source.toRuntimeError)

/-- Where no runtime is hosted. -/
def unavailable (hosted : Hosted) (mode : LifecycleMode) : Done :=
  returns hosted (.error (.lifecycleUnavailable mode))

/-- A call into the runtime: what it answers, and whether the runtime has halted. A halted one
    has no answer. -/
def call (halted : Bool) : Except RuntimeError Unit × Bool :=
  match found.runtime with
  | .ok _ => (if halted then .error .halted else .ok (), halted)
  | .error source => (.error source, halted || found.halts)

/-- `advance`. -/
def advance : Hosted → Done
  | .coordinator halted =>
    match found.coordinator with
    | .error source => fences (.coordinator true) source.toRuntimeError
    | .ok _ =>
      match found.route with
      | .error source => fences (.coordinator halted) source.toRuntimeError
      | .ok _ => returns (.coordinator halted) (.ok .done)
  | .runtime none => unavailable (.runtime none) found.observedMode
  | .runtime (some halted) =>
    match call found halted with
    | (.error source, halted) =>
      if halted then fences (.runtime (some halted)) source
      else returns (.runtime (some halted)) (.error source)
    | (.ok _, halted) => returns (.runtime (some halted)) (.ok .done)

/-- `execute_as_at`. -/
def executeAsAt (acknowledged : Bool) : Hosted → Done
  | .coordinator halted =>
    if acknowledged = false then
      returns (.coordinator halted) (.error (.intent (.rejected "player_route_unacknowledged"
        "acknowledge the current cell baseline before submitting controls")))
    else
      match found.route with
      | .error source => fencesIfFatal (.coordinator halted) source
      | .ok _ =>
        match found.coordinator with
        | .error source => fencesIfFatal (.coordinator (halted || source.isFatal)) source
        | .ok _ =>
          match found.routeAfter with
          | .error source => fencesIfFatal (.coordinator halted) source
          | .ok _ => returns (.coordinator halted) (.ok .done)
  | .runtime none => unavailable (.runtime none) found.observedMode
  | .runtime (some halted) =>
    match call found halted with
    | (.error source, halted) =>
      if halted then fences (.runtime (some halted)) source
      else returns (.runtime (some halted)) (.error source)
    | (.ok _, halted) => returns (.runtime (some halted)) (.ok .done)

/-- `renew_lease`. -/
def renewLease : Hosted → Done
  | .coordinator halted =>
    match found.coordinator with
    | .error source => fences (.coordinator true) source.toRuntimeError
    | .ok _ =>
      if halted then
        ⟨.coordinator halted, none, .fencing (.words "authoritative coordinator halted") (.ok .done)⟩
      else returns (.coordinator halted) (.ok .done)
  | .runtime none => unavailable (.runtime none) found.observedMode
  | .runtime (some halted) =>
    match call found halted with
    | (.error source, halted) =>
      if halted then fences (.runtime (some halted)) source
      else returns (.runtime (some halted)) (.error source)
    | (.ok _, halted) =>
      if halted then
        ⟨.runtime (some halted), none, .fencing (.words "authoritative runtime halted") (.ok .done)⟩
      else returns (.runtime (some halted)) (.ok .done)

/-- `persist_snapshot`. Over a runtime a failure is returned as it is. -/
def persistSnapshot : Hosted → Done
  | .coordinator halted =>
    match found.coordinator with
    | .error source => fences (.coordinator true) source.toRuntimeError
    | .ok _ => returns (.coordinator halted) (.ok .done)
  | .runtime none => unavailable (.runtime none) found.observedMode
  | .runtime (some halted) =>
    match call found halted with
    | (.error source, halted) => returns (.runtime (some halted)) (.error source)
    | (.ok _, halted) => returns (.runtime (some halted)) (.ok .done)

/-- `drain_to_background_or_sleeping`, once it has said `Draining`. -/
def drainToBackgroundOrSleeping : Hosted → Done
  | .coordinator halted =>
    match found.coordinator with
    | .error source => fences (.coordinator true) source.toRuntimeError
    | .ok _ => ⟨.coordinator halted, none, .announcing .background (.ok (.mode .background))⟩
  | .runtime none => unavailable (.runtime none) found.observedMode
  | .runtime (some halted) =>
    match call found halted with
    | (.error source, halted) => fences (.runtime (some halted)) source
    | (.ok _, halted) =>
      match found.mode with
      | .sleeping => ⟨.runtime none, some .sleeping, .returned (.ok (.mode .sleeping))⟩
      | .background =>
        ⟨.runtime (some halted), some .background, .returned (.ok (.mode .background))⟩
      | mode => returns (.runtime (some halted)) (.ok (.mode mode))

/-- The runtime that an activation step goes on with: the one that is hosted, or one that is
    opened. -/
def openForActivation (halted : Option Bool) : Except RuntimeError Bool :=
  match halted with
  | some halted => .ok halted
  | none => found.opening.map fun _ => false

/-- `activation_step`. -/
def activationStep : Hosted → Done
  | .coordinator halted => ⟨.coordinator halted, some .active, .returned (.ok (.flag true))⟩
  | .runtime halted =>
    match openForActivation found halted with
    | .error source => returns (.runtime halted) (.error source)
    | .ok halted =>
      match call found halted with
      | (.error source, halted) =>
        ⟨.runtime (some halted), some .activating, .fencing (.error source) (.error source)⟩
      | (.ok _, halted) =>
        if found.live then
          ⟨.runtime (some halted), some .activating, .announcing .active (.ok (.flag true))⟩
        else ⟨.runtime (some halted), some .activating, .returned (.ok (.flag false))⟩

/-- `background_dispatch_step`. -/
def backgroundDispatchStep : Hosted → Done
  | .coordinator halted => unavailable (.coordinator halted) .active
  | .runtime none => unavailable (.runtime none) found.observedMode
  | .runtime (some halted) =>
    match call found halted with
    | (.error source, halted) => fences (.runtime (some halted)) source
    | (.ok _, halted) =>
      match found.mode with
      | .sleeping => ⟨.runtime none, some .sleeping, .returned (.ok (.mode .sleeping))⟩
      | .background => returns (.runtime (some halted)) (.ok (.mode .background))
      | mode => unavailable (.runtime (some halted)) mode

/-- `production_wait_millis`, which only looks. -/
def productionWaitMillis : Hosted → Done
  | .coordinator halted => unavailable (.coordinator halted) .active
  | .runtime none => unavailable (.runtime none) found.observedMode
  | .runtime (some halted) =>
    match call { found with halts := false } halted with
    | (.error source, halted) => returns (.runtime (some halted)) (.error source)
    | (.ok _, halted) => returns (.runtime (some halted)) (.ok .done)

/-- `player_is_present`. It fences the worker before it lets go of the lock. -/
def playerIsPresent : Hosted → Done
  | .coordinator halted =>
    match found.route with
    | .ok _ => returns (.coordinator halted) (.ok (.flag true))
    | .error (.directory (.unknownAggregate _)) =>
      returns (.coordinator halted) (.ok (.flag false))
    | .error source =>
      ⟨.coordinator halted, some (.fenced (.error source.toRuntimeError)),
        .returned (.error source.toRuntimeError)⟩
  | .runtime halted => returns (.runtime halted) (.ok (.flag found.live))

/-- `resident_player_route`. -/
def residentPlayerRoute : Hosted → Done
  | .coordinator halted =>
    match found.route with
    | .ok _ => returns (.coordinator halted) (.ok .done)
    | .error source => fencesIfFatal (.coordinator halted) source
  | .runtime halted => returns (.runtime halted) (.ok .done)

/-- `initial_session_projection`. -/
def initialSessionProjection (isPlayer : Bool) : Hosted → Done
  | .coordinator halted =>
    if isPlayer = false then returns (.coordinator halted) (.ok .done)
    else
      match found.route with
      | .ok _ => returns (.coordinator halted) (.ok .done)
      | .error source => fencesIfFatal (.coordinator halted) source
  | .runtime halted => returns (.runtime halted) (.ok .done)

/-- `validate_current_session_projection`: what `initial_session_projection` finds is projected
    with no lock held. -/
def validateCurrentSessionProjection (isPlayer : Bool) (hosted : Hosted) : Done :=
  let initial := initialSessionProjection found isPlayer hosted
  match initial.next with
  | .returned (.ok _) =>
    match found.projection with
    | .ok _ => initial
    | .error message => fences initial.hosted (.canonicalInvariant message)
  | _ => initial

/-- The section of an operation. -/
def run : Operation → Hosted → Done
  | .advance => advance found
  | .executeAsAt acknowledged => executeAsAt found acknowledged
  | .renewLease => renewLease found
  | .persistSnapshot => persistSnapshot found
  | .drainToBackgroundOrSleeping => drainToBackgroundOrSleeping found
  | .activationStep => activationStep found
  | .backgroundDispatchStep => backgroundDispatchStep found
  | .productionWaitMillis => productionWaitMillis found
  | .playerIsPresent => playerIsPresent found
  | .residentPlayerRoute => residentPlayerRoute found
  | .initialSessionProjection isPlayer => initialSessionProjection found isPlayer
  | .validateCurrentSessionProjection isPlayer => validateCurrentSessionProjection found isPlayer

end Section

/-- One step of an operation. -/
def Stage.step (found : Findings) (hosted : Hosted) (authority : WorkerAuthorityStatus) :
    Stage → Done
  | .returned outcome => ⟨hosted, none, .returned outcome⟩
  | .called .drainToBackgroundOrSleeping =>
    ⟨hosted, some (.draining "the authoritative cell is draining"), .drained⟩
  | .called .playerIsPresent =>
    -- its `publish_fenced` is one step, since it still holds the lock
    let done := Section.playerIsPresent found hosted
    { done with told := if authority.isFenced then none else done.told }
  | .called operation => Section.run found operation hosted
  | .drained => Section.run found .drainToBackgroundOrSleeping hosted
  | .fencing reason outcome =>
    ⟨hosted, none, if authority.isFenced then .returned outcome else .publishing reason outcome⟩
  | .publishing reason outcome => ⟨hosted, some (.fenced reason), .returned outcome⟩
  | .announcing status outcome => ⟨hosted, some status, .returned outcome⟩

/-! ## Sessions -/

/-- How far a session is with its admission. -/
inductive Visit where
  | away
  /-- It was let in by `websocket_upgrade`. -/
  | upgraded
  /-- It waits for the client's hello. -/
  | greeting
  /-- `complete_handshake` has asked whether the player is present. -/
  | meeting
  /-- `ensure_active` waits for the gate. -/
  | waiting
  /-- `ensure_active` is about to look at the authority. -/
  | looking
  /-- `ensure_active` has called for an activation step. -/
  | activating
  /-- The handshake is complete. -/
  | settling
  | admitted
deriving DecidableEq

/-- A worker, the operations its tasks are at, and the sessions that come to it. -/
structure Node where
  hosted : Hosted
  authority : WorkerAuthorityStatus
  /-- Who holds the activation gate. -/
  activationGate : Option Nat
  stages : Nat → Stage
  visits : Nat → Visit

namespace Node

/-- `AppState::new` for a cell in some mode, or `new_two_cell`. -/
def new (hosted : Hosted) (authority : WorkerAuthorityStatus) : Node where
  hosted := hosted
  authority := authority
  activationGate := none
  stages _ := .returned (.ok .done)
  visits _ := .away

/-- `AppState::new`: a runtime is hosted unless the cell sleeps. -/
def single (observedMode : LifecycleMode) : Node :=
  match observedMode with
  | .sleeping => new (.runtime none) .sleeping
  | .activating => new (.runtime (some false)) .activating
  | .background => new (.runtime (some false)) .background
  | .active => new (.runtime (some false)) .active
  | .draining =>
    new (.runtime (some false)) (.draining "the authoritative cell is recovering a drain")

/-- `AppState::new_two_cell`. -/
def twoCell : Node := new (.coordinator false) .active

/-- A worker as it begins, of two cells or of one in some mode. -/
def initial : Option LifecycleMode → Node
  | none => twoCell
  | some observedMode => single observedMode

/-- `unavailable_reason` has one. -/
def unavailable (node : Node) : Bool := node.authority != .active

/-- `admission_block_reason` has one. -/
def admissionBlocked (node : Node) : Bool :=
  match node.authority with
  | .draining _ | .fenced _ => true
  | _ => false

/-- `send_replace`, of a fence too: whoever has looked before another fenced the worker sends its own
    reason in the place of the other's. -/
def tell (authority : WorkerAuthorityStatus) (told : Option WorkerAuthorityStatus) :
    WorkerAuthorityStatus :=
  told.getD authority

/-- A task calls for an operation, if it is not at one. -/
def call (node : Node) (id : Nat) (operation : Operation) : Node :=
  match node.stages id with
  | .returned _ => { node with stages := Function.update node.stages id (.called operation) }
  | _ => node

/-- One step of the operation a task is at. -/
def proceed (node : Node) (id : Nat) (found : Findings) : Node :=
  let done := (node.stages id).step found node.hosted node.authority
  { node with
    hosted := done.hosted
    authority := tell node.authority done.told
    stages := Function.update node.stages id done.next }

def setVisit (node : Node) (id : Nat) (visit : Visit) : Node :=
  { node with visits := Function.update node.visits id visit }

/-- A session goes on with its admission, as far as it can without its client. -/
def attend (node : Node) (id : Nat) : Node :=
  match node.visits id with
  | .upgraded => node.setVisit id (if node.admissionBlocked then .away else .greeting)
  | .meeting =>
    match node.stages id with
    | .returned (.ok (.flag true)) => node.setVisit id .waiting
    | .returned _ => node.setVisit id .away
    | _ => node
  | .waiting =>
    match node.activationGate with
    | none => { node.setVisit id .looking with activationGate := some id }
    | some _ => node
  | .looking =>
    if node.authority = .active then
      { node.setVisit id .settling with activationGate := none }
    else (node.setVisit id .activating).call id .activationStep
  | .activating =>
    match node.stages id with
    | .returned (.ok (.flag true)) => { node.setVisit id .settling with activationGate := none }
    | .returned (.ok _) => node.setVisit id .looking
    | .returned (.error _) => { node.setVisit id .away with activationGate := none }
    | _ => node
  | .settling => node.setVisit id (if node.unavailable then .away else .admitted)
  | .away | .greeting | .admitted => node

/-- The hello of a client. A spectator is only turned away from a cell that is not live. -/
def hello (node : Node) (id : Nat) (isPlayer : Bool) : Node :=
  match node.visits id with
  | .greeting =>
    if isPlayer then (node.setVisit id .meeting).call id .playerIsPresent
    else node.setVisit id (if node.unavailable then .away else .settling)
  | _ => node

/-- The session ends, if it is not in the middle of an operation. -/
def leave (node : Node) (id : Nat) : Node :=
  match node.stages id with
  | .returned _ =>
    { node.setVisit id .away with
      activationGate := if node.activationGate = some id then none else node.activationGate }
  | _ => node

end Node

/-- One step of a task or of a client. -/
inductive Move where
  /-- A task that is no session's, or an admitted session's, calls for an operation. -/
  | call (id : Nat) (operation : Operation)
  | proceed (id : Nat) (found : Findings)
  | connect (id : Nat)
  | hello (id : Nat) (isPlayer : Bool)
  | attend (id : Nat)
  | leave (id : Nat)

def Node.step (node : Node) : Move → Node
  | .call id operation =>
    match node.visits id with
    | .away | .admitted => node.call id operation
    | _ => node
  | .proceed id found => node.proceed id found
  | .connect id =>
    match node.visits id, node.stages id with
    | .away, .returned _ => node.setVisit id (if node.admissionBlocked then .away else .upgraded)
    | _, _ => node
  | .hello id isPlayer => node.hello id isPlayer
  | .attend id => node.attend id
  | .leave id => node.leave id

/-! ## The record of a run -/

/-- A worker, and what has become of its fences. -/
structure Watched extends Node where
  /-- The authority has been fenced at some time. -/
  everFenced : Bool
  /-- A fence has been taken away. -/
  unfenced : Bool
  /-- A session was admitted later than the worker was fenced. -/
  admittedSince : Bool
  /-- An operation has returned over something that has halted, and the authority is not fenced. -/
  missed : Bool

namespace Watched

/-- A worker whose authority is not fenced. -/
def start (node : Node) : Watched where
  toNode := node
  everFenced := false
  unfenced := false
  admittedSince := false
  missed := false

/-- With this step an operation returns. -/
def returning (node next : Node) : Move → Bool
  | .proceed id _ => !(node.stages id).isIdle && (next.stages id).isIdle
  | _ => false

/-- With this step a session is admitted. -/
def admits (node next : Node) : Move → Bool
  | .attend id => decide (node.visits id = .settling) && decide (next.visits id = .admitted)
  | _ => false

def step (w : Watched) (move : Move) : Watched :=
  let next := w.toNode.step move
  { toNode := next
    everFenced := w.everFenced || next.authority.isFenced
    unfenced := w.unfenced || (w.authority.isFenced && !next.authority.isFenced)
    admittedSince := w.admittedSince || (w.everFenced && admits w.toNode next move)
    missed := w.missed
      || (returning w.toNode next move && next.hosted.isHalted && !next.authority.isFenced) }

/-- A step as a request that is always accepted. -/
def tick (w : Watched) (move : Move) : Except Empty Watched := .ok (w.step move)

/-- Fencing was final and none was missed. -/
def Final (w : Watched) : Prop :=
  w.unfenced = false ∧ w.admittedSince = false ∧ w.missed = false

end Watched

/-! ## The condition -/

/-- A call is answered, or fails for a reason that is the player's own. -/
def Harmless (answer : Except TwoCellRuntimeError Unit) : Prop :=
  ∀ source, answer = .error source → source.isFatal = false

/-- The steps that send a status without a look at the one that is there: a drain as it begins and
    where its runtime has drained, an activation step that has a runtime or a coordinator, a
    dispatch that puts the cell to sleep, and what a drain or an activation announces last. -/
def Stage.Overwrites (found : Findings) : Stage → Hosted → Prop
  | .called .drainToBackgroundOrSleeping, _ => True
  | .drained, .runtime (some false) =>
    found.runtime = .ok () ∧ (found.mode = .sleeping ∨ found.mode = .background)
  | .called .activationStep, .coordinator _ => True
  | .called .activationStep, .runtime (some _) => True
  | .called .activationStep, .runtime none => found.opening = .ok ()
  | .called .backgroundDispatchStep, .runtime (some false) =>
    found.runtime = .ok () ∧ found.mode = .sleeping
  | .announcing status _, _ => status.isFenced = false
  | _, _ => False

/-- The last steps of an operation that fence nothing over what has halted: the calls that do not
    ask whether it has, those that a coordinator answers or turns away for the player's own
    reason, and an announcement. -/
def Stage.Leaves (found : Findings) : Stage → Hosted → Prop
  | .called .advance, .coordinator _ => found.coordinator = .ok () ∧ found.route = .ok ()
  | .called (.executeAsAt acknowledged), .coordinator _ =>
    acknowledged = true → Harmless found.route ∧ (found.route = .ok () →
      Harmless found.coordinator ∧ (found.coordinator = .ok () → Harmless found.routeAfter))
  | .called .persistSnapshot, .coordinator _ => found.coordinator = .ok ()
  | .called .persistSnapshot, .runtime _ => True
  | .called .activationStep, .coordinator _ => True
  | .called .backgroundDispatchStep, .coordinator _ => True
  | .called .productionWaitMillis, _ => True
  | .called .playerIsPresent, .coordinator _ =>
    found.route = .ok () ∨ ∃ id, found.route = .error (.directory (.unknownAggregate id))
  | .called .playerIsPresent, .runtime _ => True
  | .called .residentPlayerRoute, .coordinator _ => Harmless found.route
  | .called .residentPlayerRoute, .runtime _ => True
  | .called (.initialSessionProjection isPlayer), .coordinator _ =>
    isPlayer = true → Harmless found.route
  | .called (.initialSessionProjection _), .runtime _ => True
  | .called (.validateCurrentSessionProjection isPlayer), .coordinator _ =>
    (isPlayer = true → Harmless found.route)
      ∧ (isPlayer = false ∨ found.route = .ok () → found.projection = .ok ())
  | .called (.validateCurrentSessionProjection _), .runtime _ => found.projection = .ok ()
  | .announcing status _, _ => status.isFenced = false
  | _, _ => False

namespace Watched

/-- What the next step of a task's operation does. -/
def doing (w : Watched) (id : Nat) (found : Findings) : Done :=
  (w.stages id).step found w.hosted w.authority

/-- A snapshot that stops the runtime, of a worker of one cell. -/
def LosesFence (w : Watched) (id : Nat) (found : Findings) : Prop :=
  match w.stages id with
  | .called .persistSnapshot =>
    w.hosted = .runtime (some false) ∧ (∃ source, found.runtime = .error source)
      ∧ found.halts = true
  | _ => False

/-- A worker that is fenced is not drained, activated or put to sleep, and nothing is announced of
    it. While it is not, no snapshot stops the runtime of a single cell; and between the section
    in which an operation halts what is hosted and the fence it then owes, no other operation
    takes a last step that looks for no fence. -/
def Heeds (w : Watched) : Move → Prop
  | .proceed id found =>
    (w.authority.isFenced = true → ¬ (w.stages id).Overwrites found w.hosted)
    ∧ (w.authority.isFenced = false → ¬ w.LosesFence id found)
    ∧ (w.authority.isFenced = false → w.hosted.isHalted = true →
        (∃ other, (w.stages other).OwesFence) → ¬ (w.stages id).Leaves found w.hosted)
  | _ => True

end Watched

end Verse.Worker.Fence
