import Verse.Interest.Agree
import Verse.Worker.Coordinator

/-!
# Who may control a player

In a two-cell worker an intent is carried out in the cell its session last acknowledged, and only
while the directory has the player resident there at that very placement. `Controlled` is one
session beside the coordinator it controls its player through: the session takes its turns, the
coordinator is advanced with whatever handoffs that brings, and the client answers what it likes.

The record keeps what the session has sent, each frame with the worlds and the residence it was
projected from, and the acknowledgements it has taken, each with what had been sent before it.
-/

namespace Verse.Interest

open Lib
open Verse.Runtime (RuntimeError)
open Worker (LocalTwoCellRuntime)

/-- A frame as it was sent, and what it was projected from. -/
structure Sent (host : Projecting) where
  message : ServerMessage
  state : AppState host

/-- An acknowledgement as it was taken, and what had been sent by then. -/
structure Taken (host : Projecting) where
  ack : InterestFrontier
  sent : List (Sent host)

structure Controlled (host : Projecting) where
  session : Session host
  playerId : String
  coordinator : LocalTwoCellRuntime
  sent : List (Sent host)
  taken : List (Taken host)

variable {host : Projecting}

/-- A complete baseline of the player's cell, sent while the player was resident there at that
    placement. -/
def Sent.BaselineOf (sent : Sent host) (route : ResidentPlayerRoute) : Prop :=
  sent.state.resident = some route ∧ (∃ baseline, sent.message = .interestBaseline baseline)
    ∧ ∃ cursor next, projectInterestFrame host (sent.state.cells route.cellKey) cursor OrdMap.empty
        = .ok (sent.message, next)

/-! ## Intents -/

/-- `AppState::execute_as_at` over a coordinator: what it answers, and the coordinator it leaves. -/
def executeAsAt (coordinator : LocalTwoCellRuntime) (eventId actorPlayerId : String)
    (residentRoute : Option ResidentPlayerRoute) (intent : ClientMessage) :
    Except RuntimeError IntentReceipt × LocalTwoCellRuntime :=
  match residentRoute with
  | none =>
    (.error (.intent (.rejected "player_route_unacknowledged"
      "acknowledge the current cell baseline before submitting controls")), coordinator)
  | some route =>
    match coordinator.runtimeForPlayerAt actorPlayerId route with
    | .error source => (.error source.toRuntimeError, coordinator)
    | .ok _ =>
      match LocalTwoCellRuntime.executeAsAt eventId actorPlayerId route intent coordinator with
      | .error source coordinator => (.error source.toRuntimeError, coordinator)
      | .ok receipt coordinator =>
        match coordinator.runtimeForPlayerAt actorPlayerId route with
        | .error source => (.error source.toRuntimeError, coordinator)
        | .ok _ => (.ok receipt, coordinator)

/-- The code and the message a session is closed with, if it is. -/
def closing : RuntimeError → Option (String × String)
  | .intent _ => none
  | .canonicalInvariant _ => some ("canonical_state_invalid",
      "authoritative state validation failed; writes are stopped")
  | .persistence _ => some ("persistence_failure",
      "authoritative persistence failed; writes are stopped")
  | .physics _ => some ("physics_failure", "authoritative physics rejected the operation")
  | .halted => some ("authoritative_writes_halted", "the universe is in fail-closed recovery mode")
  | .lifecycleUnavailable mode => some ("cell_not_active",
      s!"the cell is currently {mode.text}; reconnect after activation")

/-- What the session does with the answer to an intent; an answer goes to the client as text. -/
def answerIntent (text : Except RuntimeError IntentReceipt → String) (session : Session host)
    (answer : Except RuntimeError IntentReceipt) : Session host :=
  match answer with
  | .ok receipt => session.send (.intentAccepted (text (.ok receipt)))
  | .error source =>
    match closing source with
    | none => session.send (.intentRejected (text (.error source)))
    | some (code, message) => session.fatal code message

/-! ## Moves -/

inductive ControlMove where
  /-- A turn of the session, of its client, or of the worlds it looks at. -/
  | session (move : SessionMove)
  /-- The coordinator is advanced, to whatever it then is. -/
  | advance (next : LocalTwoCellRuntime)
  /-- The client sends an answer of its own making. -/
  | forge (answer : ClientAnswer)
  /-- The session takes an intent of its client. -/
  | intent (eventId : String) (message : ClientMessage)

namespace Controlled

variable (text : Except RuntimeError IntentReceipt → String)

/-- Where the player is resident, if that has an answer. -/
def residence (coordinator : LocalTwoCellRuntime) (playerId : String) :
    Option ResidentPlayerRoute := (coordinator.residentPlayerRoute playerId).toOption

/-- The acknowledgement that a turn takes. -/
def taking (session : Session host) : SessionMove → List InterestFrontier
  | .receive _ =>
    match session.closed, session.toServer with
    | false, .acknowledgeInterest ack :: _ => [ack]
    | _, _ => []
  | _ => []

/-- The frames that a turn sends. -/
def sending (before after : Session host) : SessionMove → List (Sent host)
  | .tick .. | .handoff .. | .receive _ =>
    (after.toClient.drop before.toClient.length).map fun message => ⟨message, before.state⟩
  | _ => []

/-- The coordinator as it now is, and the session's look at the player's residence. -/
def withCoordinator (c : Controlled host) (coordinator : LocalTwoCellRuntime) : Controlled host :=
  { c with
    coordinator
    session := { c.session with
      state := { c.session.state with resident := residence coordinator c.playerId } } }

/-- What an intent comes to. -/
def answer (c : Controlled host) (eventId : String) (message : ClientMessage) :
    Except RuntimeError IntentReceipt × LocalTwoCellRuntime :=
  executeAsAt c.coordinator eventId c.playerId c.session.transport.residentRoute message

def step (c : Controlled host) : ControlMove → Controlled host
  | .session (.reside _) => c
  | .session move =>
    { c with
      session := c.session.move move
      sent := c.sent ++ sending c.session (c.session.move move) move
      taken := c.taken ++ (taking c.session move).map (⟨·, c.sent⟩) }
  | .advance next => c.withCoordinator next
  | .forge answer => { c with session := { c.session with toServer := c.session.toServer ++ [answer] } }
  | .intent eventId message =>
    if c.session.closed then c
    else
      let (answer, coordinator) := c.answer eventId message
      let c := c.withCoordinator coordinator
      { c with session := answerIntent text c.session answer }

/-- A step as a request that is always accepted. -/
def tick (c : Controlled host) (move : ControlMove) : Except Empty (Controlled host) :=
  .ok (c.step text move)

/-- A session with its player begins: its first baseline is on the way. -/
def start (state : AppState host) (coordinator : LocalTwoCellRuntime)
    (sessionEpoch playerId completedTransferId : String) (client : InterestVerifier) (now : Nat) :
    Projected (Controlled host) := do
  let state := { state with twoCell := true, resident := residence coordinator playerId }
  let session ← Session.start state sessionEpoch playerId completedTransferId client now
  return {
    session
    playerId
    coordinator
    sent := session.toClient.map fun message => ⟨message, state⟩
    taken := [] }

/-- An intent is carried out: it is answered with a receipt, or the coordinator is changed. -/
def Executes (c : Controlled host) (eventId : String) (message : ClientMessage) : Prop :=
  (∃ receipt, (c.answer eventId message).1 = .ok receipt)
    ∨ (c.answer eventId message).2 ≠ c.coordinator

/-! ## What a route stands for -/

/-- The session has sent such a baseline under this frontier. -/
def HasSent (c : Controlled host) (frontier : InterestFrontier) (route : ResidentPlayerRoute) :
    Prop :=
  ∃ sent ∈ c.sent, Sent.BaselineOf sent route ∧ sent.message.frontier? = some frontier

/-- And has afterwards taken its acknowledgement. -/
def HasAcknowledged (c : Controlled host) (route : ResidentPlayerRoute) : Prop :=
  ∃ taken ∈ c.taken, ∃ sent ∈ taken.sent,
    Sent.BaselineOf sent route ∧ sent.message.frontier? = some taken.ack

/-- How the route of a session may change in one step: it is the route of its first baseline, or
    that of the baseline of a handoff, one placement further on, and in either case the step takes
    the acknowledgement of exactly that baseline. -/
structure RouteInstalled (c : Controlled host) (move : ControlMove) (route : ResidentPlayerRoute) :
    Prop where
  taken : ∃ now ack rest pending, move = .session (.receive now)
    ∧ c.session.toServer = .acknowledgeInterest ack :: rest
    ∧ c.session.transport.pending = some pending ∧ pending.frontier = ack
    ∧ pending.purpose.route = some route ∧ c.HasSent ack route
  consecutive : match c.session.transport.residentRoute with
    | none => c.session.transport.initialRoute = some route
    | some before => route.placementGeneration = before.placementGeneration + 1

end Controlled

end Verse.Interest
