import Verse.Interest.Projection

/-!
# The transport of one player's session

A session's transport remembers three frames at most: the one the client last acknowledged,
the one in flight, and, while a fresh baseline is in flight, the one it superseded. The loop
of the session stages an ordinary delta when nothing is in flight, a fresh baseline when the
one in flight times out, when the client asks for one or when an acknowledgement makes no
sense, and a destination baseline behind the three statuses of a handoff.

`Session` is the server's loop, the client's verifier and the messages under way between them,
each direction in order. A move is one turn of one of the parties, or a change of the world.
-/

namespace Verse.Interest

open Lib
open Directory (CellKeyV1)

/-! ## Routes and worlds -/

structure ResidentPlayerRoute where
  cellKey : CellKeyV1
  placementGeneration : Nat
deriving DecidableEq, Repr

/-- A completed handoff, between two different cells. -/
structure CompletedPlayerHandoff where
  transferId : String
  (sourceCellKey destinationCellKey : CellKeyV1)
  placementGeneration : Nat
  crosses : sourceCellKey ≠ destinationCellKey

variable (host : Projecting)

/-- What never changes in the worlds one cell publishes. -/
structure CellPlace where
  (contentManifestVersion universeId cellId universeManifestHash celestialRegistryHash : String)
  cellAddress : UniverseAddress
  (gravityBodyId voxelBodyId : String)
deriving DecidableEq

namespace CanonicalSnapshot

def place (canonical : CanonicalSnapshot) : CellPlace where
  contentManifestVersion := canonical.contentManifestVersion
  universeId := canonical.universeId
  cellId := canonical.cellId
  universeManifestHash := canonical.universeManifestHash
  celestialRegistryHash := canonical.celestialRegistryHash
  cellAddress := canonical.cellAddress
  gravityBodyId := canonical.gravityBodyId
  voxelBodyId := canonical.voxelBodyId

/-- A later revision of the same cell: neither its events nor its clock have gone back. -/
def Later (old new : CanonicalSnapshot) : Prop :=
  new.place = old.place ∧ old.eventSequence ≤ new.eventSequence ∧
    old.simulationTick ≤ new.simulationTick

instance (old new : CanonicalSnapshot) : Decidable (Later old new) :=
  inferInstanceAs (Decidable (_ ∧ _))

end CanonicalSnapshot

/-- The worlds a worker hosts, by cell, each under its own identity, and where the player is
    resident. A worker of one cell has no routes, and serves every player from `home`. -/
structure AppState where
  twoCell : Bool
  home : CellKeyV1
  cells : CellKeyV1 → ProjectionSource
  named : ∀ key, (cells key).canonical.cellId = host.wire.hashing.cellIdForKey key
  resident : Option ResidentPlayerRoute

namespace AppState

variable {host}

/-- `projection_revision_for_at`, for a bound player. -/
def projectionRevisionForAt (state : AppState host) (route : Option ResidentPlayerRoute) :
    Projected ProjectionSource :=
  if state.twoCell = false then .ok (state.cells state.home)
  else do
    let route ← demand route (.invalidCanonicalSnapshot
      "bound-player projection requires a resident route permit")
    rejectIf (state.resident ≠ some route)
      (.invalidCanonicalSnapshot "the requested player route is stale")
    pure (state.cells route.cellKey)

def projectedInterestFrameAt (state : AppState host) (cursor : InterestProjectionState)
    (route : Option ResidentPlayerRoute) : Projected (ServerMessage × InterestProjectionState) := do
  let source ← state.projectionRevisionForAt route
  projectInterestFrame host source cursor OrdMap.empty

/-- A revision takes the place of the one before it, if it is a later one of the same cell. -/
def publish (state : AppState host) (key : CellKeyV1) (source : ProjectionSource) :
    AppState host :=
  if h : CanonicalSnapshot.Later (state.cells key).canonical source.canonical then
    { state with
      cells := fun k => if k = key then source else state.cells k
      named := by
        intro k
        by_cases hk : k = key
        · have hcell : source.canonical.cellId = (state.cells key).canonical.cellId :=
            congrArg CellPlace.cellId h.1
          rw [if_pos hk, hcell, state.named, hk]
        · rw [if_neg hk, state.named] }
  else state

/-- `resident_route_is_stale`. -/
def residentRouteIsStale (state : AppState host) (expected : Option ResidentPlayerRoute) : Bool :=
  state.twoCell && expected.isSome && state.resident.isSome && state.resident != expected

end AppState

/-! ## The transport -/

inductive PendingFramePurpose where
  | ordinary
  | recovery
  | initialRoute (route : ResidentPlayerRoute)
  | destinationHandoff (transferId : String) (route : ResidentPlayerRoute)
deriving DecidableEq, Repr

namespace PendingFramePurpose

def route : PendingFramePurpose → Option ResidentPlayerRoute
  | .initialRoute route | .destinationHandoff _ route => some route
  | .ordinary | .recovery => none

def isRecovery : PendingFramePurpose → Bool
  | .recovery | .destinationHandoff _ _ => true
  | .ordinary | .initialRoute _ => false

end PendingFramePurpose

/-- Times are milliseconds of the worker's own clock. -/
structure PendingInterestFrame where
  projection : InterestProjectionState
  frontier : InterestFrontier
  sentAt : Nat
  purpose : PendingFramePurpose

inductive InterestAckOutcome where
  | accepted
  | routeInstalled
  | duplicate
  | rejected
deriving DecidableEq, Repr

/-- `UNACKNOWLEDGED_FRAME_TIMEOUT`. -/
def unacknowledgedFrameTimeout : Nat := 30000

/-- `RECOVERY_WINDOW`. -/
def recoveryWindow : Nat := 10000

/-- `MAX_RECOVERIES_PER_WINDOW`. -/
def maxRecoveriesPerWindow : Nat := 4

structure SessionTransport where
  acknowledgedProjection : InterestProjectionState
  acknowledgedFrontier : Option InterestFrontier
  (residentRoute initialRoute : Option ResidentPlayerRoute)
  pending : Option PendingInterestFrame
  supersededFrontier : Option InterestFrontier
  (recoveryWindowStartedAt recoveriesInWindow : Nat)

/-- The interest header of a frame. -/
def ServerMessage.interest? : ServerMessage → Option InterestSnapshot
  | .interestBaseline baseline => some baseline.interest
  | .interestDelta delta => some delta.interest
  | _ => none

/-- The frontier a frame leaves, for a message that is one. -/
def ServerMessage.frontier? (message : ServerMessage) : Option InterestFrontier :=
  message.interest?.map .fromInterest

namespace SessionTransport

def newAt (sessionEpoch playerId : String) (initialRoute : Option ResidentPlayerRoute)
    (now : Nat) : SessionTransport where
  acknowledgedProjection := .boundPlayer host sessionEpoch playerId
  acknowledgedFrontier := none
  residentRoute := none
  initialRoute := initialRoute
  pending := none
  supersededFrontier := none
  recoveryWindowStartedAt := now
  recoveriesInWindow := 0

variable {host}

def pendingTimedOut (t : SessionTransport) (now : Nat) : Bool :=
  t.pending.any fun pending => decide (unacknowledgedFrameTimeout ≤ now - pending.sentAt)

def recoveryIsPending (t : SessionTransport) : Bool :=
  t.pending.any fun pending => pending.purpose.isRecovery

def initialRouteIsAcknowledged (t : SessionTransport) : Bool :=
  t.initialRoute.isNone || t.residentRoute.isSome

/-- Whether one more recovery is permitted, and the transport that has counted it. -/
def permitRecovery (t : SessionTransport) (now : Nat) : Bool × SessionTransport :=
  let t := if recoveryWindow ≤ now - t.recoveryWindowStartedAt then
      { t with recoveryWindowStartedAt := now, recoveriesInWindow := 0 }
    else t
  if maxRecoveriesPerWindow ≤ t.recoveriesInWindow then (false, t)
  else (true, { t with recoveriesInWindow := t.recoveriesInWindow + 1 })

def acknowledge (t : SessionTransport) (ack : InterestFrontier) :
    InterestAckOutcome × SessionTransport :=
  match t.pending.filter fun pending => pending.frontier == ack with
  | some pending =>
    let t := { t with
      pending := none
      acknowledgedProjection := pending.projection
      acknowledgedFrontier := some pending.frontier
      supersededFrontier := none }
    match pending.purpose.route with
    | some route => (.routeInstalled, { t with residentRoute := some route })
    | none => (.accepted, t)
  | none =>
    if t.acknowledgedFrontier = some ack then (.duplicate, t) else (.rejected, t)

def matchesSupersededAcknowledgement (t : SessionTransport) (ack : InterestFrontier) : Bool :=
  t.supersededFrontier == some ack

/-- A frame put in flight. -/
def withPending (t : SessionTransport) (projection : InterestProjectionState)
    (message : ServerMessage) (now : Nat) (purpose : PendingFramePurpose) : SessionTransport :=
  { t with pending := message.frontier?.map fun frontier =>
      ⟨projection, frontier, now, purpose⟩ }

variable (host) in
/-- `stage_initial`, over the source of the session's first revision. -/
def stageInitial (t : SessionTransport) (source : ProjectionSource) (removals : RemovalReasons)
    (now : Nat) : Projected (ServerMessage × SessionTransport) := do
  rejectIf (t.pending.isSome ∨ t.acknowledgedFrontier.isSome)
    (.invalidSession "initial projection was requested after session state existed")
  let (message, candidate) ← projectInterestFrame host source t.acknowledgedProjection removals
  match message with
  | .interestBaseline _ =>
    let purpose := match t.initialRoute with
      | some route => PendingFramePurpose.initialRoute route
      | none => .ordinary
    pure (message, t.withPending candidate message now purpose)
  | _ => .error (.invalidSession "initial projection did not produce a complete baseline")

/-- The first thing `stage` does for a fresh baseline, whether or not it then succeeds: what is
    in flight is remembered as superseded. -/
def supersede (t : SessionTransport) : SessionTransport :=
  { t with supersededFrontier := t.pending.map (·.frontier) }

variable (host) in
/-- The cursor `stage` projects for. -/
def stagingCursor (t : SessionTransport) (freshBaseline : Bool) :
    Projected InterestProjectionState :=
  if freshBaseline then
    ((t.pending.map (·.projection)).getD t.acknowledgedProjection).freshBaseline host
  else .ok t.acknowledgedProjection

def projectionRoute (t : SessionTransport) : Option ResidentPlayerRoute :=
  (t.pending.bind fun pending => pending.purpose.route) <|> t.residentRoute <|> t.initialRoute

def stagedPurpose (t : SessionTransport) (freshBaseline : Bool) : PendingFramePurpose :=
  match t.acknowledgedFrontier, t.initialRoute with
  | none, some route => .initialRoute route
  | _, _ => if freshBaseline then .recovery else .ordinary

/-- What `stage` projects. -/
def project (t : SessionTransport) (state : AppState host) (freshBaseline : Bool) :
    Projected (ServerMessage × InterestProjectionState) := do
  let candidate ← t.stagingCursor host freshBaseline
  state.projectedInterestFrameAt candidate t.projectionRoute

/-- `stage`, with the transport it leaves behind when it fails. -/
def stage (t : SessionTransport) (state : AppState host) (freshBaseline : Bool) (now : Nat) :
    Projected ServerMessage × SessionTransport :=
  let t := if freshBaseline then t.supersede else t
  match t.project state freshBaseline with
  | .error e => (.error e, t)
  | .ok (message, candidate) =>
    (.ok message, t.withPending candidate message now (t.stagedPurpose freshBaseline))

/-- The guards of `stage_transfer`. -/
def validateTransferStage (t : SessionTransport) (handoff : CompletedPlayerHandoff) :
    Projected Unit := do
  rejectIf (t.pending.any fun pending =>
      match pending.purpose with
      | .destinationHandoff transferId _ => transferId == handoff.transferId
      | _ => false)
    (.invalidSession "cell handoff baseline is already pending")
  rejectIf (t.initialRouteIsAcknowledged = false ∨ t.acknowledgedFrontier = none)
    (.invalidSession "cell handoff requires an acknowledged source baseline")
  let sourceRoute ← demand t.residentRoute
    (.invalidSession "cell handoff requires an acknowledged resident route")
  rejectIf (sourceRoute.cellKey ≠ handoff.sourceCellKey ∨
      checkedAdd sourceRoute.placementGeneration 1 ≠ some handoff.placementGeneration)
    (.invalidSession "cell handoff does not exactly continue the session route")

/-- The route a completed handoff leads to. -/
def destinationRoute (handoff : CompletedPlayerHandoff) : ResidentPlayerRoute :=
  ⟨handoff.destinationCellKey, handoff.placementGeneration⟩

/-- What `stage_transfer` projects. -/
def projectTransfer (t : SessionTransport) (state : AppState host)
    (handoff : CompletedPlayerHandoff) : Projected (ServerMessage × InterestProjectionState) := do
  let candidate ← t.acknowledgedProjection.freshTransferBaseline host handoff.transferId
    handoff.destinationCellKey handoff.placementGeneration
  state.projectedInterestFrameAt candidate (some (destinationRoute handoff))

/-- `stage_transfer`. Every failure closes the session, so the transport it leaves behind is
    given for success alone. -/
def stageTransfer (t : SessionTransport) (state : AppState host)
    (handoff : CompletedPlayerHandoff) (now : Nat) :
    Projected (ServerMessage × SessionTransport) := do
  t.validateTransferStage handoff
  let (message, candidate) ← t.projectTransfer state handoff
  match message with
  | .interestBaseline _ =>
    pure (message, t.supersede.withPending candidate message now
      (.destinationHandoff handoff.transferId (destinationRoute handoff)))
  | _ =>
    .error (.invalidSession "cell handoff did not produce a complete destination baseline")

end SessionTransport

/-! ## The session -/

/-- What the client sends. -/
inductive ClientAnswer where
  | requestSnapshot
  | acknowledgeInterest (ack : InterestFrontier)
deriving DecidableEq, Repr

/-- How the session treats an acknowledgement. -/
inductive AckTreatment where
  | accepted
  | routeInstalled
  | duplicate
  | superseded
  | rejected
deriving DecidableEq, Repr

/-- A session and its client, with what is under way between them. -/
structure Session where
  state : AppState host
  transport : SessionTransport
  lastHandoffTransferId : String
  closed : Bool
  client : InterestVerifier
  toClient : List ServerMessage
  toServer : List ClientAnswer

namespace Session

variable {host}

/-- A message sent to the client. -/
def send (s : Session host) (message : ServerMessage) : Session host :=
  { s with toClient := s.toClient ++ [message] }

/-- `send_fatal_and_close`. -/
def fatal (s : Session host) (code message : String) : Session host :=
  { s.send (.fatal code message) with closed := true }

/-- A fresh baseline staged for the session: sent, or passed over while the route is stale, or
    the end of the session. -/
def stageFresh (s : Session host) (now : Nat) : Session host :=
  let staged := s.transport.stage s.state true now
  let s := { s with transport := staged.2 }
  match staged.1 with
  | .ok message => s.send message
  | .error _ =>
    if s.state.residentRouteIsStale s.transport.residentRoute then s
    else s.fatal "projection_unavailable" "authorized state projection is unavailable"

/-- `handle_client_message`, for a request. -/
def requestSnapshot (s : Session host) (now : Nat) : Session host :=
  if s.transport.recoveryIsPending then s
  else if s.state.residentRouteIsStale s.transport.residentRoute then s
  else
    let permitted := s.transport.permitRecovery now
    let s := { s with transport := permitted.2 }
    if permitted.1 = false then
      s.fatal "interest_recovery_rate_limited"
        "the client requested repeated interest recovery before convergence"
    else s.stageFresh now

/-- How an acknowledgement is treated. -/
def treatment (s : Session host) (ack : InterestFrontier) : AckTreatment :=
  match (s.transport.acknowledge ack).1 with
  | .accepted => .accepted
  | .routeInstalled => .routeInstalled
  | .duplicate => .duplicate
  | .rejected =>
    if s.transport.recoveryIsPending ∧ s.transport.matchesSupersededAcknowledgement ack then
      .superseded
    else .rejected

/-- `handle_client_message`, for an acknowledgement. -/
def acknowledgeInterest (s : Session host) (ack : InterestFrontier) (now : Nat) : Session host :=
  match s.treatment ack with
  | .accepted | .routeInstalled | .duplicate =>
    { s with transport := (s.transport.acknowledge ack).2 }
  | .superseded => s
  | .rejected =>
    let permitted := s.transport.permitRecovery now
    if s.transport.recoveryIsPending ∨ permitted.1 = false then
      s.fatal "interest_recovery_rate_limited"
        "the client repeated an invalid interest acknowledgement before convergence"
    else ({ s with transport := permitted.2 } : Session host).stageFresh now

/-- The tick of the replication interval; `update` says whether the world has something new for
    this session. -/
def tick (s : Session host) (update : Bool) (now : Nat) : Session host :=
  if s.transport.pendingTimedOut now then
    let permitted := s.transport.permitRecovery now
    if s.transport.recoveryIsPending ∨ permitted.1 = false then
      s.fatal "interest_ack_timeout"
        "the client did not acknowledge the recovery baseline in time"
    else ({ s with transport := permitted.2 } : Session host).stageFresh now
  else if s.transport.pending.isSome ∨ update = false then s
  else
    let staged := s.transport.stage s.state false now
    let s := { s with transport := staged.2 }
    match staged.1 with
    | .ok message => s.send message
    | .error _ =>
      if s.state.residentRouteIsStale s.transport.residentRoute then s
      else s.fatal "projection_unavailable" "authorized state projection is unavailable"

/-- The status of a handoff in one phase. -/
def handoffStatus (handoff : CompletedPlayerHandoff) (phase : HandoffPhase) : ServerMessage :=
  .handoff ⟨handoff.transferId, phase, handoff.destinationCellKey, handoff.placementGeneration⟩

/-- A completed handoff seen by the session: the three statuses, then the destination
    baseline. -/
def handoff (s : Session host) (handoff : CompletedPlayerHandoff) (now : Nat) : Session host :=
  if handoff.transferId = s.lastHandoffTransferId then s
  else
    match s.transport.stageTransfer s.state handoff now with
    | .error _ => s.fatal "handoff_route_discontinuity"
        "the completed handoff does not continue this acknowledged session; reconnect"
    | .ok (message, transport) =>
      { s with
        transport := transport
        lastHandoffTransferId := handoff.transferId
        toClient := s.toClient ++ [handoffStatus handoff .preparing,
          handoffStatus handoff .importing, handoffStatus handoff .verifyingDestination, message] }

end Session

/-- One turn: of the world, of the session's loop, or of its client. -/
inductive SessionMove where
  /-- A cell publishes a revision. -/
  | publish (key : CellKeyV1) (source : ProjectionSource)
  /-- The player's residence changes. -/
  | reside (route : Option ResidentPlayerRoute)
  | tick (update : Bool) (now : Nat)
  | handoff (handoff : CompletedPlayerHandoff) (now : Nat)
  /-- The loop takes the next thing the client sent. -/
  | receive (now : Nat)
  /-- The client asks for a fresh baseline. -/
  | request
  /-- The client takes the next message sent to it. -/
  | deliver

/-- What an honest client does with a message: it stages the bytes it received and commits what
    it staged. -/
def takeMessage (host : Projecting) (client : InterestVerifier) (message : ServerMessage) :
    Verdict CommitOutcome × InterestVerifier :=
  match client.stage host.wire (host.encode message) with
  | (.error e, client) => (.error e, client)
  | (.ok token, client) => client.commit token

namespace Session

variable {host}

/-- A session begins with its first baseline on the way, to a client that has accepted the
    welcome and the registry. -/
def start (state : AppState host) (sessionEpoch playerId completedTransferId : String)
    (client : InterestVerifier) (now : Nat) : Projected (Session host) := do
  let route ←
    if state.twoCell then some <$> demand state.resident (.unboundActor playerId) else pure none
  let source ← state.projectionRevisionForAt route
  let (message, transport) ←
    (SessionTransport.newAt host sessionEpoch playerId route now).stageInitial host source
      OrdMap.empty now
  pure {
    state := state
    transport := transport
    lastHandoffTransferId := completedTransferId
    closed := false
    client := client
    toClient := [message]
    toServer := [] }

/-- The loop takes the next thing the client sent. -/
def receive (s : Session host) (now : Nat) : Session host :=
  match s.toServer with
  | [] => s
  | .requestSnapshot :: rest => ({ s with toServer := rest } : Session host).requestSnapshot now
  | .acknowledgeInterest ack :: rest =>
    ({ s with toServer := rest } : Session host).acknowledgeInterest ack now

/-- The client takes the next message, and answers it if it is a frame. -/
def deliver (s : Session host) : Session host :=
  match s.toClient with
  | [] => s
  | message :: rest =>
    match takeMessage host s.client message with
    | (.error _, client) => { s with toClient := rest, client := client }
    | (.ok outcome, client) =>
      { s with
        toClient := rest
        client := client
        toServer := s.toServer ++ outcome.acknowledgement.toList.map .acknowledgeInterest }

/-- One move. A closed session takes no more turns. -/
def move (s : Session host) : SessionMove → Session host
  | .publish key source => { s with state := s.state.publish key source }
  | .reside route => { s with state := { s.state with resident := route } }
  | .tick update now => if s.closed then s else s.tick update now
  | .handoff h now => if s.closed then s else s.handoff h now
  | .receive now => if s.closed then s else s.receive now
  | .request => { s with toServer := s.toServer ++ [.requestSnapshot] }
  | .deliver => s.deliver

/-- The moves as a step that never fails. -/
def step (s : Session host) (m : SessionMove) : Except Empty (Session host) := .ok (s.move m)

end Session

end Verse.Interest
