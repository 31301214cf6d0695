import Verse.Interest.Admission

/-!
# Coalescing replication

A worker does not queue what it publishes. Its feed keeps the number of the latest structural
change and that of the latest motion after it, and each session a cursor, the number of the last
frame it sent; a session with nothing in flight asks at every tick whether the feed is ahead of
its cursor, and if so sends the world as it then is.

`Replicated` is one player's session beside the feed and the record of completed handoffs, which
the session looks at before anything else. All the players of a worker share the one feed. An
advance of a two-cell worker publishes the cell of one of them, the local player, and starts the
feed over when anyone has crossed from one cell to the other.

The record keeps the last frame sent, with the worlds it was projected from, and of each cell the
revision published last.
-/

namespace Verse.Interest

open Lib
open Directory (CellKeyV1)

/-! ## The feed and the cursor -/

inductive ReplicationKind where
  | structural
  | motion
deriving DecidableEq, Repr

inductive PendingReplication where
  | structural
  | motion
deriving DecidableEq, Repr

/-- The newest published event of either kind. -/
structure ReplicationFeed where
  (latestStructuralSequence latestMotionSequence : Option Nat)
deriving DecidableEq, Repr

structure ReplicationCursor where
  (eventSequence fullSnapshotSequence : Nat)
deriving DecidableEq, Repr

/-- `replication_event_sequence`; a whole snapshot and a motion state are never sent. -/
def ServerMessage.replicationEventSequence : ServerMessage → Option Nat
  | .interestBaseline baseline => some baseline.eventSequence
  | .interestDelta delta => some delta.eventSequence
  | _ => none

namespace ReplicationFeed

/-- `ReplicationFeed::default`. -/
def empty : ReplicationFeed := ⟨none, none⟩

/-- `publish`: whether anything changes, and the feed it leaves. -/
def publish (feed : ReplicationFeed) (kind : ReplicationKind) (sequence : Nat) :
    Bool × ReplicationFeed :=
  match kind with
  | .structural =>
    if feed.latestStructuralSequence.any (sequence ≤ ·) then (false, feed)
    else (true, {
      latestStructuralSequence := some sequence
      latestMotionSequence :=
        if feed.latestMotionSequence.any (· ≤ sequence) then none else feed.latestMotionSequence })
  | .motion =>
    if feed.latestStructuralSequence.any (sequence ≤ ·)
        || feed.latestMotionSequence.any (sequence ≤ ·) then (false, feed)
    else (true, { feed with latestMotionSequence := some sequence })

/-- `next_after`. -/
def nextAfter (feed : ReplicationFeed) (cursor : ReplicationCursor) : Option PendingReplication :=
  if feed.latestStructuralSequence.any (cursor.fullSnapshotSequence < ·) then some .structural
  else (feed.latestMotionSequence.filter (cursor.eventSequence < ·)).map fun _ => .motion

end ReplicationFeed

namespace ReplicationCursor

def afterInitialSnapshot (eventSequence : Nat) : ReplicationCursor := ⟨eventSequence, eventSequence⟩

/-- `record`. Both frames of a session are complete. -/
def record (cursor : ReplicationCursor) (message : ServerMessage) : ReplicationCursor :=
  match message.replicationEventSequence with
  | none => cursor
  | some sequence =>
    { eventSequence := max cursor.eventSequence sequence
      fullSnapshotSequence := max cursor.fullSnapshotSequence sequence }

end ReplicationCursor

/-! ## The worlds of a worker -/

variable {host : Projecting}

/-- A world changes by events alone, and each event has the next number. -/
def Advanced (old new : ProjectionSource) : Prop :=
  CanonicalSnapshot.Later old.canonical new.canonical
    ∧ old.canonical.eventSequence < new.canonical.eventSequence

instance (old new : ProjectionSource) : Decidable (Advanced old new) :=
  inferInstanceAs (Decidable (_ ∧ _))

namespace AppState

/-- The cell the player is in. -/
def currentCell (state : AppState host) : CellKeyV1 := state.cellAt state.resident

def current (state : AppState host) : ProjectionSource := state.cells state.currentCell

/-- A cell after some events, if there were any. -/
def revise (state : AppState host) (entry : CellKeyV1 × ProjectionSource) : AppState host :=
  if Advanced (state.cells entry.1) entry.2 then state.publish entry.1 entry.2 else state

def reviseAll (state : AppState host) (entries : List (CellKeyV1 × ProjectionSource)) :
    AppState host := entries.foldl revise state

end AppState

namespace Sent

/-- The cell a frame is of. -/
def cell (sent : Sent host) : CellKeyV1 := sent.state.currentCell

/-- The revision a frame is of. -/
def source (sent : Sent host) : ProjectionSource := sent.state.current

def sequence (sent : Sent host) : Nat := sent.source.canonical.eventSequence

/-- A frame is a projection of that revision. -/
def Projects (sent : Sent host) : Prop :=
  ∃ cursor next, projectInterestFrame host sent.source cursor OrdMap.empty = .ok (sent.message, next)

end Sent

/-! ## A session beside the feed -/

structure Replicated (host : Projecting) where
  session : Session host
  cursor : ReplicationCursor
  feed : ReplicationFeed
  /-- The player's entry among the completed handoffs. -/
  handoff : Option CompletedPlayerHandoff
  /-- The session has not looked at them since they last changed. -/
  unseen : Bool
  /-- The identifiers that no new transfer will have. -/
  transferIds : List String
  /-- The player is the local player of the worker. -/
  isLocal : Bool
  last : Sent host
  published : CellKeyV1 → ProjectionSource
  /-- The feed has started over since the last frame, for the crossing of another player than this
      one, who is not the local player. -/
  disturbed : Bool

/-- What happens to a session while its worlds are published. -/
inductive ReplicationMove where
  /-- An intent is carried out in a cell, whoever sent it. -/
  | act (kind : ReplicationKind) (key : CellKeyV1) (source : ProjectionSource)
  /-- The worker advances: cells change, the player may cross to another, and so may others. The
      local player, if this is another, is then in some cell. -/
  | advance (kind : ReplicationKind) (changed : List (CellKeyV1 × ProjectionSource))
      (crossing : Option CompletedPlayerHandoff) (others : Bool) (localCell : CellKeyV1)
  /-- The tick of the replication interval. The feed may be looked at in the middle of an advance,
      when it has just been reset. -/
  | tick (midway : Bool) (now : Nat)
  | takeHandoff (now : Nat)
  | receive (now : Nat)
  | request
  | deliver
  /-- The client sends an answer of its own making. -/
  | forge (answer : ClientAnswer)

/-- The frames that a turn sends. -/
def framesSent (before after : Session host) : List ServerMessage :=
  (after.toClient.drop before.toClient.length).filter fun message => message.frontier?.isSome

namespace Replicated

/-- A change of a cell, as a worker publishes it. -/
def publish (c : Replicated host) (kind : ReplicationKind) (key : CellKeyV1) : Replicated host :=
  let source := c.session.state.cells key
  { c with
    feed := (c.feed.publish kind source.canonical.eventSequence).2
    published := fun k => if k = key then source else c.published k }

/-- The player's crossing to another cell continues where the player is resident, in a transfer of
    its own. -/
def Crosses (c : Replicated host) (handoff : CompletedPlayerHandoff) : Prop :=
  c.session.state.twoCell = true ∧ handoff.transferId ∉ c.transferIds
    ∧ ∃ route, c.session.state.resident = some route ∧ route.cellKey = handoff.sourceCellKey
      ∧ handoff.placementGeneration = route.placementGeneration + 1

instance (c : Replicated host) (handoff : CompletedPlayerHandoff) : Decidable (c.Crosses handoff) :=
  inferInstanceAs (Decidable (_ ∧ _ ∧ ∃ route, _ = some route ∧ _ ∧ _))

/-- What a crossing changes. -/
def cross (c : Replicated host) (handoff : CompletedPlayerHandoff) : Replicated host :=
  { c with
    session := { c.session with state := { c.session.state with
      resident := some (SessionTransport.destinationRoute handoff) } }
    handoff := some handoff
    transferIds := handoff.transferId :: c.transferIds }

/-- After a handoff of anyone the feed starts over, and every session is to look. -/
def reset (c : Replicated host) : Replicated host := { c with feed := .empty, unseen := true }

def revised (c : Replicated host) (changed : List (CellKeyV1 × ProjectionSource)) :
    Replicated host :=
  { c with session := { c.session with state := c.session.state.reviseAll changed } }

/-- The player's is the only cell, or it is the local player's. -/
def Own (c : Replicated host) : Prop := c.session.state.twoCell = false ∨ c.isLocal = true

instance (c : Replicated host) : Decidable c.Own := inferInstanceAs (Decidable (_ ∨ _))

/-- What an advance publishes. -/
def publishLocal (c : Replicated host) (kind : ReplicationKind) (localCell : CellKeyV1) :
    Replicated host :=
  c.publish kind (if c.Own then c.session.state.currentCell else localCell)

/-- `AppState::execute_as_at`, as far as it publishes. -/
def act (c : Replicated host) (kind : ReplicationKind) (key : CellKeyV1)
    (source : ProjectionSource) : Replicated host :=
  if Advanced (c.session.state.cells key) source then
    (c.revised [(key, source)]).publish kind key
  else c

/-- `AppState::advance`, for one that has an impact: it is structural when anyone has crossed. -/
def advance (c : Replicated host) (kind : ReplicationKind)
    (changed : List (CellKeyV1 × ProjectionSource)) (crossing : Option CompletedPlayerHandoff)
    (others : Bool) (localCell : CellKeyV1) : Replicated host :=
  let c := c.revised changed
  match crossing with
  | some handoff =>
    if c.Crosses handoff then (c.cross handoff).reset.publishLocal .structural localCell
    else c.publishLocal kind localCell
  | none =>
    if others && c.session.state.twoCell then
      ({ c with disturbed := c.disturbed || !decide c.Own } : Replicated host).reset.publishLocal
        .structural localCell
    else c.publishLocal kind localCell

/-- A turn of the session, with the frame it sends recorded. -/
def turn (c : Replicated host) (session : Session host) : Replicated host :=
  let frames := framesSent c.session session
  { c with
    session
    cursor := frames.foldl .record c.cursor
    last := (frames.getLast?.map (⟨·, c.session.state⟩)).getD c.last
    disturbed := c.disturbed && frames.isEmpty }

/-- A completed handoff that the session looks at; if it takes it up, the cursor starts over with
    the destination baseline. -/
def takeUp (c : Replicated host) (handoff : CompletedPlayerHandoff) (now : Nat) : Replicated host :=
  let session := c.session.handoff handoff now
  match (framesSent c.session session).getLast?.bind ServerMessage.replicationEventSequence with
  | none => c.turn session
  | some sequence => { c.turn session with cursor := .afterInitialSnapshot sequence }

/-- The session looks at the completed handoffs, if they have changed. -/
def takeHandoff (c : Replicated host) (now : Nat) : Replicated host :=
  if c.session.closed || !c.unseen then c
  else
    match c.handoff with
    | none => { c with unseen := false }
    | some handoff => { c.takeUp handoff now with unseen := false }

def step (c : Replicated host) : ReplicationMove → Replicated host
  | .act kind key source => c.act kind key source
  | .advance kind changed crossing others localCell =>
    c.advance kind changed crossing others localCell
  | .tick midway now =>
    c.turn (c.session.move (.tick (!midway && (c.feed.nextAfter c.cursor).isSome) now))
  | .takeHandoff now => c.takeHandoff now
  | .receive now => c.turn (c.session.move (.receive now))
  | .request => { c with session := c.session.move .request }
  | .deliver => { c with session := c.session.move .deliver }
  | .forge answer =>
    { c with session := { c.session with toServer := c.session.toServer ++ [answer] } }

/-- A step as a request that is always accepted. -/
def next (c : Replicated host) (move : ReplicationMove) : Except Empty (Replicated host) :=
  .ok (c.step move)

/-- `initial_session_projection`'s `completed_transfer_id`. -/
def completedTransferId (state : AppState host) (handoff : Option CompletedPlayerHandoff) : String :=
  if state.twoCell then
    ((handoff.filter fun handoff =>
        state.resident == some (SessionTransport.destinationRoute handoff)).map
      CompletedPlayerHandoff.transferId).getD ""
  else ""

/-- A session begins: its first baseline is on the way. The feed is as others have left it, and the
    completed handoffs may have changed since the session subscribed to them. -/
def start (state : AppState host) (feed : ReplicationFeed) (handoff : Option CompletedPlayerHandoff)
    (unseen : Bool) (transferIds : List String) (isLocal : Bool) (sessionEpoch playerId : String)
    (client : InterestVerifier) (now : Nat) : Projected (Replicated host) := do
  let transferId := completedTransferId state handoff
  let session ← Session.start state sessionEpoch playerId transferId client now
  let message ← demand session.toClient.head? (.invalidSession "no initial projection")
  return {
    session
    cursor := .afterInitialSnapshot (message.replicationEventSequence.getD 0)
    feed
    handoff
    unseen
    transferIds := transferId :: handoff.toList.map CompletedPlayerHandoff.transferId ++ transferIds
    isLocal
    last := ⟨message, state⟩
    published := state.cells
    disturbed := false }

/-! ## What is lost or not -/

/-- A completed handoff of the player that the session has yet to take up. -/
def Waiting (c : Replicated host) : Prop :=
  c.unseen = true ∧ ∃ handoff, c.handoff = some handoff
    ∧ handoff.transferId ≠ c.session.lastHandoffTransferId

/-- The player's cell has published a change that the last frame does not contain. -/
def Missing (c : Replicated host) : Prop :=
  c.last.cell ≠ c.session.state.currentCell
    ∨ c.last.sequence < (c.published c.session.state.currentCell).canonical.eventSequence

/-- The session has nothing in flight. -/
def Idle (c : Replicated host) : Prop :=
  c.session.closed = false ∧ c.session.transport.pending = none

end Replicated

end Verse.Interest
