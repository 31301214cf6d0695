import Verse.Interest.Pictured
import Verse.Interest.Verified
import Verse.Lib.Lines
import Verse.Lib.Run

/-!
# Both ends of a session agree

The frames under way to the client take it from the view it has committed to the view of the
frame in flight, and the acknowledgements under way are the ones the server still has a use
for: that of the frame in flight, and before it at most one of a frame it superseded. This
holds of a new session and is kept by every turn that is `Clean`, so every frame is accepted
and no acknowledgement is refused.

Three turns are not clean. A fresh baseline staged while the first one is not acknowledged takes
the purpose of the first, and the acknowledgement it supersedes is then refused. A handoff
staged while a recovery is in flight continues the epoch before the recovery, and its baseline
does not complete the handoff the client has seen. A frame whose queued job names an inventory
that is not shown with it is refused by the client.
-/

namespace Verse.Interest

open Lib
open Directory (CellKeyV1)

variable {host : Projecting}

/-! ## What the two ends agree on -/

/-- A frame or a status, as against the end of the session. -/
def ServerMessage.ofSession : ServerMessage → Bool
  | .interestBaseline _ | .interestDelta _ | .handoff _ => true
  | _ => false

/-- What the client takes next is accepted, and an acknowledgement the server takes next is
    not refused. -/
structure Agrees (s : Session host) (m : SessionMove) : Prop where
  accepted : m = .deliver → ∀ message rest, s.toClient = message :: rest →
    message.ofSession = true →
    ∃ outcome client, takeMessage host s.client message = (.ok outcome, client)
  acknowledged : ∀ now, m = .receive now → s.closed = false → ∀ ack rest,
    s.toServer = .acknowledgeInterest ack :: rest → s.treatment ack ≠ .rejected

/-! ## What breaks it -/

/-- Whether a turn stages a fresh baseline because the frame in flight timed out or because
    the client asked for one. -/
def Session.stagesFresh (s : Session host) : SessionMove → Bool
  | .tick _ now => s.transport.pendingTimedOut now && !s.transport.recoveryIsPending &&
      (s.transport.permitRecovery now).1
  | .receive now => s.toServer.head? == some .requestSnapshot &&
      !s.transport.recoveryIsPending &&
      !s.state.residentRouteIsStale s.transport.residentRoute &&
      (s.transport.permitRecovery now).1
  | _ => false

/-- Bytes the client reads back as the message they were written for. -/
def Legible (host : Projecting) (config : VerifierConfig) (message : ServerMessage) : Prop :=
  host.wire.parseExact (host.encode message) config.limits = .ok message ∧
    ∃ json, host.wire.sanitized message = .ok json

/-- A frame the client reads back, that shows the inventories of every job it queues. -/
structure Sendable (host : Projecting) (config : VerifierConfig) (message : ServerMessage)
    (next : InterestProjectionState) : Prop where
  legible : Legible host config message
  endpoints : next.EndpointsShown

/-- A handoff that a session sees for the first time and that continues its route. -/
def Session.beginsHandoff (s : Session host) (handoff : CompletedPlayerHandoff) : Prop :=
  handoff.transferId ≠ s.lastHandoffTransferId ∧
    ∃ message next, s.transport.validateTransferStage handoff = .ok () ∧
      s.transport.projectTransfer s.state handoff = .ok (message, next)

/-- A fresh baseline would not take the place of the session's first one. -/
def Session.Settled (s : Session host) : Prop :=
  (∃ frame, s.transport.project s.state true = .ok frame) →
    ∀ p, s.transport.pending = some p → ∀ route, p.purpose ≠ .initialRoute route

/-- A turn that keeps the two ends in agreement. -/
structure Clean (s : Session host) (m : SessionMove) : Prop where
  /-- Every world hosted has content the client can present. -/
  worlds : ∀ welcome binding, s.client.committed.welcome = some welcome →
    s.client.committed.registry = some binding → ∀ key,
      Presentable s.client.config.limits welcome binding (s.state.cells key)
  /-- Every frame the worlds are projected to for this session is within what the client reads,
      and shows the inventories its queued jobs name. -/
  sendable : ∀ fresh message next, s.transport.project s.state fresh = .ok (message, next) →
    Sendable host s.client.config message next
  /-- No fresh baseline is staged while the session's first one is not acknowledged. -/
  settled : s.closed = false → s.stagesFresh m = true → s.Settled
  /-- A handoff begins when no recovery and no other handoff is in flight, and its frames are of
      the same kind. -/
  handed : ∀ handoff now, m = .handoff handoff now → s.closed = false →
    s.beginsHandoff handoff →
    (∀ p, s.transport.pending = some p → p.purpose.isRecovery = false) ∧
    (∀ phase, Legible host s.client.config (Session.handoffStatus handoff phase)) ∧
    ∀ message next, s.transport.projectTransfer s.state handoff = .ok (message, next) →
      Sendable host s.client.config message next

/-! ## Taking a message -/

variable {config : VerifierConfig} {welcome : WelcomeBinding} {binding : ValidatedRegistry}
  {client : InterestVerifier} {c c' c'' : CommittedState} {kind : StageKind}
  {message : ServerMessage}

/-- The acknowledgement that answers a transition. -/
def answerOf (kind : StageKind) (next : CommittedState) : Option InterestFrontier :=
  match kind with
  | .baseline | .delta => next.view.map (·.frontier)
  | _ => none

/-- Whatever the message, nothing is left pending, and what is committed is what was or the
    outcome of one transition. -/
theorem takeMessage_cases (host : Projecting) (message : ServerMessage)
    (hnone : client.pending = none) :
    (takeMessage host client message).2.pending = none ∧
      (takeMessage host client message).2.config = client.config ∧
      ((takeMessage host client message).2.committed = client.committed ∨
        ∃ read kind, transition host.wire client.config client.committed read =
          .ok (kind, (takeMessage host client message).2.committed)) := by
  rw [takeMessage]
  rcases stage_cases host.wire client (host.encode message) with
    ⟨e, he⟩ | ⟨e, hsome, -⟩ | ⟨p, v, ⟨rfl, -⟩ | ⟨-, hsome⟩, -, htransition, -, he⟩
  · rw [he]
    exact ⟨hnone, rfl, .inl rfl⟩
  · rw [hnone] at hsome
    cases hsome
  · rw [he]
    have hcommit : ({ v with pending := some p, nextSequence := nextCounter v.nextSequence } :
        InterestVerifier).commit p.token = _ := commit_of_pending rfl rfl
    simp only [hcommit]
    exact ⟨rfl, rfl, .inr ⟨p.message, p.kind, htransition⟩⟩
  · rw [hnone] at hsome
    cases hsome

theorem takeMessage_ok {next} (hnone : client.pending = none)
    (hlegible : Legible host client.config message)
    (h : transition host.wire client.config client.committed message = .ok (kind, next)) :
    ∃ outcome, (takeMessage host client message).1 = .ok outcome ∧
      outcome.acknowledgement = answerOf kind next ∧
      (takeMessage host client message).2.committed = next := by
  obtain ⟨hparse, json, hjson⟩ := hlegible
  have hstage : client.stage host.wire (host.encode message) =
      (.ok ⟨client.generation, client.nextSequence⟩, { client with
        nextSequence := nextCounter client.nextSequence
        pending := some ⟨⟨client.generation, client.nextSequence⟩, kind, next, message, json⟩ }) := by
    simp only [InterestVerifier.stage, hparse, hnone, Option.isSome_none, Bool.false_eq_true,
      false_and, if_false, InterestVerifier.stageMessage, hjson, h]
    rfl
  rw [takeMessage, hstage]
  have hcommit : ({ client with
      nextSequence := nextCounter client.nextSequence
      pending := some ⟨⟨client.generation, client.nextSequence⟩, kind, next, message, json⟩ } :
        InterestVerifier).commit ⟨client.generation, client.nextSequence⟩ = _ :=
    commit_of_pending rfl rfl
  simp only [hcommit]
  exact ⟨_, rfl, rfl, trivial⟩

/-! ## Frames under way -/

/-- The messages under way take the client from one committed state to another, and it answers
    them with these acknowledgements. -/
inductive Follows (host : Projecting) (config : VerifierConfig) :
    CommittedState → List ServerMessage → List InterestFrontier → CommittedState → Prop
  | done (c : CommittedState) : Follows host config c [] [] c
  | took {c c' c'' : CommittedState} {message : ServerMessage} {kind : StageKind}
      {rest : List ServerMessage} {acks : List InterestFrontier} :
      Legible host config message → transition host.wire config c message = .ok (kind, c') →
      Follows host config c' rest acks c'' →
      Follows host config c (message :: rest) ((answerOf kind c').toList ++ acks) c''

theorem Follows.send {frames acks} (h : Follows host config c frames acks c')
    (hlegible : Legible host config message)
    (ht : transition host.wire config c' message = .ok (kind, c'')) :
    Follows host config c (frames ++ [message]) (acks ++ (answerOf kind c'').toList) c'' := by
  induction h with
  | done c => simpa using Follows.took hlegible ht (.done c'')
  | took hfirst hstep _ ih =>
    rw [List.cons_append, List.append_assoc]
    exact .took hfirst hstep (ih ht)

/-! ## Cursors of one session -/

variable {player sessionEpoch : String} {cursor candidate : InterestProjectionState}

theorem baselineIdOf_injective {limits} (hshare : Sharing host limits) {m n : Nat}
    (h : baselineIdOf host sessionEpoch m = baselineIdOf host sessionEpoch n) :
    m = n := by
  have htext := congrArg String.toList (hshare.baselines h)
  simp only [String.toList_append] at htext
  exact toString_nat_injective (String.toList_inj.mp (List.append_cancel_left htext))

theorem kept_boundPlayer {limits} :
    Kept host limits binding player sessionEpoch (.boundPlayer host sessionEpoch player) where
  coherent := ⟨fun _ _ => rfl, fun _ => rfl, fun _ _ hmember => (by cases hmember)⟩
  valid := fun _ _ hpayload => (by cases hpayload)
  room := Nat.zero_le _
  named := rfl
  observer := rfl
  session := rfl

theorem Kept.freshBaseline {limits} (h : Kept host limits binding player sessionEpoch cursor)
    (hfresh : cursor.freshBaseline host = .ok candidate) :
    Kept host limits binding player sessionEpoch candidate ∧ candidate.viewHash = none ∧
      candidate.interestEpoch = cursor.interestEpoch + 1 ∧ candidate.transferLink = none ∧
      cursor.interestEpoch + 1 ≤ u64Max := by
  simp only [InterestProjectionState.freshBaseline, bind_eq_ok, demand_eq_ok, checkedAdd_eq_some,
    pure_eq_ok] at hfresh
  obtain ⟨epoch, ⟨hle, rfl⟩, rfl⟩ := hfresh
  refine ⟨⟨⟨fun _ _ => rfl, fun _ => rfl, fun _ _ hmember => (by cases hmember)⟩,
    fun _ _ hpayload => (by cases hpayload), Nat.zero_le _, ?_, h.observer, h.session⟩, rfl, rfl,
    rfl, hle⟩
  rw [← h.session]

theorem Kept.freshTransferBaseline {limits} {transferId : String} {key : CellKeyV1}
    {generation : Nat} (h : Kept host limits binding player sessionEpoch cursor)
    (hfresh : cursor.freshTransferBaseline host transferId key generation = .ok candidate) :
    Kept host limits binding player sessionEpoch candidate ∧ candidate.viewHash = none ∧
      candidate.interestEpoch = cursor.interestEpoch + 1 ∧
      candidate.transferLink = some ⟨transferId, key, generation⟩ ∧
      cursor.interestEpoch + 1 ≤ u64Max := by
  simp only [InterestProjectionState.freshTransferBaseline, bind_eq_ok, pure_eq_ok] at hfresh
  obtain ⟨-, -, -, -, -, -, fresh, hbaseline, rfl⟩ := hfresh
  obtain ⟨hkept, hblank, hepoch, -, hle⟩ := h.freshBaseline hbaseline
  exact ⟨⟨⟨hkept.coherent.blank, hkept.coherent.same, hkept.coherent.revised⟩, hkept.valid,
    hkept.room, hkept.named, hkept.observer, hkept.session⟩, hblank, hepoch, rfl, hle⟩

/-! ## What each end stands for -/

variable {source : ProjectionSource}

namespace AppState

/-- The cell a route leads to. -/
def cellAt (state : AppState host) (route : Option ResidentPlayerRoute) : CellKeyV1 :=
  if state.twoCell = false then state.home
  else (route.map (·.cellKey)).getD state.home

theorem cells_of_revision {state : AppState host} {route}
    (h : state.projectionRevisionForAt route = .ok source) :
    source = state.cells (state.cellAt route) := by
  simp only [projectionRevisionForAt, cellAt] at h ⊢
  split at h
  case isTrue htwo =>
    rw [if_pos htwo]
    exact (Except.ok.inj h).symm
  case isFalse htwo =>
    simp only [bind_eq_ok, demand_eq_ok, pure_eq_ok] at h
    obtain ⟨r, rfl, -, -, rfl⟩ := h
    rw [if_neg htwo]
    rfl

end AppState

namespace SessionTransport

/-- The cursor of the last frame sent. -/
def latest (t : SessionTransport) : InterestProjectionState :=
  (t.pending.map (·.projection)).getD t.acknowledgedProjection

/-- The acknowledgements a transport still has a use for, in the order they arrive. -/
def Awaits (t : SessionTransport) (acks : List InterestFrontier) : Prop :=
  match t.pending with
  | none => acks = []
  | some p => acks = [p.frontier] ∨ p.purpose.isRecovery = true ∧
      ∃ superseded, t.supersededFrontier = some superseded ∧ superseded ≠ p.frontier ∧
        acks = [superseded, p.frontier]

/-- What the fields of a transport have to do with each other. -/
structure Sound (t : SessionTransport) : Prop where
  started : t.pending = none → t.acknowledgedFrontier ≠ none
  first : t.acknowledgedFrontier = none → ∀ p, t.pending = some p → ∀ route,
    t.initialRoute = some route → p.purpose = .initialRoute route
  firstOnly : ∀ p route, t.pending = some p → p.purpose = .initialRoute route →
    t.acknowledgedFrontier = none
  ordinary : ∀ p, t.pending = some p → p.purpose = .ordinary → t.acknowledgedFrontier ≠ none →
    p.projection.interestEpoch = t.acknowledgedProjection.interestEpoch

/-- A frame in flight is sound if its purpose and its epoch fit what was acknowledged. -/
theorem Sound.inFlight {t : SessionTransport} {p : PendingInterestFrame}
    (hfirst : t.acknowledgedFrontier = none → ∀ route, t.initialRoute = some route →
      p.purpose = .initialRoute route)
    (hinitial : ∀ route, p.purpose = .initialRoute route → t.acknowledgedFrontier = none)
    (hordinary : p.purpose = .ordinary → t.acknowledgedFrontier ≠ none →
      p.projection.interestEpoch = t.acknowledgedProjection.interestEpoch) :
    ({ t with pending := some p } : SessionTransport).Sound := by
  have hsame : ∀ q, ({ t with pending := some p } : SessionTransport).pending = some q → p = q :=
    fun q hq => Option.some.inj hq
  refine ⟨fun hp => (by cases hp), fun hack q hq => ?_, fun q route hq => ?_, fun q hq => ?_⟩
  · exact hsame q hq ▸ hfirst hack
  · exact hsame q hq ▸ hinitial route
  · exact hsame q hq ▸ hordinary

theorem permitRecovery_same (t : SessionTransport) (now : Nat) :
    ∃ started count, (t.permitRecovery now).2 =
      { t with recoveryWindowStartedAt := started, recoveriesInWindow := count } := by
  simp only [SessionTransport.permitRecovery]
  split <;> split <;> exact ⟨_, _, rfl⟩

end SessionTransport

/-- The server and a client in some committed state stand for the same view. -/
structure Level (host : Projecting) (limits : ResourceLimits) (welcome : WelcomeBinding)
    (binding : ValidatedRegistry) (player sessionEpoch : String) (state : AppState host)
    (t : SessionTransport) (acks : List InterestFrontier) (c : CommittedState) : Prop where
  welcome : c.welcome = some welcome
  registry : c.registry = some binding
  handoff : c.handoff = none
  view : ∃ view, c.view = some view ∧ Shows t.latest view ∧
    ShownOf (state.cells (state.cellAt t.projectionRoute)).canonical view ∧
    ∀ p, t.pending = some p → p.frontier = view.frontier
  awaits : t.Awaits acks
  latest : Kept host limits binding player sessionEpoch t.latest
  acknowledged : Kept host limits binding player sessionEpoch t.acknowledgedProjection
  sound : t.Sound
  routed : t.projectionRoute.isSome → state.twoCell = true

variable {now : Nat}

namespace Level

variable {limits : ResourceLimits} {state : AppState host} {t : SessionTransport}
  {acks : List InterestFrontier} {ack : InterestFrontier}

theorem acknowledge_pending {p : PendingInterestFrame}
    (h : Level host limits welcome binding player sessionEpoch state t [p.frontier] c)
    (hp : t.pending = some p) :
    (t.acknowledge p.frontier).1 ≠ .rejected ∧
      Level host limits welcome binding player sessionEpoch state (t.acknowledge p.frontier).2 []
        c := by
  have hfilter : (t.pending.filter fun pending => pending.frontier == p.frontier) = some p := by
    rw [hp, Option.filter_some, if_pos (beq_self_eq_true _)]
  have hlatest : t.latest = p.projection := by rw [SessionTransport.latest, hp]; rfl
  obtain ⟨view, hview, hshows, hof, hfrontier⟩ := h.view
  have hroute : t.projectionRoute = (p.purpose.route <|> t.residentRoute <|> t.initialRoute) := by
    rw [SessionTransport.projectionRoute, hp]
    rfl
  have hkept := h.latest
  have hrouted := h.routed
  rw [hlatest] at hshows hkept
  rw [hroute] at hof hrouted
  simp only [SessionTransport.acknowledge, hfilter]
  cases hpurpose : p.purpose.route with
  | some route | none =>
    rw [hpurpose] at hof hrouted
    refine ⟨by simp, h.welcome, h.registry, h.handoff,
      ⟨view, hview, hshows, hof, fun q hq => (by cases hq)⟩, rfl, hkept, hkept, ?_, hrouted⟩
    exact ⟨fun _ => Option.some_ne_none _, fun hnone => (by cases hnone),
      fun q _ hq => (by cases hq), fun q hq => (by cases hq)⟩

/-- The next acknowledgement is accepted, or known, or that of the superseded frame. -/
theorem acknowledge
    (h : Level host limits welcome binding player sessionEpoch state t (ack :: acks) c) :
    ((t.acknowledge ack).1 ≠ .rejected ∧
      Level host limits welcome binding player sessionEpoch state (t.acknowledge ack).2 acks c) ∨
    ((t.acknowledge ack).1 = .rejected ∧ t.recoveryIsPending = true ∧
      t.matchesSupersededAcknowledgement ack = true ∧
      Level host limits welcome binding player sessionEpoch state t acks c) := by
  have hawaits := h.awaits
  cases hp : t.pending with
  | none =>
    rw [SessionTransport.Awaits, hp] at hawaits
    cases hawaits
  | some p =>
    simp only [SessionTransport.Awaits, hp] at hawaits
    rcases hawaits with hone | ⟨hrecovery, superseded, hsuperseded, hne, htwo⟩
    · obtain ⟨rfl, rfl⟩ := List.cons.inj hone
      exact .inl (h.acknowledge_pending hp)
    · obtain ⟨rfl, rfl⟩ := List.cons.inj htwo
      have hlevel : Level host limits welcome binding player sessionEpoch state t
          [p.frontier] c :=
        { h with awaits := by simp only [SessionTransport.Awaits, hp]; exact .inl trivial }
      have hfilter : (t.pending.filter fun pending => pending.frontier == ack) = none := by
        rw [hp, Option.filter_some, if_neg]
        simpa using fun heq => hne heq.symm
      simp only [SessionTransport.acknowledge, hfilter]
      by_cases hknown : t.acknowledgedFrontier = some ack
      · rw [if_pos hknown]
        exact .inl ⟨by simp, hlevel⟩
      · rw [if_neg hknown]
        refine .inr ⟨rfl, ?_, ?_, hlevel⟩
        · rw [SessionTransport.recoveryIsPending, hp]
          exact hrecovery
        · rw [SessionTransport.matchesSupersededAcknowledgement, hsuperseded]
          exact beq_self_eq_true _

variable {next : InterestProjectionState}

theorem staged {config} {view : ViewState} {purpose : PendingFramePurpose}
    (hframed : Framed host config welcome binding player sessionEpoch
      (state.cells (state.cellAt (purpose.route <|> t.residentRoute <|> t.initialRoute))) cursor
      message next view) (hwelcome : c'.welcome = some welcome)
    (hregistry : c'.registry = some binding) (hhandoff : c'.handoff = none)
    (hview : c'.view = some view) (hawaits : acks = [] ∨ purpose.isRecovery = true ∧ ∃ superseded,
      t.supersededFrontier = some superseded ∧ superseded ≠ view.frontier ∧ acks = [superseded])
    (hacknowledged : Kept host config.limits binding player sessionEpoch t.acknowledgedProjection)
    (hsound : ({ t with pending := some ⟨next, view.frontier, now, purpose⟩ } :
      SessionTransport).Sound)
    (hrouted : (purpose.route <|> t.residentRoute <|> t.initialRoute).isSome →
      state.twoCell = true) :
    Level host config.limits welcome binding player sessionEpoch state
      (t.withPending next message now purpose) (acks ++ [view.frontier]) c' := by
  have heq : t.withPending next message now purpose =
      { t with pending := some ⟨next, view.frontier, now, purpose⟩ } := by
    rw [SessionTransport.withPending, hframed.frontier]
    rfl
  rw [heq]
  refine ⟨hwelcome, hregistry, hhandoff, ⟨view, hview, hframed.shows, ?_, ?_⟩, ?_, hframed.kept,
    hacknowledged, hsound, hrouted⟩
  · exact ⟨hframed.shownOf.1, hframed.shownOf.2.1.le, hframed.shownOf.2.2.le⟩
  · intro p hp
    rw [← Option.some.inj hp]
  · rcases hawaits with rfl | ⟨hrecovery, superseded, hsuperseded, hne, rfl⟩
    · exact .inl rfl
    · exact .inr ⟨hrecovery, superseded, hsuperseded, hne, rfl⟩

/-- A frame of a later epoch leaves another frontier. -/
theorem frontier_ne_of_epoch {current view : ViewState}
    (h : view.interestEpoch = current.interestEpoch + 1) : current.frontier ≠ view.frontier := by
  intro heq
  have hepoch := congrArg InterestFrontier.interestEpoch heq
  simp only [ViewState.frontier, h] at hepoch
  omega

section Idle

variable (h : Level host limits welcome binding player sessionEpoch state t acks c)
  (hordinary : ∀ p, t.pending = some p → p.purpose = .ordinary)

include hordinary

omit h in
theorem projectionRoute_of_ordinary :
    t.projectionRoute = (t.residentRoute <|> t.initialRoute) := by
  rw [SessionTransport.projectionRoute]
  cases hp : t.pending with
  | none => rfl
  | some p =>
    simp only [Option.bind_some, hordinary p hp, PendingFramePurpose.route]
    rfl

include h in
/-- With nothing but an ordinary frame in flight, at most its acknowledgement is awaited, and the
    frame that takes its place remembers it. -/
theorem awaits_superseded {view : ViewState} {purpose : PendingFramePurpose}
    (hpurpose : purpose.isRecovery = true)
    (hmoved : ∀ p, t.pending = some p → p.frontier ≠ view.frontier) :
    acks = [] ∨ purpose.isRecovery = true ∧ ∃ superseded,
      t.supersede.supersededFrontier = some superseded ∧ superseded ≠ view.frontier ∧
        acks = [superseded] := by
  have hawaits := h.awaits
  cases hp : t.pending with
  | none => exact .inl (by rwa [SessionTransport.Awaits, hp] at hawaits)
  | some p =>
    simp only [SessionTransport.Awaits, hp, hordinary p hp, PendingFramePurpose.isRecovery,
      Bool.false_eq_true, false_and, or_false] at hawaits
    refine .inr ⟨hpurpose, p.frontier, ?_, hmoved p hp, hawaits⟩
    rw [SessionTransport.supersede, hp]
    rfl

end Idle

section Handing

variable {config : VerifierConfig} {handoff : CompletedPlayerHandoff} {current view : ViewState}
  {baseline : ProjectedWorldSnapshot}

/-- A client that has bound a handoff, in one of its phases. -/
def handing (welcome : WelcomeBinding) (binding : ValidatedRegistry)
    (handoff : CompletedPlayerHandoff) (current : ViewState) (phase : HandoffPhase) :
    CommittedState :=
  ⟨some welcome, some binding, none, some ⟨⟨handoff.transferId, phase,
    handoff.destinationCellKey, handoff.placementGeneration⟩, current.sessionEpoch,
      current.interestEpoch⟩⟩

theorem validateHandoffMaterial_of_baseline
    (haccepted : validateBaseline host.wire.hashing config welcome binding baseline = .ok view)
    (hlink : view.transferLink = some ⟨handoff.transferId, handoff.destinationCellKey,
      handoff.placementGeneration⟩) (phase : HandoffPhase) :
    validateHandoffMaterial ⟨handoff.transferId, phase, handoff.destinationCellKey,
      handoff.placementGeneration⟩ binding = .ok () := by
  obtain ⟨hchecks, -, -, rfl⟩ := validateBaseline_eq_ok.mp haccepted
  have hvalid := hchecks.link
  have hlink' : baseline.interest.transferLink = some ⟨handoff.transferId,
    handoff.destinationCellKey, handoff.placementGeneration⟩ := hlink
  rw [hlink'] at hvalid
  simp only [validateTransferLink, bind_eq_ok, rejectIf_eq_ok, not_or] at hvalid
  obtain ⟨⟨⟩, ⟨-, hid, hgeneration, hschema⟩, ⟨⟩, haddress, -⟩ := hvalid
  simp only [validateHandoffMaterial, bind_eq_ok, rejectIf_eq_ok, not_or]
  exact ⟨(), ⟨hid, hgeneration, hschema⟩, validateAddress_label haddress⟩

/-- The first status of a handoff binds it. -/
theorem transition_preparing
    (h : Level host config.limits welcome binding player sessionEpoch state t acks c)
    (hrole : welcome.role = .player player) (hcurrent : c.view = some current)
    (hmaterial : validateHandoffMaterial ⟨handoff.transferId, .preparing,
      handoff.destinationCellKey, handoff.placementGeneration⟩ binding = .ok ())
    (hcrosses : host.wire.hashing.cellIdForKey handoff.destinationCellKey ≠ current.cellId) :
    transition host.wire config c (Session.handoffStatus handoff .preparing) =
      .ok (.handoff, handing welcome binding handoff current .preparing) := by
  simp only [transition, stageHandoff, Session.handoffStatus, h.welcome, h.registry, h.handoff,
    hcurrent, hrole, demand_some, validateInitialHandoff, hmaterial, bind_eq_ok, pure_eq_ok,
    rejectIf_eq_ok, Except.ok.injEq, exists_eq_left', Prod.mk.injEq]
  exact ⟨_, ⟨(), by simp, (), ⟨(), by simp, (), trivial, hcrosses⟩, rfl⟩, trivial, rfl⟩

/-- Every later status moves it to its next phase. -/
theorem transition_handing (hrole : welcome.role = .player player) {phase later : HandoffPhase}
    (hlater : phase.continues later = true) :
    transition host.wire config (handing welcome binding handoff current phase)
      (Session.handoffStatus handoff later) =
        .ok (.handoff, handing welcome binding handoff current later) := by
  simp only [transition, stageHandoff, Session.handoffStatus, handing, hrole, demand_some,
    validateHandoffProgress, hlater, bind_eq_ok, pure_eq_ok, rejectIf_eq_ok, Except.ok.injEq,
    exists_eq_left', Prod.mk.injEq]
  exact ⟨_, ⟨(), by simp, (), by simp, rfl⟩, trivial, rfl⟩

/-- The destination baseline completes it. -/
theorem transition_destination
    (haccepted : validateBaseline host.wire.hashing config welcome binding baseline = .ok view)
    (hlink : view.transferLink = some ⟨handoff.transferId, handoff.destinationCellKey,
      handoff.placementGeneration⟩)
    (hsession : view.sessionEpoch = current.sessionEpoch)
    (hepoch : view.interestEpoch = current.interestEpoch + 1)
    (hle : current.interestEpoch + 1 ≤ u64Max) :
    transition host.wire config (handing welcome binding handoff current .verifyingDestination)
      (.interestBaseline baseline) =
        .ok (.baseline, ⟨some welcome, some binding, some view, none⟩) := by
  have hdestination : validateDestinationBaseline ⟨⟨handoff.transferId, .verifyingDestination,
      handoff.destinationCellKey, handoff.placementGeneration⟩, current.sessionEpoch,
        current.interestEpoch⟩ view = .ok () :=
    validateDestinationBaseline_eq_ok.mpr ⟨_, hlink, hle, rfl, rfl, rfl, rfl, hsession, hepoch⟩
  simp only [transition, stageBaseline, handing, demand_some, haccepted, hdestination, bind_eq_ok,
    pure_eq_ok, Except.ok.injEq, exists_eq_left', Prod.mk.injEq]
  exact ⟨_, ⟨(), trivial, rfl⟩, trivial, rfl⟩

end Handing

/-- What is neither a recovery nor the first baseline is an ordinary frame. -/
theorem ordinary_of_idle
    (hidle : ∀ p, t.pending = some p → p.purpose.isRecovery = false)
    (hsettled : ∀ p, t.pending = some p → ∀ route, p.purpose ≠ .initialRoute route) :
    ∀ p, t.pending = some p → p.purpose = .ordinary := by
  intro p hp
  have hrecovery := hidle p hp
  cases hpurpose : p.purpose with
  | ordinary => rfl
  | recovery | destinationHandoff =>
    rw [hpurpose] at hrecovery
    cases hrecovery
  | initialRoute route => exact absurd hpurpose (hsettled p hp route)

section Framed

variable {config : VerifierConfig} (hshare : Sharing host config.limits)
  (hrole : welcome.role = .player player)
  (hworlds : ∀ key, Presentable config.limits welcome binding (state.cells key))

include hshare hrole hworlds

/-- What a projection from a level state is made of. -/
theorem framed {route} (hcursor : Kept host config.limits binding player sessionEpoch cursor)
    (h : state.projectedInterestFrameAt cursor route = .ok (message, next))
    (hnext : next.EndpointsShown) :
    ∃ view, Framed host config welcome binding player sessionEpoch
      (state.cells (state.cellAt route)) cursor message next view := by
  simp only [AppState.projectedInterestFrameAt, bind_eq_ok] at h
  obtain ⟨source, hsource, hframe⟩ := h
  obtain rfl := AppState.cells_of_revision hsource
  exact framed_of_project hshare (hworlds _) hcursor hrole hframe hnext

/-- A delta takes the view both ends stand for to the next one. -/
theorem delta (h : Level host config.limits welcome binding player sessionEpoch state t acks c)
    (hnone : t.pending = none) (hproject : t.project state false = .ok (message, next))
    (hnext : next.EndpointsShown) :
    ∃ kind c', transition host.wire config c message = .ok (kind, c') ∧
      Level host config.limits welcome binding player sessionEpoch state
        (t.withPending next message now (t.stagedPurpose false))
        (acks ++ (answerOf kind c').toList) c' := by
  have hstarted := h.sound.started hnone
  have hlatest : t.latest = t.acknowledgedProjection := by
    rw [SessionTransport.latest, hnone]
    rfl
  have hroute := projectionRoute_of_ordinary (t := t) fun p hp => (by rw [hnone] at hp; cases hp)
  have hpurpose : t.stagedPurpose false = .ordinary := by
    rw [SessionTransport.stagedPurpose]
    split
    · exact absurd ‹_› hstarted
    · rfl
  have hawaits : acks = [] := by
    have := h.awaits
    rwa [SessionTransport.Awaits, hnone] at this
  have hrouted := h.routed
  obtain ⟨current, hcurrent, hshows, hof, -⟩ := h.view
  simp only [SessionTransport.project, SessionTransport.stagingCursor, Bool.false_eq_true, if_false,
    bind_eq_ok, Except.ok.injEq, exists_eq_left'] at hproject
  obtain ⟨view, hframed⟩ := framed hshare hrole hworlds h.acknowledged hproject hnext
  rw [hlatest] at hshows
  obtain ⟨delta, rfl, haccepted⟩ := hframed.continues current hshows hof
  rw [hroute] at hframed hrouted
  refine ⟨.delta, { c with view := some view }, ?_, ?_⟩
  · simp only [transition, stageDelta, h.welcome, h.registry, hcurrent, demand_some, haccepted,
      bind_eq_ok, pure_eq_ok, Except.ok.injEq, exists_eq_left']
  · rw [hpurpose]
    refine staged hframed h.welcome h.registry h.handoff rfl (.inl hawaits) h.acknowledged ?_
      hrouted
    exact .inFlight (fun hack => absurd hack hstarted) (fun _ hinitial => (by cases hinitial))
      fun _ _ => hframed.epoch

omit hrole hworlds in
/-- A later epoch of the same session, over a world no earlier. -/
theorem validateRecoveryBaseline_of_shows {latest next} {current view : ViewState}
    (hlatest : Kept host config.limits binding player sessionEpoch latest)
    (hshows : Shows latest current) (hof : ShownOf source.canonical current)
    (hframed : Framed host config welcome binding player sessionEpoch source cursor message next
      view) (hepoch : cursor.interestEpoch = latest.interestEpoch + 1) :
    validateRecoveryBaseline current view = .ok () := by
  have hviewEpoch : view.interestEpoch = current.interestEpoch + 1 := by
    rw [hframed.shows.epoch, hframed.epoch, hepoch, hshows.epoch]
  simp only [validateRecoveryBaseline, rejectIf_eq_ok, not_not]
  refine ⟨?_, ?_, ?_, ?_, ?_, ?_⟩
  · rw [hframed.shows.session, hframed.kept.session, hshows.session, hlatest.session]
  · rw [hframed.shows.observer, hshows.observer]
  · omega
  · rw [hframed.shows.baseline, hframed.kept.named, hshows.baseline, hlatest.named]
    intro hsame
    have hepochs := baselineIdOf_injective hshare hsame
    rw [hframed.epoch, hepoch] at hepochs
    omega
  · rw [hframed.shownOf.2.1]
    exact hof.event
  · rw [hframed.shownOf.2.2]
    exact hof.tick

/-- A fresh baseline recovers the view both ends stand for. -/
theorem fresh (h : Level host config.limits welcome binding player sessionEpoch state t acks c)
    (hidle : t.recoveryIsPending = false)
    (hsettled : ∀ p, t.pending = some p → ∀ route, p.purpose ≠ .initialRoute route)
    (hproject : t.project state true = .ok (message, next)) (hnext : next.EndpointsShown) :
    ∃ kind c', transition host.wire config c message = .ok (kind, c') ∧
      Level host config.limits welcome binding player sessionEpoch state
        (t.supersede.withPending next message now (t.supersede.stagedPurpose true))
        (acks ++ (answerOf kind c').toList) c' := by
  rw [SessionTransport.recoveryIsPending, Option.any_eq_false] at hidle
  have hordinary := ordinary_of_idle (fun p hp => Bool.not_eq_true _ ▸ hidle p hp) hsettled
  have hunrouted : ∀ route, t.acknowledgedFrontier = none → t.initialRoute ≠ some route := by
    intro route hack hinitial
    cases hp : t.pending with
    | none => exact h.sound.started hp hack
    | some p => exact hsettled p hp route (h.sound.first hack p hp route hinitial)
  have hroute := projectionRoute_of_ordinary hordinary
  have hpurpose : t.supersede.stagedPurpose true = .recovery := by
    rw [SessionTransport.stagedPurpose]
    split
    case h_1 route hack hinitial => exact absurd hinitial (hunrouted route hack)
    case h_2 => rfl
  have hrouted := h.routed
  obtain ⟨current, hcurrent, hshows, hof, hfrontier⟩ := h.view
  simp only [SessionTransport.project, SessionTransport.stagingCursor, if_true, bind_eq_ok]
    at hproject
  obtain ⟨candidate, hcandidate, hproject⟩ := hproject
  obtain ⟨hkept, hblank, hepoch, hlink, -⟩ := h.latest.freshBaseline hcandidate
  obtain ⟨view, hframed⟩ := framed hshare hrole hworlds hkept hproject hnext
  obtain ⟨baseline, rfl, haccepted⟩ := hframed.opens hblank
  have hviewEpoch : view.interestEpoch = current.interestEpoch + 1 := by
    rw [hframed.shows.epoch, hframed.epoch, hepoch, hshows.epoch]
  have hrecovery : validateRecoveryBaseline current view = .ok () :=
    validateRecoveryBaseline_of_shows hshare h.latest hshows hof hframed hepoch
  rw [hroute] at hframed hrouted
  refine ⟨.baseline, { c with view := some view }, ?_, ?_⟩
  · simp only [transition, stageBaseline, h.welcome, h.registry, h.handoff, hcurrent, demand_some,
      haccepted, hframed.link, hlink, whenSome, hrecovery, bind_eq_ok, pure_eq_ok, rejectIf_eq_ok,
      Except.ok.injEq, exists_eq_left', ne_eq, not_true_eq_false, not_false_eq_true]
    simp
  · rw [hpurpose]
    refine staged hframed h.welcome h.registry h.handoff rfl
      (h.awaits_superseded hordinary rfl fun p hp => ?_) h.acknowledged ?_ hrouted
    · rw [hfrontier p hp]
      exact frontier_ne_of_epoch hviewEpoch
    · exact .inFlight (fun hack route hinitial => absurd hinitial (hunrouted route hack))
        (fun _ hinitial => (by cases hinitial)) fun hordinary => (by cases hordinary)

/-- The statuses and the destination baseline of a handoff take the client to the view of the
    destination, by way of every phase. -/
theorem transfer {handoff}
    (h : Level host config.limits welcome binding player sessionEpoch state t acks c)
    (hidle : ∀ p, t.pending = some p → p.purpose.isRecovery = false)
    (hguard : t.validateTransferStage handoff = .ok ())
    (hproject : t.projectTransfer state handoff = .ok (message, next))
    (hshown : next.EndpointsShown) :
    ∃ c₁ c₂ c₃ c₄, (∃ baseline, message = .interestBaseline baseline) ∧
      transition host.wire config c (Session.handoffStatus handoff .preparing) =
        .ok (.handoff, c₁) ∧
      transition host.wire config c₁ (Session.handoffStatus handoff .importing) =
        .ok (.handoff, c₂) ∧
      transition host.wire config c₂ (Session.handoffStatus handoff .verifyingDestination) =
        .ok (.handoff, c₃) ∧
      transition host.wire config c₃ message = .ok (.baseline, c₄) ∧
      Level host config.limits welcome binding player sessionEpoch state
        (t.supersede.withPending next message now (.destinationHandoff handoff.transferId
          (SessionTransport.destinationRoute handoff)))
        (acks ++ (answerOf .baseline c₄).toList) c₄ := by
  simp only [SessionTransport.validateTransferStage, bind_eq_ok, rejectIf_eq_ok, demand_eq_ok,
    not_or, ne_eq, not_not] at hguard
  obtain ⟨⟨⟩, -, ⟨⟩, ⟨-, hack⟩, sourceRoute, hresident, hsource, -⟩ := hguard
  have hordinary := ordinary_of_idle hidle fun p hp route hpurpose =>
    absurd (h.sound.firstOnly p route hp hpurpose) hack
  have hroute : t.projectionRoute = some sourceRoute := by
    rw [projectionRoute_of_ordinary hordinary, hresident]
    rfl
  have htwo : state.twoCell = true := h.routed (by rw [hroute]; rfl)
  have hcell : state.cellAt (some sourceRoute) = sourceRoute.cellKey := by
    rw [AppState.cellAt, htwo]
    rfl
  obtain ⟨current, hcurrent, hshows, hof, hfrontier⟩ := h.view
  rw [hroute, hcell] at hof
  -- The epoch both ends hand off from is the one last acknowledged.
  have hepoch : current.interestEpoch = t.acknowledgedProjection.interestEpoch := by
    rw [hshows.epoch, SessionTransport.latest]
    cases hp : t.pending with
    | none => rfl
    | some p => exact h.sound.ordinary p hp (hordinary p hp) hack
  simp only [SessionTransport.projectTransfer, bind_eq_ok] at hproject
  obtain ⟨candidate, hcandidate, hproject⟩ := hproject
  obtain ⟨hkept, hblank, hnext, hlink, hle⟩ := h.acknowledged.freshTransferBaseline hcandidate
  obtain ⟨view, hframed⟩ := framed hshare hrole hworlds hkept hproject hshown
  obtain ⟨baseline, rfl, haccepted⟩ := hframed.opens hblank
  have hviewLink := hframed.link.trans hlink
  have hviewEpoch : view.interestEpoch = current.interestEpoch + 1 := by
    rw [hframed.shows.epoch, hframed.epoch, hnext, hepoch]
  have hsession : view.sessionEpoch = current.sessionEpoch := by
    rw [hframed.shows.session, hframed.kept.session, hshows.session, h.latest.session]
  have hcrosses : host.wire.hashing.cellIdForKey handoff.destinationCellKey ≠ current.cellId := by
    have hplace : current.cellId = (state.cells sourceRoute.cellKey).canonical.cellId :=
      congrArg CellPlace.cellId hof.place
    rw [hplace, state.named, hsource]
    intro hsame
    exact handoff.crosses (hshare.cells hsame).symm
  refine ⟨_, _, _, _, ⟨baseline, rfl⟩, transition_preparing h hrole hcurrent
    (validateHandoffMaterial_of_baseline haccepted hviewLink _) hcrosses,
    transition_handing hrole rfl, transition_handing hrole rfl,
    transition_destination haccepted hviewLink hsession hviewEpoch (by rw [hepoch]; exact hle),
    staged hframed rfl rfl rfl rfl (h.awaits_superseded hordinary rfl fun p hp => ?_)
      h.acknowledged ?_ (fun _ => htwo)⟩
  · rw [hfrontier p hp]
    exact frontier_ne_of_epoch hviewEpoch
  · exact .inFlight (fun hnone => absurd hnone hack) (fun _ hinitial => (by cases hinitial))
      fun hordinary => (by cases hordinary)

end Framed

theorem permitted (h : Level host limits welcome binding player sessionEpoch state t acks c) :
    Level host limits welcome binding player sessionEpoch state (t.permitRecovery now).2 acks c := by
  obtain ⟨started, count, heq⟩ := t.permitRecovery_same now
  rw [heq]
  exact { h with sound := { h.sound with } }

theorem superseding (hidle : t.recoveryIsPending = false)
    (h : Level host limits welcome binding player sessionEpoch state t acks c) :
    Level host limits welcome binding player sessionEpoch state t.supersede acks c := by
  refine { h with awaits := ?_, sound := { h.sound with } }
  have hawaits := h.awaits
  cases hp : t.pending with
  | none =>
    simp only [SessionTransport.Awaits, SessionTransport.supersede, hp] at hawaits ⊢
    exact hawaits
  | some p =>
    rw [SessionTransport.recoveryIsPending, hp, Option.any_some] at hidle
    simp only [SessionTransport.Awaits, SessionTransport.supersede, hp, hidle, Bool.false_eq_true,
      false_and, or_false] at hawaits ⊢
    exact hawaits

theorem published {key : CellKeyV1}
    (h : Level host limits welcome binding player sessionEpoch state t acks c) :
    Level host limits welcome binding player sessionEpoch (state.publish key source) t acks c := by
  rw [AppState.publish]
  split
  case isTrue hlater =>
    obtain ⟨view, hview, hshows, hof, hfrontier⟩ := h.view
    refine { h with view := ⟨view, hview, hshows, ?_, hfrontier⟩ }
    show ShownOf (if state.cellAt t.projectionRoute = key then source
      else state.cells (state.cellAt t.projectionRoute)).canonical view
    split
    case isTrue hkey =>
      rw [hkey] at hof
      exact hof.later hlater
    case isFalse => exact hof
  case isFalse => exact h

end Level

/-! ## The session -/

/-- The acknowledgements among what the client sent. -/
def answersOf (answers : List ClientAnswer) : List InterestFrontier :=
  answers.filterMap fun answer =>
    match answer with
    | .acknowledgeInterest ack => some ack
    | .requestSnapshot => none

/-- What holds of a session whose turns are clean. -/
structure Agreed (host : Projecting) (config : VerifierConfig) (welcome : WelcomeBinding)
    (binding : ValidatedRegistry) (player sessionEpoch : String) (s : Session host) : Prop where
  configured : s.client.config = config
  idle : s.client.pending = none
  welcomed : s.client.committed.welcome = some welcome
  registered : s.client.committed.registry = some binding
  under : ∃ frames acks c, Follows host config s.client.committed frames acks c ∧
    (s.toClient = frames ∨ s.closed = true ∧
      ∃ code text, s.toClient = frames ++ [.fatal code text]) ∧
    (s.closed = false → Level host config.limits welcome binding player sessionEpoch s.state
      s.transport (answersOf s.toServer ++ acks) c)

theorem transition_bound {next} (h : transition host.wire config c message = .ok (kind, next))
    (hwelcome : c.welcome = some welcome) (hregistry : c.registry = some binding) :
    next.welcome = some welcome ∧ next.registry = some binding := by
  cases transition_advances h with
  | welcomed w hnone =>
    rw [hwelcome] at hnone
    cases hnone
  | registered r _ hnone =>
    rw [hregistry] at hnone
    cases hnone
  | _ => exact ⟨hwelcome, hregistry⟩

@[simp] theorem answersOf_append {xs ys} :
    answersOf (xs ++ ys) = answersOf xs ++ answersOf ys := by
  rw [answersOf, List.filterMap_append]
  rfl

@[simp] theorem answersOf_map {acks : List InterestFrontier} :
    answersOf (acks.map .acknowledgeInterest) = acks := by
  rw [answersOf, List.filterMap_map]
  exact List.filterMap_some

theorem deliver_eq {s : Session host} {rest} (h : s.toClient = message :: rest) :
    ∃ answers, s.deliver = { s with
        toClient := rest
        client := (takeMessage host s.client message).2
        toServer := s.toServer ++ answers.map .acknowledgeInterest } ∧
      ∀ outcome, (takeMessage host s.client message).1 = .ok outcome →
        answers = outcome.acknowledgement.toList := by
  rw [Session.deliver, h]
  cases htake : takeMessage host s.client message with
  | mk answer client =>
    cases answer with
    | error e =>
      exact ⟨[], by simp [htake], fun outcome houtcome => (by cases houtcome)⟩
    | ok outcome =>
      exact ⟨outcome.acknowledgement.toList, by simp only [htake],
        fun outcome' houtcome => (by rw [Except.ok.inj houtcome])⟩

namespace Agreed

variable {s : Session host}

section Received

variable (h : Agreed host config welcome binding player sessionEpoch s)

include h

theorem opened (hopen : s.closed = false) :
    ∃ acks c, Follows host config s.client.committed s.toClient acks c ∧
      Level host config.limits welcome binding player sessionEpoch s.state s.transport
        (answersOf s.toServer ++ acks) c := by
  obtain ⟨frames, acks, c, hfollows, hframes | ⟨hclosed, -⟩, hlevel⟩ := h.under
  · exact ⟨acks, c, hframes ▸ hfollows, hlevel hopen⟩
  · rw [hopen] at hclosed
    cases hclosed

theorem turned {s' : Session host} (hclient : s'.client = s.client)
    (hsent : s'.toClient = s.toClient) (hclosed : s'.closed = s.closed)
    (hlevel : s.closed = false → ∀ acks c,
      Level host config.limits welcome binding player sessionEpoch s.state s.transport
        (answersOf s.toServer ++ acks) c →
      Level host config.limits welcome binding player sessionEpoch s'.state s'.transport
        (answersOf s'.toServer ++ acks) c) :
    Agreed host config welcome binding player sessionEpoch s' := by
  obtain ⟨frames, acks, c, hfollows, hframes, hlevel'⟩ := h.under
  refine ⟨?_, ?_, ?_, ?_, frames, acks, c, ?_, ?_, ?_⟩
  · rw [hclient, h.configured]
  · rw [hclient, h.idle]
  · rw [hclient, h.welcomed]
  · rw [hclient, h.registered]
  · rwa [hclient]
  · rwa [hsent, hclosed]
  · rw [hclosed]
    exact fun hopen => hlevel hopen acks c (hlevel' hopen)

theorem sent {s' : Session host}
    (hopen : s.closed = false) (hlegible : Legible host config message)
    (hclient : s'.client = s.client) (hsent : s'.toClient = s.toClient ++ [message])
    (hanswers : s'.toServer = s.toServer)
    (hlevel : ∀ acks c, Level host config.limits welcome binding player sessionEpoch s.state
        s.transport acks c → ∃ kind c', transition host.wire config c message = .ok (kind, c') ∧
      Level host config.limits welcome binding player sessionEpoch s'.state s'.transport
        (acks ++ (answerOf kind c').toList) c') :
    Agreed host config welcome binding player sessionEpoch s' := by
  obtain ⟨acks, c, hfollows, hlevel'⟩ := h.opened hopen
  obtain ⟨kind, c', htransition, hnext⟩ := hlevel _ c hlevel'
  refine ⟨by rw [hclient]; exact h.configured, by rw [hclient]; exact h.idle,
    by rw [hclient]; exact h.welcomed, by rw [hclient]; exact h.registered,
    s.toClient ++ [message], acks ++ (answerOf kind c').toList, c', ?_, .inl hsent, fun _ => ?_⟩
  · rw [hclient]
    exact hfollows.send hlegible htransition
  · rw [hanswers, ← List.append_assoc]
    exact hnext

theorem fatal (hopen : s.closed = false) (code text : String) :
    Agreed host config welcome binding player sessionEpoch (s.fatal code text) := by
  obtain ⟨acks, c, hfollows, -⟩ := h.opened hopen
  exact ⟨h.configured, h.idle, h.welcomed, h.registered, s.toClient, acks, c, hfollows,
    .inr ⟨rfl, code, text, rfl⟩, fun hclosed => (by cases hclosed)⟩

theorem accepted {rest : List ServerMessage} (hnext : s.toClient = message :: rest)
    (hsession : message.ofSession = true) :
    ∃ outcome client, takeMessage host s.client message = (.ok outcome, client) := by
  obtain ⟨frames, acks, c, hfollows, hframes, -⟩ := h.under
  cases hfollows with
  | done c =>
    rcases hframes with hnil | ⟨-, code, text, hfatal⟩
    · rw [hnext] at hnil
      cases hnil
    · rw [hnext] at hfatal
      obtain ⟨rfl, -⟩ := List.cons.inj hfatal
      cases hsession
  | @took _ c₁ _ first kind tail acks' hlegible htransition _ =>
    obtain ⟨rest', hcons⟩ : ∃ rest', s.toClient = first :: rest' := by
      rcases hframes with hframes | ⟨-, code, text, hframes⟩
      · exact ⟨_, hframes⟩
      · exact ⟨_, hframes⟩
    rw [hnext] at hcons
    obtain ⟨rfl, -⟩ := List.cons.inj hcons
    rw [← h.configured] at hlegible htransition
    obtain ⟨outcome, houtcome, -, -⟩ := takeMessage_ok h.idle hlegible htransition
    exact ⟨outcome, _, Prod.ext houtcome rfl⟩

theorem deliver :
    Agreed host config welcome binding player sessionEpoch s.deliver := by
  obtain ⟨frames, acks, c, hfollows, hframes, hlevel⟩ := h.under
  cases hfollows with
  | done c =>
    rcases hframes with hnil | ⟨hclosed, code, text, hfatal⟩
    · rwa [Session.deliver, hnil]
    · -- The session is over: what the client makes of its end is of no consequence.
      obtain ⟨answers, heq, -⟩ := deliver_eq hfatal
      obtain ⟨hidle, hconfig, hcommitted⟩ := takeMessage_cases host (.fatal code text) h.idle
      have hbound : (takeMessage host s.client (.fatal code text)).2.committed.welcome =
            some welcome ∧
          (takeMessage host s.client (.fatal code text)).2.committed.registry = some binding := by
        rcases hcommitted with hsame | ⟨read, kind, htransition⟩
        · rw [hsame]
          exact ⟨h.welcomed, h.registered⟩
        · exact transition_bound htransition h.welcomed h.registered
      rw [heq]
      refine ⟨hconfig.trans h.configured, hidle, hbound.1, hbound.2, [], [], _, .done _, .inl rfl,
        fun hopen => ?_⟩
      rw [hclosed] at hopen
      cases hopen
  | @took _ c₁ _ first kind tail acks' hlegible htransition hrest =>
    obtain ⟨hidle, hconfig, -⟩ := takeMessage_cases host first h.idle
    obtain ⟨hwelcomed, hregistered⟩ := transition_bound htransition h.welcomed h.registered
    rw [← h.configured] at hlegible htransition
    obtain ⟨outcome, houtcome, hanswer, hcommitted⟩ := takeMessage_ok h.idle hlegible htransition
    obtain ⟨rest, hcons, hrestFrames⟩ : ∃ rest, s.toClient = first :: rest ∧ (rest = tail ∨
        s.closed = true ∧ ∃ code text, rest = tail ++ [.fatal code text]) := by
      rcases hframes with hframes | ⟨hclosed, code, text, hframes⟩
      · exact ⟨tail, hframes, .inl rfl⟩
      · exact ⟨_, hframes, .inr ⟨hclosed, code, text, rfl⟩⟩
    obtain ⟨answers, heq, hanswers⟩ := deliver_eq hcons
    rw [heq]
    refine ⟨hconfig.trans h.configured, hidle, by rw [hcommitted]; exact hwelcomed,
      by rw [hcommitted]; exact hregistered, tail, acks', c, by rw [hcommitted]; exact hrest,
      hrestFrames, fun hopen => ?_⟩
    have hmoved := hlevel hopen
    rw [← hanswer, ← hanswers outcome houtcome, ← List.append_assoc] at hmoved
    rwa [answersOf_append, answersOf_map]

theorem permitted : Agreed host config welcome binding player sessionEpoch
    { s with transport := (s.transport.permitRecovery now).2 } :=
  h.turned rfl rfl rfl fun _ _ _ hlevel => hlevel.permitted

theorem acknowledgeInterest (now : Nat) {ack rest} (hopen : s.closed = false)
    (hnext : s.toServer = .acknowledgeInterest ack :: rest) :
    s.treatment ack ≠ .rejected ∧ Agreed host config welcome binding player sessionEpoch
      (({ s with toServer := rest } : Session host).acknowledgeInterest ack now) := by
  obtain ⟨acks, c, hfollows, hlevel⟩ := h.opened hopen
  rw [hnext] at hlevel
  have hagreed : ∀ t, Level host config.limits welcome binding player sessionEpoch s.state t
      (answersOf rest ++ acks) c → Agreed host config welcome binding player sessionEpoch
        { s with toServer := rest, transport := t } := fun _ hlevel =>
    ⟨h.configured, h.idle, h.welcomed, h.registered, s.toClient, acks, c, hfollows, .inl rfl,
      fun _ => hlevel⟩
  have hsame : ({ s with toServer := rest } : Session host).treatment ack = s.treatment ack := rfl
  rw [Session.acknowledgeInterest, hsame]
  rcases hlevel.acknowledge with ⟨haccepted, hlevel⟩ | ⟨hrejected, hrecovery, hsuperseded, hlevel⟩
  · cases houtcome : (s.transport.acknowledge ack).1 with
    | rejected => exact absurd houtcome haccepted
    | accepted | routeInstalled | duplicate =>
      simp only [Session.treatment, houtcome]
      exact ⟨by simp, hagreed _ hlevel⟩
  · have htreatment : s.treatment ack = .superseded := by
      rw [Session.treatment, hrejected]
      exact if_pos ⟨hrecovery, hsuperseded⟩
    rw [htreatment]
    exact ⟨by simp, hagreed _ hlevel⟩

end Received

theorem stageTransfer_eq_ok {t t' : SessionTransport} {state : AppState host}
    {handoff : CompletedPlayerHandoff}
    (h : t.stageTransfer state handoff now = .ok (message, t')) :
    ∃ next, t.validateTransferStage handoff = .ok () ∧
      t.projectTransfer state handoff = .ok (message, next) ∧
      t' = t.supersede.withPending next message now (.destinationHandoff handoff.transferId
        (SessionTransport.destinationRoute handoff)) := by
  simp only [SessionTransport.stageTransfer, bind_eq_ok] at h
  obtain ⟨⟨⟩, hguard, ⟨frame, next⟩, hproject, h⟩ := h
  cases frame with
  | interestBaseline baseline =>
    obtain ⟨rfl, rfl⟩ := Prod.mk.inj (Except.ok.inj h)
    exact ⟨next, hguard, hproject, rfl⟩
  | _ => cases h

section Sending

variable (hshare : Sharing host config.limits) (hrole : welcome.role = .player player)
  (h : Agreed host config welcome binding player sessionEpoch s) (hopen : s.closed = false)
  (hworlds : ∀ key, Presentable config.limits welcome binding (s.state.cells key))

include hshare hrole h hopen hworlds

variable (hsendable : ∀ message next, s.transport.project s.state true = .ok (message, next) →
    Sendable host config message next)

include hsendable

theorem stageFresh (hidle : s.transport.recoveryIsPending = false) (hsettled : s.Settled) :
    Agreed host config welcome binding player sessionEpoch (s.stageFresh now) := by
  have hproject : s.transport.supersede.project s.state true =
      s.transport.project s.state true := rfl
  have hsuperseded : Agreed host config welcome binding player sessionEpoch
      { s with transport := s.transport.supersede } :=
    h.turned rfl rfl rfl fun _ _ _ hlevel => hlevel.superseding hidle
  cases hframe : s.transport.project s.state true with
  | error e =>
    have hstaged : s.transport.stage s.state true now = (.error e, s.transport.supersede) := by
      simp only [SessionTransport.stage, if_true, hproject, hframe]
    simp only [Session.stageFresh, hstaged]
    split
    · exact hsuperseded
    · exact hsuperseded.fatal hopen _ _
  | ok frame =>
    obtain ⟨message, next⟩ := frame
    have hstaged : s.transport.stage s.state true now = (.ok message,
        s.transport.supersede.withPending next message now
          (s.transport.supersede.stagedPurpose true)) := by
      simp only [SessionTransport.stage, if_true, hproject, hframe]
    simp only [Session.stageFresh, hstaged]
    have hframed := hsendable message next hframe
    exact h.sent hopen hframed.legible rfl rfl rfl fun acks c hlevel =>
      hlevel.fresh hshare hrole hworlds hidle (hsettled ⟨_, hframe⟩) hframe hframed.endpoints

theorem stageFresh_permitted (hidle : s.transport.recoveryIsPending = false) (hsettled : s.Settled) :
    Agreed host config welcome binding player sessionEpoch
      (({ s with transport := (s.transport.permitRecovery now).2 } : Session host).stageFresh
        now) := by
  have hpermitted : Agreed host config welcome binding player sessionEpoch
      { s with transport := (s.transport.permitRecovery now).2 } := h.permitted
  obtain ⟨started, count, heq⟩ := s.transport.permitRecovery_same now
  rw [heq] at hpermitted ⊢
  exact stageFresh hshare hrole hpermitted hopen hworlds hsendable hidle hsettled

theorem requestSnapshot (hsettled : s.transport.recoveryIsPending = false →
      s.state.residentRouteIsStale s.transport.residentRoute = false →
      (s.transport.permitRecovery now).1 = true → s.Settled) :
    Agreed host config welcome binding player sessionEpoch (s.requestSnapshot now) := by
  rw [Session.requestSnapshot]
  cases hidle : s.transport.recoveryIsPending with
  | true => exact h
  | false =>
    cases hstale : s.state.residentRouteIsStale s.transport.residentRoute with
    | true => exact h
    | false =>
      cases hpermit : (s.transport.permitRecovery now).1 with
      | false =>
        simp only [Bool.false_eq_true, if_false, hpermit, if_true]
        exact (h.permitted).fatal hopen _ _
      | true =>
        simp only [Bool.false_eq_true, Bool.true_eq_false, if_false, hpermit]
        exact stageFresh_permitted hshare hrole h hopen hworlds hsendable hidle
          (hsettled hidle hstale hpermit)

omit hsendable

theorem tick {update : Bool}
    (hsendable : ∀ fresh message next, s.transport.project s.state fresh = .ok (message, next) →
      Sendable host config message next)
    (hsettled : s.transport.pendingTimedOut now = true → s.transport.recoveryIsPending = false →
      (s.transport.permitRecovery now).1 = true → s.Settled) :
    Agreed host config welcome binding player sessionEpoch (s.tick update now) := by
  rw [Session.tick]
  cases htimeout : s.transport.pendingTimedOut now with
  | true =>
    rw [if_pos rfl]
    by_cases hends : s.transport.recoveryIsPending ∨ (s.transport.permitRecovery now).1 = false
    · rw [if_pos hends]
      exact h.fatal hopen _ _
    · rw [if_neg hends]
      simp only [not_or, Bool.not_eq_true, Bool.not_eq_false] at hends
      exact stageFresh_permitted hshare hrole h hopen hworlds (hsendable true) hends.1
        (hsettled htimeout hends.1 hends.2)
  | false =>
    rw [if_neg Bool.false_ne_true]
    by_cases hquiet : s.transport.pending.isSome ∨ update = false
    · rw [if_pos hquiet]
      exact h
    · rw [if_neg hquiet]
      have hnone : s.transport.pending = none := by
        simpa using fun hsome => hquiet (.inl hsome)
      cases hframe : s.transport.project s.state false with
      | error e =>
        have hstaged : s.transport.stage s.state false now = (.error e, s.transport) := by
          simp only [SessionTransport.stage, Bool.false_eq_true, if_false, hframe]
        simp only [hstaged]
        split
        · exact h
        · exact h.fatal hopen _ _
      | ok frame =>
        obtain ⟨message, next⟩ := frame
        have hstaged : s.transport.stage s.state false now = (.ok message,
            s.transport.withPending next message now (s.transport.stagedPurpose false)) := by
          simp only [SessionTransport.stage, Bool.false_eq_true, if_false, hframe]
        simp only [hstaged]
        have hframed := hsendable false message next hframe
        exact h.sent hopen hframed.legible rfl rfl rfl fun acks c hlevel =>
          hlevel.delta hshare hrole hworlds hnone hframe hframed.endpoints

theorem handoff {handoff : CompletedPlayerHandoff}
    (hhanded : s.beginsHandoff handoff →
      (∀ p, s.transport.pending = some p → p.purpose.isRecovery = false) ∧
      (∀ phase, Legible host config (Session.handoffStatus handoff phase)) ∧
      ∀ message next, s.transport.projectTransfer s.state handoff = .ok (message, next) →
        Sendable host config message next) :
    Agreed host config welcome binding player sessionEpoch (s.handoff handoff now) := by
  rw [Session.handoff]
  by_cases hknown : handoff.transferId = s.lastHandoffTransferId
  · rw [if_pos hknown]
    exact h
  · rw [if_neg hknown]
    cases hstaged : s.transport.stageTransfer s.state handoff now with
    | error e => exact h.fatal hopen _ _
    | ok frame =>
      obtain ⟨message, transport⟩ := frame
      obtain ⟨next, hguard, hproject, rfl⟩ := stageTransfer_eq_ok hstaged
      obtain ⟨hidle, hstatuses, hsendable⟩ := hhanded ⟨hknown, message, next, hguard, hproject⟩
      obtain ⟨acks, c, hfollows, hlevel⟩ := h.opened hopen
      obtain ⟨c₁, c₂, c₃, c₄, -, h₁, h₂, h₃, h₄, hnext⟩ :=
        hlevel.transfer hshare hrole hworlds hidle hguard hproject
          (hsendable message next hproject).endpoints
      have hsent := (((hfollows.send (hstatuses _) h₁).send (hstatuses _) h₂).send
        (hstatuses _) h₃).send (hsendable message next hproject).legible h₄
      refine ⟨h.configured, h.idle, h.welcomed, h.registered, _, _, c₄, hsent, .inl ?_, fun _ => ?_⟩
      · simp only [List.append_assoc]
        rfl
      · simpa [answerOf, ← List.append_assoc] using hnext

end Sending

/-- Every clean turn keeps both ends in agreement. -/
theorem move (hshare : Sharing host config.limits) (hrole : welcome.role = .player player) {m}
    (h : Agreed host config welcome binding player sessionEpoch s) (hclean : Clean s m) :
    Agreed host config welcome binding player sessionEpoch (s.move m) := by
  have hworlds : ∀ key, Presentable config.limits welcome binding (s.state.cells key) := by
    rw [← h.configured]
    exact hclean.worlds welcome binding h.welcomed h.registered
  have hsendable : ∀ fresh message next,
      s.transport.project s.state fresh = .ok (message, next) →
        Sendable host config message next := by
    rw [← h.configured]
    exact hclean.sendable
  cases m with
  | publish key source => exact h.turned rfl rfl rfl fun _ _ _ hlevel => hlevel.published
  | reside route => exact h.turned rfl rfl rfl fun _ _ _ hlevel => { hlevel with }
  | request =>
    refine h.turned rfl rfl rfl fun _ acks c hlevel => ?_
    have hsame : answersOf (s.toServer ++ [.requestSnapshot]) = answersOf s.toServer := by
      rw [answersOf_append]
      exact List.append_nil _
    show Level _ _ _ _ _ _ _ _ (answersOf (s.toServer ++ [.requestSnapshot]) ++ acks) c
    rw [hsame]
    exact hlevel
  | deliver => exact h.deliver
  | tick update now =>
    rw [Session.move]
    split
    case isTrue => exact h
    case isFalse hopen =>
      have hopen : s.closed = false := by simpa using hopen
      refine Agreed.tick hshare hrole h hopen hworlds hsendable ?_
      intro htimeout hidle hpermit
      refine hclean.settled hopen ?_
      simp [Session.stagesFresh, htimeout, hidle, hpermit]
  | handoff handoff now =>
    rw [Session.move]
    split
    case isTrue => exact h
    case isFalse hopen =>
      have hopen : s.closed = false := by simpa using hopen
      refine Agreed.handoff hshare hrole h hopen hworlds ?_
      intro hbegins
      have hhanded := hclean.handed handoff now rfl hopen hbegins
      rwa [h.configured] at hhanded
  | receive now =>
    rw [Session.move]
    split
    case isTrue => exact h
    case isFalse hopen =>
      have hopen : s.closed = false := by simpa using hopen
      rw [Session.receive]
      cases hnext : s.toServer with
      | nil => exact h
      | cons answer rest =>
        cases answer with
        | acknowledgeInterest ack => exact (h.acknowledgeInterest now hopen hnext).2
        | requestSnapshot =>
          have hrest : Agreed host config welcome binding player sessionEpoch
              { s with toServer := rest } := by
            refine h.turned rfl rfl rfl fun _ acks c hlevel => ?_
            rw [hnext] at hlevel
            exact hlevel
          refine Agreed.requestSnapshot hshare hrole hrest hopen hworlds (hsendable true) ?_
          intro hidle hstale hpermit
          refine hclean.settled hopen ?_
          have hidle' : s.transport.recoveryIsPending = false := hidle
          have hstale' : s.state.residentRouteIsStale s.transport.residentRoute = false := hstale
          have hpermit' : (s.transport.permitRecovery now).1 = true := hpermit
          simp [Session.stagesFresh, hnext, hidle', hstale', hpermit']

theorem agrees (h : Agreed host config welcome binding player sessionEpoch s) (m : SessionMove) :
    Agrees s m where
  accepted := fun _ _ _ hnext hsession => h.accepted hnext hsession
  acknowledged := fun now _ hopen _ _ hnext => (h.acknowledgeInterest now hopen hnext).1

end Agreed

end Verse.Interest
