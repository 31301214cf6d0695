import Verse.Interest.Control
import Verse.Interest.Sessions
import Verse.Lib.Run

/-!
# Control follows the acknowledged route

A transport is `Routed` when what it remembers of routes hangs together: before the first
acknowledgement its first baseline is in flight, afterwards it has a route whose baseline was
acknowledged, and a baseline in flight that would install a route was sent for that route and
leads one placement on. Every turn of a session keeps it so, whatever the client answers and
wherever the player has gone meanwhile, and with it goes the claim that an intent is carried out
only where the session has acknowledged a baseline (`control_follows_acknowledged_route`).
-/

namespace Verse.Interest

open Lib
open Verse.Runtime (RuntimeError)
open Worker (LocalTwoCellRuntime)

variable {host : Projecting} {state : AppState host}

/-! ## Frames -/

theorem selected_of_snapshot {source cursor next projected}
    (h : projectInterestWorldSnapshot host source cursor OrdMap.empty = .ok (projected, next)) :
    (cursor.viewHash = none → projected.interest.frameKind = .baseline)
      ∧ projected.eventSequence = source.canonical.eventSequence := by
  simp only [projectInterestWorldSnapshot, bind_eq_ok] at h
  obtain ⟨-, -, anchor, -, environment, -, -, -, candidates, -, selection, hselection, hrest⟩ := h
  have hselected : cursor.viewHash = none → selection.frameKind = .baseline := by
    intro hblank
    have hkind := (selected_of_select hselection).kind
    rwa [hblank] at hkind
  cases hobserver : cursor.observer with
  | boundPlayer player =>
    simp only [hobserver, map_eq_ok, bind_eq_ok, pure_eq_ok] at hrest
    obtain ⟨_, -, _, -, _, -, _, -, _, -, _, -, heq⟩ := hrest
    obtain ⟨rfl, -⟩ := Prod.mk.inj heq
    exact ⟨hselected, rfl⟩
  | publicOriginSpectator =>
    simp only [hobserver, bind_eq_ok, pure_eq_ok] at hrest
    obtain ⟨_, -, _, -, _, -, _, -, _, -, _, -, heq⟩ := hrest
    obtain ⟨rfl, -⟩ := Prod.mk.inj heq
    exact ⟨hselected, rfl⟩

theorem baseline_of_blank {source} {cursor next : InterestProjectionState} {message}
    (hblank : cursor.viewHash = none)
    (h : projectInterestFrame host source cursor OrdMap.empty = .ok (message, next)) :
    ∃ baseline, message = .interestBaseline baseline := by
  simp only [projectInterestFrame, bind_eq_ok] at h
  obtain ⟨⟨projected, next'⟩, hprojected, hframe⟩ := h
  rw [if_pos ((selected_of_snapshot hprojected).1 hblank)] at hframe
  exact ⟨projected, (Prod.mk.inj (Except.ok.inj hframe)).1.symm⟩

theorem projected_at {cursor next route message} (htwo : state.twoCell = true)
    (h : state.projectedInterestFrameAt cursor route = .ok (message, next)) :
    ∃ r, route = some r ∧ state.resident = some r
      ∧ projectInterestFrame host (state.cells r.cellKey) cursor OrdMap.empty = .ok (message, next) := by
  simp only [AppState.projectedInterestFrameAt, AppState.projectionRevisionForAt, htwo,
    Bool.true_eq_false, if_false, bind_eq_ok, demand_eq_ok, rejectIf_eq_ok, pure_eq_ok] at h
  obtain ⟨source, ⟨r, rfl, -, hresident, rfl⟩, hframe⟩ := h
  exact ⟨r, rfl, Decidable.not_not.mp hresident, hframe⟩

theorem frontier_of_project {source cursor next message}
    (h : projectInterestFrame host source cursor OrdMap.empty = .ok (message, next)) :
    ∃ frontier, message.frontier? = some frontier := by
  simp only [projectInterestFrame, bind_eq_ok] at h
  obtain ⟨⟨projected, next'⟩, -, hframe⟩ := h
  split at hframe
  · obtain ⟨rfl, -⟩ := Prod.mk.inj (Except.ok.inj hframe)
    exact ⟨_, rfl⟩
  · obtain ⟨rfl, -⟩ := Prod.mk.inj (Except.ok.inj hframe)
    exact ⟨_, rfl⟩

/-! ## Transports -/

/-- A frontier under which a baseline for a route was sent. -/
abbrev Baselines : Type := InterestFrontier → ResidentPlayerRoute → Prop

variable {ack : InterestFrontier} {t' : SessionTransport}

namespace SessionTransport

/-- What a frame in flight is about, beside the rest of the transport. -/
def InFlight (t : SessionTransport) (sent : Baselines) (pending : PendingInterestFrame) : Prop :=
  match pending.purpose with
  | .initialRoute route =>
    t.acknowledgedFrontier = none ∧ t.initialRoute = some route ∧ sent pending.frontier route
  | .destinationHandoff _ route =>
    t.acknowledgedFrontier ≠ none
      ∧ (∃ before, t.residentRoute = some before
          ∧ route.placementGeneration = before.placementGeneration + 1)
      ∧ sent pending.frontier route
  | .ordinary | .recovery => t.acknowledgedFrontier ≠ none

structure Routed (t : SessionTransport) (sent : Baselines)
    (acknowledged : ResidentPlayerRoute → Prop) : Prop where
  initial : ∃ route, t.initialRoute = some route
  unacknowledged : t.acknowledgedFrontier = none →
    t.residentRoute = none ∧ ∃ pending route, t.pending = some pending
      ∧ pending.purpose = .initialRoute route
  resident : t.acknowledgedFrontier ≠ none → ∃ route, t.residentRoute = some route ∧ acknowledged route
  inFlight : ∀ pending, t.pending = some pending → t.InFlight sent pending

variable {t : SessionTransport} {sent sent' : Baselines}
  {acknowledged acknowledged' : ResidentPlayerRoute → Prop}

theorem InFlight.mono {pending : PendingInterestFrame} (hsent : ∀ f r, sent f r → sent' f r)
    (h : t.InFlight sent pending) : t.InFlight sent' pending := by
  unfold InFlight at h ⊢
  cases hpurpose : pending.purpose with
  | initialRoute route | destinationHandoff transferId route =>
    rw [hpurpose] at h
    exact ⟨h.1, h.2.1, hsent _ _ h.2.2⟩
  | ordinary | recovery =>
    rw [hpurpose] at h
    exact h

theorem Routed.mono (h : t.Routed sent acknowledged) (hsent : ∀ f r, sent f r → sent' f r)
    (hacknowledged : ∀ r, acknowledged r → acknowledged' r) : t.Routed sent' acknowledged' where
  initial := h.initial
  unacknowledged := h.unacknowledged
  resident hfrontier :=
    let ⟨route, hroute, hdone⟩ := h.resident hfrontier
    ⟨route, hroute, hacknowledged route hdone⟩
  inFlight pending hpending := (h.inFlight pending hpending).mono hsent

theorem Routed.congr (h : t.Routed sent acknowledged)
    (hfrontier : t'.acknowledgedFrontier = t.acknowledgedFrontier)
    (hresident : t'.residentRoute = t.residentRoute) (hinitial : t'.initialRoute = t.initialRoute)
    (hpending : t'.pending = t.pending) : t'.Routed sent acknowledged := by
  refine ⟨?_, ?_, ?_, ?_⟩
  · rw [hinitial]
    exact h.initial
  · rw [hfrontier, hresident, hpending]
    exact h.unacknowledged
  · rw [hfrontier, hresident]
    exact h.resident
  · intro pending hin
    have hflight := h.inFlight pending (hpending ▸ hin)
    unfold InFlight at hflight ⊢
    rwa [hfrontier, hinitial, hresident]

theorem Routed.replaced {pending} (h : t.Routed sent acknowledged)
    (hfrontier : t'.acknowledgedFrontier = t.acknowledgedFrontier)
    (hresident : t'.residentRoute = t.residentRoute) (hinitial : t'.initialRoute = t.initialRoute)
    (hpending : t'.pending = some pending) (hflight : t.InFlight sent pending)
    (hfirst : t.acknowledgedFrontier = none → ∃ route, pending.purpose = .initialRoute route) :
    t'.Routed sent acknowledged := by
  refine ⟨?_, ?_, ?_, ?_⟩
  · rw [hinitial]
    exact h.initial
  · rw [hfrontier, hresident, hpending]
    intro hnone
    obtain ⟨route, hroute⟩ := hfirst hnone
    exact ⟨(h.unacknowledged hnone).1, pending, route, rfl, hroute⟩
  · rw [hfrontier, hresident]
    exact h.resident
  · intro pending' hin
    obtain rfl : pending = pending' := Option.mem_unique hpending hin
    unfold InFlight at hflight ⊢
    rwa [hfrontier, hinitial, hresident]

/-- What an acknowledgement does to a transport: nothing, or it is that of the frame in flight and
    installs the route of that frame, if it has one. -/
theorem acknowledge_cases (t : SessionTransport) (ack : InterestFrontier) :
    (t.acknowledge ack).2 = t ∨ ∃ pending, t.pending = some pending ∧ pending.frontier = ack
      ∧ (t.acknowledge ack).2 = { t with
          pending := none
          acknowledgedProjection := pending.projection
          acknowledgedFrontier := some ack
          supersededFrontier := none
          residentRoute := pending.purpose.route <|> t.residentRoute } := by
  rw [SessionTransport.acknowledge]
  cases hfilter : t.pending.filter fun pending => pending.frontier == ack with
  | none =>
    refine .inl ?_
    show (if t.acknowledgedFrontier = some ack then (InterestAckOutcome.duplicate, t)
      else (.rejected, t)).2 = t
    split <;> rfl
  | some pending =>
    obtain ⟨hpending, hmatch⟩ := Option.filter_eq_some_iff.mp hfilter
    obtain rfl : pending.frontier = ack := beq_iff_eq.mp hmatch
    refine .inr ⟨pending, hpending, rfl, ?_⟩
    cases hroute : pending.purpose.route with
    | none | some route =>
      simp only [hroute]
      rfl

/-- The acknowledgement of what is in flight leaves a transport with a route that was
    acknowledged. -/
theorem Routed.landed {pending} (h : t.Routed sent acknowledged) (waited : t.pending = some pending)
    (hack : ∀ r, sent pending.frontier r → acknowledged r) (landed : t'.pending = none)
    (frontier : t'.acknowledgedFrontier = some pending.frontier)
    (route : t'.residentRoute = (pending.purpose.route <|> t.residentRoute))
    (initialRoute : t'.initialRoute = t.initialRoute) : t'.Routed sent acknowledged := by
  have hflight := h.inFlight pending waited
  unfold InFlight at hflight
  refine ⟨initialRoute ▸ h.initial, fun hnone => ?_, fun _ => ?_, fun _ hsome => ?_⟩
  · cases frontier.symm.trans hnone
  · rw [route]
    cases hpurpose : pending.purpose with
    | initialRoute route | destinationHandoff transferId route =>
      rw [hpurpose] at hflight
      exact ⟨route, rfl, hack route hflight.2.2⟩
    | ordinary | recovery =>
      rw [hpurpose] at hflight
      exact h.resident hflight
  · cases landed.symm.trans hsome

/-- What is in flight and the routes, which few turns change. -/
structure Alike (t t' : SessionTransport) : Prop where
  pending : t'.pending = t.pending
  acknowledgedFrontier : t'.acknowledgedFrontier = t.acknowledgedFrontier
  residentRoute : t'.residentRoute = t.residentRoute
  initialRoute : t'.initialRoute = t.initialRoute

theorem Alike.refl (t : SessionTransport) : t.Alike t := ⟨rfl, rfl, rfl, rfl⟩

/-- A frame has been put in flight. -/
structure Launched (t t' : SessionTransport) (message : ServerMessage)
    (purpose : PendingFramePurpose) : Prop where
  pending : ∃ pending, t'.pending = some pending ∧ message.frontier? = some pending.frontier
    ∧ pending.purpose = purpose
  acknowledgedFrontier : t'.acknowledgedFrontier = t.acknowledgedFrontier
  residentRoute : t'.residentRoute = t.residentRoute
  initialRoute : t'.initialRoute = t.initialRoute

end SessionTransport

/-! ## Staging -/

/-- The log holds the baselines among some frames that were projected from a state. -/
def Logs (sent : Baselines) (state : AppState host) (frames : List ServerMessage) : Prop :=
  ∀ message ∈ frames, ∀ route frontier, Sent.BaselineOf (⟨message, state⟩ : Sent host) route →
    message.frontier? = some frontier → sent frontier route

namespace SessionTransport

variable {t : SessionTransport} {sent : Baselines} {acknowledged : ResidentPlayerRoute → Prop}
  {message : ServerMessage} {next : InterestProjectionState} {now : Nat}

theorem withPending_eq {frontier purpose} (h : message.frontier? = some frontier) :
    t.withPending next message now purpose
      = { t with pending := some ⟨next, frontier, now, purpose⟩ } := by
  rw [withPending, h]
  rfl

theorem blank_of_stagingCursor {cursor} (h : t.stagingCursor host true = .ok cursor) :
    cursor.viewHash = none := by
  simp only [stagingCursor, if_true, InterestProjectionState.freshBaseline, bind_eq_ok,
    pure_eq_ok] at h
  obtain ⟨epoch, -, rfl⟩ := h
  rfl

theorem Routed.stage {freshBaseline : Bool} {cursor : InterestProjectionState}
    (h : t.Routed sent acknowledged) (htwo : state.twoCell = true)
    (hidle : freshBaseline = false → t.pending = none)
    (hblank : freshBaseline = true → cursor.viewHash = none)
    (hframe : state.projectedInterestFrameAt cursor t.projectionRoute = .ok (message, next))
    (hlaunched : t.Launched t' message (t.stagedPurpose freshBaseline))
    (hlogs : Logs sent state [message]) : t'.Routed sent acknowledged := by
  obtain ⟨route, hroute, hresident, hprojected⟩ := projected_at htwo hframe
  obtain ⟨launched, hlaunch, hfrontier, hpurposed⟩ := hlaunched.pending
  obtain ⟨first, hfirst⟩ := h.initial
  cases hacknowledged : t.acknowledgedFrontier with
  | some acked =>
    have hpurpose : t.stagedPurpose freshBaseline = if freshBaseline then .recovery else .ordinary := by
      simp [stagedPurpose, hacknowledged]
    refine h.replaced hlaunched.acknowledgedFrontier hlaunched.residentRoute
      hlaunched.initialRoute hlaunch ?_ fun hnone => ?_
    · unfold InFlight
      rw [hpurposed, hpurpose]
      cases freshBaseline <;> simp [hacknowledged]
    · rw [hacknowledged] at hnone
      cases hnone
  | none =>
    have hpurpose : t.stagedPurpose freshBaseline = .initialRoute first := by
      simp [stagedPurpose, hacknowledged, hfirst]
    obtain ⟨-, pending, route', hpending, hinitial⟩ := h.unacknowledged hacknowledged
    have hflight := h.inFlight pending hpending
    unfold InFlight at hflight
    rw [hinitial] at hflight
    obtain rfl : route' = first := Option.mem_unique hflight.2.1 hfirst
    cases freshBaseline with
    | false => cases (hidle rfl).symm.trans hpending
    | true =>
      obtain rfl : route' = route := by
        have hprojection : t.projectionRoute = some route' := by
          simp [projectionRoute, hpending, hinitial, PendingFramePurpose.route]
        exact Option.mem_unique hprojection hroute
      obtain ⟨baseline, hbaseline⟩ := baseline_of_blank (hblank rfl) hprojected
      refine h.replaced hlaunched.acknowledgedFrontier hlaunched.residentRoute
        hlaunched.initialRoute hlaunch ?_ fun _ => ⟨route', hpurposed.trans hpurpose⟩
      unfold InFlight
      rw [hpurposed, hpurpose]
      refine ⟨hacknowledged, hfirst, hlogs message (List.mem_singleton_self _) route' _ ?_ hfrontier⟩
      exact ⟨hresident, ⟨baseline, hbaseline⟩, cursor, next, hprojected⟩

theorem Routed.stageTransfer {handoff} (h : t.Routed sent acknowledged)
    (htwo : state.twoCell = true) (hstaged : t.stageTransfer state handoff now = .ok (message, t'))
    (hlogs : Logs sent state [message]) :
    t'.Routed sent acknowledged := by
  simp only [SessionTransport.stageTransfer, bind_eq_ok] at hstaged
  obtain ⟨⟨⟩, hguard, ⟨frame, next⟩, hproject, hstaged⟩ := hstaged
  cases frame with
  | interestBaseline baseline =>
    obtain ⟨rfl, rfl⟩ := Prod.mk.inj (Except.ok.inj hstaged)
    simp only [validateTransferStage, bind_eq_ok, rejectIf_eq_ok, demand_eq_ok] at hguard
    obtain ⟨-, -, -, hacknowledged, before, hbefore, hcontinues⟩ := hguard
    simp only [projectTransfer, bind_eq_ok] at hproject
    obtain ⟨cursor, -, hframe⟩ := hproject
    obtain ⟨route, hroute, hresident, hprojected⟩ := projected_at htwo hframe
    obtain rfl := Option.some.inj hroute
    obtain ⟨frontier, hfrontier⟩ := frontier_of_project hprojected
    rw [withPending_eq hfrontier]
    have hacked : t.acknowledgedFrontier ≠ none := fun hnone => hacknowledged (.inr hnone)
    refine h.replaced rfl rfl rfl rfl ?_ fun hnone => absurd hnone hacked
    unfold InFlight
    refine ⟨hacked, ⟨before, hbefore, ?_⟩, hlogs _ (List.mem_singleton_self _) _ frontier
      ⟨hresident, ⟨baseline, rfl⟩, cursor, next, hprojected⟩ hfrontier⟩
    obtain ⟨-, hnext⟩ := checkedAdd_eq_some.mp (Decidable.not_not.mp fun hne => hcontinues (.inr hne))
    exact hnext.symm
  | _ => cases hstaged

end SessionTransport

/-! ## Turns -/

theorem AppState.frontier_of_projected {cursor next route message}
    (h : state.projectedInterestFrameAt cursor route = .ok (message, next)) :
    ∃ frontier, message.frontier? = some frontier := by
  simp only [AppState.projectedInterestFrameAt, bind_eq_ok] at h
  obtain ⟨source, -, hframe⟩ := h
  exact frontier_of_project hframe

theorem SessionTransport.stage_cases (t : SessionTransport) (state : AppState host)
    (freshBaseline : Bool) (now : Nat) :
    (∃ e t', t.stage state freshBaseline now = (.error e, t') ∧ t.Alike t')
      ∨ ∃ cursor message next t', t.stage state freshBaseline now = (.ok message, t')
        ∧ (freshBaseline = true → cursor.viewHash = none)
        ∧ state.projectedInterestFrameAt cursor t.projectionRoute = .ok (message, next)
        ∧ t.Launched t' message (t.stagedPurpose freshBaseline) := by
  have hkept : ∀ t₀ : SessionTransport, t.Alike t₀ → t₀.projectionRoute = t.projectionRoute →
      t₀.stagedPurpose freshBaseline = t.stagedPurpose freshBaseline →
      ∀ message next, t₀.project state freshBaseline = .ok (message, next) →
      ∃ cursor, (freshBaseline = true → cursor.viewHash = none)
        ∧ state.projectedInterestFrameAt cursor t.projectionRoute = .ok (message, next)
        ∧ t.Launched (t₀.withPending next message now (t₀.stagedPurpose freshBaseline)) message
          (t.stagedPurpose freshBaseline) := by
    intro t₀ halike hroute hpurpose message next hproject
    simp only [SessionTransport.project, bind_eq_ok] at hproject
    obtain ⟨cursor, hcursor, hframe⟩ := hproject
    rw [hroute] at hframe
    obtain ⟨frontier, hfrontier⟩ := AppState.frontier_of_projected hframe
    refine ⟨cursor, ?_, hframe, ⟨⟨next, frontier, now, t₀.stagedPurpose freshBaseline⟩, ?_,
      hfrontier, hpurpose⟩, ?_, ?_, ?_⟩
    · rintro rfl
      exact blank_of_stagingCursor hcursor
    · rw [SessionTransport.withPending_eq hfrontier]
    · exact halike.acknowledgedFrontier
    · exact halike.residentRoute
    · exact halike.initialRoute
  simp only [SessionTransport.stage]
  cases freshBaseline with
  | false =>
    simp only [Bool.false_eq_true, if_false]
    cases hproject : t.project state false with
    | error e => exact .inl ⟨e, t, rfl, .refl t⟩
    | ok frame =>
      obtain ⟨cursor, hstaged⟩ := hkept t (.refl t) rfl rfl frame.1 frame.2 hproject
      exact .inr ⟨cursor, frame.1, frame.2, _, rfl, False.elim, hstaged.2⟩
  | true =>
    simp only [if_true]
    cases hproject : t.supersede.project state true with
    | error e => exact .inl ⟨e, t.supersede, rfl, rfl, rfl, rfl, rfl⟩
    | ok frame =>
      obtain ⟨cursor, hstaged⟩ :=
        hkept t.supersede ⟨rfl, rfl, rfl, rfl⟩ rfl rfl frame.1 frame.2 hproject
      exact .inr ⟨cursor, frame.1, frame.2, _, rfl, fun _ => hstaged.1 rfl, hstaged.2⟩

variable {s s' : Session host} {now : Nat}

/-- What every turn of a session leaves alone. -/
structure Stays (s s' : Session host) : Prop where
  state : s'.state = s.state
  lastHandoffTransferId : s'.lastHandoffTransferId = s.lastHandoffTransferId

/-- All that a turn of a session can come to, if it takes up no handoff, and which
    acknowledgements it may take. -/
inductive Turn (acks : List InterestFrontier) (s s' : Session host) : Prop where
  | quiet {notices : List ServerMessage} (stays : Stays s s')
      (told : s'.toClient = s.toClient ++ notices) (plain : ∀ m ∈ notices, m.frontier? = none)
      (closed : s'.closed = false → s.closed = false) (alike : s.transport.Alike s'.transport)
  | staged {freshBaseline : Bool} {cursor next : InterestProjectionState} {message : ServerMessage}
      (stays : Stays s s') (told : s'.toClient = s.toClient ++ [message])
      (closed : s'.closed = s.closed) (idle : s.transport.recoveryIsPending = false)
      (settled : freshBaseline = false → s.transport.pending = none)
      (blank : freshBaseline = true → cursor.viewHash = none)
      (projected : s.state.projectedInterestFrameAt cursor s.transport.projectionRoute
        = .ok (message, next))
      (launched : s.transport.Launched s'.transport message
        (s.transport.stagedPurpose freshBaseline))
  | acknowledged {pending : PendingInterestFrame} (stays : Stays s s')
      (told : s'.toClient = s.toClient) (closed : s'.closed = s.closed)
      (waited : s.transport.pending = some pending) (taken : pending.frontier ∈ acks)
      (landed : s'.transport.pending = none)
      (frontier : s'.transport.acknowledgedFrontier = some pending.frontier)
      (route : s'.transport.residentRoute = (pending.purpose.route <|> s.transport.residentRoute))
      (initialRoute : s'.transport.initialRoute = s.transport.initialRoute)

variable {toServer : List ClientAnswer} {freshBaseline : Bool} {acks : List InterestFrontier}

namespace Turn

theorem same (stays : Stays s s') (client : s'.toClient = s.toClient)
    (closed : s'.closed = false → s.closed = false) (alike : s.transport.Alike s'.transport) :
    Turn acks s s' :=
  .quiet stays (client.trans (List.append_nil _).symm) (fun _ h => nomatch h) closed alike

theorem ending {transport} (alike : s.transport.Alike transport) (code text : String) :
    Turn acks s (({ s with transport } : Session host).fatal code text) :=
  .quiet ⟨rfl, rfl⟩ rfl (fun _ h => List.mem_singleton.mp h ▸ rfl)
    (fun h => nomatch h) alike

theorem fatal (code text : String) : Turn acks s (s.fatal code text) := ending (.refl _) code text

/-- What comes after the loop has taken a message, or counted a recovery. -/
theorem after {started count : Nat}
    (h : Turn acks { s with
      toServer
      transport := { s.transport with
        recoveryWindowStartedAt := started
        recoveriesInWindow := count } } s') : Turn acks s s' := by
  cases h with
  | quiet stays told plain closed alike =>
    exact .quiet ⟨stays.1, stays.2⟩ told plain closed ⟨alike.1, alike.2, alike.3, alike.4⟩
  | staged stays told closed idle settled blank projected launched =>
    exact .staged ⟨stays.1, stays.2⟩ told closed idle settled blank projected
      ⟨launched.1, launched.2, launched.3, launched.4⟩
  | acknowledged stays told closed waited taken landed frontier route initialRoute =>
    exact .acknowledged ⟨stays.1, stays.2⟩ told closed waited taken landed frontier route
      initialRoute

theorem stage (freshBaseline : Bool) (now : Nat)
    (hidle : s.transport.recoveryIsPending = false)
    (hsettled : freshBaseline = false → s.transport.pending = none)
    (hs' : s' = match s.transport.stage s.state freshBaseline now with
      | (.ok message, transport) => ({ s with transport } : Session host).send message
      | (.error _, transport) =>
        if s.state.residentRouteIsStale transport.residentRoute then { s with transport }
        else ({ s with transport } : Session host).fatal "projection_unavailable"
          "authorized state projection is unavailable") : Turn acks s s' := by
  rcases s.transport.stage_cases s.state freshBaseline now with ⟨e, t', hstage, halike⟩ |
    ⟨cursor, message, next, t', hstage, hblank, hprojected, hlaunched⟩
  · rw [hstage] at hs'
    dsimp only at hs'
    split at hs' <;> subst hs'
    · exact .same ⟨rfl, rfl⟩ rfl id halike
    · exact ending halike _ _
  · rw [hstage] at hs'
    dsimp only at hs'
    subst hs'
    exact .staged ⟨rfl, rfl⟩ rfl rfl hidle hsettled hblank hprojected hlaunched

theorem stageFresh (hidle : s.transport.recoveryIsPending = false) :
    Turn acks s (s.stageFresh now) := by
  refine stage true now hidle (fun h => nomatch h) ?_
  rw [Session.stageFresh]
  cases hstage : s.transport.stage s.state true now with
  | mk answer transport => cases answer <;> rfl

theorem recovered (hidle : s.transport.recoveryIsPending = false) :
    Turn acks s
      (({ s with toServer, transport := (s.transport.permitRecovery now).2 } : Session host).stageFresh
        now) := by
  obtain ⟨started, count, heq⟩ := s.transport.permitRecovery_same now
  rw [heq]
  exact (stageFresh (s := { s with
    toServer
    transport := { s.transport with
      recoveryWindowStartedAt := started
      recoveriesInWindow := count } }) hidle).after

theorem recovering {code text : String} :
    Turn acks s
      (({ s with toServer, transport := (s.transport.permitRecovery now).2 } : Session host).fatal
        code text) := by
  obtain ⟨started, count, heq⟩ := s.transport.permitRecovery_same now
  rw [heq]
  exact (fatal (s := { s with
    toServer
    transport := { s.transport with
      recoveryWindowStartedAt := started
      recoveriesInWindow := count } }) code text).after

theorem tick {update : Bool} : Turn acks s (s.tick update now) := by
  rw [Session.tick]
  split
  · dsimp only
    split
    · exact fatal _ _
    · rename_i hrecovers
      exact recovered (Bool.not_eq_true _ ▸ fun h => hrecovers (.inl h))
  · split
    · exact .same ⟨rfl, rfl⟩ rfl id (.refl _)
    · rename_i hidle
      have hnone : s.transport.pending = none :=
        Option.not_isSome_iff_eq_none.mp fun hsome => hidle (.inl hsome)
      have hsettled : s.transport.recoveryIsPending = false := by
        rw [SessionTransport.recoveryIsPending, hnone]
        rfl
      refine stage false now hsettled (fun _ => hnone) ?_
      cases hstage : s.transport.stage s.state false now with
      | mk answer transport => cases answer <;> rfl

theorem requestSnapshot :
    Turn acks s (({ s with toServer } : Session host).requestSnapshot now) := by
  rw [Session.requestSnapshot]
  split
  · exact .same ⟨rfl, rfl⟩ rfl id (.refl _)
  · rename_i hidle
    split
    · exact .same ⟨rfl, rfl⟩ rfl id (.refl _)
    · dsimp only
      split
      · exact recovering
      · exact recovered (Bool.not_eq_true _ ▸ hidle)

theorem acknowledged_of {ack} :
    Turn [ack] s { s with toServer, transport := (s.transport.acknowledge ack).2 } := by
  rcases s.transport.acknowledge_cases ack with hsame | ⟨pending, hpending, rfl, heq⟩
  · rw [hsame]
    exact .same ⟨rfl, rfl⟩ rfl id (.refl _)
  · rw [heq]
    exact .acknowledged ⟨rfl, rfl⟩ rfl rfl hpending (List.mem_singleton_self _) rfl rfl rfl rfl

theorem acknowledgeInterest {ack} :
    Turn [ack] s (({ s with toServer } : Session host).acknowledgeInterest ack now) := by
  rw [Session.acknowledgeInterest]
  split
  · exact acknowledged_of
  · exact acknowledged_of
  · exact acknowledged_of
  · exact .same ⟨rfl, rfl⟩ rfl id (.refl _)
  · dsimp only
    split
    · exact (fatal (s := { s with toServer }) _ _).after
    · rename_i hrecovers
      exact recovered (Bool.not_eq_true _ ▸ fun h => hrecovers (.inl h))

theorem move {move} (h : (∃ update now, move = .tick update now) ∨ ∃ now, move = .receive now) :
    Turn (Controlled.taking s move) s (s.move move) := by
  rcases h with ⟨update, now, rfl⟩ | ⟨now, rfl⟩
  · rw [Session.move]
    split
    · exact .same ⟨rfl, rfl⟩ rfl id (.refl _)
    · exact tick
  · rw [Session.move]
    split
    · exact .same ⟨rfl, rfl⟩ rfl id (.refl _)
    · rename_i hopen
      rw [Session.receive]
      split
      · exact .same ⟨rfl, rfl⟩ rfl id (.refl _)
      · exact requestSnapshot
      · rename_i ack rest hqueue
        have htaken : Controlled.taking s (.receive now) = [ack] := by
          simp only [Controlled.taking, Bool.not_eq_true _ ▸ hopen, hqueue]
        rw [htaken]
        exact acknowledgeInterest

theorem residentRoute (h : Turn [] s s') :
    s'.transport.residentRoute = s.transport.residentRoute := by
  cases h with
  | quiet _ _ _ _ alike => exact alike.residentRoute
  | staged _ _ _ _ _ _ _ launched => exact launched.residentRoute
  | acknowledged _ _ _ _ taken => cases taken

end Turn

/-- What a turn of a session leaves: its frames sent behind those already sent, the worlds and the
    client's messages as they were, and a transport that is routed by what has now been sent. -/
structure Turned (sent : Baselines) (acknowledged : ResidentPlayerRoute → Prop)
    (s s' : Session host) (frames : List ServerMessage) : Prop where
  toClient : s'.toClient = s.toClient ++ frames
  state : s'.state = s.state
  routed : Logs sent s.state frames → s'.transport.Routed sent acknowledged

namespace Turned

variable {sent : Baselines} {acknowledged : ResidentPlayerRoute → Prop}

theorem quiet (hrouted : s'.transport.Routed sent acknowledged) (hclient : s'.toClient = s.toClient)
    (hstate : s'.state = s.state) : Turned sent acknowledged s s' [] :=
  ⟨by rw [hclient, List.append_nil], hstate, fun _ => hrouted⟩

theorem of_turn {before : Baselines} (h : s.transport.Routed before acknowledged)
    (hmore : ∀ f r, before f r → sent f r) (htwo : s.state.twoCell = true)
    (hacks : ∀ ack ∈ acks, ∀ r, before ack r → acknowledged r) (hturn : Turn acks s s') :
    ∃ frames, Turned sent acknowledged s s' frames := by
  have hkept := h.mono hmore fun _ hr => hr
  cases hturn with
  | quiet stays told plain closed alike =>
    exact ⟨_, told, stays.state, fun _ => hkept.congr alike.acknowledgedFrontier
      alike.residentRoute alike.initialRoute alike.pending⟩
  | staged stays told closed idle settled blank projected launched =>
    exact ⟨_, told, stays.state, fun hlogs =>
      hkept.stage htwo settled blank projected launched hlogs⟩
  | acknowledged stays told closed waited taken landed frontier route initialRoute =>
    exact ⟨[], .quiet ((h.landed waited (hacks _ taken) landed frontier route initialRoute).mono
      hmore fun _ hr => hr) told stays.state⟩

theorem handoff {handoff : CompletedPlayerHandoff} (h : s.transport.Routed sent acknowledged)
    (htwo : s.state.twoCell = true) :
    ∃ frames, Turned sent acknowledged s (s.handoff handoff now) frames := by
  rw [Session.handoff]
  split
  · exact ⟨[], .quiet h rfl rfl⟩
  · cases hstaged : s.transport.stageTransfer s.state handoff now with
    | error e => exact ⟨_, rfl, rfl, fun _ => h⟩
    | ok frame =>
      obtain ⟨message, transport⟩ := frame
      refine ⟨_, rfl, rfl, fun hlogs => h.stageTransfer htwo hstaged fun other hother => ?_⟩
      obtain rfl := List.mem_singleton.mp hother
      exact hlogs other (by simp)

end Turned

/-! ## The route of a session -/

theorem handoff_residentRoute {handoff} :
    (s.handoff handoff now).transport.residentRoute = s.transport.residentRoute := by
  rw [Session.handoff]
  split
  · rfl
  · split
    · rfl
    · rename_i message transport hstaged
      obtain ⟨next, -, -, rfl⟩ := Agreed.stageTransfer_eq_ok hstaged
      rfl

/-! ## Runs -/

namespace Controlled

variable {c : Controlled host} {text : Except RuntimeError IntentReceipt → String}

/-- A session, its coordinator and the record agree with each other. -/
structure Held (c : Controlled host) : Prop where
  twoCell : c.session.state.twoCell = true
  resident : c.session.state.resident = residence c.coordinator c.playerId
  routed : c.session.transport.Routed c.HasSent c.HasAcknowledged

variable {route : ResidentPlayerRoute}

theorem HasAcknowledged.longer {c' : Controlled host} {more} (h : c.HasAcknowledged route)
    (htaken : c'.taken = c.taken ++ more) :
    c'.HasAcknowledged route := by
  obtain ⟨taken, hin, hdone⟩ := h
  refine ⟨taken, ?_, hdone⟩
  rw [htaken]
  exact List.mem_append_left _ hin

theorem HasSent.longer {c' : Controlled host} {frontier more} (h : c.HasSent frontier route)
    (hsent : c'.sent = c.sent ++ more) : c'.HasSent frontier route := by
  obtain ⟨sent, hin, hdone⟩ := h
  refine ⟨sent, ?_, hdone⟩
  rw [hsent]
  exact List.mem_append_left _ hin

/-- What a turn that keeps the worlds adds to the frames sent. -/
theorem sending_eq {before after : Session host} {frames}
    (h : after.toClient = before.toClient ++ frames) :
    (after.toClient.drop before.toClient.length).map (fun message => (⟨message, before.state⟩ : Sent host))
      = frames.map fun message => ⟨message, before.state⟩ := by
  rw [h, List.drop_left]

theorem Held.sends {session : Session host} {acks : List InterestFrontier} (h : Held c)
    (hturned : ∀ (before sent : Baselines) (acknowledged : ResidentPlayerRoute → Prop),
      c.session.transport.Routed before acknowledged → (∀ f r, before f r → sent f r) →
      (∀ ack ∈ acks, ∀ r, before ack r → acknowledged r) →
      ∃ frames, Turned sent acknowledged c.session session frames) :
    Held { c with
      session
      sent := c.sent ++ (session.toClient.drop c.session.toClient.length).map
        fun message => ⟨message, c.session.state⟩
      taken := c.taken ++ acks.map (⟨·, c.sent⟩) } := by
  obtain ⟨c', hc'⟩ : ∃ c' : Controlled host, c' = { c with
      session
      sent := c.sent ++ (session.toClient.drop c.session.toClient.length).map
        fun message => ⟨message, c.session.state⟩
      taken := c.taken ++ acks.map (⟨·, c.sent⟩) } := ⟨_, rfl⟩
  have hsent : c'.sent = c.sent ++ _ := congrArg sent hc'
  have htaken : c'.taken = c.taken ++ acks.map (⟨·, c.sent⟩) := congrArg taken hc'
  have hacks : ∀ ack ∈ acks, ∀ r, c.HasSent ack r → c'.HasAcknowledged r := by
    rintro ack hin r ⟨sent, hsent, hdone⟩
    refine ⟨⟨ack, c.sent⟩, ?_, sent, hsent, hdone⟩
    rw [htaken]
    exact List.mem_append_right _ (List.mem_map.mpr ⟨ack, hin, rfl⟩)
  obtain ⟨frames, hframes⟩ := hturned c.HasSent c'.HasSent c'.HasAcknowledged
    (h.routed.mono (fun _ _ hr => hr) fun _ hr => hr.longer htaken) (fun _ _ hr => hr.longer hsent)
    hacks
  rw [← hc']
  rw [sending_eq hframes.toClient] at hsent
  have hsession : c'.session = session := congrArg Controlled.session hc'
  refine ⟨?_, ?_, ?_⟩
  · rw [hsession]
    exact (congrArg AppState.twoCell hframes.state).trans h.twoCell
  · rw [hsession, show residence c'.coordinator c'.playerId = residence c.coordinator c.playerId
      by rw [hc']]
    exact (congrArg AppState.resident hframes.state).trans h.resident
  · rw [hsession]
    refine hframes.routed fun message hmessage route frontier hbaseline hfrontier => ?_
    refine ⟨⟨message, c.session.state⟩, ?_, hbaseline, hfrontier⟩
    rw [hsent]
    exact List.mem_append_right _ (List.mem_map.mpr ⟨message, hmessage, rfl⟩)

theorem Held.still {session : Session host} (h : Held c)
    (htwo : session.state.twoCell = c.session.state.twoCell)
    (hresident : session.state.resident = c.session.state.resident)
    (htransport : session.transport = c.session.transport) :
    Held { c with session, sent := c.sent ++ [], taken := c.taken ++ [] } := by
  refine ⟨htwo.trans h.twoCell, hresident.trans h.resident, ?_⟩
  rw [htransport]
  exact h.routed.mono (fun _ _ hr => hr.longer rfl) fun _ hr => hr.longer rfl

theorem Held.withCoordinator (h : Held c) (coordinator : LocalTwoCellRuntime) :
    Held (c.withCoordinator coordinator) := ⟨h.twoCell, rfl, h.routed⟩

theorem publish_keeps (state : AppState host) (key : Directory.CellKeyV1) (source : ProjectionSource) :
    (state.publish key source).twoCell = state.twoCell
      ∧ (state.publish key source).resident = state.resident := by
  rw [AppState.publish]
  split <;> exact ⟨rfl, rfl⟩

theorem deliver_keeps (s : Session host) :
    s.deliver.state = s.state ∧ s.deliver.transport = s.transport := by
  rw [Session.deliver]
  split
  · exact ⟨rfl, rfl⟩
  · split <;> exact ⟨rfl, rfl⟩

theorem answerIntent_keeps (s : Session host) (answer : Except RuntimeError IntentReceipt) :
    (answerIntent text s answer).state = s.state
      ∧ (answerIntent text s answer).transport = s.transport := by
  cases answer with
  | ok receipt => exact ⟨rfl, rfl⟩
  | error source =>
    simp only [answerIntent]
    split <;> exact ⟨rfl, rfl⟩

/-- Whatever turn is taken, the session, the coordinator and the record still agree. -/
theorem Held.step (h : Held c) (move : ControlMove) : Held (c.step text move) := by
  cases move with
  | session move =>
    cases move with
    | publish key source =>
      obtain ⟨htwo, hresident⟩ := publish_keeps c.session.state key source
      exact h.still htwo hresident rfl
    | reside route => exact h
    | tick update now =>
      exact h.sends fun before sent acknowledged hrouted hmore hacks =>
        Turned.of_turn hrouted hmore h.twoCell hacks (Turn.move (.inl ⟨update, now, rfl⟩))
    | handoff handoff now =>
      refine h.sends fun before sent acknowledged hrouted hmore _ => ?_
      have hkept := hrouted.mono hmore fun _ hr => hr
      rw [Session.move]
      split
      · exact ⟨[], .quiet hkept rfl rfl⟩
      · exact Turned.handoff hkept h.twoCell
    | receive now =>
      exact h.sends fun before sent acknowledged hrouted hmore hacks =>
        Turned.of_turn hrouted hmore h.twoCell hacks (Turn.move (.inr ⟨now, rfl⟩))
    | request => exact h.still rfl rfl rfl
    | deliver =>
      obtain ⟨hstate, htransport⟩ := deliver_keeps c.session
      exact h.still (congrArg AppState.twoCell hstate) (congrArg AppState.resident hstate) htransport
  | advance next => exact h.withCoordinator next
  | forge answer => exact ⟨h.twoCell, h.resident, h.routed⟩
  | intent eventId message =>
    rw [Controlled.step]
    split
    · exact h
    · obtain ⟨hstate, htransport⟩ := answerIntent_keeps
        (c.withCoordinator (c.answer eventId message).2).session (c.answer eventId message).1
      have hheld := h.withCoordinator (c.answer eventId message).2
      exact ⟨(congrArg AppState.twoCell hstate).trans hheld.twoCell,
        (congrArg AppState.resident hstate).trans hheld.resident, htransport ▸ hheld.routed⟩

variable {coordinator : LocalTwoCellRuntime}

theorem held_of_start {state} {sessionEpoch playerId completedId : String} {client} {now : Nat}
    (h : start state coordinator sessionEpoch playerId completedId client now = .ok c) :
    Held c := by
  simp only [start, bind_eq_ok, pure_eq_ok] at h
  obtain ⟨session, hsession, rfl⟩ := h
  simp only [Session.start, if_true, bind_eq_ok, map_eq_ok, demand_eq_ok, pure_eq_ok] at hsession
  obtain ⟨_, ⟨route, hresident, rfl⟩, source, hsource, ⟨message, transport⟩, hinitial, rfl⟩ := hsession
  obtain ⟨next, -, hproject, rfl⟩ := stageInitial_eq_ok hinitial
  obtain ⟨frontier, hfrontier⟩ := frontier_of_project hproject
  obtain ⟨baseline, hbaseline⟩ := baseline_of_blank rfl hproject
  rw [SessionTransport.withPending_eq hfrontier]
  refine ⟨rfl, rfl, ⟨route, rfl⟩, fun _ => ⟨rfl, _, route, rfl, rfl⟩, fun hacked => absurd rfl hacked,
    fun pending hpending => ?_⟩
  obtain rfl := Option.some.inj hpending
  refine ⟨rfl, rfl, ⟨message, _⟩, List.mem_singleton_self _, ⟨hresident, ⟨baseline, hbaseline⟩, ?_⟩,
    hfrontier⟩
  obtain rfl := AppState.cells_of_revision hsource
  exact ⟨_, next, hproject⟩

/-! ## The route of a session, step by step -/

theorem step_residentRoute (move : ControlMove)
    (h : ∀ now, move ≠ .session (.receive now)) :
    (c.step text move).session.transport.residentRoute = c.session.transport.residentRoute := by
  cases move with
  | session move =>
    cases move with
    | publish key source | reside route | request => rfl
    | tick update now => exact Turn.residentRoute (Turn.move (.inl ⟨update, now, rfl⟩))
    | handoff handoff now =>
      show (c.session.move (.handoff handoff now)).transport.residentRoute = _
      rw [Session.move]
      split
      · rfl
      · exact handoff_residentRoute
    | receive now => exact absurd rfl (h now)
    | deliver => exact congrArg SessionTransport.residentRoute (deliver_keeps c.session).2
  | advance next | forge answer => rfl
  | intent eventId message =>
    rw [Controlled.step]
    split
    · rfl
    · exact congrArg SessionTransport.residentRoute (answerIntent_keeps _ _).2

theorem mem_taking {ack : InterestFrontier} {now : Nat} {s : Session host}
    (h : ack ∈ taking s (.receive now)) : ∃ rest, s.toServer = .acknowledgeInterest ack :: rest := by
  simp only [taking] at h
  split at h
  · rename_i rest _ hqueue
    exact ⟨rest, List.mem_singleton.mp h ▸ hqueue⟩
  · cases h

theorem Held.installs (h : Held c) {move : ControlMove}
    (hchanged : (c.step text move).session.transport.residentRoute
      ≠ c.session.transport.residentRoute) :
    ∃ route, (c.step text move).session.transport.residentRoute = some route
      ∧ c.RouteInstalled move route := by
  by_cases hreceive : ∃ now, move = .session (.receive now)
  case neg => exact absurd (step_residentRoute move fun now hnow => hreceive ⟨now, hnow⟩) hchanged
  obtain ⟨now, rfl⟩ := hreceive
  change (c.session.move (.receive now)).transport.residentRoute ≠ _ at hchanged
  show ∃ route, (c.session.move (.receive now)).transport.residentRoute = some route ∧ _
  cases Turn.move (s := c.session) (.inr ⟨now, rfl⟩) with
  | quiet _ _ _ _ alike => exact absurd alike.residentRoute hchanged
  | staged _ _ _ _ _ _ _ launched => exact absurd launched.residentRoute hchanged
  | @acknowledged pending _ _ _ hpending taken _ _ hroute =>
    obtain ⟨rest, hqueue⟩ := mem_taking taken
    have hflight := h.routed.inFlight pending hpending
    unfold SessionTransport.InFlight at hflight
    rw [hroute] at hchanged ⊢
    cases hpurpose : pending.purpose with
    | ordinary | recovery =>
      rw [hpurpose] at hchanged
      exact absurd rfl hchanged
    | initialRoute route =>
      rw [hpurpose] at hflight
      obtain ⟨hfirst, hinitial, hsent⟩ := hflight
      refine ⟨route, rfl, ⟨now, pending.frontier, rest, pending, rfl, hqueue, hpending, rfl,
        by rw [hpurpose]; rfl, hsent⟩, ?_⟩
      rw [(h.routed.unacknowledged hfirst).1]
      exact hinitial
    | destinationHandoff transferId route =>
      rw [hpurpose] at hflight
      obtain ⟨-, ⟨before, hbefore, hnext⟩, hsent⟩ := hflight
      refine ⟨route, rfl, ⟨now, pending.frontier, rest, pending, rfl, hqueue, hpending, rfl,
        by rw [hpurpose]; rfl, hsent⟩, ?_⟩
      rw [hbefore]
      exact hnext

theorem Held.acknowledged (h : Held c)
    (hroute : c.session.transport.residentRoute = some route) : c.HasAcknowledged route := by
  cases hfrontier : c.session.transport.acknowledgedFrontier with
  | none =>
    rw [(h.routed.unacknowledged hfrontier).1] at hroute
    cases hroute
  | some frontier =>
    obtain ⟨route', hroute', hdone⟩ := h.routed.resident (by rw [hfrontier]; nofun)
    rw [hroute'] at hroute
    exact Option.some.inj hroute ▸ hdone

/-! ## Intents -/

/-- An intent under a route that is not the player's current one changes nothing. -/
theorem executeAsAt_unchanged {eventId playerId : String} {route intent}
    (h : ∀ r, route = some r → coordinator.residentPlayerRoute playerId ≠ .ok r) :
    (∃ source, (executeAsAt coordinator eventId playerId route intent).1 = .error source)
      ∧ (executeAsAt coordinator eventId playerId route intent).2 = coordinator := by
  cases route with
  | none => exact ⟨⟨_, rfl⟩, rfl⟩
  | some route =>
    rw [executeAsAt]
    cases hlookup : coordinator.runtimeForPlayerAt playerId route with
    | error source => exact ⟨⟨_, rfl⟩, rfl⟩
    | ok cell =>
      simp only [LocalTwoCellRuntime.runtimeForPlayerAt, bind_eq_ok, rejectIf_eq_ok] at hlookup
      obtain ⟨current, hcurrent, -, hsame, -⟩ := hlookup
      obtain rfl : current = route := Decidable.not_not.mp hsame
      exact absurd hcurrent (h current rfl)

theorem executeAsAt_stale {eventId playerId : String} {route current intent}
    (hcurrent : coordinator.residentPlayerRoute playerId = .ok current) (hstale : current ≠ route) :
    executeAsAt coordinator eventId playerId (some route) intent
      = (.error (.intent (.rejected "player_route_stale" s!"player {playerId} route is stale")),
          coordinator) := by
  have hlookup : coordinator.runtimeForPlayerAt playerId route
      = .error (.stalePlayerRoute playerId route current) := by
    rw [LocalTwoCellRuntime.runtimeForPlayerAt, hcurrent]
    simp [rejectIf, hstale]
  rw [executeAsAt, hlookup]
  rfl

/-- What a coordinator admits of a session that it shares a player with. -/
structure Admits (text : Except RuntimeError IntentReceipt → String) (c : Controlled host) :
    Prop where
  /-- An intent is carried out only at the player's current placement, and only once a complete
      baseline of that placement has been acknowledged. -/
  acknowledged : ∀ eventId message, c.Executes eventId message → ∃ route,
    c.coordinator.residentPlayerRoute c.playerId = .ok route
      ∧ c.session.transport.residentRoute = some route ∧ c.HasAcknowledged route
  /-- Whatever changes the route installs one. -/
  installs : ∀ move, (c.step text move).session.transport.residentRoute
      ≠ c.session.transport.residentRoute →
    ∃ route, (c.step text move).session.transport.residentRoute = some route
      ∧ c.RouteInstalled move route
  /-- Before the first acknowledgement an intent is rejected, and nothing else happens. -/
  missing : c.session.closed = false → c.session.transport.residentRoute = none →
    ∀ eventId message, (c.answer eventId message).1 = .error (.intent
        (.rejected "player_route_unacknowledged"
          "acknowledge the current cell baseline before submitting controls"))
      ∧ (c.step text (.intent eventId message)).coordinator = c.coordinator
      ∧ (c.step text (.intent eventId message)).session.closed = false
  /-- So it is where the player has moved on. -/
  stale : c.session.closed = false → ∀ route current,
    c.session.transport.residentRoute = some route →
    c.coordinator.residentPlayerRoute c.playerId = .ok current → current ≠ route →
    ∀ eventId message, (c.answer eventId message).1 = .error (.intent
        (.rejected "player_route_stale" s!"player {c.playerId} route is stale"))
      ∧ (c.step text (.intent eventId message)).coordinator = c.coordinator
      ∧ (c.step text (.intent eventId message)).session.closed = false

theorem step_rejected {eventId code text' : String} {message} (hopen : c.session.closed = false)
    (h : c.answer eventId message = (.error (.intent (.rejected code text')), c.coordinator)) :
    (c.answer eventId message).1 = .error (.intent (.rejected code text'))
      ∧ (c.step text (.intent eventId message)).coordinator = c.coordinator
      ∧ (c.step text (.intent eventId message)).session.closed = false := by
  refine ⟨congrArg Prod.fst h, ?_⟩
  simp only [Controlled.step, hopen, Bool.false_eq_true, if_false, h]
  exact ⟨rfl, hopen⟩

theorem Held.admits (h : Held c) : Admits text c where
  acknowledged eventId message hexecutes := by
    by_contra hnone
    have hunchanged : (∃ source, (c.answer eventId message).1 = .error source)
        ∧ (c.answer eventId message).2 = c.coordinator :=
      executeAsAt_unchanged fun route hroute hcurrent =>
        hnone ⟨route, hcurrent, hroute, h.acknowledged hroute⟩
    obtain ⟨⟨source, hsource⟩, hsame⟩ := hunchanged
    rcases hexecutes with ⟨receipt, hreceipt⟩ | hchanged
    · rw [hsource] at hreceipt
      cases hreceipt
    · exact hchanged hsame
  installs _ hchanged := h.installs hchanged
  missing hopen hroute eventId message := by
    apply step_rejected hopen
    rw [answer, hroute]
    rfl
  stale hopen route current hroute hcurrent hstale eventId message := by
    apply step_rejected hopen
    rw [answer, hroute]
    exact executeAsAt_stale hcurrent hstale

/-- Control follows the acknowledged route: in every run of a session in a two-cell worker, in
    whatever order it, its client and the coordinator take their turns, and whatever the client
    answers. -/
theorem control_follows_acknowledged_route {state : AppState host}
    {coordinator : LocalTwoCellRuntime} {sessionEpoch playerId completedTransferId : String}
    {client : InterestVerifier} {now : Nat}
    (h : start state coordinator sessionEpoch playerId completedTransferId client now = .ok c)
    (moves : List ControlMove) : Throughout (tick text) (Admits text) c moves := by
  have hheld := held_of_start h
  clear h
  induction moves generalizing c with
  | nil => exact hheld.admits
  | cons move rest ih =>
    refine ⟨hheld.admits, fun c' hc' => ?_⟩
    obtain rfl := Except.ok.inj hc'
    exact ih (hheld.step move)

end Controlled

/-! A player who waits in one of two cells for the acknowledgement of the first baseline. -/

namespace Overlap

open Verse.Runtime (Cell proofSite proofGenesis)

def hosted : Cell where
  store := {
    disk := .empty
    written := []
    samples := []
    transferBoundaries := .empty
    fencingToken := 1
    lifecycle := .acquired none proofSite.manifest proofSite.cellId "holder" 1 1 0 0
    lastTrustedUnixMs := 0
    writeEnabled := true
    recoveredObservedMode := none }
  state := proofGenesis
  eventsSinceSnapshot := 0
  sceneReady := false
  halted := false

def coordinator : LocalTwoCellRuntime where
  directory := {
    schemaVersion := 2
    universeId := "the-verse-local"
    universeManifestHash := proofHash
    directoryRevision := 1
    assignments := .empty
    placements := .ofList [
      ("player-1", ⟨"player-1", .player, homeKey, cellIdForKey homeKey, 1, .resident, none⟩)]
    transfers := .empty }
  cells := [⟨{ proofSite with cellKey := homeKey }, hosted⟩]
  halted := false

theorem resident_home : Controlled.residence coordinator "player-1" = some ⟨homeKey, 1⟩ := by
  decide +kernel

theorem controlled : ∃ c : Controlled (Overlap.host parse),
    Controlled.start (Overlap.state parse) coordinator "session" "player-1" "" client 0 = .ok c := by
  obtain ⟨session, hsession, -⟩ := started_refuses
  have hsame : ({ Overlap.state parse with
      twoCell := true
      resident := Controlled.residence coordinator "player-1" } : AppState (Overlap.host parse)) =
        Overlap.state parse := by
    rw [resident_home]
    rfl
  refine ⟨_, bind_eq_ok.mpr ⟨session, ?_, rfl⟩⟩
  rw [hsame]
  exact hsession

end Overlap

/-- The same intent before the first baseline and after its delivery. -/
theorem Controlled.control_follows_first_baseline : ∃ c,
    Controlled.start (Overlap.state Overlap.parse) Overlap.coordinator "session" "player-1" ""
        Overlap.client 0 = .ok c
      ∧ Throughout (Controlled.tick fun _ => "") (Controlled.Admits fun _ => "") c
          [.intent "event-1" (.mineVoxel 1 "operation-1" (.new 0 0 0)), .session .deliver,
            .session (.receive 0), .intent "event-1" (.mineVoxel 1 "operation-1" (.new 0 0 0))] := by
  obtain ⟨c, hc⟩ := Overlap.controlled
  exact ⟨c, hc, Controlled.control_follows_acknowledged_route hc _⟩

end Verse.Interest
