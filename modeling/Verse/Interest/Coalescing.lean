import Verse.Interest.Replication

/-!
# Replication loses nothing

The number of the last frame is the cursor, and the feed never falls behind what is published,
but for the resets: after a crossing of the player's own the session is `Waiting` for the
destination baseline, and after one of somebody else's the player's cell is published again. So a
session that does not wait and has nothing in flight is offered whatever its last frame does not
contain, its cursor never goes back within a cell, and the frame it has acknowledged when it is
offered nothing more is of the latest revision (`replication_loses_nothing`).

While a crossing is still to be taken up the numbers of the feed are those of the destination and
the cursor is of the source, so that nothing may be offered (`crossing_withholds`).
-/

namespace Verse.Interest

open Lib
open Directory (CellKeyV1)

/-! ## The feed -/

namespace ReplicationFeed

variable {feed : ReplicationFeed} {kind : ReplicationKind} {sequence : Nat}

/-- The number of the latest change. -/
def latest (feed : ReplicationFeed) : Nat :=
  max (feed.latestStructuralSequence.getD 0) (feed.latestMotionSequence.getD 0)

theorem latest_le_publish : feed.latest ≤ (feed.publish kind sequence).2.latest := by
  obtain ⟨structural, motion⟩ := feed
  cases kind <;> cases structural <;> cases motion <;> simp only [publish, latest] <;>
    split <;> simp <;> grind

theorem le_latest_publish : sequence ≤ (feed.publish kind sequence).2.latest := by
  obtain ⟨structural, motion⟩ := feed
  cases kind <;> cases structural <;> cases motion <;> simp [publish, latest] <;> grind

theorem nextAfter_isSome :
    (feed.nextAfter (.afterInitialSnapshot sequence)).isSome = true ↔ sequence < feed.latest := by
  obtain ⟨structural, motion⟩ := feed
  cases structural <;> cases motion <;>
    simp [nextAfter, latest, ReplicationCursor.afterInitialSnapshot, Option.filter] <;> grind

end ReplicationFeed

variable {host : Projecting} {s s' : Session host} {state : AppState host} {now : Nat}

/-! ## Turns of a session -/

theorem ServerMessage.frontier?_sequence {source cursor next message}
    (h : projectInterestFrame host source cursor OrdMap.empty = .ok (message, next)) :
    (∃ frontier, message.frontier? = some frontier)
      ∧ message.replicationEventSequence = some source.canonical.eventSequence := by
  refine ⟨frontier_of_project h, ?_⟩
  simp only [projectInterestFrame, bind_eq_ok] at h
  obtain ⟨⟨projected, next'⟩, hprojected, hframe⟩ := h
  have hsequence := (selected_of_snapshot hprojected).2
  split at hframe
  · obtain ⟨rfl, -⟩ := Prod.mk.inj (Except.ok.inj hframe)
    exact congrArg some hsequence
  · obtain ⟨rfl, -⟩ := Prod.mk.inj (Except.ok.inj hframe)
    exact congrArg some hsequence

theorem AppState.current_of_project {cursor next route message}
    (h : state.projectedInterestFrameAt cursor route = .ok (message, next)) :
    (state.twoCell = true → route = state.resident)
      ∧ projectInterestFrame host state.current cursor OrdMap.empty = .ok (message, next) := by
  simp only [AppState.projectedInterestFrameAt, bind_eq_ok] at h
  obtain ⟨source, hsource, hframe⟩ := h
  have hroute : state.twoCell = true → route = state.resident := by
    intro htwo
    simp only [AppState.projectionRevisionForAt, htwo, Bool.true_eq_false, if_false, bind_eq_ok,
      demand_eq_ok, rejectIf_eq_ok, pure_eq_ok] at hsource
    obtain ⟨r, rfl, -, hresident, -⟩ := hsource
    exact (Decidable.not_not.mp hresident).symm
  refine ⟨hroute, ?_⟩
  have hcell : state.cellAt route = state.currentCell := by
    simp only [AppState.currentCell, AppState.cellAt]
    split
    · rfl
    · rename_i htwo
      rw [hroute (Bool.not_eq_false _ ▸ htwo)]
  rw [AppState.current, ← hcell, ← AppState.cells_of_revision hsource]
  exact hframe

theorem framesSent_same (h : s'.toClient = s.toClient) : framesSent s s' = [] := by
  rw [framesSent, h, List.drop_length, List.filter_nil]

theorem framesSent_append {messages} (h : s'.toClient = s.toClient ++ messages) :
    framesSent s s' = messages.filter fun message => message.frontier?.isSome := by
  rw [framesSent, h, List.drop_left]

theorem framesSent_plain {notices} (hplain : ∀ m ∈ notices, m.frontier? = none)
    (h : s'.toClient = s.toClient ++ notices) : framesSent s s' = [] := by
  rw [framesSent_append h, List.filter_eq_nil_iff]
  intro m hm
  rw [hplain m hm]
  exact Bool.false_ne_true

theorem framesSent_frame {message : ServerMessage} {frontier}
    (hfrontier : message.frontier? = some frontier) (h : s'.toClient = s.toClient ++ [message]) :
    framesSent s s' = [message] := by
  rw [framesSent_append h, List.filter_cons, hfrontier]
  rfl

/-- All that looking at a completed handoff can come to. -/
inductive HandoffTurn (s s' : Session host) (handoff : CompletedPlayerHandoff) : Prop where
  | known (same : s' = s) (known : handoff.transferId = s.lastHandoffTransferId)
  | refused (turn : Turn [] s s') (frames : framesSent s s' = []) (closed : s'.closed = true)
  | taken {cursor next : InterestProjectionState} {message : ServerMessage}
      (state : s'.state = s.state) (handed : s'.lastHandoffTransferId = handoff.transferId)
      (frames : framesSent s s' = [message]) (closed : s'.closed = s.closed)
      (projected : s.state.projectedInterestFrameAt cursor
        (some (SessionTransport.destinationRoute handoff)) = .ok (message, next))
      (launched : s.transport.Launched s'.transport message
        (.destinationHandoff handoff.transferId (SessionTransport.destinationRoute handoff)))

theorem HandoffTurn.of_handoff (handoff : CompletedPlayerHandoff) (now : Nat) :
    HandoffTurn s (s.handoff handoff now) handoff := by
  rw [Session.handoff]
  split
  · exact .known rfl (by assumption)
  cases hstaged : s.transport.stageTransfer s.state handoff now with
  | error e =>
    exact .refused (.fatal _ _) ((framesSent_append rfl).trans rfl) rfl
  | ok frame =>
    obtain ⟨message, transport⟩ := frame
    simp only [SessionTransport.stageTransfer, bind_eq_ok] at hstaged
    obtain ⟨⟨⟩, -, ⟨frame, next⟩, hproject, hstaged⟩ := hstaged
    cases frame with
    | interestBaseline baseline =>
      obtain ⟨rfl, rfl⟩ := Prod.mk.inj (Except.ok.inj hstaged)
      simp only [SessionTransport.projectTransfer, bind_eq_ok] at hproject
      obtain ⟨cursor, -, hframe⟩ := hproject
      refine .taken rfl rfl ?_ rfl hframe ⟨⟨_, rfl, rfl, rfl⟩, rfl, rfl, rfl⟩
      exact (framesSent_append rfl).trans rfl
    | _ => cases hstaged

/-! ## Routes -/

namespace SessionTransport

variable {t t' : SessionTransport} {message : ServerMessage}

/-- What the routes of a transport are, whatever was sent for them. -/
abbrev Coherent (t : SessionTransport) : Prop := t.Routed (fun _ _ => True) (fun _ => True)

/-- The routes a transport knows of. -/
def Follows (t : SessionTransport) (route : ResidentPlayerRoute) : Prop :=
  t.residentRoute = some route ∨ t.initialRoute = some route
    ∨ ∃ pending, t.pending = some pending ∧ pending.purpose.route = some route

theorem Alike.projectionRoute (h : t.Alike t') : t'.projectionRoute = t.projectionRoute := by
  rw [SessionTransport.projectionRoute, h.pending, h.residentRoute, h.initialRoute]
  rfl

theorem follows_of_projectionRoute {route} (h : t.projectionRoute = some route) :
    t.Follows route := by
  cases hpending : t.pending.bind fun pending => pending.purpose.route with
  | some r =>
    rw [projectionRoute, hpending] at h
    exact .inr (.inr (Option.bind_eq_some_iff.mp (hpending.trans h)))
  | none =>
    cases hresident : t.residentRoute with
    | some r =>
      rw [projectionRoute, hpending, hresident] at h
      exact .inl (hresident.trans h)
    | none =>
      rw [projectionRoute, hpending, hresident] at h
      exact .inr (.inl h)

theorem Launched.projectionRoute
    (h : t.Launched t' message (t.stagedPurpose freshBaseline)) (hcoherent : t.Coherent)
    (hidle : t.recoveryIsPending = false) : t'.projectionRoute = t.projectionRoute := by
  obtain ⟨pending', hpending', -, hpurpose⟩ := h.pending
  have hprojection : t'.projectionRoute
      = ((t.stagedPurpose freshBaseline).route <|> t.residentRoute <|> t.initialRoute) := by
    rw [SessionTransport.projectionRoute, hpending', h.residentRoute, h.initialRoute, ← hpurpose]
    rfl
  rw [hprojection]
  obtain ⟨first, hfirst⟩ := hcoherent.initial
  cases hacknowledged : t.acknowledgedFrontier with
  | none =>
    obtain ⟨-, pending, route, hpending, hinitial⟩ := hcoherent.unacknowledged hacknowledged
    have hflight := hcoherent.inFlight pending hpending
    unfold InFlight at hflight
    rw [hinitial] at hflight
    simp [stagedPurpose, SessionTransport.projectionRoute, hacknowledged, hflight.2.1, hpending,
      hinitial, PendingFramePurpose.route]
  | some frontier =>
    have hstaged : (t.stagedPurpose freshBaseline).route = none := by
      cases freshBaseline <;> simp [stagedPurpose, hacknowledged, PendingFramePurpose.route]
    have hpending : (t.pending.bind fun pending => pending.purpose.route) = none := by
      cases hpending : t.pending with
      | none => rfl
      | some pending =>
        have hflight := hcoherent.inFlight pending hpending
        unfold InFlight at hflight
        cases hpurpose : pending.purpose with
        | initialRoute route =>
          rw [hpurpose, hacknowledged] at hflight
          cases hflight.1
        | destinationHandoff transferId route =>
          rw [recoveryIsPending, hpending] at hidle
          simp [hpurpose, PendingFramePurpose.isRecovery] at hidle
        | ordinary | recovery => simp [hpurpose, PendingFramePurpose.route]
    rw [hstaged, SessionTransport.projectionRoute, hpending]

theorem Launched.follows {route} (h : t.Launched t' message (t.stagedPurpose freshBaseline))
    (hroute : t'.Follows route) :
    t.Follows route := by
  rcases hroute with hresident | hinitial | ⟨pending, hpending, hpurpose⟩
  · exact .inl (h.residentRoute ▸ hresident)
  · exact .inr (.inl (h.initialRoute ▸ hinitial))
  · obtain ⟨pending', hpending', -, hstaged⟩ := h.pending
    obtain rfl : pending = pending' := Option.mem_unique hpending hpending'
    rw [hstaged] at hpurpose
    simp only [stagedPurpose] at hpurpose
    split at hpurpose
    · rename_i first _ hfirst
      exact .inr (.inl (hfirst.trans hpurpose))
    · split at hpurpose <;> cases hpurpose

end SessionTransport

/-! ## A session and the feed -/

/-- The session projects for the route at which the player is resident. -/
def Session.Attuned (s : Session host) : Prop :=
  s.state.twoCell = true → s.transport.projectionRoute = s.state.resident

/-- A revision, or one with a later number. -/
def OrLater (old new : ProjectionSource) : Prop :=
  new = old ∨ old.canonical.eventSequence < new.canonical.eventSequence

theorem OrLater.refl (source : ProjectionSource) : OrLater source source := .inl rfl

theorem OrLater.trans {a b c} (hab : OrLater a b) (hbc : OrLater b c) :
    OrLater a c := by
  rcases hab with rfl | hab
  · exact hbc
  · rcases hbc with rfl | hbc
    · exact .inr hab
    · exact .inr (hab.trans hbc)

theorem OrLater.le {old new} (h : OrLater old new) :
    old.canonical.eventSequence ≤ new.canonical.eventSequence := by
  rcases h with rfl | h
  · exact le_rfl
  · exact h.le

namespace AppState

variable {state : AppState host}

/-- Who is where is not changed by what happens in the cells. -/
structure Rests (state state' : AppState host) : Prop where
  twoCell : state'.twoCell = state.twoCell
  home : state'.home = state.home
  resident : state'.resident = state.resident
  cells : ∀ key, OrLater (state.cells key) (state'.cells key)

theorem Rests.refl (state : AppState host) : Rests state state := ⟨rfl, rfl, rfl, fun _ => .refl _⟩

theorem Rests.trans {a b c : AppState host} (hab : Rests a b) (hbc : Rests b c) : Rests a c :=
  ⟨hbc.twoCell.trans hab.twoCell, hbc.home.trans hab.home, hbc.resident.trans hab.resident,
    fun key => (hab.cells key).trans (hbc.cells key)⟩

theorem Rests.currentCell {state'} (h : Rests state state') :
    state'.currentCell = state.currentCell := by
  rw [AppState.currentCell, AppState.cellAt, h.twoCell, h.home, h.resident]
  rfl

theorem revise_cells (state : AppState host) (entry : CellKeyV1 × ProjectionSource)
    (key : CellKeyV1) :
    (state.revise entry).cells key = state.cells key
      ∨ key = entry.1 ∧ Advanced (state.cells key) entry.2
        ∧ (state.revise entry).cells key = entry.2 := by
  rw [revise]
  split
  · rename_i hadvanced
    rw [publish, dif_pos hadvanced.1]
    by_cases hkey : key = entry.1
    · subst hkey
      exact .inr ⟨rfl, hadvanced, if_pos rfl⟩
    · exact .inl (if_neg hkey)
  · exact .inl rfl

theorem rests_revise (state : AppState host) (entry : CellKeyV1 × ProjectionSource) :
    Rests state (state.revise entry) := by
  refine ⟨?_, ?_, ?_, fun key => ?_⟩
  · rw [revise]
    split
    · exact (Controlled.publish_keeps _ _ _).1
    · rfl
  · rw [revise, publish]
    split
    · split <;> rfl
    · rfl
  · rw [revise]
    split
    · exact (Controlled.publish_keeps _ _ _).2
    · rfl
  · rcases revise_cells state entry key with hsame | ⟨-, hadvanced, hnew⟩
    · exact .inl hsame
    · rw [hnew]
      exact .inr hadvanced.2

theorem rests_reviseAll (state : AppState host) (entries : List (CellKeyV1 × ProjectionSource)) :
    Rests state (state.reviseAll entries) := by
  induction entries generalizing state with
  | nil => exact .refl _
  | cons entry rest ih => exact (rests_revise state entry).trans (ih _)

end AppState

namespace Replicated

variable {c : Replicated host}

/-- The session, the feed and the record agree with each other. -/
structure Synced (c : Replicated host) : Prop where
  cursor : c.cursor = .afterInitialSnapshot c.last.sequence
  projects : c.last.Projects
  kept : OrLater c.last.source (c.session.state.cells c.last.cell)
  published : ∀ key, OrLater (c.published key) (c.session.state.cells key)
  exact : c.Own → c.published c.session.state.currentCell = c.session.state.current
  inFlight : ∀ pending, c.session.transport.pending = some pending →
    c.last.message.frontier? = some pending.frontier
  landed : c.session.transport.pending = none →
    c.session.transport.acknowledgedFrontier = c.last.message.frontier?
  handed : c.session.lastHandoffTransferId ∈ c.transferIds
  entered : ∀ handoff, c.handoff = some handoff → handoff.transferId ∈ c.transferIds
  coherent : c.session.state.twoCell = true → c.session.transport.Coherent
  followed : c.session.state.twoCell = true → ∃ current, c.session.state.resident = some current
    ∧ ∀ route, c.session.transport.Follows route →
      route.placementGeneration ≤ current.placementGeneration
  attuned : c.session.Attuned → c.last.cell = c.session.state.currentCell
  level : c.session.closed = false → ¬ c.Waiting → c.session.Attuned ∧ (c.disturbed = false →
    (c.published c.session.state.currentCell).canonical.eventSequence
      ≤ max c.last.sequence c.feed.latest)

variable {session : Session host}

theorem turn_quiet (h : framesSent c.session session = []) :
    c.turn session = { c with session } := by
  rw [turn, h]
  simp

theorem turn_frame {message} (h : framesSent c.session session = [message]) :
    c.turn session = { c with
      session
      cursor := c.cursor.record message
      last := ⟨message, c.session.state⟩
      disturbed := false } := by
  rw [turn, h]
  simp

theorem record_afterInitialSnapshot {message : ServerMessage} {before sequence : Nat}
    (hsequence : message.replicationEventSequence = some sequence) (hle : before ≤ sequence) :
    (ReplicationCursor.afterInitialSnapshot before).record message = .afterInitialSnapshot sequence := by
  rw [ReplicationCursor.record, hsequence]
  simp [ReplicationCursor.afterInitialSnapshot, hle]

theorem Synced.behind (h : Synced c) (hattuned : c.session.Attuned) :
    c.last.sequence ≤ c.session.state.current.canonical.eventSequence := by
  have hle := h.kept.le
  rwa [h.attuned hattuned] at hle

theorem Synced.unsent (h : Synced c) (stays : Stays c.session session)
    (frames : framesSent c.session session = [])
    (closed : session.closed = false → c.session.closed = false)
    (hprojection : session.transport.projectionRoute = c.session.transport.projectionRoute)
    (hfollows : ∀ route, session.transport.Follows route → c.session.transport.Follows route)
    (hinFlight : ∀ pending, session.transport.pending = some pending →
      c.last.message.frontier? = some pending.frontier)
    (hlanded : session.transport.pending = none →
      session.transport.acknowledgedFrontier = c.last.message.frontier?)
    (hcoherent : c.session.state.twoCell = true → session.transport.Coherent) :
    Synced (c.turn session) := by
  rw [turn_quiet frames]
  obtain ⟨hstate, hhanded⟩ := stays
  have hattuned : session.Attuned ↔ c.session.Attuned := by
    rw [Session.Attuned, Session.Attuned, hstate, hprojection]
  obtain ⟨state, transport, handed, _, _, _, _⟩ := session
  obtain rfl : state = c.session.state := hstate
  obtain rfl : handed = c.session.lastHandoffTransferId := hhanded
  refine { h with
    inFlight := hinFlight, landed := hlanded, coherent := hcoherent, followed := fun htwo => ?_,
    attuned := fun h' => h.attuned (hattuned.mp h'), level := fun hopen hwaits => ?_ }
  · obtain ⟨current, hcurrent, hfollowed⟩ := h.followed htwo
    exact ⟨current, hcurrent, fun route hroute => hfollowed route (hfollows route hroute)⟩
  · exact (h.level (closed hopen) hwaits).imp_left hattuned.mpr

theorem Synced.sent {message cursor next current} {unseen : Bool} (h : Synced c)
    (hstate : session.state = c.session.state)
    (hframe : projectInterestFrame host c.session.state.current cursor OrdMap.empty
      = .ok (message, next))
    (hcursor : current = .afterInitialSnapshot c.session.state.current.canonical.eventSequence)
    (hhanded : session.lastHandoffTransferId ∈ c.transferIds)
    (hpending : ∃ pending, session.transport.pending = some pending
      ∧ message.frontier? = some pending.frontier) (hattuned : session.Attuned)
    (hfollows : c.session.state.twoCell = true → ∀ route, session.transport.Follows route →
      c.session.state.resident = some route ∨ c.session.transport.Follows route)
    (hcoherent : c.session.state.twoCell = true → session.transport.Coherent) :
    Synced { c with
      session
      unseen
      cursor := current
      last := ⟨message, c.session.state⟩
      disturbed := false } := by
  obtain ⟨pending, hpending, hfrontier⟩ := hpending
  obtain ⟨state, transport, _, _, _, _, _⟩ := session
  obtain rfl : state = c.session.state := hstate
  refine { h with
    cursor := hcursor, projects := ⟨cursor, next, hframe⟩, kept := .refl _
    inFlight := fun pending' hpending' => ?_, landed := fun hnone => ?_, handed := hhanded
    coherent := hcoherent, followed := fun htwo => ?_, attuned := fun _ => rfl
    level := fun _ _ => ⟨hattuned, fun _ => le_max_of_le_left (h.published _).le⟩ }
  · obtain rfl : pending = pending' := Option.mem_unique hpending hpending'
    exact hfrontier
  · cases hpending.symm.trans hnone
  · obtain ⟨resident, hresident, hfollowed⟩ := h.followed htwo
    refine ⟨resident, hresident, fun route hroute => ?_⟩
    rcases hfollows htwo route hroute with hsame | hbefore
    · obtain rfl : resident = route := Option.mem_unique hresident hsame
      exact le_rfl
    · exact hfollowed route hbefore

theorem coherent_of_turned {frames : List ServerMessage}
    (h : Turned (fun _ _ => True) (fun _ => True) s session frames) : session.transport.Coherent :=
  h.routed fun _ _ _ _ _ _ => trivial

theorem Synced.turn {acks} (h : Synced c) (hturn : Turn acks c.session session) :
    Synced (c.turn session) := by
  have hcoherent : c.session.state.twoCell = true → session.transport.Coherent := by
    intro htwo
    obtain ⟨frames, hturned⟩ := Turned.of_turn (h.coherent htwo) (fun _ _ _ => trivial) htwo
      (fun _ _ _ _ => trivial) hturn
    exact coherent_of_turned hturned
  cases hturn with
  | quiet stays told plain closed alike =>
    refine h.unsent stays (framesSent_plain plain told) closed alike.projectionRoute ?_ ?_ ?_
      hcoherent
    · intro route hroute
      rw [SessionTransport.Follows, ← alike.residentRoute, ← alike.initialRoute, ← alike.pending]
      exact hroute
    · intro pending hpending
      exact h.inFlight pending (alike.pending ▸ hpending)
    · intro hpending
      exact alike.acknowledgedFrontier.trans (h.landed (alike.pending ▸ hpending))
  | staged stays told closed idle _ _ projected launched =>
    obtain ⟨hroute, hframe⟩ := AppState.current_of_project projected
    obtain ⟨-, hsequence⟩ := ServerMessage.frontier?_sequence hframe
    obtain ⟨pending, hpending, hfrontier, -⟩ := launched.pending
    rw [turn_frame (framesSent_frame hfrontier told)]
    refine h.sent stays.state hframe ?_ (stays.lastHandoffTransferId ▸ h.handed)
      ⟨pending, hpending, hfrontier⟩ ?_ (fun _ route hr => .inr (launched.follows hr)) hcoherent
    · rw [h.cursor]
      exact record_afterInitialSnapshot hsequence (h.behind hroute)
    · intro htwo
      rw [stays.state] at htwo ⊢
      exact (launched.projectionRoute (h.coherent htwo) idle).trans (hroute htwo)
  | @acknowledged pending stays told closed waited _ landed frontier route initialRoute =>
    refine h.unsent stays (framesSent_same told) (fun hopen => closed ▸ hopen) ?_ ?_ ?_ ?_ hcoherent
    · rw [SessionTransport.projectionRoute, SessionTransport.projectionRoute, landed, route,
        initialRoute, waited]
      cases hpurpose : pending.purpose.route <;> simp [hpurpose]
    · intro r hr
      rcases hr with hresident | hinitial | ⟨other, hother, -⟩
      · rw [route] at hresident
        cases hpurpose : pending.purpose.route with
        | some first =>
          rw [hpurpose] at hresident
          exact .inr (.inr ⟨pending, waited, hpurpose.trans hresident⟩)
        | none =>
          rw [hpurpose] at hresident
          exact .inl hresident
      · exact .inr (.inl (initialRoute ▸ hinitial))
      · cases landed.symm.trans hother
    · intro pending' hpending'
      cases landed.symm.trans hpending'
    · intro _
      exact frontier.trans (h.inFlight pending waited).symm

theorem Synced.seen (h : Synced c) (hwaits : c.session.closed = false → ¬ c.Waiting) :
    Synced { c with unseen := false } :=
  { h with level := fun hopen _ => h.level hopen (hwaits hopen) }

variable {handoff : CompletedPlayerHandoff}

theorem takeUp_quiet {now : Nat}
    (h : framesSent c.session (c.session.handoff handoff now) = []) :
    c.takeUp handoff now = { c with session := c.session.handoff handoff now } := by
  rw [takeUp, h, turn_quiet h]
  rfl

theorem takeUp_frame {now sequence : Nat} {message}
    (h : framesSent c.session (c.session.handoff handoff now) = [message])
    (hsequence : message.replicationEventSequence = some sequence) :
    c.takeUp handoff now = { c with
      session := c.session.handoff handoff now
      cursor := .afterInitialSnapshot sequence
      last := ⟨message, c.session.state⟩
      disturbed := false } := by
  rw [takeUp, h, turn_frame h]
  simp only [List.getLast?_singleton, Option.bind_some, hsequence]

theorem Synced.takeUp (h : Synced c)
    (hentry : c.handoff = some handoff) (now : Nat) :
    Synced { c.takeUp handoff now with unseen := false } := by
  have hturn := HandoffTurn.of_handoff (s := c.session) handoff now
  cases hturn with
  | known same known =>
    rw [takeUp_quiet (framesSent_same (congrArg Session.toClient same)), same]
    refine h.seen fun _ hwaiting => ?_
    obtain ⟨-, other, hother, hfresh⟩ := hwaiting
    obtain rfl : handoff = other := Option.mem_unique hentry hother
    exact hfresh known
  | refused turn frames closed =>
    have hquiet := h.turn turn
    rw [turn_quiet frames] at hquiet
    rw [takeUp_quiet frames]
    exact hquiet.seen fun hopen => nomatch closed.symm.trans hopen
  | taken state handed frames closed projected launched =>
    obtain ⟨hroute, hframe⟩ := AppState.current_of_project projected
    obtain ⟨-, hsequence⟩ := ServerMessage.frontier?_sequence hframe
    obtain ⟨pending, hpending, hfrontier, hpurpose⟩ := launched.pending
    rw [takeUp_frame frames hsequence]
    refine h.sent state hframe rfl ?_ ⟨pending, hpending, hfrontier⟩ ?_ ?_ ?_
    · rw [handed]
      exact h.entered handoff hentry
    · intro htwo
      rw [state] at htwo ⊢
      rw [← hroute htwo, SessionTransport.projectionRoute, hpending]
      simp [hpurpose, PendingFramePurpose.route]
    · intro htwo route hfollows
      rcases hfollows with hresident | hinitial | ⟨other, hother, hpurposed⟩
      · exact .inr (.inl (launched.residentRoute ▸ hresident))
      · exact .inr (.inr (.inl (launched.initialRoute ▸ hinitial)))
      · obtain rfl : pending = other := Option.mem_unique hpending hother
        rw [hpurpose] at hpurposed
        exact .inl ((hroute htwo).symm.trans hpurposed)
    · intro htwo
      obtain ⟨frames', hturned⟩ := Turned.handoff
        (h.coherent htwo) htwo
      exact coherent_of_turned hturned

theorem Synced.takeHandoff (h : Synced c) (now : Nat) : Synced (c.takeHandoff now) := by
  rw [Replicated.takeHandoff]
  split
  · exact h
  · split
    · rename_i hentry
      refine h.seen fun _ hwaiting => ?_
      obtain ⟨-, handoff, hhandoff, -⟩ := hwaiting
      cases hentry.symm.trans hhandoff
    · rename_i handoff hentry
      exact h.takeUp hentry now

variable {published : CellKeyV1 → ProjectionSource}

theorem Synced.republished {state} {feed : ReplicationFeed} {unseen disturbed : Bool} (h : Synced c)
    (hrests : AppState.Rests c.session.state state)
    (hpublished : ∀ key, OrLater (published key) (state.cells key))
    (hexact : c.Own → published state.currentCell = state.current)
    (hunseen : c.unseen = true → unseen = true) (hfeed : (c.disturbed = false →
        (c.published state.currentCell).canonical.eventSequence ≤ max c.last.sequence c.feed.latest) →
      disturbed = false →
        (published state.currentCell).canonical.eventSequence ≤ max c.last.sequence feed.latest) :
    Synced { c with session := { c.session with state }, feed, unseen, published, disturbed } := by
  have hattuned : Session.Attuned { c.session with state } ↔ c.session.Attuned := by
    show (state.twoCell = true → _ = state.resident) ↔ _
    rw [hrests.twoCell, hrests.resident]
    rfl
  refine ⟨h.cursor, h.projects, h.kept.trans (hrests.cells _), hpublished, ?_, h.inFlight, h.landed,
    h.handed, h.entered, ?_, ?_, ?_, ?_⟩
  · show state.twoCell = false ∨ c.isLocal = true → _
    rw [hrests.twoCell]
    exact hexact
  · intro htwo
    exact h.coherent (hrests.twoCell ▸ htwo)
  · show state.twoCell = true → ∃ current, state.resident = some current ∧ _
    rw [hrests.twoCell, hrests.resident]
    exact h.followed
  · rw [hattuned]
    show _ → c.last.cell = state.currentCell
    rw [hrests.currentCell]
    exact h.attuned
  · intro hopen hwaits
    have hlevel := h.level hopen fun hwaiting => hwaits ⟨hunseen hwaiting.1, hwaiting.2⟩
    rw [← hrests.currentCell] at hlevel
    exact ⟨hattuned.mpr hlevel.1, hfeed hlevel.2⟩

theorem Synced.publishes {state} (h : Synced c) (hrests : AppState.Rests c.session.state state)
    (key k : CellKeyV1) :
    OrLater (if k = key then state.cells key else c.published k) (state.cells k) := by
  split
  · rename_i hkey
    rw [hkey]
    exact .refl _
  · exact (h.published k).trans (hrests.cells k)

theorem published_le {feed : ReplicationFeed} {state : AppState host} {kind} {bound : Nat}
    (key : CellKeyV1)
    (h : (published state.currentCell).canonical.eventSequence ≤ max bound feed.latest) :
    (if state.currentCell = key then state.cells key
      else published state.currentCell).canonical.eventSequence
        ≤ max bound (feed.publish kind (state.cells key).canonical.eventSequence).2.latest := by
  split
  · exact le_max_of_le_right ReplicationFeed.le_latest_publish
  · exact h.trans (max_le_max le_rfl ReplicationFeed.latest_le_publish)

theorem published_le_latest {feed : ReplicationFeed} {state : AppState host} {kind}
    {key : CellKeyV1} (hkey : state.currentCell = key) :
    (if state.currentCell = key then state.cells key
      else published state.currentCell).canonical.eventSequence
        ≤ (feed.publish kind (state.cells key).canonical.eventSequence).2.latest := by
  rw [if_pos hkey]
  exact ReplicationFeed.le_latest_publish

theorem published_exact {state : AppState host}
    {key : CellKeyV1}
    (h : state.currentCell ≠ key → published state.currentCell = state.current) :
    (if state.currentCell = key then state.cells key else published state.currentCell)
      = state.current := by
  split
  · rename_i hkey
    rw [AppState.current, hkey]
  · exact h (by assumption)

theorem Synced.act (h : Synced c) (kind : ReplicationKind) (key : CellKeyV1)
    (source : ProjectionSource) : Synced (c.act kind key source) := by
  rw [Replicated.act]
  split
  · have hrests := AppState.rests_revise c.session.state (key, source)
    refine h.republished hrests (h.publishes hrests key) (fun hown => ?_) id
      fun hle hquiet => published_le key (hle hquiet)
    refine published_exact fun hother => ?_
    show c.published (c.session.state.revise (key, source)).currentCell
      = (c.session.state.revise (key, source)).current
    rcases AppState.revise_cells c.session.state (key, source)
      (c.session.state.revise (key, source)).currentCell with hsame | ⟨hkey, -⟩
    · rw [AppState.current, hsame, hrests.currentCell]
      exact h.exact hown
    · exact absurd hkey hother
  · exact h

theorem Synced.advanced (h : Synced c) (kind : ReplicationKind)
    (changed : List (CellKeyV1 × ProjectionSource)) (localCell : CellKeyV1) :
    Synced ((c.revised changed).publishLocal kind localCell) := by
  have hrests := AppState.rests_reviseAll c.session.state changed
  refine h.republished hrests (h.publishes hrests _) (fun hown => ?_) id
    fun hle hquiet => published_le _ (hle hquiet)
  have hown' : (c.revised changed).Own := hown.imp_left hrests.twoCell.trans
  exact published_exact fun hother => absurd (if_pos hown').symm hother

theorem Synced.disturbing (h : Synced c) (changed : List (CellKeyV1 × ProjectionSource))
    (localCell : CellKeyV1) {disturbed : Bool}
    (hdisturbed : disturbed = false → (c.revised changed).Own) :
    Synced (({ c.revised changed with disturbed } : Replicated host).reset.publishLocal .structural
      localCell) := by
  have hrests := AppState.rests_reviseAll c.session.state changed
  refine h.republished hrests (h.publishes hrests _) (fun hown => ?_) (fun _ => rfl)
    fun _ hquiet => ?_
  · have hown' : (c.revised changed).Own := hown.imp_left hrests.twoCell.trans
    exact published_exact fun hother => absurd (if_pos hown').symm hother
  · exact le_max_of_le_right (published_le_latest (if_pos (hdisturbed hquiet)).symm)

theorem Synced.crossed {feed state} (h : Synced c)
    (hrests : AppState.Rests c.session.state { state with resident := c.session.state.resident })
    (hcrosses : c.Crosses handoff)
    (hresident : state.resident = some (SessionTransport.destinationRoute handoff))
    (hpublished : ∀ key, OrLater (published key) (state.cells key))
    (hexact : c.Own → published state.currentCell = state.current) :
    Synced { c with
      session := { c.session with state }
      feed
      unseen := true
      handoff := some handoff
      transferIds := handoff.transferId :: c.transferIds
      published } := by
  obtain ⟨htwo, hfresh, before, hbefore, -, hnext⟩ := hcrosses
  obtain ⟨current, hcurrent, hfollowed⟩ := h.followed htwo
  obtain rfl : before = current := Option.mem_unique hbefore hcurrent
  have hahead : ∀ route, c.session.transport.Follows route →
      route.placementGeneration < handoff.placementGeneration := by
    intro route hroute
    rw [hnext]
    exact Nat.lt_succ_of_le (hfollowed route hroute)
  refine ⟨h.cursor, h.projects, h.kept.trans (hrests.cells _), hpublished, ?_, h.inFlight, h.landed,
    List.mem_cons_of_mem _ h.handed, ?_, ?_, ?_, ?_, ?_⟩
  · show state.twoCell = false ∨ c.isLocal = true → _
    rw [show state.twoCell = c.session.state.twoCell from hrests.twoCell]
    exact hexact
  · intro other hother
    obtain rfl := Option.some.inj hother
    exact List.mem_cons_self
  · exact fun _ => h.coherent htwo
  · exact fun _ => ⟨_, hresident, fun route hroute => (hahead route hroute).le⟩
  · intro hattuned
    have hprojection := hattuned (hrests.twoCell.trans htwo)
    rw [show ({ c.session with state } : Session host).state.resident = _ from hresident] at hprojection
    exact absurd (hahead _ (SessionTransport.follows_of_projectionRoute hprojection)) (lt_irrefl _)
  · intro _ hwaits
    refine absurd ⟨rfl, handoff, rfl, fun hsame => ?_⟩ hwaits
    exact hfresh (hsame ▸ h.handed)

theorem Synced.advance (h : Synced c) (kind : ReplicationKind)
    (changed : List (CellKeyV1 × ProjectionSource)) (crossing : Option CompletedPlayerHandoff)
    (others : Bool) (localCell : CellKeyV1) :
    Synced (c.advance kind changed crossing others localCell) := by
  have hrests := AppState.rests_reviseAll c.session.state changed
  cases crossing with
  | none =>
    simp only [Replicated.advance]
    split
    · refine h.disturbing changed localCell fun hquiet => ?_
      rw [Bool.or_eq_false_iff, Bool.not_eq_false', decide_eq_true_eq] at hquiet
      exact hquiet.2
    · exact h.advanced kind changed localCell
  | some handoff =>
    simp only [Replicated.advance]
    split
    · rename_i hcrosses
      refine h.crossed ⟨hrests.twoCell, hrests.home, rfl, hrests.cells⟩ ?_ rfl
        (h.publishes ⟨hrests.twoCell, hrests.home, hrests.resident, hrests.cells⟩ _) fun hown => ?_
      · obtain ⟨htwo, hfresh, route, hroute, hcontinues⟩ := hcrosses
        exact ⟨hrests.twoCell.symm.trans htwo, hfresh, route, hrests.resident.symm.trans hroute,
          hcontinues⟩
      · have hown' : ((c.revised changed).cross handoff).reset.Own :=
          hown.imp_left hrests.twoCell.trans
        exact published_exact fun hother => absurd (if_pos hown').symm hother
    · exact h.advanced kind changed localCell

/-- What the client does, the session knows nothing of. -/
theorem deliver_eq_client (s : Session host) :
    ∃ client toClient toServer, s.deliver = { s with client, toClient, toServer } := by
  rw [Session.deliver]
  split
  · exact ⟨_, _, _, rfl⟩
  · split <;> exact ⟨_, _, _, rfl⟩

theorem Synced.client {client toClient} (h : Synced c) :
    Synced { c with session := { c.session with client, toClient, toServer } } :=
  { h with }

theorem Synced.step (h : Synced c) (move : ReplicationMove) : Synced (c.step move) := by
  cases move with
  | act kind key source => exact h.act kind key source
  | advance kind changed crossing others localCell =>
    exact h.advance kind changed crossing others localCell
  | tick midway now => exact h.turn (.move (.inl ⟨_, now, rfl⟩))
  | takeHandoff now => exact h.takeHandoff now
  | receive now => exact h.turn (.move (.inr ⟨now, rfl⟩))
  | request | forge answer => exact h.client
  | deliver =>
    obtain ⟨client, toClient, toServer, heq⟩ := deliver_eq_client c.session
    show Synced { c with session := c.session.deliver }
    rw [heq]
    exact h.client

theorem synced_of_start {state : AppState host} {feed : ReplicationFeed}
    {handoff : Option CompletedPlayerHandoff} {unseen : Bool} {transferIds : List String}
    {isLocal : Bool} {sessionEpoch playerId : String} {client : InterestVerifier} {now : Nat}
    (h : start state feed handoff unseen transferIds isLocal sessionEpoch playerId client now = .ok c) :
    Synced c := by
  simp only [start, bind_eq_ok, demand_eq_ok, pure_eq_ok] at h
  obtain ⟨session, hsession, message, hmessage, rfl⟩ := h
  obtain ⟨route, source, message, transport, htwo, hsource, hinitial, rfl⟩ := start_eq_ok hsession
  obtain rfl := Option.some.inj hmessage
  obtain ⟨next, -, hproject, rfl⟩ := stageInitial_eq_ok hinitial
  have hframe : state.projectedInterestFrameAt
      (SessionTransport.newAt host sessionEpoch playerId route now).acknowledgedProjection route
      = .ok (message, next) := by
    rw [AppState.projectedInterestFrameAt, hsource]
    exact hproject
  obtain ⟨hroute, hcurrent⟩ := AppState.current_of_project hframe
  obtain ⟨⟨frontier, hfrontier⟩, hsequence⟩ := ServerMessage.frontier?_sequence hcurrent
  rw [SessionTransport.withPending_eq hfrontier]
  have hsome : state.twoCell = true → ∃ r, route = some r := by
    intro htwo
    simp only [AppState.projectionRevisionForAt, htwo, Bool.true_eq_false, if_false, bind_eq_ok,
      demand_eq_ok] at hsource
    obtain ⟨r, hr, -⟩ := hsource
    exact ⟨r, hr⟩
  refine ⟨?_, ⟨_, next, hcurrent⟩, .refl _, fun _ => .refl _, fun _ => rfl, ?_,
    fun hnone => (nomatch hnone), List.mem_cons_self, ?_, ?_, ?_, fun _ => rfl,
    fun _ _ => ⟨?_, fun _ => le_max_left _ _⟩⟩
  · show ReplicationCursor.afterInitialSnapshot (message.replicationEventSequence.getD 0) = _
    rw [hsequence]
    rfl
  · intro pending hpending
    obtain rfl := Option.some.inj hpending
    exact hfrontier
  · intro other hother
    change handoff = some other at hother
    rw [hother]
    exact List.mem_cons_of_mem _ List.mem_cons_self
  · intro htwo
    obtain ⟨r, rfl⟩ := hsome htwo
    refine ⟨⟨r, rfl⟩, fun _ => ⟨rfl, _, r, rfl, rfl⟩, fun hacked => absurd rfl hacked,
      fun pending hpending => ?_⟩
    obtain rfl := Option.some.inj hpending
    exact ⟨rfl, rfl, trivial⟩
  · intro htwo
    obtain ⟨r, rfl⟩ := hsome htwo
    refine ⟨r, (hroute htwo).symm, fun other hother => ?_⟩
    rcases hother with hresident | hinitial | ⟨pending, hpending, hpurpose⟩
    · cases hresident
    · obtain rfl := Option.some.inj hinitial
      exact le_rfl
    · obtain rfl := Option.some.inj hpending
      obtain rfl := Option.some.inj hpurpose
      exact le_rfl
  · intro htwo
    obtain ⟨r, rfl⟩ := hsome htwo
    exact hroute htwo

/-! ## What a session is offered -/

/-- What a tick leaves of a session that has nothing in flight: its last frame is of the revision of
    its cell published last, or of a later one if not every one is published, and is acknowledged
    already or with its own frontier. -/
structure Converged (c : Replicated host) : Prop where
  cell : c.last.cell = c.session.state.currentCell
  contains : (c.published c.session.state.currentCell).canonical.eventSequence ≤ c.last.sequence
  latest : c.Own → c.last.source = c.published c.session.state.currentCell
  projects : c.last.Projects
  landed : c.session.transport.pending = none →
    c.session.transport.acknowledgedFrontier = c.last.message.frontier?
  lands : ∀ frontier, c.session.transport.pending ≠ none → c.last.message.frontier? = some frontier →
    (c.session.transport.acknowledge frontier).2.pending = none
      ∧ (c.session.transport.acknowledge frontier).2.acknowledgedFrontier = some frontier

/-- Nothing that a session lacks is lost to it, unless it waits for a handoff of its own, or the
    feed has started over for one of somebody else's and its own cell was not published again. -/
structure Coalesces (c : Replicated host) : Prop where
  offered : c.Idle → ¬ c.Waiting → c.disturbed = false → c.Missing →
    (c.feed.nextAfter c.cursor).isSome = true
  forward : ∀ move, (c.step move).last.cell = c.last.cell →
    c.cursor.eventSequence ≤ (c.step move).cursor.eventSequence
      ∧ c.cursor.fullSnapshotSequence ≤ (c.step move).cursor.fullSnapshotSequence
  converges : c.Idle → ¬ c.Waiting → c.disturbed = false → ∀ now,
    (c.step (.tick false now)).session.closed = true ∨ Converged (c.step (.tick false now))

theorem Synced.offered (h : Synced c) (hidle : c.Idle) (hwaits : ¬ c.Waiting)
    (hquiet : c.disturbed = false) (hmissing : c.Missing) :
    (c.feed.nextAfter c.cursor).isSome = true := by
  obtain ⟨hattuned, hlevel⟩ := h.level hidle.1 hwaits
  rw [h.cursor, ReplicationFeed.nextAfter_isSome]
  rcases hmissing with hcell | hbehind
  · exact absurd (h.attuned hattuned) hcell
  · exact (lt_max_iff.mp (hbehind.trans_le (hlevel hquiet))).resolve_left (lt_irrefl _)

theorem last_of_step (c : Replicated host) (move : ReplicationMove) :
    (c.step move).last = c.last ∨ ∃ message, (c.step move).last = ⟨message, c.session.state⟩ := by
  have hturn : ∀ session : Session host,
      (c.turn session).last = c.last ∨ ∃ message, (c.turn session).last = ⟨message, c.session.state⟩ := by
    intro session
    rw [Replicated.turn]
    cases (framesSent c.session session).getLast? with
    | none => exact .inl rfl
    | some message => exact .inr ⟨message, rfl⟩
  cases move with
  | act kind key source =>
    refine .inl ?_
    show (c.act kind key source).last = c.last
    rw [Replicated.act]
    split <;> rfl
  | advance kind changed crossing others localCell =>
    refine .inl ?_
    show (c.advance kind changed crossing others localCell).last = c.last
    cases crossing <;> simp only [Replicated.advance] <;> split <;> rfl
  | tick midway now | receive now => exact hturn _
  | takeHandoff now =>
    show (c.takeHandoff now).last = c.last ∨ ∃ message, (c.takeHandoff now).last = _
    rw [Replicated.takeHandoff]
    split
    · exact .inl rfl
    · split
      · exact .inl rfl
      · rw [Replicated.takeUp]
        dsimp only
        split <;> exact hturn _
  | request | deliver | forge answer => exact .inl rfl

theorem Synced.forward (h : Synced c) (move : ReplicationMove)
    (hcell : (c.step move).last.cell = c.last.cell) : c.last.sequence ≤ (c.step move).last.sequence := by
  rcases last_of_step c move with hsame | ⟨message, hsent⟩
  · rw [hsame]
  · rw [hsent] at hcell ⊢
    have hle := h.kept.le
    rwa [← hcell] at hle

theorem acknowledge_inFlight {t : SessionTransport} {pending} (h : t.pending = some pending) :
    (t.acknowledge pending.frontier).2.pending = none
      ∧ (t.acknowledge pending.frontier).2.acknowledgedFrontier = some pending.frontier := by
  have hfilter : (t.pending.filter fun p => p.frontier == pending.frontier) = some pending := by
    rw [h, Option.filter_some, if_pos (beq_self_eq_true _)]
  rw [SessionTransport.acknowledge, hfilter]
  dsimp only
  cases pending.purpose.route <;> exact ⟨rfl, rfl⟩

theorem Synced.converged (h : Synced c) (hcell : c.last.cell = c.session.state.currentCell)
    (hcontains : (c.published c.session.state.currentCell).canonical.eventSequence
      ≤ c.last.sequence) : Converged c where
  cell := hcell
  contains := hcontains
  latest hown := by
    have hkept := h.kept
    rw [hcell] at hkept
    rw [h.exact hown] at hcontains ⊢
    rcases hkept with hsame | hlater
    · exact hsame.symm
    · exact absurd hcontains (not_le.mpr hlater)
  projects := h.projects
  landed := h.landed
  lands frontier hflying hfrontier := by
    obtain ⟨pending, hpending⟩ := Option.ne_none_iff_exists'.mp hflying
    obtain rfl : pending.frontier = frontier :=
      Option.mem_unique (h.inFlight pending hpending) hfrontier
    exact acknowledge_inFlight hpending

/-- A session that has nothing in flight and does not wait is not behind the player's placement. -/
theorem Synced.not_stale (h : Synced c) (hidle : c.session.transport.pending = none)
    (hattuned : c.session.Attuned) :
    c.session.state.residentRouteIsStale c.session.transport.residentRoute = false := by
  cases htwo : c.session.state.twoCell with
  | false =>
    rw [AppState.residentRouteIsStale, htwo]
    rfl
  | true =>
    have hcoherent := h.coherent htwo
    have hacknowledged : c.session.transport.acknowledgedFrontier ≠ none := by
      intro hnone
      obtain ⟨-, pending, -, hpending, -⟩ := hcoherent.unacknowledged hnone
      cases hidle.symm.trans hpending
    obtain ⟨route, hroute, -⟩ := hcoherent.resident hacknowledged
    have hresident := hattuned htwo
    rw [SessionTransport.projectionRoute, hidle, hroute] at hresident
    rw [AppState.residentRouteIsStale, hroute, ← hresident]
    simp

theorem tick_sends (hidle : s.transport.pending = none)
    (hfresh : s.state.residentRouteIsStale s.transport.residentRoute = false) (now : Nat) :
    (s.tick true now).closed = true ∨ (s.tick true now).state = s.state
      ∧ ∃ message, framesSent s (s.tick true now) = [message] := by
  have htimely : s.transport.pendingTimedOut now = false := by
    rw [SessionTransport.pendingTimedOut, hidle]
    rfl
  have hoffered : ¬ (s.transport.pending.isSome = true ∨ true = false) := by
    rw [hidle]
    simp
  rw [Session.tick, htimely, if_neg Bool.false_ne_true, if_neg hoffered]
  rcases s.transport.stage_cases s.state false now with ⟨e, t', hstage, halike⟩ |
    ⟨cursor, message, next, t', hstage, -, -, hlaunched⟩
  · rw [hstage]
    refine .inl ?_
    dsimp only
    rw [halike.residentRoute, hfresh]
    rfl
  · rw [hstage]
    obtain ⟨pending, -, hfrontier, -⟩ := hlaunched.pending
    exact .inr ⟨rfl, message, framesSent_frame hfrontier rfl⟩

theorem Synced.converges (h : Synced c) (hidle : c.Idle) (hwaits : ¬ c.Waiting)
    (hquiet : c.disturbed = false) (now : Nat) :
    (c.step (.tick false now)).session.closed = true ∨ Converged (c.step (.tick false now)) := by
  obtain ⟨hopen, hpending⟩ := hidle
  obtain ⟨hattuned, hlevel⟩ := h.level hopen hwaits
  have htimely : c.session.transport.pendingTimedOut now = false := by
    rw [SessionTransport.pendingTimedOut, hpending]
    rfl
  cases hoffered : (c.feed.nextAfter c.cursor).isSome with
  | false =>
    have hstill : c.step (.tick false now) = c := by
      have hmove : c.session.move (.tick (!false && (c.feed.nextAfter c.cursor).isSome) now)
          = c.session := by
        rw [hoffered, Session.move, hopen, if_neg Bool.false_ne_true, Session.tick, htimely,
          if_neg Bool.false_ne_true, if_pos (.inr rfl)]
      rw [Replicated.step, hmove, turn_quiet (framesSent_same rfl)]
    rw [hstill]
    have hlatest : c.feed.latest ≤ c.last.sequence := by
      rw [h.cursor] at hoffered
      exact not_lt.mp fun hbehind => Bool.false_ne_true
        (hoffered.symm.trans (ReplicationFeed.nextAfter_isSome.mpr hbehind))
    exact .inr (h.converged (h.attuned hattuned) ((hlevel hquiet).trans (max_le le_rfl hlatest)))
  | true =>
    have hsynced := h.step (.tick false now)
    have hmove : c.session.move (.tick (!false && (c.feed.nextAfter c.cursor).isSome) now)
        = c.session.tick true now := by
      rw [hoffered, Session.move, hopen, if_neg Bool.false_ne_true]
      rfl
    rw [Replicated.step, hmove] at hsynced ⊢
    rcases tick_sends hpending (h.not_stale hpending hattuned) now with hclosed |
      ⟨hstate, message, hframes⟩
    · exact .inl hclosed
    · rw [turn_frame hframes] at hsynced ⊢
      refine .inr (hsynced.converged ?_ ?_)
      · show c.session.state.currentCell = (c.session.tick true now).state.currentCell
        rw [hstate]
      · show (c.published (c.session.tick true now).state.currentCell).canonical.eventSequence
          ≤ c.session.state.current.canonical.eventSequence
        rw [hstate]
        exact (h.published _).le

theorem Synced.coalesces (h : Synced c) : Coalesces c where
  offered := h.offered
  forward move hcell := by
    rw [h.cursor, (h.step move).cursor]
    exact ⟨h.forward move hcell, h.forward move hcell⟩
  converges := h.converges

/-- Nothing is lost. At any point of any run an idle session that lacks a published change is
    offered one, its cursor never goes back within a cell, and its next tick ends it or brings it
    to what is published. -/
theorem replication_loses_nothing {state : AppState host} {feed : ReplicationFeed}
    {handoff : Option CompletedPlayerHandoff} {unseen : Bool} {transferIds : List String}
    {isLocal : Bool} {sessionEpoch playerId : String} {client : InterestVerifier} {now : Nat}
    (h : start state feed handoff unseen transferIds isLocal sessionEpoch playerId client now = .ok c)
    (moves : List ReplicationMove) : Throughout next Coalesces c moves := by
  have hsynced := synced_of_start h
  clear h
  induction moves generalizing c with
  | nil => exact hsynced.coalesces
  | cons move rest ih =>
    refine ⟨hsynced.coalesces, fun c' hc' => ?_⟩
    obtain rfl := Except.ok.inj hc'
    exact ih (hsynced.step move)

end Replicated

/-! A player crosses from a cell of many events to one of few. -/

namespace Overlap

def eastKey : CellKeyV1 := { homeKey with cellX := 1 }

/-- The worlds after the crossing has been committed on either side. -/
def frontier : AppState (Overlap.host parse) where
  twoCell := true
  home := homeKey
  cells := fun key => { cell key with
    canonical := { (cell key).canonical with eventSequence := if key = homeKey then 7 else 3 } }
  named _ := rfl
  resident := some ⟨homeKey, 1⟩

def begun : Projected (Replicated (Overlap.host parse)) :=
  Replicated.start frontier .empty none false [] true "session" "player-1" client 0

def firstFrontier : InterestFrontier :=
  ⟨"session", 1, baselineIdOf (Overlap.host parse) "session" 1, 0, proofHash⟩

def crossing : CompletedPlayerHandoff := ⟨"transfer-1", homeKey, eastKey, 2, by decide⟩

/-- The first baseline is acknowledged, and the player crosses. -/
def crosses : List ReplicationMove :=
  [.forge (.acknowledgeInterest firstFrontier), .receive 0,
    .advance .structural [] (some crossing) false eastKey]

/-- The session has nothing in flight, has no frame of the player's cell, and is offered none. -/
def withholds (c : Replicated (Overlap.host parse)) : Bool :=
  let c := crosses.foldl .step c
  !c.session.closed && c.session.transport.pending.isNone
    && decide (c.last.cell ≠ c.session.state.currentCell)
    && !(c.feed.nextAfter c.cursor).isSome

theorem begun_withholds : ∃ c, begun = .ok c ∧ withholds c = true :=
  exists_ok_of_any (by decide +kernel)

end Overlap

namespace Replicated

/-- Nothing is offered to a session that crossed before it had a frame of the cell it is in now. -/
theorem crossing_withholds : ∃ c, Overlap.begun = .ok c
    ∧ ¬ Throughout next (fun c => c.Idle → c.Missing → (c.feed.nextAfter c.cursor).isSome = true) c
        Overlap.crosses := by
  obtain ⟨c, hc, hwithholds⟩ := Overlap.begun_withholds
  refine ⟨c, hc, fun h => ?_⟩
  simp only [Overlap.withholds, Bool.and_eq_true, Bool.not_eq_true', Option.isNone_iff_eq_none,
    decide_eq_true_eq] at hwithholds
  obtain ⟨⟨⟨hopen, hidle⟩, hcell⟩, hnothing⟩ := hwithholds
  have hoffered := h.last (runAll_total Replicated.step c Overlap.crosses) ⟨hopen, hidle⟩ (.inl hcell)
  rw [hnothing] at hoffered
  cases hoffered

/-- The session crosses, is told so, and ticks on. -/
theorem replication_loses_nothing_crossing : ∃ c, Overlap.begun = .ok c
    ∧ Throughout next Coalesces c (Overlap.crosses ++ [.takeHandoff 0, .tick false 0]) := by
  obtain ⟨c, hc, -⟩ := Overlap.begun_withholds
  exact ⟨c, hc, replication_loses_nothing hc _⟩

end Replicated

end Verse.Interest
