import Verse.Engine.Acknowledged
import Verse.Lib.Yields
import Verse.Runtime.Substeps

/-!
# One schedule

The controls of a player are advanced twice for every physics step: in the substeps of the cell
that solves it, between a probe under the player's feet and the forces of the solver, and again
by whoever applies the event, from the state before the step alone. `Tracks` holds between the
two after every substep: the solver's side writes nothing that the line of frames reads, and
what it writes of the jump only forgets it sooner.
-/

namespace Verse.Runtime

open Lib

variable {Scene : Type} {host : Host} {solver : Solver Scene} {w : WorldState}

/-- The player as it is solved, beside the player as it is replayed. -/
structure Tracks (solved replayed : Player) : Prop where
  controls : solved.controls = replayed.controls
  body : Player.SameBody replayed solved
  jump : solved.jumpBuffer ≤ replayed.jumpBuffer

theorem Tracks.refl (player : Player) : Tracks player player :=
  ⟨rfl, ⟨rfl, rfl, rfl, rfl, rfl⟩, le_rfl⟩

theorem Tracks.trans {first middle last : Player} (h₁ : Tracks first middle)
    (h₂ : Tracks middle last) : Tracks first last :=
  ⟨h₁.controls.trans h₂.controls, h₂.body.trans h₁.body, h₁.jump.trans h₂.jump⟩

variable {solved : Player}

theorem Tracks.advanced {replayed : Player} (h : Tracks solved replayed) (tick : Nat) :
    Tracks (advancePlayerControl solved tick) (advancePlayerControl replayed tick) := by
  refine ⟨?_, ?_, Player.jumpBuffer_advancePlayerControl_le h.controls h.jump⟩
  · rw [controls_advancePlayerControl, controls_advancePlayerControl, h.controls]
  · have hsolved : solved.SameBody (advancePlayerControl solved tick) :=
      Player.sameBody_advancePlayerControl
    have hreplayed : replayed.SameBody (advancePlayerControl replayed tick) :=
      Player.sameBody_advancePlayerControl
    obtain ⟨h₁, h₂, h₃, h₄, h₅⟩ := h.body.trans hsolved
    exact ⟨h₁.trans hreplayed.1.symm, h₂.trans hreplayed.2.symm, h₃.trans hreplayed.3.symm,
      h₄.trans hreplayed.4.symm, h₅.trans hreplayed.5.symm⟩

/-! ## One substep -/

/-- A locomotion in which neither the key that is held nor the boots differ, and the jump is
    forgotten no later. -/
structure SameKeys (before after : PlayerLocomotionSnapshot) : Prop where
  held : after.jumpHeld = before.jumpHeld
  boots : after.magneticBootsEnabled = before.magneticBootsEnabled
  jump : after.jumpBufferExpiresAtSimulationTick ≤ before.jumpBufferExpiresAtSimulationTick

variable {player : Player}

theorem Tracks.of_sameKeys {locomotion} (h : SameKeys player.locomotion locomotion) :
    Tracks { player with locomotion } player := by
  refine ⟨?_, ⟨rfl, rfl, rfl, h.boots, rfl⟩, h.jump⟩
  unfold Player.controls
  rw [h.held]

variable {tick : Nat}

variable {bodies : List BodyState}

theorem sameKeys_classifiedLocomotion {gravityUp : Vec3} {accepted} :
    SameKeys player.locomotion
      (classifiedLocomotion solver w bodies player gravityUp accepted tick).1 := by
  unfold classifiedLocomotion
  extract_lets locomotion priorHadSupport supportUp jumpRequested
  by_cases hjump : jumpRequested = true
  · rw [if_pos hjump]
    have hbuffer : tick ≤ player.locomotion.jumpBufferExpiresAtSimulationTick := by
      simp only [jumpRequested, Bool.and_eq_true, decide_eq_true_eq] at hjump
      exact hjump.1.2
    exact ⟨rfl, rfl, hbuffer⟩
  · rw [if_neg hjump]
    cases accepted <;> exact ⟨rfl, rfl, le_rfl⟩

theorem yields_classifyPlayerLocomotion :
    Yields (classifyPlayerLocomotion host solver w player bodies tick)
      fun found => Tracks found.1 player := by
  unfold classifyPlayerLocomotion
  split
  · exact .pure (.refl player)
  split
  · exact .pure (.refl player)
  split
  · exact .pure (.of_sameKeys ⟨rfl, rfl, le_rfl⟩)
  · -- On foot: the view is turned, and then the footing is classified.
    refine Yields.bind .any fun hit _ => .pure ?_
    exact (Tracks.of_sameKeys sameKeys_classifiedLocomotion).trans
      (.of_sameKeys ⟨rfl, rfl, le_rfl⟩)

variable {stepping : Stepping}

variable {entry : String × Player}

theorem yields_stepPlayer :
    Yields (stepPlayer host solver w tick stepping entry) fun after =>
      ∃ solved, after.scheduledPlayers = stepping.scheduledPlayers.insert entry.1 solved
        ∧ Tracks solved (advancePlayerControl entry.2 tick) := by
  unfold stepPlayer
  refine Yields.bind .any fun bodies _ => ?_
  refine Yields.bind (.zoom yields_classifyPlayerLocomotion) fun found hfound => ?_
  exact .pure ⟨found.1, rfl, hfound⟩

/-- The players of a step after the substeps at `ticks`, beside the players it began with. -/
def Followed (first after : OrdMap String Player) (ticks : List Nat) : Prop :=
  ∀ playerId,
    (∀ player, first.get? playerId = some player → ∃ solved,
      after.get? playerId = some solved
        ∧ Tracks solved (ticks.foldl advancePlayerControl player))
    ∧ (first.get? playerId = none → after.get? playerId = none)

theorem Followed.refl (players : OrdMap String Player) : Followed players players [] :=
  fun _ => ⟨fun player hplayer => ⟨player, hplayer, .refl player⟩, id⟩

variable {first : OrdMap String Player}

theorem Followed.next {middle after} {ticks : List Nat} (h : Followed first middle ticks)
    (hnext : Followed middle after [tick]) :
    Followed first after (ticks ++ [tick]) := by
  intro playerId
  constructor
  · intro player hplayer
    obtain ⟨solved, hsolved, htracks⟩ := (h playerId).1 player hplayer
    obtain ⟨later, hlater, hlast⟩ := (hnext playerId).1 solved hsolved
    refine ⟨later, hlater, ?_⟩
    rw [List.foldl_append]
    exact hlast.trans (htracks.advanced tick)
  · exact fun hnone => (hnext playerId).2 ((h playerId).2 hnone)

/-- Where the players of a substep stand when the first of them have been through. -/
def Halfway (first : OrdMap String Player) (tick : Nat) (before : List (String × Player))
    (stepping : Stepping) : Prop :=
  ∀ playerId,
    (playerId ∉ before.map Prod.fst
      ∧ stepping.scheduledPlayers.get? playerId = first.get? playerId)
    ∨ ∃ player solved, (playerId, player) ∈ before
      ∧ stepping.scheduledPlayers.get? playerId = some solved
      ∧ Tracks solved (advancePlayerControl player tick)

theorem Halfway.next {before} {after : Stepping} (h : Halfway first tick before stepping)
    (hafter : after.scheduledPlayers = stepping.scheduledPlayers.insert entry.1 solved)
    (htracks : Tracks solved (advancePlayerControl entry.2 tick)) :
    Halfway first tick (before ++ [entry]) after := by
  intro playerId
  rw [hafter]
  by_cases hthis : playerId = entry.1
  · refine .inr ⟨entry.2, solved, ?_, ?_, htracks⟩
    · rw [hthis]
      exact List.mem_append_right _ (List.mem_singleton_self _)
    · rw [hthis]
      exact OrdMap.get?_insert_self
  · rw [OrdMap.get?_insert_ne hthis]
    rcases h playerId with ⟨hnot, hsame⟩ | ⟨player, other, hmem, hother, hdone⟩
    · refine .inl ⟨?_, hsame⟩
      simp only [List.map_append, List.map_cons, List.map_nil, List.mem_append, List.mem_singleton]
      exact fun hin => hin.elim hnot hthis
    · exact .inr ⟨player, other, List.mem_append_left _ hmem, hother, hdone⟩

theorem Halfway.all
    (h : Halfway first tick first.entries stepping) :
    Followed first stepping.scheduledPlayers [tick] := by
  intro playerId
  constructor
  · intro player hplayer
    have hentry : (playerId, player) ∈ first.entries := OrdMap.mem_entries.mpr hplayer
    rcases h playerId with ⟨hnot, -⟩ | ⟨other, solved, hmem, hsolved, htracks⟩
    · exact absurd (List.mem_map.mpr ⟨_, hentry, rfl⟩) hnot
    · obtain rfl := Option.mem_unique hplayer (OrdMap.mem_entries.mp hmem)
      exact ⟨solved, hsolved, htracks⟩
  · intro hnone
    rcases h playerId with ⟨-, hsame⟩ | ⟨other, solved, hmem, -⟩
    · exact hsame.trans hnone
    · rw [OrdMap.mem_entries.mp hmem] at hnone
      cases hnone

theorem yields_stepPlayers :
    Yields (stepPlayers host solver w tick stepping) fun after =>
      Followed stepping.scheduledPlayers after.scheduledPlayers [tick] := by
  have hloop : Yields (stepPlayers host solver w tick stepping)
      (Halfway stepping.scheduledPlayers tick stepping.scheduledPlayers.entries) := by
    refine Yields.foldlM (Halfway stepping.scheduledPlayers tick) ?_ ?_
    · intro before current entry hhalfway
      refine yields_stepPlayer.weaken fun after hafter => ?_
      obtain ⟨solved, hinserted, htracks⟩ := hafter
      exact hhalfway.next hinserted htracks
    · intro playerId
      exact .inl ⟨List.not_mem_nil, rfl⟩
  exact hloop.weaken fun _ hall => hall.all

theorem yields_substep {substepIndex : Nat} :
    Yields (substep host solver w stepping substepIndex) fun after =>
      Followed stepping.scheduledPlayers after.scheduledPlayers
        [saturatingAdd w.simulationTick substepIndex] := by
  unfold substep
  refine Yields.bind yields_stepPlayers fun middle hmiddle => ?_
  refine .bind .any fun step _ => ?_
  refine .bind .any fun _ _ => ?_
  refine .bind .any fun _ _ => ?_
  refine .bind .any fun contacts _ => ?_
  exact .pure hmiddle

/-! ## A step -/

variable {stepCount : Nat}

theorem yields_substeps :
    Yields (substeps host solver w stepCount) fun after =>
      Followed (rosterAtStep w) after.scheduledPlayers (w.substepTicks stepCount) := by
  unfold substeps
  refine Yields.bind .any fun bodies _ => ?_
  refine Yields.foldlM (fun before (current : Stepping) => Followed (rosterAtStep w)
    current.scheduledPlayers (before.map (saturatingAdd w.simulationTick))) ?_ (.refl _)
  intro before current substepIndex hfollowed
  refine yields_substep.weaken fun after hafter => ?_
  rw [List.map_append]
  exact hfollowed.next hafter

variable {playerId : String}

theorem get?_rosterAtStep
    (hplayer : w.player.byId.get? playerId = some player)
    (hfree : w.playerTransferLocks.contains playerId = false) :
    (rosterAtStep w).get? playerId = some player := by
  refine OrdMap.mem_entries.mp (List.mem_filter.mpr ⟨OrdMap.mem_entries.mpr hplayer, ?_⟩)
  simp [hfree]

theorem of_get?_rosterAtStep
    (h : (rosterAtStep w).get? playerId = some player) :
    w.player.byId.get? playerId = some player := by
  have hentry : (playerId, player) ∈ (rosterAtStep w).entries := OrdMap.mem_entries.mpr h
  exact OrdMap.mem_entries.mp (List.mem_filter.mp hentry).1

variable {outcome : PlayerPhysicsOutcome}

/-- An outcome reports the controls of the player it is made from, which are those of the player
    beside it. -/
theorem canonicalControls_of_tracks {scheduled : Player} (h : Tracks solved scheduled)
    {resultingTick : Nat} {body : BodyState} {surfaceContact : Bool}
    (houtcome : playerPhysicsOutcome host solver w solved body surfaceContact resultingTick
      = .ok outcome) :
    outcome.playerId = solved.playerId
      ∧ WorldState.CanonicalControls scheduled resultingTick outcome
      ∧ SameKeys scheduled.locomotion outcome.locomotion := by
  have hexpires : solved.controlExpiresAtSimulationTick = scheduled.controlExpiresAtSimulationTick :=
    congrArg PlayerControls.controlExpiresAtSimulationTick h.controls
  have hlinear : solved.controlLinearInput = scheduled.controlLinearInput :=
    congrArg PlayerControls.controlLinearInput h.controls
  have hangular : solved.controlAngularInput = scheduled.controlAngularInput :=
    congrArg PlayerControls.controlAngularInput h.controls
  have hboost : solved.boost = scheduled.boost := congrArg PlayerControls.boost h.controls
  have hdampeners : solved.dampeners = scheduled.dampeners :=
    congrArg PlayerControls.dampeners h.controls
  have hjump : solved.jump = scheduled.jump := congrArg PlayerControls.jump h.controls
  simp only [playerPhysicsOutcome, bind_eq_ok, pure_eq_ok, Prod.exists, hexpires, hlinear,
    hangular, hboost, hdampeners, hjump, decide_eq_true_eq] at houtcome
  obtain ⟨address, position, -, rfl⟩ := houtcome
  exact ⟨rfl, ⟨rfl, rfl, rfl, rfl, rfl, rfl⟩,
    ⟨congrArg PlayerControls.jumpHeld h.controls, h.body.boots, h.jump⟩⟩

/-- An outcome reports the controls of the player it is of, as the replay schedules them, and a
    locomotion with the same keys. -/
theorem reports_of_playerOutcomes {outcomes} (hw : w.Acknowledged)
    (hfollowed : Followed (rosterAtStep w) stepping.scheduledPlayers (w.substepTicks stepCount))
    (h : playerOutcomes host solver w stepCount stepping = .ok outcomes) (hmem : outcome ∈ outcomes)
    {prior : Player} (hprior : w.player.byId.get? outcome.playerId = some prior)
    (halive : prior.lifeState = .alive) :
    WorldState.CanonicalControls (w.scheduledPlayer stepCount prior)
        (saturatingAdd w.simulationTick stepCount) outcome
      ∧ SameKeys (w.scheduledPlayer stepCount prior).locomotion outcome.locomotion := by
  obtain ⟨⟨solved, body⟩, hentry, houtcome⟩ := exists_of_mem_mapM h outcome hmem
  simp only [List.mem_filterMap, Option.map_eq_some_iff, Prod.mk.injEq] at hentry
  obtain ⟨found, hfound, found', -, rfl, rfl⟩ := hentry
  obtain ⟨playerId, hscheduled⟩ := OrdMap.mem_values.mp hfound
  -- The player was of the roster, under the name it reports.
  cases hfirst : (rosterAtStep w).get? playerId with
  | none =>
    rw [(hfollowed playerId).2 hfirst] at hscheduled
    cases hscheduled
  | some player =>
    obtain ⟨solved, hsolved, htracks⟩ := (hfollowed playerId).1 player hfirst
    obtain rfl := Option.mem_unique hscheduled hsolved
    have hplayer := of_get?_rosterAtStep hfirst
    obtain ⟨hreported, hcontrols⟩ := canonicalControls_of_tracks htracks houtcome
    have hname : outcome.playerId = playerId :=
      hreported.trans (htracks.body.playerId.trans
        (Player.sameBody_foldl.playerId.trans (hw playerId player hplayer).1))
    rw [hname, hplayer] at hprior
    obtain rfl := Option.some.inj hprior
    rw [WorldState.scheduledPlayer_eq halive]
    exact hcontrols

/-! ## Every run -/

/-- What one substep does besides taking frames: a frame it applies is obeyed, and where the
    lease is over by then the controls are neutral. -/
theorem substep_obeys (player : Player) (tick : Nat) :
    (∀ frame, ⟨frame, tick, .applied⟩ ∈ (Leased.turn PlayerControlFrame.expiresAtSimulationTick
        tick player.pendingControlFrames).1 →
      (advancePlayerControl player tick).controls.Obeys frame)
    ∧ ((advancePlayerControl player tick).controlExpiresAtSimulationTick ≤ tick →
      (advancePlayerControl player tick).controls.Neutral) := by
  constructor
  · intro frame happlied
    rw [controls_advancePlayerControl]
    exact PlayerControls.obeys_of_applied happlied
  · intro hover
    have hexpires : (advancePlayerControl player tick).controlExpiresAtSimulationTick
        = (player.controls.advanced tick).controlExpiresAtSimulationTick := by
      rw [← controls_advancePlayerControl]
      rfl
    rw [controls_advancePlayerControl]
    exact (PlayerControls.neutral_of_expired (hexpires ▸ hover)).1

theorem acknowledged_of_runAll {events w'} (hw : w.Acknowledged)
    (h : runAll (fun w event => WorldState.applyEvent host w event) w events = .ok w') :
    w'.Acknowledged := by
  induction events generalizing w with
  | nil =>
    cases h
    exact hw
  | cons event events ih =>
    obtain ⟨middle, hfirst, hrest⟩ := runAll_cons_eq_ok.mp h
    exact ih (WorldState.acknowledged_of_applyEvent hw hfirst) hrest

/-- Control frames are consumed exactly once. Whatever waits for a player and at whatever ticks
    its substeps run, frames are taken from the front, each of them applied or expired by its
    lease and acknowledged, and a lease that is over leaves neutral controls. Whatever a cell
    accepts, the acknowledgements stay within what was received and the line within its bound. A
    committed step does all this to every player that is alive; and the substeps that solve it
    schedule the same controls as its replay, which their outcomes report. -/
theorem control_frames_exactly_once (host : Host) (solver : Solver Scene) {w : WorldState}
    (hw : w.Acknowledged) :
    (∀ (player : Player) (ticks : List Nat),
      player.Consumes ticks (ticks.foldl advancePlayerControl player)
      ∧ (player.Sequenced → (ticks.foldl advancePlayerControl player).Sequenced
        ∧ player.lastProcessedInputSequence
          ≤ (ticks.foldl advancePlayerControl player).lastProcessedInputSequence))
    ∧ (∀ (player : Player) (tick : Nat),
      (∀ frame, ⟨frame, tick, .applied⟩ ∈ (Leased.turn PlayerControlFrame.expiresAtSimulationTick
          tick player.pendingControlFrames).1 →
        (advancePlayerControl player tick).controls.Obeys frame)
      ∧ ((advancePlayerControl player tick).controlExpiresAtSimulationTick ≤ tick →
        (advancePlayerControl player tick).controls.Neutral))
    ∧ (∀ events w', runAll (fun w event => WorldState.applyEvent host w event) w events = .ok w' →
      w'.Acknowledged)
    ∧ (∀ event w' fixedStepHz stepCount remaining bodies players contacts active,
      w.applyEvent host event = .ok w' →
      event.payload
        = .physicsStepCommitted fixedStepHz stepCount remaining bodies players contacts active →
      ∀ playerId player, w.player.byId.get? playerId = some player →
        player.lifeState = .alive →
        ∃ after, w'.player.byId.get? playerId = some after
          ∧ WorldState.Steered (w.substepTicks stepCount) w'.simulationTick player after)
    ∧ ∀ stepCount scene stepping scene',
      substeps host solver w stepCount scene = .ok stepping scene' →
      (∀ playerId player, w.player.byId.get? playerId = some player →
        w.playerTransferLocks.contains playerId = false → player.lifeState = .alive →
        ∃ solved, stepping.scheduledPlayers.get? playerId = some solved
          ∧ Tracks solved (w.scheduledPlayer stepCount player))
      ∧ ∀ outcomes, playerOutcomes host solver w stepCount stepping = .ok outcomes →
        ∀ outcome ∈ outcomes, ∀ prior, w.player.byId.get? outcome.playerId = some prior →
          prior.lifeState = .alive →
          WorldState.CanonicalControls (w.scheduledPlayer stepCount prior)
              (saturatingAdd w.simulationTick stepCount) outcome
            ∧ SameKeys (w.scheduledPlayer stepCount prior).locomotion outcome.locomotion := by
  refine ⟨fun player ticks => ⟨Player.consumes_foldl, fun hsequenced => ?_⟩, substep_obeys,
    fun events w' hrun => acknowledged_of_runAll hw hrun, ?_, ?_⟩
  · exact hsequenced.consumed Player.consumes_foldl Player.sameBody_foldl.lastReceived
  · intro event w' _ stepCount _ _ _ _ _ happlied hpayload playerId player hplayer halive
    exact (WorldState.steered_of_applyEvent hw happlied hpayload hplayer halive).2
  · intro stepCount scene stepping scene' hrun
    have hfollowed := yields_substeps scene stepping scene' hrun
    constructor
    · intro playerId player hplayer hfree halive
      rw [WorldState.scheduledPlayer_eq halive]
      exact (hfollowed playerId).1 player (get?_rosterAtStep hplayer hfree)
    · intro outcomes houtcomes outcome hmem prior hprior halive
      exact reports_of_playerOutcomes hw hfollowed houtcomes hmem hprior halive

/-! A player has a frame waiting whose lease is over and one behind it. A step of two substeps
drops the first, applies the second and acknowledges both, live and replayed. -/

def staleFrame : PlayerControlFrame where
  inputSequence := 7
  linearInput := ⟨.finite 1, .finite 0, .finite 0⟩
  angularInput := Vec3.zero
  boost := true
  dampeners := false
  jump := false
  expiresAtSimulationTick := 0

def freshFrame : PlayerControlFrame where
  inputSequence := 8
  linearInput := ⟨.finite 0, .finite 1, .finite 0⟩
  angularInput := Vec3.zero
  boost := false
  dampeners := true
  jump := true
  expiresAtSimulationTick := 18

def steeredPlayer : Player :=
  { proofPlayer with
    lastReceivedInputSequence := 8
    lastProcessedInputSequence := 6
    pendingControlFrames := [staleFrame, freshFrame] }

/-- The small cell with both frames waiting for its player. -/
def steeredCell : WorldState :=
  { proofCell with
    simulationTick := 1
    player := ⟨"player-1", .ofList [("player-1", steeredPlayer)]⟩ }

/-- The bodies of the small cell. -/
def restingBodies : List BodyState :=
  [⟨"grid-works", Vec3.zero, Quat.identity, Vec3.zero, Vec3.zero⟩,
    ⟨playerBodyId "player-1", Vec3.zero, Quat.identity, Vec3.zero, Vec3.zero⟩]

/-- A solver in which nothing moves. -/
def restingSolver : Solver Unit where
  moving := fun _ => false
  canonicalVec3 := fun v => v
  turnedPitch := fun pitch _ => pitch
  clampedLinear := fun v => v
  clampedAngular := fun v => v
  quantizeF64 := fun value => value
  quantizeNonnegativeU64 := fun _ _ => 0
  built := fun _ => ()
  bodyStates := pure restingBodies
  adjustGroundedCapsule := fun _ _ bodies _ => pure bodies
  probe := fun _ _ _ _ _ => pure none
  supportVelocity := fun _ _ _ => Vec3.zero
  physicsControls := fun _ _ _ _ _ _ => []
  step := fun _ => pure ⟨restingBodies, []⟩
  playersWithinEnvelope := fun _ _ _ => .ok ()
  gridsWithinEnvelope := fun _ _ _ => .ok ()

/-- The step and the cell that replays it. -/
def steeredRun : Intent (Option (Stepping × CanonicalEvent × WorldState)) :=
  match substeps proofHost restingSolver steeredCell 2 () with
  | .ok stepping _ => do
    let payload ← physicsStepPayload proofHost restingSolver steeredCell 2 0 stepping
    let event := systemEvent steeredCell "physics-step" 500 payload
    let replayed ← steeredCell.applyEvent proofHost event
    return some (stepping, event, replayed)
  | .error _ _ => return none

theorem acknowledged_steeredCell : steeredCell.Acknowledged := by
  intro playerId player hplayer
  have hentries : steeredCell.player.byId.entries = [("player-1", steeredPlayer)] := rfl
  have hentry := OrdMap.mem_entries.mpr hplayer
  rw [hentries, List.mem_singleton] at hentry
  obtain ⟨rfl, rfl⟩ := Prod.mk.inj hentry
  refine ⟨rfl, ?_, ?_, ?_, ?_, ?_⟩ <;> decide

/-- Two frames wait when the step is taken: both are spent, and the replay spends the same. -/
theorem control_frames_exactly_once_two :
    ∃ stepping event replayed, steeredRun = .ok (some (stepping, event, replayed))
      ∧ ∃ solved after, stepping.scheduledPlayers.get? "player-1" = some solved
        ∧ replayed.player.byId.get? "player-1" = some after
        ∧ WorldState.Steered (steeredCell.substepTicks 2) replayed.simulationTick steeredPlayer
          after
        ∧ Tracks solved (steeredCell.scheduledPlayer 2 steeredPlayer)
        ∧ after.pendingControlFrames = [] ∧ after.lastProcessedInputSequence = 8 := by
  have hends : steeredRun.toOption.any fun run => run.any fun run =>
      (run.2.2.player.byId.get? "player-1").any fun after =>
        decide (after.pendingControlFrames = [] ∧ after.lastProcessedInputSequence = 8) := by
    decide +kernel
  obtain ⟨run, hrun, hends⟩ := exists_ok_of_any hends
  obtain ⟨⟨stepping, event, replayed⟩, rfl, hends⟩ := (Option.any_eq_true ..).mp hends
  refine ⟨stepping, event, replayed, hrun, ?_⟩
  have hplayer : steeredCell.player.byId.get? "player-1" = some steeredPlayer := rfl
  obtain ⟨-, -, -, hcommits, hsolves⟩ :=
    control_frames_exactly_once proofHost restingSolver acknowledged_steeredCell
  unfold steeredRun at hrun
  split at hrun
  case h_2 => cases hrun
  case h_1 _ found scene hsubsteps =>
    simp only [bind_eq_ok, pure_eq_ok, Option.some.injEq, Prod.mk.injEq] at hrun
    obtain ⟨payload, hpayload, _, happlied, rfl, rfl, rfl⟩ := hrun
    obtain ⟨bodies, players, -, rfl⟩ := physicsStepPayload_eq_ok hpayload
    obtain ⟨solved, hsolved, htracks⟩ :=
      (hsolves 2 () _ _ hsubsteps).1 _ _ hplayer rfl rfl
    obtain ⟨after, hafter, hsteered⟩ :=
      hcommits _ _ _ _ _ _ _ _ _ happlied rfl _ _ hplayer rfl
    refine ⟨solved, after, hsolved, hafter, hsteered, htracks, ?_⟩
    simp only [hafter, Option.any_some] at hends
    exact of_decide_eq_true hends

end Verse.Runtime
