import Verse.Engine.Motion
import Verse.Lib.Leased

/-!
# Control frames

A player's control frames wait in line until the substeps of a physics step take them. What a
substep does to a player is told here by the line alone: `advancePlayerControl` is one turn of
a leased queue, and everything else it writes follows from what the turn took
(`controls_advancePlayerControl`). That is also why the step that solves and the step that
replays agree: neither the solver nor the locomotion of a substep is read.

`Sequenced` is what the acknowledgements rely on: the frames in line are numbered upwards, after
the one last processed and no further than the one last received.
-/

namespace Verse

open Lib
open Lib.Leased (Taking turn turns)

/-- The part of a player that its control frames decide. -/
structure PlayerControls where
  lastProcessedInputSequence : Nat
  pendingControlFrames : List PlayerControlFrame
  (controlLinearInput controlAngularInput : Vec3)
  (boost dampeners jump jumpHeld : Bool)
  controlExpiresAtSimulationTick : Nat

def Player.controls (player : Player) : PlayerControls where
  lastProcessedInputSequence := player.lastProcessedInputSequence
  pendingControlFrames := player.pendingControlFrames
  controlLinearInput := player.controlLinearInput
  controlAngularInput := player.controlAngularInput
  boost := player.boost
  dampeners := player.dampeners
  jump := player.jump
  jumpHeld := player.locomotion.jumpHeld
  controlExpiresAtSimulationTick := player.controlExpiresAtSimulationTick

variable {player : Player}

@[simp] theorem Player.pendingControlFrames_controls :
    player.controls.pendingControlFrames = player.pendingControlFrames := rfl

/-- What the substeps at `ticks` take from a line of frames, and what they leave. -/
abbrev framesTaken (ticks : List Nat) (frames : List PlayerControlFrame) :
    List (Taking PlayerControlFrame) × List PlayerControlFrame :=
  turns PlayerControlFrame.expiresAtSimulationTick ticks frames

namespace PlayerControls

variable {controls : PlayerControls} {tick : Nat} {ticks : List Nat}
  {takings : List (Taking PlayerControlFrame)} {frame : PlayerControlFrame}

/-- Nothing is asked of the body, and it is left to slow down. -/
def Neutral (controls : PlayerControls) : Prop :=
  controls.controlLinearInput = Vec3.zero ∧ controls.controlAngularInput = Vec3.zero
    ∧ controls.boost = false ∧ controls.dampeners = true ∧ controls.jump = false

/-- The frame is what the body is asked to do. -/
def Obeys (controls : PlayerControls) (frame : PlayerControlFrame) : Prop :=
  controls.controlLinearInput = frame.linearInput
    ∧ controls.controlAngularInput = frame.angularInput ∧ controls.boost = frame.boost
    ∧ controls.dampeners = frame.dampeners ∧ controls.jump = frame.jump
    ∧ controls.jumpHeld = frame.jump
    ∧ controls.controlExpiresAtSimulationTick = frame.expiresAtSimulationTick

/-- What a frame does as it is taken: one that is applied decides the controls, and either way it
    is acknowledged. -/
def taking (controls : PlayerControls) (taken : Taking PlayerControlFrame) : PlayerControls :=
  match taken.use with
  | .expired => { controls with lastProcessedInputSequence := taken.item.inputSequence }
  | .applied => { controls with
      lastProcessedInputSequence := taken.item.inputSequence
      controlLinearInput := taken.item.linearInput
      controlAngularInput := taken.item.angularInput
      boost := taken.item.boost
      dampeners := taken.item.dampeners
      jump := taken.item.jump
      jumpHeld := taken.item.jump
      controlExpiresAtSimulationTick := taken.item.expiresAtSimulationTick }

/-- The controls once the lease they are held under has been looked at. -/
def underLease (controls : PlayerControls) (tick : Nat) : PlayerControls :=
  if tick ≥ controls.controlExpiresAtSimulationTick then
    { controls with
      controlLinearInput := Vec3.zero
      controlAngularInput := Vec3.zero
      boost := false
      dampeners := true
      jump := false
      jumpHeld := false }
  else controls

/-- One substep. -/
def advanced (controls : PlayerControls) (tick : Nat) : PlayerControls :=
  let taken := turn PlayerControlFrame.expiresAtSimulationTick tick controls.pendingControlFrames
  (taken.1.foldl taking { controls with pendingControlFrames := taken.2 }).underLease tick

variable {taken : Taking PlayerControlFrame}

@[simp] theorem pendingControlFrames_taking :
    (controls.taking taken).pendingControlFrames = controls.pendingControlFrames := by
  unfold taking
  split <;> rfl

@[simp] theorem lastProcessed_taking :
    (controls.taking taken).lastProcessedInputSequence = taken.item.inputSequence := by
  unfold taking
  split <;> rfl

theorem pendingControlFrames_foldl :
    (takings.foldl taking controls).pendingControlFrames = controls.pendingControlFrames := by
  induction takings generalizing controls with
  | nil => rfl
  | cons taken takings ih => rw [List.foldl_cons, ih, pendingControlFrames_taking]

/-- The last frame taken is the one acknowledged. -/
theorem lastProcessed_foldl :
    (takings.foldl taking controls).lastProcessedInputSequence
      = (takings.getLast?.map fun taken => taken.item.inputSequence).getD
          controls.lastProcessedInputSequence := by
  induction takings generalizing controls with
  | nil => rfl
  | cons taken takings ih =>
    rw [List.foldl_cons, ih, lastProcessed_taking, List.getLast?_cons]
    cases takings.getLast? <;> rfl

theorem foldl_expired {frames : List PlayerControlFrame} :
    (frames.map fun frame => (⟨frame, tick, .expired⟩ : Taking PlayerControlFrame)).foldl taking
        controls
      = { controls with
          lastProcessedInputSequence :=
            (frames.getLast?.map PlayerControlFrame.inputSequence).getD
              controls.lastProcessedInputSequence } := by
  induction frames generalizing controls with
  | nil => rfl
  | cons frame frames ih =>
    rw [List.map_cons, List.foldl_cons, ih, List.getLast?_cons]
    cases frames.getLast? <;> rfl

@[simp] theorem pendingControlFrames_underLease :
    (controls.underLease tick).pendingControlFrames = controls.pendingControlFrames := by
  unfold underLease
  split <;> rfl

@[simp] theorem lastProcessed_underLease :
    (controls.underLease tick).lastProcessedInputSequence
      = controls.lastProcessedInputSequence := by
  unfold underLease
  split <;> rfl

@[simp] theorem controlExpires_underLease :
    (controls.underLease tick).controlExpiresAtSimulationTick
      = controls.controlExpiresAtSimulationTick := by
  unfold underLease
  split <;> rfl

/-- Controls are neutral once their lease is over, and no key is held. -/
theorem neutral_of_expired (h : (controls.advanced tick).controlExpiresAtSimulationTick ≤ tick) :
    (controls.advanced tick).Neutral ∧ (controls.advanced tick).jumpHeld = false := by
  unfold advanced at h ⊢
  simp only [controlExpires_underLease] at h
  rw [underLease, if_pos h]
  exact ⟨⟨rfl, rfl, rfl, rfl, rfl⟩, rfl⟩

/-- A frame that is applied is obeyed: its lease is not over at the tick it is applied at. -/
theorem obeys_of_applied
    (h : ⟨frame, tick, .applied⟩ ∈ (turn PlayerControlFrame.expiresAtSimulationTick tick
      controls.pendingControlFrames).1) : (controls.advanced tick).Obeys frame := by
  have hlease : tick < frame.expiresAtSimulationTick := by
    have huse := (Leased.use_of_mem_turn h).2
    simpa using huse
  obtain ⟨before, hbefore⟩ := Leased.exists_append_of_applied h
  simp only [advanced, hbefore, List.foldl_append, List.foldl_cons, List.foldl_nil]
  rw [underLease, if_neg (by simpa [taking] using hlease)]
  exact ⟨rfl, rfl, rfl, rfl, rfl, rfl, rfl⟩

/-- What a whole run of substeps takes, leaves and acknowledges. -/
theorem pendingControlFrames_advanced :
    (controls.advanced tick).pendingControlFrames
      = (turn PlayerControlFrame.expiresAtSimulationTick tick controls.pendingControlFrames).2 := by
  simp [advanced, pendingControlFrames_foldl]

theorem lastProcessed_advanced :
    (controls.advanced tick).lastProcessedInputSequence
      = ((turn PlayerControlFrame.expiresAtSimulationTick tick
          controls.pendingControlFrames).1.getLast?.map
            fun taken => taken.item.inputSequence).getD controls.lastProcessedInputSequence := by
  simp [advanced, lastProcessed_foldl]

theorem pendingControlFrames_run :
    (ticks.foldl advanced controls).pendingControlFrames
      = (framesTaken ticks controls.pendingControlFrames).2 := by
  induction ticks generalizing controls with
  | nil => rfl
  | cons tick ticks ih =>
    rw [List.foldl_cons, ih, pendingControlFrames_advanced]
    rfl

theorem lastProcessed_run :
    (ticks.foldl advanced controls).lastProcessedInputSequence
      = ((framesTaken ticks controls.pendingControlFrames).1.getLast?.map
          fun taken => taken.item.inputSequence).getD controls.lastProcessedInputSequence := by
  induction ticks generalizing controls with
  | nil => rfl
  | cons tick ticks ih =>
    rw [List.foldl_cons, ih, lastProcessed_advanced, pendingControlFrames_advanced]
    simp only [framesTaken, turns, List.getLast?_append]
    cases (turns PlayerControlFrame.expiresAtSimulationTick ticks
      (turn PlayerControlFrame.expiresAtSimulationTick tick
        controls.pendingControlFrames).2).1.getLast? <;> rfl

end PlayerControls

open PlayerControls

namespace Player

variable {player : Player} {tick : Nat}

/-- The player once the frames whose lease is over are gone. -/
def withoutOverdue (player : Player) (overdue rest : List PlayerControlFrame) : Player :=
  { player with
    pendingControlFrames := rest
    lastProcessedInputSequence :=
      (overdue.getLast?.map PlayerControlFrame.inputSequence).getD
        player.lastProcessedInputSequence }

/-- The player once a frame has taken effect. -/
def withFrame (player : Player) (tick : Nat) (frame : PlayerControlFrame)
    (rest : List PlayerControlFrame) : Player :=
  { player with
    pendingControlFrames := rest
    lastProcessedInputSequence := frame.inputSequence
    controlLinearInput := frame.linearInput
    controlAngularInput := frame.angularInput
    boost := frame.boost
    dampeners := frame.dampeners
    jump := frame.jump
    locomotion := { player.locomotion with
      jumpHeld := frame.jump
      jumpBufferExpiresAtSimulationTick :=
        if frame.jump && !player.locomotion.jumpHeld then
          saturatingAdd tick Content.jumpBufferTicks
        else player.locomotion.jumpBufferExpiresAtSimulationTick }
    controlExpiresAtSimulationTick := frame.expiresAtSimulationTick }

/-- The player once its lease has been looked at. -/
def underLease (player : Player) (tick : Nat) : Player :=
  if tick ≥ player.controlExpiresAtSimulationTick then
    { player with
      controlLinearInput := Vec3.zero
      controlAngularInput := Vec3.zero
      boost := false
      dampeners := true
      jump := false
      locomotion := { player.locomotion with jumpHeld := false } }
  else player

/-- The next frame takes effect, if there is one. -/
def withNext (player : Player) (tick : Nat) : List PlayerControlFrame → Player
  | [] => player
  | frame :: rest => player.withFrame tick frame rest

theorem controls_withoutOverdue {overdue rest} :
    (player.withoutOverdue overdue rest).controls
      = (overdue.map fun frame => (⟨frame, tick, .expired⟩ : Taking PlayerControlFrame)).foldl
          PlayerControls.taking { player.controls with pendingControlFrames := rest } := by
  rw [PlayerControls.foldl_expired]
  rfl

theorem controls_underLease :
    (player.underLease tick).controls = player.controls.underLease tick := by
  unfold underLease PlayerControls.underLease
  by_cases hover : tick ≥ player.controlExpiresAtSimulationTick
  · rw [if_pos hover,
      if_pos (show tick ≥ player.controls.controlExpiresAtSimulationTick from hover)]
    rfl
  · rw [if_neg hover,
      if_neg (show ¬ tick ≥ player.controls.controlExpiresAtSimulationTick from hover)]

end Player

variable {tick : Nat}

theorem advancePlayerControl_eq :
    advancePlayerControl player tick
      = ((player.withoutOverdue (Leased.overdue PlayerControlFrame.expiresAtSimulationTick tick
            player.pendingControlFrames)
          (Leased.current PlayerControlFrame.expiresAtSimulationTick tick
            player.pendingControlFrames)).withNext tick
          (Leased.current PlayerControlFrame.expiresAtSimulationTick tick
            player.pendingControlFrames)).underLease tick := by
  rw [← Leased.drop_overdue]
  rfl

theorem controls_advancePlayerControl :
    (advancePlayerControl player tick).controls = player.controls.advanced tick := by
  rw [advancePlayerControl_eq, Player.controls_underLease]
  refine congrArg (PlayerControls.underLease · tick) ?_
  cases hcurrent : Leased.current PlayerControlFrame.expiresAtSimulationTick tick
      player.pendingControlFrames with
  | nil =>
    have hturn := Leased.turn_of_current_nil hcurrent
    rw [Player.pendingControlFrames_controls, hturn]
    exact Player.controls_withoutOverdue
  | cons frame rest =>
    have hturn := Leased.turn_of_current_cons hcurrent
    rw [Player.pendingControlFrames_controls, hturn, List.foldl_append,
      PlayerControls.foldl_expired]
    rfl

theorem controls_foldl_advancePlayerControl {ticks : List Nat} :
    (ticks.foldl advancePlayerControl player).controls
      = ticks.foldl PlayerControls.advanced player.controls := by
  induction ticks generalizing player with
  | nil => rfl
  | cons tick ticks ih => rw [List.foldl_cons, ih, controls_advancePlayerControl, List.foldl_cons]

/-! ## Acknowledgements -/

/-- The most frames that may wait. -/
def controlQueueLimit : Nat :=
  min Content.controlLeaseTicks Content.maxPendingPlayerControlFrames

namespace Player

variable {player after : Player} {tick : Nat} {ticks : List Nat}

/-- What waits is numbered upwards, after the frame last processed and no further than the one
    last received. -/
structure Sequenced (player : Player) : Prop where
  upward : (player.pendingControlFrames.map PlayerControlFrame.inputSequence).Pairwise (· < ·)
  ahead : ∀ frame ∈ player.pendingControlFrames,
    player.lastProcessedInputSequence < frame.inputSequence
  received : ∀ frame ∈ player.pendingControlFrames,
    frame.inputSequence ≤ player.lastReceivedInputSequence
  acknowledged : player.lastProcessedInputSequence ≤ player.lastReceivedInputSequence
  bounded : player.pendingControlFrames.length ≤ controlQueueLimit

theorem sequenced_of_nil (hpending : player.pendingControlFrames = [])
    (hacknowledged : player.lastProcessedInputSequence ≤ player.lastReceivedInputSequence) :
    player.Sequenced := by
  refine ⟨?_, ?_, ?_, hacknowledged, ?_⟩ <;> simp [hpending]

theorem Sequenced.of_eq (h : player.Sequenced)
    (hpending : after.pendingControlFrames = player.pendingControlFrames)
    (hprocessed : after.lastProcessedInputSequence = player.lastProcessedInputSequence)
    (hreceived : after.lastReceivedInputSequence = player.lastReceivedInputSequence) :
    after.Sequenced := by
  obtain ⟨hupward, hahead, hin, hacknowledged, hbounded⟩ := h
  rw [← hpending] at hupward hahead hin hbounded
  rw [← hprocessed] at hahead hacknowledged
  rw [← hreceived] at hin hacknowledged
  exact ⟨hupward, hahead, hin, hacknowledged, hbounded⟩

/-- A frame of a later number joins a line that has room. -/
theorem Sequenced.queued (h : player.Sequenced) (frame : PlayerControlFrame)
    (hnext : player.lastReceivedInputSequence < frame.inputSequence)
    (hroom : player.pendingControlFrames.length < controlQueueLimit) :
    ({ player with
      pendingControlFrames := player.pendingControlFrames ++ [frame]
      lastReceivedInputSequence := frame.inputSequence } : Player).Sequenced where
  upward := by
    simp only [List.map_append, List.map_cons, List.map_nil, List.pairwise_append,
      List.pairwise_singleton, List.mem_singleton, true_and]
    refine ⟨h.upward, ?_⟩
    rintro _ hmem _ rfl
    obtain ⟨waiting, hwaiting, rfl⟩ := List.mem_map.mp hmem
    exact (h.received waiting hwaiting).trans_lt hnext
  ahead waiting hmem := by
    rcases List.mem_append.mp hmem with hbefore | hlast
    · exact h.ahead waiting hbefore
    · rw [List.mem_singleton.mp hlast]
      exact h.acknowledged.trans_lt hnext
  received waiting hmem := by
    rcases List.mem_append.mp hmem with hbefore | hlast
    · exact (h.received waiting hbefore).trans hnext.le
    · rw [List.mem_singleton.mp hlast]
  acknowledged := h.acknowledged.trans hnext.le
  bounded := by
    simp only [List.length_append, List.length_singleton]
    exact hroom

/-- Frames leave from the front and the last of them is acknowledged: the acknowledgement goes
    up, and what still waits is ahead of it. -/
theorem Sequenced.taken (h : player.Sequenced) {takings : List (Taking PlayerControlFrame)}
    (hsplit : player.pendingControlFrames = takings.map Taking.item ++ after.pendingControlFrames)
    (hprocessed : after.lastProcessedInputSequence
      = (takings.getLast?.map fun taken => taken.item.inputSequence).getD
          player.lastProcessedInputSequence)
    (hreceived : after.lastReceivedInputSequence = player.lastReceivedInputSequence) :
    after.Sequenced
      ∧ player.lastProcessedInputSequence ≤ after.lastProcessedInputSequence := by
  obtain ⟨hupward, hahead, hin, hacknowledged, hbounded⟩ := h
  rw [hsplit] at hupward hahead hin hbounded
  rw [List.map_append, List.pairwise_append] at hupward
  have hkept : ∀ frame ∈ after.pendingControlFrames,
      frame.inputSequence ≤ after.lastReceivedInputSequence := fun frame hmem =>
    hreceived ▸ hin frame (List.mem_append_right _ hmem)
  have hshort : after.pendingControlFrames.length ≤ controlQueueLimit := by
    rw [List.length_append] at hbounded
    omega
  cases hlast : takings.getLast? with
  | none =>
    -- Nothing was taken.
    simp only [hlast, Option.map_none, Option.getD_none] at hprocessed
    refine ⟨⟨hupward.2.1, fun frame hmem => ?_, hkept, ?_, hshort⟩, hprocessed.ge⟩
    · rw [hprocessed]
      exact hahead frame (List.mem_append_right _ hmem)
    · rw [hprocessed, hreceived]
      exact hacknowledged
  | some last =>
    simp only [hlast, Option.map_some, Option.getD_some] at hprocessed
    have hmem : last.item ∈ takings.map Taking.item :=
      List.mem_map_of_mem (List.mem_of_getLast? hlast)
    refine ⟨⟨hupward.2.1, fun frame hwaits => ?_, hkept, ?_, hshort⟩, ?_⟩
    · rw [hprocessed]
      exact hupward.2.2 _ (List.mem_map_of_mem hmem) _ (List.mem_map_of_mem hwaits)
    · rw [hprocessed, hreceived]
      exact hin _ (List.mem_append_left _ hmem)
    · rw [hprocessed]
      exact (hahead _ (List.mem_append_left _ hmem)).le

/-- What a run of substeps does with the frames of a player: the front of the line is taken in
    its order, each frame once and by its lease applied or expired, the last of them is
    acknowledged, and as many substeps as frames leave nothing waiting. -/
structure Consumes (ticks : List Nat) (player after : Player) : Prop where
  inOrder : player.pendingControlFrames
    = (framesTaken ticks player.pendingControlFrames).1.map Taking.item
      ++ after.pendingControlFrames
  byLease : ∀ taken ∈ (framesTaken ticks player.pendingControlFrames).1, taken.tick ∈ ticks
    ∧ (taken.use = .expired ↔ taken.item.expiresAtSimulationTick ≤ taken.tick)
  acknowledges : after.lastProcessedInputSequence
    = ((framesTaken ticks player.pendingControlFrames).1.getLast?.map
        fun taken => taken.item.inputSequence).getD player.lastProcessedInputSequence
  drains : player.pendingControlFrames.length ≤ ticks.length → after.pendingControlFrames = []

theorem consumes_of_controls
    (h : after.pendingControlFrames
        = (ticks.foldl PlayerControls.advanced player.controls).pendingControlFrames
      ∧ after.lastProcessedInputSequence
        = (ticks.foldl PlayerControls.advanced player.controls).lastProcessedInputSequence) :
    Consumes ticks player after := by
  obtain ⟨hpending, hprocessed⟩ := h
  rw [PlayerControls.pendingControlFrames_run] at hpending
  refine ⟨?_, fun taken hmem => Leased.use_of_mem_turns hmem, ?_, fun hlength => ?_⟩
  · rw [hpending]
    exact Leased.turns_split.symm
  · rw [hprocessed, PlayerControls.lastProcessed_run]
    rfl
  · have hleft : after.pendingControlFrames.length
        ≤ player.pendingControlFrames.length - ticks.length := by
      rw [hpending]
      exact Leased.length_turns_le
    exact List.length_eq_zero_iff.mp (by omega)

theorem consumes_foldl : Consumes ticks player (ticks.foldl advancePlayerControl player) :=
  consumes_of_controls ⟨congrArg PlayerControls.pendingControlFrames
      controls_foldl_advancePlayerControl,
    congrArg PlayerControls.lastProcessedInputSequence controls_foldl_advancePlayerControl⟩

theorem Sequenced.consumed (h : player.Sequenced) (hconsumes : Consumes ticks player after)
    (hreceived : after.lastReceivedInputSequence = player.lastReceivedInputSequence) :
    after.Sequenced
      ∧ player.lastProcessedInputSequence ≤ after.lastProcessedInputSequence :=
  h.taken hconsumes.inOrder hconsumes.acknowledges hreceived

/-! ## What a substep leaves alone -/

/-- A substep decides the controls and, in the locomotion, only the jump that was pressed. -/
structure SameBody (player after : Player) : Prop where
  playerId : after.playerId = player.playerId
  lifeState : after.lifeState = player.lifeState
  lastReceived : after.lastReceivedInputSequence = player.lastReceivedInputSequence
  boots : after.locomotion.magneticBootsEnabled = player.locomotion.magneticBootsEnabled
  jetpack : after.jetpackEnabled = player.jetpackEnabled

theorem SameBody.trans {middle : Player} (h₁ : SameBody player middle)
    (h₂ : SameBody middle after) : SameBody player after :=
  ⟨h₂.1.trans h₁.1, h₂.2.trans h₁.2, h₂.3.trans h₁.3, h₂.4.trans h₁.4, h₂.5.trans h₁.5⟩

theorem sameBody_advancePlayerControl : SameBody player (advancePlayerControl player tick) := by
  rw [advancePlayerControl_eq]
  have hlease : ∀ other : Player, SameBody other (other.underLease tick) := by
    intro other
    unfold underLease
    split <;> exact ⟨rfl, rfl, rfl, rfl, rfl⟩
  have hnext : ∀ (other : Player) (frames : List PlayerControlFrame),
      SameBody other (other.withNext tick frames) := by
    intro other frames
    cases frames <;> exact ⟨rfl, rfl, rfl, rfl, rfl⟩
  have hdropped : ∀ overdue rest, SameBody player (player.withoutOverdue overdue rest) :=
    fun _ _ => ⟨rfl, rfl, rfl, rfl, rfl⟩
  exact ((hdropped _ _).trans (hnext _ _)).trans (hlease _)

theorem sameBody_foldl : SameBody player (ticks.foldl advancePlayerControl player) := by
  induction ticks generalizing player with
  | nil => exact ⟨rfl, rfl, rfl, rfl, rfl⟩
  | cons tick ticks ih => exact sameBody_advancePlayerControl.trans ih

/-- When the jump that was last pressed is forgotten. -/
abbrev jumpBuffer (player : Player) : Nat := player.locomotion.jumpBufferExpiresAtSimulationTick

/-- Of two players with the same controls, a substep keeps the one behind whose jump is forgotten
    no later. -/
theorem jumpBuffer_advancePlayerControl_le {other : Player}
    (hcontrols : player.controls = other.controls)
    (hbuffer : player.jumpBuffer ≤ other.jumpBuffer) :
    (advancePlayerControl player tick).jumpBuffer
      ≤ (advancePlayerControl other tick).jumpBuffer := by
  have hlease : ∀ found : Player, (found.underLease tick).jumpBuffer = found.jumpBuffer := by
    intro found
    unfold underLease
    split <;> rfl
  have hpending : player.pendingControlFrames = other.pendingControlFrames :=
    congrArg PlayerControls.pendingControlFrames hcontrols
  have hheld : player.locomotion.jumpHeld = other.locomotion.jumpHeld :=
    congrArg PlayerControls.jumpHeld hcontrols
  rw [advancePlayerControl_eq, advancePlayerControl_eq, hlease, hlease, hpending]
  cases Leased.current PlayerControlFrame.expiresAtSimulationTick tick
      other.pendingControlFrames with
  | nil => exact hbuffer
  | cons frame rest =>
    show (if (frame.jump && !player.locomotion.jumpHeld) = true then
          saturatingAdd tick Content.jumpBufferTicks
        else player.jumpBuffer)
      ≤ if (frame.jump && !other.locomotion.jumpHeld) = true then
          saturatingAdd tick Content.jumpBufferTicks
        else other.jumpBuffer
    rw [hheld]
    by_cases hpressed : (frame.jump && !other.locomotion.jumpHeld) = true
    · rw [if_pos hpressed, if_pos hpressed]
    · rw [if_neg hpressed, if_neg hpressed]
      exact hbuffer

end Player
end Verse
