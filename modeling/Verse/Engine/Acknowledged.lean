import Verse.Engine.Controls
import Verse.Engine.Destruction
import Verse.Engine.Frame
import Verse.Engine.Work
import Verse.Handoff.Steps

/-!
# The control frames of a cell

Whatever a cell accepts, the frames of each of its players stay in sequence. A frame joins the
line only with a number of its own and while there is room; the substeps of a physics step take
frames from the front; and where a player is incapacitated, comes back, arrives from another
cell or is left behind, nothing waits any more.
-/

namespace Verse

open Lib

/-- Another record of the same player, with the same frames and acknowledgements. -/
structure Player.SameLine (player after : Player) : Prop where
  playerId : after.playerId = player.playerId
  pending : after.pendingControlFrames = player.pendingControlFrames
  processed : after.lastProcessedInputSequence = player.lastProcessedInputSequence
  received : after.lastReceivedInputSequence = player.lastReceivedInputSequence

theorem PackageOk.arrives {host : Host} {package} (h : PackageOk host package) :
    package.destinationPlayer.playerId = package.aggregateId
      ∧ package.destinationPlayer.pendingControlFrames = []
      ∧ package.destinationPlayer.lastProcessedInputSequence
        = package.destinationPlayer.lastReceivedInputSequence := by
  have hrebased := h.rebased
  simp only [destinationPlayer, bind_eq_ok, demand_eq_ok, pure_eq_ok] at hrebased
  obtain ⟨-, -, position, -, epoch, -, heq⟩ := hrebased
  refine ⟨h.subject.2, ?_⟩
  rw [← heq]
  exact ⟨rfl, rfl⟩

theorem Player.sameLine_creditCompletion {owner : Player} {job} :
    owner.SameLine (owner.creditCompletion job) := by
  unfold Player.creditCompletion
  split <;> exact ⟨rfl, rfl, rfl, rfl⟩

namespace WorldState

variable {host : Host} {w w' : WorldState} {event : CanonicalEvent}

/-- A player under its own name whose frames are in sequence. -/
def InLine (playerId : String) (player : Player) : Prop :=
  player.playerId = playerId ∧ player.Sequenced

/-- The frames of every player of the cell are in sequence. -/
def Acknowledged (w : WorldState) : Prop :=
  ∀ playerId player, w.player.byId.get? playerId = some player → InLine playerId player

variable {playerId : String}

variable {after : Player}

theorem InLine.of_sameLine {player : Player}
    (h : InLine playerId player) (hsame : player.SameLine after) : InLine playerId after :=
  ⟨hsame.playerId.trans h.1, h.2.of_eq hsame.pending hsame.processed hsame.received⟩

variable {player : Player}

namespace Acknowledged

theorem of_nothing_waits (h : ∀ playerId player, w.player.byId.get? playerId = some player →
    player.playerId = playerId ∧ player.pendingControlFrames = []
      ∧ player.lastProcessedInputSequence ≤ player.lastReceivedInputSequence) :
    Acknowledged w := by
  intro playerId player hplayer
  obtain ⟨hid, hpending, hprocessed⟩ := h playerId player hplayer
  exact ⟨hid, Player.sequenced_of_nil hpending hprocessed⟩

theorem of_eq (h : Acknowledged w) (hplayer : w'.player.byId = w.player.byId) :
    Acknowledged w' := by
  intro playerId player hget
  rw [hplayer] at hget
  exact h playerId player hget

theorem withPlayer (h : Acknowledged w)
    (hplayer : InLine playerId player) : Acknowledged (w.withPlayer playerId player) := by
  intro other found hfound
  simp only [WorldState.withPlayer, OrdMap.get?_insert] at hfound
  split_ifs at hfound with hother
  · subst hother
    cases hfound
    exact hplayer
  · exact h other found hfound

theorem rewritten (h : Acknowledged w)
    (hplayer : w.player.byId.get? playerId = some player) (hsame : player.SameLine after) :
    Acknowledged (w.withPlayer playerId after) :=
  h.withPlayer ((h playerId player hplayer).of_sameLine hsame)

theorem cleared (h : Acknowledged w) (player : Player)
    (hplayer : w.player.byId.get? playerId = some player)
    (hid : after.playerId = player.playerId) (hpending : after.pendingControlFrames = [])
    (hprocessed : after.lastProcessedInputSequence ≤ after.lastReceivedInputSequence) :
    Acknowledged (w.withPlayer playerId after) :=
  h.withPlayer ⟨hid.trans (h playerId player hplayer).1,
    Player.sequenced_of_nil hpending hprocessed⟩

end Acknowledged

/-! ## A physics step -/

/-- The ticks of the substeps of a step. -/
def substepTicks (w : WorldState) (stepCount : Nat) : List Nat :=
  (List.range stepCount).map (saturatingAdd w.simulationTick)

variable {stepCount : Nat}

theorem scheduledPlayer_eq (halive : player.lifeState = .alive) :
    w.scheduledPlayer stepCount player
      = (w.substepTicks stepCount).foldl advancePlayerControl player := by
  rw [scheduledPlayer, if_pos halive, substepTicks, List.foldl_map]

variable {outcome : PlayerPhysicsOutcome}

theorem consumes_movedPlayer (halive : player.lifeState = .alive) :
    Player.Consumes (w.substepTicks stepCount) player
      (movedPlayer (w.scheduledPlayer stepCount player) player outcome) := by
  have hconsumes : Player.Consumes (w.substepTicks stepCount) player
      ((w.substepTicks stepCount).foldl advancePlayerControl player) := Player.consumes_foldl
  rw [← scheduledPlayer_eq halive] at hconsumes
  exact { hconsumes with }

theorem inLine_movedPlayer (h : InLine playerId player) :
    InLine playerId (movedPlayer (w.scheduledPlayer stepCount player) player outcome) := by
  refine ⟨h.1, ?_⟩
  by_cases halive : player.lifeState = .alive
  · exact (h.2.consumed (consumes_movedPlayer halive) rfl).1
  · -- A player that is not alive keeps the frames it has.
    rw [scheduledPlayer, if_neg halive]
    exact h.2.of_eq rfl rfl rfl

variable {bodies : List PhysicsBodyOutcome} {players : List PlayerPhysicsOutcome}

theorem acknowledged_stepped {stepPhase : Nat} {active} (h : Acknowledged w) :
    Acknowledged (w.stepped stepCount stepPhase bodies players active) := by
  intro playerId player hget
  simp only [stepped, OrdMap.get?_foldl_modify, Option.map_eq_some_iff] at hget
  obtain ⟨before, hbefore, rfl⟩ := hget
  have hline := h playerId before hbefore
  clear hbefore
  -- By induction on the outcomes for this player: each finds it in line and leaves it so.
  induction players.filter fun outcome => decide (outcome.playerId = playerId)
    generalizing before with
  | nil => exact hline
  | cons outcome outcomes ih => exact ih _ (inLine_movedPlayer hline)

/-- The controls an outcome must report of a player that was scheduled. -/
structure CanonicalControls (scheduled : Player) (resultingTick : Nat)
    (outcome : PlayerPhysicsOutcome) : Prop where
  linear : outcome.controlLinearInput
    = if resultingTick < scheduled.controlExpiresAtSimulationTick then
        scheduled.controlLinearInput else Vec3.zero
  angular : outcome.controlAngularInput
    = if resultingTick < scheduled.controlExpiresAtSimulationTick then
        scheduled.controlAngularInput else Vec3.zero
  boost : outcome.boost = (scheduled.boost
    && decide (resultingTick < scheduled.controlExpiresAtSimulationTick))
  jump : outcome.jump = (scheduled.jump
    && decide (resultingTick < scheduled.controlExpiresAtSimulationTick))
  dampeners : outcome.dampeners = (scheduled.dampeners
    || !decide (resultingTick < scheduled.controlExpiresAtSimulationTick))
  expires : outcome.controlExpiresAtSimulationTick = scheduled.controlExpiresAtSimulationTick

/-- An accepted outcome is of a player that is alive and free, and reports its controls. -/
theorem canonicalControls_of_validate {earlier}
    (h : w.validatePlayerOutcome host stepCount earlier outcome = .ok ()) :
    ∃ prior, w.player.byId.get? outcome.playerId = some prior ∧ prior.lifeState = .alive
      ∧ CanonicalControls (w.scheduledPlayer stepCount prior)
          (saturatingAdd w.simulationTick stepCount) outcome := by
  simp only [validatePlayerOutcome, validatePlayerState, bind_eq_ok, demand_eq_ok, rejectIf_eq_ok,
    not_or, ne_eq, not_not, decide_eq_true_eq] at h
  obtain ⟨-, -, prior, hprior, -, halive, -, -, -, -, -, -, -, -, -, -, -, -, -, -, -, -,
    hlinear, hangular, hboost, hjump, hdampeners, hexpires⟩ := h
  exact ⟨prior, hprior, halive, hlinear, hangular, hboost, hjump, hdampeners, hexpires⟩

/-- What is committed of controls that were scheduled: all of them, for as long as their lease
    lasts, and neutral controls from then on. -/
structure Settles (resultingTick : Nat) (scheduled after : PlayerControls) : Prop where
  pending : after.pendingControlFrames = scheduled.pendingControlFrames
  processed : after.lastProcessedInputSequence = scheduled.lastProcessedInputSequence
  expires : after.controlExpiresAtSimulationTick = scheduled.controlExpiresAtSimulationTick
  held : resultingTick < after.controlExpiresAtSimulationTick →
    after.controlLinearInput = scheduled.controlLinearInput
      ∧ after.controlAngularInput = scheduled.controlAngularInput
      ∧ after.boost = scheduled.boost ∧ after.dampeners = scheduled.dampeners
      ∧ after.jump = scheduled.jump
  neutral : after.controlExpiresAtSimulationTick ≤ resultingTick → after.Neutral

variable {resultingTick : Nat}

theorem settles_movedPlayer {scheduled : Player}
    (h : CanonicalControls scheduled resultingTick outcome) :
    Settles resultingTick scheduled.controls (movedPlayer scheduled player outcome).controls := by
  obtain ⟨hlinear, hangular, hboost, hjump, hdampeners, hexpires⟩ := h
  refine ⟨rfl, rfl, hexpires, fun hlease => ?_, fun hover => ?_⟩
  · have hlease : resultingTick < scheduled.controlExpiresAtSimulationTick := hexpires ▸ hlease
    rw [if_pos hlease] at hlinear hangular
    rw [decide_eq_true hlease] at hboost hjump hdampeners
    rw [Bool.and_true] at hboost hjump
    rw [Bool.not_true, Bool.or_false] at hdampeners
    exact ⟨hlinear, hangular, hboost, hdampeners, hjump⟩
  · have hlease : ¬ resultingTick < scheduled.controlExpiresAtSimulationTick := by
      rw [← hexpires]
      exact hover.not_gt
    rw [if_neg hlease] at hlinear hangular
    rw [decide_eq_false hlease] at hboost hjump hdampeners
    rw [Bool.and_false] at hboost hjump
    rw [Bool.not_false, Bool.or_true] at hdampeners
    exact ⟨hlinear, hangular, hboost, hdampeners, hjump⟩

/-- What a committed step does to a player that is alive: it takes frames from the front of its
    line, acknowledges them, and commits the controls they leave. -/
structure Steered (ticks : List Nat) (resultingTick : Nat) (player after : Player) : Prop where
  consumes : Player.Consumes ticks player after
  advances : player.lastProcessedInputSequence ≤ after.lastProcessedInputSequence
  settles : Settles resultingTick (ticks.foldl advancePlayerControl player).controls
    after.controls

theorem steered_stepped
    (stepPhase : Nat)
    (active : OrdMap ContactPairKey Unit) (h : Acknowledged w)
    (solved : Solved host w stepCount bodies players)
    (hplayer : w.player.byId.get? playerId = some player)
    (halive : player.lifeState = .alive) :
    ∃ after, (w.stepped stepCount stepPhase bodies players active).player.byId.get?
        playerId = some after
      ∧ Steered (w.substepTicks stepCount) (saturatingAdd w.simulationTick stepCount) player
          after := by
  have hmem : playerId ∈ players.map PlayerPhysicsOutcome.playerId := by
    rw [solved.roster]
    refine List.mem_map.mpr ⟨(playerId, player), List.mem_filter.mpr ⟨?_, ?_⟩, rfl⟩
    · exact OrdMap.mem_entries.mpr hplayer
    · simp [halive]
  obtain ⟨outcome, houtcome, hname⟩ := List.mem_map.mp hmem
  have hfind : ∃ found ∈ players, players.find? (fun other => decide (other.playerId = playerId))
      = some found ∧ found.playerId = playerId := by
    cases hfound : players.find? fun other => decide (other.playerId = playerId) with
    | none =>
      refine absurd (List.find?_eq_none.mp hfound outcome houtcome) ?_
      simp [hname]
    | some found =>
      exact ⟨found, List.mem_of_find?_eq_some hfound, rfl, by simpa using List.find?_some hfound⟩
  obtain ⟨found, hfoundMem, hfound, hfoundName⟩ := hfind
  obtain ⟨before, after, rfl⟩ := List.append_of_mem hfoundMem
  have hcheck := (checkEach_eq_ok_iff_split.mp solved.moved) before found after rfl
  obtain ⟨prior, hprior, -, hcanonical⟩ := canonicalControls_of_validate hcheck
  rw [hfoundName, hplayer] at hprior
  obtain rfl := Option.some.inj hprior
  refine ⟨movedPlayer (w.scheduledPlayer stepCount player) player found, ?_, ?_⟩
  · simp only [stepped, OrdMap.get?_foldl_modify_of_nodup solved.players_nodup, hplayer,
      Option.map_some, hfound]
  · have hconsumes : Player.Consumes (w.substepTicks stepCount) player
        (movedPlayer (w.scheduledPlayer stepCount player) player found) :=
      consumes_movedPlayer halive
    have hsettles : Settles (saturatingAdd w.simulationTick stepCount)
        (w.scheduledPlayer stepCount player).controls
        (movedPlayer (w.scheduledPlayer stepCount player) player found).controls :=
      settles_movedPlayer hcanonical
    rw [scheduledPlayer_eq halive] at hconsumes hsettles ⊢
    exact ⟨hconsumes, ((h playerId player hplayer).2.consumed hconsumes rfl).2, hsettles⟩

/-! ## Other events -/

theorem Work.acknowledged {machineId : String} {outcome} (h : Acknowledged w)
    (work : Work host w machineId outcome w') : Acknowledged w' := by
  cases work with
  | idle => exact h
  | advanced => exact h.of_eq rfl
  | @completed job owner _ _ _ _ _ _ _ howner =>
    have hpaid : Acknowledged ({ w with ledger := w.ledger.completed job }.withPlayer
        job.ownerPlayerId (owner.creditCompletion job)) :=
      Acknowledged.rewritten (h.of_eq rfl) howner Player.sameLine_creditCompletion
    exact hpaid.of_eq rfl
  | @completedAndDelivered job owner _ _ _ _ _ _ _ _ howner =>
    have hpaid : Acknowledged ({ w with ledger := w.ledger.completed job }.withPlayer
        job.ownerPlayerId (owner.creditCompletion job)) :=
      Acknowledged.rewritten (h.of_eq rfl) howner Player.sameLine_creditCompletion
    rw [popProductionQueueHead_eq]
    exact hpaid.of_eq rfl
  | outputDelivered =>
    rw [popProductionQueueHead_eq]
    exact h.of_eq rfl

theorem Works.acknowledged {machines outcomes} (h : Acknowledged w)
    (works : Works host w machines outcomes w') : Acknowledged w' := by
  induction works with
  | done => exact h
  | step work works ih => exact ih (work.acknowledged h)

theorem player_wrecked (host : Host) (w : WorldState) (gridId : String) (grid : Grid)
    (blockId : String) (block : Block) (eventSequence : Nat) :
    (w.wrecked host gridId grid blockId block eventSequence).player.byId = w.player.byId := by
  rw [wrecked_eq]
  unfold dropCargo
  cases block.inventoryId <;> rfl

variable (h : Acknowledged w)

include h

variable {eventSequence : Nat}

theorem Damaged.acknowledged {gridId blockId : String} {damage : Nat}
    (damaged : Damaged host w gridId blockId damage eventSequence w') :
    Acknowledged w' := by
  cases damaged with
  | hurt => exact h.of_eq rfl
  | destroyed => exact h.of_eq (player_wrecked host w gridId _ blockId _ eventSequence)
  | @destroyedMachine grid block =>
    have hwrecked : Acknowledged (w.wrecked host gridId grid blockId block eventSequence) :=
      h.of_eq (player_wrecked host w gridId grid blockId block eventSequence)
    exact hwrecked.of_eq rfl

theorem Collapse.acknowledged {inventory dropped drop}
    (collapse : Collapse w player inventory eventSequence dropped drop w') :
    Acknowledged w' ∧ w'.player = w.player := by
  cases collapse <;> exact ⟨h.of_eq rfl, rfl⟩

theorem Effect.acknowledged (effect : Effect host w event w')
    (hother : ∀ epoch sequence linear angular boost dampeners jump expires, event.payload
      ≠ .playerControlSet epoch sequence linear angular boost dampeners jump expires) :
    Acknowledged w' := by
  cases effect with
  | playerControlSet hpayload => exact absurd hpayload (hother _ _ _ _ _ _ _ _)
  | suitModeChanged hpayload hby hactor => exact h.rewritten hactor ⟨rfl, rfl, rfl, rfl⟩
  | suitOxygenChanged hpayload hplayer => exact h.rewritten hplayer ⟨rfl, rfl, rfl, rfl⟩
  | @playerIncapacitated deathId cause _ _ _ _ _ collapsed player inventory hpayload hplayer
      hinventory hdomain hcollapse =>
    obtain ⟨hcollapsed, hsame⟩ := hcollapse.acknowledged h
    have hcleared : Acknowledged
        (collapsed.withPlayer player.playerId (w.incapacitated host player deathId cause)) :=
      hcollapsed.cleared player (hsame ▸ hplayer) rfl rfl (h _ _ hplayer).2.acknowledged
    exact hcleared.of_eq rfl
  | @playerRespawned _ address position oxygen helmet jetpack boots actorId actor hpayload
      hby hactor =>
    have hcleared : Acknowledged (w.withPlayer actorId
        (w.respawned host actor address position oxygen helmet jetpack boots)) :=
      h.cleared actor hactor rfl rfl le_rfl
    exact hcleared.of_eq rfl
  | productionQuantumCommitted hpayload hexpected happlied =>
    obtain ⟨machines, -, -, works⟩ := works_of_quantum (hpayload ▸ hexpected) happlied
    exact (works.acknowledged h).of_eq rfl
  | @blockBuilt gridId block =>
    refine h.of_eq ?_
    unfold withCargoInventory
    cases block.inventoryId <;> rfl
  | blockDamaged hpayload hby hdamage happlied =>
    exact (damaged_of_applyDamage happlied).acknowledged h
  | physicsStepCommitted hpayload happlied =>
    obtain ⟨-, active, rfl⟩ := applyPhysicsStep_eq_ok happlied
    exact acknowledged_stepped h
  | playerTransferPrepared hpayload hstaged =>
    obtain ⟨-, -, ⟨rfl, -⟩ | ⟨-, -, -, -, rfl⟩⟩ := stagePreparedEvaLock_eq_ok hstaged <;>
      exact h.of_eq rfl
  | playerTransferQuarantined hpayload hstaged =>
    obtain ⟨-, -, ⟨rfl, -⟩ | ⟨-, -, rfl⟩⟩ := stageEvaPlayerQuarantine_eq_ok hstaged <;>
      exact h.of_eq rfl
  | playerTransferAborted hpayload hstaged =>
    obtain ⟨-, -, ⟨-, -, rfl⟩ | ⟨-, -, rfl⟩ | ⟨-, -, -, rfl⟩⟩ :=
      stageAbortedEvaUnlock_eq_ok hstaged <;> exact h.of_eq rfl
  | @playerTransferExported package transfer applied hpayload hstaged =>
    obtain ⟨-, -, ⟨rfl, -⟩ | ⟨-, -, -, -, -, rfl⟩⟩ := stageCommittedEvaExport_eq_ok hstaged
    · exact h.of_eq rfl
    · intro playerId player hget
      simp only [withoutSubject, withWitness, OrdMap.get?_erase] at hget
      split_ifs at hget
      exact h playerId player hget
  | @playerTransferImported package receipt transfer applied hpayload hstaged =>
    obtain ⟨hok, -, ⟨rfl, -⟩ | ⟨-, -, -, -, -, rfl⟩⟩ := stageCommittedEvaImport_eq_ok hstaged
    · exact h.of_eq rfl
    · -- What arrives is the rebased player, whose frames stayed behind.
      obtain ⟨hname, hpending, hprocessed⟩ := hok.arrives
      have hline : InLine package.aggregateId package.destinationPlayer :=
        ⟨hname, Player.sequenced_of_nil hpending hprocessed.le⟩
      have harrived : Acknowledged (w.withPlayer package.aggregateId package.destinationPlayer) :=
        h.withPlayer hline
      exact harrived.of_eq rfl
  | _ => exact h.of_eq rfl

theorem acknowledged_of_applyPayload
    (happlied : w.applyPayload host event = .ok w') : Acknowledged w' := by
  by_cases hcontrol : ∃ epoch sequence linear angular boost dampeners jump expires,
      event.payload = .playerControlSet epoch sequence linear angular boost dampeners jump expires
  · obtain ⟨epoch, sequence, linear, angular, boost, dampeners, jump, expires, hpayload⟩ := hcontrol
    simp only [applyPayload, hpayload, applyPlayerControlSet, bind_eq_ok, eventActor_eq_ok,
      actor_eq_ok, rejectIf_eq_ok, pure_eq_ok, not_or, not_le, ge_iff_le] at happlied
    obtain ⟨actorId, -, actor, hactor, ⟨⟩, -, ⟨⟩, -, ⟨⟩, ⟨-, hnext, -⟩, ⟨⟩, hroom, rfl⟩ :=
      happlied
    obtain ⟨hname, hsequenced⟩ := h actorId actor hactor
    have hframe := hsequenced.queued
      ⟨sequence, linear, angular, boost, dampeners, jump, expires⟩ hnext hroom
    exact h.withPlayer ⟨hname, hframe⟩
  · refine (effect_of_applyPayload happlied).acknowledged h ?_
    intro epoch sequence linear angular boost dampeners jump expires hpayload
    exact hcontrol ⟨_, _, _, _, _, _, _, _, hpayload⟩

theorem Paid.acknowledged (paid : Paid w event w') : Acknowledged w' := by
  cases paid with
  | nothing => exact h
  | actor hby hplayer => exact h.rewritten hplayer ⟨rfl, rfl, rfl, rfl⟩

theorem acknowledged_of_applyEvent
    (happlied : w.applyEvent host event = .ok w') : Acknowledged w' := by
  simp only [applyEvent, commitEvent, bind_eq_ok, mapError_eq_ok, pure_eq_ok] at happlied
  obtain ⟨⟨⟩, -, payload, -, ⟨⟩, -, next, ⟨applied, hpayload, paid, hpaid, credited, hcredited,
    hrecorded⟩, ⟨⟩, -, rfl⟩ := happlied
  have hpaid' := (payExperience_eq_ok hpaid).recordCareer hcredited
  have hsealed : Acknowledged (credited.sealEvent { event with payload }) :=
    (hpaid'.acknowledged (acknowledged_of_applyPayload h hpayload)).of_eq rfl
  rw [recordOperation_frame hrecorded]
  exact hsealed.of_eq rfl

omit h

theorem Steered.paid {ticks : List Nat}
    (h : Steered ticks resultingTick player after) (experience : Nat) (career : CareerSnapshot) :
    Steered ticks resultingTick player { after with experience, career } :=
  ⟨⟨h.consumes.inOrder, h.consumes.byLease, h.consumes.acknowledges, h.consumes.drains⟩, h.advances,
    ⟨h.settles.pending, h.settles.processed, h.settles.expires, h.settles.held, h.settles.neutral⟩⟩

theorem steered_of_applyEvent {fixedStepHz stepCount remaining bodies players contacts active}
    (h : Acknowledged w) (happlied : w.applyEvent host event = .ok w')
    (hpayload : event.payload
      = .physicsStepCommitted fixedStepHz stepCount remaining bodies players contacts active)
    (hplayer : w.player.byId.get? playerId = some player)
    (halive : player.lifeState = .alive) :
    w'.simulationTick = saturatingAdd w.simulationTick stepCount
      ∧ ∃ after, w'.player.byId.get? playerId = some after
        ∧ Steered (w.substepTicks stepCount) w'.simulationTick player after := by
  cases accepted_of_applyEvent happlied with
  | @intro payload applied credited hydrated admitted effect paid recorded weighed =>
    -- The payload that was applied is the same step with its poses taken again.
    have hstep : ∃ bodies players contacts, payload
        = .physicsStepCommitted fixedStepHz stepCount remaining bodies players contacts active := by
      have hreposed := reposed_of_hydrated hydrated
      rw [hpayload] at hreposed
      cases hreposed with
      | same | physicsStepCommitted => exact ⟨_, _, _, rfl⟩
    obtain ⟨bodies', players', contacts', rfl⟩ := hstep
    cases effect with
    | physicsStepCommitted hsame hphysics =>
      cases hsame
      obtain ⟨solved, reached, rfl⟩ := applyPhysicsStep_eq_ok hphysics
      obtain ⟨after, hafter, hsteered⟩ :=
        steered_stepped remaining reached h solved hplayer halive
      rw [recordOperation_frame recorded]
      cases paid with
      | nothing => exact ⟨rfl, after, hafter, hsteered⟩
      | @actor actorId paidPlayer experience career hby hpaid =>
        refine ⟨rfl, ?_⟩
        by_cases hactor : playerId = actorId
        · subst hactor
          obtain rfl := Option.mem_unique hafter hpaid
          exact ⟨_, OrdMap.get?_insert_self, hsteered.paid experience career⟩
        · exact ⟨after, (OrdMap.get?_insert_ne hactor).trans hafter, hsteered⟩
    | _ => contradiction

end WorldState
end Verse
