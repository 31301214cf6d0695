import Mathlib.Logic.Function.Iterate
import Verse.Engine.Acknowledged

/-!
# One second of oxygen

What life support does to a player in one second depends on the oxygen it has left, on its
helmet and on whether there is air where it is. `Air.breathed` is that second; a suit that has
run out stays empty, and its player is incapacitated. Every other event of a cell that runs by
itself, and every second of another player, leaves both the oxygen and the helmet alone.
-/

namespace Verse

open Lib

/-- What a player has around it. -/
structure Air where
  (helmetClosed breathable : Bool)
deriving DecidableEq

namespace Air

variable {air : Air} {oxygenMilli n : Nat}

def perSecond (air : Air) : Int :=
  if !air.helmetClosed && air.breathable then Content.openBreathableDelta
  else if !air.helmetClosed then Content.openVacuumDelta
  else if air.breathable then Content.sealedBreathableDelta
  else Content.sealedVacuumDelta

/-- The oxygen of a suit a second later. -/
def second (air : Air) (oxygenMilli : Nat) : Nat :=
  (max 0 (min (oxygenMilli + air.perSecond) Content.suitOxygenCapacityMilli)).toNat

/-- The same, where an empty suit is past help. -/
def breathed (air : Air) (oxygenMilli : Nat) : Nat :=
  if oxygenMilli = 0 then 0 else air.second oxygenMilli

@[simp] theorem breathed_zero : air.breathed 0 = 0 := rfl

theorem breathed_of_pos (h : 0 < oxygenMilli) : air.breathed oxygenMilli = air.second oxygenMilli :=
  if_neg h.ne'

theorem iterate_breathed_zero : air.breathed^[n] 0 = 0 :=
  Function.iterate_fixed breathed_zero n

end Air

/-- Another record of the same player with the same suit in the same state. -/
structure Player.SameSuit (player after : Player) : Prop where
  lifeState : after.lifeState = player.lifeState
  oxygen : after.suitOxygenMilli = player.suitOxygenMilli
  helmet : after.helmetClosed = player.helmetClosed

theorem Player.SameSuit.trans {first middle last : Player} (h₁ : first.SameSuit middle)
    (h₂ : middle.SameSuit last) : first.SameSuit last :=
  ⟨h₂.1.trans h₁.1, h₂.2.trans h₁.2, h₂.3.trans h₁.3⟩

theorem Player.sameSuit_creditCompletion {owner : Player} {job} :
    owner.SameSuit (owner.creditCompletion job) := by
  unfold Player.creditCompletion
  split <;> exact ⟨rfl, rfl, rfl⟩

/-- Whether there is air at a position is decided by what the cell is and where it is. -/
def Host.AirByPlace (host : Host) : Prop :=
  ∀ (w w' : WorldState) (position : Vec3), w'.identity = w.identity →
    host.breathable w' position = host.breathable w position

namespace WorldState

variable {host : Host} {w w' : WorldState} {event : CanonicalEvent} {playerId : String}
  {air : Air} {oxygenMilli : Nat}

def airOf (host : Host) (w : WorldState) (player : Player) : Air :=
  ⟨player.helmetClosed, host.breathable w.unfenced player.position⟩

/-- A player lives on so much oxygen in such air, or is gone and its suit is empty. -/
inductive Breathes (host : Host) (w : WorldState) (playerId : String) (air : Air) : Nat → Prop
  | alive {player : Player} (hplayer : w.player.byId.get? playerId = some player)
      (halive : player.lifeState = .alive) (hoxygen : 0 < player.suitOxygenMilli)
      (hair : w.airOf host player = air) : Breathes host w playerId air player.suitOxygenMilli
  | gone {player : Player} (hplayer : w.player.byId.get? playerId = some player)
      (hgone : player.lifeState ≠ .alive) : Breathes host w playerId air 0

theorem Breathes.alive_iff {player : Player} (h : Breathes host w playerId air oxygenMilli)
    (hplayer : w.player.byId.get? playerId = some player) :
    player.lifeState = .alive ↔ 0 < oxygenMilli := by
  cases h with
  | alive hplayer' halive hoxygen =>
    obtain rfl := Option.mem_unique hplayer hplayer'
    exact iff_of_true halive hoxygen
  | gone hplayer' hgone =>
    obtain rfl := Option.mem_unique hplayer hplayer'
    exact iff_of_false hgone (lt_irrefl 0)

/-! ## A second is charged -/

theorem nextSuitOxygen_eq_ok {next : Nat} :
    w.nextSuitOxygen host playerId = .ok next ↔
      ∃ player, w.player.byId.get? playerId = some player ∧ player.lifeState = .alive
        ∧ 0 < player.suitOxygenMilli
        ∧ next = (w.airOf host player).second player.suitOxygenMilli := by
  simp only [nextSuitOxygen, lifecyclePlayer, bind_eq_ok, demand_eq_ok, rejectIf_eq_ok, pure_eq_ok,
    not_or, ne_eq, not_not, Nat.pos_iff_ne_zero]
  constructor
  · rintro ⟨player, hplayer, ⟨⟩, ⟨halive, hoxygen⟩, rfl⟩
    exact ⟨player, hplayer, halive, hoxygen, rfl⟩
  · rintro ⟨player, hplayer, halive, hoxygen, rfl⟩
    exact ⟨player, hplayer, ⟨⟩, ⟨halive, hoxygen⟩, rfl⟩

/-- What life support has to say about a player's next second. -/
inductive SecondOf (w : WorldState) (playerId : String) (player : Player) (next : Nat) :
    Option EventPayload → Prop
  | same (hnext : next = player.suitOxygenMilli) : SecondOf w playerId player next none
  | changed (hnext : next ≠ 0) : SecondOf w playerId player next
      (some (.suitOxygenChanged playerId player.suitOxygenMilli next))
  | incapacitated {deathId cause address position oxygen dropped drop} (hnext : next = 0) :
      SecondOf w playerId player next
        (some (.playerIncapacitated player.playerId deathId cause address position oxygen dropped drop))

theorem secondOf_of_lifeSupportPayload {payload}
    (h : w.lifeSupportPayload host playerId = .ok payload) :
    ∃ player, w.player.byId.get? playerId = some player ∧ player.lifeState = .alive
      ∧ 0 < player.suitOxygenMilli
      ∧ SecondOf w playerId player ((w.airOf host player).second player.suitOxygenMilli) payload := by
  simp only [lifeSupportPayload, lifecyclePlayer, bind_eq_ok, demand_eq_ok] at h
  obtain ⟨found, hfound, next, hnext, h⟩ := h
  obtain ⟨player, hplayer, halive, hoxygen, rfl⟩ := nextSuitOxygen_eq_ok.mp hnext
  obtain rfl := Option.mem_unique hplayer hfound
  refine ⟨player, hplayer, halive, hoxygen, ?_⟩
  split_ifs at h with hsame hempty
  · rw [pure_eq_ok] at h
    subst h
    exact .same hsame
  · simp only [bind_eq_ok, pure_eq_ok] at h
    obtain ⟨incapacitation, hincapacitation, rfl⟩ := h
    obtain ⟨found, _, _, _, _, hfound, -, -, -, -, rfl⟩ :=
      oxygenIncapacitationPayload_eq_ok hincapacitation
    obtain rfl := Option.mem_unique hplayer hfound
    exact .incapacitated hempty
  · rw [pure_eq_ok] at h
    subst h
    exact .changed hempty

/-- A system event pays nobody: after it the players are those its payload leaves. -/
theorem players_of_system (hsystem : event.actorPlayerId = none)
    (h : w.applyEvent host event = .ok w') :
    ∃ payload applied, Reposed event.payload payload
      ∧ w.applyPayload host { event with payload } = .ok applied
      ∧ w'.player.byId = applied.player.byId := by
  simp only [applyEvent, commitEvent, bind_eq_ok, mapError_eq_ok, pure_eq_ok] at h
  obtain ⟨⟨⟩, -, payload, hydrated, ⟨⟩, -, next, ⟨applied, happlied, paid, hpaid, credited,
    hcredited, hrecorded⟩, ⟨⟩, -, rfl⟩ := h
  refine ⟨payload, applied, reposed_of_hydrated hydrated, happlied, ?_⟩
  rw [recordOperation_frame hrecorded]
  cases (payExperience_eq_ok hpaid).recordCareer hcredited with
  | nothing => rfl
  | actor hby => exact absurd (hsystem.symm.trans hby) (by simp)

theorem players_of_applyPlayerIncapacitated {player : Player} {deathId : String} {cause address}
    {position : Vec3} {previousOxygenMilli : Nat} {dropped drop}
    (hplayer : w.player.byId.get? player.playerId = some player)
    (h : w.applyPlayerIncapacitated host (.playerIncapacitated player.playerId deathId cause address
      position previousOxygenMilli dropped drop) player.playerId = .ok w') :
    ∃ after, after.lifeState ≠ .alive
      ∧ w'.player.byId = w.player.byId.insert player.playerId after := by
  simp only [applyPlayerIncapacitated, bind_eq_ok, rejectIf_eq_ok, ne_eq, not_not] at h
  obtain ⟨expected, -, ⟨⟩, rfl, h⟩ := h
  simp only [bind_eq_ok, actor_eq_ok, pure_eq_ok] at h
  obtain ⟨found, hfound, _, -, rfl⟩ := h
  obtain rfl := Option.mem_unique hplayer hfound
  refine ⟨w.incapacitated host player deathId cause, PlayerLifeState.noConfusion, ?_⟩
  cases dropped <;> cases drop <;> rfl

/-- The record a charged second leaves of its player. -/
inductive Charged (host : Host) (w : WorldState) (player : Player) : Player → Prop
  | lives (hnext : (w.airOf host player).second player.suitOxygenMilli ≠ 0) :
      Charged host w player { player with
        suitOxygenMilli := (w.airOf host player).second player.suitOxygenMilli }
  | falls {after : Player} (hnext : (w.airOf host player).second player.suitOxygenMilli = 0)
      (hgone : after.lifeState ≠ .alive) : Charged host w player after

theorem charged_of_applyEvent (hw : Acknowledged w)
    (hpayload : w.lifeSupportPayload host playerId = .ok (some event.payload))
    (hsystem : event.actorPlayerId = none) (h : w.applyEvent host event = .ok w') :
    ∃ player after, w.player.byId.get? playerId = some player ∧ player.lifeState = .alive
      ∧ 0 < player.suitOxygenMilli ∧ Charged host w player after
      ∧ w'.player.byId = w.player.byId.insert playerId after := by
  obtain ⟨player, hplayer, halive, hoxygen, hsecond⟩ := secondOf_of_lifeSupportPayload hpayload
  obtain ⟨payload, applied, reposed, happlied, hplayers⟩ := players_of_system hsystem h
  obtain ⟨hname, -⟩ := hw playerId player hplayer
  generalize hevent : event.payload = charge at hsecond reposed
  cases hsecond with
  | changed hnext =>
    cases reposed
    simp only [applyPayload, applySuitOxygenChanged, bind_eq_ok, rejectIf_eq_ok, actor_eq_ok,
      pure_eq_ok] at happlied
    obtain ⟨-, -, ⟨⟩, -, found, hfound, rfl⟩ := happlied
    obtain rfl := Option.mem_unique hplayer hfound
    exact ⟨player, _, hplayer, halive, hoxygen, .lives hnext, hplayers⟩
  | incapacitated hnext =>
    have hplayer' : w.player.byId.get? player.playerId = some player := hname ▸ hplayer
    obtain ⟨position, drop, rfl⟩ : ∃ position drop, payload = .playerIncapacitated player.playerId
        _ _ _ position _ _ drop := by
      cases reposed <;> exact ⟨_, _, rfl⟩
    obtain ⟨after, hgone, hafter⟩ :=
      players_of_applyPlayerIncapacitated hplayer' (by simpa only [applyPayload] using happlied)
    exact ⟨player, after, hplayer, halive, hoxygen, .falls hnext hgone,
      hname ▸ hplayers.trans hafter⟩

theorem airOf_eq (hplace : host.AirByPlace) (hidentity : w'.identity = w.identity) (player : Player)
    (oxygenMilli : Nat) :
    w'.airOf host { player with suitOxygenMilli := oxygenMilli } = w.airOf host player :=
  congrArg (Air.mk player.helmetClosed) (hplace w.unfenced w'.unfenced player.position hidentity)

namespace Breathes

theorem of_get?_eq (hplace : host.AirByPlace) (hidentity : w'.identity = w.identity)
    (h : Breathes host w playerId air oxygenMilli)
    (hget : w'.player.byId.get? playerId = w.player.byId.get? playerId) :
    Breathes host w' playerId air oxygenMilli := by
  cases h with
  | @alive player hplayer halive hoxygen hair =>
    exact .alive (hget.trans hplayer) halive hoxygen
      ((airOf_eq hplace hidentity player player.suitOxygenMilli).trans hair)
  | gone hplayer hgone => exact .gone (hget.trans hplayer) hgone

theorem breathed_eq (h : Breathes host w playerId air oxygenMilli)
    (hpayload : w.lifeSupportPayload host playerId = .ok none) :
    air.breathed oxygenMilli = oxygenMilli := by
  cases h with
  | alive hplayer halive hoxygen hair =>
    obtain ⟨player, hplayer', -, -, hsecond⟩ := secondOf_of_lifeSupportPayload hpayload
    obtain rfl := Option.mem_unique hplayer hplayer'
    cases hsecond with
    | same hnext => rw [Air.breathed_of_pos hoxygen, ← hair, hnext]
  | gone => rfl

theorem charged (hw : Acknowledged w) (hplace : host.AirByPlace)
    (h : Breathes host w playerId air oxygenMilli)
    (hpayload : w.lifeSupportPayload host playerId = .ok (some event.payload))
    (hsystem : event.actorPlayerId = none) (happlied : w.applyEvent host event = .ok w') :
    Breathes host w' playerId air (air.breathed oxygenMilli) := by
  have hidentity := (accepted_of_applyEvent happlied).identity
  obtain ⟨player, after, hplayer, halive, -, hcharged, hplayers⟩ :=
    charged_of_applyEvent hw hpayload hsystem happlied
  have hafter : w'.player.byId.get? playerId = some after := by
    rw [hplayers, OrdMap.get?_insert_self]
  cases h with
  | alive hplayer' _ hoxygen hair =>
    obtain rfl := Option.mem_unique hplayer hplayer'
    rw [Air.breathed_of_pos hoxygen, ← hair]
    cases hcharged with
    | lives hnext =>
      exact .alive hafter halive (Nat.pos_of_ne_zero hnext) (airOf_eq hplace hidentity player _)
    | falls hnext hgone =>
      rw [hnext]
      exact .gone hafter hgone
  | gone hplayer' hgone =>
    obtain rfl := Option.mem_unique hplayer hplayer'
    exact absurd halive hgone

theorem beside (hw : Acknowledged w) (hplace : host.AirByPlace) {other : String}
    (hother : playerId ≠ other) (h : Breathes host w playerId air oxygenMilli)
    (hpayload : w.lifeSupportPayload host other = .ok (some event.payload))
    (hsystem : event.actorPlayerId = none) (happlied : w.applyEvent host event = .ok w') :
    Breathes host w' playerId air oxygenMilli := by
  obtain ⟨player, after, -, -, -, -, hplayers⟩ := charged_of_applyEvent hw hpayload hsystem happlied
  refine h.of_get?_eq hplace (accepted_of_applyEvent happlied).identity ?_
  rw [hplayers, OrdMap.get?_insert_ne hother]

end Breathes

/-! ## Physics and production -/

/-- Every player is still there, in the same suit. -/
def SuitsKept (w w' : WorldState) : Prop :=
  ∀ playerId player, w.player.byId.get? playerId = some player →
    ∃ after, w'.player.byId.get? playerId = some after ∧ player.SameSuit after

theorem SuitsKept.of_eq (h : w'.player.byId = w.player.byId) : SuitsKept w w' :=
  fun _ player hplayer => ⟨player, h ▸ hplayer, rfl, rfl, rfl⟩

theorem SuitsKept.trans {w''} (h₁ : SuitsKept w w') (h₂ : SuitsKept w' w'') :
    SuitsKept w w'' := by
  intro playerId player hplayer
  obtain ⟨middle, hmiddle, hfirst⟩ := h₁ playerId player hplayer
  obtain ⟨after, hafter, hsecond⟩ := h₂ playerId middle hmiddle
  exact ⟨after, hafter, hfirst.trans hsecond⟩

theorem suitsKept_withPlayer {player after : Player}
    (hplayer : w.player.byId.get? playerId = some player) (hsuit : player.SameSuit after) :
    SuitsKept w (w.withPlayer playerId after) := by
  intro other found hfound
  simp only [withPlayer, OrdMap.get?_insert]
  split_ifs with hother
  · subst hother
    obtain rfl := Option.mem_unique hplayer hfound
    exact ⟨after, rfl, hsuit⟩
  · exact ⟨found, hfound, rfl, rfl, rfl⟩

theorem Breathes.kept (h : Breathes host w playerId air oxygenMilli) (hsuits : SuitsKept w w') :
    ∃ air', Breathes host w' playerId air' oxygenMilli := by
  cases h with
  | @alive player hplayer halive hoxygen =>
    obtain ⟨after, hafter, hlife, hsame, -⟩ := hsuits playerId player hplayer
    have hbreathes : Breathes host w' playerId (w'.airOf host after) after.suitOxygenMilli :=
      .alive hafter (hlife.trans halive) (hsame ▸ hoxygen) rfl
    exact ⟨_, hsame ▸ hbreathes⟩
  | @gone player hplayer hgone =>
    obtain ⟨after, hafter, hlife, -, -⟩ := hsuits playerId player hplayer
    exact ⟨air, .gone hafter (hlife ▸ hgone)⟩

theorem suitsKept_stepped {stepCount stepPhase : Nat} {bodies players active} :
    SuitsKept w (w.stepped stepCount stepPhase bodies players active) := by
  intro playerId player hplayer
  simp only [stepped, OrdMap.get?_foldl_modify, hplayer, Option.map_some, Option.some.injEq,
    exists_eq_left']
  clear hplayer
  -- By induction on the outcomes for this player: each moves it and leaves its suit alone.
  induction players.filter fun outcome => decide (outcome.playerId = playerId)
    generalizing player with
  | nil => exact ⟨rfl, rfl, rfl⟩
  | cons outcome outcomes ih =>
    have hmoved : player.SameSuit
        (movedPlayer (w.scheduledPlayer stepCount player) player outcome) := ⟨rfl, rfl, rfl⟩
    exact hmoved.trans (ih _)

theorem Work.suitsKept {machineId : String} {outcome} (work : Work host w machineId outcome w') :
    SuitsKept w w' := by
  cases work with
  | idle | advanced => exact .of_eq rfl
  | @completed job owner _ _ _ _ _ _ _ howner =>
    have hpaid : SuitsKept w ({ w with ledger := w.ledger.completed job }.withPlayer
        job.ownerPlayerId (owner.creditCompletion job)) :=
      (SuitsKept.of_eq rfl).trans (suitsKept_withPlayer howner Player.sameSuit_creditCompletion)
    exact hpaid.trans (.of_eq rfl)
  | @completedAndDelivered job owner _ _ _ _ _ _ _ _ howner =>
    have hpaid : SuitsKept w ({ w with ledger := w.ledger.completed job }.withPlayer
        job.ownerPlayerId (owner.creditCompletion job)) :=
      (SuitsKept.of_eq rfl).trans (suitsKept_withPlayer howner Player.sameSuit_creditCompletion)
    rw [popProductionQueueHead_eq]
    exact hpaid.trans (.of_eq rfl)
  | outputDelivered =>
    rw [popProductionQueueHead_eq]
    exact .of_eq rfl

theorem Works.suitsKept {machines outcomes} (works : Works host w machines outcomes w') :
    SuitsKept w w' := by
  induction works with
  | done => exact .of_eq rfl
  | step work works ih => exact work.suitsKept.trans ih

/-- The events a cell commits by itself beside life support. -/
def Mechanical : EventPayload → Prop
  | .physicsStepCommitted .. | .productionQuantumCommitted .. => True
  | _ => False

theorem suitsKept_of_applyEvent (hmechanical : Mechanical event.payload)
    (hsystem : event.actorPlayerId = none) (h : w.applyEvent host event = .ok w') :
    SuitsKept w w' := by
  obtain ⟨payload, applied, reposed, happlied, hplayers⟩ := players_of_system hsystem h
  refine SuitsKept.trans ?_ (.of_eq hplayers)
  generalize event.payload = asked at hmechanical reposed
  cases reposed with
  | physicsStepCommitted =>
    obtain ⟨-, active, rfl⟩ := applyPhysicsStep_eq_ok happlied
    exact suitsKept_stepped
  | same =>
    cases payload with
    | physicsStepCommitted =>
      obtain ⟨-, active, rfl⟩ := applyPhysicsStep_eq_ok happlied
      exact suitsKept_stepped
    | productionQuantumCommitted =>
      simp only [applyPayload, applyProductionQuantum, bind_eq_ok, rejectIf_eq_ok, ne_eq, not_not,
        pure_eq_ok] at happlied
      obtain ⟨-, -, expected, hexpected, -, rfl, applied, houtcomes, rfl⟩ := happlied
      obtain ⟨machines, -, -, works⟩ := works_of_quantum hexpected houtcomes
      exact works.suitsKept.trans (.of_eq rfl)
    | _ => exact hmechanical.elim
  | _ => exact hmechanical.elim

end WorldState
end Verse
