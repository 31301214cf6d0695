import Verse.Engine.Dangling
import Verse.Engine.Locked

/-!
# Who a physics step is about

A step simulates the players that are alive and that no transfer holds. Its event lists one
outcome for each of them, and the world it is applied to compares the list with its own roster
three times: how many there are, that each is one of them, and that they stand in the order of
the roster. The first two comparisons leave the held players out. The third does not.
-/

namespace Verse

open Lib

namespace WorldState

variable {host : Host} {w w' : WorldState} {players : List PlayerPhysicsOutcome}

/-- The players a step simulates. -/
def simulatedPlayers (w : WorldState) : List String :=
  (w.player.byId.entries.filter fun entry =>
    !w.playerTransferLocks.contains entry.1 && entry.2.lifeState == .alive).map Prod.fst

/-- What a step asks of its outcomes as a list of players. -/
structure RosterChecks (w : WorldState) (players : List PlayerPhysicsOutcome) : Prop where
  presence : players.length = (w.player.byId.entries.filter fun entry =>
    !w.playerTransferLocks.contains entry.1 && entry.2.lifeState == .alive).length
  once : (players.map PlayerPhysicsOutcome.playerId).Nodup
  known : ∀ outcome ∈ players, ∃ prior, w.player.byId.get? outcome.playerId = some prior
    ∧ prior.lifeState = .alive
  scheduled : ∀ outcome ∈ players, w.playerTransferLocks.contains outcome.playerId = false
  order : players.map PlayerPhysicsOutcome.playerId = (w.player.byId.entries.filter fun entry =>
    entry.2.lifeState == .alive).map Prod.fst

/-- No transfer holds a player that is alive. -/
def NoneHeld (w : WorldState) : Prop :=
  ∀ playerId lock player, w.playerTransferLocks.get? playerId = some lock →
    w.player.byId.get? playerId = some player → player.lifeState ≠ .alive

/-! ## The rest of what a step asks -/

/-- Everything a step asks but for its roster. -/
structure StepChecks (host : Host) (w : WorldState)
    (fixedStepHz stepCount remainingStepPhase : Nat) (bodies : List PhysicsBodyOutcome)
    (players : List PlayerPhysicsOutcome) (contacts : List PhysicsContactOutcome)
    (activeAfter : List ContactPairKey) (active : OrdMap ContactPairKey Unit) : Prop where
  timing : ¬ (fixedStepHz ≠ Content.fixedStepHz ∨ stepCount = 0 ∨ stepCount > 15
    ∨ remainingStepPhase ≥ 1000000000)
  grids : bodies.length = w.grids.size
  outcomes : ∀ outcome ∈ players, ∀ prior, w.player.byId.get? outcome.playerId = some prior →
    w.validatePlayerState host stepCount prior outcome = .ok ()
  solved : checkEach (w.validateBodyOutcome host stepCount) [] bodies = .ok ()
  bodiesOrder : strictlyIncreasing (bodies.map PhysicsBodyOutcome.gridId) = true
  touching : checkAll (w.validateContact host stepCount bodies players) contacts = .ok ()
  contactsOrder : strictlyIncreasing (contacts.map contactOrder) = true
  felt : w.activeContactsAfter stepCount contacts = .ok active
  remembered : activeAfter = active.keys
  surface : ∀ outcome ∈ players, outcome.surfaceContact =
    (active.keys.any (contactKeyInvolvesPlayerId · outcome.playerId)
      || outcome.locomotion.support.isSome)

theorem validatePlayerOutcome_eq_ok {stepCount : Nat} {earlier outcome} :
    w.validatePlayerOutcome host stepCount earlier outcome = .ok () ↔
      (∃ prior, w.player.byId.get? outcome.playerId = some prior ∧ prior.lifeState = .alive
        ∧ w.playerTransferLocks.contains outcome.playerId = false
        ∧ w.validatePlayerState host stepCount prior outcome = .ok ())
      ∧ ∀ other ∈ earlier, other.playerId ≠ outcome.playerId := by
  simp only [validatePlayerOutcome, bind_eq_ok, rejectIf_eq_ok, demand_eq_ok, not_exists, not_and,
    not_not, Bool.not_eq_true, exists_const]
  constructor
  · intro h
    obtain ⟨honce, prior, hprior, halive, hheld, hstate⟩ := h
    exact ⟨⟨prior, hprior, halive, hheld, hstate⟩, honce⟩
  · intro h
    obtain ⟨⟨prior, hprior, halive, hheld, hstate⟩, honce⟩ := h
    exact ⟨honce, prior, hprior, halive, hheld, hstate⟩

theorem validatePlayerOutcomes_eq_ok {stepCount : Nat} :
    checkEach (w.validatePlayerOutcome host stepCount) [] players = .ok () ↔
      (∀ outcome ∈ players, ∃ prior, w.player.byId.get? outcome.playerId = some prior
        ∧ prior.lifeState = .alive ∧ w.playerTransferLocks.contains outcome.playerId = false
        ∧ w.validatePlayerState host stepCount prior outcome = .ok ())
      ∧ (players.map PlayerPhysicsOutcome.playerId).Nodup := by
  rw [checkEach_eq_ok (R := fun earlier later => earlier.playerId ≠ later.playerId)
    fun _ _ => validatePlayerOutcome_eq_ok]
  simp only [List.not_mem_nil, false_implies, implies_true, and_true, List.Nodup, List.pairwise_map]

/-- A step is accepted exactly when its roster is the world's and all else it asks holds. -/
theorem applyPhysicsStep_isOk_iff {fixedStepHz stepCount stepPhase : Nat}
    {bodies contacts activeAfter} :
    (∃ w', w.applyPhysicsStep host fixedStepHz stepCount stepPhase bodies players contacts
        activeAfter = .ok w') ↔
      w.RosterChecks players ∧ ∃ active, StepChecks host w fixedStepHz stepCount
        stepPhase bodies players contacts activeAfter active := by
  simp only [applyPhysicsStep, bind_eq_ok, rejectIf_eq_ok, ne_eq, not_not, pure_eq_ok,
    Unique.exists_iff, PUnit.default_eq_unit, validatePlayerOutcomes_eq_ok, Bool.not_eq_false]
  constructor
  · intro h
    obtain ⟨w', htiming, hgrids, hpresence, ⟨houtcomes, honce⟩, horder, hsolved, hbodies, htouching,
      hcontacts, active, hfelt, hremembered, hsurface, -⟩ := h
    refine ⟨⟨hpresence, honce, ?_, ?_, horder⟩, active, ⟨htiming, hgrids, ?_, hsolved, hbodies,
      htouching, hcontacts, hfelt, hremembered, ?_⟩⟩
    · intro outcome hmem
      obtain ⟨prior, hprior, halive, _, _⟩ := houtcomes outcome hmem
      exact ⟨prior, hprior, halive⟩
    · intro outcome hmem
      obtain ⟨_, _, _, hheld, _⟩ := houtcomes outcome hmem
      exact hheld
    · intro outcome hmem prior hprior
      obtain ⟨found, hfound, _, _, hstate⟩ := houtcomes outcome hmem
      obtain rfl : prior = found := Option.mem_unique hprior hfound
      exact hstate
    · intro outcome hmem
      by_contra hne
      exact hsurface ⟨outcome, hmem, hne⟩
  · intro h
    obtain ⟨hroster, active, hrest⟩ := h
    refine ⟨_, hrest.timing, hrest.grids, hroster.presence, ⟨?_, hroster.once⟩, hroster.order,
      hrest.solved, hrest.bodiesOrder, hrest.touching, hrest.contactsOrder, active, hrest.felt,
      hrest.remembered, ?_, rfl⟩
    · intro outcome hmem
      obtain ⟨prior, hprior, halive⟩ := hroster.known outcome hmem
      exact ⟨prior, hprior, halive, hroster.scheduled outcome hmem,
        hrest.outcomes outcome hmem prior hprior⟩
    · intro hfelt
      obtain ⟨outcome, hmem, hne⟩ := hfelt
      exact hne (hrest.surface outcome hmem)

/-! ## The three rosters -/

theorem mem_simulatedPlayers {playerId : String} : playerId ∈ w.simulatedPlayers ↔
    w.playerTransferLocks.contains playerId = false
      ∧ ∃ player, w.player.byId.get? playerId = some player ∧ player.lifeState = .alive := by
  simp only [simulatedPlayers, List.mem_map, List.mem_filter, Bool.and_eq_true,
    Bool.not_eq_true', beq_iff_eq]
  constructor
  · intro h
    obtain ⟨entry, ⟨hentry, hfree, halive⟩, rfl⟩ := h
    exact ⟨hfree, entry.2, OrdMap.mem_entries.mp hentry, halive⟩
  · intro h
    obtain ⟨hfree, player, hplayer, halive⟩ := h
    exact ⟨(playerId, player), ⟨OrdMap.mem_entries.mpr hplayer, hfree, halive⟩, rfl⟩

/-- The roster the order is compared with is the one simulated exactly when no player in it is
    held. -/
theorem simulatedPlayers_eq_iff : w.simulatedPlayers = (w.player.byId.entries.filter fun entry =>
    entry.2.lifeState == .alive).map Prod.fst ↔ w.NoneHeld := by
  constructor
  · intro hsame playerId lock player hlock hplayer halive
    have hmem : playerId ∈ w.simulatedPlayers := by
      rw [hsame]
      refine List.mem_map.mpr ⟨(playerId, player), List.mem_filter.mpr ⟨?_, ?_⟩, rfl⟩
      · exact OrdMap.mem_entries.mpr hplayer
      · simpa using halive
    have hfree := (mem_simulatedPlayers.mp hmem).1
    rw [OrdMap.contains_eq_false.mp hfree] at hlock
    cases hlock
  · intro hnone
    have hkeep : ∀ entry ∈ w.player.byId.entries,
        (!w.playerTransferLocks.contains entry.1 && entry.2.lifeState == .alive)
          = (entry.2.lifeState == .alive) := by
      intro entry hentry
      by_cases halive : entry.2.lifeState = .alive
      · have hfree : w.playerTransferLocks.get? entry.1 = none := by
          cases hlock : w.playerTransferLocks.get? entry.1 with
          | none => rfl
          | some lock =>
            exact absurd halive (hnone entry.1 lock entry.2 hlock (OrdMap.mem_entries.mp hentry))
        simp [OrdMap.contains_eq_false.mpr hfree, halive]
      · simp [halive]
    rw [simulatedPlayers, List.filter_congr hkeep]

/-- A step that lists the players it simulates, each once and in order, passes the comparisons
    with the roster exactly when no transfer holds a player that is alive. They are all that
    acceptance asks of the list beyond what it asks of each outcome: so while one is held, no
    such step is accepted, whatever else it carries. -/
theorem roster_checks_iff (hplayers : players.map PlayerPhysicsOutcome.playerId
      = w.simulatedPlayers) :
    (w.RosterChecks players ↔ w.NoneHeld)
      ∧ ∀ host fixedStepHz stepCount remainingStepPhase bodies contacts activeAfter,
        (∃ w', w.applyPhysicsStep host fixedStepHz stepCount remainingStepPhase bodies players
          contacts activeAfter = .ok w') ↔
        w.RosterChecks players ∧ ∃ active, StepChecks host w fixedStepHz stepCount
          remainingStepPhase bodies players contacts activeAfter active := by
  refine ⟨⟨?_, ?_⟩, fun _ _ _ _ _ _ _ => applyPhysicsStep_isOk_iff⟩
  · intro hroster
    exact simulatedPlayers_eq_iff.mp (hplayers.symm.trans hroster.order)
  · intro hnone
    have hlisted : ∀ outcome ∈ players, outcome.playerId ∈ w.simulatedPlayers := by
      intro outcome hmem
      rw [← hplayers]
      exact List.mem_map_of_mem hmem
    refine ⟨?_, ?_, ?_, ?_, hplayers.trans (simulatedPlayers_eq_iff.mpr hnone)⟩
    · simpa [simulatedPlayers] using congrArg List.length hplayers
    · rw [hplayers]
      exact OrdMap.keys_nodup.sublist (List.filter_sublist.map _)
    · intro outcome hmem
      exact (mem_simulatedPlayers.mp (hlisted outcome hmem)).2
    · intro outcome hmem
      exact (mem_simulatedPlayers.mp (hlisted outcome hmem)).1

end WorldState

/-! The step of the small cell in which its cargo touches down lists its player. Once the player
is held for a transfer a step of the same cell lists nobody, and is refused for its order. -/

/-- The outcomes of the touchdown. -/
def landed : List PlayerPhysicsOutcome :=
  match touchdown.payload with
  | .physicsStepCommitted _ _ _ _ players _ _ => players
  | _ => []

/-- The works, resting where they are. -/
def works : PhysicsBodyOutcome where
  gridId := "grid-works"
  address := proofGrid.address
  position := proofGrid.position
  orientation := proofGrid.orientation
  linearVelocity := Vec3.zero
  angularVelocity := Vec3.zero

/-- The player is held for its transfer. -/
def heldAway : Option (CanonicalEvent × WorldState) := do
  let package ← (prepareEvaPlayerTransfer proofHost proofCell "player-1" proofContext).toOption
  let locking := systemEvent proofCell "transfer-player-1-prepared" 500
    (.playerTransferPrepared package (proofTransfer package .prepared))
  let locked ← (proofCell.applyEvent proofHost locking).toOption
  return (locking, locked)

namespace WorldState

/-- The step of the touchdown passes the roster. While its player is held, a step that lists whom
    it simulates, which is nobody, does not. -/
theorem roster_checks_touchdown : proofCell.RosterChecks landed
    ∧ ∃ locking w, proofCell.applyEvent proofHost locking = .ok w
      ∧ (w.playerTransferLocks.get? "player-1").isSome ∧ ¬ w.RosterChecks [] := by
  have hlisted : landed.map PlayerPhysicsOutcome.playerId = proofCell.simulatedPlayers := by
    decide
  have hheld : heldAway.any fun r => decide (proofCell.applyEvent proofHost r.1 = .ok r.2
      ∧ r.2.simulatedPlayers = [] ∧ (r.2.playerTransferLocks.get? "player-1").isSome
      ∧ (r.2.player.byId.get? "player-1").any (·.lifeState = .alive)) := by decide +kernel
  constructor
  · refine (roster_checks_iff hlisted).1.mpr ?_
    intro playerId lock player hlock
    cases hlock
  · cases hr : heldAway with
    | none => simp [hr] at hheld
    | some r =>
      rw [hr] at hheld
      obtain ⟨happlied, hnobody, hlocked, hthere⟩ := of_decide_eq_true hheld
      obtain ⟨lock, hlock⟩ := Option.isSome_iff_exists.mp hlocked
      obtain ⟨player, hplayer, halive⟩ := (Option.any_eq_true _ _).mp hthere
      have hnone : ([] : List PlayerPhysicsOutcome).map PlayerPhysicsOutcome.playerId
          = r.2.simulatedPlayers := hnobody.symm
      refine ⟨r.1, r.2, happlied, hlocked, fun hchecks => ?_⟩
      exact (roster_checks_iff hnone).1.mp hchecks "player-1" lock player hlock hplayer
        (of_decide_eq_true halive)

/-- The player is held by an accepted event and nobody else is there, and a step that lists
    nobody is refused. -/
theorem not_roster_checks_held : ∃ locking w, proofCell.validatePlayerRoster proofHost = .ok ()
    ∧ proofCell.applyEvent proofHost locking = .ok w ∧ w.simulatedPlayers = []
    ∧ ¬ w.RosterChecks []
    ∧ w.applyPhysicsStep proofHost Content.fixedStepHz 1 0 [works] [] [] []
      = .error (.rejected "replay_player_physics_order_invalid"
          "physics player outcomes must use canonical player-ID order") := by
  have h : heldAway.any fun r => decide (proofCell.validatePlayerRoster proofHost = .ok ()
      ∧ proofCell.applyEvent proofHost r.1 = .ok r.2 ∧ r.2.simulatedPlayers = []
      ∧ (r.2.player.byId.entries.filter fun entry =>
          entry.2.lifeState == .alive).map Prod.fst = ["player-1"]
      ∧ r.2.applyPhysicsStep proofHost Content.fixedStepHz 1 0 [works] [] [] []
        = .error (.rejected "replay_player_physics_order_invalid"
            "physics player outcomes must use canonical player-ID order")) := by decide +kernel
  cases hr : heldAway with
  | none => simp [hr] at h
  | some r =>
    rw [hr] at h
    obtain ⟨hvalid, hlocked, hnobody, hplayer, hrefused⟩ := of_decide_eq_true h
    refine ⟨r.1, r.2, hvalid, hlocked, hnobody, fun hroster => ?_, hrefused⟩
    have horder := hroster.order
    rw [hplayer] at horder
    cases horder

end WorldState
end Verse
