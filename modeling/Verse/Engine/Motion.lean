import Verse.Engine.Physics
import Verse.World.Valid

/-!
# A physics step, read backwards

An accepted step moves every grid and every living player to where the solver left them and
touches nothing else but the clock and the contacts.
-/

namespace Verse

open Lib

/-- A grid where the solver left it. -/
def Grid.posed (grid : Grid) (body : PhysicsBodyOutcome) : Grid :=
  { grid with
    address := body.address
    position := body.position
    orientation := body.orientation
    linearVelocity := body.linearVelocity
    angularVelocity := body.angularVelocity }

variable {bodies : List PhysicsBodyOutcome}

variable {grid : Grid}

theorem Grid.blocks_foldl_posed :
    (bodies.foldl Grid.posed grid).blocks = grid.blocks := by
  induction bodies generalizing grid with
  | nil => rfl
  | cons body bodies ih => exact ih

theorem Grid.gridId_foldl_posed :
    (bodies.foldl Grid.posed grid).gridId = grid.gridId := by
  induction bodies generalizing grid with
  | nil => rfl
  | cons body bodies ih => exact ih

namespace WorldState

variable {host : Host} {w w' : WorldState}

theorem foldl_withBody :
    bodies.foldl withBody w = { w with
      grids := bodies.foldl (fun grids body =>
        grids.modify body.gridId fun grid => grid.posed body) w.grids } := by
  induction bodies generalizing w with
  | nil => rfl
  | cons body bodies ih =>
    rw [List.foldl_cons, ih]
    rfl

variable {stepCount : Nat} {players : List PlayerPhysicsOutcome}

theorem foldl_withMovedPlayer {before} :
    players.foldl (withMovedPlayer before stepCount) w = { w with
      player := { w.player with
        byId := players.foldl (fun byId outcome => byId.modify outcome.playerId fun player =>
          movedPlayer (before.scheduledPlayer stepCount player) player outcome)
            w.player.byId } } := by
  induction players generalizing w with
  | nil => rfl
  | cons outcome players ih =>
    rw [List.foldl_cons, ih]
    rfl

/-- The world after a step. -/
def stepped (w : WorldState) (stepCount remainingStepPhase : Nat)
    (bodies : List PhysicsBodyOutcome) (players : List PlayerPhysicsOutcome)
    (active : OrdMap ContactPairKey Unit) : WorldState :=
  { w with
    player := { w.player with
      byId := players.foldl (fun byId outcome => byId.modify outcome.playerId fun player =>
        movedPlayer (w.scheduledPlayer stepCount player) player outcome) w.player.byId }
    grids := bodies.foldl (fun grids body =>
      grids.modify body.gridId fun grid => grid.posed body) w.grids
    activeContactPairs := active
    physicsStepPhase := remainingStepPhase
    simulationTick := saturatingAdd w.simulationTick stepCount }

/-- What the step checked. -/
structure Solved (host : Host) (w : WorldState) (stepCount : Nat)
    (bodies : List PhysicsBodyOutcome) (players : List PlayerPhysicsOutcome) : Prop where
  moved : checkEach (w.validatePlayerOutcome host stepCount) [] players = .ok ()
  roster : players.map PlayerPhysicsOutcome.playerId =
    (w.player.byId.entries.filter fun entry => entry.2.lifeState == .alive).map Prod.fst
  solved : checkEach (w.validateBodyOutcome host stepCount) [] bodies = .ok ()

theorem applyPhysicsStep_eq_ok {fixedStepHz stepCount stepPhase bodies players contacts
      activeAfter}
    (h : w.applyPhysicsStep host fixedStepHz stepCount stepPhase bodies players contacts
      activeAfter = .ok w') :
    Solved host w stepCount bodies players
      ∧ ∃ active, w' = w.stepped stepCount stepPhase bodies players active := by
  simp only [applyPhysicsStep, bind_eq_ok, rejectIf_eq_ok, ne_eq, not_not, pure_eq_ok] at h
  obtain ⟨-, -, -, -, -, -, ⟨⟩, hplayers, -, hroster, ⟨⟩, hbodies, -, -, -, -, -, -, active, -, -,
    -, -, -, rfl⟩ := h
  refine ⟨⟨hplayers, hroster, hbodies⟩, active, ?_⟩
  rw [foldl_withBody, foldl_withMovedPlayer]
  rfl

theorem Solved.players_nodup
    (h : Solved host w stepCount bodies players) :
    (players.map PlayerPhysicsOutcome.playerId).Nodup := by
  rw [h.roster]
  exact OrdMap.keys_nodup.sublist (List.filter_sublist.map _)

end WorldState
end Verse
