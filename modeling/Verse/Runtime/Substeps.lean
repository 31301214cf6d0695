import Verse.Runtime.Cell

/-!
# The live physics step

While a cell is active its physics runs in fixed substeps. In each of them every player who is
not leaving has its control frames advanced and its footing classified; then the solver takes
one step, and its contacts are noted. What the last substep leaves is reported as one event,
which the cell commits and replays like any other.

The solver itself, and what is computed in floating point around it, is a `Solver`: each field
is one question, under the name of the function that answers it. What is decided from the
answers is written out.
-/

namespace Verse.Runtime

open Lib Lib.Program
open Verse.Persistence

/-- `BodyState`, in the vectors of the world. -/
structure BodyState where
  bodyId : String
  position : Vec3
  orientation : Quat
  (linearVelocity angularVelocity : Vec3)
deriving DecidableEq

structure BodyControl where
  bodyId : String
  (forceNewtons torqueNewtonMeters : Vec3)
deriving DecidableEq

structure ContactRecord where
  (bodyAId colliderAId bodyBId colliderBId : String)
  (point normal : Vec3)
  (penetrationM impactSpeedMps estimatedNormalImpulseNs : F64)
deriving DecidableEq

/-- `StepOutput`. -/
structure StepOutput where
  bodies : List BodyState
  contacts : List ContactRecord
deriving DecidableEq

structure PlayerJumpLaunch where
  (up supportVelocity : Vec3)
deriving DecidableEq

/-- What a probe under a player meets: what it would stand on, and whether gravity and whether
    the boots would hold it there. -/
structure Footing where
  support : LocomotionSupportSnapshot
  surfaceNormal : Vec3
  (gravityWalkable magneticWalkable : Bool)
deriving DecidableEq

/-- The native scene and the floating point around it. -/
structure Solver (Scene : Type) where
  /-- `magnitude() > f64::EPSILON`. -/
  moving : Vec3 → Bool
  canonicalVec3 : Vec3 → Vec3
  turnedPitch : (viewPitchRadians : F64) → (angularInput : Vec3) → F64
  /-- The velocity of a vector clamped to the solver's limits. -/
  (clampedLinear clampedAngular : Vec3 → Vec3)
  quantizeF64 : F64 → F64
  quantizeNonnegativeU64 : (value : F64) → (scale : Nat) → Nat
  /-- The scene of a world. -/
  built : WorldState → Scene
  bodyStates : Program String Scene (List BodyState)
  /-- The bodies once a grounded player has stepped up and snapped down. -/
  adjustGroundedCapsule : WorldState → Player → List BodyState → (simulationTick : Nat) →
    Program String Scene (List BodyState)
  probe : WorldState → Player → BodyState → (magneticProbe : Bool) → List BodyState →
    Program String Scene (Option Footing)
  supportVelocity : WorldState → List BodyState → LocomotionSupportSnapshot → Vec3
  physicsControls : WorldState → Player → List BodyState → (simulationTick : Nat) →
    Option PlayerJumpLaunch → (includeGridControls : Bool) → List BodyControl
  step : List BodyControl → Program String Scene StepOutput
  /-- `ensure_player_fixed_step_envelope` of every player. -/
  playersWithinEnvelope : List Player → (prior result : List BodyState) → Except IntentError Unit
  /-- `ensure_dynamic_body_fixed_step_envelope` of every grid that is not anchored. -/
  gridsWithinEnvelope : WorldState → (prior result : List BodyState) → Except IntentError Unit

variable {Scene : Type} (host : Host) (solver : Solver Scene)

/-- What stops a step, and whether it stops the cell with it. -/
structure Stop where
  halts : Bool
  source : RuntimeError

abbrev Solve (Scene α : Type) := Program Stop Scene α

/-- A failure of the solver, in what it was asked for. -/
def solving {α : Type} (halts : Bool) (x : Program String Scene α) : Solve Scene α :=
  zoom (fun scene => scene) (fun _ scene => scene) (fun message => ⟨halts, .physics message⟩) x

/-- A failure of what is computed around it. -/
def checking {α : Type} (halts : Bool) (x : Intent α) : Solve Scene α :=
  lift (fun source => ⟨halts, .intent source⟩) x

/-! ## One player in one substep -/

/-- The locomotion of a player once it has been classified, and whether it takes off. -/
def classifiedLocomotion (w : WorldState) (bodies : List BodyState) (player : Player)
    (gravityUp : Vec3) (accepted : Option Footing) (simulationTick : Nat) :
    PlayerLocomotionSnapshot × Option PlayerJumpLaunch :=
  let locomotion := player.locomotion
  let priorHadSupport := locomotion.support.isSome
  let supportUp :=
    match accepted with
    | some footing => if footing.gravityWalkable then gravityUp else footing.surfaceNormal
    | none => gravityUp
  let jumpRequested := player.jump
    && decide (locomotion.jumpBufferExpiresAtSimulationTick ≥ simulationTick)
    && (accepted.isSome || decide (locomotion.supportGraceExpiresAtSimulationTick ≥ simulationTick))
  if jumpRequested then
    let supportVelocity :=
      match accepted with
      | some footing => solver.supportVelocity w bodies footing.support
      | none => Vec3.zero
    ({ locomotion with
        magneticReattachAfterSimulationTick :=
          if locomotion.kind = .magnetic then
            saturatingAdd simulationTick Content.magneticReattachLockoutTicks
          else locomotion.magneticReattachAfterSimulationTick
        kind := .airborne
        support := none
        up := solver.canonicalVec3 supportUp
        jumpBufferExpiresAtSimulationTick := simulationTick
        supportGraceExpiresAtSimulationTick := simulationTick },
      some ⟨supportUp, supportVelocity⟩)
  else
    match accepted with
    | some footing =>
      ({ locomotion with
          kind := if footing.gravityWalkable then .grounded else .magnetic
          support := some footing.support
          up := solver.canonicalVec3 supportUp
          supportGraceExpiresAtSimulationTick := saturatingAdd simulationTick Content.coyoteTicks },
        none)
    | none =>
      ({ locomotion with
          supportGraceExpiresAtSimulationTick :=
            if priorHadSupport then saturatingAdd simulationTick Content.coyoteTicks
            else locomotion.supportGraceExpiresAtSimulationTick
          kind := .airborne
          support := none
          up := solver.canonicalVec3 gravityUp },
        none)

/-- `classify_player_locomotion_for_substep`. -/
def classifyPlayerLocomotion (w : WorldState) (player : Player) (bodies : List BodyState)
    (simulationTick : Nat) : Program String Scene (Player × Option PlayerJumpLaunch) :=
  if player.lifeState ≠ .alive then pure (player, none)
  else match bodies.find? fun body => body.bodyId == playerBodyId player.playerId with
    | none => pure (player, none)
    | some body =>
      let gravityUp := host.radialUp body.position
      if player.jetpackEnabled then
        let locomotion := { player.locomotion with
          kind := .eva
          support := none
          up := solver.canonicalVec3 gravityUp }
        pure ({ player with locomotion }, none)
      else do
        let player := { player with locomotion := { player.locomotion with
          viewPitchRadians :=
            solver.turnedPitch player.locomotion.viewPitchRadians player.controlAngularInput } }
        let magneticProbe := player.locomotion.magneticBootsEnabled
          && decide (simulationTick ≥ player.locomotion.magneticReattachAfterSimulationTick)
        let hit ← solver.probe w player body magneticProbe bodies
        let accepted := hit.filter fun footing =>
          footing.gravityWalkable || (magneticProbe && footing.magneticWalkable)
        let (locomotion, launch) :=
          classifiedLocomotion solver w bodies player gravityUp accepted simulationTick
        return ({ player with locomotion }, launch)

/-! ## One substep -/

/-- What a step carries from one substep to the next. -/
structure Stepping where
  bodies : List BodyState
  scheduledPlayers : OrdMap String Player
  playerJumps : OrdMap String (Option PlayerJumpLaunch)
  activeContacts : OrdMap ContactPairKey Unit
  contacts : List PhysicsContactOutcome

/-- One player of a substep: its controls, its capsule and its footing. -/
def stepPlayer (w : WorldState) (simulationTick : Nat) (stepping : Stepping)
    (entry : String × Player) : Solve Scene Stepping := do
  let player := advancePlayerControl entry.2 simulationTick
  let bodies ← solving false
    (solver.adjustGroundedCapsule w player stepping.bodies simulationTick)
  let (player, launch) ← solving false
    (classifyPlayerLocomotion host solver w player bodies simulationTick)
  return { stepping with
    bodies
    scheduledPlayers := stepping.scheduledPlayers.insert entry.1 player
    playerJumps := stepping.playerJumps.insert entry.1 launch }

/-- `contact_pair_key`. -/
def contactPairKey (contact : ContactRecord) : ContactPairKey :=
  ⟨contact.bodyAId, contact.colliderAId, contact.bodyBId, contact.colliderBId⟩

/-- `quantized_event_position`. -/
def quantizedEventPosition (w : WorldState) (position : Vec3) :
    Intent (UniverseAddress × Vec3) := do
  let address ← (host.addressFromLocalPosition w.cellAddress position).mapError fun message =>
    .rejected "physics_position_address_invalid" message
  let position ← (host.localPositionFromAddress w.cellAddress address).mapError fun message =>
    .rejected "physics_position_hydration_invalid" message
  return (address, position)

/-- `physics_contact_outcome`. -/
def physicsContactOutcome (w : WorldState) (substepIndex : Nat) (phase : PhysicsContactPhase)
    (contact : ContactRecord) : Intent PhysicsContactOutcome := do
  let (pointAddress, point) ← quantizedEventPosition host w contact.point
  return {
    substepIndex
    bodyAId := contact.bodyAId
    colliderAId := contact.colliderAId
    bodyBId := contact.bodyBId
    colliderBId := contact.colliderBId
    pointAddress, point
    normal := contact.normal
    penetrationM := solver.quantizeF64 contact.penetrationM
    closingSpeedMmPerSecond := solver.quantizeNonnegativeU64 contact.impactSpeedMps 1000
    estimatedNormalImpulseMillinewtonSeconds :=
      solver.quantizeNonnegativeU64 contact.estimatedNormalImpulseNs 1000
    reducedTranslationalMassGrams := w.reducedContactMassGrams contact.bodyAId contact.bodyBId
    phase }

/-- The forces of a substep: those of the grids once, with the first player. -/
def substepControls (w : WorldState) (simulationTick : Nat) (stepping : Stepping) :
    List BodyControl :=
  stepping.scheduledPlayers.entries.zipIdx.flatMap fun ((playerId, player), index) =>
    solver.physicsControls w player stepping.bodies simulationTick
      ((stepping.playerJumps.get? playerId).bind id) (index == 0)

/-- The players of a substep, in the order of the roster. -/
def stepPlayers (w : WorldState) (simulationTick : Nat) (stepping : Stepping) :
    Solve Scene Stepping :=
  stepping.scheduledPlayers.entries.foldlM (stepPlayer host solver w simulationTick)
    { stepping with playerJumps := .empty }

/-- One substep. -/
def substep (w : WorldState) (stepping : Stepping) (substepIndex : Nat) :
    Solve Scene Stepping := do
  let simulationTick := saturatingAdd w.simulationTick substepIndex
  let stepping ← stepPlayers host solver w simulationTick stepping
  let step ← solving true (solver.step (substepControls solver w simulationTick stepping))
  checking true
    (solver.playersWithinEnvelope stepping.scheduledPlayers.values stepping.bodies step.bodies)
  checking true (solver.gridsWithinEnvelope w stepping.bodies step.bodies)
  let contacts ← checking false (step.contacts.mapM fun contact =>
    physicsContactOutcome host solver w substepIndex
      (if stepping.activeContacts.contains (contactPairKey contact) then .persisted else .began)
      contact)
  return { stepping with
    bodies := step.bodies
    activeContacts := .ofList (step.contacts.map fun contact => (contactPairKey contact, ()))
    contacts := stepping.contacts ++ contacts }

/-- The players a step schedules: those that are not leaving. -/
def rosterAtStep (w : WorldState) : OrdMap String Player :=
  w.player.byId.filter fun playerId => !w.playerTransferLocks.contains playerId

/-- All the substeps of a step. -/
def substeps (w : WorldState) (stepCount : Nat) : Solve Scene Stepping := do
  let bodies ← solving true solver.bodyStates
  (List.range stepCount).foldlM (substep host solver w) {
    bodies
    scheduledPlayers := rosterAtStep w
    playerJumps := .empty
    activeContacts := w.activeContactPairs
    contacts := [] }

/-! ## What is reported -/

/-- `physics_body_outcome`. -/
def physicsBodyOutcome (w : WorldState) (body : BodyState) : Intent PhysicsBodyOutcome := do
  let (address, position) ← quantizedEventPosition host w body.position
  return {
    gridId := body.bodyId
    address, position
    orientation := body.orientation
    linearVelocity := solver.clampedLinear body.linearVelocity
    angularVelocity := solver.clampedAngular body.angularVelocity }

/-- `player_physics_outcome`. -/
def playerPhysicsOutcome (w : WorldState) (player : Player) (body : BodyState)
    (surfaceContact : Bool) (resultingSimulationTick : Nat) : Intent PlayerPhysicsOutcome := do
  let leaseActive := decide (resultingSimulationTick < player.controlExpiresAtSimulationTick)
  let (address, position) ← quantizedEventPosition host w body.position
  return {
    playerId := player.playerId
    address, position
    orientation := body.orientation
    linearVelocity := solver.clampedLinear body.linearVelocity
    angularVelocity := solver.clampedAngular body.angularVelocity
    surfaceContact := surfaceContact || player.locomotion.support.isSome
    locomotion := player.locomotion
    controlLinearInput := if leaseActive then player.controlLinearInput else Vec3.zero
    controlAngularInput := if leaseActive then player.controlAngularInput else Vec3.zero
    boost := player.boost && leaseActive
    dampeners := player.dampeners || !leaseActive
    jump := player.jump && leaseActive
    controlExpiresAtSimulationTick := player.controlExpiresAtSimulationTick }

/-- The outcomes of the players that have a body. -/
def playerOutcomes (w : WorldState) (stepCount : Nat) (stepping : Stepping) :
    Intent (List PlayerPhysicsOutcome) :=
  (stepping.scheduledPlayers.values.filterMap fun player =>
    (stepping.bodies.find? fun body => body.bodyId == playerBodyId player.playerId).map
      (player, ·)).mapM fun (player, body) =>
    playerPhysicsOutcome host solver w player body
      (stepping.activeContacts.keys.any (contactKeyInvolvesPlayerId · player.playerId))
      (saturatingAdd w.simulationTick stepCount)

/-- The event a step is committed as. -/
def physicsStepPayload (w : WorldState) (stepCount remainingStepPhase : Nat)
    (stepping : Stepping) : Intent EventPayload := do
  let bodies ← (stepping.bodies.filter fun body => w.grids.contains body.bodyId).mapM
    (physicsBodyOutcome host solver w)
  let players ← playerOutcomes host solver w stepCount stepping
  return .physicsStepCommitted Content.fixedStepHz stepCount remainingStepPhase bodies players
    stepping.contacts stepping.activeContacts.keys

theorem physicsStepPayload_eq_ok {host : Host} {solver : Solver Scene} {w : WorldState} {stepCount remainingStepPhase : Nat} {stepping : Stepping}
    {payload : EventPayload}
    (h : physicsStepPayload host solver w stepCount remainingStepPhase stepping = .ok payload) :
    ∃ bodies players, playerOutcomes host solver w stepCount stepping = .ok players
      ∧ payload = .physicsStepCommitted Content.fixedStepHz stepCount remainingStepPhase bodies
          players stepping.contacts stepping.activeContacts.keys := by
  simp only [physicsStepPayload, bind_eq_ok, pure_eq_ok] at h
  obtain ⟨bodies, -, players, hplayers, rfl⟩ := h
  exact ⟨bodies, players, hplayers, rfl⟩

end Verse.Runtime
