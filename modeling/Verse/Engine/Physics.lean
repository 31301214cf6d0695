import Verse.Engine.Lifecycle

/-!
# Physics outcomes

A physics event carries where the solver left every grid and every living player, and every
contact it reported. The cell does not solve again; it checks that the outcome is one the
solver could have produced from this state: complete, in canonical order, within the motion
limits, with controls advanced exactly as the queued frames say and with contacts between
colliders that exist and whose lifecycle continues the stored one.
-/

namespace Verse

open Lib

variable (host : Host)

/-! ## Controls -/

/-- `advance_player_control_for_substep`: expired frames are dropped, the next frame takes
    effect, and a lease that has run out clears the controls. -/
def advancePlayerControl (player : Player) (simulationTick : Nat) : Player :=
  let expired := player.pendingControlFrames.takeWhile fun frame =>
    decide (simulationTick ≥ frame.expiresAtSimulationTick)
  let player := { player with
    pendingControlFrames := player.pendingControlFrames.drop expired.length
    lastProcessedInputSequence :=
      (expired.getLast?.map PlayerControlFrame.inputSequence).getD
        player.lastProcessedInputSequence }
  let player :=
    match player.pendingControlFrames with
    | [] => player
    | frame :: rest =>
      let jumpPressed := frame.jump && !player.locomotion.jumpHeld
      { player with
        pendingControlFrames := rest
        lastProcessedInputSequence := frame.inputSequence
        controlLinearInput := frame.linearInput
        controlAngularInput := frame.angularInput
        boost := frame.boost
        dampeners := frame.dampeners
        jump := frame.jump
        locomotion := { player.locomotion with
          jumpHeld := frame.jump
          jumpBufferExpiresAtSimulationTick :=
            if jumpPressed then saturatingAdd simulationTick Content.jumpBufferTicks
            else player.locomotion.jumpBufferExpiresAtSimulationTick }
        controlExpiresAtSimulationTick := frame.expiresAtSimulationTick }
  if simulationTick ≥ player.controlExpiresAtSimulationTick then
    { player with
      controlLinearInput := Vec3.zero
      controlAngularInput := Vec3.zero
      boost := false
      dampeners := true
      jump := false
      locomotion := { player.locomotion with jumpHeld := false } }
  else player

namespace WorldState

/-- The player as the committed substeps leave its controls. -/
def scheduledPlayer (w : WorldState) (stepCount : Nat) (player : Player) : Player :=
  if player.lifeState = .alive then
    (List.range stepCount).foldl
      (fun player substep => advancePlayerControl player (saturatingAdd w.simulationTick substep))
      player
  else player

/-! ## Colliders -/

def playerForBodyId (w : WorldState) (bodyId : String) : Option Player :=
  (w.player.byId.entries.find? fun entry => playerBodyId entry.1 == bodyId).map Prod.snd

/-- `player_id_for_contact`: the one player of a contact. -/
def playerIdForContact (w : WorldState) (pair : ContactPairKey) : Option String :=
  match w.playerForBodyId pair.bodyA, w.playerForBodyId pair.bodyB with
  | some player, none | none, some player => some player.playerId
  | _, _ => none

end WorldState

def playerColliderId (playerId : String) : String := s!"player-collider-{playerId}"

/-- `PLANET_BODY_ID`. -/
def planetBodyId : String := "planet-body-khepri-prime"

/-- `PLANET_COLLIDER_ID`. -/
def planetColliderId : String := "planet-collider-khepri-prime"

/-- `voxel_collision_chunk_body_id` of the chunk a coordinate is in. -/
def voxelCollisionChunkBodyId (coordinate : IVec3) : String :=
  let edge := Content.voxelCollisionChunkEdgeCells
  s!"voxel-chunk-{coordinate.x.ediv edge}-{coordinate.y.ediv edge}-{coordinate.z.ediv edge}"

def voxelCollisionColliderId (coordinate : IVec3) : String :=
  s!"voxel-{coordinate.x}-{coordinate.y}-{coordinate.z}"

namespace WorldState

def physicsColliderExists (w : WorldState) (bodyId colliderId : String) : Bool :=
  match w.playerForBodyId bodyId with
  | some player =>
    player.lifeState == .alive && colliderId == playerColliderId player.playerId
  | none =>
    if bodyId = planetBodyId then colliderId == planetColliderId
    else match w.grids.get? bodyId with
      | some grid => grid.blocks.contains colliderId
      | none => w.voxels.occupied.keys.any fun coordinate =>
        voxelCollisionChunkBodyId coordinate == bodyId &&
          voxelCollisionColliderId coordinate == colliderId

/-- `grid_mass_grams`: blocks by remaining health, their cargo, and their machines' work. -/
def gridMassGrams (w : WorldState) (grid : Grid) : Nat :=
  let blockMass := (grid.blocks.values.map fun block =>
    let minimumHealth := divCeil block.maxHealth 10
    (Content.block block.kind).massGrams * max block.health minimumHealth / block.maxHealth).sum
  let inventoryMass := (grid.blocks.values.filterMap fun block =>
    (block.inventoryId.bind w.inventories.get?).map InventoryRecord.massGrams).sum
  let productionMass := ((grid.blocks.keys.filterMap w.productionQueues.get?).flatten.map
    fun job => job.reservedInputs.massGrams + job.pendingOutputs.massGrams).sum
  min (blockMass + inventoryMass + productionMass) u64Max

/-- The mass a moving body brings into a contact. -/
def contactMassGrams (w : WorldState) (bodyId : String) : Option Nat :=
  match w.playerForBodyId bodyId with
  | some { lifeState := .alive, .. } => some Content.characterMassGrams
  | _ => (w.grids.get? bodyId).bind fun grid =>
    if grid.anchored then none else some (w.gridMassGrams grid)

/-- `reduced_translational_contact_mass_grams`. -/
def reducedContactMassGrams (w : WorldState) (leftBody rightBody : String) : Nat :=
  match w.contactMassGrams leftBody, w.contactMassGrams rightBody with
  | some left, some right => min (left * right / (left + right)) u64Max
  | some dynamic, none | none, some dynamic => dynamic
  | none, none => 0

/-! ## One player -/

/-- `validate_player_locomotion_outcome`. -/
def validatePlayerLocomotionOutcome (w : WorldState) (scheduled : Player)
    (outcome : PlayerPhysicsOutcome) (resultingTick : Nat) : Intent Unit := do
  let locomotion := outcome.locomotion
  let invalid (message : String) : IntentError :=
    .rejected "replay_player_locomotion_invalid" message
  ensureFinite locomotion.up "replayed locomotion up"
  rejectIf (host.locomotionUpValid locomotion = false
      ∨ locomotion.viewPitchRadians.isFinite = false
      ∨ locomotion.magneticBootsEnabled ≠ scheduled.locomotion.magneticBootsEnabled
      ∨ locomotion.jumpHeld ≠ scheduled.locomotion.jumpHeld
      ∨ locomotion.jumpBufferExpiresAtSimulationTick
          > scheduled.locomotion.jumpBufferExpiresAtSimulationTick
      ∨ locomotion.supportGraceExpiresAtSimulationTick
          > saturatingAdd resultingTick Content.coyoteTicks
      ∨ locomotion.magneticReattachAfterSimulationTick
          > saturatingAdd resultingTick Content.magneticReattachLockoutTicks)
    (invalid "player locomotion orientation, view, input edge, or timing state is not canonical")
  if scheduled.jetpackEnabled then
    rejectIf (locomotion.kind ≠ .eva ∨ locomotion.support ≠ none)
      (invalid "jetpack locomotion must be EVA and unsupported")
  else do
    rejectIf (locomotion.kind = .eva)
      (invalid "EVA locomotion requires the authoritative jetpack mode")
    let supportRequired := decide (locomotion.kind = .grounded ∨ locomotion.kind = .magnetic)
    rejectIf (supportRequired ≠ locomotion.support.isSome
        ∨ (locomotion.kind = .magnetic ∧ locomotion.magneticBootsEnabled = false))
      (invalid
        "grounded and magnetic states require a valid support and magnetic mode requires armed boots")
    rejectIf (locomotion.kind = .grounded ∧ host.groundedUpFollowsGravity outcome = false)
      (invalid "grounded locomotion up must follow the canonical radial gravity frame")
    match locomotion.support with
    | none => return ()
    | some support => do
      ensureFinite support.localAnchor "replayed support anchor"
      ensureFinite support.localNormal "replayed support normal"
      rejectIf ((w.playerForBodyId support.bodyId).isSome
          ∨ w.physicsColliderExists support.bodyId support.colliderId = false
          ∨ host.supportGeometryValid support = false)
        (invalid
          "locomotion support must identify one live non-player collider with finite local geometry")

/-- What is asked of an outcome past whose it is. -/
def validatePlayerState (w : WorldState) (stepCount : Nat) (prior : Player)
    (outcome : PlayerPhysicsOutcome) : Intent Unit := do
  let scheduled := w.scheduledPlayer stepCount prior
  ensureFinite outcome.position "replayed player position"
  ensureFinite outcome.linearVelocity "replayed player velocity"
  ensureFinite outcome.angularVelocity "replayed player angular velocity"
  rejectIf (outcome.orientation.isFinite = false
      ∨ host.unitOrientation outcome.orientation = false)
    (.rejected "replay_player_physics_rotation_invalid"
      "player physics rotation must be finite and unit length")
  rejectIf (host.velocityAllowed outcome.linearVelocity outcome.angularVelocity = false)
    (.rejected "replay_player_physics_velocity_invalid"
      "player physics velocity exceeds the authoritative solver limit")
  (host.playerMotionContinuity prior outcome stepCount).mapError fun refusal =>
    IntentError.rejected refusal.1 refusal.2
  let resultingTick := saturatingAdd w.simulationTick stepCount
  w.validatePlayerLocomotionOutcome host scheduled outcome resultingTick
  let leaseActive := decide (resultingTick < scheduled.controlExpiresAtSimulationTick)
  rejectIf (outcome.controlLinearInput
        ≠ (if leaseActive then scheduled.controlLinearInput else Vec3.zero)
      ∨ outcome.controlAngularInput
        ≠ (if leaseActive then scheduled.controlAngularInput else Vec3.zero)
      ∨ outcome.boost ≠ (scheduled.boost && leaseActive)
      ∨ outcome.jump ≠ (scheduled.jump && leaseActive)
      ∨ outcome.dampeners ≠ (scheduled.dampeners || !leaseActive)
      ∨ outcome.controlExpiresAtSimulationTick ≠ scheduled.controlExpiresAtSimulationTick)
    (.rejected "replay_player_physics_control_invalid"
      "player physics control and lease outcome is not canonical")

/-- One player outcome, after those before it. -/
def validatePlayerOutcome (w : WorldState) (stepCount : Nat)
    (earlier : List PlayerPhysicsOutcome) (outcome : PlayerPhysicsOutcome) : Intent Unit := do
  rejectIf (∃ prior ∈ earlier, prior.playerId = outcome.playerId)
    (.rejected "replay_player_physics_duplicate" "physics outcome contains a duplicate player")
  let prior ← demand (w.player.byId.get? outcome.playerId)
    (.rejected "replay_player_physics_identity_invalid"
      "physics outcome identifies a player outside this cell")
  rejectIf (prior.lifeState ≠ .alive)
    (.rejected "replay_player_physics_presence_invalid"
      "physics outcome cannot contain an incapacitated player")
  rejectIf (w.playerTransferLocks.contains outcome.playerId)
    (.panicked "validated player is present in the scheduled roster")
  w.validatePlayerState host stepCount prior outcome

/-! ## One grid -/

/-- One grid outcome, after those before it. -/
def validateBodyOutcome (w : WorldState) (stepCount : Nat)
    (earlier : List PhysicsBodyOutcome) (body : PhysicsBodyOutcome) : Intent Unit := do
  rejectIf (∃ prior ∈ earlier, prior.gridId = body.gridId)
    (.rejected "replay_physics_body_duplicate" "physics outcome contains a duplicate grid")
  ensureFinite body.position "replayed grid position"
  ensureFinite body.linearVelocity "replayed grid velocity"
  ensureFinite body.angularVelocity "replayed grid angular velocity"
  rejectIf (body.orientation.isFinite = false ∨ host.unitOrientation body.orientation = false)
    (.rejected "replay_physics_rotation_invalid"
      "physics outcome rotation must be finite and unit length")
  rejectIf (host.velocityAllowed body.linearVelocity body.angularVelocity = false)
    (.rejected "replay_physics_body_velocity_invalid"
      "physics outcome velocity exceeds the authoritative solver limit")
  let grid ← demand (w.grids.get? body.gridId)
    (.rejected "replay_physics_body_identity_invalid"
      "physics outcome must identify an authoritative grid")
  rejectIf (grid.anchored
      ∧ (body.address ≠ grid.address
        ∨ host.orientationHeld grid.orientation body.orientation = false
        ∨ body.linearVelocity ≠ Vec3.zero
        ∨ body.angularVelocity ≠ Vec3.zero))
    (.rejected "replay_physics_anchored_body_invalid"
      "anchored grid pose must remain unchanged and its velocity must remain zero")
  if grid.anchored then return ()
  else (host.bodyMotionContinuity w.unfenced grid body stepCount).mapError fun refusal =>
    .rejected refusal.1 refusal.2

/-! ## Contacts -/

/-- The collider pair a contact reports. -/
def contactKey (contact : PhysicsContactOutcome) : ContactPairKey :=
  ⟨contact.bodyAId, contact.colliderAId, contact.bodyBId, contact.colliderBId⟩

def validateContact (w : WorldState) (stepCount : Nat) (bodies : List PhysicsBodyOutcome)
    (players : List PlayerPhysicsOutcome) (contact : PhysicsContactOutcome) :
    Intent Unit := do
  let key := contactKey contact
  rejectIf (contact.substepIndex ≥ stepCount)
    (.rejected "replay_physics_contact_substep_invalid"
      "physics contact substep must refer to a committed solver step")
  ensureFinite contact.point "replayed contact point"
  ensureFinite contact.normal "replayed contact normal"
  rejectIf (host.unitNormal contact.normal = false)
    (.rejected "replay_physics_contact_normal_invalid"
      "physics contact normal must have unit length")
  rejectIf (contact.penetrationM.isFinite = false ∨ host.nonNegative contact.penetrationM = false)
    (.rejected "replay_physics_contact_invalid"
      "physics contact values must be finite and non-negative")
  rejectIf (toLex (key.bodyB, key.colliderB) < toLex (key.bodyA, key.colliderA)
      ∨ w.physicsColliderExists key.bodyA key.colliderA = false
      ∨ w.physicsColliderExists key.bodyB key.colliderB = false)
    (.rejected "replay_physics_contact_identity_invalid"
      "physics contact identities must be canonical live colliders")
  rejectIf (contact.reducedTranslationalMassGrams
      ≠ w.reducedContactMassGrams contact.bodyAId contact.bodyBId)
    (.rejected "replay_physics_contact_mass_invalid"
      "physics contact reduced translational mass does not match canonical content")
  rejectIf ((w.playerForBodyId key.bodyA).isSome ∧ (w.playerForBodyId key.bodyB).isSome)
    (.rejected "replay_character_contact_forbidden"
      "character collision layers do not produce character-to-character contacts")
  match w.playerIdForContact key with
  | none => return ()
  | some playerId => do
    let outcome ← demand (players.find? fun player => player.playerId == playerId)
      (.panicked "validated living player outcome exists for a player contact")
    let prior ← demand (w.player.byId.get? playerId)
      (.panicked "contact player is present in the canonical roster")
    rejectIf (host.contactPlausible w.unfenced contact prior outcome bodies stepCount = false)
      (.rejected "replay_player_contact_spatially_invalid"
        "player contact must lie on the plausible swept player and counterpart geometry")

/-- The order contacts are reported in. -/
def contactOrder (contact : PhysicsContactOutcome) :
    Nat ×ₗ String ×ₗ String ×ₗ String ×ₗ String :=
  toLex (contact.substepIndex, toLex (contact.bodyAId, toLex (contact.colliderAId,
    toLex (contact.bodyBId, contact.colliderBId))))

/-- One contact of a substep: not seen in it before, and new or persisting as the contacts of
    the substep before say. -/
def stepContact (active current : OrdMap ContactPairKey Unit) (contact : PhysicsContactOutcome) :
    Intent (OrdMap ContactPairKey Unit) := do
  let key := contactKey contact
  rejectIf (current.contains key)
    (.rejected "replay_physics_contact_duplicate"
      "physics outcome contains a duplicate contact pair")
  rejectIf (contact.phase ≠ (if active.contains key then .persisted else .began))
    (.rejected "replay_physics_contact_phase_invalid"
      "physics contact lifecycle does not match canonical state")
  return current.insert key ()

/-- The active contacts after the substeps, each from the contacts reported in it. -/
def activeContactsAfter (w : WorldState) (stepCount : Nat)
    (contacts : List PhysicsContactOutcome) : Intent (OrdMap ContactPairKey Unit) :=
  (List.range stepCount).foldlM (fun active substep =>
    (contacts.filter fun contact => contact.substepIndex == substep).foldlM
      (stepContact active) OrdMap.empty) w.activeContactPairs

/-! ## The whole step -/

/-- Neighbouring keys of a list strictly increase. -/
def strictlyIncreasing {κ : Type} [LT κ] [DecidableLT κ] (keys : List κ) : Bool :=
  (keys.zip keys.tail).all fun pair => decide (pair.1 < pair.2)

/-- `character` and grid poses as a physics event reports them. -/
def withBody (w : WorldState) (body : PhysicsBodyOutcome) : WorldState :=
  { w with grids := w.grids.modify body.gridId fun grid => { grid with
      address := body.address
      position := body.position
      orientation := body.orientation
      linearVelocity := body.linearVelocity
      angularVelocity := body.angularVelocity } }

/-- The player a physics outcome leaves, from the scheduled one. -/
def movedPlayer (scheduled player : Player) (outcome : PlayerPhysicsOutcome) : Player :=
  { player with
    address := outcome.address
    position := outcome.position
    orientation := outcome.orientation
    linearVelocity := outcome.linearVelocity
    angularVelocity := outcome.angularVelocity
    surfaceContact := outcome.surfaceContact
    locomotion := outcome.locomotion
    lastProcessedInputSequence := scheduled.lastProcessedInputSequence
    pendingControlFrames := scheduled.pendingControlFrames
    controlLinearInput := outcome.controlLinearInput
    controlAngularInput := outcome.controlAngularInput
    boost := outcome.boost
    dampeners := outcome.dampeners
    jump := outcome.jump
    controlExpiresAtSimulationTick := outcome.controlExpiresAtSimulationTick }

/-- One player outcome applied. Every player is scheduled from the state before the step, which
    `before` keeps. -/
def withMovedPlayer (before : WorldState) (stepCount : Nat) (w : WorldState)
    (outcome : PlayerPhysicsOutcome) : WorldState :=
  let moved := fun player =>
    movedPlayer (before.scheduledPlayer stepCount player) player outcome
  { w with player := { w.player with byId := w.player.byId.modify outcome.playerId moved } }

/-- The `PhysicsStepCommitted` branch. -/
def applyPhysicsStep (w : WorldState) (fixedStepHz stepCount remainingStepPhase : Nat)
    (bodies : List PhysicsBodyOutcome) (players : List PlayerPhysicsOutcome)
    (contacts : List PhysicsContactOutcome) (activeAfter : List ContactPairKey) :
    Intent WorldState := do
  rejectIf (fixedStepHz ≠ Content.fixedStepHz ∨ stepCount = 0 ∨ stepCount > 15
      ∨ remainingStepPhase ≥ 1000000000)
    (.rejected "replay_physics_timing_invalid"
      "physics timing must use the configured fixed step, a bounded positive step count, and a substep remainder")
  rejectIf (bodies.length ≠ w.grids.size)
    (.rejected "replay_physics_body_count_invalid"
      "physics outcome must contain every authoritative grid exactly once")
  let living := w.player.byId.entries.filter fun entry =>
    !w.playerTransferLocks.contains entry.1 && entry.2.lifeState == .alive
  rejectIf (players.length ≠ living.length)
    (.rejected "replay_player_physics_presence_invalid"
      "physics outcome must contain every living player exactly once")
  checkEach (w.validatePlayerOutcome host stepCount) [] players
  let canonicalPlayerIds := (w.player.byId.entries.filter fun entry =>
    entry.2.lifeState == .alive).map Prod.fst
  rejectIf (players.map PlayerPhysicsOutcome.playerId ≠ canonicalPlayerIds)
    (.rejected "replay_player_physics_order_invalid"
      "physics player outcomes must use canonical player-ID order")
  checkEach (w.validateBodyOutcome host stepCount) [] bodies
  rejectIf (strictlyIncreasing (bodies.map PhysicsBodyOutcome.gridId) = false)
    (.rejected "replay_physics_body_order_invalid"
      "physics grid outcomes must use canonical grid-ID order")
  checkAll (w.validateContact host stepCount bodies players) contacts
  rejectIf (strictlyIncreasing (contacts.map contactOrder) = false)
    (.rejected "replay_physics_contact_order_invalid"
      "physics contacts must use canonical substep and collider-pair order")
  let active ← w.activeContactsAfter stepCount contacts
  rejectIf (activeAfter ≠ active.keys)
    (.rejected "replay_physics_active_contacts_invalid"
      "physics active-contact outcome does not match the final substep")
  rejectIf (∃ player ∈ players, player.surfaceContact ≠
      (active.keys.any (contactKeyInvolvesPlayerId · player.playerId)
        || player.locomotion.support.isSome))
    (.rejected "replay_player_surface_contact_invalid"
      "player surface contact must match the final authoritative contact set")
  let moved := players.foldl (withMovedPlayer w stepCount) (bodies.foldl withBody w)
  return { moved with
    activeContactPairs := active
    physicsStepPhase := remainingStepPhase
    simulationTick := saturatingAdd w.simulationTick stepCount }

end WorldState
end Verse
