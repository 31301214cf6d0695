import Verse.Engine.Production
import Verse.Engine.Damage
import Verse.Engine.Physics
import Verse.Engine.Receipt
import Verse.Handoff.Stage

/-!
# Applying an event

`applyEvent` is how a cell changes, live and on replay alike. It checks the envelope (the
event is the next one, bound to this cell and this content, under a fence that has not gone
back, and caused by an actor who may act), then the payload against the state, and applies
it; then it pays the actor, seals the event into the history, and weighs the world.

The steps are definitions of their own, in the order they run. Each branch is named after its
payload.
-/

namespace Verse

open Lib
open Directory (CellTransferRecord)

variable (host : Host)

/-- `EVENT_SCHEMA_NAME`. -/
def eventSchemaName : String := "verse.world_event"

/-- `EVENT_SCHEMA_VERSION`. -/
def eventSchemaVersion : Nat := 16

namespace CanonicalEvent

def calculateHash (event : CanonicalEvent) : String :=
  host.eventHash { event with eventHash := "" }

def hashIsValid (event : CanonicalEvent) : Bool := event.eventHash == event.calculateHash host

end CanonicalEvent

namespace EventPayload

/-- `hydrate_spatial_poses`: every pose of a payload is taken again from its address. -/
def hydrateSpatialPoses (cellAddress : UniverseAddress) (payload : EventPayload) :
    Except String EventPayload :=
  let hydrate (address : UniverseAddress) : Except String Vec3 :=
    (host.localPositionFromAddress cellAddress address).mapError fun source =>
      s!"event spatial address is invalid: {source}"
  let rehydrate (package : PlayerTransferPackage) : Except String PlayerTransferPackage :=
    (package.hydrateSpatialPoses host).mapError HandoffError.text
  match payload with
  | .playerIncapacitated playerId deathId cause address _ previousOxygenMilli droppedInventory
      deathDrop => do
    let position ← hydrate address
    let deathDrop ← match deathDrop with
      | none => pure none
      | some drop => do
        let position ← hydrate drop.address
        pure (some { drop with position })
    return .playerIncapacitated playerId deathId cause address position previousOxygenMilli
      droppedInventory deathDrop
  | .playerRespawned deathId address _ suitOxygenMilli helmetClosed jetpackEnabled
      magneticBootsEnabled => do
    let position ← hydrate address
    return .playerRespawned deathId address position suitOxygenMilli helmetClosed
      jetpackEnabled magneticBootsEnabled
  | .physicsStepCommitted fixedStepHz stepCount remainingStepPhase bodies players contacts
      activeContactsAfter => do
    let bodies ← bodies.mapM fun body => do
      let position ← hydrate body.address
      pure { body with position }
    let players ← players.mapM fun player => do
      let position ← hydrate player.address
      pure { player with position }
    let contacts ← contacts.mapM fun contact => do
      let point ← hydrate contact.pointAddress
      pure { contact with point }
    return .physicsStepCommitted fixedStepHz stepCount remainingStepPhase bodies players
      contacts activeContactsAfter
  | .playerTransferPrepared package directoryTransfer =>
    return .playerTransferPrepared (← rehydrate package) directoryTransfer
  | .playerTransferQuarantined package receipt =>
    return .playerTransferQuarantined (← rehydrate package) receipt
  | .playerTransferAborted package directoryTransfer =>
    return .playerTransferAborted (← rehydrate package) directoryTransfer
  | .playerTransferExported package directoryTransfer =>
    return .playerTransferExported (← rehydrate package) directoryTransfer
  | .playerTransferImported package receipt directoryTransfer =>
    return .playerTransferImported (← rehydrate package) receipt directoryTransfer
  | other => return other

end EventPayload

namespace WorldState

/-! ## The envelope -/

/-- The event is the next one of this cell. -/
def validateHeader (w : WorldState) (event : CanonicalEvent) : Intent Unit := do
  rejectIf (event.schemaName ≠ eventSchemaName ∨ event.schemaVersion ≠ eventSchemaVersion)
    (.rejected "event_schema_mismatch"
      s!"event requires {eventSchemaName} schema {eventSchemaVersion}")
  let expected ← plainAdd w.eventSequence 1
  rejectIf (event.eventSequence ≠ expected) (.sequenceMismatch expected event.eventSequence)
  rejectIf (event.previousEventHash ≠ w.lastEventHash) .previousHashMismatch
  rejectIf (event.hashIsValid host = false) .invalidEventHash
  rejectIf (event.universeId ≠ w.universeId ∨ event.cellId ≠ w.cellId) .wrongAuthority
  rejectIf (event.contentManifestVersion ≠ w.contentManifestVersion) .contentManifestMismatch
  rejectIf (event.universeManifestHash ≠ w.universeManifestHash
      ∨ event.celestialRegistryHash ≠ w.celestialRegistryHash)
    (.rejected "event_universe_binding_mismatch"
      "event was produced under a different universe manifest or celestial registry")

/-- The operation metadata of a human event: the actor, the operation, its sequence and its
    fingerprint. -/
structure HumanEnvelope where
  (actorPlayerId operationId : String)
  operationSequence : Nat
  intentFingerprint : String

/-- An actor envelope is complete and human, or empty and the system's. -/
def validateActorEnvelope (w : WorldState) (event : CanonicalEvent) :
    Intent (Option HumanEnvelope) := do
  if event.actorType = "human" then
    match event.actorPlayerId, event.operationId, event.operationSequence,
        event.intentFingerprint with
    | some actorPlayerId, some operationId, some operationSequence, some intentFingerprint =>
      rejectIf (w.player.byId.contains actorPlayerId = false
          ∨ isBlank operationId ∨ operationId.utf8ByteSize > 128
          ∨ operationSequence = 0
          ∨ validBlake3Hex intentFingerprint = false)
        (.rejected "replay_actor_envelope_invalid"
          "human events require one present canonical player actor, operation ID, positive operation sequence, and typed intent fingerprint")
      return some { actorPlayerId, operationId, operationSequence, intentFingerprint }
    | _, _, _, _ =>
      .error (.rejected "replay_actor_envelope_invalid"
        "human events require one present canonical player actor, operation ID, positive operation sequence, and typed intent fingerprint")
  else if event.actorType = "system" then do
    rejectIf (event.actorPlayerId ≠ none ∨ event.operationId ≠ none
        ∨ event.operationSequence ≠ none ∨ event.intentFingerprint ≠ none)
      (.rejected "replay_actor_envelope_invalid"
        "system events cannot carry any client operation metadata")
    return none
  else
    .error (.rejected "replay_actor_envelope_invalid" "event actor type must be human or system")

/-- A human event is the actor's next operation, and its fingerprint is that of the request it
    answers. -/
def validateOperation (w : WorldState) (payload : EventPayload) (human : HumanEnvelope) :
    Intent Unit := do
  let committed ← w.validateOperationAttempt human.actorPlayerId human.operationSequence
    human.intentFingerprint
  rejectIf (committed ≠ none)
    (.rejected "replay_operation_duplicate" "event operation sequence was already committed")
  let reconstructed ←
    clientMessageForHumanEvent payload human.operationSequence human.operationId
  let expectedFingerprint ← w.clientIntentFingerprint host human.actorPlayerId reconstructed
  rejectIf (expectedFingerprint ≠ human.intentFingerprint)
    (.rejected "replay_intent_fingerprint_mismatch"
      "event intent fingerprint does not bind its typed client request")

/-- A transfer-locked player neither acts nor is acted on by life support or physics. -/
def validateTransferLocks (w : WorldState) (event : CanonicalEvent) : Intent Unit := do
  rejectIf (∃ playerId ∈ event.actorPlayerId, w.playerTransferLocks.contains playerId)
    (.rejected "replay_actor_transfer_locked"
      "a transfer-locked player cannot commit gameplay mutations")
  match event.payload with
  | .suitOxygenChanged playerId .. | .playerIncapacitated playerId .. =>
    rejectIf (w.playerTransferLocks.contains playerId)
      (.rejected "replay_actor_transfer_locked"
        "life support cannot mutate a transfer-locked player")
  | .physicsStepCommitted _ _ _ _ players _ _ =>
    rejectIf (∃ player ∈ players, w.playerTransferLocks.contains player.playerId)
      (.rejected "replay_actor_transfer_locked" "physics cannot mutate a transfer-locked player")
  | _ => return ()

/-- Each payload is only ever caused by a player, or only ever by the system. -/
def validatePayloadEnvelope (w : WorldState) (event : CanonicalEvent) : Intent Unit :=
  let notHuman := event.actorType ≠ "human" ∨ event.actorPlayerId = none
    ∨ event.operationId = none ∨ event.operationId = some ""
  let notSystem := event.actorPlayerId ≠ none ∨ event.actorType ≠ "system"
    ∨ event.operationId ≠ none
  match event.payload with
  | .playerControlSet .. =>
    rejectIf (event.actorType ≠ "human" ∨ event.operationId = none
        ∨ event.operationId = some "")
      (.rejected "replay_player_control_envelope_invalid"
        "character control requires the authoritative player actor and an operation ID")
  | .voxelMined .. =>
    rejectIf notHuman
      (.rejected "replay_mining_envelope_invalid"
        "voxel mining requires the authoritative player actor and an operation ID")
  | .oreRefined .. | .componentCrafted .. =>
    .error (.rejected "replay_physical_machine_required"
      "event schema 13 rejects direct inventory refining and crafting")
  | .productionQueued .. | .inventoryTransferred .. | .blockBuilt .. | .blockWelded ..
  | .gridControlSet .. | .gridAnchorSet .. | .blockDamaged .. =>
    rejectIf notHuman
      (.rejected "replay_hand_tool_envelope_invalid"
        "industry, construction, grid control, anchoring, and hand-tool damage require an authenticated player actor and operation ID")
  | .productionQuantumCommitted .. =>
    rejectIf notSystem
      (.rejected "replay_production_envelope_invalid"
        "production quanta require the system actor and no operation ID")
  | .physicsStepCommitted .. =>
    rejectIf notSystem
      (.rejected "replay_physics_envelope_invalid"
        "physics outcomes require the system actor and no operation ID")
  | .suitModeChanged .. =>
    rejectIf notHuman
      (.rejected "replay_lifecycle_envelope_invalid"
        "suit mode requires the authenticated player actor and an operation ID")
  | .suitOxygenChanged playerId .. | .playerIncapacitated playerId .. =>
    rejectIf (w.player.byId.contains playerId = false ∨ notSystem)
      (.rejected "replay_lifecycle_envelope_invalid"
        "automatic life-support events require the system actor and no operation ID")
  | .playerRespawned .. =>
    rejectIf notHuman
      (.rejected "replay_lifecycle_envelope_invalid"
        "respawn requires the authoritative player actor and an operation ID")
  | .playerTransferPrepared .. | .playerTransferQuarantined .. | .playerTransferAborted ..
  | .playerTransferExported .. | .playerTransferImported .. => return ()

def isRespawn : EventPayload → Bool
  | .playerRespawned .. => true
  | _ => false

/-- An incapacitated player can only ask for recovery. -/
def validateActorAlive (w : WorldState) (event : CanonicalEvent) : Intent Unit :=
  match event.actorPlayerId with
  | none => return ()
  | some actorPlayerId => do
    let actor ← w.actor actorPlayerId
    rejectIf (actor.lifeState ≠ .alive ∧ isRespawn event.payload = false)
      (.rejected "replay_player_incapacitated"
        "incapacitated players cannot commit gameplay events before recovery")

/-- The fence is positive and does not go back. -/
def validateFence (w : WorldState) (event : CanonicalEvent) : Intent Unit :=
  rejectIf (event.authorityFencingToken = 0 ∨ event.authorityFencingToken < w.fencingToken)
    (.rejected "event_fencing_token_invalid"
      "event fencing token must be positive and nondecreasing")

/-! ## Player branches -/

/-- The actor of a payload whose envelope is known to name one. -/
def eventActor (event : CanonicalEvent) : Intent String :=
  demand event.actorPlayerId (.panicked "validated event has a human actor")

def applyPlayerControlSet (w : WorldState) (actorPlayerId : String)
    (movementEpoch inputSequence : Nat) (linearInput angularInput : Vec3)
    (boost dampeners jump : Bool) (expiresAtSimulationTick : Nat) : Intent WorldState := do
  let actor ← w.actor actorPlayerId
  ensureBoundedControl host linearInput "replayed character linear control"
  ensureBoundedControl host angularInput "replayed character angular control"
  rejectIf (movementEpoch ≠ actor.movementEpoch
      ∨ inputSequence ≤ actor.lastReceivedInputSequence
      ∨ expiresAtSimulationTick ≠ saturatingAdd w.simulationTick Content.controlLeaseTicks)
    (.rejected "replay_player_control_invalid"
      "character control epoch, sequence, or lease is not canonical")
  rejectIf (actor.pendingControlFrames.length
      ≥ min Content.controlLeaseTicks Content.maxPendingPlayerControlFrames)
    (.rejected "replay_player_control_backpressure_invalid"
      "character control event exceeds the canonical pending-frame bound")
  let frame : PlayerControlFrame := {
    inputSequence, linearInput, angularInput, boost, dampeners, jump, expiresAtSimulationTick }
  return w.withPlayer actorPlayerId { actor with
    pendingControlFrames := actor.pendingControlFrames ++ [frame]
    lastReceivedInputSequence := inputSequence }

/-- The suit a mode change leaves: a jetpack is EVA and unsupported, and switching it off in
    EVA leaves the player airborne. -/
def suitMode (player : Player) (helmetClosed jetpackEnabled magneticBootsEnabled : Bool) :
    Player :=
  { player with
    helmetClosed, jetpackEnabled
    locomotion := { player.locomotion with
      magneticBootsEnabled
      kind :=
        if jetpackEnabled then .eva
        else if player.locomotion.kind = .eva then .airborne
        else player.locomotion.kind
      support := if jetpackEnabled then none else player.locomotion.support } }

def applySuitModeChanged (w : WorldState) (actorPlayerId : String)
    (helmetClosed jetpackEnabled magneticBootsEnabled : Bool) : Intent WorldState := do
  let player ← w.actor actorPlayerId
  return w.withPlayer actorPlayerId
    (suitMode player helmetClosed jetpackEnabled magneticBootsEnabled)

def applySuitOxygenChanged (w : WorldState) (payload : EventPayload) (playerId : String)
    (newOxygenMilli : Nat) : Intent WorldState := do
  let expected ← w.lifeSupportPayload host playerId
  rejectIf (expected ≠ some payload)
    (.rejected "replay_suit_oxygen_invalid"
      "life-support event is not the exact authoritative one-second outcome")
  let player ← w.actor playerId
  return w.withPlayer playerId { player with suitOxygenMilli := newOxygenMilli }

def applyPlayerIncapacitated (w : WorldState) (payload : EventPayload) (playerId : String) :
    Intent WorldState := do
  let expected ← w.oxygenIncapacitationPayload host playerId
  rejectIf (expected ≠ payload)
    (.rejected "replay_player_incapacitation_invalid"
      "incapacitation does not match authoritative life support or inventory")
  match expected with
  | .playerIncapacitated playerId deathId cause _ _ _ droppedInventory deathDrop => do
    let player ← w.actor playerId
    let _ ← w.inventory player.inventoryId
    let emptied := w.withContents player.inventoryId .empty
    let dropped :=
      match droppedInventory, deathDrop with
      | some inventory, some drop => emptied.withDeathDrop inventory drop
      | _, _ => emptied
    return (dropped.withPlayer playerId
      (w.incapacitated host player deathId cause)).forgetContacts playerId
  | _ => .error (.panicked "incapacitation preparation returns incapacitation payload")

def applyPlayerRespawned (w : WorldState) (payload : EventPayload) (actorPlayerId : String)
    (address : UniverseAddress) (position : Vec3) (suitOxygenMilli : Nat)
    (helmetClosed jetpackEnabled magneticBootsEnabled : Bool) : Intent WorldState := do
  let expected ← w.playerRespawnPayload host actorPlayerId
  rejectIf (expected ≠ payload)
    (.rejected "replay_player_respawn_invalid"
      "respawn does not match the server-selected recovery outcome")
  let player ← w.actor actorPlayerId
  return (w.withPlayer actorPlayerId (w.respawned host player address position suitOxygenMilli
    helmetClosed jetpackEnabled magneticBootsEnabled)).forgetContacts actorPlayerId

/-! ## Industry branches -/

/-- Contacts with one voxel are forgotten. -/
def forgetVoxelContacts (w : WorldState) (coordinate : IVec3) : WorldState :=
  let bodyId := voxelCollisionChunkBodyId coordinate
  let colliderId := voxelCollisionColliderId coordinate
  { w with activeContactPairs := w.activeContactPairs.filter fun pair =>
      !((pair.bodyA == bodyId && pair.colliderA == colliderId) ||
        (pair.bodyB == bodyId && pair.colliderB == colliderId)) }

def applyVoxelMined (w : WorldState) (actorPlayerId : String) (coordinate : IVec3)
    (material : VoxelMaterial) (oreYield : Nat) (inventoryId : String) :
    Intent WorldState := do
  let actor ← w.actor actorPlayerId
  rejectIf (inventoryId ≠ actor.inventoryId)
    (.rejected "replay_mining_actor_inventory_invalid"
      "mined ore must be credited to the authenticated actor's carried inventory")
  let canonicalMaterial ← demand (w.voxels.material coordinate)
    (.rejected "replay_voxel_missing" "event target voxel is missing")
  rejectIf (canonicalMaterial ≠ material)
    (.rejected "replay_material_mismatch" "event material does not match voxel material")
  w.ensureVoxelToolTarget host actor coordinate "replay_mining_target_invalid"
    "mining event does not match the authenticated actor's closest visible tool target"
  let canonicalOreYield := Content.voxelOreYield canonicalMaterial
  rejectIf (oreYield ≠ canonicalOreYield)
    (.rejected "replay_mining_yield_invalid"
      "mining event yield does not match the canonical voxel material")
  let inventory ← w.inventory inventoryId
  rejectIf (inventory.canAdd .ore canonicalOreYield = false)
    (.rejected "replay_mining_inventory_capacity_invalid"
      "mining event exceeds the authenticated actor's carried inventory capacity")
  rejectIf (w.supportsAnchor host coordinate)
    (.rejected "replay_mining_anchor_support_invalid"
      "mining event would remove the final voxel support from an anchored grid")
  let ore ← plainAdd inventory.contents.ore canonicalOreYield
  let minedOre ← plainAdd w.ledger.minedOre canonicalOreYield
  let mined := { w with
    voxels := w.voxels.remove coordinate
    ledger := { w.ledger with minedOre } }
  return (mined.withContents inventoryId { inventory.contents with ore }).forgetVoxelContacts
    coordinate

/-- The endpoint of a queued job: owned by the actor, completed cargo, and reachable. -/
def ensureProductionEndpoint (w : WorldState) (actorPlayerId machineBlockId inventoryId : String) :
    Intent Unit := do
  w.ensureActorOwnsInventory actorPlayerId inventoryId
  rejectIf (w.cargoBlockForInventory inventoryId = none
      ∨ w.productionRouteExists machineBlockId inventoryId = false)
    (.rejected "replay_production_route_invalid"
      "queued production endpoints do not share a completed conveyor route")

/-- The jobs waiting at a machine. -/
def queueOf (w : WorldState) (machineBlockId : String) : List ProductionJob :=
  (w.productionQueues.get? machineBlockId).getD []

def applyProductionQueued (w : WorldState) (event : CanonicalEvent) (actorPlayerId : String)
    (job : ProductionJob) : Intent WorldState := do
  let operationId ← demand event.operationId
    (.panicked "validated production enqueue has an operation ID")
  let (grid, machine) ← demand (w.blockGrid job.machineBlockId)
    (.rejected "replay_production_machine_missing" "queued production machine is not present")
  rejectIf (job.jobId ≠ s!"production-job-{event.eventSequence}"
      ∨ job.queuedEventSequence ≠ event.eventSequence
      ∨ job.operationId ≠ operationId
      ∨ job.ownerPlayerId ≠ actorPlayerId
      ∨ grid.ownerPlayerId ≠ actorPlayerId
      ∨ machine.constructionComplete = false
      ∨ Content.machineSupportsRecipe machine.kind job.recipe = false
      ∨ job.contentManifestVersion ≠ w.contentManifestVersion
      ∨ job.progressTicks ≠ 0
      ∨ job.pendingOutputs ≠ .empty
      ∨ (∃ prior ∈ w.jobs, prior.jobId = job.jobId))
    (.rejected "replay_production_job_invalid"
      "queued production identity, owner, machine, manifest, or initial state is not canonical")
  rejectIf ((w.queueOf job.machineBlockId).length ≥ Content.queueLimitPerMachine)
    (.rejected "replay_production_queue_full"
      "queued production exceeds the canonical machine queue bound")
  let (expectedInputs, _, expectedDuration) ←
    demand (productionRecipeQuantities job.recipe job.batches)
      (.rejected "replay_production_quantity_invalid"
        "queued production quantities overflow registered bounds")
  rejectIf (job.reservedInputs ≠ expectedInputs ∨ job.durationTicks ≠ expectedDuration)
    (.rejected "replay_production_recipe_invalid"
      "queued production escrow or duration does not match registered content")
  checkAll (w.ensureProductionEndpoint actorPlayerId job.machineBlockId)
    [job.sourceInventoryId, job.destinationInventoryId]
  let source ← w.inventory job.sourceInventoryId
  let contents ← demand (source.contents.subtract job.reservedInputs)
    (.rejected "replay_production_input_invalid"
      "queued production exceeds its source cargo contents")
  let reserved := w.withContents job.sourceInventoryId contents
  let queue := w.queueOf job.machineBlockId ++ [job]
  return { reserved with
    productionQueues := w.productionQueues.insert job.machineBlockId queue }

def applyProductionQuantum (w : WorldState) (event : CanonicalEvent)
    (occurrence : ProductionScheduleOccurrence) (elapsedTicks : Nat)
    (outcomes : List ProductionMachineOutcome) : Intent WorldState := do
  rejectIf (elapsedTicks ≠ Content.fixedStepHz
      ∨ event.eventId ≠ host.productionOccurrenceEventId occurrence
      ∨ event.occurredAtUnixMs ≠ occurrence.scheduledForUnixMs)
    (.rejected "replay_production_quantum_envelope_invalid"
      "production quantum identity, time, or elapsed ticks are invalid")
  let expected ← w.productionQuantumPayload host occurrence
  rejectIf (expected ≠ event.payload)
    (.rejected "replay_production_quantum_invalid"
      "production quantum does not match the complete authoritative one-second outcome")
  let applied ← w.applyOutcomes outcomes
  return { applied with productionClock := { applied.productionClock with
    lastCommittedQuantumSequence := occurrence.productionQuantumSequence
    lastScheduledForUnixMs := occurrence.scheduledForUnixMs } }

def applyInventoryTransferred (w : WorldState) (actorPlayerId sourceInventoryId
    destinationInventoryId : String) (resource : ResourceKind) (quantity : Nat) :
    Intent WorldState := do
  rejectIf (sourceInventoryId = destinationInventoryId ∨ quantity = 0)
    (.rejected "replay_inventory_transfer_invalid"
      "inventory transfer must use distinct inventories and a positive quantity")
  w.ensureActorOwnsInventory actorPlayerId sourceInventoryId
  w.ensureActorOwnsInventory actorPlayerId destinationInventoryId
  w.ensureInventoryFunctional sourceInventoryId
  w.ensureInventoryFunctional destinationInventoryId
  let source ← w.inventory sourceInventoryId
  let destination ← w.inventory destinationInventoryId
  rejectIf (source.contents.amount resource < quantity
      ∨ destination.canAdd resource quantity = false)
    (.rejected "replay_inventory_transfer_invalid"
      "inventory transfer exceeds authoritative contents or capacity")
  let destinationAmount ← demand (checkedAdd (destination.contents.amount resource) quantity)
    (.rejected "replay_inventory_transfer_invalid"
      "inventory transfer overflows the destination quantity")
  return (w.withContents sourceInventoryId
      (source.contents.set resource (source.contents.amount resource - quantity))).withContents
    destinationInventoryId (destination.contents.set resource destinationAmount)

/-! ## Construction branches -/

/-- The inventory a placed cargo frame opens. -/
def withCargoInventory (w : WorldState) (block : Block) : WorldState :=
  match block.inventoryId with
  | none => w
  | some inventoryId => w.withInventory inventoryId {
      inventoryId
      domain := .cargo block.blockId
      contents := .empty
      capacityLiters := cargoInventoryCapacityLiters }

def applyBlockBuilt (w : WorldState) (eventSequence : Nat) (actorPlayerId gridId
    componentInventoryId : String) (block : Block) : Intent WorldState := do
  rejectIf (block.orientation > 3
      ∨ block.health ≠ divCeil block.maxHealth 4
      ∨ block.constructionComplete
      ∨ block.componentCost ≠ (Content.block block.kind).componentCost
      ∨ block.blockId ≠ s!"block-{eventSequence}"
      ∨ block.inventoryId ≠
          (if block.kind = .cargo then some s!"inventory-{block.blockId}" else none))
    (.rejected "replay_construction_frame_invalid"
      "placed frame does not match canonical identity, cost, linkage, orientation, or integrity")
  rejectIf ((∃ grid ∈ w.grids.values, grid.blocks.contains block.blockId)
      ∨ (∃ inventoryId ∈ block.inventoryId, w.inventories.contains inventoryId))
    (.rejected "replay_construction_identity_duplicate"
      "placed frame reuses an authoritative block or inventory identity")
  let grid ← w.grid gridId
  let actor ← w.actor actorPlayerId
  w.ensureActorOwnsGrid actorPlayerId gridId
  rejectIf (componentInventoryId ≠ actor.inventoryId)
    (.rejected "replay_construction_inventory_invalid"
      "construction must debit the authenticated actor's carried inventory")
  w.ensureActorOwnsInventory actorPlayerId componentInventoryId
  rejectIf (grid.blocks.size ≥ Content.maxGridBlocks
      ∨ grid.blockAt block.coordinate ≠ none
      ∨ (grid.blocks ≠ OrdMap.empty
        ∧ ¬ ∃ existing ∈ grid.blocks.values,
            existing.coordinate.manhattanDistance block.coordinate = 1))
    (.rejected "replay_construction_location_invalid"
      "placed frame exceeds the grid budget or is not at a free face-connected coordinate")
  w.ensureBuildToolTarget host actor gridId block.coordinate
    "replay_construction_target_invalid"
    "construction event is not on the exact closest visible face targeted by its authenticated actor"
  rejectIf (w.playerIntersectsGridCoordinate host grid block.coordinate)
    (.rejected "replay_construction_intersects_player"
      "placed frame intersects the authoritative player collider")
  let inventory ← w.inventory componentInventoryId
  rejectIf (inventory.contents.components < block.componentCost)
    (.rejected "replay_construction_components_invalid"
      "placed frame exceeds the authoritative component inventory")
  let builtBlocks ← plainAdd w.ledger.builtBlocks 1
  let paid := (w.withContents componentInventoryId { inventory.contents with
    components := inventory.contents.components - block.componentCost }).withCargoInventory block
  return { paid.withGrid gridId { grid with blocks := grid.blocks.insert block.blockId block }
    with ledger := { w.ledger with builtBlocks } }

def applyBlockWelded (w : WorldState) (actorPlayerId gridId blockId : String)
    (previousHealth newHealth maxHealth : Nat) (completedConstruction : Bool) :
    Intent WorldState := do
  let actor ← w.actor actorPlayerId
  w.ensureActorOwnsGrid actorPlayerId gridId
  let grid ← w.grid gridId
  let block ← demand (grid.blocks.get? blockId)
    (.rejected "replay_block_missing" "weld target is missing")
  w.ensureBlockToolTarget host actor gridId blockId "replay_weld_target_invalid"
    "weld event does not match the authenticated actor's closest visible tool target"
  rejectIf (block.health ≠ previousHealth ∨ block.maxHealth ≠ maxHealth)
    (.rejected "replay_integrity_mismatch" "weld event does not match the block integrity state")
  rejectIf (previousHealth ≥ maxHealth)
    (.rejected "replay_weld_no_change" "weld event cannot target a block already at full integrity")
  rejectIf (newHealth ≠ min (previousHealth + divCeil maxHealth 4) maxHealth)
    (.rejected "replay_weld_increment_invalid"
      "weld event does not match the canonical integrity increment")
  rejectIf (completedConstruction ≠ (!block.constructionComplete && decide (newHealth = maxHealth)))
    (.rejected "replay_construction_completion_invalid"
      "weld event completion does not match construction state")
  let welded := { block with
    health := newHealth
    constructionComplete := block.constructionComplete || completedConstruction }
  return w.withGrid gridId { grid with blocks := grid.blocks.insert blockId welded }

def applyGridControlSet (w : WorldState) (actorPlayerId gridId : String)
    (linearInput angularInput : Vec3) (dampeners : Bool) : Intent WorldState := do
  w.ensureActorOwnsGrid actorPlayerId gridId
  ensureFinite linearInput "replayed grid linear control"
  ensureFinite angularInput "replayed grid angular control"
  let grid ← w.grid gridId
  rejectIf (grid.anchored
      ∨ host.powerOnline grid = false
      ∨ host.gridControlBounded linearInput = false
      ∨ host.gridControlBounded angularInput = false)
    (.rejected "replay_grid_control_invalid"
      "grid control requires an owned, powered, released grid and normalized finite inputs")
  return w.withGrid gridId { grid with
    controlLinearInput := linearInput
    controlAngularInput := angularInput
    dampeners }

/-- The grid an anchor event leaves: engaging one stops the grid where it is. -/
def anchorGrid (grid : Grid) (anchored rewardCredited : Bool) : Grid :=
  if anchored then { grid with
    anchored
    anchorRewardEligible := grid.anchorRewardEligible && !rewardCredited
    linearVelocity := Vec3.zero
    angularVelocity := Vec3.zero
    controlLinearInput := Vec3.zero
    controlAngularInput := Vec3.zero }
  else { grid with anchored }

def applyGridAnchorSet (w : WorldState) (actorPlayerId gridId : String)
    (anchored rewardCredited : Bool) : Intent WorldState := do
  w.ensureActorOwnsGrid actorPlayerId gridId
  let grid ← w.grid gridId
  rejectIf (anchored = grid.anchored
      ∨ (anchored ∧ (host.powerOnline grid = false
        ∨ grid.anchorTouches host w.voxels = false))
      ∨ rewardCredited ≠ (anchored && grid.anchorRewardEligible))
    (.rejected "replay_grid_anchor_invalid"
      "anchor event must be an authorized toggle with canonical power, contact, and reward state")
  return w.withGrid gridId (anchorGrid grid anchored rewardCredited)

def applyBlockDamaged (w : WorldState) (eventSequence : Nat) (actorPlayerId gridId
    blockId : String) (damage : Nat) : Intent WorldState := do
  let actor ← w.actor actorPlayerId
  rejectIf (damage ≠ Content.handToolDamage)
    (.rejected "replay_damage_amount_invalid" "hand-tool damage must match the canonical amount")
  let grid ← w.grid gridId
  let _ ← demand (grid.blocks.get? blockId)
    (.rejected "replay_block_missing" "damage target is missing")
  w.ensureBlockToolTarget host actor gridId blockId "replay_damage_target_invalid"
    "damage event does not match the authenticated actor's closest visible tool target"
  w.applyDamage host gridId blockId damage eventSequence

/-! ## Handoff branches -/

/-- A step of a handoff, refused under the code of its payload. -/
def applyStaged {α : Type} (code : String) (staged : Handoff α) : Intent α :=
  staged.mapError fun
    | .panicked message => .panicked message
    | source => .rejected code source.text

def applyPlayerTransferQuarantined (w : WorldState) (package : PlayerTransferPackage)
    (receipt : PlayerTransferQuarantineReceipt) : Intent WorldState := do
  let (staged, expectedReceipt) ← applyStaged "replay_transfer_quarantine_invalid"
    (stageEvaPlayerQuarantine host w receipt.destinationFencingToken package)
  rejectIf (expectedReceipt ≠ receipt)
    (.rejected "replay_transfer_quarantine_invalid"
      "quarantine event does not contain the canonical receipt")
  return staged

/-! ## The payload -/

/-- The match on the payload. Direct refining and crafting have been refused by the envelope;
    the branches the source keeps for them are never reached. -/
def applyPayload (w : WorldState) (event : CanonicalEvent) : Intent WorldState :=
  let fenced := { w with fencingToken := event.authorityFencingToken }
  match event.payload with
  | .playerControlSet movementEpoch inputSequence linearInput angularInput boost dampeners jump
      expiresAtSimulationTick => do
    let actorPlayerId ← eventActor event
    w.applyPlayerControlSet host actorPlayerId movementEpoch inputSequence linearInput
      angularInput boost dampeners jump expiresAtSimulationTick
  | .suitModeChanged helmetClosed jetpackEnabled magneticBootsEnabled => do
    let actorPlayerId ← eventActor event
    w.applySuitModeChanged actorPlayerId helmetClosed jetpackEnabled magneticBootsEnabled
  | .suitOxygenChanged playerId _ newOxygenMilli =>
    w.applySuitOxygenChanged host event.payload playerId newOxygenMilli
  | .playerIncapacitated playerId .. =>
    w.applyPlayerIncapacitated host event.payload playerId
  | .playerRespawned _ address position suitOxygenMilli helmetClosed jetpackEnabled
      magneticBootsEnabled => do
    let actorPlayerId ← eventActor event
    w.applyPlayerRespawned host event.payload actorPlayerId address position suitOxygenMilli
      helmetClosed jetpackEnabled magneticBootsEnabled
  | .voxelMined coordinate material oreYield inventoryId => do
    let actorPlayerId ← eventActor event
    w.applyVoxelMined host actorPlayerId coordinate material oreYield inventoryId
  | .oreRefined .. | .componentCrafted .. =>
    .error (.panicked "direct refining and crafting are refused by the envelope")
  | .productionQueued job => do
    let actorPlayerId ← eventActor event
    w.applyProductionQueued event actorPlayerId job
  | .productionQuantumCommitted occurrence elapsedTicks outcomes =>
    w.applyProductionQuantum host event occurrence elapsedTicks outcomes
  | .inventoryTransferred sourceInventoryId destinationInventoryId resource quantity => do
    let actorPlayerId ← eventActor event
    w.applyInventoryTransferred actorPlayerId sourceInventoryId destinationInventoryId resource
      quantity
  | .blockBuilt gridId componentInventoryId block => do
    let actorPlayerId ← eventActor event
    w.applyBlockBuilt host event.eventSequence actorPlayerId gridId componentInventoryId block
  | .blockWelded gridId blockId previousHealth newHealth maxHealth completedConstruction => do
    let actorPlayerId ← eventActor event
    w.applyBlockWelded host actorPlayerId gridId blockId previousHealth newHealth maxHealth
      completedConstruction
  | .gridControlSet gridId linearInput angularInput dampeners => do
    let actorPlayerId ← eventActor event
    w.applyGridControlSet host actorPlayerId gridId linearInput angularInput dampeners
  | .gridAnchorSet gridId anchored rewardCredited => do
    let actorPlayerId ← eventActor event
    w.applyGridAnchorSet host actorPlayerId gridId anchored rewardCredited
  | .blockDamaged gridId blockId damage => do
    let actorPlayerId ← eventActor event
    w.applyBlockDamaged host event.eventSequence actorPlayerId gridId blockId damage
  | .physicsStepCommitted fixedStepHz stepCount remainingStepPhase bodies players contacts
      activeContactsAfter =>
    w.applyPhysicsStep host fixedStepHz stepCount remainingStepPhase bodies players contacts
      activeContactsAfter
  | .playerTransferPrepared package directoryTransfer =>
    applyStaged "replay_transfer_prepare_invalid"
      (stagePreparedEvaLock host fenced package directoryTransfer)
  | .playerTransferQuarantined package receipt =>
    fenced.applyPlayerTransferQuarantined host package receipt
  | .playerTransferAborted package directoryTransfer =>
    applyStaged "replay_transfer_abort_invalid"
      (stageAbortedEvaUnlock host fenced package directoryTransfer)
  | .playerTransferExported package directoryTransfer =>
    applyStaged "replay_transfer_export_invalid"
      (stageCommittedEvaExport host fenced package directoryTransfer)
  | .playerTransferImported package receipt directoryTransfer =>
    applyStaged "replay_transfer_import_invalid"
      (stageCommittedEvaImport host fenced package receipt directoryTransfer)

/-! ## Pay, seal and weigh -/

/-- The experience an event pays its actor. -/
def payExperience (w : WorldState) (event : CanonicalEvent) : Intent WorldState :=
  if event.payload.experienceReward = 0 then return w
  else do
    let actorPlayerId ← eventActor event
    let actor ← w.actor actorPlayerId
    return w.withPlayer actorPlayerId { actor with
      experience := saturatingAdd actor.experience event.payload.experienceReward }

/-- Whether a payload adds to its actor's career. -/
def entersCareer : EventPayload → Bool
  | .voxelMined .. | .oreRefined .. | .componentCrafted .. | .blockWelded _ _ _ _ _ true
  | .gridAnchorSet _ true _ => true
  | _ => false

/-- The entry such a payload adds, counted by plain addition. -/
def advanceCareer (payload : EventPayload) (career : CareerSnapshot) : Intent CareerSnapshot :=
  match payload with
  | .voxelMined .. => do
    let voxelsMined ← plainAdd career.voxelsMined 1
    return { career with voxelsMined }
  | .oreRefined _ batches => do
    let refiningBatches ← plainAdd career.refiningBatches batches
    return { career with refiningBatches }
  | .componentCrafted _ quantity => do
    let componentsCrafted ← plainAdd career.componentsCrafted quantity
    return { career with componentsCrafted }
  | .blockWelded .. => do
    let blocksBuilt ← plainAdd career.blocksBuilt 1
    return { career with blocksBuilt }
  | .gridAnchorSet .. => do
    let anchorsEngaged ← plainAdd career.anchorsEngaged 1
    return { career with anchorsEngaged }
  | _ => return career

def recordCareer (w : WorldState) (event : CanonicalEvent) : Intent WorldState :=
  if entersCareer event.payload then do
    let actorPlayerId ← eventActor event
    let actor ← w.actor actorPlayerId
    let career ← advanceCareer event.payload actor.career
    return w.withPlayer actorPlayerId { actor with career }
  else return w

/-- The event becomes the newest of the cell. -/
def sealEvent (w : WorldState) (event : CanonicalEvent) : WorldState :=
  { w with
    eventSequence := event.eventSequence
    fencingToken := event.authorityFencingToken
    lastEventHash := event.eventHash }

/-- The record an event leaves in its actor's history. -/
def operationRecord (cellId : String) (event : CanonicalEvent) (operationId : String)
    (operationSequence : Nat) (intentFingerprint : String) : ProcessedOperationRecord where
  operationId := operationId
  intentFingerprint := intentFingerprint
  receiptOriginCellId := cellId
  receipt := {
    operationSequence, operationId
    eventSequence := event.eventSequence
    code := event.payload.receipt.1
    message := event.payload.receipt.2 }

/-- A human event enters its actor's history. -/
def recordOperation (w : WorldState) (event : CanonicalEvent) : Intent WorldState :=
  match event.actorPlayerId, event.operationId, event.operationSequence,
      event.intentFingerprint with
  | some actorPlayerId, some operationId, some operationSequence, some intentFingerprint =>
    (w.recordProcessedOperation host actorPlayerId
      (operationRecord w.cellId event operationId operationSequence
        intentFingerprint)).mapError (.rejected "replay_operation_history_invalid")
  | _, _, _, _ => return w

/-- The checks before the payload is looked at. -/
def validateEnvelope (w : WorldState) (event : CanonicalEvent) : Intent Unit := do
  let human ← w.validateActorEnvelope event
  match human with
  | some envelope => w.validateOperation host event.payload envelope
  | none => pure ()
  w.validateTransferLocks event
  w.validatePayloadEnvelope event
  w.validateActorAlive event
  w.validateFence event

/-- Everything that changes the state, given that the envelope is in order. -/
def commitEvent (w : WorldState) (event : CanonicalEvent) : Intent WorldState := do
  let applied ← w.applyPayload host event
  let paid ← applied.payExperience event
  let credited ← paid.recordCareer event
  (credited.sealEvent event).recordOperation host event

/-- The world after an event balances. -/
def weigh (w : WorldState) (eventSequence : Nat) : Intent Unit := do
  let totals ← w.conservation
  rejectIf (totals.valid = false) (.conservationViolation eventSequence)

/-- `apply_event`. -/
def applyEvent (w : WorldState) (event : CanonicalEvent) : Intent WorldState := do
  w.validateHeader host event
  let payload ← (event.payload.hydrateSpatialPoses host w.cellAddress).mapError
    (.rejected "event_spatial_address_invalid")
  let hydrated := { event with payload }
  w.validateEnvelope host hydrated
  let next ← w.commitEvent host hydrated
  next.weigh event.eventSequence
  return next

end WorldState
end Verse
