import Verse.Engine.Apply

/-!
# Preparing a client event

`prepareClientEventAs` turns a request into the event that would answer it, or refuses. It
re-implements, for a request, the admission rules `applyEvent` has for an event; what an event
carries and a request does not (a yield, a reserved input, a new identity) it works out here.

An `EventStamp` is what the event takes from outside the cell: a fresh identifier and the time.
-/

namespace Verse

open Lib

variable (host : Host)

structure EventStamp where
  eventId : String
  occurredAtUnixMs : Nat

namespace WorldState

/-- `new_event`, hashed. -/
def newEvent (w : WorldState) (stamp : EventStamp) (human : Option HumanEnvelope)
    (payload : EventPayload) : Intent CanonicalEvent := do
  let eventSequence ← plainAdd w.eventSequence 1
  let unhashed : CanonicalEvent := {
    schemaName := eventSchemaName
    schemaVersion := eventSchemaVersion
    contentManifestVersion := w.contentManifestVersion
    universeManifestHash := w.universeManifestHash
    celestialRegistryHash := w.celestialRegistryHash
    eventId := stamp.eventId
    eventSequence
    occurredAtUnixMs := stamp.occurredAtUnixMs
    universeId := w.universeId
    cellId := w.cellId
    authorityFencingToken := max w.fencingToken 1
    actorPlayerId := human.map HumanEnvelope.actorPlayerId
    actorType := if human.isSome then "human" else "system"
    operationId := human.map HumanEnvelope.operationId
    operationSequence := human.map HumanEnvelope.operationSequence
    intentFingerprint := human.map HumanEnvelope.intentFingerprint
    previousEventHash := w.lastEventHash
    payload
    eventHash := "" }
  return { unhashed with eventHash := unhashed.calculateHash host }

/-- `retime_and_rehash`. -/
def retimed (event : CanonicalEvent) (occurredAtUnixMs : Nat) : CanonicalEvent :=
  let event := { event with occurredAtUnixMs }
  { event with eventHash := event.calculateHash host }

/-! ## Requests of the player -/

def prepareSetPlayerControl (w : WorldState) (actor : Player) (movementEpoch inputSequence : Nat)
    (linearInput angularInput : Vec3) (boost dampeners jump : Bool) : Intent EventPayload := do
  ensureBoundedControl host linearInput "character linear control"
  ensureBoundedControl host angularInput "character angular control"
  rejectIf (movementEpoch ≠ actor.movementEpoch)
    (.rejected "movement_epoch_stale" "character control does not match the current movement epoch")
  rejectIf (inputSequence ≤ actor.lastReceivedInputSequence)
    (.rejected "movement_input_out_of_order"
      "character control sequence must advance monotonically")
  rejectIf (actor.pendingControlFrames.length
      ≥ min Content.controlLeaseTicks Content.maxPendingPlayerControlFrames)
    (.rejected "movement_input_backpressure"
      "character control queue is full; wait for an authoritative physics acknowledgement")
  return .playerControlSet movementEpoch inputSequence linearInput angularInput boost dampeners
    jump (saturatingAdd w.simulationTick Content.controlLeaseTicks)

def prepareSetSuitMode (actor : Player) (helmetClosed jetpackEnabled magneticBootsEnabled : Bool) :
    Intent EventPayload := do
  rejectIf (actor.helmetClosed = helmetClosed ∧ actor.jetpackEnabled = jetpackEnabled
      ∧ actor.locomotion.magneticBootsEnabled = magneticBootsEnabled)
    (.rejected "suit_mode_no_change" "helmet and jetpack already match the requested state")
  return .suitModeChanged helmetClosed jetpackEnabled magneticBootsEnabled

def prepareMineVoxel (w : WorldState) (actor : Player) (coordinate : IVec3) :
    Intent EventPayload := do
  let material ← demand (w.voxels.material coordinate)
    (.rejected "voxel_missing" "target voxel is already empty")
  w.ensureVoxelToolTarget host actor coordinate "voxel_not_targeted"
    "the requested voxel is not the authenticated actor's closest visible tool target"
  let oreYield := Content.voxelOreYield material
  let inventory ← w.inventory actor.inventoryId
  rejectIf (inventory.canAdd .ore oreYield = false)
    (.rejected "inventory_capacity_exceeded" "the suit inventory has no volume for the mined ore")
  rejectIf (w.supportsAnchor host coordinate)
    (.rejected "voxel_supports_anchor"
      "release the anchored grid before mining its final voxel support")
  return .voxelMined coordinate material oreYield actor.inventoryId

/-! ## Requests for industry -/

/-- One endpoint of a requested job. -/
def prepareProductionEndpoint (w : WorldState) (actorPlayerId machineBlockId
    inventoryId : String) : Intent Unit := do
  w.ensureActorOwnsInventory actorPlayerId inventoryId
  rejectIf (w.cargoBlockForInventory inventoryId = none)
    (.rejected "production_cargo_required"
      "production source and destination must be completed cargo inventories")
  rejectIf (w.productionRouteExists machineBlockId inventoryId = false)
    (.rejected "production_route_missing"
      "the machine and both cargo endpoints require one completed same-grid conveyor route")

def prepareQueueProduction (w : WorldState) (actorPlayerId operationId machineBlockId : String)
    (recipe : ProductionRecipeKind) (batches : Nat)
    (sourceInventoryId destinationInventoryId : String) : Intent EventPayload := do
  let (grid, machine) ← demand (w.blockGrid machineBlockId)
    (.rejected "production_machine_missing" "the selected production machine does not exist")
  w.ensureActorOwnsGrid actorPlayerId grid.gridId
  rejectIf (machine.constructionComplete = false)
    (.rejected "production_machine_incomplete"
      "finish welding the selected production machine before queueing work")
  rejectIf (Content.machineSupportsRecipe machine.kind recipe = false)
    (.rejected "production_recipe_mismatch"
      "the selected recipe is not registered for this machine")
  rejectIf ((w.queueOf machineBlockId).length ≥ Content.queueLimitPerMachine)
    (.rejected "production_queue_full" "this machine already has the maximum 32 queued jobs")
  checkAll (w.prepareProductionEndpoint actorPlayerId machineBlockId)
    [sourceInventoryId, destinationInventoryId]
  let (reservedInputs, _, durationTicks) ← demand (productionRecipeQuantities recipe batches)
    (.rejected "production_quantity_invalid"
      "production batches must be positive and fit canonical bounds")
  let source ← w.inventory sourceInventoryId
  rejectIf (source.contents.ore < reservedInputs.ore
      ∨ source.contents.refinedMaterial < reservedInputs.refinedMaterial
      ∨ source.contents.components < reservedInputs.components)
    (.rejected "production_input_insufficient"
      "source cargo does not contain the recipe's registered input")
  let eventSequence ← plainAdd w.eventSequence 1
  return .productionQueued {
    jobId := s!"production-job-{eventSequence}"
    operationId
    ownerPlayerId := actorPlayerId
    machineBlockId, recipe
    contentManifestVersion := w.contentManifestVersion
    batches, sourceInventoryId, destinationInventoryId
    progressTicks := 0
    durationTicks, reservedInputs
    pendingOutputs := .empty
    queuedEventSequence := eventSequence }

def prepareTransferInventory (w : WorldState) (actorPlayerId sourceInventoryId
    destinationInventoryId : String) (resource : ResourceKind) (quantity : Nat) :
    Intent EventPayload := do
  rejectIf (sourceInventoryId = destinationInventoryId)
    (.rejected "same_inventory" "source and destination inventories must differ")
  rejectIf (quantity = 0)
    (.rejected "invalid_quantity" "transfer quantity must be positive")
  w.ensureActorOwnsInventory actorPlayerId sourceInventoryId
  w.ensureActorOwnsInventory actorPlayerId destinationInventoryId
  w.ensureInventoryFunctional sourceInventoryId
  w.ensureInventoryFunctional destinationInventoryId
  let source ← w.inventory sourceInventoryId
  let destination ← w.inventory destinationInventoryId
  rejectIf (source.contents.amount resource < quantity)
    (.rejected "insufficient_inventory" "source inventory does not contain the requested quantity")
  rejectIf (destination.canAdd resource quantity = false)
    (.rejected "inventory_capacity_exceeded" "destination inventory capacity would be exceeded")
  return .inventoryTransferred sourceInventoryId destinationInventoryId resource quantity

/-! ## Requests for construction -/

def prepareBuildBlock (w : WorldState) (actorPlayerId : String) (actor : Player)
    (gridId : String) (coordinate : IVec3) (kind : BlockKind) (orientation : Nat) :
    Intent EventPayload := do
  w.ensureActorOwnsGrid actorPlayerId gridId
  let grid ← w.grid gridId
  rejectIf (orientation > 3)
    (.rejected "invalid_block_orientation"
      "block orientation must be a quarter turn from 0 through 3")
  rejectIf (grid.blocks.size ≥ Content.maxGridBlocks)
    (.rejected "p0_grid_budget_reached" "this proof build limits one active grid to 2048 blocks")
  rejectIf (grid.blockAt coordinate ≠ none)
    (.rejected "block_position_occupied" "another block already occupies that grid coordinate")
  rejectIf (grid.blocks ≠ OrdMap.empty
      ∧ ¬ ∃ block ∈ grid.blocks.values, block.coordinate.manhattanDistance coordinate = 1)
    (.rejected "block_not_connected" "new blocks must share a face with the target grid")
  w.ensureBuildToolTarget host actor gridId coordinate "build_face_not_targeted"
    "the requested frame is not on the exact visible face targeted by the authenticated actor"
  rejectIf (w.playerIntersectsGridCoordinate host grid coordinate)
    (.rejected "block_intersects_player"
      "a block frame cannot be created around the living player collider")
  let playerInventory ← w.inventory actor.inventoryId
  let componentCost := (Content.block kind).componentCost
  rejectIf (playerInventory.contents.components < componentCost)
    (.rejected "insufficient_components" s!"building requires {componentCost} component(s)")
  let eventSequence ← plainAdd w.eventSequence 1
  let blockId := s!"block-{eventSequence}"
  let block := Block.new blockId coordinate kind
  return .blockBuilt gridId actor.inventoryId { block with
    orientation
    health := divCeil block.maxHealth 4
    constructionComplete := false
    inventoryId := if kind = .cargo then some s!"inventory-{blockId}" else none }

def prepareWeldBlock (w : WorldState) (actorPlayerId : String) (actor : Player)
    (gridId blockId : String) : Intent EventPayload := do
  w.ensureActorOwnsGrid actorPlayerId gridId
  let grid ← w.grid gridId
  let block ← demand (grid.blocks.get? blockId)
    (.rejected "block_missing" "weld target does not exist")
  w.ensureBlockToolTarget host actor gridId blockId "block_not_targeted"
    "the requested weld block is not the authenticated actor's closest visible tool target"
  rejectIf (block.health ≥ block.maxHealth)
    (.rejected "block_already_complete" "the targeted block is already at full integrity")
  let newHealth := min (block.health + divCeil block.maxHealth 4) block.maxHealth
  return .blockWelded gridId blockId block.health newHealth block.maxHealth
    (!block.constructionComplete && decide (newHealth = block.maxHealth))

def prepareSetGridControl (w : WorldState) (actorPlayerId gridId : String)
    (linearInput angularInput : Vec3) (dampeners : Bool) : Intent EventPayload := do
  ensureFinite linearInput "grid linear control"
  ensureFinite angularInput "grid angular control"
  w.ensureActorOwnsGrid actorPlayerId gridId
  let grid ← w.grid gridId
  rejectIf (grid.anchored)
    (.rejected "grid_is_anchored" "release the grid anchor before applying motion")
  rejectIf (host.powerOnline grid = false)
    (.rejected "grid_unpowered" "the control grid requires power")
  rejectIf (host.gridControlBounded linearInput = false
      ∨ host.gridControlBounded angularInput = false)
    (.rejected "control_limit_exceeded" "requested grid controls must be normalized")
  return .gridControlSet gridId linearInput angularInput dampeners

def prepareToggleGridAnchor (w : WorldState) (actorPlayerId gridId : String) :
    Intent EventPayload := do
  w.ensureActorOwnsGrid actorPlayerId gridId
  let grid ← w.grid gridId
  let anchored := !grid.anchored
  rejectIf (anchored ∧ host.powerOnline grid = false)
    (.rejected "grid_unpowered" "anchoring requires an online power network")
  rejectIf (anchored ∧ grid.anchorTouches host w.voxels = false)
    (.rejected "anchor_not_touching_voxel" "an anchor block must touch asteroid voxels")
  return .gridAnchorSet gridId anchored (anchored && grid.anchorRewardEligible)

def prepareDamageBlock (w : WorldState) (actor : Player) (gridId blockId : String) :
    Intent EventPayload := do
  let grid ← w.grid gridId
  let _ ← demand (grid.blocks.get? blockId)
    (.rejected "block_missing" "target block does not exist on the grid")
  w.ensureBlockToolTarget host actor gridId blockId "block_not_targeted"
    "the requested damage block is not the authenticated actor's closest visible tool target"
  return .blockDamaged gridId blockId Content.handToolDamage

/-! ## The message -/

/-- The payload that answers a message. Refining and crafting by hand have been refused; the
    branches the source keeps for them are never reached. -/
def prepareClientPayload (w : WorldState) (actorPlayerId : String) (actor : Player) :
    ClientMessage → Intent EventPayload
  | .hello | .requestSnapshot | .acknowledgeInterest =>
    .error (.rejected "not_a_mutating_intent" "message is handled by the network service")
  | .setPlayerControl _ _ movementEpoch inputSequence linearInput angularInput boost dampeners
      jump =>
    w.prepareSetPlayerControl host actor movementEpoch inputSequence linearInput angularInput
      boost dampeners jump
  | .setSuitMode _ _ helmetClosed jetpackEnabled magneticBootsEnabled =>
    prepareSetSuitMode actor helmetClosed jetpackEnabled magneticBootsEnabled
  | .respawnPlayer _ _ => w.playerRespawnPayload host actorPlayerId
  | .mineVoxel _ _ coordinate => w.prepareMineVoxel host actor coordinate
  | .refineOre .. | .craftComponent .. =>
    .error (.panicked "direct refining and crafting are refused before this")
  | .queueProduction _ operationId machineBlockId recipe batches sourceInventoryId
      destinationInventoryId =>
    w.prepareQueueProduction actorPlayerId operationId machineBlockId recipe batches
      sourceInventoryId destinationInventoryId
  | .transferInventory _ _ sourceInventoryId destinationInventoryId resource quantity =>
    w.prepareTransferInventory actorPlayerId sourceInventoryId destinationInventoryId resource
      quantity
  | .buildBlock _ _ gridId coordinate kind orientation =>
    w.prepareBuildBlock host actorPlayerId actor gridId coordinate kind orientation
  | .weldBlock _ _ gridId blockId => w.prepareWeldBlock host actorPlayerId actor gridId blockId
  | .setGridControl _ _ gridId linearInput angularInput dampeners =>
    w.prepareSetGridControl host actorPlayerId gridId linearInput angularInput dampeners
  | .toggleGridAnchor _ _ gridId => w.prepareToggleGridAnchor host actorPlayerId gridId
  | .damageBlock _ _ gridId blockId => w.prepareDamageBlock host actor gridId blockId

def isRespawnRequest : ClientMessage → Bool
  | .respawnPlayer .. => true
  | _ => false

def isHandIndustry : ClientMessage → Bool
  | .refineOre .. | .craftComponent .. => true
  | _ => false

/-- `prepare_client_event_as`. -/
def prepareClientEventAs (w : WorldState) (stamp : EventStamp) (actorPlayerId : String)
    (message : ClientMessage) : Intent CanonicalEvent := do
  let actor ← demand (w.player.byId.get? actorPlayerId)
    (.rejected "actor_not_present"
      "the authenticated player is not present in this simulation cell")
  rejectIf (w.playerTransferLocks.contains actorPlayerId)
    (.rejected "actor_transfer_locked" "the player is in an authoritative cross-cell handoff")
  let (operationSequence, operationId) ← demand message.operation
    (.rejected "not_a_mutating_intent" "message has no operation ID")
  rejectIf (isBlank operationId ∨ operationId.utf8ByteSize > 128)
    (.rejected "invalid_operation_id" "operation ID must contain between 1 and 128 characters")
  let intentFingerprint ← w.clientIntentFingerprint host actorPlayerId message
  let committed ← w.validateOperationAttempt actorPlayerId operationSequence intentFingerprint
  rejectIf (committed ≠ none)
    (.rejected "operation_already_committed"
      "the retained operation has already committed; execute through the runtime to recover its receipt")
  rejectIf (actor.lifeState ≠ .alive ∧ isRespawnRequest message = false)
    (.rejected "player_incapacitated"
      "life support has failed; request recovery before performing work")
  rejectIf (isHandIndustry message)
    (.rejected "physical_machine_required"
      "protocol 15 production must be queued on a connected physical machine")
  let payload ← w.prepareClientPayload host actorPlayerId actor message
  w.newEvent host stamp
    (some { actorPlayerId, operationId, operationSequence, intentFingerprint }) payload

end WorldState
end Verse
