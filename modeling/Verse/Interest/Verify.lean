import Verse.Interest.Binding

/-!
# What the client checks of a frame

The client trusts nothing a frame says. It checks the frame against what it is bound to, every
entity against its own kind, the private part against the public one, and recomputes the hash
of the complete view the frame leaves; what a frame may say about its place in the stream is
checked against the view that was committed before it.
-/

namespace Verse.Interest

open Lib
open Directory (CellKeyV1)

/-! ## Headers -/

def validateWelcome (config : VerifierConfig) (message : WelcomeMessage) : Verdict Unit :=
  rejectIf (¬ (message.protocolVersion = protocolVersion ∧
      message.projectionSchemaVersion = projectionSchemaVersion ∧
      message.worldSchemaVersion = config.worldSchemaVersion ∧
      message.eventSchemaVersion = config.eventSchemaVersion ∧
      message.contentSchemaVersion = config.contentSchemaVersion ∧
      message.celestialRegistrySchemaVersion = celestialRegistrySchemaVersion ∧
      message.universeManifestSchemaVersion = universeManifestSchemaVersion ∧
      message.interestSchemaVersion = interestSchemaVersion ∧
      message.sessionRole = config.expectedRole ∧
      message.contentManifestVersion = config.contentManifestVersion))
    ⟨.incompatibleWelcome, "welcome protocol, schema, manifest, or role is incompatible"⟩

def validateCellBodyBindings (binding : ValidatedRegistry) (gravityBodyId voxelBodyId label : String) :
    Verdict Unit :=
  match gravityBodyId.isEmpty, voxelBodyId.isEmpty with
  | true, true => .ok ()
  | false, false => do
    binding.requireBody gravityBodyId s!"{label} gravity_body_id"
    binding.requireBody voxelBodyId s!"{label} voxel_body_id"
  | _, _ => .error ⟨.bindingMismatch,
      s!"{label} gravity and voxel body bindings must both be present or both absent"⟩

/-- The part of the outer header that baselines and deltas share. -/
structure OuterHeader where
  (projectionSchemaVersion schemaVersion : Nat)
  (contentManifestVersion universeId universeManifestHash celestialRegistryHash : String)
  cellAddress : UniverseAddress
  (gravityBodyId voxelBodyId : String)

/-- `validate_outer_baseline` and `validate_outer_delta`, up to the environment. -/
def validateOuter (welcome : WelcomeBinding) (binding : ValidatedRegistry) (outer : OuterHeader)
    (label : String) : Verdict Unit := do
  rejectIf (¬ (outer.projectionSchemaVersion = projectionSchemaVersion ∧
      outer.schemaVersion = welcome.worldSchemaVersion ∧
      outer.contentManifestVersion = welcome.contentManifestVersion ∧
      outer.universeId = binding.universeId ∧
      outer.universeManifestHash = binding.universeManifestHash ∧
      outer.celestialRegistryHash = binding.registryHash ∧
      outer.cellAddress.universeId = binding.universeId))
    ⟨.bindingMismatch, s!"{label} outer header disagrees with the established binding"⟩
  binding.validateAddress outer.cellAddress s!"{label} cell address"
  validateCellBodyBindings binding outer.gravityBodyId outer.voxelBodyId label

def ProjectedWorldSnapshot.outer (baseline : ProjectedWorldSnapshot) : OuterHeader where
  projectionSchemaVersion := baseline.projectionSchemaVersion
  schemaVersion := baseline.schemaVersion
  contentManifestVersion := baseline.contentManifestVersion
  universeId := baseline.universeId
  universeManifestHash := baseline.universeManifestHash
  celestialRegistryHash := baseline.celestialRegistryHash
  cellAddress := baseline.cellAddress
  gravityBodyId := baseline.gravityBodyId
  voxelBodyId := baseline.voxelBodyId

def ProjectedInterestDelta.outer (delta : ProjectedInterestDelta) : OuterHeader where
  projectionSchemaVersion := delta.projectionSchemaVersion
  schemaVersion := delta.schemaVersion
  contentManifestVersion := delta.contentManifestVersion
  universeId := delta.universeId
  universeManifestHash := delta.universeManifestHash
  celestialRegistryHash := delta.celestialRegistryHash
  cellAddress := delta.cellAddress
  gravityBodyId := delta.gravityBodyId
  voxelBodyId := delta.voxelBodyId

def validateOuterBaseline (welcome : WelcomeBinding) (binding : ValidatedRegistry)
    (baseline : ProjectedWorldSnapshot) : Verdict Unit := do
  validateOuter welcome binding baseline.outer "baseline"
  binding.validateEnvironment baseline.environment "baseline environment"

def validateOuterDelta (welcome : WelcomeBinding) (binding : ValidatedRegistry)
    (delta : ProjectedInterestDelta) : Verdict Unit := do
  validateOuter welcome binding delta.outer "delta"
  whenSome delta.environment fun environment =>
    binding.validateEnvironment environment "delta environment"

def validateInterestHeader (interest : InterestSnapshot) (kind : InterestFrameKind)
    (binding : ValidatedRegistry) : Verdict Unit := do
  rejectIf (¬ (interest.schemaVersion = interestSchemaVersion ∧
      interest.frameKind = kind ∧
      interest.registryHash = binding.registryHash ∧
      interest.universeManifestHash = binding.universeManifestHash ∧
      interest.cellAddress.universeId = binding.universeId ∧
      interest.localOriginAddress.universeId = binding.universeId))
    ⟨.bindingMismatch, "interest header disagrees with frame kind or established binding"⟩
  binding.validateAddress interest.cellAddress "interest cell address"
  binding.validateAddress interest.localOriginAddress "interest local-origin address"

def repeatedBaselineHeaders (baseline : ProjectedWorldSnapshot) : Verdict Unit :=
  rejectIf (baseline.cellAddress ≠ baseline.interest.cellAddress ∨
      baseline.eventSequence ≠ baseline.interest.canonicalEventSequence ∨
      baseline.simulationTick ≠ baseline.interest.canonicalTick ∨
      baseline.worldHash ≠ baseline.interest.canonicalWorldHash)
    ⟨.bindingMismatch, "baseline outer and interest headers disagree"⟩

def repeatedDeltaHeaders (delta : ProjectedInterestDelta) : Verdict Unit :=
  rejectIf (delta.cellAddress ≠ delta.interest.cellAddress ∨
      delta.eventSequence ≠ delta.interest.canonicalEventSequence ∨
      delta.simulationTick ≠ delta.interest.canonicalTick ∨
      delta.worldHash ≠ delta.interest.canonicalWorldHash)
    ⟨.bindingMismatch, "delta outer and interest headers disagree"⟩

def validateRole (welcome : WelcomeBinding) (observer : InterestObserverClass)
    (actorPrivate : Option ActorPrivateSnapshot) (motion : Option PlayerMotionSnapshot) :
    Verdict Unit :=
  match welcome.role with
  | .spectator =>
    rejectIf (observer ≠ .publicOriginSpectator ∨ actorPrivate.isSome ∨ motion.isSome)
      ⟨.bindingMismatch, "spectator observer or private state is invalid"⟩
  | .player playerId =>
    rejectIf (observer ≠ .boundPlayer ∨
        (actorPrivate.any fun value => value.player.playerId != playerId) ∨
        (motion.any fun value => value.playerId != playerId))
      ⟨.bindingMismatch, "bound player observer or private identity is invalid"⟩

/-! ## Transfers -/

/-- The address of a cell's own centre. -/
def cellAddressOfKey (key : CellKeyV1) : UniverseAddress where
  universeId := key.universeId
  sectorX := key.sectorX
  sectorY := key.sectorY
  sectorZ := key.sectorZ
  cellX := key.cellX
  cellY := key.cellY
  cellZ := key.cellZ
  localUm := (0, 0, 0)

variable (hashing : Hashing)

def validateTransferLink (link : Option InterestTransferLink) (destinationCellId : String)
    (destinationCellAddress : UniverseAddress) (role : SessionRole)
    (binding : ValidatedRegistry) : Verdict Unit :=
  match link with
  | none => .ok ()
  | some link => do
    rejectIf (role = .spectator ∨ validStableId link.transferId = false ∨
        link.placementGeneration = 0 ∨
        link.destinationCellKey.schemaVersion ≠ cellKeySchemaVersion)
      ⟨.invalidBaseline, "transfer link role, identity, schema, or placement generation is invalid"⟩
    let address := cellAddressOfKey link.destinationCellKey
    binding.validateAddress address "transfer destination cell key"
    rejectIf (address ≠ destinationCellAddress)
      ⟨.bindingMismatch, "transfer link does not name the baseline destination cell address"⟩
    rejectIf (hashing.cellIdForKey link.destinationCellKey ≠ destinationCellId)
      ⟨.bindingMismatch, "transfer link does not name the baseline destination cell identity"⟩

def validateHandoffMaterial (status : HandoffStatus) (binding : ValidatedRegistry) :
    Verdict Unit := do
  rejectIf (validStableId status.transferId = false ∨ status.placementGeneration = 0 ∨
      status.destinationCellKey.schemaVersion ≠ cellKeySchemaVersion)
    ⟨.bindingMismatch, "handoff identity, cell-key schema, or placement generation is invalid"⟩
  binding.validateAddress (cellAddressOfKey status.destinationCellKey)
    "handoff destination cell key"

def validateInitialHandoff (status : HandoffStatus) (source : ViewState)
    (binding : ValidatedRegistry) : Verdict Unit := do
  rejectIf (status.phase ≠ .preparing)
    ⟨.unexpectedMessage, "the first handoff status must be preparing"⟩
  validateHandoffMaterial status binding
  rejectIf (hashing.cellIdForKey status.destinationCellKey = source.cellId)
    ⟨.bindingMismatch, "handoff destination must differ from the committed source cell"⟩

/-- The phases a status may be followed by. -/
def HandoffPhase.continues : HandoffPhase → HandoffPhase → Bool
  | .preparing, .importing => true
  | .importing, .verifyingDestination => true
  | current, candidate => current == candidate

def validateHandoffProgress (current : HandoffBinding) (candidate : HandoffStatus) :
    Verdict Unit :=
  rejectIf (¬ (candidate.transferId = current.status.transferId ∧
      candidate.destinationCellKey = current.status.destinationCellKey ∧
      candidate.placementGeneration = current.status.placementGeneration ∧
      current.status.phase.continues candidate.phase = true))
    ⟨.frontierMismatch, "handoff identity changed or phase did not advance monotonically"⟩

def validateDestinationBaseline (handoff : HandoffBinding) (candidate : ViewState) :
    Verdict Unit := do
  let link ← demand candidate.transferLink
    ⟨.invalidBaseline, "handoff completion requires a transfer-linked destination baseline"⟩
  let expectedInterestEpoch ← demand (checkedAdd handoff.priorInterestEpoch 1)
    ⟨.frontierMismatch, "interest epoch overflow"⟩
  rejectIf (¬ (handoff.status.phase = .verifyingDestination ∧
      link.transferId = handoff.status.transferId ∧
      link.destinationCellKey = handoff.status.destinationCellKey ∧
      link.placementGeneration = handoff.status.placementGeneration ∧
      candidate.sessionEpoch = handoff.sessionEpoch ∧
      candidate.interestEpoch = expectedInterestEpoch))
    ⟨.frontierMismatch, "destination baseline does not complete the committed handoff frontier"⟩

/-! ## Frontiers -/

def validateDeltaFrontier (current : ViewState) (interest : InterestSnapshot) :
    Verdict Unit := do
  let next ← demand (checkedAdd current.deltaSequence 1)
    ⟨.frontierMismatch, "delta sequence overflow"⟩
  rejectIf (¬ (interest.sessionEpoch = current.sessionEpoch ∧
      interest.interestEpoch = current.interestEpoch ∧
      interest.baselineId = current.baselineId ∧
      interest.deltaSequence = next ∧
      interest.previousViewHash = some current.viewHash ∧
      interest.observerClass = current.observerClass ∧
      interest.cellAddress = current.cellAddress ∧
      current.canonicalEventSequence ≤ interest.canonicalEventSequence ∧
      current.canonicalTick ≤ interest.canonicalTick))
    ⟨.frontierMismatch, "delta frontier does not extend the committed view"⟩

def validateRecoveryBaseline (current candidate : ViewState) : Verdict Unit :=
  rejectIf (¬ (candidate.sessionEpoch = current.sessionEpoch ∧
      candidate.observerClass = current.observerClass ∧
      current.interestEpoch < candidate.interestEpoch ∧
      candidate.baselineId ≠ current.baselineId ∧
      current.canonicalEventSequence ≤ candidate.canonicalEventSequence ∧
      current.canonicalTick ≤ candidate.canonicalTick))
    ⟨.frontierMismatch,
      "recovery baseline must advance the epoch with a new baseline ID in the same session"⟩

/-! ## Entities -/

abbrev EntityKey : Type := String ×ₗ InterestEntityKind

instance : LawfulBEq EntityKey := inferInstance

def entityKey (entity : InterestEntityProjection) : EntityKey :=
  toLex (entity.entityId, entity.kind)

def removalKey (removal : InterestRemoval) : EntityKey := toLex (removal.entityId, removal.kind)

/-- No neighbours are out of order or equal. -/
def strictlySorted {α κ : Type} [LinearOrder κ] (key : α → κ) : List α → Bool
  | [] => true
  | [_] => true
  | a :: b :: rest => decide (key a < key b) && strictlySorted key (b :: rest)

def ensureStrictlySorted {α κ : Type} [LinearOrder κ] (values : List α) (key : α → κ)
    (label : String) : Verdict Unit :=
  rejectIf (strictlySorted key values = false)
    ⟨.nonCanonicalOrder, s!"{label} is not strictly canonical"⟩

def validateGrid (grid : PublicGridSnapshot) (limits : ResourceLimits)
    (binding : ValidatedRegistry) : Verdict Unit := do
  binding.validateAddress grid.address "public grid address"
  rejectIf (limits.maxBlocksPerGrid < grid.blocks.length)
    ⟨.resourceLimit, "grid blocks exceed max_blocks_per_grid"⟩
  ensureStrictlySorted grid.blocks (fun block => block.blockId) "grid blocks"

def validateVoxelChunk (chunk : PublicVoxelChunkSnapshot) (limits : ResourceLimits)
    (binding : ValidatedRegistry) : Verdict Unit := do
  binding.requireBody chunk.bodyId "voxel chunk body_id"
  rejectIf (limits.maxVoxelsPerChunk < chunk.voxels.length)
    ⟨.resourceLimit, "voxel chunk exceeds max_voxels_per_chunk"⟩
  ensureStrictlySorted chunk.voxels (fun voxel => voxel.coordinate) "voxel coordinates"

/-- One round of the loop of `validate_entity_vector`. -/
def validateEntity (limits : ResourceLimits) (binding : ValidatedRegistry)
    (entity : InterestEntityProjection) : Verdict Unit := do
  rejectIf (entity.componentSchemaVersion ≠ projectionSchemaVersion)
    ⟨.invalidEntity, "entity component schema version does not match the projection schema"⟩
  let disagree : VerifyError :=
    ⟨.invalidEntity, "entity kind, payload variant, and payload identity disagree"⟩
  match entity.kind, entity.payload with
  | .player, .player value => do
    rejectIf (entity.entityId ≠ value.playerId) disagree
    binding.validateAddress value.address "public player address"
  | .grid, .grid value => do
    rejectIf (entity.entityId ≠ value.gridId) disagree
    validateGrid value limits binding
  | .voxelChunk, .voxelChunk value => do
    rejectIf (entity.entityId ≠ value.chunkId) disagree
    validateVoxelChunk value limits binding
  | .deathDrop, .deathDrop value => do
    rejectIf (entity.entityId ≠ value.dropId) disagree
    binding.validateAddress value.address "public death-drop address"
  | _, _ => .error disagree

def validateEntityVector (entities : List InterestEntityProjection) (limits : ResourceLimits)
    (binding : ValidatedRegistry) : Verdict Unit := do
  rejectIf (limits.maxEntities < entities.length)
    ⟨.resourceLimit, "entity vector exceeds max_entities"⟩
  ensureStrictlySorted entities entityKey "entity vector"
  checkAll (validateEntity limits binding) entities

def validateRemovals (removals : List InterestRemoval) (limits : ResourceLimits) :
    Verdict Unit := do
  rejectIf (limits.maxEntities < removals.length)
    ⟨.resourceLimit, "removal vector exceeds max_entities"⟩
  ensureStrictlySorted removals removalKey "removal vector"

def validateDisjointOperations (interest : InterestSnapshot) (limits : ResourceLimits) :
    Verdict Unit := do
  rejectIf (limits.maxEntities <
      interest.entered.length + interest.replaced.length + interest.removed.length)
    ⟨.resourceLimit, "combined delta operations exceed max_entities"⟩
  rejectIf (¬ (interest.entered.map entityKey ++ interest.replaced.map entityKey ++
      interest.removed.map removalKey).Nodup)
    ⟨.invalidDelta, "one delta mentions an identity in more than one operation"⟩

def InterestEntityProjection.player? (entity : InterestEntityProjection) :
    Option PublicPlayerSnapshot :=
  match entity.payload with
  | .player value => some value
  | _ => none

def InterestEntityProjection.grid? (entity : InterestEntityProjection) :
    Option PublicGridSnapshot :=
  match entity.payload with
  | .grid value => some value
  | _ => none

def InterestEntityProjection.voxelChunk? (entity : InterestEntityProjection) :
    Option PublicVoxelChunkSnapshot :=
  match entity.payload with
  | .voxelChunk value => some value
  | _ => none

def InterestEntityProjection.deathDrop? (entity : InterestEntityProjection) :
    Option PublicDeathDropSnapshot :=
  match entity.payload with
  | .deathDrop value => some value
  | _ => none

def validateBaselinePayloadArrays (baseline : ProjectedWorldSnapshot)
    (entities : List InterestEntityProjection) : Verdict Unit :=
  rejectIf (baseline.players ≠ entities.filterMap (·.player?) ∨
      baseline.grids ≠ entities.filterMap (·.grid?) ∨
      baseline.voxelChunks ≠ entities.filterMap (·.voxelChunk?) ∨
      baseline.deathDrops ≠ entities.filterMap (·.deathDrop?))
    ⟨.invalidBaseline, "baseline public arrays are not the exact complete interest payload set"⟩

/-! ## The private part -/

def validateActorPrivate (actor : ActorPrivateSnapshot) (limits : ResourceLimits)
    (binding : ValidatedRegistry) : Verdict Unit := do
  binding.validateAddress actor.player.address "private player address"
  whenSome actor.player.environment fun environment =>
    binding.validateEnvironment environment "private player environment"
  checkAll (fun drop => binding.validateAddress drop.address "private death-drop address")
    actor.deathDrops
  let count := actor.inventories.length + actor.deathDrops.length +
    actor.ownedGridMasses.length + actor.productionQueues.length +
    (actor.productionQueues.map fun queue => queue.jobs.length).sum
  rejectIf (limits.maxPrivateRecords < count)
    ⟨.resourceLimit, "actor-private collections exceed max_private_records"⟩
  ensureStrictlySorted actor.inventories (fun value => value.inventoryId) "private inventories"
  ensureStrictlySorted actor.deathDrops (fun value => value.dropId) "private death drops"
  ensureStrictlySorted actor.ownedGridMasses (fun value => value.gridId) "owned grid masses"
  ensureStrictlySorted actor.productionQueues (fun value => value.machineBlockId)
    "production queues"

def validatePrivateMotion (motion : PlayerMotionSnapshot) (binding : ValidatedRegistry) :
    Verdict Unit := do
  binding.validateAddress motion.address "private player motion address"
  whenSome motion.environment fun environment =>
    binding.validateEnvironment environment "private player motion environment"

def applyPrivateMotion (actor : ActorPrivateSnapshot) (motion : PlayerMotionSnapshot) :
    ActorPrivateSnapshot :=
  { actor with player :=
      { actor.player with
        address := motion.address
        orientation := motion.orientation
        linearVelocity := motion.linearVelocity
        angularVelocity := motion.angularVelocity
        surfaceContact := motion.surfaceContact
        locomotion := motion.locomotion
        movementEpoch := motion.movementEpoch
        lastReceivedInputSequence := motion.lastReceivedInputSequence
        lastProcessedInputSequence := motion.lastProcessedInputSequence
        controlLinearInput := motion.controlLinearInput
        controlAngularInput := motion.controlAngularInput
        boost := motion.boost
        dampeners := motion.dampeners
        jump := motion.jump
        controlExpiresAtSimulationTick := motion.controlExpiresAtSimulationTick
        jetpackEnabled := motion.jetpackEnabled
        lifeState := motion.lifeState
        environment := motion.environment } }

def invalidPrivateLinkage (detail : String) : VerifyError := ⟨.invalidPrivateLinkage, detail⟩

structure PublicBlockLink where
  grid : PublicGridSnapshot
  block : PublicBlockSnapshot

/-- `PublicLinkIndex`: an entity that comes later in the vector replaces an earlier one of the
    same identity, and a block keeps every grid that names it. -/
structure PublicLinkIndex where
  players : OrdMap String PublicPlayerSnapshot
  grids : OrdMap String PublicGridSnapshot
  drops : OrdMap String PublicDeathDropSnapshot
  blocks : List PublicBlockLink

def buildPublicLinkIndex (entities : List InterestEntityProjection) : PublicLinkIndex where
  players := OrdMap.ofList ((entities.filterMap (·.player?)).map fun p => (p.playerId, p))
  grids := OrdMap.ofList ((entities.filterMap (·.grid?)).map fun g => (g.gridId, g))
  drops := OrdMap.ofList ((entities.filterMap (·.deathDrop?)).map fun d => (d.dropId, d))
  blocks := (entities.filterMap (·.grid?)).flatMap fun grid =>
    grid.blocks.map fun block => ⟨grid, block⟩

def requireUniquePublicBlock (index : PublicLinkIndex) (blockId label : String) :
    Verdict PublicBlockLink :=
  match index.blocks.filter fun link => link.block.blockId == blockId with
  | [] => .error (invalidPrivateLinkage s!"{label} block is absent from the public view")
  | [link] => .ok link
  | _ => .error (invalidPrivateLinkage s!"{label} block identity is ambiguous in the public view")

/-- The loop over the private inventories: `earlier` are those already seen. -/
def validateInventoryLink (index : PublicLinkIndex) (actor : ActorPrivateSnapshot)
    (actorId : String) (earlier : List InventorySnapshot) (inventory : InventorySnapshot) :
    Verdict Unit :=
  match inventory.domain with
  | .player playerId =>
    rejectIf (playerId ≠ actorId ∨ inventory.inventoryId ≠ actor.player.inventoryId)
      (invalidPrivateLinkage
        "carried inventory identity or player domain differs from the bound actor")
  | .cargo blockId => do
    rejectIf (earlier.any fun other => other.domain == .cargo blockId)
      (invalidPrivateLinkage "more than one private inventory names the same cargo block")
    let link ← requireUniquePublicBlock index blockId "cargo inventory"
    rejectIf (link.grid.ownerPlayerId ≠ actorId ∨ link.block.kind ≠ .cargo)
      (invalidPrivateLinkage
        "cargo inventory does not resolve to one visible actor-owned cargo block")
  | .dropped _ ownerPlayerId =>
    rejectIf (ownerPlayerId ≠ actorId)
      (invalidPrivateLinkage "dropped inventory owner differs from the bound actor")

def InventorySnapshot.isCarried (inventory : InventorySnapshot) : Bool :=
  match inventory.domain with
  | .player _ => true
  | _ => false

def InventorySnapshot.isDropped (inventory : InventorySnapshot) : Bool :=
  match inventory.domain with
  | .dropped _ _ => true
  | _ => false

/-- The loop over the private death drops. -/
def validateDropLink (index : PublicLinkIndex) (inventories : OrdMap String InventorySnapshot)
    (actorId : String) (earlier : List DeathDropSnapshot) (drop : DeathDropSnapshot) :
    Verdict Unit := do
  rejectIf (drop.ownerPlayerId ≠ actorId)
    (invalidPrivateLinkage "private death-drop owner differs from the bound actor")
  let publicDrop ← demand (index.drops.get? drop.dropId)
    (invalidPrivateLinkage "private death drop has no visible public death drop")
  rejectIf (publicDrop.address ≠ drop.address)
    (invalidPrivateLinkage "public and private death-drop addresses disagree")
  let inventory ← demand (inventories.get? drop.inventoryId)
    (invalidPrivateLinkage "private death drop inventory is absent")
  rejectIf (inventory.domain.droppedOwner ≠ some actorId)
    (invalidPrivateLinkage
      "private death drop does not resolve to an actor-owned dropped inventory")
  rejectIf (earlier.any fun other => other.inventoryId == drop.inventoryId)
    (invalidPrivateLinkage "more than one private death drop names the same inventory")

/-- The loop over the owned grid masses. -/
def validateMassLink (index : PublicLinkIndex) (actorId : String) (mass : OwnedGridMassSnapshot) :
    Verdict Unit := do
  let grid ← demand (index.grids.get? mass.gridId)
    (invalidPrivateLinkage "private grid mass has no visible public grid")
  rejectIf (grid.ownerPlayerId ≠ actorId)
    (invalidPrivateLinkage "private grid mass resolves to a grid owned by another actor")

/-- The loop over the jobs of one queue. -/
def validateJobLink (machine : PublicBlockLink) (queue : ProductionQueueSnapshot)
    (inventories : OrdMap String InventorySnapshot) (actorId : String)
    (earlier : List ProductionJobSnapshot) (job : ProductionJobSnapshot) : Verdict Unit := do
  rejectIf ((earlier.any fun other => other.jobId == job.jobId) ∨ job.ownerPlayerId ≠ actorId ∨
      job.machineBlockId ≠ queue.machineBlockId)
    (invalidPrivateLinkage "production job identity, owner, or machine differs from its queue")
  rejectIf (¬ ((job.recipe = .refining ∧ machine.block.kind = .refinery) ∨
      (job.recipe = .component ∧ machine.block.kind = .assembler)))
    (invalidPrivateLinkage "production job recipe does not match its visible machine")
  rejectIf (inventories.contains job.sourceInventoryId = false ∨
      inventories.contains job.destinationInventoryId = false)
    (invalidPrivateLinkage "production job endpoint inventory is absent from actor-private state")

/-- The loop over the production queues. -/
def validateQueueLink (index : PublicLinkIndex) (inventories : OrdMap String InventorySnapshot)
    (actorId : String) (queue : ProductionQueueSnapshot) : Verdict Unit := do
  let machine ← requireUniquePublicBlock index queue.machineBlockId "production queue"
  rejectIf (machine.grid.ownerPlayerId ≠ actorId ∨
      ¬ (machine.block.kind = .refinery ∨ machine.block.kind = .assembler))
    (invalidPrivateLinkage "production queue does not resolve to one visible actor-owned machine")
  checkEach (validateJobLink machine queue inventories actorId) [] queue.jobs

def validateActorLinkage (actorId : String) (actor : ActorPrivateSnapshot)
    (entities : List InterestEntityProjection) : Verdict Unit := do
  rejectIf (actor.player.playerId ≠ actorId)
    (invalidPrivateLinkage "private player identity differs from the bound actor")
  let index := buildPublicLinkIndex entities
  let publicPlayer ← demand (index.players.get? actorId)
    (invalidPrivateLinkage "bound private player has no visible public player")
  rejectIf (publicPlayer.address ≠ actor.player.address)
    (invalidPrivateLinkage "bound public and private player addresses disagree")
  let inventories := OrdMap.ofList (actor.inventories.map fun i => (i.inventoryId, i))
  checkEach (validateInventoryLink index actor actorId) [] actor.inventories
  rejectIf ((actor.inventories.filter (·.isCarried)).length ≠ 1 ∨
      inventories.contains actor.player.inventoryId = false)
    (invalidPrivateLinkage "private player must resolve exactly one carried player inventory")
  checkEach (validateDropLink index inventories actorId) [] actor.deathDrops
  let dropped : List String := (actor.inventories.filter (·.isDropped)).map (·.inventoryId)
  let linked : List String := actor.deathDrops.map (·.inventoryId)
  rejectIf (¬ (dropped ⊆ linked ∧ linked ⊆ dropped))
    (invalidPrivateLinkage "actor-private dropped inventories and death drops are not one-to-one")
  checkAll (validateMassLink index actorId) actor.ownedGridMasses
  checkAll (validateQueueLink index inventories actorId) actor.productionQueues

def validatePrivateLinkage (role : SessionRole) (actorPrivate : Option ActorPrivateSnapshot)
    (entities : List InterestEntityProjection) : Verdict Unit :=
  match role, actorPrivate with
  | .player playerId, some actor => validateActorLinkage playerId actor entities
  | .player _, none =>
    .error (invalidPrivateLinkage "bound-player view has no actor-private overlay")
  | .spectator, none => .ok ()
  | .spectator, some _ =>
    .error (invalidPrivateLinkage "spectator view contains actor-private state")

end Verse.Interest
