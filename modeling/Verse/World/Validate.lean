import Verse.World.Ownership
import Verse.Directory.Operations

/-!
# The validators

`validate_player_roster` and the authority graph it ends with re-derive every cross-reference
of a stored world: identities against the registry, players against their inventories,
inventories against the blocks that hold them, queues against their machines, operation
histories against their bounds, and the three transfer tables against the players and the
ledger. They stop at the first thing that is wrong and name it.

The loops that collect what they have seen are `checkEach` over the earlier elements.
-/

namespace Verse

open Lib

/-- `WORLD_SCHEMA_VERSION`. -/
def worldSchemaVersion : Nat := 20

/-- `celestial::GRAVITY_BODY_ID`. -/
def gravityBodyId : String := "khepri-prime"

/-- `celestial::VOXEL_BODY_ID`. -/
def voxelBodyId : String := "origin-asteroid"

/-- `PROCESSED_OPERATION_RETENTION_LIMIT`. -/
def processedOperationRetentionLimit : Nat := 128

/-- `PROCESSED_OPERATION_RETAINED_BYTES_LIMIT`. -/
def processedOperationRetainedBytesLimit : Nat := 131072

/-- `PROCESSED_OPERATION_RECORD_BYTES_LIMIT`. -/
def processedOperationRecordBytesLimit : Nat := 4096

def playerBodyId (playerId : String) : String := s!"player-body-{playerId}"

abbrev Validated := Except String Unit

variable (host : Host)

/-- A position is stored beside the address it is derived from. -/
def hydratesTo (w : WorldState) (address : UniverseAddress) (position : Vec3) : Prop :=
  host.localPositionFromAddress w.cellAddress address = .ok position

instance (w : WorldState) (address : UniverseAddress) (position : Vec3) :
    Decidable (hydratesTo host w address position) :=
  inferInstanceAs (Decidable (_ = _))

/-- An address is canonical in the universe and enters this cell at `position`. -/
def placed (w : WorldState) (address : UniverseAddress) (position : Vec3) : Prop :=
  position.isFinite ∧ host.validateUniverseAddress address w.universeId = .ok () ∧
    hydratesTo host w address position

instance (w : WorldState) (address : UniverseAddress) (position : Vec3) :
    Decidable (placed host w address position) :=
  inferInstanceAs (Decidable (_ ∧ _ ∧ _))

/-! ## Identity and roster -/

def bodyBindingValid (w : WorldState) (registry : CelestialRegistry) (originCell : Bool) : Prop :=
  if originCell then
    w.gravityBodyId = gravityBodyId ∧ w.voxelBodyId = voxelBodyId ∧
      registry.bodies.any (fun body => body.1 == w.gravityBodyId) ∧
      registry.bodies.any (fun body => body.1 == w.voxelBodyId && body.2)
  else
    w.gravityBodyId = "" ∧ w.voxelBodyId = "" ∧ w.voxels.occupied = OrdMap.empty ∧
      w.voxels.ferriteOre = OrdMap.empty

instance (w : WorldState) (registry : CelestialRegistry) (originCell : Bool) :
    Decidable (bodyBindingValid w registry originCell) := by
  unfold bodyBindingValid
  exact inferInstance

/-- The opening of `validate_player_roster`: schema, content, clock and identity. -/
def validateIdentity (w : WorldState) : Validated := do
  rejectIf (w.schemaVersion ≠ worldSchemaVersion)
    s!"world schema {w.schemaVersion} does not match required schema {worldSchemaVersion}"
  rejectIf (w.contentManifestVersion ≠ Content.manifestVersion)
    "world content manifest does not match the active rules"
  rejectIf (w.productionClock.lifecycleGeneration = 0
      ∨ (w.productionClock.lastCommittedQuantumSequence = 0
        ∧ w.productionClock.lastScheduledForUnixMs ≠ 0)
      ∨ (w.productionClock.lastCommittedQuantumSequence > 0
        ∧ w.productionClock.lastScheduledForUnixMs = 0))
    "world production clock frontier is invalid"
  let registry ← (host.registrySnapshot w.worldSeed).mapError
    fun source => s!"world celestial registry is invalid: {source}"
  let expectedManifestHash ← (host.universeManifestHash w.worldSeed).mapError
    fun source => s!"world universe manifest is invalid: {source}"
  let cellKey ← (host.cellKeyFromAddress w.cellAddress).mapError
    fun source => s!"world cell key is invalid: {source}"
  let expectedCellId ← demand (host.cells.cellId cellKey)
    s!"world cell ID is invalid: {host.cells.reason cellKey}"
  rejectIf (w.universeId ≠ registry.universeId
      ∨ w.universeManifestHash ≠ expectedManifestHash
      ∨ w.celestialRegistryHash ≠ registry.registryHash
      ∨ w.cellId ≠ expectedCellId
      ∨ ¬ bodyBindingValid w registry (cellKey = Directory.cellOriginKey))
    "world identity must match the immutable universe manifest and celestial registry"

namespace PlayerRoster

def validate (roster : PlayerRoster) : Validated :=
  if roster.primaryPlayerId = "" ∧ roster.byId = OrdMap.empty then .ok ()
  else do
    rejectIf (isBlank roster.primaryPlayerId
        ∨ roster.byId.contains roster.primaryPlayerId = false)
      "player roster must identify one present primary player"
    rejectIf (∃ entry ∈ roster.byId.entries, entry.1 ≠ entry.2.playerId)
      "player roster keys must match canonical player IDs"

end PlayerRoster

/-- One player of the roster, after those before it in key order. -/
def validatePlayer (w : WorldState) (earlier : List (String × Player))
    (entry : String × Player) : Validated := do
  let (playerId, player) := entry
  rejectIf (validPlayerId playerId = false)
    "player IDs must be 1-128 ASCII letters, numbers, dots, hyphens, or underscores"
  rejectIf (w.grids.contains (playerBodyId playerId))
    "a player physics body ID collides with a canonical grid ID"
  rejectIf (¬ placed host w player.address player.position
      ∨ player.linearVelocity.isFinite = false
      ∨ player.angularVelocity.isFinite = false
      ∨ player.orientation.isFinite = false
      ∨ host.unitOrientation player.orientation = false
      ∨ player.locomotion.up.isFinite = false
      ∨ player.locomotion.viewPitchRadians.isFinite = false)
    "player kinematics and locomotion must be finite and normalized"
  rejectIf (∃ prior ∈ earlier, prior.2.inventoryId = player.inventoryId)
    "each player must own a unique carried inventory"
  let inventory ← demand (w.inventories.get? player.inventoryId)
    "each player inventory must exist in canonical state"
  rejectIf (inventory.inventoryId ≠ player.inventoryId
      ∨ inventory.domain ≠ .player playerId
      ∨ inventory.capacityLiters = 0
      ∨ inventory.usedLiters > inventory.capacityLiters)
    "each player inventory must have matching identity, ownership, and capacity"

/-! ## The authority graph -/

/-- One block of a grid, after the grids and the blocks before it. -/
def validateBlock (earlierGrids : List (String × Grid)) (earlier : List (String × Block))
    (entry : String × Block) : Validated := do
  let (blockId, block) := entry
  rejectIf (blockId ≠ block.blockId ∨ isBlank blockId)
    "block map keys must match nonempty canonical block IDs"
  rejectIf (∃ prior ∈ earlierGrids, prior.2.blocks.contains blockId)
    "block IDs must be globally unique across all grids"
  rejectIf (∃ prior ∈ earlier, prior.2.coordinate = block.coordinate)
    "a grid cannot contain two blocks at one coordinate"
  rejectIf (block.orientation > 3
      ∨ block.componentCost ≠ (Content.block block.kind).componentCost
      ∨ block.health = 0
      ∨ block.health > (Content.block block.kind).maxHealth)
    "blocks must retain canonical orientation, cost, and positive integrity"
  rejectIf (block.kind = .cargo ∧ block.inventoryId = none)
    "every cargo block must retain its inventory identity"
  rejectIf (block.kind ≠ .cargo ∧ block.inventoryId ≠ none)
    "only cargo blocks may reference an inventory"

/-- One grid, after the grids before it. -/
def validateGrid (w : WorldState) (earlier : List (String × Grid)) (entry : String × Grid) :
    Validated := do
  let (gridId, grid) := entry
  rejectIf (gridId ≠ grid.gridId ∨ isBlank gridId)
    "grid map keys must match nonempty canonical grid IDs"
  rejectIf (validPlayerId grid.ownerPlayerId = false)
    "every grid must retain one syntactically valid player owner"
  rejectIf (¬ placed host w grid.address grid.position
      ∨ grid.linearVelocity.isFinite = false
      ∨ grid.angularVelocity.isFinite = false
      ∨ grid.controlLinearInput.isFinite = false
      ∨ grid.controlAngularInput.isFinite = false
      ∨ grid.orientation.isFinite = false
      ∨ host.unitOrientation grid.orientation = false)
    "grid kinematics and controls must be finite and normalized"
  rejectIf (grid.anchored ∧ grid.anchorTouches host w.voxels = false)
    "an anchored grid must retain a completed voxel-touching anchor"
  checkEach (validateBlock earlier) [] grid.blocks.entries

namespace WorldState

/-- `cargo_inventory_by_block`: the inventory each cargo block names. The source also refuses
    a block listed twice, which the uniqueness of block identifiers has ruled out. -/
def cargoInventoryByBlock (w : WorldState) : OrdMap String String :=
  OrdMap.ofList (w.grids.values.flatMap fun grid =>
    grid.blocks.entries.filterMap fun entry =>
      if entry.2.kind = .cargo then entry.2.inventoryId.map fun id => (entry.1, id) else none)

end WorldState

def validateInventory (w : WorldState) (entry : String × InventoryRecord) : Validated := do
  let (inventoryId, inventory) := entry
  rejectIf (inventoryId ≠ inventory.inventoryId
      ∨ isBlank inventoryId
      ∨ inventory.capacityLiters = 0
      ∨ inventory.usedLiters > inventory.capacityLiters)
    "inventory keys, identities, capacity, and contents must remain canonical"
  match inventory.domain with
  | .player playerId =>
    let player ← demand (w.player.byId.get? playerId)
      "player inventory domains must reference a canonical player"
    rejectIf (player.inventoryId ≠ inventoryId)
      "player inventory domains must match the player's carried inventory"
  | .cargo blockId =>
    rejectIf (w.cargoInventoryByBlock.get? blockId ≠ some inventoryId)
      "cargo inventories require one bidirectional live cargo-block link"
  | .dropped reason ownerPlayerId =>
    rejectIf (isBlank reason ∨ validPlayerId ownerPlayerId = false)
      "dropped inventories must retain a reason and valid prior owner"

/-- The other direction of the cargo links. -/
def validateCargo (w : WorldState) (entry : String × String) : Validated := do
  let (blockId, inventoryId) := entry
  let inventory ← demand (w.inventories.get? inventoryId)
    "every cargo block must reference one existing inventory"
  rejectIf (inventory.domain ≠ .cargo blockId)
    "cargo block and inventory ownership links must agree"

/-- One job of a queue, after the queues and the jobs before it. -/
def validateJob (w : WorldState) (machineGrid : Grid) (machine : Block) (machineBlockId : String)
    (earlierQueues : List (String × List ProductionJob)) (earlier : List ProductionJob)
    (job : ProductionJob) : Validated := do
  rejectIf (isBlank job.jobId
      ∨ (∃ prior ∈ earlierQueues, ∃ other ∈ prior.2, other.jobId = job.jobId)
      ∨ (∃ other ∈ earlier, other.jobId = job.jobId)
      ∨ isBlank job.operationId
      ∨ job.ownerPlayerId ≠ machineGrid.ownerPlayerId
      ∨ job.machineBlockId ≠ machineBlockId
      ∨ job.contentManifestVersion ≠ w.contentManifestVersion
      ∨ Content.machineSupportsRecipe machine.kind job.recipe = false
      ∨ job.batches = 0
      ∨ job.queuedEventSequence = 0
      ∨ job.queuedEventSequence > w.eventSequence
      ∨ job.progressTicks > job.durationTicks
      ∨ (earlier ≠ [] ∧ job.progressTicks ≠ 0))
    "production job identity, ownership, recipe, order, and progress must remain canonical"
  let (expectedInputs, expectedOutputs, expectedDuration) ←
    demand (productionRecipeQuantities job.recipe job.batches)
      "production job quantities overflowed"
  rejectIf (job.durationTicks ≠ expectedDuration)
    "production job duration must match its pinned registered recipe"
  rejectIf (job.progressTicks < job.durationTicks
      ∧ (job.reservedInputs ≠ expectedInputs ∨ job.pendingOutputs ≠ .empty))
    "unfinished production jobs must retain exact reserved input only"
  rejectIf (¬ job.progressTicks < job.durationTicks
      ∧ (job.reservedInputs ≠ .empty ∨ job.pendingOutputs ≠ expectedOutputs))
    "completed blocked jobs must retain exact pending output only"
  checkAll (fun inventoryId => do
    let owner ← w.inventoryOwnerPlayerId inventoryId
    rejectIf (owner ≠ job.ownerPlayerId)
      "production endpoints must preserve the machine owner's authority")
    [job.sourceInventoryId, job.destinationInventoryId]

/-- One machine's queue, after the queues before it. -/
def validateQueue (w : WorldState) (earlier : List (String × List ProductionJob))
    (entry : String × List ProductionJob) : Validated := do
  let (machineBlockId, queue) := entry
  rejectIf (queue = [] ∨ queue.length > Content.queueLimitPerMachine)
    "production queues must contain between one and the registered maximum jobs"
  let (machineGrid, machine) ← demand (w.blockGrid machineBlockId)
    "every production queue must reference one live machine"
  rejectIf (machine.constructionComplete = false
      ∨ ¬ (machine.kind = .refinery ∨ machine.kind = .assembler))
    "production queues require a completed refinery or assembler"
  checkEach (validateJob w machineGrid machine machineBlockId earlier) [] queue

/-- One death drop, after the drops before it. -/
def validateDrop (w : WorldState) (earlier : List (String × DeathDrop))
    (entry : String × DeathDrop) : Validated := do
  let (dropId, drop) := entry
  rejectIf (dropId ≠ drop.dropId
      ∨ isBlank dropId
      ∨ isBlank drop.deathId
      ∨ validPlayerId drop.ownerPlayerId = false
      ∨ ¬ placed host w drop.address drop.position
      ∨ drop.createdEventSequence > w.eventSequence
      ∨ (∃ prior ∈ earlier, prior.2.inventoryId = drop.inventoryId))
    "death-drop identity, owner, position, and sequence must be valid"
  let inventory ← demand (w.inventories.get? drop.inventoryId)
    "every death drop must reference one existing sealed inventory"
  rejectIf (inventory.domain.droppedOwner ≠ some drop.ownerPlayerId)
    "death-drop inventory domain must preserve the death-drop owner"

/-! ## Operation histories -/

/-- One retained record, after those before it. The source keeps the last event sequence seen
    for each origin cell; the accepted ones increase, so it is the largest of them. -/
def validateRecord (w : WorldState) (compactedThrough : Nat)
    (earlier : List (Nat × ProcessedOperationRecord))
    (entry : Nat × ProcessedOperationRecord) : Validated := do
  let (operationSequence, record) := entry
  let lastSeen := (earlier.getLast?.map Prod.fst).getD compactedThrough
  let expectedSequence ← demand (checkedAdd lastSeen 1)
    "operation history cannot advance beyond u64::MAX"
  rejectIf (operationSequence ≠ expectedSequence
      ∨ isBlank record.operationId
      ∨ record.operationId.utf8ByteSize > 128
      ∨ validBlake3Hex record.intentFingerprint = false
      ∨ validBlake3Hex record.receiptOriginCellId = false
      ∨ host.processedOperationRecordBytes record > processedOperationRecordBytesLimit
      ∨ record.receipt.operationSequence ≠ operationSequence
      ∨ record.receipt.operationId ≠ record.operationId
      ∨ record.receipt.eventSequence = 0
      ∨ (∃ prior ∈ earlier, prior.2.receiptOriginCellId = record.receiptOriginCellId
          ∧ record.receipt.eventSequence ≤ prior.2.receipt.eventSequence)
      ∨ (record.receiptOriginCellId = w.cellId ∧ record.receipt.eventSequence > w.eventSequence)
      ∨ isBlank record.receipt.code)
    "processed operations must form one bounded contiguous suffix with canonical receipts and fingerprints"

/-- What is asked of the operation history of an actor. -/
def validateHistory (w : WorldState) (entry : String × ActorOperationHistory) : Validated := do
  let (actorPlayerId, history) := entry
  rejectIf (validPlayerId actorPlayerId = false ∨ w.player.byId.get? actorPlayerId = none)
    "operation namespaces require present canonical player actors"
  rejectIf (history.committedThrough = 0
      ∨ history.compactedThrough > history.committedThrough
      ∨ history.retained.size > processedOperationRetentionLimit
      ∨ host.processedOperationRetainedBytes history.retained
          > processedOperationRetainedBytesLimit
      ∨ (history.compactedThrough = 0 ∧ history.compactedHistoryHash ≠ "")
      ∨ (history.compactedThrough > 0 ∧ validBlake3Hex history.compactedHistoryHash = false))
    "operation history bounds and commitment must remain canonical"
  checkEach (validateRecord host w history.compactedThrough) [] history.retained.entries
  rejectIf ((history.retained.keys.getLast?).getD history.compactedThrough
      ≠ history.committedThrough)
    "retained operation history must cover the contiguous uncompacted suffix"

/-! ## Transfer tables -/

def validateLock (w : WorldState) (earlier : List (String × PlayerTransferLock))
    (entry : String × PlayerTransferLock) : Validated := do
  let (playerId, lock) := entry
  rejectIf (validPlayerId playerId = false
      ∨ w.player.byId.get? playerId = none
      ∨ validStableId lock.transferId = false
      ∨ validBlake3Hex lock.packageHash = false
      ∨ validBlake3Hex lock.destinationCellId = false
      ∨ lock.priorPlacementGeneration = 0
      ∨ checkedAdd lock.priorPlacementGeneration 1 ≠ some lock.resultingPlacementGeneration
      ∨ (∃ prior ∈ earlier, prior.2.transferId = lock.transferId)
      ∨ w.transferWitnesses.contains lock.transferId)
    "player transfer locks must bind one present player and canonical package generation"

def validateReservation (w : WorldState) (earlier : List (String × PlayerTransferReservation))
    (entry : String × PlayerTransferReservation) : Validated := do
  let (transferId, reservation) := entry
  rejectIf (transferId ≠ reservation.transferId
      ∨ validStableId transferId = false
      ∨ validBlake3Hex reservation.packageHash = false
      ∨ validBlake3Hex reservation.receiptHash = false
      ∨ validBlake3Hex reservation.sourceCellId = false
      ∨ validBlake3Hex reservation.destinationCellId = false
      ∨ validPlayerId reservation.playerId = false
      ∨ validStableId reservation.inventoryId = false
      ∨ reservation.destinationAssignmentGeneration = 0
      ∨ reservation.destinationFencingToken = 0
      ∨ validBlake3Hex reservation.destinationWorldHash = false
      ∨ reservation.priorPlacementGeneration = 0
      ∨ checkedAdd reservation.priorPlacementGeneration 1
          ≠ some reservation.resultingPlacementGeneration
      ∨ w.player.byId.get? reservation.playerId ≠ none
      ∨ w.inventories.contains reservation.inventoryId
      ∨ (∃ prior ∈ earlier, prior.2.playerId = reservation.playerId)
      ∨ (∃ prior ∈ earlier, prior.2.inventoryId = reservation.inventoryId)
      ∨ w.transferWitnesses.contains transferId)
    "player transfer reservations must bind unique absent subject IDs and canonical quarantine material"

def validateWitness (entry : String × TransferConservationWitness) : Validated := do
  let (transferId, witness) := entry
  rejectIf (transferId ≠ witness.transferId
      ∨ validStableId transferId = false
      ∨ validBlake3Hex witness.packageHash = false
      ∨ validBlake3Hex witness.counterpartyCellId = false)
    "transfer conservation witness identity is invalid"

/-- The counters a witness of one direction adds to, checked as they grow. -/
def addWitness (direction : TransferWitnessDirection) (totals : InventoryContents)
    (witness : TransferConservationWitness) : Except String InventoryContents :=
  if witness.direction = direction then do
    let ore ← demand (checkedAdd totals.ore witness.contents.ore)
      "transfer ore witness total overflowed"
    let refinedMaterial ← demand
      (checkedAdd totals.refinedMaterial witness.contents.refinedMaterial)
      "transfer refined witness total overflowed"
    let components ← demand (checkedAdd totals.components witness.contents.components)
      "transfer component witness total overflowed"
    return { ore, refinedMaterial, components }
  else return totals

def validateWitnesses (w : WorldState) : Validated := do
  let (imported, exported) ← w.transferWitnesses.entries.foldlM
    (fun totals entry => do
      validateWitness entry
      return (← addWitness .importing totals.1 entry.2, ← addWitness .exporting totals.2 entry.2))
    (InventoryContents.empty, InventoryContents.empty)
  rejectIf (imported ≠ ⟨w.ledger.transferImportedOre, w.ledger.transferImportedRefined,
        w.ledger.transferImportedComponents⟩
      ∨ exported ≠ ⟨w.ledger.transferExportedOre, w.ledger.transferExportedRefined,
        w.ledger.transferExportedComponents⟩)
    "transfer conservation witnesses do not match the cell ledger"

namespace WorldState

/-- `validate_authority_graph`. -/
def validateAuthorityGraph (w : WorldState) : Validated := do
  checkEach (validateGrid host w) [] w.grids.entries
  checkAll (validateInventory w) w.inventories.entries
  checkAll (validateCargo w) w.cargoInventoryByBlock.entries
  checkEach (validateQueue w) [] w.productionQueues.entries
  checkEach (validateDrop host w) [] w.deathDrops.entries
  checkAll (validateHistory host w) w.processedOperations.entries
  checkEach (validateLock w) [] w.playerTransferLocks.entries
  checkEach (validateReservation w) [] w.playerTransferReservations.entries
  validateWitnesses w

/-- `validate_player_roster`, which ends with the authority graph. -/
def validatePlayerRoster (w : WorldState) : Validated := do
  validateIdentity host w
  w.player.validate
  checkEach (validatePlayer host w) [] w.player.byId.entries
  w.validateAuthorityGraph host

end WorldState
end Verse
