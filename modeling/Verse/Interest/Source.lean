import Verse.Engine.Apply
import Verse.Interest.Projection
import Mathlib.Data.List.Sort

/-!
# What the server projects from

A worker builds one source for each revision of the world and projects every session from it.
What anybody may see of an entity is cut out of its record here (`publicPlayer`, `publicGrid`,
`publicVoxelChunks`, `publicDrop`) and filed under its identity; what belongs to one player is
collected by ownership (`actorPrivate`), once for each player and for every entity there is. A
session is then given the part of it whose public side it can see.

The source builds the snapshot of the whole world first. Its copies of grids, inventories and
drops are read off the world here, and a cell without players needs no placeholder.
-/

namespace Verse.Interest

open Lib

/-- What the building of a source asks of the geometry, the celestial registry and the content,
    and the projecting that goes on from there. -/
structure Surveying where
  host : Host
  projecting : Projecting
  (powerProduced powerRequired powerStored : Grid → F64)
  massKg : (grams : Nat) → F64
  criticalOxygenMilli : Nat
  environmentAt : (worldSeed : Nat) → (cellAddress : UniverseAddress) →
    (gravityBodyId : String) → (position : Vec3) → EnvironmentSnapshot
  bodyCenter : (worldSeed : Nat) → (bodyId : String) → UniverseAddress
  relativeOffsetUm : (origin address : UniverseAddress) → Except String (Int × Int × Int)
  addressFromOriginOffsetUm : (origin : UniverseAddress) → Int × Int × Int →
    Except String UniverseAddress
  publicSpectatorAnchorUm : Int × Int × Int
  spatialBucketEdgeM : Nat
  spatialQueryRadiusUm : Projected Int
  contentRevision : UniverseAddress → InterestEntityPayload → Projected Nat
  chunkRevision : (chunkId bodyId : String) → List VoxelSnapshot → Projected Nat

variable (survey : Surveying)

/-! ## Records -/

/-- The loop of `Player::level`. -/
def levelFrom (experience : Nat) : (fuel level threshold : Nat) → Nat
  | 0, level, _ => level
  | fuel + 1, level, threshold =>
    if threshold ≤ experience ∧ level < 100 then
      levelFrom experience fuel (level + 1) (threshold + (level + 1) * 100)
    else level

/-- The level stops at 100, so the loop takes no more than 99 turns. -/
def levelOf (experience : Nat) : Nat := levelFrom experience 99 1 100

def nextLevelExperience (experience : Nat) : Nat :=
  ((List.range (levelOf experience)).map fun level => (level + 1) * 100).sum

namespace Surveying

def environment (w : WorldState) (position : Vec3) : EnvironmentSnapshot :=
  survey.environmentAt w.worldSeed w.cellAddress w.gravityBodyId position

/-- `Player::snapshot`. -/
def playerSnapshot (w : WorldState) (player : Player) : PlayerSnapshot where
  playerId := player.playerId
  address := player.address
  orientation := player.orientation
  linearVelocity := player.linearVelocity
  angularVelocity := player.angularVelocity
  surfaceContact := player.surfaceContact
  locomotion := player.locomotion
  movementEpoch := player.movementEpoch
  lastReceivedInputSequence := player.lastReceivedInputSequence
  lastProcessedInputSequence := player.lastProcessedInputSequence
  controlLinearInput := player.controlLinearInput
  controlAngularInput := player.controlAngularInput
  boost := player.boost
  dampeners := player.dampeners
  jump := player.jump
  controlExpiresAtSimulationTick := player.controlExpiresAtSimulationTick
  inventoryId := player.inventoryId
  experience := player.experience
  level := levelOf player.experience
  nextLevelExperience := nextLevelExperience player.experience
  career := player.career
  lifeState := player.lifeState
  suitOxygenMilli := player.suitOxygenMilli
  criticalOxygenMilli := survey.criticalOxygenMilli
  helmetClosed := player.helmetClosed
  jetpackEnabled := player.jetpackEnabled
  environment := some (survey.environment w player.position)

/-- `Grid::power`. -/
def power (grid : Grid) : PowerSnapshot where
  produced := survey.powerProduced grid
  required := survey.powerRequired grid
  stored := survey.powerStored grid
  online := survey.host.powerOnline grid

end Surveying

def inventorySnapshot (inventory : InventoryRecord) : InventorySnapshot where
  inventoryId := inventory.inventoryId
  domain := inventory.domain
  contents := inventory.contents
  capacityLiters := inventory.capacityLiters
  usedLiters := inventory.usedLiters
  massGrams := inventory.massGrams

def deathDropSnapshot (drop : DeathDrop) : DeathDropSnapshot where
  dropId := drop.dropId
  deathId := drop.deathId
  inventoryId := drop.inventoryId
  ownerPlayerId := drop.ownerPlayerId
  address := drop.address
  createdEventSequence := drop.createdEventSequence
  cause := drop.cause

/-- `VoxelField::snapshot`. -/
def voxelSnapshots (voxels : VoxelField) : List VoxelSnapshot :=
  voxels.occupied.keys.map fun coordinate =>
    ⟨coordinate, if voxels.ferriteOre.contains coordinate then .ferriteOre else .rock⟩

/-- Stable sorting by name. -/
def sortByName {α : Type} (name : α → String) (l : List α) : List α :=
  l.insertionSort fun left right => name left ≤ name right

/-- The grids in the order of their identities, as the snapshot lists them. -/
def gridSnapshots (w : WorldState) : List Grid :=
  sortByName Grid.gridId w.grids.values

namespace Surveying

/-- The books of a world whose totals run over a counter stop the source with a panic. -/
def conservationValid (w : WorldState) : Projected Bool :=
  match w.conservation with
  | .ok totals => .ok totals.valid
  | .error _ => .error (.invalidCanonicalSnapshot "panicked")

/-- `projection_snapshot`. -/
def projectionSnapshot (w : WorldState) : Projected CanonicalSnapshot := do
  let conservationValid ← conservationValid w
  return {
    schemaVersion := w.schemaVersion
    contentManifestVersion := w.contentManifestVersion
    universeId := w.universeId
    cellId := w.cellId
    universeManifestHash := w.universeManifestHash
    celestialRegistryHash := w.celestialRegistryHash
    cellAddress := w.cellAddress
    gravityBodyId := w.gravityBodyId
    voxelBodyId := w.voxelBodyId
    eventSequence := w.eventSequence
    simulationTick := w.simulationTick
    fencingToken := w.fencingToken
    worldHash := w.stateHash survey.host
    players := w.player.byId.values.map (survey.playerSnapshot w)
    conservationValid := conservationValid }

end Surveying

/-! ## The public side -/

def publicLifeState : PlayerLifeState → PublicPlayerLifeState
  | .alive => .alive
  | .incapacitated _ _ => .incapacitated

/-- `production_job_status`. -/
def productionJobStatus (host : Host) (w : WorldState) (machineBlockId : String)
    (queueIndex : Nat) : ProductionJobStatus :=
  match (w.queueOf machineBlockId)[queueIndex]? with
  | none => .pausedRoute
  | some job =>
    if 0 < queueIndex then .queued
    else if w.productionRouteExists machineBlockId job.sourceInventoryId = false
        ∨ w.productionRouteExists machineBlockId job.destinationInventoryId = false then
      .pausedRoute
    else match w.blockGrid machineBlockId with
    | none => .pausedRoute
    | some (grid, _) =>
      if host.powerOnline grid = false then .pausedPower
      else if job.progressTicks = job.durationTicks
          ∧ (w.inventories.get? job.destinationInventoryId).all
            (fun inventory => !inventory.canAddContents job.pendingOutputs) then .outputBlocked
      else .running

def publicMachineState (host : Host) (w : WorldState) (block : Block) :
    Option PublicMachineState :=
  if block.kind ≠ .refinery ∧ block.kind ≠ .assembler then none
  else match w.queueOf block.blockId with
  | [] => some .idle
  | _ :: _ =>
    match productionJobStatus host w block.blockId 0 with
    | .running => some .operating
    | .outputBlocked => some .blocked
    | .queued | .pausedPower | .pausedRoute => some .paused

def publicBlock (host : Host) (w : WorldState) (block : Block) : PublicBlockSnapshot where
  blockId := block.blockId
  coordinate := block.coordinate
  kind := block.kind
  orientation := block.orientation
  health := block.health
  maxHealth := block.maxHealth
  constructionComplete := block.constructionComplete
  machineState := publicMachineState host w block

/-- The renderer's position is derived from the address, and refused where it cannot be. -/
def renderPosition (host : Host) (origin address : UniverseAddress) : Projected Vec3 :=
  (host.localPositionFromAddress origin address).mapError fun source =>
    .invalidCanonicalSnapshot
      s!"renderer position cannot be derived from exact address: {source}"

def publicPlayer (host : Host) (origin : UniverseAddress) (player : Player) :
    Projected PublicPlayerSnapshot := do
  let _ ← renderPosition host origin player.address
  return {
    playerId := player.playerId
    address := player.address
    orientation := player.orientation
    linearVelocity := player.linearVelocity
    angularVelocity := player.angularVelocity
    surfaceContact := player.surfaceContact
    locomotionKind := player.locomotion.kind
    lifeState := publicLifeState player.lifeState
    helmetClosed := player.helmetClosed
    jetpackEnabled := player.jetpackEnabled }

def publicGrid (w : WorldState) (grid : Grid) : Projected PublicGridSnapshot := do
  let blocks := grid.blocks.values.map (publicBlock survey.host w)
  let _ ← renderPosition survey.host w.cellAddress grid.address
  return {
    gridId := grid.gridId
    ownerPlayerId := grid.ownerPlayerId
    address := grid.address
    orientation := grid.orientation
    linearVelocity := grid.linearVelocity
    angularVelocity := grid.angularVelocity
    anchored := grid.anchored
    power := survey.power grid
    blocks := sortByName PublicBlockSnapshot.blockId blocks }

def publicDrop (host : Host) (drop : DeathDrop) : Projected PublicDeathDropSnapshot := do
  let _ ← (host.validateUniverseAddress drop.address drop.address.universeId).mapError
    fun source => .invalidCanonicalSnapshot s!"death-drop address is invalid: {source}"
  return ⟨drop.dropId, drop.address⟩

/-- The collision chunk of a voxel. -/
def chunkCoordinates (coordinate : IVec3) : IVec3 :=
  let edge := Content.voxelCollisionChunkEdgeCells
  .new (coordinate.x.ediv edge) (coordinate.y.ediv edge) (coordinate.z.ediv edge)

/-- The voxels by chunk. They come in the order of their coordinates and stay in it. -/
def voxelChunks (voxels : List VoxelSnapshot) : OrdMap IVec3 (List VoxelSnapshot) :=
  voxels.foldl (fun chunks voxel =>
    let chunk := chunkCoordinates voxel.coordinate
    chunks.insert chunk ((chunks.get? chunk).getD [] ++ [voxel])) OrdMap.empty

def publicVoxelChunks (bodyId : String) (voxels : List VoxelSnapshot) :
    Projected (List (IVec3 × PublicVoxelChunkSnapshot)) :=
  (voxelChunks voxels).entries.mapM fun (chunk, voxels) => do
    let chunkId := s!"{bodyId}:chunk:{chunk.x}:{chunk.y}:{chunk.z}"
    let revision ← survey.chunkRevision chunkId bodyId voxels
    return (chunk, { chunkId, bodyId, revision, voxels })

/-- The address of the middle of a chunk. -/
def chunkAddress (worldSeed : Nat) (bodyId : String) (chunk : IVec3) :
    Projected UniverseAddress :=
  let edge := Content.voxelCollisionChunkEdgeCells
  let centerUm (coordinate : Int) : Int := (coordinate * edge + edge.ediv 2) * 1000000
  (survey.addressFromOriginOffsetUm (survey.bodyCenter worldSeed bodyId)
    (centerUm chunk.x, centerUm chunk.y, centerUm chunk.z)).mapError fun source =>
      .invalidCanonicalSnapshot s!"voxel chunk address cannot normalize: {source}"

/-! ## Candidates -/

/-- The candidates of a source, each under the identity of its payload. -/
structure Candidates where
  byIdentity : OrdMap EntityKey Candidate
  filed : ∀ identity candidate, byIdentity.get? identity = some candidate →
    candidate.payload.identity = identity

namespace Candidates

def empty : Candidates := ⟨OrdMap.empty, fun _ _ h => by cases h⟩

def file (candidates : Candidates) (candidate : Candidate) : Candidates where
  byIdentity := candidates.byIdentity.insert candidate.payload.identity candidate
  filed := by
    intro identity other h
    rw [OrdMap.get?_insert] at h
    split_ifs at h with hk
    · rw [← Option.some.inj h, hk]
    · exact candidates.filed identity other h

end Candidates

def addCandidate (candidates : Candidates) (address : UniverseAddress)
    (payload : InterestEntityPayload) : Projected Candidates := do
  let _ ← (survey.host.validateUniverseAddress address address.universeId).mapError
    fun source => .invalidCanonicalSnapshot s!"entity address is invalid: {source}"
  let contentFingerprint ← survey.contentRevision address payload
  rejectIf (candidates.byIdentity.contains payload.identity)
    (.invalidCanonicalSnapshot "duplicate interest entity identity")
  return candidates.file ⟨address, contentFingerprint, false, payload⟩

/-- The candidates so far, and the entities a player may stand on by their physics bodies. -/
abbrev Surveyed : Type := Candidates × OrdMap String EntityKey

def addPlayer (w : WorldState) (surveyed : Surveyed) (player : Player) : Projected Surveyed := do
  let payload ← publicPlayer survey.host w.cellAddress player
  let candidates ← addCandidate survey surveyed.1 player.address (.player payload)
  return (candidates, surveyed.2)

def addGrid (w : WorldState) (surveyed : Surveyed) (grid : Grid) : Projected Surveyed := do
  let payload ← publicGrid survey w grid
  let candidates ← addCandidate survey surveyed.1 grid.address (.grid payload)
  return (candidates, surveyed.2.insert grid.gridId (toLex (grid.gridId, .grid)))

def addVoxelChunk (w : WorldState) (surveyed : Surveyed)
    (entry : IVec3 × PublicVoxelChunkSnapshot) : Projected Surveyed := do
  let (chunk, payload) := entry
  let address ← chunkAddress survey w.worldSeed w.voxelBodyId chunk
  let candidates ← addCandidate survey surveyed.1 address (.voxelChunk payload)
  return (candidates, surveyed.2.insert s!"voxel-chunk-{chunk.x}-{chunk.y}-{chunk.z}"
    (toLex (payload.chunkId, .voxelChunk)))

def addDrop (surveyed : Surveyed) (drop : DeathDrop) : Projected Surveyed := do
  let payload ← publicDrop survey.host drop
  let candidates ← addCandidate survey surveyed.1 drop.address (.deathDrop payload)
  return (candidates, surveyed.2)

/-- Every entity of the world, by its public side. -/
def surveyEntities (w : WorldState) : Projected Surveyed := do
  let surveyed ← w.player.byId.values.foldlM (addPlayer survey w) (Candidates.empty, OrdMap.empty)
  let surveyed ← (gridSnapshots w).foldlM (addGrid survey w) surveyed
  let chunks ← publicVoxelChunks survey w.voxelBodyId (voxelSnapshots w.voxels)
  let surveyed ← chunks.foldlM (addVoxelChunk survey w) surveyed
  w.deathDrops.values.foldlM (addDrop survey) surveyed

/-! ## Space -/

/-- `spatial_bucket_edge_um`. -/
def spatialBucketEdgeUm : Projected Int := do
  rejectIf (survey.spatialBucketEdgeM = 0)
    (.invalidCanonicalSnapshot "interest spatial bucket edge must be positive")
  return survey.spatialBucketEdgeM * 1000000

def spatialBucketKey (origin address : UniverseAddress) : Projected (Int × Int × Int) := do
  let (x, y, z) ← (survey.relativeOffsetUm origin address).mapError fun source =>
    .invalidCanonicalSnapshot s!"interest spatial bucket address is invalid: {source}"
  let edge ← spatialBucketEdgeUm survey
  return (x.ediv edge, y.ediv edge, z.ediv edge)

/-- The range of buckets one component of an offset reaches. -/
def componentBounds (edge radiusUm component : Int) : Projected (Int × Int) := do
  rejectIf (component - radiusUm < -2 ^ 127)
    (.invalidCanonicalSnapshot "interest spatial query lower bound overflowed")
  rejectIf (2 ^ 127 ≤ component + radiusUm)
    (.invalidCanonicalSnapshot "interest spatial query upper bound overflowed")
  return ((component - radiusUm).ediv edge, (component + radiusUm).ediv edge)

def spatialBucketBounds (origin anchor : UniverseAddress) (radiusUm : Int) :
    Projected ((Int × Int) × (Int × Int) × (Int × Int)) := do
  let (x, y, z) ← (survey.relativeOffsetUm origin anchor).mapError fun source =>
    .invalidCanonicalSnapshot s!"interest spatial anchor is invalid: {source}"
  let edge ← spatialBucketEdgeUm survey
  return (← componentBounds edge radiusUm x, ← componentBounds edge radiusUm y,
    ← componentBounds edge radiusUm z)

def within (bounds : (Int × Int) × (Int × Int) × (Int × Int)) (bucket : Int × Int × Int) : Bool :=
  decide (bounds.1.1 ≤ bucket.1 ∧ bucket.1 ≤ bounds.1.2) &&
    decide (bounds.2.1.1 ≤ bucket.2.1 ∧ bucket.2.1 ≤ bounds.2.1.2) &&
    decide (bounds.2.2.1 ≤ bucket.2.2 ∧ bucket.2.2 ≤ bounds.2.2.2)

/-- The buckets of the query radius, emptied. The source keeps each candidate in the bucket of
    its address. -/
def nearby (source : ProjectionSource) (anchor : UniverseAddress) :
    Projected (List EntityKey) := do
  let radiusUm ← survey.spatialQueryRadiusUm
  let bounds ← spatialBucketBounds survey source.canonical.cellAddress anchor radiusUm
  let found ← source.candidates.entries.mapM fun entry => do
    let bucket ← spatialBucketKey survey source.canonical.cellAddress entry.2.address
    return if within bounds bucket then some entry.1 else none
  return found.filterMap id

/-- Projecting from the sources built here. -/
def Surveying.view : Projecting := { survey.projecting with nearby := nearby survey }

/-! ## The private side -/

/-- `projection_inventory_owners`. -/
def projectionInventoryOwners (w : WorldState) : Projected (OrdMap String String) := do
  (w.validatePlayerRoster survey.host).mapError .invalidAuthority
  let owners ← w.inventories.keys.mapM fun inventoryId => do
    let owner ← (w.inventoryOwnerPlayerId inventoryId).mapError .invalidAuthority
    return (inventoryId, owner)
  return OrdMap.ofList owners

def productionJobSnapshot (host : Host) (w : WorldState) (machineBlockId : String)
    (entry : ProductionJob × Nat) : ProductionJobSnapshot where
  jobId := entry.1.jobId
  ownerPlayerId := entry.1.ownerPlayerId
  machineBlockId := entry.1.machineBlockId
  recipe := entry.1.recipe
  batches := entry.1.batches
  sourceInventoryId := entry.1.sourceInventoryId
  destinationInventoryId := entry.1.destinationInventoryId
  progressTicks := entry.1.progressTicks
  durationTicks := entry.1.durationTicks
  status := productionJobStatus host w machineBlockId entry.2
  reservedInputs := entry.1.reservedInputs
  pendingOutputs := entry.1.pendingOutputs

/-- The jobs of an actor at one machine, unless there are none. -/
def productionQueueSnapshot (host : Host) (w : WorldState) (actor : String)
    (entry : String × List ProductionJob) : Option ProductionQueueSnapshot :=
  match entry.2.zipIdx.filter fun job => job.1.ownerPlayerId == actor with
  | [] => none
  | jobs => some ⟨entry.1, jobs.map (productionJobSnapshot host w entry.1)⟩

/-- The visible grids of an actor. -/
def ownGrids (w : WorldState) (actor : String) (visible : List EntityKey) : List Grid :=
  (gridSnapshots w).filter fun grid =>
    grid.ownerPlayerId == actor && decide (toLex (grid.gridId, .grid) ∈ visible)

/-- Their blocks. -/
def ownBlockIds (w : WorldState) (actor : String) (visible : List EntityKey) : List String :=
  (ownGrids w actor visible).flatMap fun grid => grid.blocks.values.map Block.blockId

/-- The visible death drops of an actor. -/
def ownDrops (w : WorldState) (actor : String) (visible : List EntityKey) : List DeathDrop :=
  w.deathDrops.values.filter fun drop =>
    drop.ownerPlayerId == actor && decide (toLex (drop.dropId, .deathDrop) ∈ visible)

/-- An inventory is shown to its owner where the owner carries it or sees what it is in. -/
def showsInventory (w : WorldState) (actor : String) (owners : OrdMap String String)
    (visible : List EntityKey) (inventory : InventoryRecord) : Bool :=
  owners.get? inventory.inventoryId == some actor &&
    match inventory.domain with
    | .player playerId => playerId == actor
    | .cargo blockId => (ownBlockIds w actor visible).contains blockId
    | .dropped _ _ => (ownDrops w actor visible).any fun drop =>
      drop.inventoryId == inventory.inventoryId

/-- What an actor is told of its own, for what it has in view. -/
def actorPrivate (w : WorldState) (actor : String) (canonical : CanonicalSnapshot)
    (owners : OrdMap String String) (visible : List EntityKey) :
    Projected ActorPrivateSnapshot := do
  let player ← demand (canonical.players.find? fun player => player.playerId == actor)
    (.unboundActor actor)
  return {
    player := player
    committedOperationSequence := w.lastOperationSequence actor
    inventories := sortByName InventorySnapshot.inventoryId
      ((w.inventories.values.filter (showsInventory w actor owners visible)).map inventorySnapshot)
    deathDrops := sortByName DeathDropSnapshot.dropId
      ((ownDrops w actor visible).map deathDropSnapshot)
    ownedGridMasses := sortByName OwnedGridMassSnapshot.gridId ((ownGrids w actor visible).map
      fun grid => ⟨grid.gridId, survey.massKg (w.gridMassGrams grid)⟩)
    productionQueues := (w.productionQueues.entries.filter fun entry =>
      (ownBlockIds w actor visible).contains entry.1).filterMap
        (productionQueueSnapshot survey.host w actor) }

/-- The private state of every player, under the player it belongs to. -/
structure PrivateStates where
  byPlayer : OrdMap String ActorPrivateSnapshot
  owned : ∀ player actor, byPlayer.get? player = some actor → actor.player.playerId = player

namespace PrivateStates

def empty : PrivateStates := ⟨OrdMap.empty, fun _ _ h => by cases h⟩

def file (states : PrivateStates) (actor : ActorPrivateSnapshot) : PrivateStates where
  byPlayer := states.byPlayer.insert actor.player.playerId actor
  owned := by
    intro player other h
    rw [OrdMap.get?_insert] at h
    split_ifs at h with hk
    · rw [← Option.some.inj h, hk]
    · exact states.owned player other h

end PrivateStates

/-! ## Sources -/

def blockGrids (w : WorldState) : OrdMap String String :=
  OrdMap.ofList ((gridSnapshots w).flatMap fun grid =>
    grid.blocks.values.map fun block => (block.blockId, grid.gridId))

/-- What all sessions of a cell draw their frames from. -/
def projectionSource (w : WorldState) : Projected ProjectionSource := do
  let canonical ← survey.projectionSnapshot w
  let surveyed ← surveyEntities survey w
  let candidates := surveyed.1
  let _ ← candidates.byIdentity.entries.mapM fun entry =>
    spatialBucketKey survey w.cellAddress entry.2.address
  let owners ← projectionInventoryOwners survey w
  let states ← canonical.players.foldlM (fun states player => do
    let private' ← actorPrivate survey w player.playerId canonical owners
      candidates.byIdentity.keys
    return states.file private') PrivateStates.empty
  let spectatorAnchor ← (survey.addressFromOriginOffsetUm w.cellAddress
    survey.publicSpectatorAnchorUm).mapError fun source =>
      .invalidCanonicalSnapshot s!"spectator anchor is invalid: {source}"
  let spectatorPosition ← (survey.host.localPositionFromAddress w.cellAddress
    spectatorAnchor).mapError fun source => .invalidCanonicalSnapshot
      s!"spectator environment position cannot be derived: {source}"
  return {
    canonical := canonical
    candidates := candidates.byIdentity
    supportEntities := surveyed.2
    actorPrivate := states.byPlayer
    blockGrids := blockGrids w
    spectatorAnchor := spectatorAnchor
    spectatorEnvironment := survey.environment w spectatorPosition
    filed := candidates.filed
    owned := states.owned }

/-- `WorldState::project_interest_frame`. -/
def projectFrame (w : WorldState) (cursor : InterestProjectionState) (removals : RemovalReasons) :
    Projected (ServerMessage × InterestProjectionState) := do
  let source ← projectionSource survey w
  projectInterestFrame survey.view source cursor removals

end Verse.Interest
