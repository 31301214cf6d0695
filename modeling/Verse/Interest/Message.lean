import Verse.World.State

/-!
# The messages of an interest session

A worker sends each connected player the part of the world that concerns them: one complete
*baseline*, then *deltas*, each extending the view the one before it left. What is public of
a player, a grid, a voxel chunk or a death drop is a value of its own type; what only the
bound player may see travels beside it as an `ActorPrivateSnapshot`.

A frame names its place in the stream by the session, the interest epoch, the baseline and
the delta sequence, and commits to the complete view it leaves by a hash. The client answers
each frame with exactly these five values.

The renderer's convenience poses are not part of these types: they are derived from the
addresses, and no frame carries them.
-/

namespace Verse.Interest

open Directory (CellKeyV1)

/-- `PROTOCOL_VERSION`. -/
def protocolVersion : Nat := 18
/-- `PROJECTION_SCHEMA_VERSION`. -/
def projectionSchemaVersion : Nat := 4
/-- `INTEREST_SCHEMA_VERSION`. -/
def interestSchemaVersion : Nat := 2
/-- `CELL_KEY_SCHEMA_VERSION`. -/
def cellKeySchemaVersion : Nat := 1
/-- `CELESTIAL_REGISTRY_SCHEMA_VERSION`. -/
def celestialRegistrySchemaVersion : Nat := 1
/-- `UNIVERSE_MANIFEST_SCHEMA_VERSION`. -/
def universeManifestSchemaVersion : Nat := 4

/-! ## What is public -/

inductive InterestEntityKind where
  | player
  | grid
  | voxelChunk
  | deathDrop
deriving DecidableEq, Repr

namespace InterestEntityKind

/-- The derived order of the source: by the order of the variants. -/
def rank : InterestEntityKind → Nat
  | .player => 0
  | .grid => 1
  | .voxelChunk => 2
  | .deathDrop => 3

theorem rank_injective : Function.Injective rank := by
  intro a b h
  cases a <;> cases b <;> first | rfl | cases h

instance : LinearOrder InterestEntityKind := LinearOrder.lift' rank rank_injective

end InterestEntityKind

inductive PublicPlayerLifeState where
  | alive
  | incapacitated
deriving DecidableEq, Repr

structure PublicPlayerSnapshot where
  playerId : String
  address : UniverseAddress
  orientation : Quat
  (linearVelocity angularVelocity : Vec3)
  surfaceContact : Bool
  locomotionKind : LocomotionKind
  lifeState : PublicPlayerLifeState
  (helmetClosed jetpackEnabled : Bool)
deriving DecidableEq

inductive PublicMachineState where
  | idle
  | operating
  | paused
  | blocked
deriving DecidableEq, Repr

structure PublicBlockSnapshot where
  blockId : String
  coordinate : IVec3
  kind : BlockKind
  (orientation health maxHealth : Nat)
  constructionComplete : Bool
  machineState : Option PublicMachineState
deriving DecidableEq, Repr

structure PowerSnapshot where
  (produced required stored : F64)
  online : Bool
deriving DecidableEq

structure PublicGridSnapshot where
  (gridId ownerPlayerId : String)
  address : UniverseAddress
  orientation : Quat
  (linearVelocity angularVelocity : Vec3)
  anchored : Bool
  power : PowerSnapshot
  blocks : List PublicBlockSnapshot
deriving DecidableEq

structure PublicDeathDropSnapshot where
  dropId : String
  address : UniverseAddress
deriving DecidableEq, Repr

structure VoxelSnapshot where
  coordinate : IVec3
  material : VoxelMaterial
deriving DecidableEq, Repr

structure PublicVoxelChunkSnapshot where
  (chunkId bodyId : String)
  revision : Nat
  voxels : List VoxelSnapshot
deriving DecidableEq, Repr

inductive InterestEntityPayload where
  | player (value : PublicPlayerSnapshot)
  | grid (value : PublicGridSnapshot)
  | voxelChunk (value : PublicVoxelChunkSnapshot)
  | deathDrop (value : PublicDeathDropSnapshot)
deriving DecidableEq

structure InterestEntityProjection where
  entityId : String
  kind : InterestEntityKind
  (projectedRevision componentSchemaVersion : Nat)
  payload : InterestEntityPayload
deriving DecidableEq

inductive InterestRemovalReason where
  | outOfInterest
  | destroyed
  | transferred
deriving DecidableEq, Repr

structure InterestRemoval where
  entityId : String
  kind : InterestEntityKind
  reason : InterestRemovalReason
deriving DecidableEq, Repr

/-! ## What only the bound player sees -/

inductive CelestialScaleClass where
  | proof
  | production
deriving DecidableEq, Repr

structure EnvironmentSnapshot where
  (celestialBodyId celestialBodyName : String)
  celestialScaleClass : CelestialScaleClass
  (nearestBodyId nearestBodyName : String)
  planetCenter : Vec3
  (surfaceRadiusM distanceToCenterM distanceToSurfaceM altitudeM : F64)
  gravity : Vec3
  (gravityMS2 atmosphereDensity oxygenFraction : F64)
  breathable : Bool
deriving DecidableEq

structure InventorySnapshot where
  inventoryId : String
  domain : InventoryDomain
  contents : InventoryContents
  (capacityLiters usedLiters massGrams : Nat)
deriving DecidableEq, Repr

structure DeathDropSnapshot where
  (dropId deathId inventoryId ownerPlayerId : String)
  address : UniverseAddress
  createdEventSequence : Nat
  cause : PlayerDeathCause
deriving DecidableEq, Repr

structure PlayerSnapshot where
  playerId : String
  address : UniverseAddress
  orientation : Quat
  (linearVelocity angularVelocity : Vec3)
  surfaceContact : Bool
  locomotion : PlayerLocomotionSnapshot
  (movementEpoch lastReceivedInputSequence lastProcessedInputSequence : Nat)
  (controlLinearInput controlAngularInput : Vec3)
  (boost dampeners jump : Bool)
  controlExpiresAtSimulationTick : Nat
  inventoryId : String
  (experience level nextLevelExperience : Nat)
  career : CareerSnapshot
  lifeState : PlayerLifeState
  (suitOxygenMilli criticalOxygenMilli : Nat)
  (helmetClosed jetpackEnabled : Bool)
  environment : Option EnvironmentSnapshot
deriving DecidableEq

structure PlayerMotionSnapshot where
  playerId : String
  address : UniverseAddress
  orientation : Quat
  (linearVelocity angularVelocity : Vec3)
  surfaceContact : Bool
  locomotion : PlayerLocomotionSnapshot
  (movementEpoch lastReceivedInputSequence lastProcessedInputSequence : Nat)
  (controlLinearInput controlAngularInput : Vec3)
  (boost dampeners jump : Bool)
  controlExpiresAtSimulationTick : Nat
  jetpackEnabled : Bool
  lifeState : PlayerLifeState
  environment : Option EnvironmentSnapshot
deriving DecidableEq

structure OwnedGridMassSnapshot where
  gridId : String
  massKg : F64
deriving DecidableEq

inductive ProductionJobStatus where
  | queued
  | running
  | pausedPower
  | pausedRoute
  | outputBlocked
deriving DecidableEq, Repr

structure ProductionJobSnapshot where
  (jobId ownerPlayerId machineBlockId : String)
  recipe : ProductionRecipeKind
  batches : Nat
  (sourceInventoryId destinationInventoryId : String)
  (progressTicks durationTicks : Nat)
  status : ProductionJobStatus
  (reservedInputs pendingOutputs : InventoryContents)
deriving DecidableEq, Repr

structure ProductionQueueSnapshot where
  machineBlockId : String
  jobs : List ProductionJobSnapshot
deriving DecidableEq, Repr

structure ActorPrivateSnapshot where
  player : PlayerSnapshot
  committedOperationSequence : Nat
  inventories : List InventorySnapshot
  deathDrops : List DeathDropSnapshot
  ownedGridMasses : List OwnedGridMassSnapshot
  productionQueues : List ProductionQueueSnapshot
deriving DecidableEq

/-! ## Frames -/

inductive InterestObserverClass where
  | boundPlayer
  | publicOriginSpectator
deriving DecidableEq, Repr

inductive InterestFrameKind where
  | baseline
  | delta
deriving DecidableEq, Repr

/-- The one-time proof that a destination baseline continues a committed placement. -/
structure InterestTransferLink where
  transferId : String
  destinationCellKey : CellKeyV1
  placementGeneration : Nat
deriving DecidableEq, Repr

/-- The replication frontier of one connection, with the public changes of one frame. -/
structure InterestSnapshot where
  schemaVersion : Nat
  frameKind : InterestFrameKind
  sessionEpoch : String
  interestEpoch : Nat
  baselineId : String
  deltaSequence : Nat
  observerClass : InterestObserverClass
  (cellAddress localOriginAddress : UniverseAddress)
  (registryHash universeManifestHash : String)
  transferLink : Option InterestTransferLink
  (canonicalEventSequence canonicalTick : Nat)
  canonicalWorldHash : String
  previousViewHash : Option String
  viewHash : String
  (entered replaced : List InterestEntityProjection)
  removed : List InterestRemoval
deriving DecidableEq

structure ProjectedWorldSnapshot where
  (projectionSchemaVersion schemaVersion : Nat)
  (contentManifestVersion universeId cellId universeManifestHash celestialRegistryHash : String)
  cellAddress : UniverseAddress
  (gravityBodyId voxelBodyId : String)
  (eventSequence simulationTick fencingToken : Nat)
  worldHash : String
  players : List PublicPlayerSnapshot
  environment : EnvironmentSnapshot
  voxelChunks : List PublicVoxelChunkSnapshot
  grids : List PublicGridSnapshot
  deathDrops : List PublicDeathDropSnapshot
  conservationValid : Bool
  interest : InterestSnapshot
  actorPrivate : Option ActorPrivateSnapshot
deriving DecidableEq

structure ProjectedInterestDelta where
  (projectionSchemaVersion schemaVersion : Nat)
  (contentManifestVersion universeId cellId universeManifestHash celestialRegistryHash : String)
  cellAddress : UniverseAddress
  (gravityBodyId voxelBodyId : String)
  (eventSequence simulationTick : Nat)
  worldHash : String
  environment : Option EnvironmentSnapshot
  conservationValid : Option Bool
  interest : InterestSnapshot
  actorPrivate : Option ActorPrivateSnapshot
  actorPrivateMotion : Option PlayerMotionSnapshot
deriving DecidableEq

/-! ## Messages -/

inductive SessionRole where
  | spectator
  | player (playerId : String)
deriving DecidableEq, Repr

inductive HandoffPhase where
  | preparing
  | importing
  | verifyingDestination
deriving DecidableEq, Repr

structure HandoffStatus where
  transferId : String
  phase : HandoffPhase
  destinationCellKey : CellKeyV1
  placementGeneration : Nat
deriving DecidableEq, Repr

/-- What a welcome announces. -/
structure WelcomeMessage where
  (protocolVersion projectionSchemaVersion worldSchemaVersion eventSchemaVersion : Nat)
  contentSchemaVersion : Nat
  contentManifestVersion : String
  (celestialRegistrySchemaVersion universeManifestSchemaVersion interestSchemaVersion : Nat)
  serverName : String
  sessionRole : SessionRole
deriving DecidableEq, Repr

/-- The registry and the universe manifest, and the receipt of an intent, are kept as the text
    they were sent as: the first two are read by the registry's own checks alone, the third by
    nothing here. -/
inductive ServerMessage where
  | welcome (message : WelcomeMessage)
  | registry (registry universeManifest : String)
  | interestBaseline (baseline : ProjectedWorldSnapshot)
  | interestDelta (delta : ProjectedInterestDelta)
  | handoff (handoff : HandoffStatus)
  | snapshot (text : String)
  | motionState (text : String)
  | intentAccepted (receipt : String)
  | intentRejected (text : String)
  | fatal (code message : String)
deriving DecidableEq

/-- The five values by which a frame is acknowledged. -/
structure InterestFrontier where
  sessionEpoch : String
  interestEpoch : Nat
  baselineId : String
  deltaSequence : Nat
  viewHash : String
deriving DecidableEq, Repr

namespace InterestFrontier

/-- `from_interest`. -/
def fromInterest (interest : InterestSnapshot) : InterestFrontier where
  sessionEpoch := interest.sessionEpoch
  interestEpoch := interest.interestEpoch
  baselineId := interest.baselineId
  deltaSequence := interest.deltaSequence
  viewHash := interest.viewHash

end InterestFrontier

end Verse.Interest
