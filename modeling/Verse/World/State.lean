import Verse.Directory.Document
import Mathlib.Data.Prod.Lex
import Mathlib.Data.String.Basic
import Mathlib.Data.Rat.Defs

/-!
# The state of one cell

`WorldState` is everything a cell keeps: its players and what they carry, the grids built in
it and the blocks they are made of, the machines' queues, the ledger of everything ever
produced or destroyed, and the three tables a handoff between cells works with.

Counters are the `u64` of the source and are natural numbers here; every place where one may
run out says so. A floating-point number is its value, a rational, or one of the values that
are not finite. Nothing here computes with them: the engine compares them, asks whether they
are finite, and hands them to the geometry, which is a parameter (`Verse.Engine.Host`).
-/

namespace Verse

open Lib
open Directory (CellKeyV1 CellTransferRecord)

/-! ## Numbers, vectors and addresses -/

/-- An `f64` or `f32`. -/
inductive F64 where
  | finite (value : ℚ)
  | nonFinite
deriving DecidableEq

namespace F64

def isFinite : F64 → Bool
  | .finite _ => true
  | .nonFinite => false

end F64

structure Vec3 where
  (x y z : F64)
deriving DecidableEq

namespace Vec3

def zero : Vec3 := ⟨.finite 0, .finite 0, .finite 0⟩

/-- `finite_vec`. -/
def isFinite (v : Vec3) : Bool := v.x.isFinite && v.y.isFinite && v.z.isFinite

end Vec3

structure Quat where
  (x y z w : F64)
deriving DecidableEq

namespace Quat

def identity : Quat := ⟨.finite 0, .finite 0, .finite 0, .finite 1⟩

def isFinite (q : Quat) : Bool :=
  q.x.isFinite && q.y.isFinite && q.z.isFinite && q.w.isFinite

end Quat

/-- What an `i32` holds. -/
def FitsI32 (n : Int) : Prop := -2147483648 ≤ n ∧ n ≤ 2147483647

instance (n : Int) : Decidable (FitsI32 n) := inferInstanceAs (Decidable (_ ∧ _))

/-- `i32` arithmetic as release builds have it: it wraps around where a debug build stops. -/
def wrapI32 (n : Int) : Int := (n + 2147483648) % 4294967296 - 2147483648

theorem fitsI32_wrapI32 (n : Int) : FitsI32 (wrapI32 n) := by
  unfold FitsI32 wrapI32
  omega

theorem wrapI32_eq_self {n : Int} (h : FitsI32 n) : wrapI32 n = n := by
  unfold FitsI32 at h
  unfold wrapI32
  omega

/-- A voxel or block coordinate, three `i32`. -/
structure IVec3 where
  (x y z : Int)
  fits : FitsI32 x ∧ FitsI32 y ∧ FitsI32 z
deriving DecidableEq, Repr

namespace IVec3

/-- The derived order of the source: by `x`, then `y`, then `z`. -/
def key (c : IVec3) : Int ×ₗ Int ×ₗ Int := toLex (c.x, toLex (c.y, c.z))

theorem key_injective : Function.Injective key := by
  intro a b h
  cases a
  cases b
  simpa [key] using h

instance : LinearOrder IVec3 := LinearOrder.lift' key key_injective

def new (x y z : Int) : IVec3 where
  x := wrapI32 x
  y := wrapI32 y
  z := wrapI32 z
  fits := ⟨fitsI32_wrapI32 x, fitsI32_wrapI32 y, fitsI32_wrapI32 z⟩

theorem eq_new_iff {a : IVec3} {x y z : Int} :
    a = new x y z ↔ a.x = wrapI32 x ∧ a.y = wrapI32 y ∧ a.z = wrapI32 z := by
  cases a
  simp [new]

/-- `i32::abs` of a difference: of `i32::MIN` it is `i32::MIN` again. -/
def absDifference (a b : Int) : Int := wrapI32 (wrapI32 (a - b)).natAbs

def manhattanDistance (a b : IVec3) : Int :=
  wrapI32 (wrapI32 (absDifference a.x b.x + absDifference a.y b.y) + absDifference a.z b.z)

def neighbors (c : IVec3) : List IVec3 :=
  [new (c.x + 1) c.y c.z, new (c.x - 1) c.y c.z, new c.x (c.y + 1) c.z,
    new c.x (c.y - 1) c.z, new c.x c.y (c.z + 1), new c.x c.y (c.z - 1)]

end IVec3

structure UniverseAddress where
  (universeId sectorX sectorY sectorZ : String)
  (cellX cellY cellZ : Nat)
  localUm : Int × Int × Int
deriving DecidableEq, Repr

/-! ## Materials and inventories -/

inductive VoxelMaterial where
  | rock
  | ferriteOre
deriving DecidableEq, Repr

inductive ResourceKind where
  | ore
  | refinedMaterial
  | component
deriving DecidableEq, Repr

inductive BlockKind where
  | structural
  | controlCore
  | powerSource
  | battery
  | cargo
  | drill
  | anchor
  | damageTest
  | conveyor
  | refinery
  | assembler
deriving DecidableEq, Repr

inductive ProductionRecipeKind where
  | refining
  | component
deriving DecidableEq, Repr

structure InventoryContents where
  (ore refinedMaterial components : Nat)
deriving DecidableEq, Repr

namespace InventoryContents

/-- `InventoryContents::default()`. -/
def empty : InventoryContents := ⟨0, 0, 0⟩

def amount (contents : InventoryContents) : ResourceKind → Nat
  | .ore => contents.ore
  | .refinedMaterial => contents.refinedMaterial
  | .component => contents.components

end InventoryContents

inductive InventoryDomain where
  | player (playerId : String)
  | cargo (blockId : String)
  | dropped (reason ownerPlayerId : String)
deriving DecidableEq, Repr

/-- The owner a dropped inventory keeps. -/
def InventoryDomain.droppedOwner : InventoryDomain → Option String
  | .dropped _ ownerPlayerId => some ownerPlayerId
  | .player _ | .cargo _ => none

structure InventoryRecord where
  inventoryId : String
  domain : InventoryDomain
  contents : InventoryContents
  capacityLiters : Nat
deriving DecidableEq, Repr

/-! ## Players -/

inductive PlayerDeathCause where
  | oxygenDepleted
deriving DecidableEq, Repr

inductive PlayerLifeState where
  | alive
  | incapacitated (deathId : String) (cause : PlayerDeathCause)
deriving DecidableEq, Repr

inductive LocomotionKind where
  | eva
  | airborne
  | grounded
  | magnetic
deriving DecidableEq, Repr

structure LocomotionSupportSnapshot where
  (bodyId colliderId : String)
  (localAnchor localNormal : Vec3)
deriving DecidableEq

structure PlayerLocomotionSnapshot where
  kind : LocomotionKind
  up : Vec3
  viewPitchRadians : F64
  support : Option LocomotionSupportSnapshot
  jumpHeld : Bool
  (jumpBufferExpiresAtSimulationTick supportGraceExpiresAtSimulationTick : Nat)
  magneticBootsEnabled : Bool
  magneticReattachAfterSimulationTick : Nat
deriving DecidableEq

/-- The controls of a player, as its client numbered them. -/
structure PlayerControlFrame where
  inputSequence : Nat
  (linearInput angularInput : Vec3)
  (boost dampeners jump : Bool)
  expiresAtSimulationTick : Nat
deriving DecidableEq

structure CareerSnapshot where
  (voxelsMined refiningBatches componentsCrafted blocksBuilt anchorsEngaged : Nat)
deriving DecidableEq, Repr

structure Player where
  playerId : String
  address : UniverseAddress
  position : Vec3
  orientation : Quat
  (linearVelocity angularVelocity : Vec3)
  surfaceContact : Bool
  locomotion : PlayerLocomotionSnapshot
  (movementEpoch lastReceivedInputSequence lastProcessedInputSequence : Nat)
  pendingControlFrames : List PlayerControlFrame
  (controlLinearInput controlAngularInput : Vec3)
  (boost dampeners jump : Bool)
  controlExpiresAtSimulationTick : Nat
  inventoryId : String
  experience : Nat
  career : CareerSnapshot
  suitOxygenMilli : Nat
  (helmetClosed jetpackEnabled : Bool)
  lifeState : PlayerLifeState
deriving DecidableEq

/-- The players present in a cell; the primary one is named, and a cell may be empty. -/
structure PlayerRoster where
  primaryPlayerId : String
  byId : OrdMap String Player
deriving DecidableEq

/-! ## Grids, machines and drops -/

structure Block where
  blockId : String
  coordinate : IVec3
  kind : BlockKind
  (orientation health : Nat)
  constructionComplete : Bool
  componentCost : Nat
  inventoryId : Option String
deriving DecidableEq, Repr

structure Grid where
  (gridId ownerPlayerId : String)
  anchorRewardEligible : Bool
  address : UniverseAddress
  position : Vec3
  orientation : Quat
  (linearVelocity angularVelocity controlLinearInput controlAngularInput : Vec3)
  (dampeners anchored : Bool)
  blocks : OrdMap String Block
deriving DecidableEq

structure ProductionJob where
  (jobId operationId ownerPlayerId machineBlockId : String)
  recipe : ProductionRecipeKind
  contentManifestVersion : String
  batches : Nat
  (sourceInventoryId destinationInventoryId : String)
  (progressTicks durationTicks : Nat)
  (reservedInputs pendingOutputs : InventoryContents)
  queuedEventSequence : Nat
deriving DecidableEq, Repr

structure ProductionClock where
  (lifecycleGeneration lastCommittedQuantumSequence lastScheduledForUnixMs : Nat)
deriving DecidableEq, Repr

structure DeathDrop where
  (dropId deathId inventoryId ownerPlayerId : String)
  address : UniverseAddress
  position : Vec3
  createdEventSequence : Nat
  cause : PlayerDeathCause
deriving DecidableEq

/-- The occupied voxels, and those of them that are ore. -/
structure VoxelField where
  (occupied ferriteOre : OrdMap IVec3 Unit)
deriving DecidableEq

namespace VoxelField

def material (voxels : VoxelField) (coordinate : IVec3) : Option VoxelMaterial :=
  if !voxels.occupied.contains coordinate then none
  else if voxels.ferriteOre.contains coordinate then some .ferriteOre
  else some .rock

def remove (voxels : VoxelField) (coordinate : IVec3) : VoxelField where
  occupied := voxels.occupied.erase coordinate
  ferriteOre := voxels.ferriteOre.erase coordinate

end VoxelField

/-! ## Accounts -/

structure Ledger where
  (genesisOre genesisRefined genesisComponents genesisInstalledComponents minedOre : Nat)
  (refineBatches craftedComponents builtBlocks destroyedBlocks destroyedComponents : Nat)
  (transferImportedOre transferImportedRefined transferImportedComponents transferExportedOre : Nat)
  (transferExportedRefined transferExportedComponents : Nat)
deriving DecidableEq, Repr

inductive TransferWitnessDirection where
  | importing
  | exporting
deriving DecidableEq, Repr

structure TransferConservationWitness where
  (transferId packageHash counterpartyCellId : String)
  direction : TransferWitnessDirection
  contents : InventoryContents
deriving DecidableEq, Repr

/-- What holds a player for its transfer. -/
structure PlayerTransferLock where
  (transferId packageHash destinationCellId : String)
  (priorPlacementGeneration resultingPlacementGeneration : Nat)
deriving DecidableEq, Repr

structure PlayerTransferReservation where
  (transferId packageHash receiptHash sourceCellId destinationCellId playerId inventoryId : String)
  (destinationAssignmentGeneration destinationFencingToken destinationEventSequence : Nat)
  destinationWorldHash : String
  (priorPlacementGeneration resultingPlacementGeneration : Nat)
deriving DecidableEq, Repr

/-- Two colliders in contact. -/
structure ContactPairKey where
  (bodyA colliderA bodyB colliderB : String)
deriving DecidableEq, Repr

namespace ContactPairKey

/-- The derived order of the source, field by field. -/
def key (pair : ContactPairKey) : String ×ₗ String ×ₗ String ×ₗ String :=
  toLex (pair.bodyA, toLex (pair.colliderA, toLex (pair.bodyB, pair.colliderB)))

theorem key_injective : Function.Injective key := by
  intro a b h
  cases a
  cases b
  simpa [key] using h

instance : LinearOrder ContactPairKey := LinearOrder.lift' key key_injective

end ContactPairKey

structure IntentReceipt where
  operationSequence : Nat
  operationId : String
  eventSequence : Nat
  (code message : String)
deriving DecidableEq, Repr

structure ProcessedOperationRecord where
  (operationId intentFingerprint receiptOriginCellId : String)
  receipt : IntentReceipt
deriving DecidableEq, Repr

/-- What one actor has had committed: a counter, the newest records, and one hash for all the
    records before them. -/
structure ActorOperationHistory where
  (committedThrough compactedThrough : Nat)
  compactedHistoryHash : String
  retained : OrdMap Nat ProcessedOperationRecord
deriving DecidableEq

/-- `ActorOperationHistory::default()`. -/
def ActorOperationHistory.fresh : ActorOperationHistory where
  committedThrough := 0
  compactedThrough := 0
  compactedHistoryHash := ""
  retained := OrdMap.empty

/-- The canonical state of a cell. -/
structure WorldState where
  schemaVersion : Nat
  (contentManifestVersion universeId cellId universeManifestHash celestialRegistryHash : String)
  cellAddress : UniverseAddress
  (gravityBodyId voxelBodyId : String)
  (worldSeed eventSequence simulationTick physicsStepPhase : Nat)
  activeContactPairs : OrdMap ContactPairKey Unit
  fencingToken : Nat
  lastEventHash : String
  player : PlayerRoster
  voxels : VoxelField
  grids : OrdMap String Grid
  inventories : OrdMap String InventoryRecord
  productionQueues : OrdMap String (List ProductionJob)
  productionClock : ProductionClock
  deathDrops : OrdMap String DeathDrop
  ledger : Ledger
  transferWitnesses : OrdMap String TransferConservationWitness
  playerTransferLocks : OrdMap String PlayerTransferLock
  playerTransferReservations : OrdMap String PlayerTransferReservation
  processedOperations : OrdMap String ActorOperationHistory
deriving DecidableEq

/-- A world as the geometry and the state hash see it: neither reads the fence. -/
def WorldState.unfenced (w : WorldState) : WorldState := { w with fencingToken := 0 }

end Verse
