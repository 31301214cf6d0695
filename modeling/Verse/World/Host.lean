import Verse.World.Content
import Verse.World.Event

/-!
# What the engine is given

`Host` holds everything the engine calls and this development does not look into: canonical
addresses and the celestial registry, the floating-point geometry behind a tool, a body or a
contact, the hashes that chain the events, and the length of a record once written down.
Each field is one question the engine asks, under the name of the function that answers it,
and depends on exactly what that function reads.

No law is assumed of any of them here. A result that needs one says so where it is stated.
-/

namespace Verse

open Lib
open Directory (CellKeyV1 CellIds)

/-- The celestial registry of a universe: its bodies, each with whether it has voxels. -/
structure CelestialRegistry where
  (universeId registryHash : String)
  bodies : List (String × Bool)
deriving DecidableEq, Repr

/-- What a hand tool points at. -/
inductive ToolTarget where
  | voxel (coordinate : IVec3)
  | block (gridId blockId : String) (coordinate : IVec3)
deriving DecidableEq, Repr

structure ToolHit where
  target : ToolTarget
  localFace : Option IVec3
deriving DecidableEq, Repr

/-- What the simulation takes from elsewhere: addresses, hashes and what floats decide. -/
structure Host where
  -- Cells, addresses and the registry (`celestial`).
  cells : CellIds
  cellKeyFromAddress : UniverseAddress → Except String CellKeyV1
  cellAddressFromKey : CellKeyV1 → Except String UniverseAddress
  validateUniverseAddress : UniverseAddress → String → Except String Unit
  localPositionFromAddress : (origin address : UniverseAddress) → Except String Vec3
  addressFromLocalPosition : (origin : UniverseAddress) → Vec3 → Except String UniverseAddress
  registrySnapshot : (worldSeed : Nat) → Except String CelestialRegistry
  universeManifestHash : (worldSeed : Nat) → Except String String
  breathable : WorldState → Vec3 → Bool
  radialUp : Vec3 → Vec3
  -- Kinematics: comparisons between computed magnitudes and their limits.
  unitOrientation : Quat → Bool
  unitNormal : Vec3 → Bool
  nonNegative : F64 → Bool
  (controlBounded gridControlBounded : Vec3 → Bool)
  powerOnline : Grid → Bool
  worldCoordinate : (position : Vec3) → (orientation : Quat) → IVec3 → IVec3
  velocityAllowed : (linear angular : Vec3) → Bool
  orientationHeld : (prior outcome : Quat) → Bool
  -- A continuity check refuses with a code and a message.
  playerMotionContinuity : Player → PlayerPhysicsOutcome → (stepCount : Nat) →
    Except (String × String) Unit
  bodyMotionContinuity : WorldState → Grid → PhysicsBodyOutcome → (stepCount : Nat) →
    Except (String × String) Unit
  locomotionUpValid : PlayerLocomotionSnapshot → Bool
  groundedUpFollowsGravity : PlayerPhysicsOutcome → Bool
  supportGeometryValid : LocomotionSupportSnapshot → Bool
  contactPlausible : WorldState → PhysicsContactOutcome → Player → PlayerPhysicsOutcome →
    List PhysicsBodyOutcome → (stepCount : Nat) → Bool
  -- Tools, construction and recovery.
  closestToolHit : Player → VoxelField → OrdMap String Grid → Option ToolHit
  capsuleIntersectsCell : Player → Grid → IVec3 → Bool
  capitalSpawn : Grid → Vec3
  recoveryPoint : (origin : Vec3) → (step : Nat) → Vec3
  proofRecoveryPositionIsClear : WorldState → Vec3 → Bool
  -- Hashes and encodings; the hash of a document never reads the field it is stored in.
  stateHash : WorldState → String
  eventHash : CanonicalEvent → String
  productionOccurrenceEventId : ProductionScheduleOccurrence → String
  clientIntentFingerprint : (universeId actorPlayerId : String) → ClientMessage → String
  compactionHash : (priorHash : String) → (operationSequence : Nat) →
    ProcessedOperationRecord → String
  processedOperationRecordBytes : ProcessedOperationRecord → Nat
  processedOperationRetainedBytes : OrdMap Nat ProcessedOperationRecord → Nat
  packageHash : PlayerTransferPackage → String
  receiptHash : PlayerTransferQuarantineReceipt → String

end Verse
