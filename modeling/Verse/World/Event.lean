import Verse.World.State

/-!
# Events, client messages and transfer packages

The only way a cell changes is by an event, and an event carries its complete outcome: what
was mined and how much it yielded, where every body came to rest, which job finished and what
it delivered. Applying one re-derives that outcome from the state and refuses the event when
the two differ.

A client asks for a change with a `ClientMessage`; the five transfer payloads are made by the
cell itself and carry the package that moves a player to another cell.
-/

namespace Verse

open Lib
open Directory (CellKeyV1 CellTransferRecord)

/-! ## Transfer packages -/

structure PlayerTransferConservation where
  inventoryContents : InventoryContents
  (inventoryCapacityLiters inventoryUsedLiters inventoryMassGrams : Nat)
deriving DecidableEq, Repr

structure PlayerTransferPackage where
  schemaVersion : Nat
  (transferId aggregateId : String)
  sourceCellKey : CellKeyV1
  sourceCellId : String
  destinationCellKey : CellKeyV1
  destinationCellId : String
  (sourceAssignmentGeneration destinationAssignmentGeneration sourceFencingToken : Nat)
  (priorPlacementGeneration resultingPlacementGeneration : Nat)
  (universeId universeManifestHash celestialRegistryHash contentManifestVersion : String)
  sourceEventSequence : Nat
  (sourceEventHash sourceWorldHash : String)
  preparedAtSimulationTick : Nat
  (sourcePlayer destinationPlayer : Player)
  inventory : InventoryRecord
  operationHistory : Option ActorOperationHistory
  conservation : PlayerTransferConservation
  packageHash : String
deriving DecidableEq

structure PlayerTransferQuarantineReceipt where
  schemaVersion : Nat
  (transferId packageHash destinationCellId : String)
  (destinationAssignmentGeneration destinationFencingToken destinationEventSequence : Nat)
  (destinationWorldHash receiptHash : String)
deriving DecidableEq, Repr

/-! ## Payloads -/

structure ProductionScheduleOccurrence where
  schemaVersion : Nat
  (universeId cellId : String)
  (lifecycleGeneration productionQuantumSequence scheduledForUnixMs : Nat)
  (universeManifestHash celestialRegistryHash : String)
deriving DecidableEq, Repr

inductive ProductionMachineOutcomeKind where
  | advanced
  | completed
  | completedAndDelivered
  | outputDelivered
  | pausedPower
  | pausedRoute
  | pausedMachine
  | outputBlocked
deriving DecidableEq, Repr

structure ProductionMachineOutcome where
  (gridId machineBlockId jobId : String)
  kind : ProductionMachineOutcomeKind
  (previousProgressTicks newProgressTicks : Nat)
  destinationInventoryId : String
  outputs : InventoryContents
deriving DecidableEq, Repr

def ProductionMachineOutcome.changesState (outcome : ProductionMachineOutcome) : Bool :=
  match outcome.kind with
  | .advanced | .completed | .completedAndDelivered | .outputDelivered => true
  | .pausedPower | .pausedRoute | .pausedMachine | .outputBlocked => false

structure PlayerPhysicsOutcome where
  playerId : String
  address : UniverseAddress
  position : Vec3
  orientation : Quat
  (linearVelocity angularVelocity : Vec3)
  surfaceContact : Bool
  locomotion : PlayerLocomotionSnapshot
  (controlLinearInput controlAngularInput : Vec3)
  (boost dampeners jump : Bool)
  controlExpiresAtSimulationTick : Nat
deriving DecidableEq

structure PhysicsBodyOutcome where
  gridId : String
  address : UniverseAddress
  position : Vec3
  orientation : Quat
  (linearVelocity angularVelocity : Vec3)
deriving DecidableEq

inductive PhysicsContactPhase where
  | began
  | persisted
deriving DecidableEq, Repr

structure PhysicsContactOutcome where
  substepIndex : Nat
  (bodyAId colliderAId bodyBId colliderBId : String)
  pointAddress : UniverseAddress
  (point normal : Vec3)
  penetrationM : F64
  (closingSpeedMmPerSecond estimatedNormalImpulseMillinewtonSeconds : Nat)
  reducedTranslationalMassGrams : Nat
  phase : PhysicsContactPhase
deriving DecidableEq

inductive EventPayload where
  | playerControlSet (movementEpoch inputSequence : Nat) (linearInput angularInput : Vec3)
      (boost dampeners jump : Bool) (expiresAtSimulationTick : Nat)
  | suitModeChanged (helmetClosed jetpackEnabled magneticBootsEnabled : Bool)
  | suitOxygenChanged (playerId : String) (previousOxygenMilli newOxygenMilli : Nat)
  | playerIncapacitated (playerId deathId : String) (cause : PlayerDeathCause)
      (address : UniverseAddress) (position : Vec3) (previousOxygenMilli : Nat)
      (droppedInventory : Option InventoryRecord) (deathDrop : Option DeathDrop)
  | playerRespawned (deathId : String) (address : UniverseAddress) (position : Vec3)
      (suitOxygenMilli : Nat) (helmetClosed jetpackEnabled magneticBootsEnabled : Bool)
  | voxelMined (coordinate : IVec3) (material : VoxelMaterial) (oreYield : Nat)
      (inventoryId : String)
  | oreRefined (inventoryId : String) (batches : Nat)
  | componentCrafted (inventoryId : String) (quantity : Nat)
  | productionQueued (job : ProductionJob)
  | productionQuantumCommitted (occurrence : ProductionScheduleOccurrence)
      (elapsedTicks : Nat) (outcomes : List ProductionMachineOutcome)
  | inventoryTransferred (sourceInventoryId destinationInventoryId : String)
      (resource : ResourceKind) (quantity : Nat)
  | blockBuilt (gridId componentInventoryId : String) (block : Block)
  | blockWelded (gridId blockId : String) (previousHealth newHealth maxHealth : Nat)
      (completedConstruction : Bool)
  | gridControlSet (gridId : String) (linearInput angularInput : Vec3) (dampeners : Bool)
  | gridAnchorSet (gridId : String) (anchored rewardCredited : Bool)
  | blockDamaged (gridId blockId : String) (damage : Nat)
  | physicsStepCommitted (fixedStepHz stepCount remainingStepPhase : Nat)
      (bodies : List PhysicsBodyOutcome) (players : List PlayerPhysicsOutcome)
      (contacts : List PhysicsContactOutcome) (activeContactsAfter : List ContactPairKey)
  | playerTransferPrepared (package : PlayerTransferPackage)
      (directoryTransfer : CellTransferRecord)
  | playerTransferQuarantined (package : PlayerTransferPackage)
      (receipt : PlayerTransferQuarantineReceipt)
  | playerTransferAborted (package : PlayerTransferPackage)
      (directoryTransfer : CellTransferRecord)
  | playerTransferExported (package : PlayerTransferPackage)
      (directoryTransfer : CellTransferRecord)
  | playerTransferImported (package : PlayerTransferPackage)
      (receipt : PlayerTransferQuarantineReceipt) (directoryTransfer : CellTransferRecord)
deriving DecidableEq

/-- An event of the journal, which names the one before it by its hash. -/
structure CanonicalEvent where
  schemaName : String
  schemaVersion : Nat
  (contentManifestVersion universeManifestHash celestialRegistryHash eventId : String)
  (eventSequence occurredAtUnixMs : Nat)
  (universeId cellId : String)
  authorityFencingToken : Nat
  actorPlayerId : Option String
  actorType : String
  operationId : Option String
  operationSequence : Option Nat
  intentFingerprint : Option String
  previousEventHash : String
  payload : EventPayload
  eventHash : String
deriving DecidableEq

/-! ## Client messages -/

/-- The first three variants are answered by the network service; what they carry never
    reaches a cell. -/
inductive ClientMessage where
  | hello
  | requestSnapshot
  | acknowledgeInterest
  | setPlayerControl (operationSequence : Nat) (operationId : String)
      (movementEpoch inputSequence : Nat) (linearInput angularInput : Vec3)
      (boost dampeners jump : Bool)
  | setSuitMode (operationSequence : Nat) (operationId : String)
      (helmetClosed jetpackEnabled magneticBootsEnabled : Bool)
  | respawnPlayer (operationSequence : Nat) (operationId : String)
  | mineVoxel (operationSequence : Nat) (operationId : String) (coordinate : IVec3)
  | refineOre (operationSequence : Nat) (operationId inventoryId : String) (batches : Nat)
  | craftComponent (operationSequence : Nat) (operationId inventoryId : String)
      (quantity : Nat)
  | queueProduction (operationSequence : Nat) (operationId machineBlockId : String)
      (recipe : ProductionRecipeKind) (batches : Nat)
      (sourceInventoryId destinationInventoryId : String)
  | transferInventory (operationSequence : Nat)
      (operationId sourceInventoryId destinationInventoryId : String)
      (resource : ResourceKind) (quantity : Nat)
  | buildBlock (operationSequence : Nat) (operationId gridId : String) (coordinate : IVec3)
      (kind : BlockKind) (orientation : Nat)
  | weldBlock (operationSequence : Nat) (operationId gridId blockId : String)
  | setGridControl (operationSequence : Nat) (operationId gridId : String)
      (linearInput angularInput : Vec3) (dampeners : Bool)
  | toggleGridAnchor (operationSequence : Nat) (operationId gridId : String)
  | damageBlock (operationSequence : Nat) (operationId gridId blockId : String)
deriving DecidableEq

namespace ClientMessage

/-- `operation_sequence` and `operation_id`, which are present together. -/
def operation : ClientMessage → Option (Nat × String)
  | .hello | .requestSnapshot | .acknowledgeInterest => none
  | .setPlayerControl sequence id _ _ _ _ _ _ _
  | .setSuitMode sequence id _ _ _
  | .respawnPlayer sequence id
  | .mineVoxel sequence id _
  | .refineOre sequence id _ _
  | .craftComponent sequence id _ _
  | .queueProduction sequence id _ _ _ _ _
  | .transferInventory sequence id _ _ _ _
  | .buildBlock sequence id _ _ _ _
  | .weldBlock sequence id _ _
  | .setGridControl sequence id _ _ _ _
  | .toggleGridAnchor sequence id _
  | .damageBlock sequence id _ _ => some (sequence, id)

end ClientMessage

/-! ## Refusals -/

/-- `IntentError`. `panicked` is the arithmetic or `expect` failure that would stop the
    process; the source has no value for it. -/
inductive IntentError where
  | rejected (code message : String)
  | sequenceMismatch (expected received : Nat)
  | previousHashMismatch
  | invalidEventHash
  | wrongAuthority
  | contentManifestMismatch
  | conservationViolation (eventSequence : Nat)
  | panicked (message : String)
deriving DecidableEq, Repr

inductive HandoffError where
  | invalidPackage (reason : String)
  | quarantineRejected (reason : String)
  | committedStateRejected (reason : String)
  | panicked (message : String)
deriving DecidableEq, Repr

namespace HandoffError

/-- The `Display` text. -/
def text : HandoffError → String
  | .invalidPackage reason => s!"player handoff package is invalid: {reason}"
  | .quarantineRejected reason => s!"destination quarantine rejected the package: {reason}"
  | .committedStateRejected reason =>
    s!"committed player handoff rejected the state transition: {reason}"
  | .panicked message => message

end HandoffError

/-- `u64` arithmetic that is not checked by the source: an overflow stops the process. -/
def plainAdd (a b : Nat) : Except IntentError Nat :=
  if a + b ≤ u64Max then .ok (a + b)
  else .error (.panicked "attempt to add with overflow")

@[simp] theorem plainAdd_eq_ok {a b c : Nat} :
    plainAdd a b = .ok c ↔ a + b ≤ u64Max ∧ a + b = c := by
  unfold plainAdd
  split <;> simp_all

end Verse
