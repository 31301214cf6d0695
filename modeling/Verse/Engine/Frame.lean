import Verse.Engine.Destruction
import Verse.Engine.Effect
import Verse.Engine.Motion
import Verse.Engine.Work
import Verse.Handoff.Steps

/-!
# What no event changes

A cell keeps its identity for life: where it is, which universe and content it belongs to and
which body it is bound to. Its sequence advances by one with every event and its fence never
goes back.
-/

namespace Verse

open Lib

/-- The fields of a cell that are fixed when it is created. -/
structure CellIdentity where
  schemaVersion : Nat
  (contentManifestVersion universeId cellId universeManifestHash celestialRegistryHash : String)
  cellAddress : UniverseAddress
  (gravityBodyId voxelBodyId : String)
  worldSeed : Nat

namespace WorldState

variable {host : Host} {w w' : WorldState} {event : CanonicalEvent}

def identity (w : WorldState) : CellIdentity where
  schemaVersion := w.schemaVersion
  contentManifestVersion := w.contentManifestVersion
  universeId := w.universeId
  cellId := w.cellId
  universeManifestHash := w.universeManifestHash
  celestialRegistryHash := w.celestialRegistryHash
  cellAddress := w.cellAddress
  gravityBodyId := w.gravityBodyId
  voxelBodyId := w.voxelBodyId
  worldSeed := w.worldSeed

theorem Work.frame {machineId : String} {outcome} (work : Work host w machineId outcome w') :
    w' = { w with
      player := w'.player
      inventories := w'.inventories
      productionQueues := w'.productionQueues
      ledger := w'.ledger } := by
  cases work with
  | idle | advanced | completed => rfl
  | completedAndDelivered | outputDelivered =>
    rw [popProductionQueueHead_eq]
    rfl

variable {outcomes : List ProductionMachineOutcome}

theorem Works.frame {machines} (works : Works host w machines outcomes w') :
    w' = { w with
      player := w'.player
      inventories := w'.inventories
      productionQueues := w'.productionQueues
      ledger := w'.ledger } := by
  induction works with
  | done => rfl
  | step work works ih =>
    rw [work.frame] at ih
    exact ih

variable {eventSequence : Nat}

theorem Damaged.frame {gridId blockId : String} {damage : Nat}
    (damaged : Damaged host w gridId blockId damage eventSequence w') :
    w' = { w with
      grids := w'.grids
      inventories := w'.inventories
      productionQueues := w'.productionQueues
      ledger := w'.ledger } := by
  cases damaged with
  | hurt => rfl
  | @destroyed grid block | @destroyedMachine grid block =>
    rw [wrecked_eq]
    unfold dropCargo
    cases block.inventoryId <;> rfl

theorem works_of_quantum {occurrence} {elapsedTicks : Nat}
    (hexpected : w.productionQuantumPayload host occurrence
      = .ok (.productionQuantumCommitted occurrence elapsedTicks outcomes))
    (happlied : w.applyOutcomes outcomes = .ok w') :
    ∃ machines, machines.Nodup ∧ machines.Perm w.productionQueues.keys
      ∧ Works host w machines outcomes w' := by
  obtain ⟨machines, planned, hperm, hplanned, heq⟩ := productionQuantumPayload_eq_ok hexpected
  obtain ⟨-, -, rfl⟩ := EventPayload.productionQuantumCommitted.inj heq
  exact ⟨machines, hperm.nodup_iff.mpr OrdMap.keys_nodup, hperm, works_of_planned hplanned happlied⟩

theorem Collapse.frame {player : Player} {inventory dropped drop}
    (collapse : Collapse w player inventory eventSequence dropped drop w') :
    w' = { w with inventories := w'.inventories, deathDrops := w'.deathDrops } := by
  cases collapse <;> rfl

theorem Effect.identity (effect : Effect host w event w') : w'.identity = w.identity := by
  cases effect with
  | playerIncapacitated hpayload hplayer hinventory hdomain hcollapse =>
    rw [hcollapse.frame]
    rfl
  | productionQuantumCommitted hpayload hexpected happlied =>
    obtain ⟨machines, -, -, works⟩ := works_of_quantum (hpayload ▸ hexpected) happlied
    rw [works.frame]
    rfl
  | @blockBuilt gridId block =>
    unfold withCargoInventory
    cases block.inventoryId <;> rfl
  | blockDamaged hpayload hby hdamage happlied =>
    rw [(damaged_of_applyDamage happlied).frame]
    rfl
  | physicsStepCommitted hpayload happlied =>
    obtain ⟨-, active, rfl⟩ := applyPhysicsStep_eq_ok happlied
    rfl
  | playerTransferPrepared hpayload hstaged =>
    obtain ⟨-, -, ⟨rfl, -⟩ | ⟨-, -, -, -, rfl⟩⟩ := stagePreparedEvaLock_eq_ok hstaged <;> rfl
  | playerTransferQuarantined hpayload hstaged =>
    obtain ⟨-, -, ⟨rfl, -⟩ | ⟨-, -, rfl⟩⟩ := stageEvaPlayerQuarantine_eq_ok hstaged <;> rfl
  | playerTransferAborted hpayload hstaged =>
    obtain ⟨-, -, ⟨-, -, rfl⟩ | ⟨-, -, rfl⟩ | ⟨-, -, -, rfl⟩⟩ :=
      stageAbortedEvaUnlock_eq_ok hstaged <;> rfl
  | playerTransferExported hpayload hstaged =>
    obtain ⟨-, -, ⟨rfl, -⟩ | ⟨-, -, -, -, -, rfl⟩⟩ := stageCommittedEvaExport_eq_ok hstaged <;> rfl
  | playerTransferImported hpayload hstaged =>
    obtain ⟨-, -, ⟨rfl, -⟩ | ⟨-, -, -, -, -, rfl⟩⟩ := stageCommittedEvaImport_eq_ok hstaged <;> rfl
  | _ => rfl

theorem Paid.identity {applied} (paid : Paid applied event w') :
    w'.identity = applied.identity := by
  cases paid <;> rfl

theorem recordOperation_frame (h : w.recordOperation host event = .ok w') :
    w' = { w with processedOperations := w'.processedOperations } := by
  rcases recordOperation_eq_ok h with ⟨-, rfl⟩ | ⟨_, _, _, _, -, -, -, -, hrecord⟩
  · rfl
  · obtain ⟨-, rfl⟩ := recordProcessedOperation_eq_ok.mp hrecord
    rfl

theorem Accepted.identity (accepted : Accepted host w event w') : w'.identity = w.identity := by
  cases accepted with
  | intro hydrated admitted effect paid recorded weighed =>
    calc w'.identity = _ := by rw [recordOperation_frame recorded]; rfl
      _ = _ := paid.identity
      _ = w.identity := effect.identity

theorem Accepted.frontier (accepted : Accepted host w event w') :
    w'.eventSequence = w.eventSequence + 1 ∧ w.eventSequence + 1 ≤ u64Max
      ∧ w'.fencingToken = event.authorityFencingToken
      ∧ w.fencingToken ≤ w'.fencingToken := by
  cases accepted with
  | @intro payload applied credited hydrated admitted effect paid recorded weighed =>
    have hnext : event.eventSequence = w.eventSequence + 1 := admitted.next
    have hcounted : event.eventSequence ≤ u64Max := admitted.counted
    have hfence : w.fencingToken ≤ event.authorityFencingToken := admitted.fence.2
    rw [recordOperation_frame recorded]
    exact ⟨hnext, hnext ▸ hcounted, rfl, hfence⟩

end WorldState

/-! ## A small cell

One player and one grid of two blocks, a refinery and the cargo it works from and into, on a host
whose geometry says yes and whose hashes are constant. Statements about the engine are tried
here. -/

def proofHash : String := "0000000000000000000000000000000000000000000000000000000000000000"

def proofAddress : UniverseAddress where
  universeId := "the-verse-local"
  sectorX := "0"
  sectorY := "0"
  sectorZ := "0"
  cellX := 500
  cellY := 500
  cellZ := 500
  localUm := (0, 0, 0)

/-- A host that allows everything and gives one hash for all. -/
def proofHost : Host where
  cells := Directory.proofCellIds
  cellKeyFromAddress := fun address => .ok { Directory.cellOriginKey with cellX := address.cellX }
  cellAddressFromKey := fun key => .ok { proofAddress with cellX := key.cellX }
  validateUniverseAddress := fun _ _ => .ok ()
  localPositionFromAddress := fun _ _ => .ok Vec3.zero
  addressFromLocalPosition := fun origin _ => .ok origin
  registrySnapshot := fun _ => .ok {
    universeId := "the-verse-local"
    registryHash := proofHash
    bodies := [("khepri-prime", false), ("origin-asteroid", true)] }
  universeManifestHash := fun _ => .ok proofHash
  breathable := fun _ _ => true
  radialUp := fun _ => Vec3.zero
  unitOrientation := fun _ => true
  unitNormal := fun _ => true
  nonNegative := fun _ => true
  controlBounded := fun _ => true
  gridControlBounded := fun _ => true
  powerOnline := fun _ => true
  worldCoordinate := fun _ _ coordinate => coordinate
  velocityAllowed := fun _ _ => true
  orientationHeld := fun _ _ => true
  playerMotionContinuity := fun _ _ _ => .ok ()
  bodyMotionContinuity := fun _ _ _ _ => .ok ()
  locomotionUpValid := fun _ => true
  groundedUpFollowsGravity := fun _ => true
  supportGeometryValid := fun _ => true
  contactPlausible := fun _ _ _ _ _ _ => true
  closestToolHit := fun _ _ _ => none
  capsuleIntersectsCell := fun _ _ _ => false
  capitalSpawn := fun _ => Vec3.zero
  recoveryPoint := fun origin _ => origin
  proofRecoveryPositionIsClear := fun _ _ => true
  stateHash := fun _ => proofHash
  eventHash := fun _ => proofHash
  productionOccurrenceEventId := fun _ => "production-quantum"
  clientIntentFingerprint := fun _ _ _ => proofHash
  compactionHash := fun _ _ _ => proofHash
  processedOperationRecordBytes := fun _ => 0
  processedOperationRetainedBytes := fun _ => 0
  packageHash := fun _ => proofHash
  receiptHash := fun _ => proofHash

/-- A player in EVA at the edge of the next cell. -/
def proofPlayer : Player where
  playerId := "player-1"
  address := { proofAddress with cellX := 501 }
  position := Vec3.zero
  orientation := Quat.identity
  linearVelocity := Vec3.zero
  angularVelocity := Vec3.zero
  surfaceContact := false
  locomotion := {
    kind := .eva
    up := Vec3.zero
    viewPitchRadians := .finite 0
    support := none
    jumpHeld := false
    jumpBufferExpiresAtSimulationTick := 0
    supportGraceExpiresAtSimulationTick := 0
    magneticBootsEnabled := false
    magneticReattachAfterSimulationTick := 0 }
  movementEpoch := 1
  lastReceivedInputSequence := 0
  lastProcessedInputSequence := 0
  pendingControlFrames := []
  controlLinearInput := Vec3.zero
  controlAngularInput := Vec3.zero
  boost := false
  dampeners := true
  jump := false
  controlExpiresAtSimulationTick := 0
  inventoryId := "inventory-player-1"
  experience := 0
  career := ⟨0, 0, 0, 0, 0⟩
  suitOxygenMilli := 1000
  helmetClosed := true
  jetpackEnabled := true
  lifeState := .alive

def proofGrid : Grid where
  gridId := "grid-works"
  ownerPlayerId := "player-1"
  anchorRewardEligible := false
  address := proofAddress
  position := Vec3.zero
  orientation := Quat.identity
  linearVelocity := Vec3.zero
  angularVelocity := Vec3.zero
  controlLinearInput := Vec3.zero
  controlAngularInput := Vec3.zero
  dampeners := true
  anchored := false
  blocks := .ofList [
    ("block-cargo", { Block.new "block-cargo" (.new 1 0 0) .cargo with
      inventoryId := some "inventory-cargo" }),
    ("block-refinery", Block.new "block-refinery" (.new 0 0 0) .refinery)]

/-- A batch half refined. -/
def proofJob : ProductionJob where
  jobId := "production-job-1"
  operationId := "operation-1"
  ownerPlayerId := "player-1"
  machineBlockId := "block-refinery"
  recipe := .refining
  contentManifestVersion := Content.manifestVersion
  batches := 1
  sourceInventoryId := "inventory-cargo"
  destinationInventoryId := "inventory-cargo"
  progressTicks := 60
  durationTicks := 120
  reservedInputs := ⟨2, 0, 0⟩
  pendingOutputs := .empty
  queuedEventSequence := 1

def proofCell : WorldState where
  schemaVersion := worldSchemaVersion
  contentManifestVersion := Content.manifestVersion
  universeId := "the-verse-local"
  cellId := (Directory.proofCellIds.cellId Directory.cellOriginKey).getD ""
  universeManifestHash := proofHash
  celestialRegistryHash := proofHash
  cellAddress := proofAddress
  gravityBodyId := "khepri-prime"
  voxelBodyId := "origin-asteroid"
  worldSeed := 0
  eventSequence := 1
  simulationTick := 0
  physicsStepPhase := 0
  activeContactPairs := .empty
  fencingToken := 5
  lastEventHash := proofHash
  player := ⟨"player-1", .ofList [("player-1", proofPlayer)]⟩
  voxels := ⟨.empty, .empty⟩
  grids := .ofList [("grid-works", proofGrid)]
  inventories := .ofList [
    ("inventory-cargo", ⟨"inventory-cargo", .cargo "block-cargo", .empty, 8000⟩),
    ("inventory-player-1", ⟨"inventory-player-1", .player "player-1", .empty, 1200⟩)]
  productionQueues := .ofList [("block-refinery", [proofJob])]
  productionClock := ⟨1, 0, 0⟩
  deathDrops := .empty
  ledger := ⟨2, 0, 0, 5, 0, 0, 0, 0, 0, 0, 0, 0, 0, 0, 0, 0⟩
  transferWitnesses := .empty
  playerTransferLocks := .empty
  playerTransferReservations := .empty
  processedOperations := .empty

/-- The next event of a cell, caused by the system. -/
def systemEvent (w : WorldState) (eventId : String) (occurredAtUnixMs : Nat)
    (payload : EventPayload) : CanonicalEvent where
  schemaName := eventSchemaName
  schemaVersion := eventSchemaVersion
  contentManifestVersion := w.contentManifestVersion
  universeManifestHash := w.universeManifestHash
  celestialRegistryHash := w.celestialRegistryHash
  eventId := eventId
  eventSequence := w.eventSequence + 1
  occurredAtUnixMs := occurredAtUnixMs
  universeId := w.universeId
  cellId := w.cellId
  authorityFencingToken := w.fencingToken
  actorPlayerId := none
  actorType := "system"
  operationId := none
  operationSequence := none
  intentFingerprint := none
  previousEventHash := w.lastEventHash
  payload := payload
  eventHash := proofHash

/-- The first second of machine work in a cell. -/
def firstOccurrence (w : WorldState) : ProductionScheduleOccurrence where
  schemaVersion := productionScheduleOccurrenceSchemaVersion
  universeId := w.universeId
  cellId := w.cellId
  lifecycleGeneration := w.productionClock.lifecycleGeneration
  productionQuantumSequence := 1
  scheduledForUnixMs := 1000
  universeManifestHash := w.universeManifestHash
  celestialRegistryHash := w.celestialRegistryHash

end Verse
