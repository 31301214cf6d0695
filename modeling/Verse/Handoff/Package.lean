import Verse.World.Accounts

/-!
# Transfer packages and quarantine receipts

A package fixes, once, everything that moves with a player: the player as the source has it,
the same player rebased to the destination, the carried inventory and the operation history.
It is content-addressed, so the two cells and the directory can agree on it by its hash. The
destination answers with a receipt that is content-addressed in the same way.
-/

namespace Verse

open Lib
open Directory (CellKeyV1 CellTransferRecord MobileAggregateKind TransferPhase)

/-- `TRANSFER_PACKAGE_SCHEMA_VERSION`. -/
def transferPackageSchemaVersion : Nat := 1

abbrev Handoff (α : Type) := Except HandoffError α

variable (host : Host)

/-- A celestial lookup, refused as an invalid package. -/
def packageLookup {α : Type} (result : Except String α) : Handoff α :=
  result.mapError .invalidPackage

/-- `destination_player`: the player as the destination will have it. Its address is unchanged;
    its pose is taken in the other cell, its movement epoch advances, and no control survives. -/
def destinationPlayer (sourcePlayer : Player) (destinationCellKey : CellKeyV1) :
    Handoff Player := do
  let destinationOrigin ← packageLookup (host.cellAddressFromKey destinationCellKey)
  let position ← packageLookup
    (host.localPositionFromAddress destinationOrigin sourcePlayer.address)
  let movementEpoch ← demand (checkedAdd sourcePlayer.movementEpoch 1)
    (.invalidPackage "movement epoch is exhausted")
  return { sourcePlayer with
    position, movementEpoch
    lastProcessedInputSequence := sourcePlayer.lastReceivedInputSequence
    pendingControlFrames := []
    controlLinearInput := Vec3.zero
    controlAngularInput := Vec3.zero
    boost := false
    jump := false
    controlExpiresAtSimulationTick := 0 }

/-- The conservation vector of the carried inventory. -/
def conservationOf (inventory : InventoryRecord) : PlayerTransferConservation where
  inventoryContents := inventory.contents
  inventoryCapacityLiters := inventory.capacityLiters
  inventoryUsedLiters := inventory.usedLiters
  inventoryMassGrams := inventory.massGrams

namespace PlayerTransferPackage

/-- The poses of both players, taken again from their addresses. -/
def hydrateSpatialPoses (package : PlayerTransferPackage) : Handoff PlayerTransferPackage := do
  let sourceOrigin ← packageLookup (host.cellAddressFromKey package.sourceCellKey)
  let sourcePosition ← packageLookup
    (host.localPositionFromAddress sourceOrigin package.sourcePlayer.address)
  let destinationOrigin ← packageLookup (host.cellAddressFromKey package.destinationCellKey)
  let destinationPosition ← packageLookup
    (host.localPositionFromAddress destinationOrigin package.destinationPlayer.address)
  return { package with
    sourcePlayer := { package.sourcePlayer with position := sourcePosition }
    destinationPlayer := { package.destinationPlayer with position := destinationPosition } }

def calculateHash (package : PlayerTransferPackage) : String :=
  host.packageHash { package with packageHash := "" }

def hashIsValid (package : PlayerTransferPackage) : Bool :=
  validBlake3Hex package.packageHash && package.packageHash == package.calculateHash host

def validate (package : PlayerTransferPackage) : Handoff Unit := do
  let sourceCellId ← demand (host.cells.cellId package.sourceCellKey)
    (.invalidPackage (host.cells.reason package.sourceCellKey))
  let destinationCellId ← demand (host.cells.cellId package.destinationCellKey)
    (.invalidPackage (host.cells.reason package.destinationCellKey))
  rejectIf (package.schemaVersion ≠ transferPackageSchemaVersion
      ∨ validStableId package.transferId = false
      ∨ validStableId package.aggregateId = false
      ∨ package.aggregateId ≠ package.sourcePlayer.playerId
      ∨ package.aggregateId ≠ package.destinationPlayer.playerId
      ∨ package.sourceCellKey = package.destinationCellKey
      ∨ package.sourceCellId ≠ sourceCellId
      ∨ package.destinationCellId ≠ destinationCellId
      ∨ package.universeId ≠ package.sourceCellKey.universeId
      ∨ package.universeId ≠ package.destinationCellKey.universeId
      ∨ package.sourceAssignmentGeneration = 0
      ∨ package.destinationAssignmentGeneration = 0
      ∨ package.sourceFencingToken = 0
      ∨ package.priorPlacementGeneration = 0
      ∨ checkedAdd package.priorPlacementGeneration 1 ≠ some package.resultingPlacementGeneration
      ∨ validBlake3Hex package.universeManifestHash = false
      ∨ validBlake3Hex package.celestialRegistryHash = false
      ∨ validBlake3Hex package.sourceWorldHash = false
      ∨ (package.sourceEventSequence = 0 ∧ package.sourceEventHash ≠ "")
      ∨ (package.sourceEventSequence > 0 ∧ validBlake3Hex package.sourceEventHash = false)
      ∨ isBlank package.contentManifestVersion)
    (.invalidPackage "identity, generation, frontier, or trust-root binding is invalid")
  rejectIf (package.sourcePlayer.locomotion.kind ≠ .eva
      ∨ package.sourcePlayer.locomotion.support ≠ none
      ∨ package.sourcePlayer.locomotion.magneticBootsEnabled)
    (.invalidPackage
      "P1.7 player proof requires independent EVA without support or magnetic binding")
  let destinationAddressKey ← packageLookup
    (host.cellKeyFromAddress package.sourcePlayer.address)
  rejectIf (destinationAddressKey ≠ package.destinationCellKey)
    (.invalidPackage "player canonical address does not belong to the destination cell")
  let expectedDestination ← Verse.destinationPlayer host package.sourcePlayer
    package.destinationCellKey
  rejectIf (package.destinationPlayer ≠ expectedDestination)
    (.invalidPackage "destination player is not the exact rebased source state")
  rejectIf (package.inventory.inventoryId ≠ package.sourcePlayer.inventoryId
      ∨ package.inventory.domain ≠ .player package.aggregateId
      ∨ package.inventory.capacityLiters = 0
      ∨ package.inventory.usedLiters > package.inventory.capacityLiters)
    (.invalidPackage "carried inventory identity, ownership, or capacity is invalid")
  rejectIf (package.conservation ≠ conservationOf package.inventory
      ∨ package.hashIsValid host = false)
    (.invalidPackage "conservation vector or content-addressed package hash is invalid")

end PlayerTransferPackage

namespace PlayerTransferQuarantineReceipt

def calculateHash (receipt : PlayerTransferQuarantineReceipt) : String :=
  host.receiptHash { receipt with receiptHash := "" }

def hashIsValid (receipt : PlayerTransferQuarantineReceipt) : Bool :=
  validBlake3Hex receipt.receiptHash && receipt.receiptHash == receipt.calculateHash host

def validate (receipt : PlayerTransferQuarantineReceipt) : Handoff Unit :=
  rejectIf (receipt.schemaVersion ≠ transferPackageSchemaVersion
      ∨ validStableId receipt.transferId = false
      ∨ validBlake3Hex receipt.packageHash = false
      ∨ validBlake3Hex receipt.destinationCellId = false
      ∨ receipt.destinationAssignmentGeneration = 0
      ∨ receipt.destinationFencingToken = 0
      ∨ validBlake3Hex receipt.destinationWorldHash = false
      ∨ receipt.hashIsValid host = false)
    (.quarantineRejected "receipt identity, generation, fence, frontier, or hash is invalid")

end PlayerTransferQuarantineReceipt

/-! ## Preparing -/

structure PlayerTransferContext where
  transferId : String
  (sourceCellKey destinationCellKey : CellKeyV1)
  (sourceAssignmentGeneration destinationAssignmentGeneration sourceFencingToken : Nat)
  (priorPlacementGeneration resultingPlacementGeneration : Nat)
deriving DecidableEq, Repr

/-- `prepare_eva_player_transfer`. -/
def prepareEvaPlayerTransfer (source : WorldState) (actorPlayerId : String)
    (context : PlayerTransferContext) : Handoff PlayerTransferPackage := do
  (source.validatePlayerRoster host).mapError .invalidPackage
  let sourceCellKey ← packageLookup (host.cellKeyFromAddress source.cellAddress)
  let sourceCellId ← demand (host.cells.cellId sourceCellKey)
    (.invalidPackage (host.cells.reason sourceCellKey))
  rejectIf (sourceCellKey ≠ context.sourceCellKey
      ∨ source.cellId ≠ sourceCellId
      ∨ source.fencingToken ≠ context.sourceFencingToken
      ∨ context.sourceAssignmentGeneration = 0
      ∨ context.destinationAssignmentGeneration = 0
      ∨ context.priorPlacementGeneration = 0
      ∨ checkedAdd context.priorPlacementGeneration 1
          ≠ some context.resultingPlacementGeneration)
    (.invalidPackage "source cell, fence, assignment, or placement context is stale")
  let sourcePlayer ← demand (source.player.byId.get? actorPlayerId)
    (.invalidPackage "source player is not resident")
  let inventory ← demand (source.inventories.get? sourcePlayer.inventoryId)
    (.invalidPackage "carried inventory is missing")
  let rebased ← destinationPlayer host sourcePlayer context.destinationCellKey
  let destinationCellId ← demand (host.cells.cellId context.destinationCellKey)
    (.invalidPackage (host.cells.reason context.destinationCellKey))
  let unhashed : PlayerTransferPackage := {
    schemaVersion := transferPackageSchemaVersion
    transferId := context.transferId
    aggregateId := actorPlayerId
    sourceCellKey, sourceCellId
    destinationCellKey := context.destinationCellKey
    destinationCellId
    sourceAssignmentGeneration := context.sourceAssignmentGeneration
    destinationAssignmentGeneration := context.destinationAssignmentGeneration
    sourceFencingToken := context.sourceFencingToken
    priorPlacementGeneration := context.priorPlacementGeneration
    resultingPlacementGeneration := context.resultingPlacementGeneration
    universeId := source.universeId
    universeManifestHash := source.universeManifestHash
    celestialRegistryHash := source.celestialRegistryHash
    contentManifestVersion := source.contentManifestVersion
    sourceEventSequence := source.eventSequence
    sourceEventHash := source.lastEventHash
    sourceWorldHash := source.stateHash host
    preparedAtSimulationTick := source.simulationTick
    sourcePlayer
    destinationPlayer := rebased
    inventory
    operationHistory := source.processedOperations.get? actorPlayerId
    conservation := conservationOf inventory
    packageHash := "" }
  let package := { unhashed with packageHash := unhashed.calculateHash host }
  package.validate host
  return package

end Verse
