import Verse.Handoff.Package

/-!
# Staging the steps of a handoff

Five steps move a player between two cells, and each is a function from one world to the next
that a cell runs twice: once to see whether the step may be committed as an event, and once
when the event is applied. Each recognises its own earlier success, so a retry after a crash
returns the world it finds; each ends by validating the whole world it would commit.

| step       | cell        | effect                                                |
|------------|-------------|-------------------------------------------------------|
| lock       | source      | the player stays, and accepts no gameplay             |
| quarantine | destination | its identities are reserved                           |
| export     | source      | the player leaves, an export witness stays            |
| import     | destination | the player arrives, an import witness replaces the reservation |
| abort      | either      | the lock or the reservation is taken back             |
-/

namespace Verse

open Lib
open Directory (CellTransferRecord MobileAggregateKind TransferPhase)

variable (host : Host)

/-- `validate_staged_world`. -/
def validateStagedWorld (w : WorldState) : Handoff Unit := do
  (w.validatePlayerRoster host).mapError .committedStateRejected
  match w.conservation with
  | .error (.panicked message) => .error (.panicked message)
  | .error _ => .error (.panicked "conservation does not fail")
  | .ok totals =>
    rejectIf (totals.valid = false)
      (.committedStateRejected "cell conservation failed across the transfer boundary")

/-! ## What a package means to each table -/

/-- `player_transfer_lock`. -/
def playerTransferLock (package : PlayerTransferPackage) : PlayerTransferLock where
  transferId := package.transferId
  packageHash := package.packageHash
  destinationCellId := package.destinationCellId
  priorPlacementGeneration := package.priorPlacementGeneration
  resultingPlacementGeneration := package.resultingPlacementGeneration

/-- `transfer_reservation`. -/
def transferReservation (package : PlayerTransferPackage)
    (receipt : PlayerTransferQuarantineReceipt) : PlayerTransferReservation where
  transferId := package.transferId
  packageHash := package.packageHash
  receiptHash := receipt.receiptHash
  sourceCellId := package.sourceCellId
  destinationCellId := package.destinationCellId
  playerId := package.aggregateId
  inventoryId := package.inventory.inventoryId
  destinationAssignmentGeneration := package.destinationAssignmentGeneration
  destinationFencingToken := receipt.destinationFencingToken
  destinationEventSequence := receipt.destinationEventSequence
  destinationWorldHash := receipt.destinationWorldHash
  priorPlacementGeneration := package.priorPlacementGeneration
  resultingPlacementGeneration := package.resultingPlacementGeneration

/-- `receipt_from_reservation`. -/
def receiptFromReservation (reservation : PlayerTransferReservation) :
    PlayerTransferQuarantineReceipt where
  schemaVersion := transferPackageSchemaVersion
  transferId := reservation.transferId
  packageHash := reservation.packageHash
  destinationCellId := reservation.destinationCellId
  destinationAssignmentGeneration := reservation.destinationAssignmentGeneration
  destinationFencingToken := reservation.destinationFencingToken
  destinationEventSequence := reservation.destinationEventSequence
  destinationWorldHash := reservation.destinationWorldHash
  receiptHash := reservation.receiptHash

/-- `transfer_witness`. -/
def transferWitness (package : PlayerTransferPackage) (direction : TransferWitnessDirection) :
    TransferConservationWitness where
  transferId := package.transferId
  packageHash := package.packageHash
  counterpartyCellId :=
    match direction with
    | .importing => package.sourceCellId
    | .exporting => package.destinationCellId
  direction := direction
  contents := package.conservation.inventoryContents

/-- `checked_add` of a transfer counter. -/
def transferCounter (left right : Nat) : Handoff Nat :=
  demand (checkedAdd left right)
    (.committedStateRejected "transfer conservation counter overflowed")

/-- `add_transfer_witness`. -/
def addTransferWitness (w : WorldState) (witness : TransferConservationWitness) :
    Handoff WorldState := do
  let contents := witness.contents
  let ledger ← match witness.direction with
    | .importing => do
      let ore ← transferCounter w.ledger.transferImportedOre contents.ore
      let refined ← transferCounter w.ledger.transferImportedRefined contents.refinedMaterial
      let components ← transferCounter w.ledger.transferImportedComponents contents.components
      pure { w.ledger with
        transferImportedOre := ore
        transferImportedRefined := refined
        transferImportedComponents := components }
    | .exporting => do
      let ore ← transferCounter w.ledger.transferExportedOre contents.ore
      let refined ← transferCounter w.ledger.transferExportedRefined contents.refinedMaterial
      let components ← transferCounter w.ledger.transferExportedComponents contents.components
      pure { w.ledger with
        transferExportedOre := ore
        transferExportedRefined := refined
        transferExportedComponents := components }
  rejectIf (w.transferWitnesses.contains witness.transferId)
    (.committedStateRejected "transfer witness was already present")
  return { w with
    ledger
    transferWitnesses := w.transferWitnesses.insert witness.transferId witness }

/-! ## What the directory must have recorded -/

/-- `validate_transfer_identity`. -/
def validateTransferIdentity (package : PlayerTransferPackage) (transfer : CellTransferRecord) :
    Handoff Unit :=
  rejectIf (transfer.aggregateKind ≠ .player
      ∨ transfer.transferId ≠ package.transferId
      ∨ transfer.aggregateId ≠ package.aggregateId
      ∨ transfer.sourceCellKey ≠ package.sourceCellKey
      ∨ transfer.sourceCellId ≠ package.sourceCellId
      ∨ transfer.destinationCellKey ≠ package.destinationCellKey
      ∨ transfer.destinationCellId ≠ package.destinationCellId
      ∨ transfer.sourceAssignmentGeneration ≠ package.sourceAssignmentGeneration
      ∨ transfer.destinationAssignmentGeneration ≠ package.destinationAssignmentGeneration
      ∨ transfer.priorPlacementGeneration ≠ package.priorPlacementGeneration
      ∨ transfer.resultingPlacementGeneration ≠ package.resultingPlacementGeneration
      ∨ transfer.packageHash ≠ package.packageHash)
    (.committedStateRejected "directory commit does not match the immutable player package")

/-- `validate_committed_transfer`. -/
def validateCommittedTransfer (package : PlayerTransferPackage)
    (transfer : CellTransferRecord) : Handoff Unit := do
  rejectIf (¬ (transfer.phase = .committed ∨ transfer.phase = .imported
      ∨ transfer.phase = .finalized))
    (.committedStateRejected "directory transfer has not crossed its commit point")
  validateTransferIdentity package transfer
  rejectIf (transfer.quarantineReceiptHash = none)
    (.committedStateRejected "committed directory transfer has no quarantine receipt")

/-- `validate_prepared_transfer`. -/
def validatePreparedTransfer (package : PlayerTransferPackage)
    (transfer : CellTransferRecord) : Handoff Unit := do
  rejectIf (¬ (transfer.phase = .prepared ∨ transfer.phase = .quarantined))
    (.committedStateRejected "directory transfer is not in a lockable precommit phase")
  validateTransferIdentity package transfer

/-- The player, inventory and history of a package, exactly as a cell holds them. -/
def holdsSubject (w : WorldState) (package : PlayerTransferPackage) (player : Player) : Prop :=
  w.player.byId.get? package.aggregateId = some player
    ∧ w.inventories.get? package.inventory.inventoryId = some package.inventory
    ∧ w.processedOperations.get? package.aggregateId = package.operationHistory

instance (w : WorldState) (package : PlayerTransferPackage) (player : Player) :
    Decidable (holdsSubject w package player) :=
  inferInstanceAs (Decidable (_ ∧ _ ∧ _))

/-- None of the three is there. -/
def lacksSubject (w : WorldState) (package : PlayerTransferPackage) : Prop :=
  w.player.byId.get? package.aggregateId = none
    ∧ w.inventories.get? package.inventory.inventoryId = none
    ∧ w.processedOperations.get? package.aggregateId = none

instance (w : WorldState) (package : PlayerTransferPackage) :
    Decidable (lacksSubject w package) :=
  inferInstanceAs (Decidable (_ ∧ _ ∧ _))

/-! ## Quarantine -/

/-- `quarantine_eva_player_transfer`. -/
def quarantineEvaPlayerTransfer (destination : WorldState) (destinationFencingToken : Nat)
    (package : PlayerTransferPackage) : Handoff PlayerTransferQuarantineReceipt := do
  package.validate host
  (destination.validatePlayerRoster host).mapError .quarantineRejected
  let destinationKey ← (host.cellKeyFromAddress destination.cellAddress).mapError
    HandoffError.quarantineRejected
  rejectIf (destinationKey ≠ package.destinationCellKey
      ∨ destination.cellId ≠ package.destinationCellId
      ∨ destination.universeId ≠ package.universeId
      ∨ destination.universeManifestHash ≠ package.universeManifestHash
      ∨ destination.celestialRegistryHash ≠ package.celestialRegistryHash
      ∨ destination.contentManifestVersion ≠ package.contentManifestVersion
      ∨ destination.fencingToken ≠ destinationFencingToken
      ∨ destinationFencingToken = 0
      ∨ ¬ lacksSubject destination package
      ∨ (∃ reservation ∈ destination.playerTransferReservations.values,
          reservation.transferId = package.transferId
            ∨ reservation.playerId = package.aggregateId
            ∨ reservation.inventoryId = package.inventory.inventoryId))
    (.quarantineRejected "destination identity, fence, roots, or subject absence is invalid")
  let unhashed : PlayerTransferQuarantineReceipt := {
    schemaVersion := transferPackageSchemaVersion
    transferId := package.transferId
    packageHash := package.packageHash
    destinationCellId := destination.cellId
    destinationAssignmentGeneration := package.destinationAssignmentGeneration
    destinationFencingToken
    destinationEventSequence := destination.eventSequence
    destinationWorldHash := destination.stateHash host
    receiptHash := "" }
  let receipt := { unhashed with receiptHash := unhashed.calculateHash host }
  receipt.validate host
  return receipt

/-- `stage_eva_player_quarantine`. -/
def stageEvaPlayerQuarantine (destination : WorldState) (destinationFencingToken : Nat)
    (package : PlayerTransferPackage) :
    Handoff (WorldState × PlayerTransferQuarantineReceipt) := do
  package.validate host
  match destination.playerTransferReservations.get? package.transferId with
  | some existing =>
    let receipt := receiptFromReservation existing
    rejectIf (existing ≠ transferReservation package receipt)
      (.quarantineRejected "quarantine retry conflicts with the durable destination reservation")
    receipt.validate host
    validateStagedWorld host destination
    return (destination, receipt)
  | none =>
    let receipt ← quarantineEvaPlayerTransfer host destination destinationFencingToken package
    let staged := { destination with
      playerTransferReservations := destination.playerTransferReservations.insert
        package.transferId (transferReservation package receipt) }
    validateStagedWorld host staged
    return (staged, receipt)

/-! ## Lock, export and import -/

/-- `stage_prepared_eva_lock`. -/
def stagePreparedEvaLock (source : WorldState) (package : PlayerTransferPackage)
    (transfer : CellTransferRecord) : Handoff WorldState := do
  package.validate host
  validatePreparedTransfer package transfer
  match source.playerTransferLocks.get? package.aggregateId with
  | some existing =>
    rejectIf (existing ≠ playerTransferLock package)
      (.committedStateRejected "player is already locked by different transfer material")
    validateStagedWorld host source
    return source
  | none =>
    rejectIf (source.cellId ≠ package.sourceCellId
        ∨ source.fencingToken < package.sourceFencingToken
        ∨ ¬ holdsSubject source package package.sourcePlayer)
      (.committedStateRejected "source transfer closure no longer matches the prepared package")
    rejectIf (∃ job ∈ source.jobs, job.sourceInventoryId = package.inventory.inventoryId
        ∨ job.destinationInventoryId = package.inventory.inventoryId)
      (.committedStateRejected "carried inventory is still referenced by a production queue")
    let staged := { source with
      playerTransferLocks := source.playerTransferLocks.insert package.aggregateId
        (playerTransferLock package) }
    validateStagedWorld host staged
    return staged

/-- The world without a player that has been exported, before the witness is added. -/
def withoutSubject (w : WorldState) (package : PlayerTransferPackage) : WorldState :=
  let byId := w.player.byId.erase package.aggregateId
  { w with
    player := {
      primaryPlayerId :=
        if w.player.primaryPlayerId = package.aggregateId then byId.keys.head?.getD ""
        else w.player.primaryPlayerId
      byId }
    inventories := w.inventories.erase package.inventory.inventoryId
    processedOperations := w.processedOperations.erase package.aggregateId
    playerTransferLocks := w.playerTransferLocks.erase package.aggregateId }

/-- `stage_committed_eva_export`. -/
def stageCommittedEvaExport (source : WorldState) (package : PlayerTransferPackage)
    (transfer : CellTransferRecord) : Handoff WorldState := do
  package.validate host
  validateCommittedTransfer package transfer
  let witness := transferWitness package .exporting
  match source.transferWitnesses.get? package.transferId with
  | some existing =>
    rejectIf (existing ≠ witness ∨ ¬ lacksSubject source package)
      (.committedStateRejected "source retry conflicts with the durable export witness")
    validateStagedWorld host source
    return source
  | none =>
    rejectIf (source.cellId ≠ package.sourceCellId
        ∨ source.fencingToken < package.sourceFencingToken
        ∨ source.playerTransferLocks.get? package.aggregateId
            ≠ some (playerTransferLock package)
        ∨ ¬ holdsSubject source package package.sourcePlayer)
      (.committedStateRejected "source world no longer matches the exact prepared package")
    let staged ← addTransferWitness (withoutSubject source package) witness
    validateStagedWorld host staged
    return staged

/-- The world with a player that has been imported, before the witness is added. -/
def withSubject (w : WorldState) (package : PlayerTransferPackage) : WorldState :=
  { w with
    player := {
      primaryPlayerId :=
        if w.player.byId = OrdMap.empty then package.aggregateId else w.player.primaryPlayerId
      byId := w.player.byId.insert package.aggregateId package.destinationPlayer }
    inventories := w.inventories.insert package.inventory.inventoryId package.inventory
    processedOperations :=
      match package.operationHistory with
      | some history => w.processedOperations.insert package.aggregateId history
      | none => w.processedOperations
    playerTransferReservations := w.playerTransferReservations.erase package.transferId }

/-- `stage_committed_eva_import`. -/
def stageCommittedEvaImport (destination : WorldState) (package : PlayerTransferPackage)
    (receipt : PlayerTransferQuarantineReceipt) (transfer : CellTransferRecord) :
    Handoff WorldState := do
  package.validate host
  receipt.validate host
  validateCommittedTransfer package transfer
  rejectIf (receipt.transferId ≠ package.transferId
      ∨ receipt.packageHash ≠ package.packageHash
      ∨ receipt.destinationCellId ≠ package.destinationCellId
      ∨ receipt.destinationAssignmentGeneration ≠ package.destinationAssignmentGeneration
      ∨ transfer.quarantineReceiptHash ≠ some receipt.receiptHash)
    (.committedStateRejected "quarantine receipt is not bound to the committed transfer")
  let witness := transferWitness package .importing
  match destination.transferWitnesses.get? package.transferId with
  | some existing =>
    rejectIf (existing ≠ witness ∨ ¬ holdsSubject destination package package.destinationPlayer)
      (.committedStateRejected "destination retry conflicts with the durable import witness")
    validateStagedWorld host destination
    return destination
  | none =>
    rejectIf (destination.cellId ≠ package.destinationCellId
        ∨ destination.fencingToken < receipt.destinationFencingToken
        ∨ destination.playerTransferReservations.get? package.transferId
            ≠ some (transferReservation package receipt)
        ∨ ¬ lacksSubject destination package)
      (.committedStateRejected "destination world no longer matches the exact quarantine boundary")
    let staged ← addTransferWitness (withSubject destination package) witness
    validateStagedWorld host staged
    return staged

/-! ## Abort -/

/-- The destination half of `stage_aborted_eva_unlock`. -/
def stageAbortedAtDestination (cell : WorldState) (package : PlayerTransferPackage)
    (transfer : CellTransferRecord) : Handoff WorldState := do
  rejectIf (cell.player.byId.get? package.aggregateId ≠ none
      ∨ cell.inventories.contains package.inventory.inventoryId
      ∨ cell.transferWitnesses.contains package.transferId)
    (.committedStateRejected "an aborted transfer cannot remove an imported destination subject")
  match cell.playerTransferReservations.get? package.transferId with
  | none =>
    validateStagedWorld host cell
    return cell
  | some existing =>
    rejectIf (existing.transferId ≠ package.transferId
        ∨ existing.packageHash ≠ package.packageHash
        ∨ transfer.quarantineReceiptHash ≠ some existing.receiptHash
        ∨ existing.sourceCellId ≠ package.sourceCellId
        ∨ existing.destinationCellId ≠ package.destinationCellId
        ∨ existing.playerId ≠ package.aggregateId
        ∨ existing.inventoryId ≠ package.inventory.inventoryId
        ∨ existing.destinationAssignmentGeneration ≠ package.destinationAssignmentGeneration
        ∨ existing.priorPlacementGeneration ≠ package.priorPlacementGeneration
        ∨ existing.resultingPlacementGeneration ≠ package.resultingPlacementGeneration)
      (.committedStateRejected
        "aborted transfer does not match the destination quarantine reservation")
    let staged := { cell with
      playerTransferReservations := cell.playerTransferReservations.erase package.transferId }
    validateStagedWorld host staged
    return staged

/-- The source half of `stage_aborted_eva_unlock`. -/
def stageAbortedAtSource (cell : WorldState) (package : PlayerTransferPackage) :
    Handoff WorldState := do
  match cell.playerTransferLocks.get? package.aggregateId with
  | none =>
    rejectIf (cell.player.byId.get? package.aggregateId = none
        ∨ cell.inventories.contains package.inventory.inventoryId = false
        ∨ cell.transferWitnesses.contains package.transferId)
      (.committedStateRejected "aborted source cleanup no longer has one live subject closure")
    validateStagedWorld host cell
    return cell
  | some existing =>
    rejectIf (existing ≠ playerTransferLock package
        ∨ ¬ holdsSubject cell package package.sourcePlayer)
      (.committedStateRejected "aborted transfer does not match the locked source closure")
    let staged := { cell with
      playerTransferLocks := cell.playerTransferLocks.erase package.aggregateId }
    validateStagedWorld host staged
    return staged

/-- `stage_aborted_eva_unlock`. -/
def stageAbortedEvaUnlock (cell : WorldState) (package : PlayerTransferPackage)
    (transfer : CellTransferRecord) : Handoff WorldState := do
  package.validate host
  rejectIf (transfer.phase ≠ .aborting)
    (.committedStateRejected "only a directory-aborting transfer may clean its cell state")
  validateTransferIdentity package transfer
  if cell.cellId = package.destinationCellId then
    stageAbortedAtDestination host cell package transfer
  else do
    rejectIf (cell.cellId ≠ package.sourceCellId)
      (.committedStateRejected "aborted transfer cleanup was presented to an unrelated cell")
    stageAbortedAtSource host cell package

end Verse
