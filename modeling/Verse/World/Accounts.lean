import Verse.World.Validate

/-!
# Conservation and operation histories

`conservation` weighs what a cell holds against what its ledger says was ever produced:
carried and stored contents, what machines have reserved or still owe, and the components
standing in blocks. Every event ends with it. The inventory and ledger sums are plain `u64`
additions, the sums over machine jobs saturate.

`record_processed_operation` is the other thing every client event ends with: the actor's
history grows by one record and gives up its oldest ones, folded into one hash, until it is
within its bounds again.
-/

namespace Verse

open Lib

/-! ## Conservation -/

structure ConservationSnapshot where
  (oreSources oreLive oreConsumed refinedSources refinedLive refinedConsumed componentSources : Nat)
  (componentsLive componentsInstalledOrDestroyed : Nat)
  valid : Bool
deriving DecidableEq, Repr

/-- A sum of plain additions, which stops the process once it no longer fits a counter. -/
def fits (total : Nat) : Except IntentError Nat :=
  if total ≤ u64Max then .ok total
  else .error (.panicked "attempt to add with overflow")

namespace WorldState

/-- The jobs of every machine. -/
def jobs (w : WorldState) : List ProductionJob := w.productionQueues.values.flatten

/-- What the inventories hold of one resource. -/
def inventoryTotal (w : WorldState) (resource : ResourceKind) : Nat :=
  w.inventories.sumBy fun inventory => inventory.contents.amount resource

/-- Saturating addition of what the jobs have reserved or still owe. -/
def addJobs (w : WorldState) (resource : ResourceKind) (live : Nat) : Nat :=
  w.jobs.foldl (fun live job =>
    saturatingAdd (saturatingAdd live (job.reservedInputs.amount resource))
      (job.pendingOutputs.amount resource)) live

/-- The components standing in blocks. -/
def liveBlocks (w : WorldState) : Nat :=
  w.grids.sumBy fun grid => grid.blocks.sumBy Block.componentCost

def conservation (w : WorldState) : Except IntentError ConservationSnapshot := do
  let oreLive := w.addJobs .ore (← fits (w.inventoryTotal .ore))
  let refinedLive := w.addJobs .refinedMaterial (← fits (w.inventoryTotal .refinedMaterial))
  let componentsLive := w.addJobs .component (← fits (w.inventoryTotal .component))
  let liveBlocks ← fits w.liveBlocks
  let oreSources ← fits
    (w.ledger.genesisOre + w.ledger.minedOre + w.ledger.transferImportedOre)
  let oreConsumed ← fits
    (w.ledger.refineBatches * Content.refiningOreInput + w.ledger.transferExportedOre)
  let refinedSources ← fits
    (w.ledger.genesisRefined + w.ledger.refineBatches * Content.refiningRefinedOutput
      + w.ledger.transferImportedRefined)
  let refinedConsumed ← fits
    (w.ledger.craftedComponents * Content.craftingRefinedInput + w.ledger.transferExportedRefined)
  let componentSources ← fits
    (w.ledger.genesisComponents + w.ledger.genesisInstalledComponents
      + w.ledger.craftedComponents * Content.craftingComponentOutput
      + w.ledger.transferImportedComponents)
  let componentsInstalledOrDestroyed ← fits
    (liveBlocks + w.ledger.destroyedComponents + w.ledger.transferExportedComponents)
  let ore ← fits (oreLive + oreConsumed)
  let refined ← fits (refinedLive + refinedConsumed)
  let components ← fits (componentsLive + componentsInstalledOrDestroyed)
  return {
    oreSources, oreLive, oreConsumed, refinedSources, refinedLive, refinedConsumed,
    componentSources, componentsLive, componentsInstalledOrDestroyed
    valid := decide (oreSources = ore) && decide (refinedSources = refined)
      && decide (componentSources = components) }

end WorldState

/-! ## Operation histories -/

variable (host : Host)

/-- `WorldState::state_hash`: the fence is operational and stays out of the hash. -/
def WorldState.stateHash (w : WorldState) : String :=
  host.stateHash w.unfenced

/-- `operation_history_crosses_retention_bound`. -/
def operationHistoryCrossesRetentionBound (history : ActorOperationHistory) : Bool :=
  decide (history.retained.size > processedOperationRetentionLimit) ||
    decide (host.processedOperationRetainedBytes history.retained
      > processedOperationRetainedBytesLimit) ||
    history.retained.values.any fun record =>
      decide (host.processedOperationRecordBytes record > processedOperationRecordBytesLimit)

/-- The oldest retained record folded into the compacted hash. -/
def compactOldest (history : ActorOperationHistory) (sequence : Nat)
    (record : ProcessedOperationRecord) : ActorOperationHistory :=
  { history with
    compactedHistoryHash := host.compactionHash history.compactedHistoryHash sequence record
    retained := history.retained.erase sequence
    compactedThrough := sequence }

/-- The compaction loop. Each turn gives up a record, so the number of records is fuel
    enough. -/
def compactHistory : (fuel : Nat) → ActorOperationHistory → ActorOperationHistory
  | 0, history => history
  | fuel + 1, history =>
    if operationHistoryCrossesRetentionBound host history then
      match history.retained.entries with
      | [] => history
      | (sequence, record) :: _ =>
        compactHistory fuel (compactOldest host history sequence record)
    else history

namespace WorldState

def lastOperationSequence (w : WorldState) (actorPlayerId : String) : Nat :=
  match w.processedOperations.get? actorPlayerId with
  | some history => history.committedThrough
  | none => 0

/-- The history an actor has, or the empty one a first record starts. -/
def operationHistory (w : WorldState) (actorPlayerId : String) : ActorOperationHistory :=
  (w.processedOperations.get? actorPlayerId).getD .fresh

def recordProcessedOperation (w : WorldState) (actorPlayerId : String)
    (record : ProcessedOperationRecord) : Except String WorldState := do
  rejectIf (isBlank record.operationId
      ∨ record.operationId.utf8ByteSize > 128
      ∨ validBlake3Hex record.intentFingerprint = false
      ∨ validBlake3Hex record.receiptOriginCellId = false
      ∨ record.receipt.operationId ≠ record.operationId
      ∨ record.receipt.eventSequence = 0
      ∨ (record.receiptOriginCellId = w.cellId ∧ record.receipt.eventSequence > w.eventSequence)
      ∨ isBlank record.receipt.code)
    "processed operation record identity is invalid"
  let history := w.operationHistory actorPlayerId
  let expected ← demand (checkedAdd history.committedThrough 1)
    "operation sequence space is exhausted"
  rejectIf (record.receipt.operationSequence ≠ expected)
    s!"operation sequence {record.receipt.operationSequence} does not match expected {expected}"
  rejectIf (∃ prior ∈ history.retained.values,
      prior.receiptOriginCellId = record.receiptOriginCellId
        ∧ prior.receipt.eventSequence ≥ record.receipt.eventSequence)
    "processed operation receipt event sequences must advance monotonically within each origin cell"
  let grown := { history with
    committedThrough := expected
    retained := history.retained.insert expected record }
  let recorded := compactHistory host grown.retained.size grown
  return { w with
    processedOperations := w.processedOperations.insert actorPlayerId recorded }

end WorldState
end Verse
