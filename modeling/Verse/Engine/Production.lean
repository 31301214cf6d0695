import Verse.Engine.Access

/-!
# Machine work

Production is scheduled, not requested: once a second the cell plans what every machine with a
queue does next, in the order of grid and machine, each machine seeing what the ones before it
delivered. The event carries the plan; applying it plans again and compares.

A job that finishes pays its owner at once, whoever and wherever that player is in the roster,
and delivers if the destination has room; otherwise the output waits at the head of the queue.
-/

namespace Verse

open Lib

variable (host : Host)

/-- `PRODUCTION_SCHEDULE_OCCURRENCE_SCHEMA_VERSION`. -/
def productionScheduleOccurrenceSchemaVersion : Nat := 1

namespace WorldState

/-- The head of a machine's queue. -/
def queueHead (w : WorldState) (machineBlockId : String) : Option ProductionJob :=
  (w.productionQueues.get? machineBlockId).bind List.head?

/-- `validate_next_production_occurrence`. -/
def validateNextProductionOccurrence (w : WorldState)
    (occurrence : ProductionScheduleOccurrence) : Intent Unit := do
  let expectedSequence ← demand
    (checkedAdd w.productionClock.lastCommittedQuantumSequence 1)
    (.rejected "production_occurrence_exhausted" "production occurrence sequence is exhausted")
  let timeIsValid : Bool :=
    if w.productionClock.lastCommittedQuantumSequence = 0 then
      occurrence.scheduledForUnixMs > 0
    else match checkedAdd w.productionClock.lastScheduledForUnixMs 1000 with
      | some earliest => occurrence.scheduledForUnixMs ≥ earliest
      | none => false
  rejectIf (occurrence.schemaVersion ≠ productionScheduleOccurrenceSchemaVersion
      ∨ occurrence.universeId ≠ w.universeId
      ∨ occurrence.cellId ≠ w.cellId
      ∨ occurrence.lifecycleGeneration ≠ w.productionClock.lifecycleGeneration
      ∨ occurrence.productionQuantumSequence ≠ expectedSequence
      ∨ occurrence.universeManifestHash ≠ w.universeManifestHash
      ∨ occurrence.celestialRegistryHash ≠ w.celestialRegistryHash
      ∨ timeIsValid = false)
    (.rejected "production_occurrence_invalid"
      "production occurrence is not the exact next trusted cell quantum")

/-- What the head job of a machine does in one second. -/
def productionJobOutcome (w : WorldState) (machineBlockId : String) (grid : Grid)
    (machine : Block) (job : ProductionJob) : Intent ProductionMachineOutcome := do
  let base (kind : ProductionMachineOutcomeKind) (newProgressTicks : Nat)
      (outputs : InventoryContents) : ProductionMachineOutcome := {
    gridId := grid.gridId
    machineBlockId
    jobId := job.jobId
    kind
    previousProgressTicks := job.progressTicks
    newProgressTicks
    destinationInventoryId := job.destinationInventoryId
    outputs }
  if machine.constructionComplete = false
      ∨ Content.machineSupportsRecipe machine.kind job.recipe = false then
    return base .pausedMachine job.progressTicks .empty
  else if host.powerOnline grid = false then
    return base .pausedPower job.progressTicks .empty
  else if w.productionRouteExists machineBlockId job.sourceInventoryId = false
      ∨ w.productionRouteExists machineBlockId job.destinationInventoryId = false then
    return base .pausedRoute job.progressTicks .empty
  else if job.progressTicks = job.durationTicks then do
    let destination ← w.inventory job.destinationInventoryId
    if destination.canAddContents job.pendingOutputs = false then
      return base .outputBlocked job.progressTicks job.pendingOutputs
    else return base .outputDelivered job.progressTicks job.pendingOutputs
  else do
    let newProgressTicks :=
      min (saturatingAdd job.progressTicks Content.fixedStepHz) job.durationTicks
    if newProgressTicks ≠ job.durationTicks then
      return base .advanced newProgressTicks .empty
    else do
      let (_, outputs, _) ← demand (productionRecipeQuantities job.recipe job.batches)
        (.rejected "production_job_invalid"
          "queued production quantities no longer match registered content")
      let destination ← w.inventory job.destinationInventoryId
      if destination.canAddContents outputs then
        return base .completedAndDelivered newProgressTicks outputs
      else return base .completed newProgressTicks outputs

/-- `production_machine_outcome_after_one_second`. -/
def productionMachineOutcome (w : WorldState) (machineBlockId : String) :
    Intent ProductionMachineOutcome := do
  let job ← demand (w.queueHead machineBlockId)
    (.rejected "production_job_missing" "a scheduled production machine has no queue head")
  let (grid, machine) ← demand (w.blockGrid machineBlockId)
    (.rejected "production_machine_missing"
      "a queued production machine is missing from canonical state")
  w.productionJobOutcome host machineBlockId grid machine job

/-! ## Applying an outcome -/

/-- Replace the head of a queue that is known to have one. -/
def withQueueHead (w : WorldState) (machineBlockId : String)
    (update : ProductionJob → ProductionJob) : WorldState :=
  { w with productionQueues := w.productionQueues.modify machineBlockId fun queue =>
      match queue with
      | [] => []
      | job :: rest => update job :: rest }

/-- `pop_production_queue_head`: an emptied queue is dropped. -/
def popProductionQueueHead (w : WorldState) (machineBlockId : String) : WorldState :=
  match w.productionQueues.get? machineBlockId with
  | some (_ :: job :: rest) =>
    { w with productionQueues := w.productionQueues.insert machineBlockId (job :: rest) }
  | _ => { w with productionQueues := w.productionQueues.erase machineBlockId }

/-- The ledger entry of a finished job. -/
def recordCompletion (w : WorldState) (job : ProductionJob) : Intent WorldState :=
  match job.recipe with
  | .refining => do
    let refineBatches ← demand (checkedAdd w.ledger.refineBatches job.batches)
      (.rejected "replay_production_ledger_invalid"
        "refining completion overflows the canonical ledger")
    return { w with ledger := { w.ledger with refineBatches } }
  | .component => do
    let craftedComponents ← demand (checkedAdd w.ledger.craftedComponents job.batches)
      (.rejected "replay_production_ledger_invalid"
        "component completion overflows the canonical ledger")
    return { w with ledger := { w.ledger with craftedComponents } }

end WorldState

/-- What finishing a job adds to the record of its owner. -/
def Player.creditCompletion (player : Player) (job : ProductionJob) : Player :=
  match job.recipe with
  | .refining => { player with
      experience := saturatingAdd player.experience
        (saturatingMul job.batches Content.rewardRefiningBatch)
      career := { player.career with
        refiningBatches := saturatingAdd player.career.refiningBatches job.batches } }
  | .component => { player with
      experience := saturatingAdd player.experience
        (saturatingMul job.batches Content.rewardCraftedComponent)
      career := { player.career with
        componentsCrafted := saturatingAdd player.career.componentsCrafted job.batches } }

namespace WorldState

/-- The owner of a finished job is paid, present or about to leave. -/
def creditOwner (w : WorldState) (job : ProductionJob) : Intent WorldState := do
  let owner ← demand (w.player.byId.get? job.ownerPlayerId)
    (.rejected "replay_production_owner_missing"
      "production completion owner is not present in the canonical roster")
  return w.withPlayer job.ownerPlayerId (owner.creditCompletion job)

/-- Finished goods arrive in an inventory. -/
def deliver (w : WorldState) (inventoryId : String) (outputs : InventoryContents) :
    Intent WorldState := do
  let destination ← w.inventory inventoryId
  let contents ← destination.contents.add outputs
  return w.withContents inventoryId contents

/-- `apply_production_machine_outcome`. -/
def applyProductionMachineOutcome (w : WorldState) (outcome : ProductionMachineOutcome) :
    Intent WorldState :=
  match outcome.kind with
  | .pausedPower | .pausedRoute | .pausedMachine | .outputBlocked => return w
  | .advanced => do
    let _ ← demand (w.queueHead outcome.machineBlockId)
      (.panicked "validated production queue head exists")
    return w.withQueueHead outcome.machineBlockId fun job =>
      { job with progressTicks := outcome.newProgressTicks }
  | .completed => do
    let job ← demand (w.queueHead outcome.machineBlockId)
      (.panicked "validated production completion has a queue head")
    let w ← w.recordCompletion job
    let w ← w.creditOwner job
    return w.withQueueHead outcome.machineBlockId fun head => { head with
      progressTicks := outcome.newProgressTicks
      reservedInputs := .empty
      pendingOutputs := outcome.outputs }
  | .completedAndDelivered => do
    let job ← demand (w.queueHead outcome.machineBlockId)
      (.panicked "validated production completion has a queue head")
    let w ← w.recordCompletion job
    let w ← w.creditOwner job
    let w ← w.deliver outcome.destinationInventoryId outcome.outputs
    return w.popProductionQueueHead outcome.machineBlockId
  | .outputDelivered => do
    let w ← w.deliver outcome.destinationInventoryId outcome.outputs
    let _ ← demand (w.queueHead outcome.machineBlockId)
      (.panicked "validated production queue exists")
    return w.popProductionQueueHead outcome.machineBlockId

/-! ## A whole quantum -/

/-- The machines with a queue, in the order of grid and machine. -/
def scheduledMachines (w : WorldState) : Intent (List String) := do
  let located ← w.productionQueues.keys.mapM fun machineBlockId =>
    demand ((w.blockGrid machineBlockId).map fun found => (found.1.gridId, machineBlockId))
      (.rejected "production_machine_missing"
        "a queued production machine is missing from canonical state")
  return (located.mergeSort fun a b => decide (toLex a ≤ toLex b)).map Prod.snd

/-- An outcome that changes nothing is not applied. -/
def applyOutcome (w : WorldState) (outcome : ProductionMachineOutcome) : Intent WorldState :=
  if outcome.changesState then w.applyProductionMachineOutcome outcome else return w

/-- One machine of the plan: its outcome, and the state the next machine sees. -/
def planMachine (w : WorldState) (machineBlockId : String) :
    Intent (WorldState × ProductionMachineOutcome) := do
  let outcome ← w.productionMachineOutcome host machineBlockId
  let next ← w.applyOutcome outcome
  return (next, outcome)

/-- The outcomes of a list of machines, each planned after the ones before it. -/
def planMachines (w : WorldState) : List String → Intent (List ProductionMachineOutcome)
  | [] => return []
  | machineBlockId :: rest => do
    let (next, outcome) ← w.planMachine host machineBlockId
    let outcomes ← planMachines next rest
    return outcome :: outcomes

/-- `production_quantum_payload`. -/
def productionQuantumPayload (w : WorldState) (occurrence : ProductionScheduleOccurrence) :
    Intent EventPayload := do
  w.validateNextProductionOccurrence occurrence
  let scheduled ← w.scheduledMachines
  let outcomes ← w.planMachines host scheduled
  return .productionQuantumCommitted occurrence Content.fixedStepHz outcomes

/-- The state-changing outcomes of a quantum, in order. -/
def applyOutcomes (w : WorldState) : List ProductionMachineOutcome → Intent WorldState
  | [] => return w
  | outcome :: rest => do
    let w ← w.applyOutcome outcome
    applyOutcomes w rest

end WorldState
end Verse
