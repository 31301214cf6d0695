import Verse.Engine.Apply

/-!
# The production schedule

A cell whose machines would change something in one more second has a next occurrence: the
quantum that follows the last committed one, at a time. What the next occurrence is after an
event depends on three things only, whether the cell was runnable before, whether it is now,
and whether the event was itself a quantum; the rest of the event does not matter.
-/

namespace Verse

open Lib

variable (host : Host)

/-- `MAX_BACKGROUND_QUEUE_BEARING_MACHINES`. -/
def maxBackgroundQueueBearingMachines : Nat := 256

namespace WorldState

/-- `production_occurrence_is_committed`: the occurrence is the frontier of the clock. -/
def productionOccurrenceIsCommitted (w : WorldState) (occurrence : ProductionScheduleOccurrence) :
    Bool :=
  occurrence.schemaVersion == productionScheduleOccurrenceSchemaVersion
    && occurrence.universeId == w.universeId
    && occurrence.cellId == w.cellId
    && occurrence.lifecycleGeneration == w.productionClock.lifecycleGeneration
    && occurrence.productionQuantumSequence == w.productionClock.lastCommittedQuantumSequence
    && occurrence.scheduledForUnixMs == w.productionClock.lastScheduledForUnixMs
    && occurrence.universeManifestHash == w.universeManifestHash
    && occurrence.celestialRegistryHash == w.celestialRegistryHash

/-- Whether one of the machines would change something; the first that would ends the search. -/
def anyRunnable (w : WorldState) : List String → Intent Bool
  | [] => return false
  | machineBlockId :: rest => do
    let outcome ← w.productionMachineOutcome host machineBlockId
    if outcome.changesState then return true else anyRunnable w rest

/-- `background_production_is_runnable`. -/
def backgroundProductionIsRunnable (w : WorldState) : Intent Bool := do
  rejectIf (w.productionQueues.size > maxBackgroundQueueBearingMachines)
    (.rejected "background_machine_budget_exceeded"
      s!"background production supports at most {maxBackgroundQueueBearingMachines} queue-bearing machines")
  let scheduled ← w.scheduledMachines
  w.anyRunnable host scheduled

/-- `next_production_occurrence_at`. The time `next_active_production_occurrence` works out is
    dropped at once, but not before it has refused a clock at its end. -/
def nextProductionOccurrenceAt (w : WorldState) (scheduledForUnixMs : Nat) :
    Intent ProductionScheduleOccurrence := do
  let productionQuantumSequence ← demand
    (checkedAdd w.productionClock.lastCommittedQuantumSequence 1)
    (.rejected "production_occurrence_exhausted" "production occurrence sequence is exhausted")
  rejectIf (w.productionClock.lastScheduledForUnixMs ≠ 0
      ∧ checkedAdd w.productionClock.lastScheduledForUnixMs 1000 = none)
    (.rejected "production_clock_exhausted" "production scheduled time is exhausted")
  return {
    schemaVersion := productionScheduleOccurrenceSchemaVersion
    universeId := w.universeId
    cellId := w.cellId
    lifecycleGeneration := w.productionClock.lifecycleGeneration
    productionQuantumSequence
    scheduledForUnixMs
    universeManifestHash := w.universeManifestHash
    celestialRegistryHash := w.celestialRegistryHash }

/-- One second after a time, unless it is the last. -/
def oneSecondAfter (unixMs : Nat) : Intent Nat :=
  demand (checkedAdd unixMs 1000)
    (.rejected "production_clock_exhausted" "production scheduled time is exhausted")

/-- `resulting_next_production_occurrence`, in a cell whose durable next occurrence is
    `durableNext`. -/
def resultingNextProductionOccurrence (durableNext : Option ProductionScheduleOccurrence)
    (priorRunnable : Bool) (resulting : WorldState) (event : CanonicalEvent) :
    Intent (Option ProductionScheduleOccurrence) := do
  let resultingRunnable ← resulting.backgroundProductionIsRunnable host
  if resultingRunnable = false then return none
  else match event.payload with
    | .productionQuantumCommitted occurrence _ _ => do
      let scheduledForUnixMs ← oneSecondAfter occurrence.scheduledForUnixMs
      some <$> resulting.nextProductionOccurrenceAt scheduledForUnixMs
    | _ =>
      if priorRunnable then
        some <$> demand durableNext
          (.rejected "production_schedule_missing"
            "runnable production has no durable next occurrence")
      else do
        -- A cell that wakes is scheduled from whichever is later: now, or its last quantum.
        let fromTrustedBoundary ← oneSecondAfter event.occurredAtUnixMs
        let afterCommittedCursor ←
          oneSecondAfter resulting.productionClock.lastScheduledForUnixMs
        some <$> resulting.nextProductionOccurrenceAt
          (max fromTrustedBoundary afterCommittedCursor)

end WorldState
end Verse
