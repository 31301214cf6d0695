import Verse.Engine.Frame
import Verse.Engine.Schedule
import Verse.Lib.Run

/-!
# The production clock

The clock of a cell is the number and the time of its last quantum. Only a quantum moves it, and
an accepted quantum is the next one: numbered one more, and at least a second later than the
one before if there was one. Along a run the quanta are therefore numbered without a gap and
stand at least a second apart, whatever happens between them.
-/

namespace Verse

open Lib

/-- The occurrence a payload commits, if it is a quantum. -/
def EventPayload.occurrence? : EventPayload → Option ProductionScheduleOccurrence
  | .productionQuantumCommitted occurrence _ _ => some occurrence
  | _ => none

/-- The quanta among some events, in order. -/
def quanta (events : List CanonicalEvent) : List ProductionScheduleOccurrence :=
  events.filterMap fun event => event.payload.occurrence?

namespace ProductionClock

/-- The clock after a quantum, or after anything else. -/
def advanced (clock : ProductionClock) :
    Option ProductionScheduleOccurrence → ProductionClock
  | some occurrence => { clock with
      lastCommittedQuantumSequence := occurrence.productionQuantumSequence
      lastScheduledForUnixMs := occurrence.scheduledForUnixMs }
  | none => clock

/-- An occurrence that may be the next quantum of a clock: numbered one more than the last, and
    a second after it unless it is the first. -/
def Precedes (clock : ProductionClock) (occurrence : ProductionScheduleOccurrence) : Prop :=
  occurrence.productionQuantumSequence = clock.lastCommittedQuantumSequence + 1
    ∧ (clock.lastCommittedQuantumSequence ≠ 0 →
        clock.lastScheduledForUnixMs + 1000 ≤ occurrence.scheduledForUnixMs)

/-- Quanta that follow a clock and one another. -/
def Counts : ProductionClock → List ProductionScheduleOccurrence → Prop
  | _, [] => True
  | clock, occurrence :: rest =>
    clock.Precedes occurrence ∧ Counts (clock.advanced (some occurrence)) rest

variable {clock : ProductionClock} {occurrence : ProductionScheduleOccurrence}
  {occurrences : List ProductionScheduleOccurrence}

theorem Counts.numbered (h : clock.Counts occurrences) :
    occurrences.map (·.productionQuantumSequence)
      = List.range' (clock.lastCommittedQuantumSequence + 1) occurrences.length := by
  induction occurrences generalizing clock with
  | nil => rfl
  | cons occurrence rest ih =>
    obtain ⟨hnext, hrest⟩ := h
    rw [List.map_cons, List.length_cons, List.range'_succ, ih hrest]
    show _ :: List.range' (occurrence.productionQuantumSequence + 1) _ = _
    rw [hnext.1]

theorem Counts.spaced (h : clock.Counts occurrences) :
    occurrences.IsChain fun earlier later =>
      earlier.scheduledForUnixMs + 1000 ≤ later.scheduledForUnixMs := by
  induction occurrences generalizing clock with
  | nil => exact .nil
  | cons occurrence rest ih =>
    obtain ⟨hnext, hrest⟩ := h
    cases rest with
    | nil => exact .singleton _
    | cons later others =>
      refine .cons_cons (hrest.1.2 ?_) (ih hrest)
      show occurrence.productionQuantumSequence ≠ 0
      have := hnext.1
      omega

/-- The clock after a list of quanta. -/
def advancedBy (clock : ProductionClock) (occurrences : List ProductionScheduleOccurrence) :
    ProductionClock :=
  occurrences.foldl (fun clock occurrence => clock.advanced (some occurrence)) clock

theorem Counts.sequence_le (h : clock.Counts occurrences) :
    clock.lastCommittedQuantumSequence
        ≤ (clock.advancedBy occurrences).lastCommittedQuantumSequence
      ∧ ∀ occurrence ∈ occurrences, occurrence.productionQuantumSequence
          ≤ (clock.advancedBy occurrences).lastCommittedQuantumSequence := by
  induction occurrences generalizing clock with
  | nil => exact ⟨le_rfl, by simp⟩
  | cons first rest ih =>
    obtain ⟨hnext, hrest⟩ := h
    obtain ⟨hle, hall⟩ := ih hrest
    have hfirst : first.productionQuantumSequence
        ≤ (clock.advancedBy (first :: rest)).lastCommittedQuantumSequence := hle
    constructor
    · have := hnext.1
      omega
    · intro occurrence hmem
      rcases List.mem_cons.mp hmem with rfl | hmem
      · exact hfirst
      · exact hall occurrence hmem

end ProductionClock

namespace WorldState

variable {host : Host} {w w' : WorldState} {event : CanonicalEvent}

variable {occurrence : ProductionScheduleOccurrence}

theorem validateNextProductionOccurrence_eq_ok
    (h : w.validateNextProductionOccurrence occurrence = .ok ()) :
    w.productionClock.Precedes occurrence
      ∧ occurrence.lifecycleGeneration = w.productionClock.lifecycleGeneration := by
  simp only [validateNextProductionOccurrence, bind_eq_ok, demand_eq_ok, checkedAdd_eq_some,
    rejectIf_eq_ok, not_or, not_not] at h
  obtain ⟨expected, ⟨-, rfl⟩, -, -, -, hgeneration, hsequence, -, -, htime⟩ := h
  refine ⟨⟨hsequence, ?_⟩, hgeneration⟩
  intro hlast
  rw [if_neg hlast] at htime
  cases hearliest : checkedAdd w.productionClock.lastScheduledForUnixMs 1000 with
  | none => simp [hearliest] at htime
  | some earliest =>
    obtain ⟨-, rfl⟩ := checkedAdd_eq_some.mp hearliest
    simpa [hearliest] using htime

theorem occurrence?_hydrate {cellAddress} {payload hydrated : EventPayload}
    (h : payload.hydrateSpatialPoses host cellAddress = .ok hydrated) :
    hydrated.occurrence? = payload.occurrence? := by
  cases reposed_of_hydrated h <;> rfl

theorem Effect.clock (effect : Effect host w event w') :
    w'.productionClock = w.productionClock.advanced event.payload.occurrence? := by
  cases effect with
  | productionQuantumCommitted hpayload hexpected happlied =>
    obtain ⟨machines, -, -, works⟩ := works_of_quantum (hpayload ▸ hexpected) happlied
    rw [works.frame, hpayload]
    rfl
  | playerIncapacitated hpayload hplayer hinventory hdomain hcollapse =>
    rw [hcollapse.frame, hpayload]
    rfl
  | @blockBuilt gridId block _ _ _ _ hpayload =>
    rw [hpayload]
    unfold withCargoInventory
    cases block.inventoryId <;> rfl
  | blockDamaged hpayload hby hdamage happlied =>
    rw [(damaged_of_applyDamage happlied).frame, hpayload]
    rfl
  | physicsStepCommitted hpayload happlied =>
    obtain ⟨-, active, rfl⟩ := applyPhysicsStep_eq_ok happlied
    rw [hpayload]
    rfl
  | playerTransferPrepared hpayload hstaged =>
    rw [hpayload]
    obtain ⟨-, -, ⟨rfl, -⟩ | ⟨-, -, -, -, rfl⟩⟩ := stagePreparedEvaLock_eq_ok hstaged <;> rfl
  | playerTransferQuarantined hpayload hstaged =>
    rw [hpayload]
    obtain ⟨-, -, ⟨rfl, -⟩ | ⟨-, -, rfl⟩⟩ := stageEvaPlayerQuarantine_eq_ok hstaged <;> rfl
  | playerTransferAborted hpayload hstaged =>
    rw [hpayload]
    obtain ⟨-, -, ⟨-, -, rfl⟩ | ⟨-, -, rfl⟩ | ⟨-, -, -, rfl⟩⟩ :=
      stageAbortedEvaUnlock_eq_ok hstaged <;> rfl
  | playerTransferExported hpayload hstaged =>
    rw [hpayload]
    obtain ⟨-, -, ⟨rfl, -⟩ | ⟨-, -, -, -, -, rfl⟩⟩ := stageCommittedEvaExport_eq_ok hstaged <;> rfl
  | playerTransferImported hpayload hstaged =>
    rw [hpayload]
    obtain ⟨-, -, ⟨rfl, -⟩ | ⟨-, -, -, -, -, rfl⟩⟩ := stageCommittedEvaImport_eq_ok hstaged <;> rfl
  | playerControlSet hpayload | suitModeChanged hpayload | suitOxygenChanged hpayload
  | playerRespawned hpayload | voxelMined hpayload | productionQueued hpayload
  | inventoryTransferred hpayload | blockWelded hpayload | gridControlSet hpayload
  | gridAnchorSet hpayload =>
    rw [hpayload]
    rfl

theorem Effect.next
    (effect : Effect host w event w') (h : event.payload.occurrence? = some occurrence) :
    w.validateNextProductionOccurrence occurrence = .ok () := by
  cases effect with
  | productionQuantumCommitted hpayload hexpected =>
    rw [hpayload] at h
    cases h
    simp only [productionQuantumPayload, bind_eq_ok] at hexpected
    exact hexpected.choose_spec.1
  | _ => simp_all [EventPayload.occurrence?]

theorem clock_of_applyEvent (h : w.applyEvent host event = .ok w') :
    w'.productionClock = w.productionClock.advanced event.payload.occurrence?
      ∧ ∀ occurrence, event.payload.occurrence? = some occurrence →
          w.validateNextProductionOccurrence occurrence = .ok () := by
  cases accepted_of_applyEvent h with
  | intro hydrated admitted effect paid recorded weighed =>
    rw [← occurrence?_hydrate hydrated, recordOperation_frame recorded]
    refine ⟨?_, fun _ => effect.next⟩
    rw [← effect.clock]
    cases paid <;> rfl

theorem quanta_of_run {events} (h : runAll (applyEvent host) w events = .ok w') :
    w.productionClock.Counts (quanta events)
      ∧ w'.productionClock = w.productionClock.advancedBy (quanta events) := by
  induction events generalizing w with
  | nil =>
    obtain rfl : w = w' := by simpa using h
    exact ⟨trivial, rfl⟩
  | cons event rest ih =>
    obtain ⟨middle, hfirst, hrest⟩ := runAll_cons_eq_ok.mp h
    obtain ⟨hclock, hnext⟩ := clock_of_applyEvent hfirst
    obtain ⟨hcounts, hlast⟩ := ih hrest
    rw [hclock] at hcounts hlast
    cases hoccurrence : event.payload.occurrence? with
    | none =>
      rw [hoccurrence] at hcounts hlast
      have hquanta : quanta (event :: rest) = quanta rest := List.filterMap_cons_none hoccurrence
      rw [hquanta]
      exact ⟨hcounts, hlast⟩
    | some occurrence =>
      rw [hoccurrence] at hcounts hlast
      have hquanta : quanta (event :: rest) = occurrence :: quanta rest :=
        List.filterMap_cons_some hoccurrence
      rw [hquanta]
      exact ⟨⟨(validateNextProductionOccurrence_eq_ok (hnext occurrence hoccurrence)).1, hcounts⟩,
        hlast⟩

theorem idle_of_unqueued (host : Host) (h : w.productionQueues = .empty) :
    w.backgroundProductionIsRunnable host = .ok false := by
  have hscheduled : w.scheduledMachines = .ok [] := by
    rw [scheduledMachines, h,
      show (OrdMap.empty : OrdMap String (List ProductionJob)).keys = [] from rfl]
    simp [pure, Except.pure]
  rw [backgroundProductionIsRunnable, h, hscheduled]
  rfl

end WorldState
end Verse
