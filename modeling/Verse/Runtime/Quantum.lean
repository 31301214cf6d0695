import Verse.Engine.Due
import Verse.Engine.Locked
import Verse.Runtime.ExactlyOnce

/-!
# Due production

Production is committed when it is due, and a cell whose due quantum cannot be planned stands
still: nothing else brings its schedule forward. The quantum of a reached world can be planned
and is then accepted, unless it finishes a job of a player who has left the cell.
-/

namespace Verse

open Lib

variable {site : Persistence.Site}

namespace WorldState

variable {host : Host} {w w' : WorldState} {occurrence : ProductionScheduleOccurrence}

/-! ## Worlds that are reached -/

theorem equipped_of_run {first : WorldState} {events}
    (hvalid : first.validatePlayerRoster host = .ok ()) (hbalances : first.Balances)
    (hrun : runAll (WorldState.applyEvent host) first events = .ok w) :
    Equipped w ∧ w.Balances := by
  have hstart := equipped_of_valid ((validatePlayerRoster_eq_ok host).mp hvalid)
  refine preserved_of_run (P := fun v => Equipped v ∧ v.Balances) ?_ ⟨hstart, hbalances⟩ hrun
  intro v event v' hv happlied
  refine ⟨(accepted_of_applyEvent happlied).equipped hv.1, ?_⟩
  simp only [applyEvent, weigh, bind_eq_ok, rejectIf_eq_ok, pure_eq_ok, Bool.not_eq_false] at happlied
  obtain ⟨-, -, payload, -, -, -, next, -, -, ⟨totals, htotals, hbalanced⟩, rfl⟩ := happlied
  exact ⟨totals, htotals, hbalanced⟩

theorem blockGrid_of_standing {blockId : String} (h : w.Standing blockId) :
    ∃ grid block, w.blockGrid blockId = some (grid, block) := by
  obtain ⟨grid, block, gridId, hgrid, hblock⟩ := h
  cases hfound : w.blockGrid blockId with
  | some found => exact ⟨found.1, found.2, rfl⟩
  | none =>
    have hnone := List.findSome?_eq_none_iff.mp hfound grid (OrdMap.mem_values.mpr ⟨gridId, hgrid⟩)
    simp [hblock] at hnone

theorem Equipped.ready (h : Equipped w) {machineBlockId : String}
    (hkey : machineBlockId ∈ w.productionQueues.keys) : w.Ready machineBlockId := by
  obtain ⟨queue, hqueue⟩ := OrdMap.mem_keys.mp hkey
  obtain ⟨grid, machine, hmachine⟩ := blockGrid_of_standing (h.machines machineBlockId queue hqueue)
  obtain ⟨hnonempty, hsound⟩ := h.queues machineBlockId queue hqueue
  cases queue with
  | nil => exact absurd rfl hnonempty
  | cons job rest =>
    exact ⟨job, grid, machine, queueHead_eq_some.mpr ⟨rest, hqueue⟩, hsound job List.mem_cons_self,
      hmachine⟩

theorem Equipped.scheduled (h : Equipped w) :
    ∃ machines, w.scheduledMachines = .ok machines ∧ machines.Perm w.productionQueues.keys := by
  have hlocated : ∀ keys : List String, (∀ key ∈ keys, w.Ready key) →
      ∃ located, keys.mapM (fun machineId =>
        (demand ((w.blockGrid machineId).map fun found => (found.1.gridId, machineId))
          (.rejected "production_machine_missing"
            "a queued production machine is missing from canonical state") :
          Intent (String × String))) = .ok located := by
    intro keys hready
    induction keys with
    | nil => exact ⟨[], rfl⟩
    | cons key keys ih =>
      obtain ⟨located, hrest⟩ := ih fun other hother => hready other (List.mem_cons_of_mem _ hother)
      obtain ⟨-, grid, machine, -, -, hmachine⟩ := hready key List.mem_cons_self
      refine ⟨(grid.gridId, key) :: located, ?_⟩
      rw [List.mapM_cons, hrest, hmachine]
      rfl
  obtain ⟨located, hfound⟩ := hlocated w.productionQueues.keys fun key hkey => h.ready hkey
  have hscheduled : w.scheduledMachines
      = .ok ((located.mergeSort fun a b => decide (toLex a ≤ toLex b)).map Prod.snd) := by
    simp only [scheduledMachines, bind_eq_ok, pure_eq_ok]
    exact ⟨located, hfound, rfl⟩
  exact ⟨_, hscheduled, scheduledMachines_eq_ok hscheduled⟩

theorem Headroom.affords (h : w.Headroom) (hbalances : w.Balances) {machines : List String}
    (hperm : machines.Perm w.productionQueues.keys) : w.Affords machines := by
  intro resource
  have hgoods : (w.books resource).entered
      + (w.productionQueues.keys.map (w.yielding resource)).sum < u64Max := h.goods resource
  rw [(hperm.map (w.yielding resource)).sum_eq]
  exact ⟨hbalances.balanced (by omega), hgoods⟩

theorem productionQuantumPayload_isOk (h : Equipped w) (hbalances : w.Balances)
    (hroom : w.Headroom) (hnext : w.validateNextProductionOccurrence occurrence = .ok ()) :
    (∃ payload, w.productionQuantumPayload host occurrence = .ok payload)
      ↔ ∀ machineBlockId, ¬ Orphaned host w machineBlockId := by
  obtain ⟨machines, hscheduled, hperm⟩ := h.scheduled
  have hready : ∀ machineBlockId ∈ machines, w.Ready machineBlockId := fun machineBlockId hmem =>
    h.ready (hperm.mem_iff.mp hmem)
  have hplan : (∃ outcomes, w.planMachines host machines = .ok outcomes)
      ↔ ∀ machineBlockId ∈ machines, ¬ Orphaned host w machineBlockId :=
    planMachines_isOk (hroom.affords hbalances hperm)
      (hperm.nodup_iff.mpr OrdMap.keys_nodup) hready
  have hqueued : (∀ machineBlockId, ¬ Orphaned host w machineBlockId)
      ↔ ∀ machineBlockId ∈ machines, ¬ Orphaned host w machineBlockId := by
    refine ⟨fun hall machineBlockId _ => hall machineBlockId, fun hall machineBlockId horphaned => ?_⟩
    have hlost := horphaned
    obtain ⟨job, hfinishing, -⟩ := hlost
    obtain ⟨rest, hqueue⟩ := queueHead_eq_some.mp hfinishing.working.1
    exact hall machineBlockId (hperm.mem_iff.mpr (OrdMap.mem_keys.mpr ⟨_, hqueue⟩)) horphaned
  rw [hqueued, ← hplan]
  constructor
  · rintro ⟨payload, hpayload⟩
    simp only [productionQuantumPayload, hscheduled, bind_eq_ok, Except.ok.injEq,
      exists_eq_left'] at hpayload
    obtain ⟨-, -, outcomes, houtcomes, -⟩ := hpayload
    exact ⟨outcomes, houtcomes⟩
  · rintro ⟨outcomes, houtcomes⟩
    refine ⟨.productionQuantumCommitted occurrence Content.fixedStepHz outcomes, ?_⟩
    simp only [productionQuantumPayload, bind_eq_ok]
    exact ⟨(), hnext, machines, hscheduled, outcomes, houtcomes, rfl⟩

/-! ## The event -/

/-- The event of a quantum. -/
def quantumEvent (host : Host) (w : WorldState) (occurrence : ProductionScheduleOccurrence)
    (payload : EventPayload) : CanonicalEvent :=
  let unhashed : CanonicalEvent := {
    schemaName := eventSchemaName
    schemaVersion := eventSchemaVersion
    contentManifestVersion := w.contentManifestVersion
    universeManifestHash := w.universeManifestHash
    celestialRegistryHash := w.celestialRegistryHash
    eventId := host.productionOccurrenceEventId occurrence
    eventSequence := w.eventSequence + 1
    occurredAtUnixMs := occurrence.scheduledForUnixMs
    universeId := w.universeId
    cellId := w.cellId
    authorityFencingToken := max w.fencingToken 1
    actorPlayerId := none
    actorType := "system"
    operationId := none
    operationSequence := none
    intentFingerprint := none
    previousEventHash := w.lastEventHash
    payload
    eventHash := "" }
  { unhashed with eventHash := unhashed.calculateHash host }

variable {elapsedTicks : Nat} {outcomes : List ProductionMachineOutcome}

theorem prepareProductionQuantumEvent_eq
    (hroom : w.Headroom)
    (hnext : w.validateNextProductionOccurrence occurrence = .ok ()) :
    Runtime.Cell.prepareProductionQuantumEvent site w (.productionQuantumCommitted occurrence elapsedTicks outcomes)
      = .ok (quantumEvent site.host w occurrence
        (.productionQuantumCommitted occurrence elapsedTicks outcomes)) := by
  have hcounted : plainAdd w.eventSequence 1 = .ok (w.eventSequence + 1) :=
    plainAdd_eq_ok.mpr ⟨hroom.events, rfl⟩
  simp only [Runtime.Cell.prepareProductionQuantumEvent, hnext, newEvent, hcounted]
  rfl

theorem quantumEvent_admitted
    (hroom : w.Headroom) :
    let event := quantumEvent host w occurrence
      (.productionQuantumCommitted occurrence elapsedTicks outcomes)
    w.validateHeader host event = .ok () ∧ w.validateEnvelope host event = .ok () := by
  intro event
  have hcounted : plainAdd w.eventSequence 1 = .ok (w.eventSequence + 1) :=
    plainAdd_eq_ok.mpr ⟨hroom.events, rfl⟩
  constructor
  · have hhash : event.hashIsValid host = true := beq_self_eq_true _
    simp only [validateHeader, bind_eq_ok, rejectIf_eq_ok, hcounted, hhash]
    simp [event, quantumEvent]
  · have hsystem : w.validateActorEnvelope event = .ok none := by
      simp [validateActorEnvelope, event, quantumEvent, rejectIf]
    refine bind_eq_ok.mpr ⟨none, hsystem, ?_⟩
    simp [validateTransferLocks, validatePayloadEnvelope, validateActorAlive, validateFence, event,
      quantumEvent]

theorem quantum_applied {payload} (h : Equipped w) (hbalances : w.Balances) (hroom : w.Headroom)
    (hpayload : w.productionQuantumPayload host occurrence = .ok payload) :
    ∃ w', w.applyEvent host (quantumEvent host w occurrence payload) = .ok w' := by
  obtain ⟨machines, outcomes, hperm, hplanned, rfl⟩ := productionQuantumPayload_eq_ok hpayload
  obtain ⟨applied, happlied⟩ := exists_applyOutcomes hplanned
  set event := quantumEvent host w occurrence
    (.productionQuantumCommitted occurrence Content.fixedStepHz outcomes)
  obtain ⟨hheader, henvelope⟩ : w.validateHeader host event = .ok ()
    ∧ w.validateEnvelope host event = .ok () := quantumEvent_admitted hroom
  -- What the branch of the payload makes of the plan.
  set committed := { applied with productionClock := { applied.productionClock with
    lastCommittedQuantumSequence := occurrence.productionQuantumSequence
    lastScheduledForUnixMs := occurrence.scheduledForUnixMs } }
  have hpaid : w.applyPayload host event = .ok committed := by
    have hrefused : ¬ (Content.fixedStepHz ≠ Content.fixedStepHz
        ∨ event.eventId ≠ host.productionOccurrenceEventId occurrence
        ∨ event.occurredAtUnixMs ≠ occurrence.scheduledForUnixMs) := by
      simp [event, quantumEvent]
    show w.applyProductionQuantum host event occurrence Content.fixedStepHz outcomes = _
    simp only [applyProductionQuantum, bind_eq_ok, rejectIf_eq_ok, hpayload, happlied]
    exact ⟨(), hrefused, _, rfl, (), fun hne => hne rfl, applied, rfl, rfl⟩
  have hcommitted : w.commitEvent host event = .ok (committed.sealEvent event) := by
    simp only [commitEvent, hpaid]
    rfl
  have hweighed : (committed.sealEvent event).weigh event.eventSequence = .ok () := by
    have hworks := works_of_planned hplanned happlied
    have hafter : applied.Affords [] :=
      hworks.affords (hroom.affords hbalances hperm) (hperm.nodup_iff.mpr OrdMap.keys_nodup)
        fun machineId hmem => h.ready (hperm.mem_iff.mp hmem)
    obtain ⟨totals, htotals, hvalid⟩ : (committed.sealEvent event).Balances :=
      balances_of_balanced (fun resource => (hafter resource).1) fun resource =>
        (Nat.le_add_right _ _).trans (hafter resource).2.le
    simp [weigh, htotals, hvalid]
  refine ⟨committed.sealEvent event, ?_⟩
  have hhydrated : event.payload.hydrateSpatialPoses host w.cellAddress = .ok event.payload := rfl
  simp only [applyEvent, bind_eq_ok, mapError_eq_ok]
  exact ⟨(), hheader, event.payload, hhydrated, (), henvelope, _, hcommitted, (), hweighed, rfl⟩

/-! ## Nothing is wedged by its own production -/

/-- Due production. In a world reached by accepted events, with room in its counters, the next
    quantum can be planned and the event that carries it is accepted, exactly when no machine
    would finish a job whose owner is not in the cell. -/
theorem quantum_accepted_iff {first : WorldState} {events : List CanonicalEvent}
    (hvalid : first.validatePlayerRoster site.host = .ok ()) (hbalances : first.Balances)
    (hrun : runAll (WorldState.applyEvent site.host) first events = .ok w) (hroom : w.Headroom)
    (hnext : w.validateNextProductionOccurrence occurrence = .ok ()) :
    (∃ payload event w', w.productionQuantumPayload site.host occurrence = .ok payload
        ∧ Runtime.Cell.prepareProductionQuantumEvent site w payload = .ok event
        ∧ w.applyEvent site.host event = .ok w')
      ↔ ∀ machineBlockId, ¬ Orphaned site.host w machineBlockId := by
  obtain ⟨hequipped, hbalanced⟩ := equipped_of_run hvalid hbalances hrun
  rw [← productionQuantumPayload_isOk hequipped hbalanced hroom hnext]
  constructor
  · rintro ⟨payload, -, -, hpayload, -⟩
    exact ⟨payload, hpayload⟩
  · rintro ⟨payload, hpayload⟩
    obtain ⟨w', happlied⟩ := quantum_applied hequipped hbalanced hroom hpayload
    refine ⟨payload, _, w', hpayload, ?_, happlied⟩
    obtain ⟨-, outcomes, -, -, rfl⟩ := productionQuantumPayload_eq_ok hpayload
    exact prepareProductionQuantumEvent_eq hroom hnext

end WorldState

/-! The first quantum of the small cell is accepted. Once the owner of its job has been exported,
the same quantum cannot be planned. -/

theorem proofCell_headroom : proofCell.Headroom := by
  refine ⟨by decide, fun resource => ?_⟩
  cases resource <;> decide

/-- The small cell after its player has left. -/
def exportedCell : Option (List CanonicalEvent × WorldState) := do
  let package ← (prepareEvaPlayerTransfer proofHost proofCell "player-1" proofContext).toOption
  let locking := systemEvent proofCell "transfer-player-1-prepared" 500
    (.playerTransferPrepared package (proofTransfer package .prepared))
  let locked ← (proofCell.applyEvent proofHost locking).toOption
  let leaving := systemEvent locked "transfer-player-1-exported" 600
    (.playerTransferExported package (proofTransfer package .committed))
  let left ← (locked.applyEvent proofHost leaving).toOption
  return ([locking, leaving], left)

namespace WorldState

theorem exists_exported : ∃ events w, events.length = 2
    ∧ runAll (WorldState.applyEvent proofHost) proofCell events = .ok w ∧ w.Headroom
    ∧ w.validateNextProductionOccurrence (firstOccurrence w) = .ok ()
    ∧ w.productionQuantumPayload proofHost (firstOccurrence w)
      = .error (.rejected "replay_production_owner_missing"
          "production completion owner is not present in the canonical roster") := by
  have hrun : exportedCell.any fun r => decide (r.1.length = 2
        ∧ runAll (WorldState.applyEvent proofHost) proofCell r.1 = .ok r.2
        ∧ (r.2.eventSequence < u64Max ∧ r.2.RoomFor .ore ∧ r.2.RoomFor .refinedMaterial
          ∧ r.2.RoomFor .component)
        ∧ r.2.validateNextProductionOccurrence (firstOccurrence r.2) = .ok ()
        ∧ r.2.productionQuantumPayload proofHost (firstOccurrence r.2)
          = .error (.rejected "replay_production_owner_missing"
              "production completion owner is not present in the canonical roster")) := by
    decide +kernel
  cases hexported : exportedCell with
  | none => simp [hexported] at hrun
  | some r =>
    rw [hexported] at hrun
    obtain ⟨htwo, hreached, ⟨hevents, hore, hrefined, hcomponent⟩, hnext, hwedged⟩ :=
      of_decide_eq_true hrun
    refine ⟨r.1, r.2, htwo, hreached, ⟨hevents, fun resource => ?_⟩, hnext, hwedged⟩
    cases resource <;> assumption

theorem proofCell_starts :
    proofCell.validatePlayerRoster proofHost = .ok () ∧ proofCell.Balances := by
  decide +kernel

/-- No machine of the small cell is without its owner, as the quantum is accepted there. After the
    two events of its export one is, as no quantum can be planned any more. -/
theorem quantum_accepted_exported :
    (∀ machineBlockId, ¬ Orphaned proofHost proofCell machineBlockId)
      ∧ ∃ events w, events.length = 2
        ∧ runAll (WorldState.applyEvent proofHost) proofCell events = .ok w
        ∧ ∃ machineBlockId, Orphaned proofHost w machineBlockId := by
  have hnext : proofCell.validateNextProductionOccurrence (firstOccurrence proofCell) = .ok () := by
    decide +kernel
  have haccepted : (proofCell.productionQuantumPayload proofHost
      (firstOccurrence proofCell)).toOption.any fun payload =>
        (Runtime.Cell.prepareProductionQuantumEvent Runtime.proofSite proofCell
          payload).toOption.any fun event =>
            (proofCell.applyEvent proofHost event).toOption.any fun _ => true := by decide +kernel
  obtain ⟨payload, hpayload, hprepares⟩ := exists_ok_of_any haccepted
  obtain ⟨event, hprepared, happlies⟩ := exists_ok_of_any hprepares
  obtain ⟨w', happlied, -⟩ := exists_ok_of_any happlies
  obtain ⟨events, w, htwo, hreached, hroom, hdue, hwedged⟩ := exists_exported
  constructor
  · exact (@quantum_accepted_iff Runtime.proofSite _ _ _ _ proofCell_starts.1 proofCell_starts.2
      runAll_nil proofCell_headroom hnext).mp ⟨payload, event, w', hpayload, hprepared, happlied⟩
  · refine ⟨events, w, htwo, hreached, ?_⟩
    by_contra hnone
    obtain ⟨planned, -, -, hplanned, -⟩ := (@quantum_accepted_iff Runtime.proofSite _ _ _ _
      proofCell_starts.1 proofCell_starts.2 hreached hroom hdue).mpr (not_exists.mp hnone)
    cases hwedged.symm.trans hplanned

/-- The player has left by accepted events, and the quantum that is due cannot be planned. -/
theorem not_quantum_accepted : ∃ events w,
    proofCell.validatePlayerRoster proofHost = .ok () ∧ proofCell.Balances
      ∧ runAll (WorldState.applyEvent proofHost) proofCell events = .ok w ∧ w.Headroom
      ∧ w.validateNextProductionOccurrence (firstOccurrence w) = .ok ()
      ∧ w.productionQuantumPayload proofHost (firstOccurrence w)
        = .error (.rejected "replay_production_owner_missing"
            "production completion owner is not present in the canonical roster") := by
  obtain ⟨events, w, -, hreached⟩ := exists_exported
  exact ⟨events, w, proofCell_starts.1, proofCell_starts.2, hreached⟩

/-- The job that outlives its owner is the only one of the cell. -/
example : proofCell.productionQueues.keys = ["block-refinery"] := by decide

end WorldState
end Verse
