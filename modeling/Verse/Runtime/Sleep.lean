import Verse.Runtime.Quantum

/-!
# Sleep

A cell whose machines would change nothing in one more second has no next occurrence, and nobody
looks at it again until an event gives it one. Whether it may sleep is asked of every machine as
the world stands; a quantum asks the machines one after the other, each in the world the ones
before it left. The two agree because a machine that changes nothing leaves the world to the next
as it found it, and one that changes something changes its own queue, which nobody gives back.

`Sleeps` is what a cell relies on when it sleeps. The first two parts always hold. The third,
that work resumes when an event brings it back, fails where the quantum that is then due cannot
be planned, and only there.
-/

namespace Verse

open Lib

namespace WorldState

variable {host : Host} {w w' v : WorldState} {machineId : String}
  {occurrence : ProductionScheduleOccurrence}

/-- Production has changed nothing: jobs with what they reserve, inventories, players and what
    they have earned, and the ledger. -/
structure Unworked (w w' : WorldState) : Prop where
  jobs : w'.productionQueues = w.productionQueues
  inventories : w'.inventories = w.inventories
  players : w'.player = w.player
  ledger : w'.ledger = w.ledger

theorem Unworked.trans {w''} (h : Unworked w w') (h' : Unworked w' w'') :
    Unworked w w'' :=
  ⟨h'.jobs.trans h.jobs, h'.inventories.trans h.inventories, h'.players.trans h.players,
    h'.ledger.trans h.ledger⟩

/-- One more second of this machine would change something. -/
def Stirs (host : Host) (w : WorldState) (machineBlockId : String) : Prop :=
  ∃ outcome, w.productionMachineOutcome host machineBlockId = .ok outcome ∧ outcome.changesState

/-! ## The question -/

theorem Ready.outcome (h : w.Ready machineId) :
    ∃ outcome, w.productionMachineOutcome host machineId = .ok outcome := by
  obtain ⟨job, grid, machine, hhead, hsound, hmachine⟩ := h
  obtain ⟨outcome, houtcome⟩ : ∃ outcome, w.productionJobOutcome host machineId grid machine
    job = .ok outcome := exists_productionJobOutcome hsound grid machine
  refine ⟨outcome, ?_⟩
  simp only [productionMachineOutcome, hhead, hmachine, demand_some, bind_eq_ok, Except.ok.injEq,
    exists_eq_left']
  exact houtcome

variable {machines : List String}

theorem anyRunnable_eq_ok (hready : ∀ machineId ∈ machines, w.Ready machineId) :
    ∃ runnable, w.anyRunnable host machines = .ok runnable
      ∧ (runnable = true ↔ ∃ machineId ∈ machines, Stirs host w machineId) := by
  induction machines with
  | nil => exact ⟨false, rfl, by simp⟩
  | cons machineId machines ih =>
    obtain ⟨outcome, houtcome⟩ : ∃ outcome, w.productionMachineOutcome host machineId
      = .ok outcome := Ready.outcome (hready machineId List.mem_cons_self)
    have hstirs : Stirs host w machineId ↔ outcome.changesState = true := by
      simp [Stirs, houtcome]
    obtain ⟨runnable, hrest, hiff⟩ := ih fun other hother =>
      hready other (List.mem_cons_of_mem _ hother)
    by_cases hchanges : outcome.changesState = true
    · refine ⟨true, ?_, iff_of_true rfl ⟨_, List.mem_cons_self, hstirs.mpr hchanges⟩⟩
      simp only [anyRunnable, houtcome, bind_eq_ok, Except.ok.injEq, exists_eq_left', hchanges]
      rfl
    · refine ⟨runnable, ?_, ?_⟩
      · simp only [anyRunnable, houtcome, bind_eq_ok, Except.ok.injEq, exists_eq_left', hchanges]
        exact hrest
      · rw [hiff]
        simp [hstirs, hchanges]

theorem backgroundProductionIsRunnable_iff (h : Equipped w) {runnable : Bool} :
    w.backgroundProductionIsRunnable host = .ok runnable ↔
      w.productionQueues.size ≤ maxBackgroundQueueBearingMachines
        ∧ (runnable = true ↔ ∃ machineId ∈ w.productionQueues.keys,
          Stirs host w machineId) := by
  obtain ⟨machines, hscheduled, hperm⟩ := h.scheduled
  obtain ⟨answer, hanswer, hiff⟩ : ∃ answer, w.anyRunnable host machines = .ok answer
      ∧ (answer = true ↔ ∃ machineId ∈ machines, Stirs host w machineId) :=
    anyRunnable_eq_ok fun machineId hmem => h.ready (hperm.mem_iff.mp hmem)
  simp only [hperm.mem_iff] at hiff
  simp only [backgroundProductionIsRunnable, bind_eq_ok, rejectIf_eq_ok, hscheduled,
    Except.ok.injEq, exists_eq_left', hanswer, Nat.not_lt, gt_iff_lt]
  constructor
  · rintro ⟨⟨⟩, hbudget, rfl⟩
    exact ⟨hbudget, hiff⟩
  · rintro ⟨hbudget, hrunnable⟩
    exact ⟨(), hbudget, Bool.eq_iff_iff.mpr (hiff.trans hrunnable.symm)⟩

/-! ## What a machine that stirs leaves -/

variable {outcome : ProductionMachineOutcome}

theorem progress_of_advanced {grid : Grid} {machine : Block} {job : ProductionJob}
    (hsound : job.Sound)
    (h : w.productionJobOutcome host machineId grid machine job = .ok outcome)
    (hkind : outcome.kind = .advanced) : job.progressTicks < outcome.newProgressTicks := by
  obtain ⟨inputs, outputs, hquantities, -⟩ := hsound.quantities
  have hduration : job.durationTicks ≤ u64Max := by
    unfold productionRecipeQuantities at hquantities
    split_ifs at hquantities
    cases hrecipe : job.recipe <;>
      simp only [hrecipe, Option.bind_eq_bind, Option.bind_eq_some_iff, checkedMul_eq_some,
        Option.pure_def, Option.some.injEq, Prod.mk.injEq] at hquantities <;>
      obtain ⟨_, -, _, -, _, ⟨hfits, rfl⟩, -, -, hticks⟩ := hquantities <;>
      exact hticks ▸ hfits
  unfold productionJobOutcome at h
  simp only [ite_eq_ok, bind_eq_ok, pure_eq_ok, demand_eq_ok, inventory_eq_ok, Prod.exists,
    not_or, ne_eq, not_not] at h
  obtain ⟨-, rfl⟩ | ⟨-, ⟨-, rfl⟩ | ⟨-, ⟨-, rfl⟩ | ⟨-, ⟨-, -, -, ⟨-, rfl⟩ | ⟨-, rfl⟩⟩ |
    ⟨-, ⟨hnew, rfl⟩ | ⟨_, _, _, _, _, _, _, ⟨_, rfl⟩ | ⟨_, rfl⟩⟩⟩⟩⟩⟩ := h
  all_goals try cases hkind
  have hprogress := hsound.progress
  simp only [saturatingAdd, Content.fixedStepHz] at hnew ⊢
  omega

theorem queue_of_changed {next} (hready : w.Ready machineId)
    (hplan : w.planMachine host machineId = .ok (next, outcome))
    (hchanges : outcome.changesState = true) :
    next.productionQueues.get? machineId ≠ w.productionQueues.get? machineId := by
  obtain ⟨job, grid, machine, hhead, hsound, hmachine⟩ := hready
  have hplanned : w.productionJobOutcome host machineId grid machine job = .ok outcome := by
    simp only [planMachine, productionMachineOutcome, hhead, hmachine, demand_some, bind_eq_ok,
      Except.ok.injEq, exists_eq_left', pure_eq_ok, Prod.mk.injEq] at hplan
    obtain ⟨_, houtcome, _, -, -, rfl⟩ := hplan
    exact houtcome
  obtain ⟨rest, hqueue⟩ := queueHead_eq_some.mp hhead
  have hpopped : ∀ {v : WorldState}, v.productionQueues = w.productionQueues →
      (v.popProductionQueueHead machineId).productionQueues.get? machineId
        ≠ w.productionQueues.get? machineId := by
    intro v hv
    rw [get?_popProductionQueueHead (hv ▸ hqueue), if_pos rfl, hqueue]
    cases rest with
    | nil => simp
    | cons later rest =>
      intro heq
      have hlength := congrArg List.length (Option.some.inj heq)
      simp at hlength
  cases work_of_planMachine hplan with
  | idle hidle => simp [hidle] at hchanges
  | advanced hkind =>
    have hmoves := progress_of_advanced hsound hplanned hkind
    simp only [withQueueHead, OrdMap.get?_modify, hqueue, if_true, Option.map_some, ne_eq,
      Option.some.injEq, List.cons.injEq, and_true]
    intro heq
    have hsame : outcome.newProgressTicks = job.progressTicks :=
      congrArg ProductionJob.progressTicks heq
    omega
  | completed hkind hmachine hworking hprogress =>
    obtain rfl := Option.mem_unique hhead hworking.1
    simp only [withQueueHead, withPlayer, OrdMap.get?_modify, hqueue, if_true, Option.map_some,
      ne_eq, Option.some.injEq, List.cons.injEq, and_true]
    intro heq
    exact hprogress (congrArg ProductionJob.progressTicks heq).symm
  | completedAndDelivered | outputDelivered => exact hpopped rfl

/-! ## The question and the quantum -/

/-- Where no machine stirs, the plan finds every machine idle and its application is nothing. -/
theorem plan_of_idle (hready : ∀ machineId ∈ machines, w.Ready machineId)
    (hidle : ∀ machineId ∈ machines, ¬ Stirs host w machineId) :
    ∃ outcomes, w.planMachines host machines = .ok outcomes ∧ w.applyOutcomes outcomes = .ok w := by
  induction machines with
  | nil => exact ⟨[], rfl, rfl⟩
  | cons machineId machines ih =>
    rw [List.forall_mem_cons] at hready hidle
    obtain ⟨outcome, houtcome⟩ : ∃ outcome, w.productionMachineOutcome host machineId
      = .ok outcome := Ready.outcome hready.1
    have hsame : w.applyOutcome outcome = .ok w := by
      have hunchanged : ¬ outcome.changesState = true := fun hchanges =>
        hidle.1 ⟨outcome, houtcome, hchanges⟩
      rw [applyOutcome, if_neg hunchanged]
      rfl
    have hplan : w.planMachine host machineId = .ok (w, outcome) := by
      simp only [planMachine, houtcome, bind_eq_ok, pure_eq_ok]
      exact ⟨outcome, rfl, w, hsame, rfl⟩
    obtain ⟨outcomes, houtcomes, hrest⟩ := ih hready.2 hidle.2
    refine ⟨outcome :: outcomes, ?_, bind_eq_ok.mpr ⟨w, hsame, hrest⟩⟩
    simp only [planMachines, hplan, bind_eq_ok, pure_eq_ok]
    exact ⟨_, rfl, outcomes, houtcomes, rfl⟩

/-- Where one stirs, the first that does changes its queue, and no machine after it gives that
    queue back. The induction is on the machines that are still to come. -/
theorem queues_of_stirring {outcomes} (hready : ∀ machineId ∈ machines, w.Ready machineId)
    (hnodup : machines.Nodup) (hplanned : w.planMachines host machines = .ok outcomes)
    (happlied : w.applyOutcomes outcomes = .ok w')
    (hstirs : ∃ machineId ∈ machines, Stirs host w machineId) :
    w'.productionQueues ≠ w.productionQueues := by
  induction machines generalizing outcomes with
  | nil => simp at hstirs
  | cons machineId machines ih =>
    rw [List.forall_mem_cons] at hready
    obtain ⟨hfirst, hnodup⟩ := List.nodup_cons.mp hnodup
    simp only [planMachines, bind_eq_ok, pure_eq_ok, Prod.exists] at hplanned
    obtain ⟨next, outcome, hplan, rest, hrest, rfl⟩ := hplanned
    obtain ⟨hasked, hnext⟩ : w.productionMachineOutcome host machineId = .ok outcome
        ∧ w.applyOutcome outcome = .ok next := by
      simp only [planMachine, bind_eq_ok, pure_eq_ok, Prod.mk.injEq] at hplan
      obtain ⟨_, hasked, _, hnext, rfl, rfl⟩ := hplan
      exact ⟨hasked, hnext⟩
    have hlater : next.applyOutcomes rest = .ok w' := by
      simpa only [applyOutcomes, hnext, bind_eq_ok, Except.ok.injEq, exists_eq_left'] using happlied
    by_cases hchanges : outcome.changesState = true
    · intro hqueues
      refine queue_of_changed hready.1 hplan hchanges ?_
      rw [← hqueues]
      exact ((works_of_planned hrest hlater).queue_ne hfirst).symm
    · obtain rfl : w = next := by simpa [applyOutcome, hchanges] using hnext
      refine ih hready.2 hnodup hrest hlater ?_
      obtain ⟨other, hmem, hother⟩ := hstirs
      rcases List.mem_cons.mp hmem with rfl | hmem
      · obtain ⟨outcome', houtcome', hchanges'⟩ := hother
        obtain rfl := ok_unique hasked houtcome'
        exact absurd hchanges' hchanges
      · exact ⟨other, hmem, hother⟩

/-- The state the quantum of an occurrence would leave, but for the clock. -/
def Quantum (host : Host) (w : WorldState) (occurrence : ProductionScheduleOccurrence)
    (w' : WorldState) : Prop :=
  ∃ outcomes, w.productionQuantumPayload host occurrence
      = .ok (.productionQuantumCommitted occurrence Content.fixedStepHz outcomes)
    ∧ w.applyOutcomes outcomes = .ok w'

theorem Quantum.plan (h : Quantum host w occurrence w') :
    ∃ machines outcomes, machines.Perm w.productionQueues.keys
      ∧ w.planMachines host machines = .ok outcomes ∧ w.applyOutcomes outcomes = .ok w' := by
  obtain ⟨outcomes, hpayload, happlied⟩ := h
  obtain ⟨machines, planned, hperm, hplanned, heq⟩ := productionQuantumPayload_eq_ok hpayload
  obtain ⟨-, -, rfl⟩ := EventPayload.productionQuantumCommitted.inj heq
  exact ⟨machines, outcomes, hperm, hplanned, happlied⟩

/-- A quantum changes production exactly when some machine stirs. -/
theorem Quantum.unworked_iff (h : Equipped w) (hquantum : Quantum host w occurrence w') :
    Unworked w w' ↔ ∀ machineId ∈ w.productionQueues.keys, ¬ Stirs host w machineId := by
  obtain ⟨machines, outcomes, hperm, hplanned, happlied⟩ := hquantum.plan
  have hready : ∀ machineId ∈ machines, w.Ready machineId := fun machineId hmem =>
    h.ready (hperm.mem_iff.mp hmem)
  constructor
  · intro hunworked machineId hmem hstirs
    have hnodup : machines.Nodup := hperm.nodup_iff.mpr OrdMap.keys_nodup
    exact queues_of_stirring hready hnodup hplanned happlied
      ⟨machineId, hperm.mem_iff.mpr hmem, hstirs⟩ hunworked.jobs
  · intro hidle
    obtain ⟨outcomes', hplanned', hsame⟩ := plan_of_idle hready fun machineId hmem =>
      hidle machineId (hperm.mem_iff.mp hmem)
    obtain rfl := ok_unique hplanned hplanned'
    obtain rfl := ok_unique happlied hsame
    exact ⟨rfl, rfl, rfl, rfl⟩

theorem exists_quantum_of_idle (h : Equipped w)
    (hnext : w.validateNextProductionOccurrence occurrence = .ok ())
    (hidle : ∀ machineId ∈ w.productionQueues.keys, ¬ Stirs host w machineId) :
    Quantum host w occurrence w := by
  obtain ⟨machines, hscheduled, hperm⟩ := h.scheduled
  obtain ⟨outcomes, hplanned, happlied⟩ := plan_of_idle
    (fun machineId hmem => h.ready (hperm.mem_iff.mp hmem))
    fun machineId hmem => hidle machineId (hperm.mem_iff.mp hmem)
  refine ⟨outcomes, ?_, happlied⟩
  simp only [productionQuantumPayload, bind_eq_ok]
  exact ⟨(), hnext, machines, hscheduled, outcomes, hplanned, rfl⟩

/-! ## A world that sleeps -/

variable {event : CanonicalEvent}

theorem quantum_of_applyEvent (h : w.applyEvent host event = .ok w')
    (hoccurrence : event.payload.occurrence? = some occurrence) :
    ∃ applied, Quantum host w occurrence applied ∧ Unworked applied w' ∧ w'.grids = w.grids := by
  simp only [applyEvent, bind_eq_ok, mapError_eq_ok, pure_eq_ok] at h
  obtain ⟨⟨⟩, -, payload, hhydrated, ⟨⟩, -, next, hcommit, ⟨⟩, -, rfl⟩ := h
  cases hpayload : event.payload with
  | productionQuantumCommitted planned elapsedTicks outcomes =>
    simp only [hpayload] at hhydrated hoccurrence
    obtain rfl := Option.some.inj hoccurrence
    obtain rfl := Except.ok.inj hhydrated
    simp only [commitEvent, bind_eq_ok] at hcommit
    obtain ⟨committed, hcommitted, paid, hpaid, credited, hcredited, hrecorded⟩ := hcommit
    obtain rfl := pure_eq_ok.mp hpaid
    obtain rfl := pure_eq_ok.mp hcredited
    simp only [applyPayload, applyProductionQuantum, bind_eq_ok, rejectIf_eq_ok, not_or, not_not,
      ne_eq, pure_eq_ok] at hcommitted
    obtain ⟨-, ⟨rfl, -⟩, expected, hexpected, -, rfl, applied, happlied, rfl⟩ := hcommitted
    obtain ⟨machines, -, -, works⟩ := works_of_quantum hexpected happlied
    refine ⟨applied, ⟨outcomes, hexpected, happlied⟩, ?_, ?_⟩
    · rw [recordOperation_frame hrecorded]
      exact ⟨rfl, rfl, rfl, rfl⟩
    · rw [recordOperation_frame hrecorded]
      show applied.grids = w.grids
      rw [works.frame]
  | _ => simp [hpayload, EventPayload.occurrence?] at hoccurrence

/-- Whether anything stirs is read off the machines, their queues and the inventories. -/
theorem Unworked.stirs_iff (h : Unworked w w') (hgrids : w'.grids = w.grids) :
    Stirs host w' machineId ↔ Stirs host w machineId := by
  have hsame : w'.productionMachineOutcome host machineId
      = productionMachineOutcome host { w' with
          grids := w.grids
          inventories := w.inventories
          productionQueues := w.productionQueues } machineId := by
    rw [← hgrids, ← h.inventories, ← h.jobs]
  unfold Stirs
  rw [hsame]
  rfl

/-- Quanta leave a world that sleeps as it is, and asleep. -/
theorem unworked_of_quanta {quanta} (hequipped : Equipped w)
    (hidle : ∀ machineId ∈ w.productionQueues.keys, ¬ Stirs host w machineId)
    (hquanta : ∀ event ∈ quanta, event.payload.occurrence?.isSome)
    (hrun : runAll (applyEvent host) w quanta = .ok w') :
    Unworked w w' ∧ ∀ machineId ∈ w'.productionQueues.keys, ¬ Stirs host w' machineId := by
  induction quanta generalizing w with
  | nil =>
    obtain rfl : w = w' := by simpa using hrun
    exact ⟨⟨rfl, rfl, rfl, rfl⟩, hidle⟩
  | cons event quanta ih =>
    rw [List.forall_mem_cons] at hquanta
    obtain ⟨occurrence, hoccurrence⟩ := Option.isSome_iff_exists.mp hquanta.1
    obtain ⟨next, happlied, hrest⟩ := runAll_cons_eq_ok.mp hrun
    obtain ⟨applied, hquantum, hsealed, hgrids⟩ := quantum_of_applyEvent happlied hoccurrence
    have hnext : Unworked w next := ((hquantum.unworked_iff hequipped).mpr hidle).trans hsealed
    have hstill : ∀ machineId ∈ next.productionQueues.keys,
        ¬ Stirs host next machineId := by
      intro machineId hmem
      rw [hnext.stirs_iff hgrids]
      exact hidle machineId (hnext.jobs ▸ hmem)
    obtain ⟨hlast, hasleep⟩ := ih (hequipped.of_eq hgrids hnext.jobs) hstill hquanta.2 hrest
    exact ⟨hnext.trans hlast, hasleep⟩

/-! ## A world that wakes -/

/-- An event gives a world with nothing to do something to do, while there is room in its
    counters and on its clock. -/
structure Wakes (host : Host) (v : WorldState) (event : CanonicalEvent) (w : WorldState) : Prop where
  asleep : v.backgroundProductionIsRunnable host = .ok false
  applied : v.applyEvent host event = .ok w
  awake : w.backgroundProductionIsRunnable host = .ok true
  counters : w.Headroom
  sequence : w.productionClock.lastCommittedQuantumSequence < u64Max
  boundary : event.occurredAtUnixMs + 1000 ≤ u64Max
  cursor : w.productionClock.lastScheduledForUnixMs + 1000 ≤ u64Max

/-- The quantum of an occurrence is planned and accepted, and moves production on. -/
def Resumes (site : Persistence.Site) (w : WorldState) (occurrence : ProductionScheduleOccurrence) :
    Prop :=
  ∃ payload quantum w', w.productionQuantumPayload site.host occurrence = .ok payload
    ∧ Runtime.Cell.prepareProductionQuantumEvent site w payload = .ok quantum
    ∧ w.applyEvent site.host quantum = .ok w' ∧ ¬ Unworked w w'

/-- What a cell relies on when it sleeps: it sleeps exactly while a quantum would change nothing,
    quanta in its sleep change nothing, and the work an event brings back is scheduled and
    resumed. -/
structure Sleeps (site : Persistence.Site) (v : WorldState) : Prop where
  idle : ∀ runnable occurrence, v.backgroundProductionIsRunnable site.host = .ok runnable →
    v.validateNextProductionOccurrence occurrence = .ok () →
    (runnable = false ↔ ∃ w, Quantum site.host v occurrence w ∧ Unworked v w)
  still : ∀ quanta w, v.backgroundProductionIsRunnable site.host = .ok false →
    (∀ event ∈ quanta, event.payload.occurrence?.isSome) →
    runAll (applyEvent site.host) v quanta = .ok w → Unworked v w
  wakes : ∀ event w durable, Wakes site.host v event w →
    ∃ occurrence, resultingNextProductionOccurrence site.host durable false w event
        = .ok (some occurrence)
      ∧ w.validateNextProductionOccurrence occurrence = .ok () ∧ Resumes site w occurrence

theorem not_stirs_of_asleep (h : Equipped w)
    (hasleep : w.backgroundProductionIsRunnable host = .ok false) :
    ∀ machineId ∈ w.productionQueues.keys, ¬ Stirs host w machineId := by
  obtain ⟨-, hiff⟩ := (backgroundProductionIsRunnable_iff h).mp hasleep
  intro machineId hmem hstirs
  exact absurd (hiff.mpr ⟨machineId, hmem, hstirs⟩) (by simp)

/-- No quantum wakes a world. -/
theorem Wakes.occurrence? (h : Equipped v) (hwakes : Wakes host v event w) :
    event.payload.occurrence? = none := by
  cases hoccurrence : event.payload.occurrence? with
  | none => rfl
  | some occurrence =>
    have hidle := not_stirs_of_asleep h hwakes.asleep
    obtain ⟨applied, hquantum, hsealed, hgrids⟩ := quantum_of_applyEvent hwakes.applied hoccurrence
    have hunworked : Unworked v w := ((hquantum.unworked_iff h).mpr hidle).trans hsealed
    obtain ⟨-, hiff⟩ := (backgroundProductionIsRunnable_iff
      (h.of_eq hgrids hunworked.jobs)).mp hwakes.awake
    obtain ⟨machineId, hmem, hstirs⟩ := hiff.mp rfl
    exact absurd ((hunworked.stirs_iff hgrids).mp hstirs)
      (hidle machineId (hunworked.jobs ▸ hmem))

/-- A world that wakes is given an occurrence, and it is one that can be next. -/
theorem Wakes.scheduled (h : Equipped v) (hwakes : Wakes host v event w)
    (durable : Option ProductionScheduleOccurrence) :
    ∃ occurrence, resultingNextProductionOccurrence host durable false w event
        = .ok (some occurrence)
      ∧ w.validateNextProductionOccurrence occurrence = .ok () := by
  have hsequence : checkedAdd w.productionClock.lastCommittedQuantumSequence 1
      = some (w.productionClock.lastCommittedQuantumSequence + 1) :=
    checkedAdd_eq_some.mpr ⟨hwakes.sequence, rfl⟩
  have hboundary : checkedAdd event.occurredAtUnixMs 1000 = some (event.occurredAtUnixMs + 1000) :=
    checkedAdd_eq_some.mpr ⟨hwakes.boundary, rfl⟩
  have hcursor : checkedAdd w.productionClock.lastScheduledForUnixMs 1000
      = some (w.productionClock.lastScheduledForUnixMs + 1000) :=
    checkedAdd_eq_some.mpr ⟨hwakes.cursor, rfl⟩
  set unixMs := max (event.occurredAtUnixMs + 1000)
    (w.productionClock.lastScheduledForUnixMs + 1000)
  obtain ⟨occurrence, hoccurrence⟩ : ∃ occurrence,
      w.nextProductionOccurrenceAt unixMs = .ok occurrence := by
    simp [nextProductionOccurrenceAt, hsequence, hcursor, demand, rejectIf]
  refine ⟨occurrence, ?_, ?_⟩
  · have hquantum := hwakes.occurrence? h
    simp only [resultingNextProductionOccurrence, hwakes.awake, bind_eq_ok, Except.ok.injEq,
      exists_eq_left']
    rw [if_neg (by simp)]
    cases hpayload : event.payload with
    | productionQuantumCommitted => simp [hpayload, EventPayload.occurrence?] at hquantum
    | _ =>
      simp only [oneSecondAfter, hboundary, hcursor, demand_some, Bool.false_eq_true, if_false,
        bind_eq_ok, Except.ok.injEq, exists_eq_left', map_eq_ok]
      exact ⟨occurrence, hoccurrence, rfl⟩
  · simp only [nextProductionOccurrenceAt, hsequence, bind_eq_ok, demand_some, Except.ok.injEq,
      exists_eq_left', pure_eq_ok] at hoccurrence
    obtain ⟨⟨⟩, -, rfl⟩ := hoccurrence
    simp only [validateNextProductionOccurrence, hsequence, hcursor, bind_eq_ok, demand_some,
      Except.ok.injEq, exists_eq_left', rejectIf_eq_ok]
    have htime : w.productionClock.lastScheduledForUnixMs + 1000 ≤ unixMs := le_max_right _ _
    have htimely : (if w.productionClock.lastCommittedQuantumSequence = 0 then
        decide (unixMs > 0)
      else decide (unixMs ≥ w.productionClock.lastScheduledForUnixMs + 1000)) = true := by
      split
      · exact decide_eq_true (by omega)
      · exact decide_eq_true htime
    simp only [htimely]
    simp

/-- Sleep loses nothing. In a world reached by accepted events, whether the cell is runnable has an
    answer up to the budget of machines; it sleeps exactly while a quantum would change nothing,
    and quanta in its sleep change nothing. The work an event brings back is scheduled, and it is
    resumed, exactly when no event wakes the cell with a machine about to finish a job whose owner
    is not in the cell. -/
theorem sleeps_iff {site : Persistence.Site} {first : WorldState} {events : List CanonicalEvent}
    (hvalid : first.validatePlayerRoster site.host = .ok ()) (hbalances : first.Balances)
    (hrun : runAll (applyEvent site.host) first events = .ok v) :
    ((∃ runnable, v.backgroundProductionIsRunnable site.host = .ok runnable)
        ↔ v.productionQueues.size ≤ maxBackgroundQueueBearingMachines)
      ∧ (Sleeps site v ↔ ∀ event w, Wakes site.host v event w →
          ∀ machineBlockId, ¬ Orphaned site.host w machineBlockId) := by
  obtain ⟨hequipped, -⟩ := equipped_of_run hvalid hbalances hrun
  have haccepted : ∀ {event w occurrence}, Wakes site.host v event w →
      w.validateNextProductionOccurrence occurrence = .ok () →
      ((∃ payload quantum w', w.productionQuantumPayload site.host occurrence = .ok payload
          ∧ Runtime.Cell.prepareProductionQuantumEvent site w payload = .ok quantum
          ∧ w.applyEvent site.host quantum = .ok w')
        ↔ ∀ machineBlockId, ¬ Orphaned site.host w machineBlockId) := by
    intro event w occurrence hwakes hnext
    have hreached : runAll (applyEvent site.host) first (events ++ [event]) = .ok w := by
      rw [runAll_append_eq_ok]
      exact ⟨v, hrun, by simp [runAll, hwakes.applied]⟩
    exact quantum_accepted_iff hvalid hbalances hreached hwakes.counters hnext
  constructor
  · simp only [backgroundProductionIsRunnable_iff hequipped]
    constructor
    · rintro ⟨runnable, hbudget, -⟩
      exact hbudget
    · intro hbudget
      by_cases hstirs : ∃ machineBlockId ∈ v.productionQueues.keys, Stirs site.host v machineBlockId
      · exact ⟨true, hbudget, by simpa using hstirs⟩
      · exact ⟨false, hbudget, by simpa using hstirs⟩
  · constructor
    · intro hsleeps event w hwakes
      obtain ⟨occurrence, -, hnext, payload, quantum, w', hpayload, hprepared, happlied, -⟩ :=
        hsleeps.wakes event w none hwakes
      exact (haccepted hwakes hnext).mp ⟨payload, quantum, w', hpayload, hprepared, happlied⟩
    · intro howned
      refine ⟨fun runnable occurrence hanswer hnext => ?_, fun quanta w hasleep hquanta hlast =>
        (unworked_of_quanta hequipped (not_stirs_of_asleep hequipped hasleep) hquanta hlast).1,
        fun event w durable hwakes => ?_⟩
      · obtain ⟨-, hiff⟩ := (backgroundProductionIsRunnable_iff hequipped).mp hanswer
        constructor
        · rintro rfl
          exact ⟨v, exists_quantum_of_idle hequipped hnext (not_stirs_of_asleep hequipped hanswer),
            rfl, rfl, rfl, rfl⟩
        · rintro ⟨w, hquantum, hunworked⟩
          have hidle := (hquantum.unworked_iff hequipped).mp hunworked
          rw [← Bool.not_eq_true, hiff]
          rintro ⟨machineBlockId, hmem, hstirs⟩
          exact hidle machineBlockId hmem hstirs
      · obtain ⟨occurrence, hscheduled, hnext⟩ := hwakes.scheduled hequipped durable
        obtain ⟨payload, quantum, w', hpayload, hprepared, happlied⟩ :=
          (haccepted hwakes hnext).mpr (howned event w hwakes)
        refine ⟨occurrence, hscheduled, hnext, payload, quantum, w', hpayload, hprepared, happlied,
          fun hunworked => ?_⟩
        obtain ⟨outcomes, hoccurrence⟩ : ∃ outcomes, quantum.payload
            = .productionQuantumCommitted occurrence Content.fixedStepHz outcomes := by
          obtain ⟨-, outcomes, -, -, rfl⟩ := productionQuantumPayload_eq_ok hpayload
          rw [prepareProductionQuantumEvent_eq hwakes.counters hnext] at hprepared
          exact ⟨outcomes, by rw [← Except.ok.inj hprepared]; rfl⟩
        obtain ⟨applied, hquantum, hsealed, -⟩ := quantum_of_applyEvent happlied
          (show quantum.payload.occurrence? = some occurrence by rw [hoccurrence]; rfl)
        -- The world that woke stirs, so its first quantum changes a queue.
        have hequipped' : Equipped w := (accepted_of_applyEvent hwakes.applied).equipped hequipped
        obtain ⟨-, hiff⟩ := (backgroundProductionIsRunnable_iff hequipped').mp hwakes.awake
        obtain ⟨machineBlockId, hmem, hstirs⟩ := hiff.mp rfl
        refine (hquantum.unworked_iff hequipped').mp ⟨?_, ?_, ?_, ?_⟩ machineBlockId hmem hstirs
        · exact hsealed.jobs.symm.trans hunworked.jobs
        · exact hsealed.inventories.symm.trans hunworked.inventories
        · exact hsealed.players.symm.trans hunworked.players
        · exact hsealed.ledger.symm.trans hunworked.ledger

end WorldState

/-! The works are overloaded, and their only job is that of a player who leaves. Another player
breaks a worn drill; now the power suffices, the job is scheduled, and its last second cannot be
planned. -/

/-- What a block of a kind produces, requires and stores, in hundredths. -/
def proofPowerOf (anchored : Bool) : BlockKind → Nat × Nat × Nat
  | .controlCore => (0, 200, 0)
  | .powerSource => (1200, 0, 0)
  | .battery => (200, 0, 2000)
  | .cargo => (0, 25, 0)
  | .drill => (0, 400, 0)
  | .anchor => (0, if anchored then 100 else 0, 0)
  | .conveyor => (0, 10, 0)
  | .refinery => (0, 500, 0)
  | .assembler => (0, 400, 0)
  | .structural | .damageTest => (0, 0, 0)

/-- `power().online`, where the sums are exact. -/
def proofPowerOnline (grid : Grid) : Bool :=
  let powers := (grid.blocks.values.filter fun block => block.constructionComplete).map
    fun block => proofPowerOf grid.anchored block.kind
  let available := (powers.map fun power => power.1 + power.2.2).sum
  decide (0 < available ∧ (powers.map fun power => power.2.1).sum ≤ available)

def overloadedHost : Host := { proofHost with
  powerOnline := proofPowerOnline
  closestToolHit := fun _ _ _ => some {
    target := .block "grid-works" "block-drill-near" (.new 0 1 0)
    localFace := some (.new 0 1 0) } }

def overloadedSite : Persistence.Site := { Runtime.proofSite with host := overloadedHost }

/-- The works with more drills than the source can feed, one of them worn, and a second player. -/
def overloadedCell : WorldState := { proofCell with
  player := ⟨"player-1", .ofList [("player-1", proofPlayer),
    ("player-2", { proofPlayer with
      playerId := "player-2"
      inventoryId := "inventory-player-2" })]⟩
  grids := .ofList [("grid-works", { proofGrid with
    blocks := .ofList (proofGrid.blocks.entries ++ [
      ("block-source", Block.new "block-source" (.new (-1) 0 0) .powerSource),
      ("block-drill-near", { Block.new "block-drill-near" (.new 0 1 0) .drill with health := 35 }),
      ("block-drill-far", Block.new "block-drill-far" (.new 0 (-1) 0) .drill)]) })]
  inventories := proofCell.inventories.insert "inventory-player-2"
    ⟨"inventory-player-2", .player "player-2", .empty, 1200⟩
  ledger := { proofCell.ledger with genesisInstalledComponents := 8 } }

/-- A cell that is asleep, and the event that wakes it. -/
structure Woken where
  events : List CanonicalEvent
  asleep : WorldState
  breaking : CanonicalEvent
  awake : WorldState

def woken : Option Woken := do
  let package ← (prepareEvaPlayerTransfer overloadedHost overloadedCell "player-1"
    proofContext).toOption
  let locking := systemEvent overloadedCell "transfer-player-1-prepared" 500
    (.playerTransferPrepared package (proofTransfer package .prepared))
  let locked ← (overloadedCell.applyEvent overloadedHost locking).toOption
  let leaving := systemEvent locked "transfer-player-1-exported" 600
    (.playerTransferExported package (proofTransfer package .committed))
  let asleep ← (locked.applyEvent overloadedHost leaving).toOption
  let breaking ← (asleep.prepareClientEventAs overloadedHost
    { eventId := "event-break", occurredAtUnixMs := 1000 } "player-2"
    (.damageBlock 1 "operation-1" "grid-works" "block-drill-near")).toOption
  let awake ← (asleep.applyEvent overloadedHost breaking).toOption
  return { events := [locking, leaving], asleep, breaking, awake }

namespace WorldState

theorem overloadedCell_starts : overloadedCell.validatePlayerRoster overloadedSite.host = .ok ()
    ∧ overloadedCell.Balances := by
  decide +kernel

/-- The cell falls asleep after two events; one that wakes it is accepted, and schedules a quantum
    that cannot be planned. -/
theorem exists_woken : ∃ r : Woken, (r.events.length = 2
    ∧ runAll (applyEvent overloadedHost) overloadedCell r.events = .ok r.asleep)
    ∧ Wakes overloadedHost r.asleep r.breaking r.awake
    ∧ ∃ occurrence, resultingNextProductionOccurrence overloadedHost none false r.awake r.breaking
        = .ok (some occurrence)
      ∧ r.awake.productionQuantumPayload overloadedHost occurrence
        = .error (.rejected "replay_production_owner_missing"
            "production completion owner is not present in the canonical roster") := by
  have hrun : woken.any fun r => decide ((r.events.length = 2
        ∧ runAll (applyEvent overloadedHost) overloadedCell r.events = .ok r.asleep)
        ∧ (r.asleep.backgroundProductionIsRunnable overloadedHost = .ok false
          ∧ r.asleep.applyEvent overloadedHost r.breaking = .ok r.awake
          ∧ r.awake.backgroundProductionIsRunnable overloadedHost = .ok true)
        ∧ (r.awake.eventSequence < u64Max ∧ r.awake.RoomFor .ore
          ∧ r.awake.RoomFor .refinedMaterial ∧ r.awake.RoomFor .component)
        ∧ (r.awake.productionClock.lastCommittedQuantumSequence < u64Max
          ∧ r.breaking.occurredAtUnixMs + 1000 ≤ u64Max
          ∧ r.awake.productionClock.lastScheduledForUnixMs + 1000 ≤ u64Max)
        ∧ resultingNextProductionOccurrence overloadedHost none false r.awake r.breaking
          = .ok (some { firstOccurrence r.awake with scheduledForUnixMs := 2000 })
        ∧ r.awake.productionQuantumPayload overloadedHost
            { firstOccurrence r.awake with scheduledForUnixMs := 2000 }
          = .error (.rejected "replay_production_owner_missing"
              "production completion owner is not present in the canonical roster")) := by
    decide +kernel
  cases hwoken : woken with
  | none => simp [hwoken] at hrun
  | some r =>
    rw [hwoken] at hrun
    obtain ⟨hreached, ⟨hasleep, happlied, hawake⟩, ⟨hevents, hore, hrefined, hcomponent⟩,
      ⟨hsequence, hboundary, hcursor⟩, hscheduled, hrefused⟩ := of_decide_eq_true hrun
    have hcounters : r.awake.Headroom := ⟨hevents, fun resource => by cases resource <;> assumption⟩
    exact ⟨r, hreached, ⟨hasleep, happlied, hawake, hcounters, hsequence, hboundary, hcursor⟩, _,
      hscheduled, hrefused⟩

/-- Two events on, what is runnable can be told, and it is not slept through only because a job
    may be left without its owner. -/
theorem sleeps_iff_woken : ∃ events v, events.length = 2
    ∧ runAll (applyEvent overloadedHost) overloadedCell events = .ok v
    ∧ (∃ runnable, v.backgroundProductionIsRunnable overloadedHost = .ok runnable)
    ∧ (Sleeps overloadedSite v ↔ ∀ event w, Wakes overloadedHost v event w →
        ∀ machineId, ¬ Orphaned overloadedHost w machineId) := by
  obtain ⟨r, ⟨htwo, hreached⟩, hwakes, -⟩ := exists_woken
  exact ⟨r.events, r.asleep, htwo, hreached, ⟨false, hwakes.asleep⟩,
    (@sleeps_iff _ overloadedSite _ _ overloadedCell_starts.1 overloadedCell_starts.2 hreached).2⟩

/-- The broken drill makes the cell runnable, and the quantum it is given cannot be planned. -/
theorem not_sleeps : ∃ events v,
    overloadedCell.validatePlayerRoster overloadedSite.host = .ok () ∧ overloadedCell.Balances
      ∧ runAll (applyEvent overloadedSite.host) overloadedCell events = .ok v
      ∧ ¬ Sleeps overloadedSite v := by
  obtain ⟨r, ⟨-, hreached⟩, hwakes, scheduled, hscheduled, hrefused⟩ := exists_woken
  refine ⟨r.events, r.asleep, overloadedCell_starts.1, overloadedCell_starts.2, hreached,
    fun hsleeps => ?_⟩
  obtain ⟨occurrence, hnext, -, payload, -, -, hpayload, -, -⟩ :=
    hsleeps.wakes r.breaking r.awake none hwakes
  obtain rfl := Option.some.inj (ok_unique hscheduled hnext)
  cases hrefused.symm.trans hpayload

/-- With every drill at work the source does not suffice. -/
example : overloadedCell.backgroundProductionIsRunnable overloadedHost = .ok false := by
  decide +kernel

end WorldState
end Verse
