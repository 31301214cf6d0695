import Verse.Engine.Production

/-!
# What a second of machine work does

The plan and its application run the same machines through the same function, so an accepted
quantum is one chain of states, a machine at a time. `Work` says what one machine may have
done, with everything its plan checked; `Works` is the chain, and `works_of_planned` finds it.

A machine changes its own queue only, and a quantum visits every machine with a queue once.
-/

namespace Verse

open Lib

/-- Contents put together. -/
def InventoryContents.plus (contents added : InventoryContents) : InventoryContents :=
  ⟨contents.ore + added.ore, contents.refinedMaterial + added.refinedMaterial,
    contents.components + added.components⟩

variable {contents added : InventoryContents} {resource : ResourceKind}

@[simp] theorem InventoryContents.amount_plus :
    (contents.plus added).amount resource = contents.amount resource + added.amount resource := by
  cases resource <;> rfl

@[simp] theorem InventoryContents.amount_empty :
    InventoryContents.empty.amount resource = 0 := by
  cases resource <;> rfl

theorem InventoryContents.add_eq_ok {sum} (h : contents.add added = .ok sum) :
    sum = contents.plus added ∧ ∀ resource, (contents.plus added).amount resource ≤ u64Max := by
  simp only [add, bind_eq_ok, demand_eq_ok, checkedAdd_eq_some, pure_eq_ok] at h
  obtain ⟨ore, ⟨hore, rfl⟩, refined, ⟨hrefined, rfl⟩, components, ⟨hcomponents, rfl⟩, rfl⟩ := h
  refine ⟨rfl, fun resource => ?_⟩
  cases resource
  · exact hore
  · exact hrefined
  · exact hcomponents

/-- The ledger after a finished job. -/
def Ledger.completed (ledger : Ledger) (job : ProductionJob) : Ledger :=
  match job.recipe with
  | .refining => { ledger with refineBatches := ledger.refineBatches + job.batches }
  | .component => { ledger with craftedComponents := ledger.craftedComponents + job.batches }

namespace WorldState

variable {host : Host} {w w' : WorldState} {machineId : String}

variable {job : ProductionJob}

theorem recordCompletion_eq_ok (h : w.recordCompletion job = .ok w') :
    w' = { w with ledger := w.ledger.completed job } := by
  unfold recordCompletion at h
  unfold Ledger.completed
  cases hrecipe : job.recipe with
  | refining | component =>
    simp only [hrecipe, bind_eq_ok, demand_eq_ok, checkedAdd_eq_some, pure_eq_ok] at h
    obtain ⟨total, ⟨-, rfl⟩, rfl⟩ := h
    rfl

theorem creditOwner_eq_ok :
    w.creditOwner job = .ok w' ↔
      ∃ owner, w.player.byId.get? job.ownerPlayerId = some owner
        ∧ w.withPlayer job.ownerPlayerId (owner.creditCompletion job) = w' := by
  simp only [creditOwner, bind_eq_ok, demand_eq_ok, pure_eq_ok]

theorem deliver_eq_ok {inventoryId : String} {outputs : InventoryContents}
    (h : w.deliver inventoryId outputs = .ok w') :
    ∃ destination, w.inventories.get? inventoryId = some destination
      ∧ (∀ resource, (destination.contents.plus outputs).amount resource ≤ u64Max)
      ∧ w' = w.withContents inventoryId (destination.contents.plus outputs) := by
  simp only [deliver, bind_eq_ok, inventory_eq_ok, pure_eq_ok] at h
  obtain ⟨destination, hdestination, contents, hcontents, rfl⟩ := h
  obtain ⟨rfl, hfits⟩ := InventoryContents.add_eq_ok hcontents
  exact ⟨destination, hdestination, hfits, rfl⟩

theorem popProductionQueueHead_eq :
    w.popProductionQueueHead machineId = { w with
      productionQueues := (w.popProductionQueueHead machineId).productionQueues } := by
  unfold popProductionQueueHead
  split <;> rfl

theorem get?_popProductionQueueHead {rest}
    (hqueue : w.productionQueues.get? machineId = some (job :: rest)) {key : String} :
    (w.popProductionQueueHead machineId).productionQueues.get? key =
      if key = machineId then (if rest = [] then none else some rest)
      else w.productionQueues.get? key := by
  unfold popProductionQueueHead
  cases rest with
  | nil | cons next rest => simp [hqueue]

theorem queueHead_eq_some :
    w.queueHead machineId = some job ↔
      ∃ rest, w.productionQueues.get? machineId = some (job :: rest) := by
  unfold queueHead
  cases hqueue : w.productionQueues.get? machineId with
  | none => simp
  | some queue => cases queue <;> simp

/-- A machine that can work on a job: finished, of the right kind, powered, and with both
    routes. -/
structure Running (host : Host) (w : WorldState) (machineBlockId : String) (grid : Grid)
    (machine : Block) (job : ProductionJob) : Prop where
  complete : machine.constructionComplete
  recipe : Content.machineSupportsRecipe machine.kind job.recipe
  power : host.powerOnline grid
  source : w.productionRouteExists machineBlockId job.sourceInventoryId
  destination : w.productionRouteExists machineBlockId job.destinationInventoryId

/-- Such a machine of the world, at work on the head of its queue. -/
def Working (host : Host) (w : WorldState) (machineBlockId : String) (job : ProductionJob) :
    Prop :=
  w.queueHead machineBlockId = some job
    ∧ ∃ grid machine, w.blockGrid machineBlockId = some (grid, machine)
      ∧ Running host w machineBlockId grid machine job

/-- What one machine did in a second, and the state it left. -/
inductive Work (host : Host) (w : WorldState) (machineBlockId : String) :
    ProductionMachineOutcome → WorldState → Prop
  | idle {outcome : ProductionMachineOutcome} (hidle : outcome.changesState = false)
      (hmachine : outcome.machineBlockId = machineBlockId) :
      Work host w machineBlockId outcome w
  | advanced {outcome : ProductionMachineOutcome} {job : ProductionJob}
      (hkind : outcome.kind = .advanced) (hmachine : outcome.machineBlockId = machineBlockId)
      (hworking : Working host w machineBlockId job)
      (hprogress : job.progressTicks ≠ job.durationTicks)
      (hnew : outcome.newProgressTicks < job.durationTicks) :
      Work host w machineBlockId outcome (w.withQueueHead machineBlockId fun job =>
        { job with progressTicks := outcome.newProgressTicks })
  | completed {outcome : ProductionMachineOutcome} {job : ProductionJob} {owner : Player}
      {inputs : InventoryContents} {ticks : Nat}
      (hkind : outcome.kind = .completed) (hmachine : outcome.machineBlockId = machineBlockId)
      (hworking : Working host w machineBlockId job)
      (hprogress : job.progressTicks ≠ job.durationTicks)
      (hquantities : productionRecipeQuantities job.recipe job.batches
        = some (inputs, outcome.outputs, ticks))
      (howner : w.player.byId.get? job.ownerPlayerId = some owner) :
      Work host w machineBlockId outcome
        (({ w with ledger := w.ledger.completed job }.withPlayer job.ownerPlayerId
          (owner.creditCompletion job)).withQueueHead machineBlockId fun head =>
            { head with
              progressTicks := job.durationTicks
              reservedInputs := .empty
              pendingOutputs := outcome.outputs })
  | completedAndDelivered {outcome : ProductionMachineOutcome} {job : ProductionJob}
      {owner : Player} {inputs : InventoryContents} {ticks : Nat} {destination : InventoryRecord}
      (hkind : outcome.kind = .completedAndDelivered)
      (hmachine : outcome.machineBlockId = machineBlockId)
      (hworking : Working host w machineBlockId job)
      (hprogress : job.progressTicks ≠ job.durationTicks)
      (hquantities : productionRecipeQuantities job.recipe job.batches
        = some (inputs, outcome.outputs, ticks))
      (howner : w.player.byId.get? job.ownerPlayerId = some owner)
      (hdestination : w.inventories.get? job.destinationInventoryId = some destination)
      (hcapacity : destination.canAddContents outcome.outputs)
      (hfits : ∀ resource,
        (destination.contents.plus outcome.outputs).amount resource ≤ u64Max) :
      Work host w machineBlockId outcome
        ((({ w with ledger := w.ledger.completed job }.withPlayer job.ownerPlayerId
          (owner.creditCompletion job)).withContents job.destinationInventoryId
            (destination.contents.plus outcome.outputs)).popProductionQueueHead machineBlockId)
  | outputDelivered {outcome : ProductionMachineOutcome} {job : ProductionJob}
      {destination : InventoryRecord}
      (hkind : outcome.kind = .outputDelivered)
      (hmachine : outcome.machineBlockId = machineBlockId)
      (hworking : Working host w machineBlockId job)
      (hprogress : job.progressTicks = job.durationTicks)
      (hdestination : w.inventories.get? job.destinationInventoryId = some destination)
      (hcapacity : destination.canAddContents job.pendingOutputs)
      (hfits : ∀ resource, (destination.contents.plus job.pendingOutputs).amount resource ≤ u64Max) :
      Work host w machineBlockId outcome
        ((w.withContents job.destinationInventoryId
          (destination.contents.plus job.pendingOutputs)).popProductionQueueHead machineBlockId)

/-- The plan for a machine, by what stopped it or how far it got. -/
inductive Planned (host : Host) (w : WorldState) (machineBlockId : String) (grid : Grid)
    (machine : Block) (job : ProductionJob) : ProductionMachineOutcome → Prop
  | idle {outcome} (hidle : outcome.changesState = false)
      (hmachine : outcome.machineBlockId = machineBlockId) :
      Planned host w machineBlockId grid machine job outcome
  | advanced {outcome} (hkind : outcome.kind = .advanced)
      (hmachine : outcome.machineBlockId = machineBlockId)
      (hrunning : Running host w machineBlockId grid machine job)
      (hprogress : job.progressTicks ≠ job.durationTicks)
      (hnew : outcome.newProgressTicks < job.durationTicks) :
      Planned host w machineBlockId grid machine job outcome
  | finished {outcome inputs ticks destination}
      (hkind : outcome.kind = .completed ∨ outcome.kind = .completedAndDelivered
        ∧ destination.canAddContents outcome.outputs)
      (hmachine : outcome.machineBlockId = machineBlockId)
      (hrunning : Running host w machineBlockId grid machine job)
      (hprogress : job.progressTicks ≠ job.durationTicks)
      (hnew : outcome.newProgressTicks = job.durationTicks)
      (hquantities : productionRecipeQuantities job.recipe job.batches
        = some (inputs, outcome.outputs, ticks))
      (hto : outcome.destinationInventoryId = job.destinationInventoryId)
      (hdestination : w.inventories.get? job.destinationInventoryId = some destination) :
      Planned host w machineBlockId grid machine job outcome
  | outputDelivered {outcome destination} (hkind : outcome.kind = .outputDelivered)
      (hmachine : outcome.machineBlockId = machineBlockId)
      (hrunning : Running host w machineBlockId grid machine job)
      (hprogress : job.progressTicks = job.durationTicks)
      (houtputs : outcome.outputs = job.pendingOutputs)
      (hto : outcome.destinationInventoryId = job.destinationInventoryId)
      (hdestination : w.inventories.get? job.destinationInventoryId = some destination)
      (hcapacity : destination.canAddContents job.pendingOutputs) :
      Planned host w machineBlockId grid machine job outcome

variable {outcome : ProductionMachineOutcome}

theorem planned_of_productionJobOutcome {grid : Grid} {machine : Block}
    (h : w.productionJobOutcome host machineId grid machine job = .ok outcome) :
    Planned host w machineId grid machine job outcome := by
  unfold productionJobOutcome at h
  simp only [ite_eq_ok, bind_eq_ok, pure_eq_ok, demand_eq_ok, inventory_eq_ok, Prod.exists,
    not_or, Bool.not_eq_false, Bool.not_eq_true, ne_eq, not_not] at h
  obtain ⟨-, rfl⟩ | ⟨⟨hcomplete, hrecipe⟩, ⟨-, rfl⟩ | ⟨hpower, ⟨-, rfl⟩ | ⟨⟨hsource, hdest⟩, h⟩⟩⟩ := h
  · exact .idle rfl rfl
  · exact .idle rfl rfl
  · exact .idle rfl rfl
  have hrunning : Running host w machineId grid machine job :=
    ⟨hcomplete, hrecipe, hpower, hsource, hdest⟩
  obtain ⟨hdone, destination, hdestination, ⟨-, rfl⟩ | ⟨hroom, rfl⟩⟩ |
    ⟨hprogress, ⟨hnew, rfl⟩ | ⟨hnew, inputs, outputs, ticks, hquantities, destination,
      hdestination, ⟨hroom, rfl⟩ | ⟨hroom, rfl⟩⟩⟩ := h
  · exact .idle rfl rfl
  · exact .outputDelivered rfl rfl hrunning hdone rfl rfl hdestination hroom
  · exact .advanced rfl rfl hrunning hprogress (lt_of_le_of_ne (Nat.min_le_right _ _) hnew)
  · exact .finished (.inr ⟨rfl, hroom⟩) rfl hrunning hprogress hnew hquantities rfl hdestination
  · exact .finished (.inl rfl) rfl hrunning hprogress hnew hquantities rfl hdestination

theorem work_of_planMachine
    (h : w.planMachine host machineId = .ok (w', outcome)) :
    Work host w machineId outcome w' := by
  simp only [planMachine, productionMachineOutcome, bind_eq_ok, demand_eq_ok, pure_eq_ok,
    Prod.mk.injEq, Prod.exists] at h
  obtain ⟨planned, ⟨job, hhead, grid, machine, hmachine, hplan⟩, next, hnext, rfl, rfl⟩ := h
  unfold applyOutcome at hnext
  have hworking : Running host w machineId grid machine job →
      Working host w machineId job := fun hrunning =>
    ⟨hhead, grid, machine, hmachine, hrunning⟩
  cases planned_of_productionJobOutcome hplan with
  | idle hidle hto =>
    rw [hidle] at hnext
    obtain rfl := pure_eq_ok.mp hnext
    exact .idle hidle hto
  | advanced hkind hto hrunning hprogress hnew =>
    simp only [ProductionMachineOutcome.changesState, hkind, if_true,
      applyProductionMachineOutcome, bind_eq_ok, pure_eq_ok] at hnext
    obtain ⟨-, -, rfl⟩ := hnext
    rw [hto]
    exact .advanced hkind hto (hworking hrunning) hprogress hnew
  | @finished inputs ticks destination hkind hto hrunning hprogress hnew hquantities
      hdestinationId hdestination =>
    rcases hkind with hkind | ⟨hkind, hroom⟩
    · simp only [ProductionMachineOutcome.changesState, hkind, if_true,
        applyProductionMachineOutcome, bind_eq_ok, demand_eq_ok, pure_eq_ok, hto, hhead,
        Option.some.injEq, exists_eq_left', creditOwner_eq_ok] at hnext
      obtain ⟨booked, hbooked, credited, ⟨owner, howner, rfl⟩, rfl⟩ := hnext
      obtain rfl := recordCompletion_eq_ok hbooked
      rw [hnew]
      exact .completed hkind hto (hworking hrunning) hprogress hquantities howner
    · simp only [ProductionMachineOutcome.changesState, hkind, if_true,
        applyProductionMachineOutcome, bind_eq_ok, demand_eq_ok, pure_eq_ok, hto, hhead,
        Option.some.injEq, exists_eq_left', creditOwner_eq_ok, hdestinationId] at hnext
      obtain ⟨booked, hbooked, credited, ⟨owner, howner, rfl⟩, delivered, hdelivered, rfl⟩ := hnext
      obtain rfl := recordCompletion_eq_ok hbooked
      obtain ⟨destination', hdestination', hfits, rfl⟩ := deliver_eq_ok hdelivered
      obtain rfl := Option.mem_unique hdestination hdestination'
      exact .completedAndDelivered hkind hto (hworking hrunning) hprogress hquantities howner
        hdestination hroom hfits
  | @outputDelivered destination hkind hto hrunning hprogress houtputs hdestinationId
      hdestination hcapacity =>
    simp only [ProductionMachineOutcome.changesState, hkind, if_true,
      applyProductionMachineOutcome, bind_eq_ok, demand_eq_ok, pure_eq_ok, hto, houtputs,
      hdestinationId] at hnext
    obtain ⟨delivered, hdelivered, -, -, rfl⟩ := hnext
    obtain ⟨destination', hdestination', hfits, rfl⟩ := deliver_eq_ok hdelivered
    obtain rfl := Option.mem_unique hdestination hdestination'
    exact .outputDelivered hkind hto (hworking hrunning) hprogress hdestination hcapacity hfits

/-! ## A quantum -/

/-- A quantum is a chain: each machine works on the state the machine before it left. -/
inductive Works (host : Host) :
    WorldState → List String → List ProductionMachineOutcome → WorldState → Prop
  | done {w : WorldState} : Works host w [] [] w
  | step {w w' w'' : WorldState} {machineBlockId : String} {outcome : ProductionMachineOutcome}
      {machines : List String} {outcomes : List ProductionMachineOutcome}
      (work : Work host w machineBlockId outcome w')
      (works : Works host w' machines outcomes w'') :
      Works host w (machineBlockId :: machines) (outcome :: outcomes) w''

variable {machines : List String}

theorem works_of_planned {outcomes} (hplanned : w.planMachines host machines = .ok outcomes)
    (happlied : w.applyOutcomes outcomes = .ok w') : Works host w machines outcomes w' := by
  induction machines generalizing w outcomes with
  | nil =>
    obtain rfl : [] = outcomes := by simpa [planMachines] using hplanned
    obtain rfl : w = w' := by simpa [applyOutcomes] using happlied
    exact .done
  | cons machineId machines ih =>
    simp only [planMachines, bind_eq_ok, pure_eq_ok, Prod.exists] at hplanned
    obtain ⟨next, outcome, hplan, rest, hrest, rfl⟩ := hplanned
    rw [applyOutcomes, bind_eq_ok] at happlied
    obtain ⟨next', hnext', happlied⟩ := happlied
    have hnext : w.applyOutcome outcome = .ok next := by
      simp only [planMachine, bind_eq_ok, pure_eq_ok, Prod.mk.injEq] at hplan
      obtain ⟨planned, -, next'', hnext'', rfl, rfl⟩ := hplan
      exact hnext''
    obtain rfl := ok_unique hnext hnext'
    exact .step (work_of_planMachine hplan) (ih hrest happlied)

/-- The schedule lists the machines that have a queue, each once. -/
theorem scheduledMachines_eq_ok
    (h : w.scheduledMachines = .ok machines) : machines.Perm w.productionQueues.keys := by
  simp only [scheduledMachines, bind_eq_ok, pure_eq_ok] at h
  obtain ⟨located, hlocated, rfl⟩ := h
  have hkeys : located.map Prod.snd = w.productionQueues.keys := by
    generalize w.productionQueues.keys = keys at hlocated
    induction keys generalizing located with
    | nil =>
      obtain rfl : [] = located := by simpa using hlocated
      rfl
    | cons key keys ih =>
      rw [List.mapM_cons] at hlocated
      simp only [bind_eq_ok, demand_eq_ok, pure_eq_ok, Option.map_eq_some_iff] at hlocated
      obtain ⟨_, ⟨found, -, rfl⟩, rest, hrest, rfl⟩ := hlocated
      rw [List.map_cons, ih rest hrest]
  rw [← hkeys]
  exact (List.mergeSort_perm _ _).map _

theorem productionQuantumPayload_eq_ok {occurrence payload}
    (h : w.productionQuantumPayload host occurrence = .ok payload) :
    ∃ machines outcomes, machines.Perm w.productionQueues.keys
      ∧ w.planMachines host machines = .ok outcomes
      ∧ payload = .productionQuantumCommitted occurrence Content.fixedStepHz outcomes := by
  simp only [productionQuantumPayload, bind_eq_ok, pure_eq_ok] at h
  obtain ⟨-, -, machines, hmachines, outcomes, houtcomes, rfl⟩ := h
  exact ⟨machines, outcomes, scheduledMachines_eq_ok hmachines, houtcomes, rfl⟩

end WorldState
end Verse
