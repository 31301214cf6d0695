import Verse.Engine.Carried
import Verse.Engine.Equipped

/-!
# What a due quantum needs

A quantum is planned and applied without anybody asking for it, so whatever it needs must be
there whenever it is due. Queues, machines, recipes and the room in the counters always are. What
need not be there is the owner of a job: the machine that finishes it pays that player at once,
and a player who has gone to another cell takes no queue along.

`planMachine_isOk` says for one machine that this is all that can be missing, and
`planMachines_isOk` for a whole plan, in which no machine brings back an owner for the next.
-/

namespace Verse

open Lib

/-- What a job enters in the books when it is finished. -/
def ProductionJob.yields (job : ProductionJob) (resource : ResourceKind) : Nat :=
  if job.progressTicks = job.durationTicks then 0
  else match productionRecipeQuantities job.recipe job.batches with
    | some (_, outputs, _) => outputs.amount resource
    | none => 0

namespace WorldState

variable {host : Host} {w w' : WorldState} {machineId : String}

/-- A machine at work on a job that one more second finishes. -/
structure Finishing (host : Host) (w : WorldState) (machineBlockId : String)
    (job : ProductionJob) : Prop where
  working : Working host w machineBlockId job
  unfinished : job.progressTicks ≠ job.durationTicks
  last : min (saturatingAdd job.progressTicks Content.fixedStepHz) job.durationTicks
    = job.durationTicks

/-- A machine that one more second takes to the end of a job whose owner is not in the cell. -/
def Orphaned (host : Host) (w : WorldState) (machineBlockId : String) : Prop :=
  ∃ job, Finishing host w machineBlockId job ∧ w.player.byId.get? job.ownerPlayerId = none

/-- What the job at the head of a queue enters in the books when it is finished. -/
def yielding (w : WorldState) (resource : ResourceKind) (machineBlockId : String) : Nat :=
  match w.queueHead machineBlockId with
  | some job => job.yields resource
  | none => 0

/-- Room in the books of a resource for whatever the machines may finish. -/
def RoomFor (w : WorldState) (resource : ResourceKind) : Prop :=
  (w.books resource).entered + (w.productionQueues.keys.map (w.yielding resource)).sum < u64Max

instance (resource : ResourceKind) : Decidable (w.RoomFor resource) :=
  inferInstanceAs (Decidable (_ < _))

/-- Room in the counters for one more event and its goods. -/
structure Headroom (w : WorldState) : Prop where
  events : w.eventSequence < u64Max
  goods : ∀ resource, w.RoomFor resource

/-- The books balance, with room for the jobs at the head of some queues. -/
def Affords (w : WorldState) (machines : List String) : Prop :=
  ∀ resource, (w.books resource).Balanced
    ∧ (w.books resource).entered + (machines.map (w.yielding resource)).sum < u64Max

/-! ## Balanced books -/

/-- A scale that has not reached its last value has stopped nowhere. -/
theorem Balances.balanced (h : w.Balances) {resource : ResourceKind}
    (hroom : (w.books resource).entered < u64Max) : (w.books resource).Balanced := by
  obtain ⟨totals, htotals, hvalid⟩ := h
  obtain ⟨-, hreads⟩ := conservation_eq_ok htotals
  have hreading := hreads.mp hvalid resource
  refine hreading.balanced ?_
  unfold Books.Reads at hreading
  omega

/-- Books that balance within the counters are weighed without a difference. -/
theorem balances_of_balanced (h : ∀ resource, (w.books resource).Balanced)
    (hroom : ∀ resource, (w.books resource).entered ≤ u64Max) : w.Balances := by
  have hheld : ∀ resource, (w.books resource).held ≤ u64Max := by
    intro resource
    have hbalanced := h resource
    have hentered := hroom resource
    unfold Books.Balanced at hbalanced
    omega
  have hweighed : ∃ totals, w.conservation = .ok totals := by
    have hadd : ∀ resource, w.addJobs resource (w.inventoryTotal resource)
        = w.inventoryTotal resource + w.jobsTotal resource := by
      intro resource
      have hle : w.inventoryTotal resource + w.jobsTotal resource ≤ u64Max := hheld resource
      rw [addJobs_eq (by omega), min_eq_left hle]
    obtain ⟨hore, hrefined, hcomponents⟩ :=
      And.intro (h .ore) (And.intro (h .refinedMaterial) (h .component))
    obtain ⟨hore', hrefined', hcomponents'⟩ :=
      And.intro (hroom .ore) (And.intro (hroom .refinedMaterial) (hroom .component))
    simp only [Books.Balanced, books, Ledger.sources, Ledger.consumed, installed] at *
    simp only [conservation, bind_eq_ok, fits_eq_ok, pure_eq_ok, and_assoc, exists_and_left,
      exists_eq_left', hadd, exists_eq', and_true]
    omega
  obtain ⟨totals, htotals⟩ := hweighed
  obtain ⟨-, hreads⟩ := conservation_eq_ok htotals
  refine ⟨totals, htotals, hreads.mpr fun resource => ?_⟩
  unfold Books.Reads
  rw [min_eq_left (hheld resource)]
  exact h resource

/-! ## One machine -/

variable {outcome : ProductionMachineOutcome} {job : ProductionJob}

variable {grid : Grid} {machine : Block}

theorem finishes_iff
    (h : w.productionJobOutcome host machineId grid machine job = .ok outcome) :
    Finishes outcome ↔ Running host w machineId grid machine job
      ∧ job.progressTicks ≠ job.durationTicks
      ∧ min (saturatingAdd job.progressTicks Content.fixedStepHz) job.durationTicks
        = job.durationTicks := by
  unfold productionJobOutcome at h
  simp only [ite_eq_ok, bind_eq_ok, pure_eq_ok, demand_eq_ok, inventory_eq_ok, Prod.exists,
    not_or, Bool.not_eq_false, Bool.not_eq_true, ne_eq, not_not] at h
  unfold Finishes
  obtain ⟨hstopped, rfl⟩ | ⟨⟨hcomplete, hrecipe⟩, ⟨hpower, rfl⟩ | ⟨hpower, ⟨hroute, rfl⟩ |
    ⟨⟨hsource, hdest⟩, h⟩⟩⟩ := h
  · refine iff_of_false (by simp) fun hruns => ?_
    rcases hstopped with hcomplete | hrecipe
    · exact absurd hruns.1.complete (by simp [hcomplete])
    · exact absurd hruns.1.recipe (by simp [hrecipe])
  · exact iff_of_false (by simp) fun hruns => absurd hruns.1.power (by simp [hpower])
  · refine iff_of_false (by simp) fun hruns => ?_
    rcases hroute with hsource | hdest
    · exact absurd hruns.1.source (by simp [hsource])
    · exact absurd hruns.1.destination (by simp [hdest])
  have hrunning : Running host w machineId grid machine job :=
    ⟨hcomplete, hrecipe, hpower, hsource, hdest⟩
  obtain ⟨hdone, destination, hdestination, ⟨-, rfl⟩ | ⟨hroom, rfl⟩⟩ |
    ⟨hprogress, ⟨hnew, rfl⟩ | ⟨hnew, inputs, outputs, ticks, hquantities, destination,
      hdestination, ⟨hroom, rfl⟩ | ⟨hroom, rfl⟩⟩⟩ := h
  · exact iff_of_false (by simp) fun hruns => hruns.2.1 hdone
  · exact iff_of_false (by simp) fun hruns => hruns.2.1 hdone
  · exact iff_of_false (by simp) fun hruns => hnew hruns.2.2
  · exact iff_of_true (.inr rfl) ⟨hrunning, hprogress, hnew⟩
  · exact iff_of_true (.inl rfl) ⟨hrunning, hprogress, hnew⟩

variable {inventoryId : String}

theorem inventory_of_route (h : w.productionRouteExists machineId inventoryId) :
    ∃ inventory, w.inventories.get? inventoryId = some inventory := by
  have hcargo := cargoBlock_of_route h
  cases hinventory : w.inventories.get? inventoryId with
  | some inventory => exact ⟨inventory, rfl⟩
  | none => simp [cargoBlockForInventory, hinventory] at hcargo

theorem exists_productionJobOutcome (hsound : job.Sound) (grid : Grid)
    (machine : Block) :
    ∃ outcome, w.productionJobOutcome host machineId grid machine job = .ok outcome := by
  obtain ⟨inputs, outputs, hquantities, -⟩ := hsound.quantities
  unfold productionJobOutcome
  by_cases hbuilt : machine.constructionComplete = false
      ∨ Content.machineSupportsRecipe machine.kind job.recipe = false
  · exact ⟨_, if_pos hbuilt⟩
  rw [if_neg hbuilt]
  by_cases hpower : host.powerOnline grid = false
  · exact ⟨_, if_pos hpower⟩
  rw [if_neg hpower]
  by_cases hroute : w.productionRouteExists machineId job.sourceInventoryId = false
      ∨ w.productionRouteExists machineId job.destinationInventoryId = false
  · exact ⟨_, if_pos hroute⟩
  rw [if_neg hroute]
  simp only [not_or, Bool.not_eq_false] at hroute
  obtain ⟨destination, hdestination⟩ := inventory_of_route hroute.2
  have hlookup : w.inventory job.destinationInventoryId = .ok destination :=
    inventory_eq_ok.mpr hdestination
  simp only [hlookup, hquantities, demand_some]
  split_ifs with hdone
  · cases hroom : destination.canAddContents job.pendingOutputs <;> exact ⟨_, by simp [hroom]; rfl⟩
  · exact ⟨_, rfl⟩
  · cases hroom : destination.canAddContents outputs <;> exact ⟨_, by simp [hroom]; rfl⟩

/-! ## Room in the counters -/

theorem recordCompletion_of_fits
    (hfits : ∀ resource, (w.ledger.completed job).sources resource ≤ u64Max) :
    w.recordCompletion job = .ok { w with ledger := w.ledger.completed job } := by
  unfold recordCompletion
  cases hrecipe : job.recipe with
  | refining =>
    have hrefined := hfits .refinedMaterial
    simp only [Ledger.sources, Ledger.completed, hrecipe, Content.refiningRefinedOutput] at hrefined
    have hcount : checkedAdd w.ledger.refineBatches job.batches
        = some (w.ledger.refineBatches + job.batches) := checkedAdd_eq_some.mpr ⟨by omega, rfl⟩
    simp only [hcount, Ledger.completed, hrecipe]
    rfl
  | component =>
    have hcrafted := hfits .component
    simp only [Ledger.sources, Ledger.completed, hrecipe, Content.craftingComponentOutput] at hcrafted
    have hcount : checkedAdd w.ledger.craftedComponents job.batches
        = some (w.ledger.craftedComponents + job.batches) := checkedAdd_eq_some.mpr ⟨by omega, rfl⟩
    simp only [hcount, Ledger.completed, hrecipe]
    rfl

variable {outputs : InventoryContents} {destination : InventoryRecord}

theorem deliver_of_fits
    (hdestination : w.inventories.get? inventoryId = some destination)
    (hfits : ∀ resource, destination.contents.amount resource + outputs.amount resource ≤ u64Max) :
    w.deliver inventoryId outputs
      = .ok (w.withContents inventoryId (destination.contents.plus outputs)) := by
  have hlookup : w.inventory inventoryId = .ok destination := inventory_eq_ok.mpr hdestination
  have hsum : destination.contents.add outputs = .ok (destination.contents.plus outputs) := by
    have hore := checkedAdd_eq_some.mpr ⟨hfits .ore, rfl⟩
    have hrefined := checkedAdd_eq_some.mpr ⟨hfits .refinedMaterial, rfl⟩
    have hcomponents := checkedAdd_eq_some.mpr ⟨hfits .component, rfl⟩
    simp only [InventoryContents.amount] at hore hrefined hcomponents
    simp only [InventoryContents.add, hore, hrefined, hcomponents]
    rfl
  simp only [deliver, hlookup]
  show destination.contents.add outputs >>= _ = _
  rw [hsum]
  rfl

/-- What an inventory and the head of a queue hold together the books hold. -/
theorem held_of_head
    (hdestination : w.inventories.get? inventoryId = some destination)
    (hhead : w.queueHead machineId = some job) (resource : ResourceKind) :
    destination.contents.amount resource + job.amount resource ≤ (w.books resource).held := by
  obtain ⟨rest, hqueue⟩ := queueHead_eq_some.mp hhead
  have hcarried : destination.contents.amount resource ≤ w.inventoryTotal resource :=
    OrdMap.le_sumBy (f := fun inventory => inventory.contents.amount resource) hdestination
  have howed : queueAmount resource (job :: rest) ≤ w.jobsTotal resource :=
    OrdMap.le_sumBy hqueue
  rw [queueAmount_cons] at howed
  show _ ≤ w.inventoryTotal resource + w.jobsTotal resource
  omega

theorem Affords.yields (h : w.Affords [machineId]) {inputs} {ticks : Nat}
    (hhead : w.queueHead machineId = some job)
    (hprogress : job.progressTicks ≠ job.durationTicks)
    (hquantities : productionRecipeQuantities job.recipe job.batches = some (inputs, outputs, ticks))
    (resource : ResourceKind) :
    (w.books resource).held + outputs.amount resource ≤ u64Max
      ∧ (w.books resource).entered + outputs.amount resource ≤ u64Max := by
  obtain ⟨hbalanced, hroom⟩ := h resource
  have hyields : w.yielding resource machineId = outputs.amount resource := by
    simp only [yielding, hhead, ProductionJob.yields, if_neg hprogress, hquantities]
  simp only [List.map_cons, List.map_nil, List.sum_cons, List.sum_nil, hyields] at hroom
  unfold Books.Balanced at hbalanced
  omega

theorem exists_applyOutcome
    (hafford : w.Affords [machineId])
    (hsound : job.Sound) (hhead : w.queueHead machineId = some job)
    (hplan : w.productionJobOutcome host machineId grid machine job = .ok outcome)
    (howner : Finishes outcome → ∃ owner, w.player.byId.get? job.ownerPlayerId = some owner) :
    ∃ w', w.applyOutcome outcome = .ok w' := by
  unfold applyOutcome
  cases planned_of_productionJobOutcome hplan with
  | idle hidle => exact ⟨w, by rw [hidle]; rfl⟩
  | advanced hkind hto =>
    simp only [ProductionMachineOutcome.changesState, hkind, if_true,
      applyProductionMachineOutcome, hto, hhead, demand_some]
    exact ⟨_, rfl⟩
  | @finished inputs ticks destination hkind hto hrunning hprogress hnew hquantities
      hdestinationId hdestination =>
    obtain ⟨owner, hpresent⟩ := howner (hkind.imp_right And.left)
    have hroom := hafford.yields hhead hprogress hquantities
    have hbooked : w.recordCompletion job = .ok { w with ledger := w.ledger.completed job } := by
      refine recordCompletion_of_fits fun resource => ?_
      rw [(w.ledger.completed_entry hquantities resource).1]
      exact (hroom resource).2
    have hpaid : ({ w with ledger := w.ledger.completed job } : WorldState).creditOwner job
        = .ok ({ w with ledger := w.ledger.completed job }.withPlayer job.ownerPlayerId
          (owner.creditCompletion job)) := creditOwner_eq_ok.mpr ⟨owner, hpresent, rfl⟩
    rcases hkind with hkind | ⟨hkind, -⟩
    · simp only [ProductionMachineOutcome.changesState, hkind, if_true,
        applyProductionMachineOutcome, bind_eq_ok, demand_eq_ok, pure_eq_ok, hto, hhead,
        Option.some.injEq, exists_eq_left']
      exact ⟨_, _, hbooked, _, hpaid, rfl⟩
    · have hdelivered : ({ w with ledger := w.ledger.completed job }.withPlayer job.ownerPlayerId
          (owner.creditCompletion job)).deliver job.destinationInventoryId outcome.outputs
          = .ok _ := deliver_of_fits hdestination fun resource => by
        have hheld := held_of_head hdestination hhead resource
        have hfits := (hroom resource).1
        omega
      simp only [ProductionMachineOutcome.changesState, hkind, if_true,
        applyProductionMachineOutcome, bind_eq_ok, demand_eq_ok, pure_eq_ok, hto, hhead,
        Option.some.injEq, exists_eq_left', hdestinationId]
      exact ⟨_, _, hbooked, _, hpaid, _, hdelivered, rfl⟩
  | @outputDelivered destination hkind hto hrunning hprogress houtputs hdestinationId
      hdestination =>
    have hdelivered : w.deliver job.destinationInventoryId job.pendingOutputs = .ok _ :=
      deliver_of_fits hdestination fun resource => by
        have hheld := held_of_head hdestination hhead resource
        rw [hsound.amount_of_finished hprogress] at hheld
        obtain ⟨hbalanced, hroom⟩ := hafford resource
        unfold Books.Balanced at hbalanced
        omega
    simp only [ProductionMachineOutcome.changesState, hkind, if_true,
      applyProductionMachineOutcome, bind_eq_ok, demand_eq_ok, pure_eq_ok, hto, houtputs,
      hdestinationId]
    exact ⟨_, _, hdelivered, job, hhead, rfl⟩

/-- A machine with a sound job in its queue and a grid to stand in. -/
def Ready (w : WorldState) (machineBlockId : String) : Prop :=
  ∃ job grid machine, w.queueHead machineBlockId = some job ∧ job.Sound
    ∧ w.blockGrid machineBlockId = some (grid, machine)

/-- Of a ready machine only an owner can be missing. -/
theorem planMachine_isOk (hafford : w.Affords [machineId]) (hready : w.Ready machineId) :
    (∃ next outcome, w.planMachine host machineId = .ok (next, outcome))
      ↔ ¬ Orphaned host w machineId := by
  obtain ⟨job, grid, machine, hhead, hsound, hmachine⟩ := hready
  have hplan : ∀ {next outcome}, w.planMachine host machineId = .ok (next, outcome)
      ↔ w.productionJobOutcome host machineId grid machine job = .ok outcome
        ∧ w.applyOutcome outcome = .ok next := by
    intro next outcome
    simp only [planMachine, productionMachineOutcome, hhead, hmachine, demand_some, bind_eq_ok,
      Except.ok.injEq, exists_eq_left', pure_eq_ok, Prod.mk.injEq]
    constructor
    · rintro ⟨planned, hplanned, applied, happlied, rfl, rfl⟩
      exact ⟨hplanned, happlied⟩
    · rintro ⟨hplanned, happlied⟩
      exact ⟨outcome, hplanned, next, happlied, rfl, rfl⟩
  simp only [hplan]
  constructor
  · rintro ⟨next, outcome, hplanned, happlied⟩ ⟨job', hfinishing, hgone⟩
    obtain rfl := Option.mem_unique hhead hfinishing.working.1
    obtain ⟨-, grid', machine', hmachine', hrunning⟩ := hfinishing.working
    obtain ⟨rfl, rfl⟩ := Prod.mk.inj (Option.mem_unique hmachine hmachine')
    have hfinishes := (finishes_iff hplanned).mpr ⟨hrunning, hfinishing.unfinished, hfinishing.last⟩
    have hto : outcome.machineBlockId = machineId :=
      (work_of_planMachine (hplan.mpr ⟨hplanned, happlied⟩)).outcome_machine
    have hpaid := (work_of_planMachine (hplan.mpr ⟨hplanned, happlied⟩)).roster
    rcases hpaid with ⟨hnone, -⟩ | ⟨job', owner, -, hhead', -, howner, -⟩
    · exact hnone hfinishes
    · obtain rfl := Option.mem_unique hhead hhead'
      exact absurd (hgone.symm.trans howner) (by simp)
  · intro hpresent
    obtain ⟨outcome, hplanned⟩ := exists_productionJobOutcome hsound grid machine
    have howner : Finishes outcome →
        ∃ owner, w.player.byId.get? job.ownerPlayerId = some owner := by
      intro hfinishes
      obtain ⟨hrunning, hunfinished, hlast⟩ := (finishes_iff hplanned).mp hfinishes
      cases howner : w.player.byId.get? job.ownerPlayerId with
      | some owner => exact ⟨owner, rfl⟩
      | none =>
        exact absurd ⟨job, ⟨⟨hhead, grid, machine, hmachine, hrunning⟩, hunfinished, hlast⟩, howner⟩
          hpresent
    obtain ⟨next, happlied⟩ := exists_applyOutcome hafford hsound hhead hplanned howner
    exact ⟨next, outcome, hplanned, happlied⟩

/-! ## A plan -/

/-- What the other machines of a plan look at: the grids, where inventories belong, and who is
    in the roster. -/
structure Undisturbed (w w' : WorldState) : Prop where
  grids : w'.grids = w.grids
  domains : ∀ inventoryId, (w'.inventories.get? inventoryId).map InventoryRecord.domain
    = (w.inventories.get? inventoryId).map InventoryRecord.domain
  roster : ∀ playerId, w'.player.byId.get? playerId = none ↔ w.player.byId.get? playerId = none

theorem Undisturbed.of_domains (hgrids : w'.grids = w.grids) (hroster : w'.player.byId = w.player.byId)
    (hdomains : ∀ inventoryId, (w'.inventories.get? inventoryId).map InventoryRecord.domain
      = (w.inventories.get? inventoryId).map InventoryRecord.domain) : Undisturbed w w' :=
  ⟨hgrids, hdomains, fun playerId => by rw [hroster]⟩

theorem domains_withContents {contents} (key : String) :
    ((w.withContents inventoryId contents).inventories.get? key).map InventoryRecord.domain
      = (w.inventories.get? key).map InventoryRecord.domain := by
  simp only [withContents, OrdMap.get?_modify]
  split_ifs with hkey
  · rw [hkey, Option.map_map]
    rfl
  · rfl

theorem Work.undisturbed (work : Work host w machineId outcome w') : Undisturbed w w' := by
  have hpopped : ∀ {v : WorldState}, Undisturbed w v →
      Undisturbed w (v.popProductionQueueHead machineId) := by
    intro v hv
    rw [popProductionQueueHead_eq]
    exact ⟨hv.grids, hv.domains, hv.roster⟩
  have hpaid : ∀ {job : ProductionJob} {owner : Player} (ledger : Ledger),
      w.player.byId.get? job.ownerPlayerId = some owner →
      Undisturbed w ({ w with ledger }.withPlayer job.ownerPlayerId (owner.creditCompletion job)) := by
    intro job owner ledger howner
    refine ⟨rfl, fun _ => rfl, fun playerId => ?_⟩
    simp only [withPlayer, OrdMap.get?_insert]
    split_ifs with hsame
    · simp [hsame, howner]
    · rfl
  cases work with
  | idle | advanced => exact ⟨rfl, fun _ => rfl, fun _ => Iff.rfl⟩
  | @completed job owner inputs ticks hkind hmachine hworking hprogress hquantities howner =>
    have hcredited := hpaid (w.ledger.completed job) howner
    exact ⟨hcredited.grids, hcredited.domains, hcredited.roster⟩
  | @completedAndDelivered job owner inputs ticks destination hkind hmachine hworking hprogress
      hquantities howner =>
    have hcredited := hpaid (w.ledger.completed job) howner
    exact hpopped ⟨hcredited.grids, domains_withContents, hcredited.roster⟩
  | outputDelivered => exact hpopped (.of_domains rfl rfl domains_withContents)

namespace Undisturbed

theorem blockGrid (h : Undisturbed w w') : w'.blockGrid = w.blockGrid := by
  funext blockId
  simp only [WorldState.blockGrid, h.grids]

theorem cargoBlockForInventory (h : Undisturbed w w') (inventoryId : String) :
    w'.cargoBlockForInventory inventoryId = w.cargoBlockForInventory inventoryId := by
  have hdomain := h.domains inventoryId
  unfold WorldState.cargoBlockForInventory
  rw [h.blockGrid]
  cases hafter : w'.inventories.get? inventoryId <;>
    cases hbefore : w.inventories.get? inventoryId <;>
      simp only [hafter, hbefore, Option.map_some, Option.map_none, reduceCtorEq,
        Option.some.injEq] at hdomain
  · rfl
  · rename_i after before
    obtain ⟨_, domain, _, _⟩ := after
    obtain ⟨_, domain', _, _⟩ := before
    obtain rfl : domain = domain' := hdomain
    cases domain <;> rfl

theorem productionRouteExists (h : Undisturbed w w') (machineId inventoryId : String) :
    w'.productionRouteExists machineId inventoryId
      = w.productionRouteExists machineId inventoryId := by
  unfold WorldState.productionRouteExists
  rw [h.blockGrid, h.cargoBlockForInventory]

theorem orphaned_iff (h : Undisturbed w w')
    (hhead : w'.queueHead machineId = w.queueHead machineId) :
    Orphaned host w' machineId ↔ Orphaned host w machineId := by
  have hrunning : ∀ {grid machine job}, Running host w' machineId grid machine job
      ↔ Running host w machineId grid machine job := by
    intro grid machine job
    constructor
    · rintro ⟨hcomplete, hrecipe, hpower, hsource, hdestination⟩
      rw [h.productionRouteExists] at hsource hdestination
      exact ⟨hcomplete, hrecipe, hpower, hsource, hdestination⟩
    · rintro ⟨hcomplete, hrecipe, hpower, hsource, hdestination⟩
      rw [← h.productionRouteExists] at hsource hdestination
      exact ⟨hcomplete, hrecipe, hpower, hsource, hdestination⟩
  have hworking : ∀ {job}, Working host w' machineId job ↔ Working host w machineId job := by
    intro job
    simp only [Working, hhead, h.blockGrid, hrunning]
  have hfinishing : ∀ {job}, Finishing host w' machineId job
      ↔ Finishing host w machineId job := by
    intro job
    constructor
    · intro hjob
      exact ⟨hworking.mp hjob.working, hjob.unfinished, hjob.last⟩
    · intro hjob
      exact ⟨hworking.mpr hjob.working, hjob.unfinished, hjob.last⟩
  simp only [Orphaned, hfinishing, h.roster]

end Undisturbed

theorem Work.entered_le (work : Work host w machineId outcome w') (resource : ResourceKind) :
    (w'.books resource).entered ≤ (w.books resource).entered + w.yielding resource machineId := by
  have hyields : ∀ {job inputs outputs ticks}, w.queueHead machineId = some job →
      job.progressTicks ≠ job.durationTicks →
      productionRecipeQuantities job.recipe job.batches = some (inputs, outputs, ticks) →
      (w.ledger.completed job).sources resource
        = (w.books resource).entered + w.yielding resource machineId := by
    intro job inputs outputs ticks hhead hprogress hquantities
    rw [(w.ledger.completed_entry hquantities resource).1]
    simp only [yielding, hhead, ProductionJob.yields, if_neg hprogress, hquantities]
    rfl
  have hpopped : ∀ {v : WorldState}, ((v.popProductionQueueHead machineId).books resource).entered
      = (v.books resource).entered := by
    intro v
    rw [popProductionQueueHead_eq]
    rfl
  cases work with
  | idle | advanced => exact Nat.le_add_right _ _
  | completed hkind hmachine hworking hprogress hquantities howner =>
    exact (hyields hworking.1 hprogress hquantities).le
  | completedAndDelivered hkind hmachine hworking hprogress hquantities howner =>
    rw [hpopped]
    exact (hyields hworking.1 hprogress hquantities).le
  | outputDelivered =>
    rw [hpopped]
    exact Nat.le_add_right _ _

variable {machines : List String}

theorem Work.affords
    (work : Work host w machineId outcome w') (hafford : w.Affords (machineId :: machines))
    (hfirst : machineId ∉ machines) (hready : w.Ready machineId) : w'.Affords machines := by
  intro resource
  obtain ⟨hbalanced, hroom⟩ := hafford resource
  obtain ⟨job, -, -, hhead, hsound, -⟩ := hready
  have haccounted := work.accounted fun found hfound =>
    Option.mem_unique hhead hfound ▸ hsound
  refine ⟨(haccounted.books resource).balanced hbalanced, ?_⟩
  have hothers : machines.map (w'.yielding resource) = machines.map (w.yielding resource) := by
    refine List.map_congr_left fun other hother => ?_
    simp only [yielding, work.queueHead_ne fun he => hfirst (he ▸ hother)]
  have hentered := work.entered_le resource
  rw [hothers]
  rw [List.map_cons, List.sum_cons] at hroom
  omega

theorem Work.ready {other : String}
    (work : Work host w machineId outcome w') (hne : other ≠ machineId)
    (hready : w.Ready other) : w'.Ready other := by
  obtain ⟨job, grid, machine, hhead, hsound, hmachine⟩ := hready
  exact ⟨job, grid, machine, (work.queueHead_ne hne).trans hhead, hsound,
    work.undisturbed.blockGrid ▸ hmachine⟩

variable {outcomes : List ProductionMachineOutcome}

theorem Works.affords
    (works : Works host w machines outcomes w') (hafford : w.Affords machines)
    (hnodup : machines.Nodup) (hready : ∀ machineId ∈ machines, w.Ready machineId) :
    w'.Affords [] := by
  induction works with
  | done => exact hafford
  | step work works ih =>
    obtain ⟨hfirst, hrest⟩ := List.nodup_cons.mp hnodup
    refine ih (work.affords hafford hfirst (hready _ List.mem_cons_self)) hrest fun other hother => ?_
    exact work.ready (fun he => hfirst (he ▸ hother)) (hready other (List.mem_cons_of_mem _ hother))

/-- Of a plan only owners can be missing. The induction carries the room the books still have for
    the machines that are left. -/
theorem planMachines_isOk (hafford : w.Affords machines)
    (hnodup : machines.Nodup) (hready : ∀ machineId ∈ machines, w.Ready machineId) :
    (∃ outcomes, w.planMachines host machines = .ok outcomes)
      ↔ ∀ machineId ∈ machines, ¬ Orphaned host w machineId := by
  induction machines generalizing w with
  | nil => exact iff_of_true ⟨[], rfl⟩ (by simp)
  | cons machineId machines ih =>
    obtain ⟨hfirst, hrest⟩ := List.nodup_cons.mp hnodup
    have hreadyFirst := hready machineId List.mem_cons_self
    have haffordFirst : w.Affords [machineId] := by
      intro resource
      obtain ⟨hbalanced, hroom⟩ := hafford resource
      simp only [List.map_cons, List.sum_cons, List.map_nil, List.sum_nil] at hroom ⊢
      exact ⟨hbalanced, by omega⟩
    have hstep : ∀ {next outcome}, w.planMachine host machineId = .ok (next, outcome) →
        ((∃ outcomes, next.planMachines host machines = .ok outcomes)
          ↔ ∀ other ∈ machines, ¬ Orphaned host w other) := by
      intro next outcome hplan
      have work := work_of_planMachine hplan
      have hne : ∀ other ∈ machines, other ≠ machineId := fun other hother he =>
        hfirst (he ▸ hother)
      rw [ih (work.affords hafford hfirst hreadyFirst) hrest fun other hother =>
        work.ready (hne other hother) (hready other (List.mem_cons_of_mem _ hother))]
      refine forall₂_congr fun other hother => not_congr ?_
      exact work.undisturbed.orphaned_iff (work.queueHead_ne (hne other hother))
    simp only [planMachines, bind_eq_ok, pure_eq_ok, Prod.exists, List.forall_mem_cons]
    constructor
    · rintro ⟨_, next, outcome, hplan, outcomes, hplanned, -⟩
      exact ⟨(planMachine_isOk haffordFirst hreadyFirst).mp ⟨next, outcome, hplan⟩,
        (hstep hplan).mp ⟨outcomes, hplanned⟩⟩
    · rintro ⟨hpresent, hothers⟩
      obtain ⟨next, outcome, hplan⟩ := (planMachine_isOk haffordFirst hreadyFirst).mpr hpresent
      obtain ⟨outcomes, hplanned⟩ := (hstep hplan).mpr hothers
      exact ⟨outcome :: outcomes, next, outcome, hplan, outcomes, hplanned, rfl⟩

/-- A plan that was made can be carried out. -/
theorem exists_applyOutcomes
    (hplanned : w.planMachines host machines = .ok outcomes) :
    ∃ w', w.applyOutcomes outcomes = .ok w' := by
  induction machines generalizing w outcomes with
  | nil =>
    obtain rfl : [] = outcomes := by simpa [planMachines] using hplanned
    exact ⟨w, rfl⟩
  | cons machineId machines ih =>
    simp only [planMachines, bind_eq_ok, pure_eq_ok, Prod.exists] at hplanned
    obtain ⟨next, outcome, hplan, rest, hrest, rfl⟩ := hplanned
    have hnext : w.applyOutcome outcome = .ok next := by
      simp only [planMachine, bind_eq_ok, pure_eq_ok, Prod.mk.injEq] at hplan
      obtain ⟨planned, -, next', hnext', rfl, rfl⟩ := hplan
      exact hnext'
    obtain ⟨w', happlied⟩ := ih hrest
    exact ⟨w', bind_eq_ok.mpr ⟨next, hnext, happlied⟩⟩

end WorldState
end Verse
