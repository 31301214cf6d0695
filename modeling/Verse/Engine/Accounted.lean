import Verse.Engine.Carried
import Verse.Engine.Frame
import Verse.World.Balance

/-!
# Every movement is recorded

What each accepted event moves between inventories, queues, blocks and the ground, it records
in the ledger on the other side, for all amounts (`Effect.accounted`). Most events move nothing
or move goods from one inventory to another; the ones that need an argument are a finished job,
whose inputs and outputs the recipe ties to the ledger entry, and a destroyed block, whose grid
comes apart into fragments that hold its other blocks once each.

The totals of the tables come first, one lemma for each kind of write.
-/

namespace Verse

open Lib

/-! ## Contents and witnesses -/

variable {contents : InventoryContents}

theorem InventoryContents.amount_set {changed resource} {amount : Nat} :
    (contents.set changed amount).amount resource
      = if resource = changed then amount else contents.amount resource := by
  cases changed <;> cases resource <;> rfl

theorem InventoryContents.amount_subtract {removed rest} (h : contents.subtract removed = some rest)
    (resource : ResourceKind) :
    rest.amount resource + removed.amount resource = contents.amount resource := by
  unfold InventoryContents.subtract at h
  split_ifs at h with hle
  cases h
  obtain ⟨hore, hrefined, hcomponents⟩ := hle
  cases resource
  · exact Nat.sub_add_cancel hore
  · exact Nat.sub_add_cancel hrefined
  · exact Nat.sub_add_cancel hcomponents

variable {package : PlayerTransferPackage}

theorem PackageOk.contents_eq {host : Host} (h : PackageOk host package) {direction} :
    (transferWitness package direction).contents = package.inventory.contents := by
  simp [transferWitness, h.conserved, conservationOf]

theorem Ledger.entered_entry (ledger : Ledger) (witness : TransferConservationWitness) :
    (∀ resource, (ledger.entered witness).sources resource = ledger.sources resource
        + witnessAmount .importing resource witness)
      ∧ (∀ resource, (ledger.entered witness).consumed resource = ledger.consumed resource
        + witnessAmount .exporting resource witness)
      ∧ (ledger.entered witness).minedOre = ledger.minedOre := by
  unfold entered witnessAmount
  cases hwitness : witness.direction with
  | importing =>
    refine ⟨fun resource => ?_, fun resource => ?_, rfl⟩
    · cases resource <;>
        simp only [sources, InventoryContents.amount, if_true] <;> omega
    · cases resource <;> simp [consumed]
  | exporting =>
    refine ⟨fun resource => ?_, fun resource => ?_, rfl⟩
    · cases resource <;> simp [sources]
    · cases resource <;>
        simp only [consumed, InventoryContents.amount, if_true] <;> omega

/-! ## Jobs and recipes -/

/-- A job holds its inputs until it is finished, and owes its outputs from then on. -/
structure ProductionJob.Sound (job : ProductionJob) : Prop where
  progress : job.progressTicks ≤ job.durationTicks
  quantities : ∃ inputs outputs,
    productionRecipeQuantities job.recipe job.batches = some (inputs, outputs, job.durationTicks)
      ∧ (job.progressTicks < job.durationTicks →
          job.reservedInputs = inputs ∧ job.pendingOutputs = .empty)
      ∧ (job.durationTicks ≤ job.progressTicks →
          job.reservedInputs = .empty ∧ job.pendingOutputs = outputs)

variable {job : ProductionJob} {grid : Grid}

theorem JobOk.sound {w} {machine : Block} {machineId : String}
    (h : JobOk w grid machine machineId job) : job.Sound :=
  ⟨h.progress, h.quantities⟩

variable {inputs outputs : InventoryContents}

variable {ticks : Nat}

theorem ProductionJob.Sound.amount_of_working (h : job.Sound)
    (hquantities : productionRecipeQuantities job.recipe job.batches = some (inputs, outputs, ticks))
    (hprogress : job.progressTicks ≠ job.durationTicks) (resource : ResourceKind) :
    job.amount resource = inputs.amount resource := by
  obtain ⟨inputs', outputs', hquantities', hworking, -⟩ := h.quantities
  obtain ⟨rfl, -⟩ := Prod.mk.inj (Option.mem_unique hquantities' hquantities)
  obtain ⟨hreserved, hpending⟩ := hworking (lt_of_le_of_ne h.progress hprogress)
  rw [ProductionJob.amount, hreserved, hpending, InventoryContents.amount_empty, Nat.add_zero]

theorem ProductionJob.Sound.amount_of_finished (h : job.Sound)
    (hprogress : job.progressTicks = job.durationTicks) (resource : ResourceKind) :
    job.amount resource = job.pendingOutputs.amount resource := by
  obtain ⟨inputs, outputs, -, -, hfinished⟩ := h.quantities
  obtain ⟨hreserved, -⟩ := hfinished hprogress.ge
  rw [ProductionJob.amount, hreserved, InventoryContents.amount_empty, Nat.zero_add]

/-- The entry of a finished job is its recipe: outputs come in, inputs go out. -/
theorem Ledger.completed_entry (ledger : Ledger)
    (hquantities : productionRecipeQuantities job.recipe job.batches = some (inputs, outputs, ticks))
    (resource : ResourceKind) :
    (ledger.completed job).sources resource = ledger.sources resource + outputs.amount resource
      ∧ (ledger.completed job).consumed resource
        = ledger.consumed resource + inputs.amount resource := by
  unfold productionRecipeQuantities at hquantities
  split_ifs at hquantities
  cases hrecipe : job.recipe with
  | refining | component =>
    simp only [hrecipe, Option.bind_eq_bind, Option.bind_eq_some_iff, checkedMul_eq_some,
      Option.pure_def, Option.some.injEq, Prod.mk.injEq] at hquantities
    obtain ⟨_, ⟨-, rfl⟩, _, ⟨-, rfl⟩, _, ⟨-, rfl⟩, rfl, rfl, -⟩ := hquantities
    cases resource <;>
      simp only [sources, consumed, completed, hrecipe, InventoryContents.amount,
        InventoryContents.empty, Nat.add_mul] <;> omega

theorem Ledger.completed_minedOre {ledger : Ledger} :
    (ledger.completed job).minedOre = ledger.minedOre := by
  unfold completed
  cases job.recipe <;> rfl

theorem Grid.WellPlaced.sum_fragments (h : grid.WellPlaced) (host : Host)
    (voxels : VoxelField) (eventSequence : Nat) (measure : Block → Nat) :
    ((grid.fragments host voxels eventSequence).map fun fragment =>
      fragment.blocks.sumBy measure).sum = grid.blocks.sumBy measure := by
  have hentries : (((grid.fragments host voxels eventSequence).map Grid.blocks).flatMap
      OrdMap.entries).Perm grid.blocks.entries := h.fragments_perm
  have hsum := (hentries.map fun entry => measure entry.2).sum_eq
  rw [List.map_flatMap, List.flatMap_map, List.flatMap_def, List.sum_flatten, List.map_map] at hsum
  rw [OrdMap.sumBy_eq, ← hsum]
  congr 1
  refine List.map_congr_left fun fragment _ => ?_
  rw [OrdMap.sumBy_eq]
  rfl

namespace WorldState

variable {host : Host} {w w' : WorldState} {event : CanonicalEvent} {resource : ResourceKind}
  {inventoryId machineId : String}

/-! ## Totals -/

theorem accounted_of_entry (entered spent : InventoryContents)
    (hheld : ∀ resource,
      w'.inventoryTotal resource + w'.jobsTotal resource + spent.amount resource
        = w.inventoryTotal resource + w.jobsTotal resource + entered.amount resource)
    (hsources : ∀ resource,
      w'.ledger.sources resource = w.ledger.sources resource + entered.amount resource)
    (hspent : ∀ resource, w'.installed resource + w'.ledger.consumed resource
      = w.installed resource + w.ledger.consumed resource + spent.amount resource)
    (hground : w'.voxelYield + w'.ledger.minedOre = w.voxelYield + w.ledger.minedOre) :
    Accounted w w' where
  books resource := by
    have hheld := hheld resource
    have hsources := hsources resource
    have hspent := hspent resource
    simp only [books]
    exact ⟨by simp only; omega, by simp only; omega⟩
  ground := hground

theorem installed_of_liveBlocks (h : w'.liveBlocks = w.liveBlocks) (resource : ResourceKind) :
    w'.installed resource = w.installed resource := by
  cases resource with
  | ore | refinedMaterial => rfl
  | component => exact h

/-- Goods moved between inventories and queues need no entry. -/
theorem accounted_of_held (hheld : ∀ resource, w'.inventoryTotal resource + w'.jobsTotal resource
      = w.inventoryTotal resource + w.jobsTotal resource)
    (hblocks : w'.liveBlocks = w.liveBlocks) (hledger : w'.ledger = w.ledger)
    (hvoxels : w'.voxels = w.voxels) : Accounted w w' := by
  refine accounted_of_entry .empty .empty ?_ ?_ ?_ (by rw [voxelYield, voxelYield, hvoxels, hledger])
  · intro resource
    rw [hheld]
  · intro resource
    rw [hledger, InventoryContents.amount_empty, Nat.add_zero]
  · intro resource
    rw [hledger, installed_of_liveBlocks hblocks, InventoryContents.amount_empty, Nat.add_zero]

theorem accounted_of_eq (hinventories : w'.inventories = w.inventories)
    (hqueues : w'.productionQueues = w.productionQueues) (hblocks : w'.liveBlocks = w.liveBlocks)
    (hledger : w'.ledger = w.ledger) (hvoxels : w'.voxels = w.voxels) : Accounted w w' := by
  refine accounted_of_held (fun resource => ?_) hblocks hledger hvoxels
  rw [inventoryTotal, inventoryTotal, jobsTotal, jobsTotal, hinventories, hqueues]

variable {inventory : InventoryRecord}

theorem inventoryTotal_withContents
    (hinventory : w.inventories.get? inventoryId = some inventory) (contents : InventoryContents)
    (resource : ResourceKind) :
    (w.withContents inventoryId contents).inventoryTotal resource
        + inventory.contents.amount resource
      = w.inventoryTotal resource + contents.amount resource :=
  OrdMap.sumBy_modify_add hinventory

theorem inventoryTotal_withInventory (hfresh : w.inventories.get? inventoryId = none)
    (inventory : InventoryRecord) (resource : ResourceKind) :
    (w.withInventory inventoryId inventory).inventoryTotal resource
      = inventory.contents.amount resource + w.inventoryTotal resource :=
  OrdMap.sumBy_insert_new hfresh

/-- What the blocks of a grid stand for. -/
def gridCost (grid : Grid) : Nat := grid.blocks.sumBy Block.componentCost

variable {gridId : String}

theorem liveBlocks_withGrid
    (hgrid : w.grids.get? gridId = some grid) (grid' : Grid) :
    (w.withGrid gridId grid').liveBlocks + gridCost grid = w.liveBlocks + gridCost grid' :=
  OrdMap.sumBy_insert_add hgrid

theorem liveBlocks_withGrid_of_cost {grid' : Grid}
    (hgrid : w.grids.get? gridId = some grid) (hcost : gridCost grid' = gridCost grid) :
    (w.withGrid gridId grid').liveBlocks = w.liveBlocks := by
  have := liveBlocks_withGrid hgrid grid'
  omega

theorem gridCost_insert {blockId : String} {block block' : Block}
    (hblock : grid.blocks.get? blockId = some block)
    (hcost : block'.componentCost = block.componentCost) :
    gridCost { grid with blocks := grid.blocks.insert blockId block' } = gridCost grid := by
  have hsum := OrdMap.sumBy_insert_add (f := Block.componentCost) (v := block') hblock
  rw [hcost] at hsum
  exact Nat.add_right_cancel hsum

/-! ## Machine work -/

variable {rest : List ProductionJob}

theorem jobsTotal_withQueueHead
    (hqueue : w.productionQueues.get? machineId = some (job :: rest))
    (update : ProductionJob → ProductionJob) (resource : ResourceKind) :
    (w.withQueueHead machineId update).jobsTotal resource + job.amount resource
      = w.jobsTotal resource + (update job).amount resource := by
  have hsum : (w.withQueueHead machineId update).jobsTotal resource
        + queueAmount resource (job :: rest)
      = w.jobsTotal resource + queueAmount resource (update job :: rest) :=
    OrdMap.sumBy_modify_add hqueue
  simp only [queueAmount_cons] at hsum
  omega

theorem jobsTotal_popProductionQueueHead
    (hqueue : w.productionQueues.get? machineId = some (job :: rest))
    (resource : ResourceKind) :
    (w.popProductionQueueHead machineId).jobsTotal resource + job.amount resource
      = w.jobsTotal resource := by
  unfold popProductionQueueHead jobsTotal
  cases rest with
  | nil =>
    have hsum := OrdMap.sumBy_eq_add_erase (f := queueAmount resource) hqueue
    simp only [queueAmount_cons, queueAmount_nil] at hsum
    simp only [hqueue]
    omega
  | cons next rest =>
    have hsum := OrdMap.sumBy_insert_add (f := queueAmount resource) (v := next :: rest) hqueue
    simp only [queueAmount_cons] at hsum
    simp only [hqueue]
    omega

theorem popProductionQueueHead_frame (machineId : String) :
    (∀ resource, (w.popProductionQueueHead machineId).inventoryTotal resource
        = w.inventoryTotal resource)
      ∧ (w.popProductionQueueHead machineId).liveBlocks = w.liveBlocks
      ∧ (w.popProductionQueueHead machineId).ledger = w.ledger
      ∧ (w.popProductionQueueHead machineId).voxels = w.voxels := by
  rw [popProductionQueueHead_eq]
  exact ⟨fun _ => rfl, rfl, rfl, rfl⟩

theorem accounted_of_completed
    (hquantities : productionRecipeQuantities job.recipe job.batches = some (inputs, outputs, ticks))
    (hheld : ∀ resource, w'.inventoryTotal resource + w'.jobsTotal resource + inputs.amount resource
      = w.inventoryTotal resource + w.jobsTotal resource + outputs.amount resource)
    (hblocks : w'.liveBlocks = w.liveBlocks) (hledger : w'.ledger = w.ledger.completed job)
    (hvoxels : w'.voxels = w.voxels) : Accounted w w' := by
  refine accounted_of_entry outputs inputs hheld ?_ ?_ ?_
  · intro resource
    rw [hledger]
    exact (w.ledger.completed_entry hquantities resource).1
  · intro resource
    rw [hledger, installed_of_liveBlocks hblocks, (w.ledger.completed_entry hquantities resource).2,
      Nat.add_assoc]
  · rw [voxelYield, voxelYield, hvoxels, hledger, Ledger.completed_minedOre]

theorem Work.accounted {outcome} (work : Work host w machineId outcome w')
    (hsound : ∀ job, w.queueHead machineId = some job → job.Sound) : Accounted w w' := by
  cases work with
  | idle => exact .refl w
  | @advanced job hkind hmachine hworking =>
    obtain ⟨rest, hqueue⟩ := queueHead_eq_some.mp hworking.1
    refine accounted_of_held (fun resource => ?_) rfl rfl rfl
    have hjobs := jobsTotal_withQueueHead hqueue
      (fun job => { job with progressTicks := outcome.newProgressTicks }) resource
    exact congrArg (w.inventoryTotal resource + ·) (Nat.add_right_cancel hjobs)
  | @completed job owner inputs ticks hkind hmachine hworking hprogress hquantities howner =>
    obtain ⟨rest, hqueue⟩ := queueHead_eq_some.mp hworking.1
    refine accounted_of_completed hquantities (fun resource => ?_) rfl rfl rfl
    have hinputs := (hsound job hworking.1).amount_of_working hquantities hprogress resource
    have hjobs := jobsTotal_withQueueHead hqueue (fun head => { head with
      progressTicks := job.durationTicks
      reservedInputs := .empty
      pendingOutputs := outcome.outputs }) resource
    rw [hinputs, show ProductionJob.amount _ resource = outcome.outputs.amount resource by
      simp [ProductionJob.amount]] at hjobs
    rw [Nat.add_assoc, Nat.add_assoc]
    exact congrArg (w.inventoryTotal resource + ·) hjobs
  | @completedAndDelivered job owner inputs ticks destination hkind hmachine hworking hprogress
      hquantities howner hdestination =>
    obtain ⟨rest, hqueue⟩ := queueHead_eq_some.mp hworking.1
    set credited := { w with ledger := w.ledger.completed job }.withPlayer job.ownerPlayerId
      (owner.creditCompletion job)
    set delivered := credited.withContents job.destinationInventoryId
      (destination.contents.plus outcome.outputs)
    obtain ⟨hinventories, hblocks, hledger, hvoxels⟩ :=
      popProductionQueueHead_frame (w := delivered) machineId
    refine accounted_of_completed hquantities (fun resource => ?_) hblocks hledger hvoxels
    have hinputs := (hsound job hworking.1).amount_of_working hquantities hprogress resource
    have hjobs : (delivered.popProductionQueueHead machineId).jobsTotal resource
        + job.amount resource = w.jobsTotal resource :=
      jobsTotal_popProductionQueueHead (w := delivered) hqueue resource
    have hgoods : delivered.inventoryTotal resource + destination.contents.amount resource
        = w.inventoryTotal resource + (destination.contents.plus outcome.outputs).amount resource :=
      inventoryTotal_withContents hdestination _ resource
    rw [InventoryContents.amount_plus] at hgoods
    rw [hinventories resource]
    omega
  | @outputDelivered job destination hkind hmachine hworking hprogress hdestination =>
    obtain ⟨rest, hqueue⟩ := queueHead_eq_some.mp hworking.1
    set delivered := w.withContents job.destinationInventoryId
      (destination.contents.plus job.pendingOutputs)
    obtain ⟨hinventories, hblocks, hledger, hvoxels⟩ :=
      popProductionQueueHead_frame (w := delivered) machineId
    refine accounted_of_held (fun resource => ?_) hblocks hledger hvoxels
    have howed := (hsound job hworking.1).amount_of_finished hprogress resource
    have hjobs : (delivered.popProductionQueueHead machineId).jobsTotal resource
        + job.amount resource = w.jobsTotal resource :=
      jobsTotal_popProductionQueueHead (w := delivered) hqueue resource
    have hgoods : delivered.inventoryTotal resource + destination.contents.amount resource
        = w.inventoryTotal resource + (destination.contents.plus job.pendingOutputs).amount resource :=
      inventoryTotal_withContents hdestination _ resource
    rw [InventoryContents.amount_plus] at hgoods
    rw [hinventories resource]
    omega

/-- A quantum visits every machine once, so each meets the queue it had. -/
theorem Works.accounted {machines outcomes} (works : Works host w machines outcomes w')
    (hnodup : machines.Nodup)
    (hsound : ∀ machineId ∈ machines, ∀ job, w.queueHead machineId = some job →
      job.Sound) : Accounted w w' := by
  induction works with
  | done => exact .refl _
  | step work works ih =>
    obtain ⟨hfirst, hrest⟩ := List.nodup_cons.mp hnodup
    refine (work.accounted (hsound _ List.mem_cons_self)).trans (ih hrest fun key hkey job hjob => ?_)
    rw [work.queueHead_ne fun he => hfirst (he ▸ hkey)] at hjob
    exact hsound key (List.mem_cons_of_mem _ hkey) job hjob

/-! ## Damage -/

theorem queueContents_eq_ok {queue} (h : queueContents queue = .ok contents)
    (resource : ResourceKind) :
    contents.amount resource = queueAmount resource queue := by
  have hfold : ∀ start : InventoryContents, queue.foldlM (fun contents job => do
        let contents ← contents.add job.reservedInputs
        contents.add job.pendingOutputs) start = .ok contents →
      contents.amount resource = start.amount resource + queueAmount resource queue := by
    clear h
    induction queue with
    | nil =>
      intro start h
      obtain rfl : start = contents := by simpa using h
      rfl
    | cons job rest ih =>
      intro start h
      simp only [List.foldlM_cons, bind_eq_ok] at h
      obtain ⟨_, ⟨_, hreserved, hpending⟩, hrest⟩ := h
      obtain ⟨rfl, -⟩ := InventoryContents.add_eq_ok hreserved
      obtain ⟨rfl, -⟩ := InventoryContents.add_eq_ok hpending
      rw [ih _ hrest, queueAmount_cons, ProductionJob.amount, InventoryContents.amount_plus,
        InventoryContents.amount_plus]
      omega
  simpa using hfold .empty h

variable {eventSequence : Nat}

/-- The grids once one of them has come apart: its fragments, and the others as they were. -/
theorem sumBy_shattered {remaining : Grid}
    (hfresh : FragmentsFresh host w gridId remaining eventSequence) (measure : Grid → Nat) :
    (w.shattered host gridId remaining eventSequence).sumBy measure
      = ((remaining.fragments host w.voxels eventSequence).map measure).sum
        + (w.grids.erase gridId).sumBy measure := by
  rw [shattered, ← List.foldl_map (f := fun fragment : Grid => (fragment.gridId, fragment))
    (g := fun grids p => OrdMap.insert grids p.1 p.2), OrdMap.sumBy_foldl_insert]
  · rw [List.map_map]
    rfl
  · rw [List.map_map]
    exact Grid.gridIds_fragments_nodup
  · intro p hp
    obtain ⟨fragment, hfragment, rfl⟩ := List.mem_map.mp hp
    rw [OrdMap.get?_erase]
    split_ifs with hkey
    · rfl
    · exact hfresh fragment hfragment hkey

variable {gridId blockId : String} {block : Block}

theorem liveBlocks_wrecked (hgrid : w.grids.get? gridId = some grid)
    (hblock : grid.blocks.get? blockId = some block) (hplaced : grid.WellPlaced)
    (hfresh : FragmentsFresh host w gridId (remains grid blockId) eventSequence) :
    (w.wrecked host gridId grid blockId block eventSequence).liveBlocks + block.componentCost
      = w.liveBlocks := by
  have hwhole : w.liveBlocks = gridCost grid + (w.grids.erase gridId).sumBy gridCost :=
    OrdMap.sumBy_eq_add_erase hgrid
  have hrest : gridCost grid = block.componentCost + gridCost (remains grid blockId) :=
    OrdMap.sumBy_eq_add_erase hblock
  have hremains : (remains grid blockId).WellPlaced := hplaced.erase
  have hfragments : (((remains grid blockId).fragments host w.voxels eventSequence).map
      gridCost).sum = gridCost (remains grid blockId) :=
    hremains.sum_fragments host w.voxels eventSequence Block.componentCost
  have hshattered : (w.wrecked host gridId grid blockId block eventSequence).liveBlocks = _ :=
    sumBy_shattered hfresh gridCost
  omega

theorem inventoryTotal_dropCargo {ownerPlayerId : String} :
    (w.dropCargo block ownerPlayerId).inventoryTotal resource = w.inventoryTotal resource := by
  unfold dropCargo
  cases block.inventoryId with
  | none => rfl
  | some inventoryId => exact OrdMap.sumBy_modify fun _ => rfl

theorem wrecked_frame (host : Host) (w : WorldState) (gridId : String) (grid : Grid)
    (blockId : String) (block : Block) (eventSequence : Nat) :
    (∀ resource, (w.wrecked host gridId grid blockId block eventSequence).inventoryTotal resource
        = w.inventoryTotal resource)
      ∧ (w.wrecked host gridId grid blockId block eventSequence).productionQueues
        = w.productionQueues
      ∧ (w.wrecked host gridId grid blockId block eventSequence).voxels = w.voxels
      ∧ (w.wrecked host gridId grid blockId block eventSequence).ledger = { w.ledger with
          destroyedBlocks := w.ledger.destroyedBlocks + 1
          destroyedComponents := w.ledger.destroyedComponents + block.componentCost } := by
  rw [wrecked_eq]
  exact ⟨fun _ => inventoryTotal_dropCargo, dropCargo_productionQueues, dropCargo_voxels, rfl⟩

theorem accounted_wrecked (hgrid : w.grids.get? gridId = some grid)
    (hblock : grid.blocks.get? blockId = some block) (hplaced : grid.WellPlaced)
    (hfresh : FragmentsFresh host w gridId (remains grid blockId) eventSequence) :
    Accounted w (w.wrecked host gridId grid blockId block eventSequence) := by
  have hblocks := liveBlocks_wrecked hgrid hblock hplaced hfresh
  obtain ⟨hinventories, hqueues, hvoxels, hledger⟩ :=
    wrecked_frame host w gridId grid blockId block eventSequence
  generalize w.wrecked host gridId grid blockId block eventSequence = v at *
  refine accounted_of_entry .empty .empty ?_ ?_ ?_ (by rw [voxelYield, voxelYield, hvoxels, hledger])
  · intro resource
    rw [hinventories, jobsTotal, jobsTotal, hqueues]
  · intro resource
    rw [hledger]
    cases resource <;> rfl
  · intro resource
    rw [hledger, InventoryContents.amount_empty, Nat.add_zero]
    -- Only components stand in blocks.
    cases resource with
    | ore | refinedMaterial => rfl
    | component =>
      simp only [installed, Ledger.consumed]
      omega

/-- Cargo of a destroyed block stays where it was, and what a machine held is dropped whole. -/
theorem Damaged.accounted {damage : Nat}
    (damaged : Damaged host w gridId blockId damage eventSequence w')
    (hgrids : ∀ gridId grid, w.grids.get? gridId = some grid →
      grid.gridId = gridId ∧ grid.WellPlaced) : Accounted w w' := by
  cases damaged with
  | hurt hgrid hblock hhealth =>
    refine accounted_of_eq rfl rfl ?_ rfl rfl
    exact liveBlocks_withGrid_of_cost hgrid (gridCost_insert hblock rfl)
  | destroyed hgrid hblock hidle hfiled =>
    obtain ⟨hid, hplaced⟩ := hgrids gridId _ hgrid
    exact accounted_wrecked hgrid hblock hplaced (hfiled hid)
  | @destroyedMachine grid block queue contents hgrid hblock hqueue hcontents hdrop hfiled =>
    obtain ⟨hid, hplaced⟩ := hgrids gridId _ hgrid
    refine (accounted_wrecked hgrid hblock hplaced (hfiled hid)).trans ?_
    have hfresh : (w.wrecked host gridId grid blockId block eventSequence).inventories.get?
        s!"inventory-production-drop-{eventSequence}-{blockId}" = none :=
      get?_broken_eq_none.mpr hdrop
    obtain ⟨-, hqueues, -⟩ := wrecked_frame host w gridId grid blockId block eventSequence
    generalize w.wrecked host gridId grid blockId block eventSequence = v at hfresh hqueues ⊢
    refine accounted_of_held (fun resource => ?_) rfl rfl rfl
    have hgoods : _ = contents.amount resource + v.inventoryTotal resource :=
      inventoryTotal_withInventory hfresh
        (machineDrop blockId grid.ownerPlayerId eventSequence contents) resource
    have hjobs : v.jobsTotal resource = queueAmount resource queue
        + (w.productionQueues.erase blockId).sumBy (queueAmount resource) := by
      rw [jobsTotal, hqueues]
      exact OrdMap.sumBy_eq_add_erase hqueue
    rw [hjobs, ← queueContents_eq_ok hcontents resource, ← Nat.add_assoc,
      Nat.add_comm (v.inventoryTotal resource), ← hgoods]
    rfl

/-! ## Players -/

theorem Collapse.accounted {player : Player} {dropped drop}
    (hinventory : w.inventories.get? player.inventoryId = some inventory)
    (collapse : Collapse w player inventory eventSequence dropped drop w') : Accounted w w' := by
  have hemptied := inventoryTotal_withContents hinventory .empty
  cases collapse with
  | bare hempty =>
    refine accounted_of_held (fun resource => ?_) rfl rfl rfl
    have hgoods := hemptied resource
    rw [hempty] at hgoods
    exact congrArg (· + w.jobsTotal resource) (Nat.add_right_cancel hgoods)
  | dropping hcarried hdrop hfresh =>
    refine accounted_of_held (fun resource => ?_) rfl rfl rfl
    have hgoods := inventoryTotal_withInventory (w := w.withContents player.inventoryId .empty)
      (get?_withContents_eq_none.mpr hfresh) (droppedInventory player inventory eventSequence)
      resource
    have hemptied := hemptied resource
    rw [InventoryContents.amount_empty, Nat.add_zero] at hemptied
    refine congrArg (· + w.jobsTotal resource) ?_
    calc _ = inventory.contents.amount resource + _ := hgoods
      _ = w.inventoryTotal resource := by omega

/-! ## Mining -/

variable {coordinate : IVec3} {material : VoxelMaterial}

theorem voxelYield_remove {voxels : VoxelField}
    (hmaterial : voxels.material coordinate = some material) :
    (((voxels.remove coordinate).occupied.keys.map (voxels.remove coordinate).yieldAt).sum
        + Content.voxelOreYield material
      = (voxels.occupied.keys.map voxels.yieldAt).sum) := by
  have hmined : voxels.occupied.contains coordinate
      ∧ voxels.yieldAt coordinate = Content.voxelOreYield material := by
    unfold VoxelField.material at hmaterial
    unfold VoxelField.yieldAt
    split_ifs at hmaterial with hfree hore
    · cases hmaterial
      exact ⟨by simpa only [Bool.not_eq_true', Bool.not_eq_false] using hfree, if_pos hore⟩
    · cases hmaterial
      exact ⟨by simpa only [Bool.not_eq_true', Bool.not_eq_false] using hfree, if_neg hore⟩
  have hothers : (voxels.occupied.erase coordinate).keys.map (voxels.remove coordinate).yieldAt
      = (voxels.occupied.erase coordinate).keys.map voxels.yieldAt := by
    refine List.map_congr_left fun other hother => ?_
    obtain ⟨_, hother⟩ := OrdMap.mem_keys.mp hother
    rw [OrdMap.get?_erase] at hother
    split_ifs at hother with hsame
    have hore : (voxels.remove coordinate).ferriteOre.contains other
        = voxels.ferriteOre.contains other := by
      simp [VoxelField.remove, OrdMap.contains, hsame]
    rw [VoxelField.yieldAt, VoxelField.yieldAt, hore]
  have hsum := ((keys_erase_perm (OrdMap.mem_keys.mpr (OrdMap.contains_iff.mp hmined.1))).map voxels.yieldAt).sum_eq
  rw [List.map_cons, List.sum_cons, hmined.2] at hsum
  show (((voxels.occupied.erase coordinate).keys.map _).sum + _ = _)
  rw [hothers, hsum, Nat.add_comm]

theorem accounted_mined
    (hmaterial : w.voxels.material coordinate = some material)
    (hinventory : w.inventories.get? inventoryId = some inventory) :
    Accounted w ({ w with
      voxels := w.voxels.remove coordinate
      ledger := { w.ledger with
        minedOre := w.ledger.minedOre + Content.voxelOreYield material } }.withContents
          inventoryId { inventory.contents with
            ore := inventory.contents.ore + Content.voxelOreYield material }) := by
  have hmore : ∀ resource, (w.withContents inventoryId { inventory.contents with
      ore := inventory.contents.ore + Content.voxelOreYield material }).inventoryTotal resource
        = w.inventoryTotal resource
          + ({ InventoryContents.empty with ore := Content.voxelOreYield material } :
              InventoryContents).amount resource := by
    intro resource
    have hgoods := inventoryTotal_withContents hinventory { inventory.contents with
      ore := inventory.contents.ore + Content.voxelOreYield material } resource
    cases resource <;> simp only [InventoryContents.amount, InventoryContents.empty] at hgoods ⊢ <;>
      omega
  refine accounted_of_entry { InventoryContents.empty with
    ore := Content.voxelOreYield material } .empty ?_ ?_ ?_ ?_
  · intro resource
    rw [InventoryContents.amount_empty, Nat.add_zero, Nat.add_right_comm, ← hmore]
    rfl
  · intro resource
    cases resource with
    | ore =>
      show w.ledger.genesisOre + (w.ledger.minedOre + Content.voxelOreYield material)
        + w.ledger.transferImportedOre = w.ledger.genesisOre + w.ledger.minedOre
          + w.ledger.transferImportedOre + Content.voxelOreYield material
      omega
    | refinedMaterial | component => rfl
  · intro resource
    cases resource <;> rfl
  · have hground := voxelYield_remove hmaterial
    show ((w.voxels.remove coordinate).occupied.keys.map (w.voxels.remove coordinate).yieldAt).sum
      + (w.ledger.minedOre + Content.voxelOreYield material) = w.voxelYield + w.ledger.minedOre
    unfold voxelYield
    omega

/-! ## Every event -/

theorem jobsTotal_queued (job : ProductionJob) (resource : ResourceKind) :
    (w.productionQueues.insert job.machineBlockId
        (w.queueOf job.machineBlockId ++ [job])).sumBy (queueAmount resource)
      = w.jobsTotal resource + job.amount resource := by
  unfold queueOf jobsTotal
  cases hqueue : w.productionQueues.get? job.machineBlockId with
  | none =>
    rw [OrdMap.sumBy_insert_new hqueue, Option.getD_none, List.nil_append, queueAmount_cons,
      queueAmount_nil, Nat.add_zero, Nat.add_comm]
  | some queue =>
    have hsum := OrdMap.sumBy_insert_add (f := queueAmount resource) (v := queue ++ [job]) hqueue
    rw [queueAmount_append, queueAmount_cons, queueAmount_nil] at hsum
    rw [Option.getD_some]
    omega

theorem inventoryTotal_withCargoInventory
    (hfresh : ∀ inventoryId, block.inventoryId = some inventoryId →
      w.inventories.get? inventoryId = none) (resource : ResourceKind) :
    (w.withCargoInventory block).inventoryTotal resource = w.inventoryTotal resource := by
  unfold withCargoInventory
  cases hid : block.inventoryId with
  | none => rfl
  | some inventoryId =>
    simp only
    rw [inventoryTotal_withInventory (hfresh inventoryId hid), InventoryContents.amount_empty,
      Nat.zero_add]

theorem inventoryTotal_paying {cost : Nat}
    (hinventory : w.inventories.get? inventoryId = some inventory)
    (hcost : cost ≤ inventory.contents.components) (resource : ResourceKind) :
    (w.withContents inventoryId { inventory.contents with
        components := inventory.contents.components - cost }).inventoryTotal resource
        + (⟨0, 0, cost⟩ : InventoryContents).amount resource
      = w.inventoryTotal resource := by
  have hgoods := inventoryTotal_withContents hinventory { inventory.contents with
    components := inventory.contents.components - cost } resource
  cases resource <;> simp only [InventoryContents.amount] at hgoods ⊢ <;> omega

theorem liveBlocks_withBlock
    (hgrid : w.grids.get? gridId = some grid) (hfresh : grid.blocks.get? blockId = none) :
    (w.withGrid gridId { grid with blocks := grid.blocks.insert blockId block }).liveBlocks
      = w.liveBlocks + block.componentCost := by
  have hsum := liveBlocks_withGrid hgrid { grid with blocks := grid.blocks.insert blockId block }
  have hcost : gridCost { grid with blocks := grid.blocks.insert blockId block }
      = block.componentCost + gridCost grid := OrdMap.sumBy_insert_new hfresh
  omega

theorem accounted_blockBuilt
    (hgrid : w.grids.get? gridId = some grid)
    (hfreshBlock : grid.blocks.get? block.blockId = none)
    (hfreshInventory : ∀ inventoryId, block.inventoryId = some inventoryId →
      w.inventories.get? inventoryId = none)
    (hinventory : w.inventories.get? inventoryId = some inventory)
    (hcomponents : block.componentCost ≤ inventory.contents.components)
    {builtBlocks : Nat} :
    Accounted w { (((w.withContents inventoryId { inventory.contents with
        components := inventory.contents.components - block.componentCost }).withCargoInventory
          block).withGrid gridId
            { grid with blocks := grid.blocks.insert block.blockId block }) with
      ledger := { w.ledger with builtBlocks } } := by
  have hpaying := inventoryTotal_paying hinventory hcomponents
  have hfresh : ∀ inventoryId', block.inventoryId = some inventoryId' →
      (w.withContents inventoryId { inventory.contents with
        components := inventory.contents.components - block.componentCost }).inventories.get?
          inventoryId' = none := fun inventoryId' hid =>
    get?_withContents_eq_none.mpr (hfreshInventory inventoryId' hid)
  set paid := w.withContents inventoryId { inventory.contents with
    components := inventory.contents.components - block.componentCost }
  have hheld : ∀ resource, (paid.withCargoInventory block).inventoryTotal resource
      + (⟨0, 0, block.componentCost⟩ : InventoryContents).amount resource
        = w.inventoryTotal resource := by
    intro resource
    rw [inventoryTotal_withCargoInventory hfresh]
    exact hpaying resource
  have hcargo : (paid.withCargoInventory block).productionQueues = w.productionQueues
      ∧ (paid.withCargoInventory block).voxels = w.voxels
      ∧ (paid.withCargoInventory block).grids = w.grids := by
    unfold withCargoInventory
    cases block.inventoryId <;> exact ⟨rfl, rfl, rfl⟩
  generalize paid.withCargoInventory block = v at hheld hcargo ⊢
  obtain ⟨hqueues, hvoxels, hgrids⟩ := hcargo
  have hblocks : (v.withGrid gridId
      { grid with blocks := grid.blocks.insert block.blockId block }).liveBlocks
        = w.liveBlocks + block.componentCost := by
    have hgrid : v.grids.get? gridId = some grid := hgrids ▸ hgrid
    rw [liveBlocks_withBlock hgrid hfreshBlock, liveBlocks, liveBlocks, hgrids]
  refine accounted_of_entry .empty ⟨0, 0, block.componentCost⟩ ?_ ?_ ?_ ?_
  · intro resource
    have hheld := hheld resource
    have hjobs : v.jobsTotal resource = w.jobsTotal resource := by
      rw [jobsTotal, jobsTotal, hqueues]
    change v.inventoryTotal resource + v.jobsTotal resource + _ = _
    rw [InventoryContents.amount_empty]
    omega
  · intro resource
    cases resource <;> rfl
  · intro resource
    cases resource with
    | ore | refinedMaterial => rfl
    | component =>
      show (v.withGrid gridId _).liveBlocks + w.ledger.consumed .component
        = w.liveBlocks + w.ledger.consumed .component + block.componentCost
      omega
  · show (v.voxels.occupied.keys.map v.voxels.yieldAt).sum + _ = _
    rw [hvoxels]
    rfl

theorem accounted_export (hok : PackageOk host package)
    (hinventory : w.inventories.get? package.inventory.inventoryId = some package.inventory) :
    Accounted w ((withoutSubject w package).withWitness (transferWitness package .exporting)) := by
  obtain ⟨hsources, hconsumed, hmined⟩ :=
    w.ledger.entered_entry (transferWitness package .exporting)
  refine accounted_of_entry .empty package.inventory.contents ?_ ?_ ?_ ?_
  · intro resource
    have hgoods : w.inventoryTotal resource = package.inventory.contents.amount resource
        + (w.inventories.erase package.inventory.inventoryId).sumBy fun inventory =>
          inventory.contents.amount resource := OrdMap.sumBy_eq_add_erase hinventory
    rw [InventoryContents.amount_empty, hgoods]
    show (w.inventories.erase package.inventory.inventoryId).sumBy (fun inventory =>
      inventory.contents.amount resource) + w.jobsTotal resource + _ = _
    omega
  · intro resource
    rw [InventoryContents.amount_empty, Nat.add_zero]
    exact hsources resource
  · intro resource
    have hconsumed := hconsumed resource
    rw [witnessAmount, if_pos (show (transferWitness package .exporting).direction = .exporting
      from rfl), hok.contents_eq] at hconsumed
    show w.installed resource + (w.ledger.entered _).consumed resource = _
    rw [hconsumed, Nat.add_assoc]
  · show w.voxelYield + (w.ledger.entered _).minedOre = _
    rw [hmined]

theorem accounted_import (hok : PackageOk host package)
    (hfresh : w.inventories.get? package.inventory.inventoryId = none) :
    Accounted w ((withSubject w package).withWitness (transferWitness package .importing)) := by
  obtain ⟨hsources, hconsumed, hmined⟩ :=
    w.ledger.entered_entry (transferWitness package .importing)
  refine accounted_of_entry package.inventory.contents .empty ?_ ?_ ?_ ?_
  · intro resource
    have hgoods : (w.withInventory package.inventory.inventoryId
        package.inventory).inventoryTotal resource = _ :=
      inventoryTotal_withInventory hfresh package.inventory resource
    rw [InventoryContents.amount_empty, Nat.add_zero]
    show (w.withInventory package.inventory.inventoryId package.inventory).inventoryTotal resource
      + w.jobsTotal resource = _
    omega
  · intro resource
    have hsources := hsources resource
    rwa [witnessAmount, if_pos (show (transferWitness package .importing).direction = .importing
      from rfl), hok.contents_eq] at hsources
  · intro resource
    rw [InventoryContents.amount_empty, Nat.add_zero]
    exact congrArg (w.installed resource + ·) (hconsumed resource)
  · show w.voxelYield + (w.ledger.entered _).minedOre = _
    rw [hmined]

theorem Effect.accounted (hgrids : ∀ gridId grid, w.grids.get? gridId = some grid →
      grid.gridId = gridId ∧ grid.WellPlaced)
    (hqueues : ∀ machineId queue, w.productionQueues.get? machineId = some queue →
      ∀ job ∈ queue, job.Sound) (effect : Effect host w event w') : Accounted w w' := by
  have hfenced : Accounted w { w with fencingToken := event.authorityFencingToken } :=
    accounted_of_eq rfl rfl rfl rfl rfl
  cases effect with
  | playerControlSet | suitModeChanged | suitOxygenChanged | playerRespawned =>
    exact accounted_of_eq rfl rfl rfl rfl rfl
  | playerIncapacitated hpayload hplayer hinventory hdomain hcollapse =>
    exact (hcollapse.accounted hinventory).trans (accounted_of_eq rfl rfl rfl rfl rfl)
  | voxelMined hpayload hby hactor hmaterial hyield hinventory =>
    subst hyield
    exact (accounted_mined hmaterial hinventory).trans (accounted_of_eq rfl rfl rfl rfl rfl)
  | @productionQueued job actorId operationId grid machine outputs source contents hpayload
      hby hoperation hmachine hjob hqueue hrecipe hsource hdestination hinventory hcontents =>
    refine accounted_of_held (fun resource => ?_) rfl rfl rfl
    have htaken := inventoryTotal_withContents hinventory contents resource
    have hsubtracted := InventoryContents.amount_subtract hcontents resource
    have hreserved : job.amount resource = job.reservedInputs.amount resource := by
      rw [ProductionJob.amount, hjob.2.2.2.2.2.2.2.2.2.1, InventoryContents.amount_empty,
        Nat.add_zero]
    have hjobs : _ = w.jobsTotal resource + job.amount resource := jobsTotal_queued job resource
    change (w.withContents job.sourceInventoryId contents).inventoryTotal resource
      + (w.productionQueues.insert job.machineBlockId
          (w.queueOf job.machineBlockId ++ [job])).sumBy (queueAmount resource) = _
    omega
  | productionQuantumCommitted hpayload hexpected happlied =>
    obtain ⟨machines, hnodup, -, works⟩ := works_of_quantum (hpayload ▸ hexpected) happlied
    refine (works.accounted hnodup fun machineId _ job hjob => ?_).trans
      (accounted_of_eq rfl rfl rfl rfl rfl)
    obtain ⟨rest, hqueue⟩ := queueHead_eq_some.mp hjob
    exact hqueues machineId _ hqueue job List.mem_cons_self
  | @inventoryTransferred sourceInventoryId destinationInventoryId changed quantity actorId
      source destination hpayload hby hdistinct hownsSource hownsDestination hsource hdestination
      hamount =>
    refine accounted_of_held (fun resource => ?_) rfl rfl rfl
    have htaken := inventoryTotal_withContents hsource
      (source.contents.set changed (source.contents.amount changed - quantity)) resource
    have hreceiver : (w.withContents sourceInventoryId (source.contents.set changed
        (source.contents.amount changed - quantity))).inventories.get? destinationInventoryId
          = some destination := by
      simpa [withContents, hdistinct.symm] using hdestination
    have hgiven := inventoryTotal_withContents hreceiver
      (destination.contents.set changed (destination.contents.amount changed + quantity)) resource
    refine congrArg (· + w.jobsTotal resource) ?_
    rw [InventoryContents.amount_set] at htaken hgiven
    split_ifs at htaken hgiven with hresource
    · subst hresource
      omega
    · omega
  | blockBuilt hpayload hby hframe hfreshBlock hfreshInventory hgrid howner hactor howns hplace
      hinventory hcomponents =>
    exact accounted_blockBuilt hgrid (hfreshBlock _ (OrdMap.mem_values.mpr ⟨_, hgrid⟩))
      hfreshInventory hinventory hcomponents
  | blockWelded hpayload hby hgrid howner hblock =>
    refine accounted_of_eq rfl rfl ?_ rfl rfl
    exact liveBlocks_withGrid_of_cost hgrid (gridCost_insert hblock rfl)
  | gridControlSet hpayload hby hgrid =>
    exact accounted_of_eq rfl rfl (liveBlocks_withGrid_of_cost hgrid rfl) rfl rfl
  | @gridAnchorSet gridId anchored rewardCredited actorId grid hpayload hby hgrid =>
    refine accounted_of_eq rfl rfl (liveBlocks_withGrid_of_cost hgrid ?_) rfl rfl
    cases anchored <;> rfl
  | blockDamaged hpayload hby hdamage happlied =>
    exact (damaged_of_applyDamage happlied).accounted hgrids
  | physicsStepCommitted hpayload happlied =>
    obtain ⟨-, active, rfl⟩ := applyPhysicsStep_eq_ok happlied
    exact accounted_of_eq rfl rfl (OrdMap.sumBy_foldl_modify fun _ _ => rfl) rfl rfl
  | playerTransferPrepared hpayload hstaged =>
    obtain ⟨-, -, ⟨rfl, -⟩ | ⟨-, -, -, -, rfl⟩⟩ := stagePreparedEvaLock_eq_ok hstaged
    · exact hfenced
    · exact accounted_of_eq rfl rfl rfl rfl rfl
  | playerTransferQuarantined hpayload hstaged =>
    obtain ⟨-, -, ⟨rfl, -⟩ | ⟨-, -, rfl⟩⟩ := stageEvaPlayerQuarantine_eq_ok hstaged
    · exact hfenced
    · exact accounted_of_eq rfl rfl rfl rfl rfl
  | playerTransferAborted hpayload hstaged =>
    obtain ⟨-, -, ⟨-, -, rfl⟩ | ⟨-, -, rfl⟩ | ⟨-, -, -, rfl⟩⟩ :=
      stageAbortedEvaUnlock_eq_ok hstaged
    · exact accounted_of_eq rfl rfl rfl rfl rfl
    · exact hfenced
    · exact accounted_of_eq rfl rfl rfl rfl rfl
  | playerTransferExported hpayload hstaged =>
    obtain ⟨hok, -, ⟨rfl, -⟩ | ⟨-, -, -, -, ⟨-, hinventory, -⟩, rfl⟩⟩ :=
      stageCommittedEvaExport_eq_ok hstaged
    · exact hfenced
    · exact hfenced.trans (accounted_export hok hinventory)
  | playerTransferImported hpayload hstaged =>
    obtain ⟨hok, -, ⟨rfl, -⟩ | ⟨-, -, -, -, ⟨-, hfresh, -⟩, rfl⟩⟩ :=
      stageCommittedEvaImport_eq_ok hstaged
    · exact hfenced
    · exact hfenced.trans (accounted_import hok hfresh)

theorem Paid.accounted (paid : Paid w event w') : Accounted w w' := by
  cases paid with
  | nothing => exact .refl w
  | actor => exact accounted_of_eq rfl rfl rfl rfl rfl

theorem accounted_of_commitEvent (hvalid : Valid host w)
    (h : w.commitEvent host event = .ok w') : Accounted w w' := by
  simp only [commitEvent, bind_eq_ok] at h
  obtain ⟨applied, happlied, paid, hpaid, credited, hcredited, hrecorded⟩ := h
  have hcredit := (payExperience_eq_ok hpaid).recordCareer hcredited
  have heffect : Accounted w applied := by
    refine (effect_of_applyPayload happlied).accounted ?_ ?_
    · intro gridId grid hgrid
      have hok := hvalid.grids gridId grid hgrid
      exact ⟨hok.filed.symm, .of_gridOk hok⟩
    · intro machineId queue hqueue job hjob
      obtain ⟨grid, block, -, -, -, hjobs⟩ := (hvalid.queues machineId queue hqueue).machine
      exact (hjobs job hjob).sound
  have hmoved := heffect.trans hcredit.accounted
  refine hmoved.trans ?_
  rw [recordOperation_frame hrecorded]
  exact accounted_of_eq rfl rfl rfl rfl rfl

end WorldState
end Verse
