import Verse.World.Validate

/-!
# What the validators accept

The validators are loops with early exits; here each is the property it decides, and the two
agree (`validatePlayerRoster_eq_ok`). A loop that compares an element with those before it
becomes a statement about any two elements, so an invariant proof never sees an order of
iteration.

Two checks follow from the others and have no clause of their own: that carried inventories
are not shared (an inventory names one owner), and that a cargo link is listed once (a block
is in one grid).
-/

namespace Verse

open Lib

variable (host : Host)

/-! ## Players -/

/-- What is asked of one player of the roster. -/
structure PlayerOk (w : WorldState) (playerId : String) (player : Player) : Prop where
  named : validPlayerId playerId
  apart : w.grids.get? (playerBodyId playerId) = none
  placed : placed host w player.address player.position
  finite : player.linearVelocity.isFinite ∧ player.angularVelocity.isFinite
    ∧ player.orientation.isFinite ∧ host.unitOrientation player.orientation
    ∧ player.locomotion.up.isFinite ∧ player.locomotion.viewPitchRadians.isFinite
  carries : ∃ inventory, w.inventories.get? player.inventoryId = some inventory
    ∧ inventory.inventoryId = player.inventoryId ∧ inventory.domain = .player playerId
    ∧ 0 < inventory.capacityLiters ∧ inventory.usedLiters ≤ inventory.capacityLiters

theorem validatePlayer_eq_ok (w : WorldState) (earlier : List (String × Player))
    (entry : String × Player) :
    validatePlayer host w earlier entry = .ok () ↔
      PlayerOk host w entry.1 entry.2
        ∧ ∀ prior ∈ earlier, prior.2.inventoryId ≠ entry.2.inventoryId := by
  obtain ⟨playerId, player⟩ := entry
  simp only [validatePlayer, bind_eq_ok, rejectIf_eq_ok, demand_eq_ok, exists_const, not_or,
    not_not, not_exists, not_and, Bool.not_eq_true, Bool.not_eq_false,
    OrdMap.contains_eq_false, ne_eq, not_lt, Nat.pos_iff_ne_zero.symm]
  constructor
  · rintro ⟨hnamed, hapart, ⟨hplaced, hfinite⟩, hunshared, inventory, hinventory, hcarries⟩
    exact ⟨⟨hnamed, hapart, hplaced, hfinite, inventory, hinventory, hcarries⟩, hunshared⟩
  · rintro ⟨⟨hnamed, hapart, hplaced, hfinite, inventory, hinventory, hcarries⟩, hunshared⟩
    exact ⟨hnamed, hapart, ⟨hplaced, hfinite⟩, hunshared, inventory, hinventory, hcarries⟩

/-! ## Blocks and grids -/

/-- What is asked of one block by itself. -/
structure BlockOk (blockId : String) (block : Block) : Prop where
  filed : blockId = block.blockId
  named : isBlank blockId = false
  orientation : block.orientation ≤ 3
  cost : block.componentCost = (Content.block block.kind).componentCost
  integrity : 0 < block.health ∧ block.health ≤ (Content.block block.kind).maxHealth
  cargo : block.kind = .cargo ↔ block.inventoryId ≠ none

theorem validateBlock_eq_ok (earlierGrids : List (String × Grid))
    (earlier : List (String × Block)) (entry : String × Block) :
    validateBlock earlierGrids earlier entry = .ok () ↔
      (BlockOk entry.1 entry.2 ∧ ∀ prior ∈ earlierGrids, prior.2.blocks.get? entry.1 = none)
        ∧ ∀ prior ∈ earlier, prior.2.coordinate ≠ entry.2.coordinate := by
  obtain ⟨blockId, block⟩ := entry
  simp only [validateBlock, bind_eq_ok, rejectIf_eq_ok, exists_const, not_or, not_not,
    not_exists, not_and, Bool.not_eq_true, OrdMap.contains_eq_false, ne_eq, not_lt, gt_iff_lt]
  constructor
  · rintro ⟨⟨hfiled, hnamed⟩, hgrids, hcoordinates, ⟨ho, hc, hp, hm⟩, hcargo, hother⟩
    refine ⟨⟨⟨hfiled, hnamed, ho, hc, ⟨Nat.pos_of_ne_zero hp, hm⟩, hcargo, ?_⟩, hgrids⟩,
      hcoordinates⟩
    exact fun hid => Classical.not_not.mp fun hk => hid (hother hk)
  · rintro ⟨⟨⟨hfiled, hnamed, ho, hc, ⟨hp, hm⟩, hcargo⟩, hgrids⟩, hcoordinates⟩
    refine ⟨⟨hfiled, hnamed⟩, hgrids, hcoordinates, ⟨ho, hc, hp.ne', hm⟩, hcargo.mp, ?_⟩
    exact fun hk => Classical.not_not.mp fun hid => hk (hcargo.mpr hid)

/-- What is asked of one grid by itself. -/
structure GridOk (w : WorldState) (gridId : String) (grid : Grid) : Prop where
  filed : gridId = grid.gridId
  named : isBlank gridId = false
  owned : validPlayerId grid.ownerPlayerId
  placed : placed host w grid.address grid.position
  finite : grid.linearVelocity.isFinite ∧ grid.angularVelocity.isFinite
    ∧ grid.controlLinearInput.isFinite ∧ grid.controlAngularInput.isFinite
    ∧ grid.orientation.isFinite ∧ host.unitOrientation grid.orientation
  anchored : grid.anchored → grid.anchorTouches host w.voxels
  blocks : ∀ blockId block, grid.blocks.get? blockId = some block → BlockOk blockId block
  coordinates : ∀ blockId block blockId' block', grid.blocks.get? blockId = some block →
    grid.blocks.get? blockId' = some block' → block.coordinate = block'.coordinate →
    blockId = blockId'

theorem validateGrid_eq_ok (w : WorldState) (earlier : List (String × Grid))
    (entry : String × Grid) :
    validateGrid host w earlier entry = .ok () ↔
      GridOk host w entry.1 entry.2
        ∧ ∀ prior ∈ earlier, ∀ blockId block, entry.2.blocks.get? blockId = some block →
          prior.2.blocks.get? blockId = none := by
  obtain ⟨gridId, grid⟩ := entry
  have hblocks : checkEach (validateBlock earlier) [] grid.blocks.entries = .ok () ↔
      (∀ blockId block, grid.blocks.get? blockId = some block →
        BlockOk blockId block ∧ ∀ prior ∈ earlier, prior.2.blocks.get? blockId = none)
      ∧ ∀ blockId block blockId' block', grid.blocks.get? blockId = some block →
        grid.blocks.get? blockId' = some block' → blockId ≠ blockId' →
        block.coordinate ≠ block'.coordinate := by
    rw [checkEach_eq_ok (validateBlock_eq_ok earlier), OrdMap.forall_entries,
      OrdMap.pairwise_entries fun _ _ h => Ne.symm h]
    simp
  simp only [validateGrid, bind_eq_ok, rejectIf_eq_ok, exists_const, not_or, not_not, not_and,
    Bool.not_eq_true, Bool.not_eq_false, ne_eq, hblocks]
  constructor
  · rintro ⟨⟨hfiled, hnamed⟩, howned, ⟨hplaced, hfinite⟩, hanchored, hok, hapart⟩
    refine ⟨⟨hfiled, hnamed, howned, hplaced, hfinite, hanchored, fun k b hk => (hok k b hk).1,
      ?_⟩, fun prior hp k b hk => (hok k b hk).2 prior hp⟩
    exact fun k b k' b' hk hk' hc => Classical.not_not.mp fun hne => hapart k b k' b' hk hk' hne hc
  · rintro ⟨⟨hfiled, hnamed, howned, hplaced, hfinite, hanchored, hok, hcoordinates⟩, hearlier⟩
    refine ⟨⟨hfiled, hnamed⟩, howned, ⟨hplaced, hfinite⟩, hanchored,
      fun k b hk => ⟨hok k b hk, fun prior hp => hearlier prior hp k b hk⟩, ?_⟩
    exact fun k b k' b' hk hk' hne hc => hne (hcoordinates k b k' b' hk hk' hc)

namespace WorldState

/-- A block of a grid of the world. -/
def BlockIn (w : WorldState) (blockId : String) (grid : Grid) (block : Block) : Prop :=
  ∃ gridId, w.grids.get? gridId = some grid ∧ grid.blocks.get? blockId = some block

/-- No block is in two grids. -/
def BlocksApart (w : WorldState) : Prop :=
  ∀ gridId grid gridId' grid' blockId block block', w.grids.get? gridId = some grid →
    w.grids.get? gridId' = some grid' → grid.blocks.get? blockId = some block →
    grid'.blocks.get? blockId = some block' → gridId = gridId'

end WorldState

variable {w : WorldState}

theorem validateGrids_eq_ok :
    checkEach (validateGrid host w) [] w.grids.entries = .ok () ↔
      (∀ gridId grid, w.grids.get? gridId = some grid → GridOk host w gridId grid)
        ∧ w.BlocksApart := by
  rw [checkEach_eq_ok (validateGrid_eq_ok host w), OrdMap.forall_entries, OrdMap.pairwise_entries]
  · simp only [List.not_mem_nil, IsEmpty.forall_iff, implies_true, and_true]
    refine and_congr_right fun _ => ⟨fun h => ?_, fun h => ?_⟩
    · intro gridId grid gridId' grid' blockId block block' hg hg' hb hb'
      by_contra hne
      have := h gridId grid gridId' grid' hg hg' hne blockId block' hb'
      simp [hb] at this
    · intro gridId grid gridId' grid' hg hg' hne blockId block' hb'
      cases hb : grid.blocks.get? blockId with
      | none => rfl
      | some block => exact absurd (h _ _ _ _ _ _ _ hg hg' hb hb') hne
  · intro a b h blockId block hblock
    cases hb : b.2.blocks.get? blockId with
    | none => rfl
    | some block' => simp [h blockId block' hb] at hblock

variable {blockId : String}

variable {grid : Grid} {block : Block}

namespace WorldState

variable {w : WorldState}

theorem BlocksApart.unique (h : w.BlocksApart) {grid' : Grid}
    {block' : Block} (hb : w.BlockIn blockId grid block)
    (hb' : w.BlockIn blockId grid' block') : grid = grid' ∧ block = block' := by
  obtain ⟨gridId, hg, hb⟩ := hb
  obtain ⟨gridId', hg', hb'⟩ := hb'
  obtain rfl := h _ _ _ _ _ _ _ hg hg' hb hb'
  obtain rfl := Option.mem_unique hg hg'
  exact ⟨rfl, Option.mem_unique hb hb'⟩

theorem blockIn_of_blockGrid
    (h : w.blockGrid blockId = some (grid, block)) : w.BlockIn blockId grid block := by
  obtain ⟨g, hg, hf⟩ := List.exists_of_findSome?_eq_some h
  obtain ⟨gridId, hg⟩ := OrdMap.mem_values.mp hg
  obtain ⟨b, hb, heq⟩ := Option.map_eq_some_iff.mp hf
  obtain ⟨rfl, rfl⟩ := Prod.mk.inj heq
  exact ⟨gridId, hg, hb⟩

theorem BlocksApart.cargoInventoryByBlock_eq (h : w.BlocksApart) {inventoryId : String} :
    w.cargoInventoryByBlock.get? blockId = some inventoryId ↔
      ∃ grid block, w.BlockIn blockId grid block ∧ block.kind = .cargo
        ∧ block.inventoryId = some inventoryId := by
  have hmem : ∀ k i, (k, i) ∈ (w.grids.values.flatMap fun grid =>
      grid.blocks.entries.filterMap fun entry =>
        if entry.2.kind = .cargo then entry.2.inventoryId.map fun id => (entry.1, id) else none) ↔
      ∃ grid block, w.BlockIn k grid block ∧ block.kind = .cargo
        ∧ block.inventoryId = some i := by
    intro k i
    simp only [List.mem_flatMap, List.mem_filterMap, OrdMap.mem_values, Prod.exists, BlockIn]
    constructor
    · rintro ⟨grid, ⟨gridId, hg⟩, k', block, hb, heq⟩
      split_ifs at heq with hcargo
      obtain ⟨i', hi, heq⟩ := Option.map_eq_some_iff.mp heq
      obtain ⟨rfl, rfl⟩ := Prod.mk.inj heq
      exact ⟨grid, block, ⟨gridId, hg, OrdMap.mem_entries.mp hb⟩, hcargo, hi⟩
    · rintro ⟨grid, block, ⟨gridId, hg, hb⟩, hcargo, hi⟩
      exact ⟨grid, ⟨gridId, hg⟩, k, block, OrdMap.mem_entries.mpr hb, by simp [hcargo, hi]⟩
  rw [cargoInventoryByBlock, OrdMap.get?_ofList, hmem]
  rintro ⟨k, i⟩ hp ⟨k', i'⟩ hq (rfl : k = k')
  obtain ⟨grid, block, hb, -, hi⟩ := (hmem k i).mp hp
  obtain ⟨grid', block', hb', -, hi'⟩ := (hmem k i').mp hq
  obtain ⟨rfl, rfl⟩ := h.unique hb hb'
  exact Option.mem_unique hi hi'

end WorldState

/-! ## Inventories -/

/-- Whom or what an inventory belongs to exists and links back. -/
def DomainOk (w : WorldState) (inventoryId : String) : InventoryDomain → Prop
  | .player playerId =>
    ∃ player, w.player.byId.get? playerId = some player ∧ player.inventoryId = inventoryId
  | .cargo blockId =>
    ∃ grid block, w.BlockIn blockId grid block ∧ block.inventoryId = some inventoryId
  | .dropped reason ownerPlayerId => isBlank reason = false ∧ validPlayerId ownerPlayerId

structure InventoryOk (w : WorldState) (inventoryId : String) (inventory : InventoryRecord) :
    Prop where
  filed : inventoryId = inventory.inventoryId
  named : isBlank inventoryId = false
  capacity : 0 < inventory.capacityLiters ∧ inventory.usedLiters ≤ inventory.capacityLiters
  domain : DomainOk w inventoryId inventory.domain

/-- A cargo block leads to an inventory that leads back to it. -/
def CargoOk (w : WorldState) : Prop :=
  ∀ blockId grid block inventoryId, w.BlockIn blockId grid block →
    block.inventoryId = some inventoryId →
    ∃ inventory, w.inventories.get? inventoryId = some inventory
      ∧ inventory.domain = .cargo blockId

section inventories

variable {w : WorldState}
  (hgrids : ∀ gridId grid, w.grids.get? gridId = some grid → GridOk host w gridId grid)

include hgrids in
theorem kind_cargo_iff
    (hb : w.BlockIn blockId grid block) : block.kind = .cargo ↔ block.inventoryId ≠ none := by
  obtain ⟨gridId, hg, hb⟩ := hb
  exact ((hgrids gridId grid hg).blocks blockId block hb).cargo

include hgrids in
theorem validateInventory_eq_ok (hapart : w.BlocksApart) {entry} :
    validateInventory w entry = .ok () ↔ InventoryOk w entry.1 entry.2 := by
  obtain ⟨inventoryId, inventory⟩ := entry
  have hdomain : ∀ blockId, (w.cargoInventoryByBlock.get? blockId = some inventoryId ↔
      ∃ grid block, w.BlockIn blockId grid block ∧ block.inventoryId = some inventoryId) := by
    intro blockId
    rw [hapart.cargoInventoryByBlock_eq]
    refine exists_congr fun grid => exists_congr fun block => and_congr_right fun hb => ?_
    rw [kind_cargo_iff host hgrids hb]
    exact ⟨fun h => h.2, fun h => ⟨by simp [h], h⟩⟩
  simp only [validateInventory, bind_eq_ok, rejectIf_eq_ok, exists_const, not_or, not_not,
    Bool.not_eq_true, ne_eq, not_lt, gt_iff_lt]
  constructor
  · rintro ⟨⟨hfiled, hnamed, hcapacity, hused⟩, hd⟩
    refine ⟨hfiled, hnamed, ⟨Nat.pos_of_ne_zero hcapacity, hused⟩, ?_⟩
    show DomainOk w inventoryId inventory.domain
    cases h : inventory.domain <;> simpa [h, DomainOk, hdomain] using hd
  · rintro ⟨hfiled, hnamed, ⟨hcapacity, hused⟩, hd⟩
    refine ⟨⟨hfiled, hnamed, hcapacity.ne', hused⟩, ?_⟩
    change DomainOk w inventoryId inventory.domain at hd
    cases h : inventory.domain <;> simpa [h, DomainOk, hdomain] using hd

include hgrids in
theorem validateCargoLinks_eq_ok (hapart : w.BlocksApart) :
    checkAll (validateCargo w) w.cargoInventoryByBlock.entries = .ok () ↔ CargoOk w := by
  simp only [checkAll_eq_ok, OrdMap.forall_entries, hapart.cargoInventoryByBlock_eq,
    validateCargo, bind_eq_ok, demand_eq_ok, rejectIf_eq_ok, ne_eq, not_not]
  constructor
  · intro h blockId grid block inventoryId hb hi
    refine h blockId inventoryId ⟨grid, block, hb, ?_, hi⟩
    exact (kind_cargo_iff host hgrids hb).mpr (by simp [hi])
  · rintro h blockId inventoryId ⟨grid, block, hb, -, hi⟩
    exact h blockId grid block inventoryId hb hi

end inventories

/-! ## Queues -/

/-- What is asked of one job of a machine by itself. -/
structure JobOk (w : WorldState) (machineGrid : Grid) (machine : Block) (machineBlockId : String)
    (job : ProductionJob) : Prop where
  named : isBlank job.jobId = false ∧ isBlank job.operationId = false
  owned : job.ownerPlayerId = machineGrid.ownerPlayerId
  filed : job.machineBlockId = machineBlockId
  content : job.contentManifestVersion = w.contentManifestVersion
  recipe : Content.machineSupportsRecipe machine.kind job.recipe
  queued : 0 < job.queuedEventSequence ∧ job.queuedEventSequence ≤ w.eventSequence
  progress : job.progressTicks ≤ job.durationTicks
  quantities : ∃ inputs outputs,
    productionRecipeQuantities job.recipe job.batches = some (inputs, outputs, job.durationTicks)
      ∧ (job.progressTicks < job.durationTicks →
          job.reservedInputs = inputs ∧ job.pendingOutputs = .empty)
      ∧ (job.durationTicks ≤ job.progressTicks →
          job.reservedInputs = .empty ∧ job.pendingOutputs = outputs)
  endpoints : w.inventoryOwnerPlayerId job.sourceInventoryId = .ok job.ownerPlayerId
    ∧ w.inventoryOwnerPlayerId job.destinationInventoryId = .ok job.ownerPlayerId

theorem batches_pos_of_quantities {recipe} {batches : Nat} {quantities}
    (h : productionRecipeQuantities recipe batches = some quantities) : 0 < batches := by
  by_contra hzero
  simp [productionRecipeQuantities, Nat.eq_zero_of_not_pos hzero] at h

theorem validateJob_eq_ok (w : WorldState) (machineGrid : Grid) (machine : Block)
    (machineId : String) (earlierQueues : List (String × List ProductionJob))
    (earlier : List ProductionJob) (job : ProductionJob) :
    validateJob w machineGrid machine machineId earlierQueues earlier job = .ok () ↔
      (JobOk w machineGrid machine machineId job
          ∧ ∀ prior ∈ earlierQueues, ∀ other ∈ prior.2, other.jobId ≠ job.jobId)
        ∧ ∀ other ∈ earlier, other.jobId ≠ job.jobId ∧ job.progressTicks = 0 := by
  simp only [validateJob, bind_eq_ok, rejectIf_eq_ok, demand_eq_ok, checkAll_eq_ok, exists_const,
    Prod.exists, List.forall_mem_cons, List.not_mem_nil, IsEmpty.forall_iff, implies_true,
    and_true, not_or, not_and, not_exists, not_not, Bool.not_eq_true, Bool.not_eq_false, ne_eq,
    not_lt, gt_iff_lt, exists_eq_right]
  constructor
  · rintro ⟨⟨hjob, hqueues, hearlier, hoperation, howned, hmachine, hcontent, hrecipe, -, hpos,
      hqueued, hprogress, htail⟩, inputs, outputs, duration, hquantities, rfl, hunfinished,
      hfinished, hsource, hdestination⟩
    refine ⟨⟨⟨⟨hjob, hoperation⟩, howned, hmachine, hcontent, hrecipe,
      ⟨Nat.pos_of_ne_zero hpos, hqueued⟩, hprogress,
      ⟨inputs, outputs, hquantities, hunfinished, hfinished⟩, ⟨hsource, hdestination⟩⟩,
      fun prior hp => hqueues prior.1 prior.2 hp⟩, ?_⟩
    exact fun other ho => ⟨hearlier other ho, htail (List.ne_nil_of_mem ho)⟩
  · rintro ⟨⟨⟨⟨hjob, hoperation⟩, howned, hmachine, hcontent, hrecipe, ⟨hpos, hqueued⟩, hprogress,
      ⟨inputs, outputs, hquantities, hunfinished, hfinished⟩, ⟨hsource, hdestination⟩⟩, hqueues⟩,
      hearlier⟩
    refine ⟨⟨hjob, fun k q hp => hqueues (k, q) hp, fun other ho => (hearlier other ho).1, hoperation, howned, hmachine,
      hcontent, hrecipe, (batches_pos_of_quantities hquantities).ne', hpos.ne', hqueued, hprogress,
      fun hne => ?_⟩, inputs, outputs, _, hquantities, rfl, hunfinished, hfinished, hsource,
      hdestination⟩
    obtain ⟨other, ho⟩ := List.exists_mem_of_ne_nil _ hne
    exact (hearlier other ho).2

/-- What is asked of one machine's queue by itself. -/
structure QueueOk (w : WorldState) (machineBlockId : String) (queue : List ProductionJob) :
    Prop where
  bounded : queue ≠ [] ∧ queue.length ≤ Content.queueLimitPerMachine
  machine : ∃ grid block, w.blockGrid machineBlockId = some (grid, block)
    ∧ block.constructionComplete ∧ (block.kind = .refinery ∨ block.kind = .assembler)
    ∧ ∀ job ∈ queue, JobOk w grid block machineBlockId job
  order : queue.Pairwise fun earlier later =>
    earlier.jobId ≠ later.jobId ∧ later.progressTicks = 0

theorem validateQueue_eq_ok (w : WorldState) (earlier : List (String × List ProductionJob))
    (entry : String × List ProductionJob) :
    validateQueue w earlier entry = .ok () ↔
      QueueOk w entry.1 entry.2
        ∧ ∀ prior ∈ earlier, ∀ job ∈ entry.2, ∀ other ∈ prior.2, other.jobId ≠ job.jobId := by
  obtain ⟨machineId, queue⟩ := entry
  simp only [validateQueue, bind_eq_ok, rejectIf_eq_ok, demand_eq_ok, exists_const, Prod.exists,
    not_or, Bool.not_eq_false, not_lt, gt_iff_lt, ← or_iff_not_and_not]
  constructor
  · rintro ⟨hbounded, grid, block, hmachine, ⟨hcomplete, hkind⟩, hjobs⟩
    obtain ⟨hall, horder, -⟩ :=
      (checkEach_eq_ok (validateJob_eq_ok w grid block machineId earlier)).mp hjobs
    exact ⟨⟨hbounded, ⟨grid, block, hmachine, hcomplete, hkind, fun job hj => (hall job hj).1⟩,
      horder⟩, fun prior hp job hj => (hall job hj).2 prior hp⟩
  · rintro ⟨⟨hbounded, ⟨grid, block, hmachine, hcomplete, hkind, hall⟩, horder⟩, hapart⟩
    refine ⟨hbounded, grid, block, hmachine, ⟨hcomplete, hkind⟩, ?_⟩
    refine (checkEach_eq_ok (validateJob_eq_ok w grid block machineId earlier)).mpr
      ⟨fun job hj => ⟨hall job hj, fun prior hp => hapart prior hp job hj⟩, horder, by simp⟩

/-- No two machines work on jobs of one identity. -/
def JobsApart (w : WorldState) : Prop :=
  ∀ machineBlockId queue machineBlockId' queue' job job',
    w.productionQueues.get? machineBlockId = some queue →
    w.productionQueues.get? machineBlockId' = some queue' → machineBlockId ≠ machineBlockId' →
    job ∈ queue → job' ∈ queue' → job.jobId ≠ job'.jobId

theorem validateQueues_eq_ok :
    checkEach (validateQueue w) [] w.productionQueues.entries = .ok () ↔
      (∀ machineId queue, w.productionQueues.get? machineId = some queue →
          QueueOk w machineId queue)
        ∧ JobsApart w := by
  rw [checkEach_eq_ok (validateQueue_eq_ok w), OrdMap.forall_entries, OrdMap.pairwise_entries]
  · simp only [List.not_mem_nil, IsEmpty.forall_iff, implies_true, and_true]
    refine and_congr_right fun _ => ⟨fun h => ?_, fun h => ?_⟩
    · intro k q k' q' job job' hq hq' hne hj hj'
      exact h k q k' q' hq hq' hne job' hj' job hj
    · intro k q k' q' hq hq' hne job' hj' job hj
      exact h k q k' q' job job' hq hq' hne hj hj'
  · exact fun a b h job hj other ho => (h other ho job hj).symm

/-! ## Death drops -/

structure DropOk (w : WorldState) (dropId : String) (drop : DeathDrop) : Prop where
  filed : dropId = drop.dropId
  named : isBlank dropId = false ∧ isBlank drop.deathId = false
  owned : validPlayerId drop.ownerPlayerId
  placed : placed host w drop.address drop.position
  created : drop.createdEventSequence ≤ w.eventSequence
  sealed : ∃ inventory, w.inventories.get? drop.inventoryId = some inventory
    ∧ inventory.domain.droppedOwner = some drop.ownerPlayerId

theorem validateDrop_eq_ok (w : WorldState) (earlier : List (String × DeathDrop))
    (entry : String × DeathDrop) :
    validateDrop host w earlier entry = .ok () ↔
      DropOk host w entry.1 entry.2
        ∧ ∀ prior ∈ earlier, prior.2.inventoryId ≠ entry.2.inventoryId := by
  obtain ⟨dropId, drop⟩ := entry
  simp only [validateDrop, bind_eq_ok, rejectIf_eq_ok, demand_eq_ok, exists_const, not_or,
    not_not, not_exists, not_and, Bool.not_eq_true, Bool.not_eq_false, ne_eq, not_lt, gt_iff_lt]
  constructor
  · rintro ⟨⟨hfiled, hdrop, hdeath, howned, hplaced, hcreated, hunique⟩, hsealed⟩
    exact ⟨⟨hfiled, ⟨hdrop, hdeath⟩, howned, hplaced, hcreated, hsealed⟩, hunique⟩
  · rintro ⟨⟨hfiled, ⟨hdrop, hdeath⟩, howned, hplaced, hcreated, hsealed⟩, hunique⟩
    exact ⟨⟨hfiled, hdrop, hdeath, howned, hplaced, hcreated, hunique⟩, hsealed⟩

theorem validateDrops_eq_ok :
    checkEach (validateDrop host w) [] w.deathDrops.entries = .ok () ↔
      (∀ dropId drop, w.deathDrops.get? dropId = some drop → DropOk host w dropId drop)
        ∧ ∀ dropId drop dropId' drop', w.deathDrops.get? dropId = some drop →
          w.deathDrops.get? dropId' = some drop' → dropId ≠ dropId' →
          drop.inventoryId ≠ drop'.inventoryId := by
  rw [checkEach_eq_ok (validateDrop_eq_ok host w), OrdMap.forall_entries,
    OrdMap.pairwise_entries fun _ _ h => Ne.symm h]
  simp

/-! ## Operation histories -/

/-- What is asked of one retained record by itself. -/
structure RecordOk (w : WorldState) (operationSequence : Nat) (record : ProcessedOperationRecord) :
    Prop where
  counted : operationSequence ≤ u64Max
  named : isBlank record.operationId = false ∧ record.operationId.utf8ByteSize ≤ 128
  hashes : validBlake3Hex record.intentFingerprint ∧ validBlake3Hex record.receiptOriginCellId
  bytes : host.processedOperationRecordBytes record ≤ processedOperationRecordBytesLimit
  receipt : record.receipt.operationSequence = operationSequence
    ∧ record.receipt.operationId = record.operationId ∧ 0 < record.receipt.eventSequence
    ∧ isBlank record.receipt.code = false
  past : record.receiptOriginCellId = w.cellId → record.receipt.eventSequence ≤ w.eventSequence

/-- Receipts of one origin cell carry increasing event sequences. -/
def LaterReceipt (earlier later : Nat × ProcessedOperationRecord) : Prop :=
  earlier.2.receiptOriginCellId = later.2.receiptOriginCellId →
    earlier.2.receipt.eventSequence < later.2.receipt.eventSequence

/-- The sequence the next record must follow. -/
def lastSeen (compactedThrough : Nat) (earlier : List (Nat × ProcessedOperationRecord)) : Nat :=
  (earlier.getLast?.map Prod.fst).getD compactedThrough

variable {compactedThrough : Nat} {earlier : List (Nat × ProcessedOperationRecord)} {u : Unit}

theorem validateRecord_eq_ok {entry} :
    validateRecord host w compactedThrough earlier entry = .ok u ↔
      RecordOk host w entry.1 entry.2 ∧ entry.1 = lastSeen compactedThrough earlier + 1
        ∧ ∀ prior ∈ earlier, LaterReceipt prior entry := by
  obtain ⟨operationSequence, record⟩ := entry
  simp only [validateRecord, bind_eq_ok, rejectIf_eq_ok, demand_eq_ok, checkedAdd_eq_some, not_or,
    not_and, not_exists, not_not, Bool.not_eq_true, Bool.not_eq_false, ne_eq, not_lt, not_le,
    gt_iff_lt]
  constructor
  · rintro ⟨next, ⟨hcounted, rfl⟩, rfl, hname, hlong, hfingerprint, hcell, hbytes, hsequence,
      hid, hevent, horder, hpast, hcode⟩
    exact ⟨⟨hcounted, ⟨hname, hlong⟩, ⟨hfingerprint, hcell⟩, hbytes,
      ⟨hsequence, hid, Nat.pos_of_ne_zero hevent, hcode⟩, hpast⟩, rfl, horder⟩
  · rintro ⟨⟨hcounted, ⟨hname, hlong⟩, ⟨hfingerprint, hcell⟩, hbytes,
      ⟨hsequence, hid, hevent, hcode⟩, hpast⟩, rfl, horder⟩
    exact ⟨_, ⟨hcounted, rfl⟩, rfl, hname, hlong, hfingerprint, hcell, hbytes, hsequence, hid,
      hevent.ne', horder, hpast, hcode⟩

/-- The loop over the records: each is in order, and their sequences run on from the last one
    seen. -/
theorem checkRecords_eq_ok {l} :
    checkEach (validateRecord host w compactedThrough) earlier l = .ok u ↔
      (∀ entry ∈ l, RecordOk host w entry.1 entry.2)
        ∧ l.map Prod.fst = List.range' (lastSeen compactedThrough earlier + 1) l.length
        ∧ l.Pairwise LaterReceipt
        ∧ ∀ prior ∈ earlier, ∀ entry ∈ l, LaterReceipt prior entry := by
  induction l generalizing earlier with
  | nil => simp [checkEach]
  | cons entry rest ih =>
    have hlast : lastSeen compactedThrough (earlier ++ [entry]) = entry.1 := by simp [lastSeen]
    rw [checkEach, bind_eq_ok]
    simp only [validateRecord_eq_ok, ih, hlast, List.forall_mem_cons, List.pairwise_cons,
      List.map_cons, List.length_cons, List.range'_succ, List.cons.injEq, List.mem_append,
      List.mem_singleton, exists_const]
    constructor
    · rintro ⟨⟨hok, hsequence, hfirst⟩, hrest, hrange, hpair, hearlier⟩
      refine ⟨⟨hok, hrest⟩, ⟨hsequence, hsequence ▸ hrange⟩,
        ⟨fun e he => hearlier entry (.inr rfl) e he, hpair⟩, fun prior hp => ?_⟩
      exact ⟨hfirst prior hp, fun e he => hearlier prior (.inl hp) e he⟩
    · rintro ⟨⟨hok, hrest⟩, ⟨hsequence, hrange⟩, ⟨hfirst, hpair⟩, hearlier⟩
      refine ⟨⟨hok, hsequence, fun prior hp => (hearlier prior hp).1⟩, hrest, hsequence ▸ hrange,
        hpair, ?_⟩
      rintro prior (hp | rfl) e he
      · exact (hearlier prior hp).2 e he
      · exact hfirst e he

/-- What is asked of one actor's history. -/
structure HistoryOk (w : WorldState) (actorPlayerId : String) (history : ActorOperationHistory) :
    Prop where
  present : validPlayerId actorPlayerId ∧ w.player.byId.get? actorPlayerId ≠ none
  committed : 0 < history.committedThrough ∧ history.compactedThrough ≤ history.committedThrough
  bounded : history.retained.size ≤ processedOperationRetentionLimit
    ∧ host.processedOperationRetainedBytes history.retained ≤ processedOperationRetainedBytesLimit
  compacted : (history.compactedThrough = 0 → history.compactedHistoryHash = "")
    ∧ (0 < history.compactedThrough → validBlake3Hex history.compactedHistoryHash)
  suffix : ∀ sequence, history.retained.contains sequence ↔
    history.compactedThrough < sequence ∧ sequence ≤ history.committedThrough
  records : ∀ sequence record, history.retained.get? sequence = some record →
    RecordOk host w sequence record
  order : history.retained.entries.Pairwise LaterReceipt

/-- The keys of a map are an interval exactly when the map binds that interval. -/
theorem keys_eq_range'_iff {α : Type} {m : OrdMap Nat α} {first count : Nat} :
    m.keys = List.range' first count ↔
      ∀ k, m.contains k ↔ first ≤ k ∧ k < first + count := by
  constructor
  · intro h k
    rw [OrdMap.contains_iff, ← OrdMap.mem_keys, h, List.mem_range'_1]
  · intro h
    refine List.Perm.eq_of_pairwise ?_ OrdMap.keys_sorted (List.pairwise_lt_range' _) ?_
    · intro a b _ _ hab hba
      exact absurd (hab.trans hba) (lt_irrefl _)
    · refine (List.perm_ext_iff_of_nodup OrdMap.keys_nodup (List.nodup_range' _)).mpr fun k => ?_
      rw [OrdMap.mem_keys, ← OrdMap.contains_iff, h, List.mem_range'_1]

theorem getLast?_range'_getD (first count : Nat) :
    ((List.range' (first + 1) count).getLast?).getD first = first + count := by
  cases count with
  | zero => simp
  | succ count =>
    rw [List.range'_concat, List.getLast?_concat]
    simp
    omega

theorem validateHistory_eq_ok {entry} :
    validateHistory host w entry = .ok () ↔ HistoryOk host w entry.1 entry.2 := by
  obtain ⟨actorId, history⟩ := entry
  have hrun : history.retained.entries.map Prod.fst
      = List.range' (lastSeen history.compactedThrough [] + 1) history.retained.entries.length ↔
      history.retained.keys
        = List.range' (history.compactedThrough + 1) history.retained.size := Iff.rfl
  simp only [validateHistory, bind_eq_ok, rejectIf_eq_ok, exists_const, not_or, not_and, not_not,
    Bool.not_eq_false, ne_eq, not_lt, gt_iff_lt, checkRecords_eq_ok, hrun]
  constructor
  · rintro ⟨hpresent, ⟨hpos, hle, hsize, hbytes, hempty, hhash⟩, ⟨hrecords, hkeys, horder, -⟩,
      hlast⟩
    rw [hkeys, getLast?_range'_getD] at hlast
    refine ⟨hpresent, ⟨Nat.pos_of_ne_zero hpos, hle⟩, ⟨hsize, hbytes⟩, ⟨hempty, hhash⟩, ?_,
      fun k r hk => hrecords (k, r) (OrdMap.mem_entries.mpr hk), horder⟩
    intro k
    have := keys_eq_range'_iff.mp hkeys k
    rw [this]
    omega
  · rintro ⟨hpresent, ⟨hpos, hle⟩, ⟨hsize, hbytes⟩, ⟨hempty, hhash⟩, hsuffix, hrecords, horder⟩
    have hkeys : history.retained.keys = List.range' (history.compactedThrough + 1)
        (history.committedThrough - history.compactedThrough) := by
      rw [keys_eq_range'_iff]
      intro k
      rw [hsuffix]
      omega
    have hcount : history.retained.size
        = history.committedThrough - history.compactedThrough := by
      simpa [OrdMap.keys, OrdMap.size] using congrArg List.length hkeys
    refine ⟨hpresent, ⟨hpos.ne', hle, hsize, hbytes, hempty, hhash⟩,
      ⟨OrdMap.forall_entries.mpr hrecords, hcount ▸ hkeys, horder, by simp⟩, ?_⟩
    rw [hkeys, getLast?_range'_getD]
    omega

/-! ## Transfer tables -/

structure LockOk (w : WorldState) (playerId : String) (lock : PlayerTransferLock) : Prop where
  present : validPlayerId playerId ∧ w.player.byId.get? playerId ≠ none
  named : validStableId lock.transferId ∧ validBlake3Hex lock.packageHash
    ∧ validBlake3Hex lock.destinationCellId
  generation : 0 < lock.priorPlacementGeneration
    ∧ checkedAdd lock.priorPlacementGeneration 1 = some lock.resultingPlacementGeneration
  open_ : w.transferWitnesses.get? lock.transferId = none

theorem validateLock_eq_ok (w : WorldState) (earlier : List (String × PlayerTransferLock))
    (entry : String × PlayerTransferLock) :
    validateLock w earlier entry = .ok () ↔
      LockOk w entry.1 entry.2 ∧ ∀ prior ∈ earlier, prior.2.transferId ≠ entry.2.transferId := by
  obtain ⟨playerId, lock⟩ := entry
  simp only [validateLock, rejectIf_eq_ok, not_or, not_and, not_exists, not_not,
    Bool.not_eq_true, Bool.not_eq_false, OrdMap.contains_eq_false, ne_eq]
  constructor
  · rintro ⟨hid, hpresent, htransfer, hpackage, hcell, hprior, hnext, hunique, hopen⟩
    exact ⟨⟨⟨hid, hpresent⟩, ⟨htransfer, hpackage, hcell⟩, ⟨Nat.pos_of_ne_zero hprior, hnext⟩,
      hopen⟩, hunique⟩
  · rintro ⟨⟨⟨hid, hpresent⟩, ⟨htransfer, hpackage, hcell⟩, ⟨hprior, hnext⟩, hopen⟩, hunique⟩
    exact ⟨hid, hpresent, htransfer, hpackage, hcell, hprior.ne', hnext, hunique, hopen⟩

theorem validateLocks_eq_ok :
    checkEach (validateLock w) [] w.playerTransferLocks.entries = .ok () ↔
      (∀ playerId lock, w.playerTransferLocks.get? playerId = some lock → LockOk w playerId lock)
        ∧ ∀ playerId lock playerId' lock', w.playerTransferLocks.get? playerId = some lock →
          w.playerTransferLocks.get? playerId' = some lock' → playerId ≠ playerId' →
          lock.transferId ≠ lock'.transferId := by
  rw [checkEach_eq_ok (validateLock_eq_ok w), OrdMap.forall_entries,
    OrdMap.pairwise_entries fun _ _ h => Ne.symm h]
  simp

structure ReservationOk (w : WorldState) (transferId : String)
    (reservation : PlayerTransferReservation) : Prop where
  filed : transferId = reservation.transferId
  named : validStableId transferId ∧ validPlayerId reservation.playerId
    ∧ validStableId reservation.inventoryId
  hashes : validBlake3Hex reservation.packageHash ∧ validBlake3Hex reservation.receiptHash
    ∧ validBlake3Hex reservation.sourceCellId ∧ validBlake3Hex reservation.destinationCellId
    ∧ validBlake3Hex reservation.destinationWorldHash
  authority : 0 < reservation.destinationAssignmentGeneration
    ∧ 0 < reservation.destinationFencingToken
  generation : 0 < reservation.priorPlacementGeneration
    ∧ checkedAdd reservation.priorPlacementGeneration 1
      = some reservation.resultingPlacementGeneration
  absent : w.player.byId.get? reservation.playerId = none
    ∧ w.inventories.get? reservation.inventoryId = none
  open_ : w.transferWitnesses.get? transferId = none

theorem validateReservation_eq_ok (w : WorldState)
    (earlier : List (String × PlayerTransferReservation))
    (entry : String × PlayerTransferReservation) :
    validateReservation w earlier entry = .ok () ↔
      ReservationOk w entry.1 entry.2
        ∧ ∀ prior ∈ earlier, prior.2.playerId ≠ entry.2.playerId
          ∧ prior.2.inventoryId ≠ entry.2.inventoryId := by
  obtain ⟨transferId, reservation⟩ := entry
  simp only [validateReservation, rejectIf_eq_ok, not_or, not_and, not_exists, not_not,
    Bool.not_eq_true, Bool.not_eq_false, OrdMap.contains_eq_false, ne_eq]
  constructor
  · rintro ⟨hfiled, htransfer, hpackage, hreceipt, hsource, hdestination, hplayer, hinventory,
      hassignment, hfence, hworld, hprior, hnext, hnoPlayer, hnoInventory, hplayers,
      hinventories, hopen⟩
    exact ⟨⟨hfiled, ⟨htransfer, hplayer, hinventory⟩,
      ⟨hpackage, hreceipt, hsource, hdestination, hworld⟩,
      ⟨Nat.pos_of_ne_zero hassignment, Nat.pos_of_ne_zero hfence⟩,
      ⟨Nat.pos_of_ne_zero hprior, hnext⟩, ⟨hnoPlayer, hnoInventory⟩, hopen⟩,
      fun prior hp => ⟨hplayers prior hp, hinventories prior hp⟩⟩
  · rintro ⟨⟨hfiled, ⟨htransfer, hplayer, hinventory⟩,
      ⟨hpackage, hreceipt, hsource, hdestination, hworld⟩, ⟨hassignment, hfence⟩,
      ⟨hprior, hnext⟩, ⟨hnoPlayer, hnoInventory⟩, hopen⟩, hapart⟩
    exact ⟨hfiled, htransfer, hpackage, hreceipt, hsource, hdestination, hplayer, hinventory,
      hassignment.ne', hfence.ne', hworld, hprior.ne', hnext, hnoPlayer, hnoInventory,
      fun prior hp => (hapart prior hp).1, fun prior hp => (hapart prior hp).2, hopen⟩

theorem validateReservations_eq_ok :
    checkEach (validateReservation w) [] w.playerTransferReservations.entries = .ok () ↔
      (∀ transferId reservation,
          w.playerTransferReservations.get? transferId = some reservation →
          ReservationOk w transferId reservation)
        ∧ ∀ transferId reservation transferId' reservation',
          w.playerTransferReservations.get? transferId = some reservation →
          w.playerTransferReservations.get? transferId' = some reservation' →
          transferId ≠ transferId' → reservation.playerId ≠ reservation'.playerId
            ∧ reservation.inventoryId ≠ reservation'.inventoryId := by
  rw [checkEach_eq_ok (validateReservation_eq_ok w), OrdMap.forall_entries,
    OrdMap.pairwise_entries fun _ _ h => ⟨h.1.symm, h.2.symm⟩]
  simp

structure WitnessOk (transferId : String) (witness : TransferConservationWitness) : Prop where
  filed : transferId = witness.transferId
  named : validStableId transferId ∧ validBlake3Hex witness.packageHash
    ∧ validBlake3Hex witness.counterpartyCellId

theorem validateWitness_eq_ok {entry} :
    validateWitness entry = .ok u ↔ WitnessOk entry.1 entry.2 := by
  obtain ⟨transferId, witness⟩ := entry
  simp only [validateWitness, rejectIf_eq_ok, not_or, not_not, Bool.not_eq_false, ne_eq]
  constructor
  · rintro ⟨hfiled, hnamed⟩
    exact ⟨hfiled, hnamed⟩
  · rintro ⟨hfiled, hnamed⟩
    exact ⟨hfiled, hnamed⟩

/-- What one witness adds to the counters of a direction. -/
def witnessAmount (direction : TransferWitnessDirection) (resource : ResourceKind)
    (witness : TransferConservationWitness) : Nat :=
  if witness.direction = direction then witness.contents.amount resource else 0

/-- What the witnesses of a direction add up to. -/
def WorldState.witnessTotal (w : WorldState) (direction : TransferWitnessDirection)
    (resource : ResourceKind) : Nat :=
  w.transferWitnesses.sumBy (witnessAmount direction resource)

/-- What the ledger has entered for a direction. -/
def Ledger.transferred (ledger : Ledger) : TransferWitnessDirection → InventoryContents
  | .importing => ⟨ledger.transferImportedOre, ledger.transferImportedRefined,
      ledger.transferImportedComponents⟩
  | .exporting => ⟨ledger.transferExportedOre, ledger.transferExportedRefined,
      ledger.transferExportedComponents⟩

theorem InventoryContents.ext_amount {a b : InventoryContents}
    (h : ∀ resource, a.amount resource = b.amount resource) : a = b := by
  obtain ⟨ore, refinedMaterial, components⟩ := a
  have hore := h .ore
  have hrefined := h .refinedMaterial
  have hcomponent := h .component
  simp only [amount] at hore hrefined hcomponent
  simp [hore, hrefined, hcomponent]

/-- From totals within the counters, a witness is added exactly when the totals stay within
    them. -/
theorem addWitness_eq_ok {direction} {totals totals' : InventoryContents} {witness}
    (hfits : ∀ resource, totals.amount resource ≤ u64Max) :
    addWitness direction totals witness = .ok totals' ↔
      ∀ resource, totals'.amount resource
          = totals.amount resource + witnessAmount direction resource witness
        ∧ totals'.amount resource ≤ u64Max := by
  unfold addWitness
  split_ifs with hdirection
  · simp only [bind_eq_ok, demand_eq_ok, checkedAdd_eq_some, pure_eq_ok, witnessAmount,
      if_pos hdirection]
    constructor
    · rintro ⟨ore, ⟨hore, rfl⟩, refined, ⟨hrefined, rfl⟩, components, ⟨hcomponents, rfl⟩, rfl⟩
        resource
      cases resource
      · exact ⟨rfl, hore⟩
      · exact ⟨rfl, hrefined⟩
      · exact ⟨rfl, hcomponents⟩
    · intro h
      refine ⟨_, ⟨(h .ore).1 ▸ (h .ore).2, rfl⟩,
        _, ⟨(h .refinedMaterial).1 ▸ (h .refinedMaterial).2, rfl⟩,
        _, ⟨(h .component).1 ▸ (h .component).2, rfl⟩, ?_⟩
      refine InventoryContents.ext_amount fun resource => ?_
      rw [(h resource).1]
      cases resource <;> rfl
  · simp only [pure_eq_ok, witnessAmount, if_neg hdirection, Nat.add_zero]
    constructor
    · rintro rfl resource
      exact ⟨rfl, hfits resource⟩
    · exact fun h => InventoryContents.ext_amount fun resource => (h resource).1.symm

/-- The fold over the witnesses: each in order, and both totals within the counters. -/
theorem foldWitnesses_eq_ok {l : List (String × TransferConservationWitness)}
    {totals : InventoryContents × InventoryContents} {totals'}
    (hfits : ∀ resource, totals.1.amount resource ≤ u64Max ∧ totals.2.amount resource ≤ u64Max) :
    l.foldlM (fun totals entry => do
        validateWitness entry
        return (← addWitness .importing totals.1 entry.2,
          ← addWitness .exporting totals.2 entry.2)) totals = .ok totals' ↔
      (∀ entry ∈ l, WitnessOk entry.1 entry.2)
        ∧ ∀ resource,
          (totals'.1.amount resource = totals.1.amount resource
              + (l.map fun entry => witnessAmount .importing resource entry.2).sum
            ∧ totals'.1.amount resource ≤ u64Max)
          ∧ (totals'.2.amount resource = totals.2.amount resource
              + (l.map fun entry => witnessAmount .exporting resource entry.2).sum
            ∧ totals'.2.amount resource ≤ u64Max) := by
  induction l generalizing totals with
  | nil =>
    simp only [List.foldlM_nil, pure_eq_ok, List.not_mem_nil, IsEmpty.forall_iff, implies_true,
      true_and, List.map_nil, List.sum_nil, Nat.add_zero]
    constructor
    · rintro rfl resource
      exact ⟨⟨rfl, (hfits resource).1⟩, rfl, (hfits resource).2⟩
    · exact fun h => Prod.ext (InventoryContents.ext_amount fun r => (h r).1.1.symm)
        (InventoryContents.ext_amount fun r => (h r).2.1.symm)
  | cons entry rest ih =>
    rw [List.foldlM_cons, bind_eq_ok]
    constructor
    · rintro ⟨middle, hentry, hrest⟩
      simp only [bind_eq_ok, validateWitness_eq_ok, pure_eq_ok, exists_const,
        addWitness_eq_ok fun r => (hfits r).1, addWitness_eq_ok fun r => (hfits r).2] at hentry
      obtain ⟨hok, imported, himported, exported, hexported, rfl⟩ := hentry
      obtain ⟨hall, htotals⟩ :=
        (ih fun r => ⟨(himported r).2, (hexported r).2⟩).mp hrest
      refine ⟨List.forall_mem_cons.mpr ⟨hok, hall⟩, fun r => ?_⟩
      have htotal := htotals r
      simp only [(himported r).1, (hexported r).1] at htotal
      simp only [List.map_cons, List.sum_cons]
      omega
    · rintro ⟨hall, htotals⟩
      obtain ⟨hok, hrest⟩ := List.forall_mem_cons.mp hall
      simp only [List.map_cons, List.sum_cons] at htotals
      let next : TransferWitnessDirection → InventoryContents → InventoryContents := fun d c =>
        ⟨c.ore + witnessAmount d .ore entry.2,
          c.refinedMaterial + witnessAmount d .refinedMaterial entry.2,
          c.components + witnessAmount d .component entry.2⟩
      have hnext : ∀ d c r, (next d c).amount r = c.amount r + witnessAmount d r entry.2 := by
        intro d c r
        cases r <;> rfl
      have himported : ∀ r, (next .importing totals.1).amount r ≤ u64Max := fun r => by
        have := (htotals r).1
        rw [hnext]
        omega
      have hexported : ∀ r, (next .exporting totals.2).amount r ≤ u64Max := fun r => by
        have := (htotals r).2
        rw [hnext]
        omega
      refine ⟨(next .importing totals.1, next .exporting totals.2), ?_, ?_⟩
      · simp only [bind_eq_ok, validateWitness_eq_ok, pure_eq_ok, exists_const,
          addWitness_eq_ok fun r => (hfits r).1, addWitness_eq_ok fun r => (hfits r).2]
        exact ⟨hok, _, fun r => ⟨hnext _ _ r, himported r⟩, _,
          fun r => ⟨hnext _ _ r, hexported r⟩, rfl⟩
      · refine (ih fun r => ⟨himported r, hexported r⟩).mpr ⟨hrest, fun r => ?_⟩
        have htotal := htotals r
        simp only [hnext]
        omega

/-- The witnesses are in order and the ledger has entered their totals. -/
structure WitnessesOk (w : WorldState) : Prop where
  each : ∀ transferId witness, w.transferWitnesses.get? transferId = some witness →
    WitnessOk transferId witness
  totals : ∀ direction resource,
    (w.ledger.transferred direction).amount resource = w.witnessTotal direction resource
      ∧ w.witnessTotal direction resource ≤ u64Max

theorem validateWitnesses_eq_ok :
    validateWitnesses w = .ok () ↔ WitnessesOk w := by
  have hempty : ∀ resource, InventoryContents.empty.amount resource = 0 := by
    intro resource
    cases resource <;> rfl
  have hfits : ∀ resource, InventoryContents.empty.amount resource ≤ u64Max
      ∧ InventoryContents.empty.amount resource ≤ u64Max := fun resource => by
    simp [hempty]
  have hsum : ∀ d r, (w.transferWitnesses.entries.map fun entry =>
      witnessAmount d r entry.2).sum = w.witnessTotal d r := by
    intro d r
    rw [WorldState.witnessTotal, OrdMap.sumBy_eq]
  rw [validateWitnesses, bind_eq_ok]
  constructor
  · rintro ⟨⟨imported, exported⟩, hfold, hledger⟩
    obtain ⟨hall, htotals⟩ :=
      (foldWitnesses_eq_ok hfits).mp hfold
    simp only [hempty, hsum, Nat.zero_add] at htotals
    simp only [rejectIf_eq_ok, not_or, not_not, ne_eq] at hledger
    obtain ⟨rfl, rfl⟩ := hledger
    refine ⟨OrdMap.forall_entries.mp hall, fun direction resource => ?_⟩
    have htotal := htotals resource
    cases direction
    · exact ⟨htotal.1.1, htotal.1.1 ▸ htotal.1.2⟩
    · exact ⟨htotal.2.1, htotal.2.1 ▸ htotal.2.2⟩
  · rintro ⟨hall, htotals⟩
    refine ⟨(w.ledger.transferred .importing, w.ledger.transferred .exporting), ?_, ?_⟩
    · refine (foldWitnesses_eq_ok hfits).mpr ⟨OrdMap.forall_entries.mpr hall, fun r => ?_⟩
      simp only [hempty, hsum, Nat.zero_add]
      have himport := htotals .importing r
      have hexport := htotals .exporting r
      omega
    · simp [Ledger.transferred]

/-! ## The whole -/

/-- What `validate_player_roster` accepts. -/
structure Valid (w : WorldState) : Prop where
  identity : validateIdentity host w = .ok ()
  roster : w.player.validate = .ok ()
  players : ∀ playerId player, w.player.byId.get? playerId = some player →
    PlayerOk host w playerId player
  grids : ∀ gridId grid, w.grids.get? gridId = some grid → GridOk host w gridId grid
  blocksApart : w.BlocksApart
  inventories : ∀ inventoryId inventory, w.inventories.get? inventoryId = some inventory →
    InventoryOk w inventoryId inventory
  cargo : CargoOk w
  queues : ∀ machineBlockId queue, w.productionQueues.get? machineBlockId = some queue →
    QueueOk w machineBlockId queue
  jobsApart : JobsApart w
  drops : ∀ dropId drop, w.deathDrops.get? dropId = some drop → DropOk host w dropId drop
  dropsApart : ∀ dropId drop dropId' drop', w.deathDrops.get? dropId = some drop →
    w.deathDrops.get? dropId' = some drop' → dropId ≠ dropId' →
    drop.inventoryId ≠ drop'.inventoryId
  histories : ∀ actorPlayerId history, w.processedOperations.get? actorPlayerId = some history →
    HistoryOk host w actorPlayerId history
  locks : ∀ playerId lock, w.playerTransferLocks.get? playerId = some lock →
    LockOk w playerId lock
  locksApart : ∀ playerId lock playerId' lock', w.playerTransferLocks.get? playerId = some lock →
    w.playerTransferLocks.get? playerId' = some lock' → playerId ≠ playerId' →
    lock.transferId ≠ lock'.transferId
  reservations : ∀ transferId reservation,
    w.playerTransferReservations.get? transferId = some reservation →
    ReservationOk w transferId reservation
  reservationsApart : ∀ transferId reservation transferId' reservation',
    w.playerTransferReservations.get? transferId = some reservation →
    w.playerTransferReservations.get? transferId' = some reservation' →
    transferId ≠ transferId' → reservation.playerId ≠ reservation'.playerId
      ∧ reservation.inventoryId ≠ reservation'.inventoryId
  witnesses : WitnessesOk w

theorem validatePlayers_eq_ok :
    checkEach (validatePlayer host w) [] w.player.byId.entries = .ok () ↔
      ∀ playerId player, w.player.byId.get? playerId = some player →
        PlayerOk host w playerId player := by
  rw [checkEach_eq_ok (validatePlayer_eq_ok host w), OrdMap.forall_entries,
    OrdMap.pairwise_entries fun _ _ h => Ne.symm h]
  simp only [List.not_mem_nil, IsEmpty.forall_iff, implies_true, and_true, and_iff_left_iff_imp]
  -- An inventory names one player, so two players cannot carry the same one.
  intro h k p k' p' hp hp' hne heq
  obtain ⟨inventory, hinventory, -, hdomain, -⟩ := (h k p hp).carries
  obtain ⟨inventory', hinventory', -, hdomain', -⟩ := (h k' p' hp').carries
  rw [heq, hinventory'] at hinventory
  obtain rfl := Option.some.inj hinventory
  exact hne (InventoryDomain.player.inj (hdomain.symm.trans hdomain'))

theorem validateAuthorityGraph_of_valid (h : Valid host w) :
    w.validateAuthorityGraph host = .ok () := by
  simp only [WorldState.validateAuthorityGraph, bind_eq_ok]
  refine ⟨(), (validateGrids_eq_ok host).mpr ⟨h.grids, h.blocksApart⟩, (), ?_, (),
    (validateCargoLinks_eq_ok host h.grids h.blocksApart).mpr h.cargo, (),
    validateQueues_eq_ok.mpr ⟨h.queues, h.jobsApart⟩, (),
    (validateDrops_eq_ok host).mpr ⟨h.drops, h.dropsApart⟩, (), ?_, (),
    validateLocks_eq_ok.mpr ⟨h.locks, h.locksApart⟩, (),
    validateReservations_eq_ok.mpr ⟨h.reservations, h.reservationsApart⟩,
    validateWitnesses_eq_ok.mpr h.witnesses⟩
  · rw [checkAll_eq_ok, OrdMap.forall_entries]
    exact fun k i hk =>
      (validateInventory_eq_ok host h.grids h.blocksApart).mpr (h.inventories k i hk)
  · rw [checkAll_eq_ok, OrdMap.forall_entries]
    exact fun k i hk => (validateHistory_eq_ok host).mpr (h.histories k i hk)

theorem validatePlayerRoster_eq_ok :
    w.validatePlayerRoster host = .ok () ↔ Valid host w := by
  constructor
  · intro h
    simp only [WorldState.validatePlayerRoster, WorldState.validateAuthorityGraph, bind_eq_ok] at h
    obtain ⟨⟨⟩, hidentity, ⟨⟩, hroster, ⟨⟩, hplayers, ⟨⟩, hgrids, ⟨⟩, hinventories, ⟨⟩, hcargo,
      ⟨⟩, hqueues, ⟨⟩, hdrops, ⟨⟩, hhistories, ⟨⟩, hlocks, ⟨⟩, hreservations, hwitnesses⟩ := h
    obtain ⟨hgrids, hblocks⟩ := (validateGrids_eq_ok host).mp hgrids
    obtain ⟨hqueues, hjobs⟩ := validateQueues_eq_ok.mp hqueues
    obtain ⟨hdrops, hdropsApart⟩ := (validateDrops_eq_ok host).mp hdrops
    obtain ⟨hlocks, hlocksApart⟩ := validateLocks_eq_ok.mp hlocks
    obtain ⟨hreservations, hreservationsApart⟩ := validateReservations_eq_ok.mp hreservations
    rw [checkAll_eq_ok, OrdMap.forall_entries] at hinventories hhistories
    exact {
      identity := hidentity
      roster := hroster
      players := (validatePlayers_eq_ok host).mp hplayers
      grids := hgrids
      blocksApart := hblocks
      inventories := fun k i hk =>
        (validateInventory_eq_ok host hgrids hblocks).mp (hinventories k i hk)
      cargo := (validateCargoLinks_eq_ok host hgrids hblocks).mp hcargo
      queues := hqueues
      jobsApart := hjobs
      drops := hdrops
      dropsApart := hdropsApart
      histories := fun k i hk => (validateHistory_eq_ok host).mp (hhistories k i hk)
      locks := hlocks
      locksApart := hlocksApart
      reservations := hreservations
      reservationsApart := hreservationsApart
      witnesses := validateWitnesses_eq_ok.mp hwitnesses }
  · intro h
    simp only [WorldState.validatePlayerRoster, bind_eq_ok]
    exact ⟨(), h.identity, (), h.roster, (), (validatePlayers_eq_ok host).mpr h.players,
      validateAuthorityGraph_of_valid host h⟩

end Verse
