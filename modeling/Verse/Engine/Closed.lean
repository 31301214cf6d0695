import Verse.Engine.Conserved
import Verse.Engine.Equipped

/-!
# Work loops are closed

Experience is paid for ore that is mined, for batches and components that machines finish, for
frames that are placed, blocks that are finished and grids that are anchored for the first time.
Each of these uses something up that does not come back: a voxel, the goods a recipe or a frame
takes, the unfinished state of a block, the eligibility of a grid.

So everything a cell holds has a worth, the most experience it can still be turned into
(`Content.worth`, `earnable`), and an event that pays lowers what is left by at least what it
pays. Together with what has been earned that is a potential no event raises
(`Effect.earns`), unless it brings a player in from another cell.
-/

namespace Verse

open Lib

/-! ## What goods are worth -/

namespace Content

/-- The most experience a unit can still be turned into: a component becomes a frame that is then
    finished, refined material becomes components, and ore is refined by the batch. -/
def worth : ResourceKind → Nat
  | .component => rewardFramePlaced + rewardConstructionCompleted
  | .refinedMaterial => divCeil
      (rewardCraftedComponent + craftingComponentOutput
        * (rewardFramePlaced + rewardConstructionCompleted)) craftingRefinedInput
  | .ore => divCeil
      (rewardRefiningBatch + refiningRefinedOutput * divCeil
        (rewardCraftedComponent + craftingComponentOutput
          * (rewardFramePlaced + rewardConstructionCompleted)) craftingRefinedInput)
      refiningOreInput

/-- A unit of ore in the ground is yet to be paid for as it is mined. -/
def groundWorth : Nat := rewardMinedOreUnit + worth .ore

theorem worth_eq : worth .ore = 28 ∧ worth .refinedMaterial = 43 ∧ worth .component = 25
    ∧ groundWorth = 33 := by decide

theorem componentCost_pos (kind : BlockKind) : 0 < (block kind).componentCost := by
  cases kind <;> decide

end Content

/-- What an amount of each resource is worth. -/
def worthOf (amount : ResourceKind → Nat) : Nat :=
  Content.worth .ore * amount .ore + Content.worth .refinedMaterial * amount .refinedMaterial
    + Content.worth .component * amount .component

/-- What the owner of a finished job is paid. -/
def ProductionJob.reward (job : ProductionJob) : Nat :=
  match job.recipe with
  | .refining => saturatingMul job.batches Content.rewardRefiningBatch
  | .component => saturatingMul job.batches Content.rewardCraftedComponent

variable {job : ProductionJob}

variable {inputs outputs : InventoryContents} {ticks : Nat}

/-- Outputs are worth less than inputs, by at least what is paid for them. -/
theorem worth_of_quantities
    (h : productionRecipeQuantities job.recipe job.batches = some (inputs, outputs, ticks)) :
    worthOf outputs.amount + job.reward ≤ worthOf inputs.amount := by
  obtain ⟨hore, hrefined, hcomponent, -⟩ := Content.worth_eq
  unfold productionRecipeQuantities at h
  unfold ProductionJob.reward worthOf
  split_ifs at h
  rw [hore, hrefined, hcomponent]
  cases hrecipe : job.recipe with
  | refining =>
    simp only [hrecipe, Option.bind_eq_bind, Option.bind_eq_some_iff, checkedMul_eq_some,
      Option.pure_def, Option.some.injEq, Prod.mk.injEq] at h
    obtain ⟨_, ⟨-, rfl⟩, _, ⟨-, rfl⟩, _, ⟨-, rfl⟩, rfl, rfl, -⟩ := h
    simp only [InventoryContents.amount, InventoryContents.empty, saturatingMul,
      Content.refiningOreInput, Content.refiningRefinedOutput, Content.rewardRefiningBatch]
    omega
  | component =>
    simp only [hrecipe, Option.bind_eq_bind, Option.bind_eq_some_iff, checkedMul_eq_some,
      Option.pure_def, Option.some.injEq, Prod.mk.injEq] at h
    obtain ⟨_, ⟨-, rfl⟩, _, ⟨-, rfl⟩, _, ⟨-, rfl⟩, rfl, rfl, -⟩ := h
    simp only [InventoryContents.amount, InventoryContents.empty, saturatingMul,
      Content.craftingRefinedInput, Content.craftingComponentOutput, Content.rewardCraftedComponent]
    omega

variable {player : Player}

theorem Player.experience_creditCompletion :
    (player.creditCompletion job).experience = saturatingAdd player.experience job.reward := by
  unfold creditCompletion ProductionJob.reward
  cases job.recipe <;> rfl

/-! ## What blocks and grids are worth -/

/-- Finishing a block is paid for once. -/
def Block.earnable (block : Block) : Nat :=
  if block.constructionComplete then 0 else Content.rewardConstructionCompleted

/-- Anchoring a grid is paid for while it is eligible. -/
def Grid.eligibility (grid : Grid) : Nat :=
  if grid.anchorRewardEligible then Content.rewardFirstAnchorEngagement else 0

def Grid.earnable (grid : Grid) : Nat := grid.blocks.sumBy Block.earnable + grid.eligibility

variable {block : Block}

variable {blockId : String}

namespace Grid

variable {grid : Grid}

theorem earnable_insert
    (hblock : grid.blocks.get? blockId = some block) (block' : Block) :
    ({ grid with blocks := grid.blocks.insert blockId block' } : Grid).earnable + block.earnable
      = grid.earnable + block'.earnable := by
  have hsum := OrdMap.sumBy_insert_add (f := Block.earnable) (v := block') hblock
  unfold earnable eligibility
  simp only
  omega

theorem earnable_insert_new
    (hfresh : grid.blocks.get? blockId = none) :
    ({ grid with blocks := grid.blocks.insert blockId block } : Grid).earnable
      = grid.earnable + block.earnable := by
  have hsum : (grid.blocks.insert blockId block).sumBy Block.earnable = _ :=
    OrdMap.sumBy_insert_new (f := Block.earnable) hfresh
  unfold earnable eligibility
  simp only
  omega

/-- At most one fragment inherits the eligibility of its grid: the one that keeps its identity. -/
theorem sum_eligibility_fragments (host : Host) (voxels : VoxelField) (eventSequence : Nat) :
    ((grid.fragments host voxels eventSequence).map eligibility).sum ≤ grid.eligibility := by
  have heligible : (grid.fragments host voxels eventSequence).map eligibility
      = grid.components.mapIdx fun index _ =>
          if index = grid.primaryIndex then grid.eligibility else 0 := by
    refine List.ext_getElem (by simp [fragments]) fun i hi hi' => ?_
    simp only [fragments, List.getElem_map, List.getElem_mapIdx, eligibility, splitOff]
    by_cases hprimary : i = grid.primaryIndex <;> simp [hprimary]
  rw [heligible]
  generalize grid.primaryIndex = primary
  -- The indices of a list name its primary entry at most once.
  have honce : ∀ (components : List (OrdMap IVec3 Unit)) (primary : Nat),
      (components.mapIdx fun index _ => if index = primary then grid.eligibility else 0).sum
        ≤ grid.eligibility := by
    intro components
    induction components with
    | nil => simp
    | cons component rest ih =>
      intro primary
      rw [List.mapIdx_cons, List.sum_cons]
      cases primary with
      | zero =>
        have hnone : (rest.mapIdx fun _ _ => 0) = List.replicate rest.length 0 :=
          List.ext_getElem (by simp) (by simp)
        simp [hnone]
      | succ primary => simpa using ih primary
  exact honce _ primary

theorem WellPlaced.sum_earnable_fragments (h : grid.WellPlaced) (host : Host)
    (voxels : VoxelField) (eventSequence : Nat) :
    ((grid.fragments host voxels eventSequence).map earnable).sum ≤ grid.earnable := by
  have hblocks := h.sum_fragments host voxels eventSequence Block.earnable
  have heligible := grid.sum_eligibility_fragments host voxels eventSequence
  have hsplit : ((grid.fragments host voxels eventSequence).map earnable).sum
      = ((grid.fragments host voxels eventSequence).map fun fragment =>
          fragment.blocks.sumBy Block.earnable).sum
        + ((grid.fragments host voxels eventSequence).map eligibility).sum :=
    List.sum_map_add
  unfold earnable at *
  omega

end Grid

/-- A player comes in from another cell. -/
def EventPayload.imports : EventPayload → Bool
  | .playerTransferImported .. => true
  | _ => false

theorem WorldState.Reposed.imports {payload payload'} (h : Reposed payload payload') :
    payload'.imports = payload.imports := by
  cases h <;> rfl

namespace WorldState

variable {host : Host} {w w' : WorldState} {event : CanonicalEvent} {machineBlockId : String}

/-! ## The potential -/

/-- What inventories hold, and machines have reserved or still owe. -/
def held (w : WorldState) (resource : ResourceKind) : Nat :=
  w.inventoryTotal resource + w.jobsTotal resource

/-- Everything the cell holds can still be turned into this much experience at most. -/
def earnable (w : WorldState) : Nat :=
  Content.groundWorth * w.voxelYield + worthOf w.held + w.grids.sumBy Grid.earnable

/-- What the players have earned. -/
def earned (w : WorldState) : Nat := w.player.byId.sumBy Player.experience

/-- What has been earned in the cell, and what is left to earn. -/
def potential (w : WorldState) : Nat := w.earned + w.earnable

/-- An event that pays this much leaves that much less. -/
def Earns (w w' : WorldState) (reward : Nat) : Prop := w'.potential + reward ≤ w.potential

variable {reward : Nat}

theorem Earns.trans {middle} (h₁ : Earns w middle 0) (h₂ : Earns middle w' reward) :
    Earns w w' reward := by
  unfold Earns at *
  omega

theorem worth_held (h : Accounted w w') (entered spent : InventoryContents)
    (hsources : ∀ resource,
      w'.ledger.sources resource = w.ledger.sources resource + entered.amount resource)
    (hspent : ∀ resource, w'.installed resource + w'.ledger.consumed resource
      = w.installed resource + w.ledger.consumed resource + spent.amount resource) :
    worthOf w'.held + worthOf spent.amount = worthOf w.held + worthOf entered.amount := by
  have hheld : ∀ resource,
      w'.held resource + spent.amount resource = w.held resource + entered.amount resource := by
    intro resource
    have hboth := (h.books resource).both
    have hsources := hsources resource
    have hspent := hspent resource
    simp only [books] at hboth
    unfold held
    omega
  have hore := hheld .ore
  have hrefined := hheld .refinedMaterial
  have hcomponent := hheld .component
  obtain ⟨h₁, h₂, h₃, -⟩ := Content.worth_eq
  unfold worthOf
  rw [h₁, h₂, h₃]
  omega

theorem worth_held_of_ledger (h : Accounted w w') (hledger : w'.ledger = w.ledger)
    (hblocks : w'.liveBlocks = w.liveBlocks) :
    worthOf w'.held = worthOf w.held ∧ w'.voxelYield = w.voxelYield := by
  have hworth := worth_held h .empty .empty
    (fun resource => by rw [hledger, InventoryContents.amount_empty, Nat.add_zero])
    (fun resource => by
      rw [hledger, installed_of_liveBlocks hblocks, InventoryContents.amount_empty, Nat.add_zero])
  have hground := h.ground
  rw [hledger] at hground
  exact ⟨Nat.add_right_cancel hworth, Nat.add_right_cancel hground⟩

theorem earns_of_moved (h : Accounted w w') (hledger : w'.ledger = w.ledger)
    (hgrids : w'.grids = w.grids) (hearned : w'.earned = w.earned) : Earns w w' 0 := by
  obtain ⟨hheld, hvoxels⟩ := worth_held_of_ledger h hledger (by rw [liveBlocks, liveBlocks, hgrids])
  unfold Earns potential earnable
  rw [hheld, hvoxels, hgrids, hearned]
  exact le_rfl

variable {playerId : String}

theorem earned_withPlayer
    (hplayer : w.player.byId.get? playerId = some player) (player' : Player) :
    (w.withPlayer playerId player').earned + player.experience = w.earned + player'.experience :=
  OrdMap.sumBy_insert_add hplayer

theorem earned_withPlayer_of_eq {player' : Player}
    (hplayer : w.player.byId.get? playerId = some player)
    (hexperience : player'.experience = player.experience) :
    (w.withPlayer playerId player').earned = w.earned := by
  have hsum := earned_withPlayer hplayer player'
  rw [hexperience] at hsum
  exact Nat.add_right_cancel hsum

/-! ## Machine work -/

theorem earns_of_completed {owner : Player}
    (h : Accounted w w')
    (hquantities : productionRecipeQuantities job.recipe job.batches
      = some (inputs, outputs, ticks))
    (hledger : w'.ledger = w.ledger.completed job) (hgrids : w'.grids = w.grids)
    (hearned : w'.earned + owner.experience
      = w.earned + (owner.creditCompletion job).experience) : Earns w w' 0 := by
  have hblocks : w'.liveBlocks = w.liveBlocks := by rw [liveBlocks, liveBlocks, hgrids]
  have hworth := worth_held h outputs inputs
    (fun resource => by rw [hledger, (w.ledger.completed_entry hquantities resource).1])
    (fun resource => by
      rw [hledger, installed_of_liveBlocks hblocks,
        (w.ledger.completed_entry hquantities resource).2, Nat.add_assoc])
  have hvoxels : w'.voxelYield = w.voxelYield := by
    have hground := h.ground
    rw [hledger, Ledger.completed_minedOre] at hground
    exact Nat.add_right_cancel hground
  have hpaid := worth_of_quantities hquantities
  rw [Player.experience_creditCompletion] at hearned
  unfold Earns potential earnable
  rw [hvoxels, hgrids]
  unfold saturatingAdd at hearned
  omega

theorem Work.earns {outcome} (work : Work host w machineBlockId outcome w')
    (hsound : ∀ job, w.queueHead machineBlockId = some job → job.Sound) : Earns w w' 0 := by
  have haccounted := work.accounted hsound
  cases work with
  | idle => exact le_rfl
  | advanced => exact earns_of_moved haccounted rfl rfl rfl
  | completed hkind hmachine hworking hprogress hquantities howner =>
    exact earns_of_completed haccounted hquantities rfl rfl (earned_withPlayer howner _)
  | completedAndDelivered hkind hmachine hworking hprogress hquantities howner =>
    rw [popProductionQueueHead_eq] at haccounted ⊢
    exact earns_of_completed haccounted hquantities rfl rfl (earned_withPlayer howner _)
  | outputDelivered =>
    rw [popProductionQueueHead_eq] at haccounted ⊢
    exact earns_of_moved haccounted rfl rfl rfl

theorem Works.earns {machines outcomes} (works : Works host w machines outcomes w')
    (hnodup : machines.Nodup)
    (hsound : ∀ machineBlockId ∈ machines, ∀ job, w.queueHead machineBlockId = some job →
      job.Sound) : Earns w w' 0 := by
  induction works with
  | done => exact le_rfl
  | step work works ih =>
    obtain ⟨hfirst, hrest⟩ := List.nodup_cons.mp hnodup
    refine (work.earns (hsound _ List.mem_cons_self)).trans (ih hrest fun key hkey job hjob => ?_)
    rw [work.queueHead_ne fun he => hfirst (he ▸ hkey)] at hjob
    exact hsound key (List.mem_cons_of_mem _ hkey) job hjob

/-! ## Blocks and grids -/

variable {gridId : String}

variable {grid : Grid}

theorem earnable_withGrid
    (hgrid : w.grids.get? gridId = some grid) (grid' : Grid) :
    (w.withGrid gridId grid').grids.sumBy Grid.earnable + grid.earnable
      = w.grids.sumBy Grid.earnable + grid'.earnable :=
  OrdMap.sumBy_insert_add hgrid

theorem earns_of_withGrid {grid' : Grid}
    (hgrid : w.grids.get? gridId = some grid) (hcost : gridCost grid' = gridCost grid)
    (hearnable : grid'.earnable + reward ≤ grid.earnable) :
    Earns w (w.withGrid gridId grid') reward := by
  have hblocks := liveBlocks_withGrid_of_cost hgrid hcost
  have haccounted : Accounted w (w.withGrid gridId grid') :=
    accounted_of_eq rfl rfl hblocks rfl rfl
  obtain ⟨hheld, hvoxels⟩ := worth_held_of_ledger haccounted rfl hblocks
  have hgrids := earnable_withGrid hgrid grid'
  have hearned : (w.withGrid gridId grid').earned = w.earned := rfl
  unfold Earns potential earnable
  rw [hvoxels]
  omega

variable {eventSequence : Nat}

theorem earns_of_wrecked
    (h : Accounted w w') (hgrid : w.grids.get? gridId = some grid)
    (hblock : grid.blocks.get? blockId = some block) (hplaced : grid.WellPlaced)
    (hfresh : FragmentsFresh host w gridId (remains grid blockId) eventSequence)
    (hledger : w'.ledger = (w.wrecked host gridId grid blockId block eventSequence).ledger)
    (hgrids : w'.grids = (w.wrecked host gridId grid blockId block eventSequence).grids)
    (hearned : w'.earned = w.earned) : Earns w w' 0 := by
  obtain ⟨-, -, -, hentry⟩ := wrecked_frame host w gridId grid blockId block eventSequence
  have hblocks : w'.liveBlocks + block.componentCost = w.liveBlocks := by
    rw [← liveBlocks_wrecked hgrid hblock hplaced hfresh, liveBlocks, hgrids]
    rfl
  rw [hentry] at hledger
  have hworth := worth_held h .empty .empty (fun resource => by
      rw [hledger, InventoryContents.amount_empty, Nat.add_zero]
      cases resource <;> rfl)
    (fun resource => by
      rw [hledger, InventoryContents.amount_empty, Nat.add_zero]
      cases resource with
      | ore | refinedMaterial => rfl
      | component =>
        simp only [installed, Ledger.consumed]
        omega)
  have hvoxels : w'.voxelYield = w.voxelYield := by
    have hground := h.ground
    rw [hledger] at hground
    exact Nat.add_right_cancel hground
  have hremains : (remains grid blockId).WellPlaced := hplaced.erase
  have hfragments := hremains.sum_earnable_fragments host w.voxels eventSequence
  have hwhole : w.grids.sumBy Grid.earnable
      = grid.earnable + (w.grids.erase gridId).sumBy Grid.earnable :=
    OrdMap.sumBy_eq_add_erase hgrid
  have hrest : grid.earnable = block.earnable + (remains grid blockId).earnable := by
    have hsum := OrdMap.sumBy_eq_add_erase (f := Block.earnable) hblock
    unfold Grid.earnable remains Grid.eligibility
    simp only
    omega
  have hshattered : w'.grids.sumBy Grid.earnable = _ :=
    (congrArg (OrdMap.sumBy · Grid.earnable) hgrids).trans
      (sumBy_shattered hfresh Grid.earnable)
  unfold Earns potential earnable
  rw [hvoxels, hearned]
  omega

theorem Damaged.earns {damage : Nat}
    (damaged : Damaged host w gridId blockId damage eventSequence w')
    (hgrids : ∀ gridId grid, w.grids.get? gridId = some grid →
      grid.gridId = gridId ∧ grid.WellPlaced) : Earns w w' 0 := by
  have haccounted := damaged.accounted hgrids
  cases damaged with
  | hurt hgrid hblock hhealth =>
    refine earns_of_withGrid hgrid (gridCost_insert hblock rfl) (le_of_eq ?_)
    exact Nat.add_right_cancel (Grid.earnable_insert hblock _)
  | destroyed hgrid hblock hidle hfiled =>
    obtain ⟨hid, hplaced⟩ := hgrids gridId _ hgrid
    refine earns_of_wrecked haccounted hgrid hblock hplaced (hfiled hid) rfl rfl ?_
    rw [wrecked_eq]
    unfold earned dropCargo
    split <;> rfl
  | destroyedMachine hgrid hblock hqueue hcontents hdrop hfiled =>
    obtain ⟨hid, hplaced⟩ := hgrids gridId _ hgrid
    refine earns_of_wrecked haccounted hgrid hblock hplaced (hfiled hid) rfl rfl ?_
    show (w.wrecked host gridId _ blockId _ eventSequence).earned = _
    rw [wrecked_eq]
    unfold earned dropCargo
    split <;> rfl

/-! ## Every event -/

/-- What the payloads that pay for a state of a block or a grid have checked. -/
def Creditable (w : WorldState) : EventPayload → Prop
  | .blockWelded gridId blockId _ _ _ true => ∀ grid block, w.grids.get? gridId = some grid →
      grid.blocks.get? blockId = some block → block.constructionComplete = false
  | .gridAnchorSet gridId anchored true => anchored = true ∧ ∀ grid,
      w.grids.get? gridId = some grid → grid.anchorRewardEligible = true
  | _ => True

theorem creditable_of_applyPayload (h : w.applyPayload host event = .ok w') :
    w.Creditable event.payload := by
  unfold applyPayload at h
  cases hpayload : event.payload with
  | blockWelded gridId blockId previousHealth newHealth maxHealth completedConstruction =>
    cases completedConstruction with
    | false => trivial
    | true =>
      simp only [hpayload, applyBlockWelded, bind_eq_ok, rejectIf_eq_ok, grid_eq_ok,
        demand_eq_ok, ne_eq, not_not] at h
      obtain ⟨-, -, -, -, -, -, grid, hgrid, block, hblock, -, -, -, -, -, -, -, -, -, hcompleted,
        -⟩ := h
      intro grid' block' hgrid' hblock'
      obtain rfl := Option.mem_unique hgrid hgrid'
      obtain rfl := Option.mem_unique hblock hblock'
      have hboth := hcompleted.symm
      rw [Bool.and_eq_true] at hboth
      simpa using hboth.1
  | gridAnchorSet gridId anchored rewardCredited =>
    cases rewardCredited with
    | false => trivial
    | true =>
      simp only [hpayload, applyGridAnchorSet, bind_eq_ok, rejectIf_eq_ok, grid_eq_ok, ne_eq,
        not_or, not_not] at h
      obtain ⟨-, -, -, -, grid, hgrid, -, ⟨-, -, hcredited⟩, -⟩ := h
      have hboth := hcredited.symm
      rw [Bool.and_eq_true] at hboth
      refine ⟨hboth.1, fun grid' hgrid' => ?_⟩
      obtain rfl := Option.mem_unique hgrid hgrid'
      exact hboth.2
  | _ => trivial

theorem earns_blockBuilt
    (h : Accounted w w') (hgrid : w.grids.get? gridId = some grid)
    (hfresh : grid.blocks.get? block.blockId = none)
    (hcost : block.componentCost = (Content.block block.kind).componentCost)
    (hledger : w'.ledger = { w.ledger with builtBlocks := w.ledger.builtBlocks + 1 })
    (hgrids : w'.grids = (w.withGrid gridId
      { grid with blocks := grid.blocks.insert block.blockId block }).grids)
    (hearned : w'.earned = w.earned) : Earns w w' Content.rewardFramePlaced := by
  have hblocks : w'.liveBlocks = w.liveBlocks + block.componentCost := by
    rw [← liveBlocks_withBlock hgrid hfresh, liveBlocks, hgrids]
    rfl
  have hworth := worth_held h .empty ⟨0, 0, block.componentCost⟩
    (fun resource => by
      rw [hledger, InventoryContents.amount_empty, Nat.add_zero]
      cases resource <;> rfl)
    (fun resource => by
      rw [hledger]
      cases resource with
      | ore | refinedMaterial => rfl
      | component =>
        simp only [installed, Ledger.consumed, InventoryContents.amount]
        omega)
  have hvoxels : w'.voxelYield = w.voxelYield := by
    have hground := h.ground
    rw [hledger] at hground
    exact Nat.add_right_cancel hground
  have hearnable : w'.grids.sumBy Grid.earnable + grid.earnable
      = w.grids.sumBy Grid.earnable + (grid.earnable + block.earnable) := by
    rw [hgrids, ← Grid.earnable_insert_new hfresh]
    exact earnable_withGrid hgrid _
  have hcompletion : block.earnable ≤ Content.rewardConstructionCompleted := by
    unfold Block.earnable
    split <;> simp
  have hpositive : 0 < block.componentCost := hcost ▸ Content.componentCost_pos block.kind
  have hspent : worthOf (⟨0, 0, block.componentCost⟩ : InventoryContents).amount
      = 25 * block.componentCost := by
    simp [worthOf, InventoryContents.amount, Content.worth_eq]
  have hnothing : worthOf InventoryContents.empty.amount = 0 := by
    simp [worthOf, InventoryContents.amount_empty]
  have hprice : Content.rewardFramePlaced + Content.rewardConstructionCompleted = 25 := rfl
  unfold Earns potential earnable
  rw [hvoxels, hearned]
  omega

theorem earns_voxelMined {oreYield : Nat} (h : Accounted w w')
    (hledger : w'.ledger = { w.ledger with minedOre := w.ledger.minedOre + oreYield })
    (hgrids : w'.grids = w.grids) (hearned : w'.earned = w.earned) :
    Earns w w' (saturatingMul oreYield Content.rewardMinedOreUnit) := by
  have hblocks : w'.liveBlocks = w.liveBlocks := by rw [liveBlocks, liveBlocks, hgrids]
  have hworth := worth_held h { InventoryContents.empty with ore := oreYield } .empty
    (fun resource => by
      rw [hledger]
      cases resource with
      | ore =>
        simp only [Ledger.sources, InventoryContents.amount]
        omega
      | refinedMaterial | component => rfl)
    (fun resource => by
      rw [hledger, installed_of_liveBlocks hblocks]
      cases resource <;> rfl)
  have hground : w'.voxelYield + oreYield = w.voxelYield := by
    have hground := h.ground
    rw [hledger] at hground
    simp only at hground
    omega
  have hentered : worthOf ({ InventoryContents.empty with ore := oreYield } :
      InventoryContents).amount = 28 * oreYield := by
    simp [worthOf, InventoryContents.amount, InventoryContents.empty, Content.worth_eq]
  have hnothing : worthOf InventoryContents.empty.amount = 0 := by
    simp [worthOf, InventoryContents.amount_empty]
  have hreward : saturatingMul oreYield Content.rewardMinedOreUnit ≤ 5 * oreYield := by
    unfold saturatingMul Content.rewardMinedOreUnit
    omega
  unfold Earns potential earnable
  rw [hgrids, hearned, Content.worth_eq.2.2.2]
  omega

theorem earns_of_eq (hinventories : w'.inventories = w.inventories)
    (hqueues : w'.productionQueues = w.productionQueues) (hgrids : w'.grids = w.grids)
    (hledger : w'.ledger = w.ledger) (hvoxels : w'.voxels = w.voxels)
    (hearned : w'.earned = w.earned) : Earns w w' 0 :=
  earns_of_moved (accounted_of_eq hinventories hqueues (by rw [liveBlocks, liveBlocks, hgrids])
    hledger hvoxels) hledger hgrids hearned

theorem earns_export {package} (hok : PackageOk host package)
    (h : Accounted w ((withoutSubject w package).withWitness (transferWitness package .exporting)))
    (hplayer : w.player.byId.get? package.aggregateId = some package.sourcePlayer) :
    Earns w ((withoutSubject w package).withWitness (transferWitness package .exporting)) 0 := by
  obtain ⟨hsources, hconsumed, hmined⟩ :=
    w.ledger.entered_entry (transferWitness package .exporting)
  have hworth := worth_held h .empty package.inventory.contents
    (fun resource => by
      rw [InventoryContents.amount_empty, Nat.add_zero]
      exact hsources resource)
    (fun resource => by
      have hconsumed := hconsumed resource
      rw [witnessAmount, if_pos (show (transferWitness package .exporting).direction = .exporting
        from rfl), hok.contents_eq] at hconsumed
      show w.installed resource + (w.ledger.entered _).consumed resource = _
      rw [hconsumed, Nat.add_assoc])
  have hearned : w.earned = package.sourcePlayer.experience
      + (w.player.byId.erase package.aggregateId).sumBy Player.experience :=
    OrdMap.sumBy_eq_add_erase hplayer
  have hleft : ((withoutSubject w package).withWitness (transferWitness package .exporting)).earned
        = (w.player.byId.erase package.aggregateId).sumBy Player.experience := rfl
  have hgrids : ((withoutSubject w package).withWitness
      (transferWitness package .exporting)).grids = w.grids := rfl
  have hvoxels : ((withoutSubject w package).withWitness
      (transferWitness package .exporting)).voxelYield = w.voxelYield := rfl
  have hnothing : worthOf InventoryContents.empty.amount = 0 := by
    simp [worthOf, InventoryContents.amount_empty]
  unfold Earns potential earnable
  rw [hgrids, hvoxels]
  omega

theorem eligibility_anchorGrid {anchored rewardCredited : Bool}
    (hcredited : rewardCredited → anchored ∧ grid.anchorRewardEligible) :
    (anchorGrid grid anchored rewardCredited).earnable
        + (if rewardCredited then Content.rewardFirstAnchorEngagement else 0)
      ≤ grid.earnable := by
  cases rewardCredited with
  | false => cases anchored <;> simp [anchorGrid, Grid.earnable, Grid.eligibility]
  | true =>
    obtain ⟨hanchored, heligible⟩ := hcredited rfl
    simp [anchorGrid, hanchored, Grid.earnable, Grid.eligibility, heligible]

theorem earns_stepped {stepCount stepPhase : Nat} {bodies players active}
    (h : Accounted w (w.stepped stepCount stepPhase bodies players active)) :
    Earns w (w.stepped stepCount stepPhase bodies players active) 0 := by
  have hblocks : (w.stepped stepCount stepPhase bodies players active).liveBlocks
      = w.liveBlocks := OrdMap.sumBy_foldl_modify fun _ _ => rfl
  have hgrids : (w.stepped stepCount stepPhase bodies players active).grids.sumBy
      Grid.earnable = w.grids.sumBy Grid.earnable := OrdMap.sumBy_foldl_modify fun _ _ => rfl
  have hearned : (w.stepped stepCount stepPhase bodies players active).earned = w.earned :=
    OrdMap.sumBy_foldl_modify fun _ _ => rfl
  obtain ⟨hheld, hvoxels⟩ := worth_held_of_ledger h rfl hblocks
  unfold Earns potential earnable
  rw [hheld, hvoxels, hgrids, hearned]
  exact le_rfl

theorem Effect.earns (h : Equipped w) (effect : Effect host w event w')
    (hcreditable : w.Creditable event.payload) (hhere : event.payload.imports = false) :
    Earns w w' event.payload.experienceReward := by
  have haccounted := effect.accounted h.filed fun machineBlockId queue hqueue job hjob =>
    (h.queues machineBlockId queue hqueue).2 job hjob
  cases effect with
  | playerControlSet hpayload hby hactor | suitModeChanged hpayload hby hactor
  | playerRespawned hpayload hby hactor =>
    rw [hpayload]
    exact earns_of_moved haccounted rfl rfl (earned_withPlayer_of_eq hactor rfl)
  | suitOxygenChanged hpayload hplayer =>
    rw [hpayload]
    exact earns_of_moved haccounted rfl rfl (earned_withPlayer_of_eq hplayer rfl)
  | playerIncapacitated hpayload hplayer hinventory hdomain hcollapse =>
    rw [hpayload]
    refine earns_of_moved haccounted ?_ ?_ ?_
    · cases hcollapse <;> rfl
    · cases hcollapse <;> rfl
    · rw [hcollapse.frame]
      exact earned_withPlayer_of_eq hplayer rfl
  | voxelMined hpayload hby hactor hmaterial hyield hinventory =>
    rw [hpayload]
    exact earns_voxelMined haccounted rfl rfl rfl
  | productionQueued hpayload | inventoryTransferred hpayload =>
    rw [hpayload]
    exact earns_of_moved haccounted rfl rfl rfl
  | productionQuantumCommitted hpayload hexpected happlied =>
    rw [hpayload]
    obtain ⟨machines, hnodup, -, works⟩ := works_of_quantum (hpayload ▸ hexpected) happlied
    refine (works.earns hnodup fun machineBlockId _ job hjob => ?_).trans
      (earns_of_eq rfl rfl rfl rfl rfl rfl)
    obtain ⟨rest, hqueue⟩ := queueHead_eq_some.mp hjob
    exact (h.queues machineBlockId _ hqueue).2 job List.mem_cons_self
  | @blockBuilt gridId block actorId actor grid inventory hpayload hby hframe hfreshBlock
      hfreshInventory hgrid =>
    rw [hpayload]
    have hbuilding : ∀ v : WorldState, (v.withCargoInventory block).grids = v.grids
        ∧ (v.withCargoInventory block).earned = v.earned := by
      intro v
      unfold withCargoInventory
      cases block.inventoryId <;> exact ⟨rfl, rfl⟩
    refine earns_blockBuilt haccounted hgrid
      (hfreshBlock _ (OrdMap.mem_values.mpr ⟨_, hgrid⟩)) hframe.2.2.2.1 rfl ?_ ?_
    · show OrdMap.insert (withCargoInventory _ block).grids gridId _ = _
      rw [(hbuilding _).1]
      rfl
    · exact (hbuilding _).2
  | @blockWelded gridId blockId previousHealth newHealth maxHealth completedConstruction
      actorId grid block hpayload hby hgrid howner hblock =>
    rw [hpayload] at hcreditable ⊢
    refine earns_of_withGrid hgrid (gridCost_insert hblock rfl) ?_
    have hwelding := Grid.earnable_insert hblock (welded block newHealth completedConstruction)
    cases completedConstruction with
    | false =>
      have hsame : (welded block newHealth false).earnable = block.earnable := by
        simp [welded, Block.earnable]
      rw [hsame] at hwelding
      exact le_of_eq (Nat.add_right_cancel hwelding)
    | true =>
      have hunfinished := hcreditable grid block hgrid hblock
      have hfinished : (welded block newHealth true).earnable = 0 := by
        simp [welded, Block.earnable]
      have hbefore : block.earnable = Content.rewardConstructionCompleted := by
        simp [Block.earnable, hunfinished]
      rw [hfinished, hbefore] at hwelding
      exact le_of_eq hwelding
  | gridControlSet hpayload hby hgrid =>
    rw [hpayload]
    exact earns_of_withGrid hgrid rfl le_rfl
  | @gridAnchorSet gridId anchored rewardCredited actorId grid hpayload hby hgrid =>
    rw [hpayload] at hcreditable ⊢
    refine earns_of_withGrid hgrid (by cases anchored <;> rfl) ?_
    have hcredited : rewardCredited → anchored ∧ grid.anchorRewardEligible := by
      intro hcredit
      subst hcredit
      exact ⟨hcreditable.1, hcreditable.2 grid hgrid⟩
    have hanchored := eligibility_anchorGrid hcredited
    cases rewardCredited <;> exact hanchored
  | blockDamaged hpayload hby hdamage happlied =>
    rw [hpayload]
    exact (damaged_of_applyDamage happlied).earns h.filed
  | physicsStepCommitted hpayload happlied =>
    rw [hpayload]
    obtain ⟨-, active, rfl⟩ := applyPhysicsStep_eq_ok happlied
    exact earns_stepped haccounted
  | playerTransferPrepared hpayload hstaged =>
    rw [hpayload]
    obtain ⟨-, -, ⟨rfl, -⟩ | ⟨-, -, -, -, rfl⟩⟩ := stagePreparedEvaLock_eq_ok hstaged <;>
      exact earns_of_eq rfl rfl rfl rfl rfl rfl
  | playerTransferQuarantined hpayload hstaged =>
    rw [hpayload]
    obtain ⟨-, -, ⟨rfl, -⟩ | ⟨-, -, rfl⟩⟩ := stageEvaPlayerQuarantine_eq_ok hstaged <;>
      exact earns_of_eq rfl rfl rfl rfl rfl rfl
  | playerTransferAborted hpayload hstaged =>
    rw [hpayload]
    obtain ⟨-, -, ⟨-, -, rfl⟩ | ⟨-, -, rfl⟩ | ⟨-, -, -, rfl⟩⟩ :=
      stageAbortedEvaUnlock_eq_ok hstaged <;> exact earns_of_eq rfl rfl rfl rfl rfl rfl
  | playerTransferExported hpayload hstaged =>
    rw [hpayload]
    obtain ⟨hok, -, ⟨rfl, -⟩ | ⟨-, -, -, -, ⟨hplayer, -⟩, rfl⟩⟩ :=
      stageCommittedEvaExport_eq_ok hstaged
    · exact earns_of_eq rfl rfl rfl rfl rfl rfl
    · have hfenced : Accounted { w with fencingToken := event.authorityFencingToken } w :=
        accounted_of_eq rfl rfl rfl rfl rfl
      exact earns_export hok (hfenced.trans haccounted) hplayer
  | playerTransferImported hpayload =>
    rw [hpayload] at hhere
    exact absurd hhere (by simp [EventPayload.imports])

theorem potential_recordOperation (h : (w.sealEvent event).recordOperation host event = .ok w') :
    w'.potential = w.potential := by
  rw [recordOperation_frame h]
  rfl

/-- What is paid to the actor is what the payload is paid. -/
theorem potential_payExperience (h : w.payExperience event = .ok w') :
    w'.potential ≤ w.potential + event.payload.experienceReward := by
  unfold payExperience at h
  split_ifs at h
  · rw [pure_eq_ok] at h
    subst h
    exact Nat.le_add_right _ _
  · simp only [bind_eq_ok, actor_eq_ok, pure_eq_ok] at h
    obtain ⟨actorId, -, player, hplayer, rfl⟩ := h
    have hearned := earned_withPlayer hplayer { player with
      experience := saturatingAdd player.experience event.payload.experienceReward }
    have hearnable : (w.withPlayer actorId { player with
        experience := saturatingAdd player.experience
          event.payload.experienceReward }).earnable = w.earnable := rfl
    unfold potential
    unfold saturatingAdd at *
    simp only at hearned
    omega

theorem potential_recordCareer (h : w.recordCareer event = .ok w') :
    w'.potential = w.potential := by
  unfold recordCareer at h
  split_ifs at h
  · simp only [bind_eq_ok, actor_eq_ok, pure_eq_ok] at h
    obtain ⟨actorId, -, player, hplayer, career, -, rfl⟩ := h
    have hearned : (w.withPlayer actorId { player with career }).earned = w.earned :=
      earned_withPlayer_of_eq hplayer rfl
    exact congrArg (· + w.earnable) hearned
  · rw [pure_eq_ok] at h
    rw [h]

theorem potential_of_applyEvent (h : Equipped w) (hhere : event.payload.imports = false)
    (happly : w.applyEvent host event = .ok w') : w'.potential ≤ w.potential := by
  simp only [applyEvent, bind_eq_ok, mapError_eq_ok, pure_eq_ok] at happly
  obtain ⟨-, -, payload, hydrated, -, -, next, hcommit, -, -, rfl⟩ := happly
  simp only [commitEvent, bind_eq_ok] at hcommit
  obtain ⟨applied, happlied, paid, hpaid, credited, hcredited, hrecorded⟩ := hcommit
  have hpayload : payload.imports = false := by
    rwa [(reposed_of_hydrated hydrated).imports]
  have hearns : Earns w applied payload.experienceReward :=
    (effect_of_applyPayload happlied).earns h (creditable_of_applyPayload happlied) hpayload
  calc next.potential
      _ = credited.potential := potential_recordOperation hrecorded
      _ = paid.potential := potential_recordCareer hcredited
      _ ≤ applied.potential + payload.experienceReward := potential_payExperience hpaid
      _ ≤ w.potential := hearns

/-- Work loops are closed. In any run of events from a valid world in which nobody comes in from
    another cell, what the players have earned and what is left to earn never grows together,
    from any state of the run to any later one; so all they ever earn is within what the first
    world holds. -/
theorem work_loops_closed {first last : WorldState} {before after : List CanonicalEvent}
    (hvalid : first.validatePlayerRoster host = .ok ())
    (hbefore : runAll (applyEvent host) first before = .ok w)
    (hafter : runAll (applyEvent host) w after = .ok last)
    (hhere : ∀ event ∈ before ++ after, event.payload.imports = false) :
    w.potential ≤ first.potential ∧ last.potential ≤ w.potential
      ∧ last.earned ≤ first.earned + first.earnable := by
  have hstep : ∀ {s event s'}, Equipped s → applyEvent host s event = .ok s' → Equipped s' :=
    fun h happly => (accepted_of_applyEvent happly).equipped h
  have hstart : Equipped first := equipped_of_valid ((validatePlayerRoster_eq_ok host).mp hvalid)
  have hmiddle : Equipped w := preserved_of_run hstep hstart hbefore
  have hearly : w.potential ≤ first.potential :=
    relates_of_members (R := fun s s' : WorldState => s'.potential ≤ s.potential) hstep
      (fun hmem h happly => potential_of_applyEvent h
        (hhere _ (List.mem_append_left _ hmem)) happly)
      (fun _ => le_rfl) (fun h₁ h₂ => h₂.trans h₁) hstart hbefore
  have hlate : last.potential ≤ w.potential :=
    relates_of_members (R := fun s s' : WorldState => s'.potential ≤ s.potential) hstep
      (fun hmem h happly => potential_of_applyEvent h
        (hhere _ (List.mem_append_right _ hmem)) happly)
      (fun _ => le_rfl) (fun h₁ h₂ => h₂.trans h₁) hmiddle hafter
  refine ⟨hearly, hlate, ?_⟩
  calc last.earned
      _ ≤ last.potential := Nat.le_add_right _ _
      _ ≤ w.potential := hlate
      _ ≤ first.potential := hearly

/-! The refinery finishes its batch: its owner earns twelve, and what is left to earn falls by the
thirteen that two units of ore are worth more than one of refined material. -/

/-- The quantum pays its owner, and leaves as much less to be earned. -/
theorem work_loops_closed_quantum : ∃ quantum worked,
    runAll (applyEvent proofHost) proofCell [quantum] = .ok worked
      ∧ (worked.potential ≤ proofCell.potential
        ∧ worked.earned ≤ proofCell.earned + proofCell.earnable)
      ∧ worked.earned = proofCell.earned + 12 ∧ worked.earnable + 13 = proofCell.earnable := by
  have hrun : proofQuantum.any fun r => decide (
      proofCell.applyEvent proofHost r.1 = .ok r.2 ∧ r.1.payload.imports = false
        ∧ r.2.earned = proofCell.earned + 12
        ∧ r.2.earnable + 13 = proofCell.earnable) := by decide +kernel
  have hvalid : proofCell.validatePlayerRoster proofHost = .ok () := by decide +kernel
  cases hquantum : proofQuantum with
  | none => simp [hquantum] at hrun
  | some r =>
    obtain ⟨quantum, worked⟩ := r
    simp only [hquantum, Option.any_some, decide_eq_true_eq] at hrun
    obtain ⟨happlied, hhere, hearned, hearnable⟩ := hrun
    have hafter : runAll (applyEvent proofHost) proofCell [quantum] = .ok worked := by
      simp [runAll, happlied]
    have hbefore : runAll (applyEvent proofHost) proofCell [] = .ok proofCell := rfl
    obtain ⟨-, hlate, hbounded⟩ :=
      work_loops_closed hvalid hbefore hafter (by simpa using hhere)
    exact ⟨quantum, worked, hafter, ⟨hlate, hbounded⟩, hearned, hearnable⟩

end WorldState
end Verse
