import Verse.Engine.Accounted
import Verse.Engine.Frame
import Verse.Engine.Motion
import Verse.Lib.Run

/-!
# What a queue relies on

A machine with a queue stands in some grid, its queue is not empty, and every job in it still
has the quantities of its recipe. Nothing that a cell accepts takes this away: a machine that is
destroyed takes its queue with it, and a grid that comes apart loses no block.

Nothing here is about the owner of a job. The owner may leave.
-/

namespace Verse

open Lib

variable {inputs outputs : InventoryContents} {ticks : Nat}

theorem duration_pos_of_quantities {recipe} {batches : Nat}
    (h : productionRecipeQuantities recipe batches = some (inputs, outputs, ticks)) :
    0 < ticks := by
  have hbatches := batches_pos_of_quantities h
  unfold productionRecipeQuantities at h
  rw [if_neg hbatches.ne'] at h
  cases recipe with
  | refining | component =>
    simp only [Option.bind_eq_bind, Option.bind_eq_some_iff, checkedMul_eq_some, Option.pure_def,
      Option.some.injEq, Prod.mk.injEq] at h
    obtain ⟨_, -, _, -, _, ⟨-, rfl⟩, -, -, rfl⟩ := h
    exact Nat.mul_pos hbatches (by decide)

variable {job : ProductionJob}

namespace ProductionJob

theorem Sound.advanced (h : job.Sound)
    (hprogress : job.progressTicks ≠ job.durationTicks) (hticks : ticks < job.durationTicks) :
    ({ job with progressTicks := ticks } : ProductionJob).Sound := by
  obtain ⟨inputs, outputs, hquantities, hworking, -⟩ := h.quantities
  refine ⟨hticks.le, inputs, outputs, hquantities, fun _ => ?_, fun hdone => ?_⟩
  · exact hworking (lt_of_le_of_ne h.progress hprogress)
  · exact absurd (show job.durationTicks ≤ ticks from hdone) hticks.not_ge

theorem Sound.completed (h : job.Sound)
    (hquantities : productionRecipeQuantities job.recipe job.batches = some (inputs, outputs, ticks)) :
    ({ job with
      progressTicks := job.durationTicks
      reservedInputs := .empty
      pendingOutputs := outputs } : ProductionJob).Sound := by
  obtain ⟨inputs', outputs', hquantities', -⟩ := h.quantities
  obtain ⟨-, hsame⟩ := Prod.mk.inj (Option.mem_unique hquantities' hquantities)
  obtain ⟨rfl, rfl⟩ := Prod.mk.inj hsame
  refine ⟨le_rfl, inputs', outputs', hquantities', fun hworking => ?_, fun _ => ⟨rfl, rfl⟩⟩
  exact absurd hworking (lt_irrefl job.durationTicks)

theorem sound_of_queued
    (hprogress : job.progressTicks = 0) (hpending : job.pendingOutputs = .empty)
    (hquantities : productionRecipeQuantities job.recipe job.batches
      = some (job.reservedInputs, outputs, job.durationTicks)) : job.Sound := by
  have hduration := duration_pos_of_quantities hquantities
  refine ⟨by omega, _, outputs, hquantities, fun _ => ⟨rfl, hpending⟩, fun hdone => ?_⟩
  omega

end ProductionJob

/-! ## Grids that change -/

variable {block block' : Block} {eventSequence : Nat}

namespace Grid

variable {grid small : Grid}

theorem WellPlaced.of_subset (h : grid.WellPlaced)
    (hsub : ∀ blockId block, small.blocks.get? blockId = some block →
      grid.blocks.get? blockId = some block) : small.WellPlaced :=
  ⟨fun k b hk => h.filed k b (hsub k b hk), fun k b k' b' hk hk' =>
    h.coordinates k b k' b' (hsub k b hk) (hsub k' b' hk')⟩

theorem WellPlaced.of_blocks (h : grid.WellPlaced) (hblocks : small.blocks = grid.blocks) :
    small.WellPlaced :=
  h.of_subset fun _ _ hget => hblocks ▸ hget

variable {blockId : String}

theorem WellPlaced.insert (h : grid.WellPlaced)
    (hname : blockId = block.blockId)
    (hapart : ∀ other found, other ≠ blockId → grid.blocks.get? other = some found →
      found.coordinate ≠ block.coordinate) :
    ({ grid with blocks := grid.blocks.insert blockId block } : Grid).WellPlaced := by
  have hget : ∀ other found, (grid.blocks.insert blockId block).get? other = some found →
      (other = blockId ∧ found = block)
        ∨ (other ≠ blockId ∧ grid.blocks.get? other = some found) := by
    intro other found hfound
    rw [OrdMap.get?_insert] at hfound
    split_ifs at hfound with hother
    · exact .inl ⟨hother, (Option.some.inj hfound).symm⟩
    · exact .inr ⟨hother, hfound⟩
  constructor
  · intro other found hfound
    rcases hget other found hfound with ⟨rfl, rfl⟩ | ⟨-, hkept⟩
    · exact hname
    · exact h.filed other found hkept
  · intro k b k' b' hk hk' hsame
    rcases hget k b hk with ⟨rfl, rfl⟩ | ⟨hne, hkept⟩
    · rcases hget k' b' hk' with ⟨rfl, -⟩ | ⟨hne', hkept'⟩
      · rfl
      · exact absurd hsame.symm (hapart k' b' hne' hkept')
    · rcases hget k' b' hk' with ⟨rfl, rfl⟩ | ⟨hne', hkept'⟩
      · exact absurd hsame (hapart k b hne hkept)
      · exact h.coordinates k b k' b' hkept hkept' hsame

theorem WellPlaced.replace (h : grid.WellPlaced)
    (hblock : grid.blocks.get? blockId = some block) (hname : block'.blockId = block.blockId)
    (hplace : block'.coordinate = block.coordinate) :
    ({ grid with blocks := grid.blocks.insert blockId block' } : Grid).WellPlaced := by
  refine h.insert (hname.symm ▸ h.filed blockId block hblock) fun other found hother hfound hsame => ?_
  exact hother (h.coordinates _ _ _ _ hfound hblock (hsame.trans hplace))

theorem WellPlaced.get?_fragments (h : grid.WellPlaced) {host : Host} {voxels} :
    (∃ fragment ∈ grid.fragments host voxels eventSequence,
        fragment.blocks.get? blockId = some block)
      ↔ grid.blocks.get? blockId = some block := by
  have hperm : (blockId, block) ∈ ((grid.fragments host voxels eventSequence).map
      Grid.blocks).flatMap OrdMap.entries ↔ (blockId, block) ∈ grid.blocks.entries :=
    h.fragments_perm.mem_iff
  rw [OrdMap.mem_entries, List.mem_flatMap] at hperm
  rw [← hperm]
  constructor
  · rintro ⟨fragment, hmem, hget⟩
    exact ⟨fragment.blocks, List.mem_map_of_mem hmem, OrdMap.mem_entries.mpr hget⟩
  · rintro ⟨blocks, hmem, hget⟩
    obtain ⟨fragment, hfragment, rfl⟩ := List.mem_map.mp hmem
    exact ⟨fragment, hfragment, OrdMap.mem_entries.mp hget⟩

end Grid

namespace WorldState

variable {host : Host} {w w' : WorldState} {event : CanonicalEvent}

/-- The block stands in a grid of the world. -/
def Standing (w : WorldState) (blockId : String) : Prop :=
  ∃ grid block, w.BlockIn blockId grid block

/-- A queue with jobs in it, all of them sound. -/
def Workable (queue : List ProductionJob) : Prop := queue ≠ [] ∧ ∀ job ∈ queue, job.Sound

structure Equipped (w : WorldState) : Prop where
  filed : ∀ gridId grid, w.grids.get? gridId = some grid → grid.gridId = gridId ∧ grid.WellPlaced
  machines : ∀ machineBlockId queue, w.productionQueues.get? machineBlockId = some queue →
    w.Standing machineBlockId
  queues : ∀ machineBlockId queue, w.productionQueues.get? machineBlockId = some queue →
    Workable queue

theorem equipped_of_valid (h : Valid host w) : Equipped w where
  filed gridId grid hgrid := ⟨(h.grids gridId grid hgrid).filed.symm, .of_gridOk (h.grids gridId grid hgrid)⟩
  machines machineId queue hqueue := by
    obtain ⟨grid, block, hmachine, -⟩ := (h.queues machineId queue hqueue).machine
    exact ⟨grid, block, blockIn_of_blockGrid hmachine⟩
  queues machineId queue hqueue := by
    obtain ⟨hbounded, ⟨grid, block, -, -, -, hjobs⟩, -⟩ := h.queues machineId queue hqueue
    exact ⟨hbounded.1, fun job hmem => (hjobs job hmem).sound⟩

variable {machineId : String} {gridId blockId : String}

namespace Equipped

variable (h : Equipped w)

include h

theorem of_eq (hgrids : w'.grids = w.grids)
    (hqueues : w'.productionQueues = w.productionQueues) : Equipped w' where
  filed := hgrids ▸ h.filed
  machines machineId queue hqueue := by
    obtain ⟨grid, block, gridId, hgrid, hblock⟩ := h.machines machineId queue (hqueues ▸ hqueue)
    exact ⟨grid, block, gridId, hgrids ▸ hgrid, hblock⟩
  queues := hqueues ▸ h.queues

variable {grid grid' : Grid}

theorem withGrid
    (hgrid : w.grids.get? gridId = some grid) (hid : grid'.gridId = grid.gridId)
    (hplaced : grid'.WellPlaced)
    (hkept : ∀ blockId, grid.blocks.contains blockId → grid'.blocks.contains blockId) :
    Equipped (w.withGrid gridId grid') where
  filed other found hfound := by
    by_cases hother : other = gridId
    · subst hother
      obtain rfl : grid' = found := by simpa [WorldState.withGrid] using hfound
      exact ⟨hid.trans (h.filed other grid hgrid).1, hplaced⟩
    · exact h.filed other found (by simpa [WorldState.withGrid, hother] using hfound)
  machines machineId queue hqueue := by
    obtain ⟨found, block, other, hfound, hblock⟩ := h.machines machineId queue hqueue
    by_cases hother : other = gridId
    · subst hother
      obtain rfl := Option.mem_unique hgrid hfound
      obtain ⟨block', hblock'⟩ := OrdMap.contains_iff.mp
        (hkept machineId (OrdMap.contains_iff.mpr ⟨block, hblock⟩))
      exact ⟨grid', block', other, OrdMap.get?_insert_self, hblock'⟩
    · exact ⟨found, block, other, by simpa [WorldState.withGrid, hother] using hfound, hblock⟩
  queues := h.queues

theorem withSameBlocks
    (hgrid : w.grids.get? gridId = some grid) (hid : grid'.gridId = grid.gridId)
    (hblocks : grid'.blocks = grid.blocks) : Equipped (w.withGrid gridId grid') :=
  h.withGrid hgrid hid ((h.filed gridId grid hgrid).2.of_blocks hblocks) fun _ hin => hblocks ▸ hin

theorem withReplaced
    (hgrid : w.grids.get? gridId = some grid)
    (hblock : grid.blocks.get? blockId = some block) (hname : block'.blockId = block.blockId)
    (hplace : block'.coordinate = block.coordinate) :
    Equipped (w.withGrid gridId { grid with blocks := grid.blocks.insert blockId block' }) := by
  refine h.withGrid hgrid rfl ((h.filed gridId grid hgrid).2.replace hblock hname hplace) ?_
  intro other hin
  simp only [OrdMap.contains_insert, hin, Bool.or_true]

theorem shattered
    (hgrid : w.grids.get? gridId = some grid)
    (hfresh : FragmentsFresh host w gridId (remains grid blockId) eventSequence)
    (hgrids : w'.grids = w.shattered host gridId (remains grid blockId) eventSequence)
    (hqueues : w'.productionQueues = w.productionQueues.erase blockId) : Equipped w' := by
  have hplaced : (remains grid blockId).WellPlaced := (h.filed gridId grid hgrid).2.erase
  have hstays : ∀ {other queue}, w'.productionQueues.get? other = some queue →
      other ≠ blockId ∧ w.productionQueues.get? other = some queue := by
    intro other queue hqueue
    rw [hqueues, OrdMap.get?_erase] at hqueue
    split_ifs at hqueue with hother
    exact ⟨hother, hqueue⟩
  refine ⟨?_, ?_, fun other queue hqueue => h.queues other queue (hstays hqueue).2⟩
  · intro other found hfound
    rw [hgrids] at hfound
    rcases (get?_shattered hfresh).mp hfound with ⟨hmem, rfl⟩ | ⟨-, hkept⟩
    · exact ⟨rfl, hplaced.of_subset fun key block hblock =>
        hplaced.get?_fragments.mp ⟨found, hmem, hblock⟩⟩
    · exact h.filed other found hkept
  · intro machineId queue hqueue
    obtain ⟨hother, hbefore⟩ := hstays hqueue
    obtain ⟨found, block, key, hfound, hblock⟩ := h.machines machineId queue hbefore
    by_cases hsame : key = gridId
    · subst hsame
      obtain rfl := Option.mem_unique hgrid hfound
      have hremains : (remains grid blockId).blocks.get? machineId = some block := by
        simpa [remains, hother] using hblock
      obtain ⟨fragment, hmem, hfragment⟩ := hplaced.get?_fragments.mpr hremains
      refine ⟨fragment, block, fragment.gridId, ?_, hfragment⟩
      rw [hgrids]
      exact (get?_shattered hfresh).mpr (.inl ⟨hmem, rfl⟩)
    · refine ⟨found, block, key, ?_, hblock⟩
      rw [hgrids]
      exact (get?_shattered hfresh).mpr (.inr ⟨hsame, hfound⟩)

theorem requeued (hstands : w.Standing machineId)
    (hgrids : w'.grids = w.grids)
    (hothers : ∀ other, other ≠ machineId →
      w'.productionQueues.get? other = w.productionQueues.get? other)
    (hqueue : ∀ queue, w'.productionQueues.get? machineId = some queue → Workable queue) :
    Equipped w' where
  filed := hgrids ▸ h.filed
  machines other queue hfound := by
    have hbefore : w.Standing other := by
      by_cases hother : other = machineId
      · exact hother ▸ hstands
      · exact h.machines other queue (hothers other hother ▸ hfound)
    obtain ⟨grid, block, gridId, hgrid, hblock⟩ := hbefore
    exact ⟨grid, block, gridId, hgrids ▸ hgrid, hblock⟩
  queues other queue hfound := by
    by_cases hother : other = machineId
    · exact hqueue queue (hother ▸ hfound)
    · exact h.queues other queue (hothers other hother ▸ hfound)

theorem stepped {stepCount stepPhase : Nat} {bodies players active} :
    Equipped (w.stepped stepCount stepPhase bodies players active) where
  filed gridId grid' hfound := by
    simp only [WorldState.stepped, OrdMap.get?_foldl_modify, Option.map_eq_some_iff] at hfound
    obtain ⟨grid, hgrid, rfl⟩ := hfound
    have hfiled := h.filed gridId grid hgrid
    exact ⟨Grid.gridId_foldl_posed.trans hfiled.1, hfiled.2.of_blocks Grid.blocks_foldl_posed⟩
  machines machineId queue hqueue := by
    obtain ⟨grid, block, gridId, hgrid, hblock⟩ := h.machines machineId queue hqueue
    have hmoved : ∃ grid', (w.stepped stepCount stepPhase bodies players active).grids.get?
        gridId = some grid' ∧ grid'.blocks = grid.blocks := by
      simp only [WorldState.stepped, OrdMap.get?_foldl_modify, hgrid, Option.map_some]
      exact ⟨_, rfl, Grid.blocks_foldl_posed⟩
    obtain ⟨grid', hgrid', hblocks⟩ := hmoved
    exact ⟨grid', block, gridId, hgrid', hblocks ▸ hblock⟩
  queues := h.queues

omit h

end Equipped

/-! ## Machine work -/

theorem workable_cons {job' : ProductionJob} {rest} (h : Workable (job :: rest))
    (hsound : job.Sound → job'.Sound) : Workable (job' :: rest) := by
  refine ⟨List.cons_ne_nil _ _, fun found hfound => ?_⟩
  rcases List.mem_cons.mp hfound with rfl | hrest
  · exact hsound (h.2 job List.mem_cons_self)
  · exact h.2 found (List.mem_cons_of_mem _ hrest)

variable (h : Equipped w)

include h

theorem workable_append (hsound : job.Sound) : Workable (w.queueOf machineId ++ [job]) := by
  refine ⟨List.append_ne_nil_of_right_ne_nil _ (List.cons_ne_nil _ _), fun found hfound => ?_⟩
  rcases List.mem_append.mp hfound with hbefore | hnew
  · cases hqueue : w.productionQueues.get? machineId with
    | none => simp [queueOf, hqueue] at hbefore
    | some queue =>
      refine (h.queues machineId queue hqueue).2 found ?_
      simpa [queueOf, hqueue] using hbefore
  · rw [List.mem_singleton.mp hnew]
    exact hsound

theorem Equipped.withQueueHead {update} (hhead : w.queueHead machineId = some job)
    (hsound : job.Sound → (update job).Sound) :
    Equipped (w.withQueueHead machineId update) := by
  obtain ⟨rest, hqueue⟩ := queueHead_eq_some.mp hhead
  refine h.requeued (h.machines _ _ hqueue) rfl (fun other hother => ?_) fun queue hfound => ?_
  · simp [WorldState.withQueueHead, hother]
  · have hupdated : update job :: rest = queue := by
      simpa [WorldState.withQueueHead, hqueue] using hfound
    exact hupdated ▸ workable_cons (h.queues _ _ hqueue) hsound

theorem Equipped.popped (hhead : w.queueHead machineId = some job) :
    Equipped (w.popProductionQueueHead machineId) := by
  obtain ⟨rest, hqueue⟩ := queueHead_eq_some.mp hhead
  refine h.requeued (h.machines _ _ hqueue) (by rw [popProductionQueueHead_eq])
    (fun other hother => ?_) fun queue hfound => ?_
  · rw [get?_popProductionQueueHead hqueue, if_neg hother]
  · rw [get?_popProductionQueueHead hqueue, if_pos rfl] at hfound
    split_ifs at hfound with hempty
    obtain rfl := Option.some.inj hfound
    exact ⟨hempty, fun found hmem => (h.queues _ _ hqueue).2 found (List.mem_cons_of_mem _ hmem)⟩

theorem Work.equipped {outcome} (work : Work host w machineId outcome w') : Equipped w' := by
  cases work with
  | idle => exact h
  | advanced hkind hmachine hworking hprogress hnew =>
    exact h.withQueueHead hworking.1 fun hsound => hsound.advanced hprogress hnew
  | @completed job owner inputs ticks hkind hmachine hworking hprogress hquantities howner =>
    have hpaid : Equipped ({ w with ledger := w.ledger.completed job }.withPlayer job.ownerPlayerId
        (owner.creditCompletion job)) := h.of_eq rfl rfl
    exact hpaid.withQueueHead hworking.1 fun hsound => hsound.completed hquantities
  | @completedAndDelivered job owner inputs ticks destination hkind hmachine hworking =>
    have hdelivered : Equipped (({ w with ledger := w.ledger.completed job }.withPlayer
        job.ownerPlayerId (owner.creditCompletion job)).withContents job.destinationInventoryId
          (destination.contents.plus outcome.outputs)) := h.of_eq rfl rfl
    exact hdelivered.popped hworking.1
  | @outputDelivered job destination hkind hmachine hworking =>
    have hdelivered : Equipped (w.withContents job.destinationInventoryId
        (destination.contents.plus job.pendingOutputs)) := h.of_eq rfl rfl
    exact hdelivered.popped hworking.1

theorem Works.equipped {machines outcomes} (works : Works host w machines outcomes w') :
    Equipped w' := by
  induction works with
  | done => exact h
  | step work works ih => exact ih (work.equipped h)

/-! ## Events -/

theorem Damaged.equipped {damage : Nat}
    (damaged : Damaged host w gridId blockId damage eventSequence w') : Equipped w' := by
  cases damaged with
  | hurt hgrid hblock => exact h.withReplaced hgrid hblock rfl rfl
  | destroyed hgrid hblock hidle hfiled =>
    refine h.shattered hgrid (hfiled (h.filed _ _ hgrid).1) rfl ?_
    rw [OrdMap.erase_of_none hidle]
    exact broken_productionQueues
  | destroyedMachine hgrid hblock hqueue hcontents hdrop hfiled =>
    exact h.shattered hgrid (hfiled (h.filed _ _ hgrid).1) rfl rfl

theorem Effect.equipped (effect : Effect host w event w') : Equipped w' := by
  cases effect with
  | playerIncapacitated hpayload hplayer hinventory hdomain hcollapse =>
    rw [hcollapse.frame]
    exact h.of_eq rfl rfl
  | @productionQueued job actorId operationId grid machine outputs source contents hpayload
      hby hoperation hmachine hjob hqueue hrecipe =>
    refine h.requeued ⟨grid, machine, blockIn_of_blockGrid hmachine⟩ rfl (fun other hother => ?_)
      fun queue hfound => ?_
    · simp [hother]
    · have hjobs : w.queueOf job.machineBlockId ++ [job] = queue := by
        rw [OrdMap.get?_insert_self] at hfound
        exact Option.some.inj hfound
      exact hjobs ▸ workable_append h (ProductionJob.sound_of_queued
        hjob.2.2.2.2.2.2.2.2.1 hjob.2.2.2.2.2.2.2.2.2.1 hrecipe)
  | productionQuantumCommitted hpayload hexpected happlied =>
    obtain ⟨machines, -, -, works⟩ := works_of_quantum (hpayload ▸ hexpected) happlied
    exact (works.equipped h).of_eq rfl rfl
  | @blockBuilt gridId block actorId actor grid inventory hpayload hby hframe hfreshBlock
      hfreshInventory hgrid howner hactor howns hplace =>
    have hapart : ∀ other found, other ≠ block.blockId → grid.blocks.get? other = some found →
        found.coordinate ≠ block.coordinate := by
      intro other found _ hfound
      exact of_decide_eq_false ((Bool.not_eq_true _).mp
        (List.find?_eq_none.mp hplace.2 found (OrdMap.mem_values.mpr ⟨other, hfound⟩)))
    have hbuilt : Equipped (w.withGrid gridId
        { grid with blocks := grid.blocks.insert block.blockId block }) := by
      refine h.withGrid hgrid rfl ((h.filed gridId grid hgrid).2.insert rfl hapart) ?_
      intro other hin
      simp only [OrdMap.contains_insert, hin, Bool.or_true]
    refine hbuilt.of_eq ?_ ?_ <;> unfold withCargoInventory <;> cases block.inventoryId <;> rfl
  | blockWelded hpayload hby hgrid howner hblock => exact h.withReplaced hgrid hblock rfl rfl
  | gridControlSet hpayload hby hgrid => exact h.withSameBlocks hgrid rfl rfl
  | @gridAnchorSet gridId anchored _ _ _ hpayload hby hgrid =>
    refine h.withSameBlocks hgrid ?_ ?_ <;> cases anchored <;> rfl
  | blockDamaged hpayload hby hdamage happlied =>
    exact (damaged_of_applyDamage happlied).equipped h
  | physicsStepCommitted hpayload happlied =>
    obtain ⟨-, active, rfl⟩ := applyPhysicsStep_eq_ok happlied
    exact h.stepped
  | playerTransferPrepared hpayload hstaged =>
    obtain ⟨-, -, ⟨rfl, -⟩ | ⟨-, -, -, -, rfl⟩⟩ := stagePreparedEvaLock_eq_ok hstaged <;>
      exact h.of_eq rfl rfl
  | playerTransferQuarantined hpayload hstaged =>
    obtain ⟨-, -, ⟨rfl, -⟩ | ⟨-, -, rfl⟩⟩ := stageEvaPlayerQuarantine_eq_ok hstaged <;>
      exact h.of_eq rfl rfl
  | playerTransferAborted hpayload hstaged =>
    obtain ⟨-, -, ⟨-, -, rfl⟩ | ⟨-, -, rfl⟩ | ⟨-, -, -, rfl⟩⟩ :=
      stageAbortedEvaUnlock_eq_ok hstaged <;> exact h.of_eq rfl rfl
  | playerTransferExported hpayload hstaged =>
    obtain ⟨-, -, ⟨rfl, -⟩ | ⟨-, -, -, -, -, rfl⟩⟩ := stageCommittedEvaExport_eq_ok hstaged <;>
      exact h.of_eq rfl rfl
  | playerTransferImported hpayload hstaged =>
    obtain ⟨-, -, ⟨rfl, -⟩ | ⟨-, -, -, -, -, rfl⟩⟩ := stageCommittedEvaImport_eq_ok hstaged <;>
      exact h.of_eq rfl rfl
  | _ => exact h.of_eq rfl rfl

theorem Accepted.equipped (accepted : Accepted host w event w') :
    Equipped w' := by
  cases accepted with
  | intro hydrated admitted effect paid recorded weighed =>
    rw [recordOperation_frame recorded]
    refine Equipped.of_eq (effect.equipped h) ?_ ?_ <;> cases paid <;> rfl

omit h

end WorldState
end Verse
