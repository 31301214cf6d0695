import Verse.Lib.Books
import Verse.World.Accounts

/-!
# The books of a cell

`conservation` weighs one state. Behind the weighing are the books of the three resources:
what the ledger ever entered, what inventories and machines hold, and what is spent, which for
components includes the blocks that stand. `conservation_eq_ok` says that a weighing is a
reading of the books, job counters stopping at their last value, and that it fails only where
a sum leaves its counter.

The ore still in the ground is not weighed by the source. It is counted here (`voxelYield`), so
that mined ore can be said to come from it.
-/

namespace Verse

open Lib

/-! ## What is held, entered and spent -/

/-- What a job has reserved or still owes. -/
def ProductionJob.amount (job : ProductionJob) (resource : ResourceKind) : Nat :=
  job.reservedInputs.amount resource + job.pendingOutputs.amount resource

/-- What the jobs of one queue have reserved or still owe. -/
def queueAmount (resource : ResourceKind) (queue : List ProductionJob) : Nat :=
  (queue.map fun job => job.amount resource).sum

variable {resource : ResourceKind}

@[simp] theorem queueAmount_nil : queueAmount resource [] = 0 := rfl

@[simp] theorem queueAmount_cons {job rest} :
    queueAmount resource (job :: rest) = job.amount resource + queueAmount resource rest := by
  simp [queueAmount]

@[simp] theorem queueAmount_append {first rest} :
    queueAmount resource (first ++ rest) = queueAmount resource first + queueAmount resource rest := by
  simp [queueAmount]

namespace Ledger

/-- Everything ever entered. -/
def sources (ledger : Ledger) : ResourceKind → Nat
  | .ore => ledger.genesisOre + ledger.minedOre + ledger.transferImportedOre
  | .refinedMaterial => ledger.genesisRefined
      + ledger.refineBatches * Content.refiningRefinedOutput + ledger.transferImportedRefined
  | .component => ledger.genesisComponents + ledger.genesisInstalledComponents
      + ledger.craftedComponents * Content.craftingComponentOutput
      + ledger.transferImportedComponents

/-- Everything that has left for good. -/
def consumed (ledger : Ledger) : ResourceKind → Nat
  | .ore => ledger.refineBatches * Content.refiningOreInput + ledger.transferExportedOre
  | .refinedMaterial => ledger.craftedComponents * Content.craftingRefinedInput
      + ledger.transferExportedRefined
  | .component => ledger.destroyedComponents + ledger.transferExportedComponents

end Ledger

/-- What an occupied voxel yields. -/
def VoxelField.yieldAt (voxels : VoxelField) (coordinate : IVec3) : Nat :=
  if voxels.ferriteOre.contains coordinate then Content.voxelOreYield .ferriteOre
  else Content.voxelOreYield .rock

namespace WorldState

variable {w w' : WorldState}

/-- What the machines hold of one resource. -/
def jobsTotal (w : WorldState) (resource : ResourceKind) : Nat :=
  w.productionQueues.sumBy (queueAmount resource)

/-- What stands in blocks. -/
def installed (w : WorldState) : ResourceKind → Nat
  | .ore | .refinedMaterial => 0
  | .component => w.liveBlocks

/-- The books of one resource. -/
def books (w : WorldState) (resource : ResourceKind) : Books where
  entered := w.ledger.sources resource
  held := w.inventoryTotal resource + w.jobsTotal resource
  spent := w.installed resource + w.ledger.consumed resource

/-- The ore in the ground. -/
def voxelYield (w : WorldState) : Nat :=
  (w.voxels.occupied.keys.map w.voxels.yieldAt).sum

/-- The conservation balance of the cell holds. -/
def Balances (w : WorldState) : Prop := ∃ totals, w.conservation = .ok totals ∧ totals.valid

instance (w : WorldState) : Decidable w.Balances :=
  match h : w.conservation with
  | .error _ => .isFalse fun ⟨_, hok, _⟩ => by cases h.symm.trans hok
  | .ok totals => decidable_of_iff (totals.valid = true) (by simp [Balances, h])

/-! ## Weighing is reading the books -/

@[simp] theorem fits_eq_ok {total sum : Nat} :
    fits total = .ok sum ↔ total ≤ u64Max ∧ total = sum := by
  unfold fits
  split_ifs <;> simp_all

theorem jobsTotal_eq (resource : ResourceKind) :
    w.jobsTotal resource = (w.jobs.map fun job => job.amount resource).sum := by
  rw [jobsTotal, OrdMap.sumBy, jobs, List.map_flatten, List.sum_flatten, List.map_map]
  rfl

/-- Saturating additions stop at the last value of the counter, however they are grouped. -/
theorem addJobs_eq {live : Nat} (hlive : live ≤ u64Max) :
    w.addJobs resource live = min (live + w.jobsTotal resource) u64Max := by
  rw [jobsTotal_eq]
  unfold addJobs
  generalize w.jobs = jobs
  induction jobs generalizing live with
  | nil => simp [hlive]
  | cons job rest ih =>
    rw [List.foldl_cons, ih (by unfold saturatingAdd; omega), List.map_cons, List.sum_cons]
    unfold saturatingAdd ProductionJob.amount
    omega

/-- A weighing succeeds when every sum is within its counter, and it balances when the books
    read balanced. -/
theorem conservation_eq_ok {totals} (h : w.conservation = .ok totals) :
    (∀ resource, (w.books resource).Fits u64Max)
      ∧ (totals.valid = true ↔ ∀ resource, (w.books resource).Reads u64Max) := by
  simp only [conservation, bind_eq_ok, fits_eq_ok, pure_eq_ok] at h
  obtain ⟨_, ⟨hore, rfl⟩, _, ⟨hrefined, rfl⟩, _, ⟨hcomponents, rfl⟩, _, ⟨-, rfl⟩, _,
    ⟨horeSources, rfl⟩, _, ⟨-, rfl⟩, _, ⟨hrefinedSources, rfl⟩, _, ⟨-, rfl⟩, _,
    ⟨hcomponentSources, rfl⟩, _, ⟨-, rfl⟩, _, ⟨horeSum, rfl⟩, _, ⟨hrefinedSum, rfl⟩, _,
    ⟨hcomponentSum, rfl⟩, rfl⟩ := h
  rw [addJobs_eq hore] at horeSum
  rw [addJobs_eq hrefined] at hrefinedSum
  rw [addJobs_eq hcomponents] at hcomponentSum
  have hbooks : ∀ {p : Books → Prop}, (∀ resource, p (w.books resource)) ↔
      p (w.books .ore) ∧ p (w.books .refinedMaterial) ∧ p (w.books .component) := by
    refine ⟨fun h => ⟨h .ore, h .refinedMaterial, h .component⟩, ?_⟩
    rintro ⟨hore, hrefined, hcomponent⟩ (_ | _ | _) <;> assumption
  rw [hbooks, hbooks, addJobs_eq hore, addJobs_eq hrefined, addJobs_eq hcomponents]
  simp only [books, installed, Ledger.sources, Ledger.consumed, Books.Fits, Books.Reads,
    Nat.zero_add, ← Nat.add_assoc w.liveBlocks, Bool.and_eq_true, decide_eq_true_eq, and_assoc]
  exact ⟨horeSources, horeSum, hrefinedSources, hrefinedSum, hcomponentSources, hcomponentSum,
    trivial⟩

/-- Weighing fails in one way only. -/
theorem conservation_eq_error {e} (h : w.conservation = .error e) :
    e = .panicked "attempt to add with overflow" := by
  have hfits : ∀ {total e}, fits total = .error e → e = .panicked "attempt to add with overflow" := by
    intro total e he
    unfold fits at he
    split_ifs at he
    exact (Except.error.inj he).symm
  simp only [conservation, bind_eq_error, pure_eq_error, and_false, exists_false, or_false] at h
  obtain h | ⟨_, -, h | ⟨_, -, h | ⟨_, -, h | ⟨_, -, h | ⟨_, -, h | ⟨_, -, h | ⟨_, -, h |
    ⟨_, -, h | ⟨_, -, h | ⟨_, -, h | ⟨_, -, h | ⟨_, -, h⟩⟩⟩⟩⟩⟩⟩⟩⟩⟩⟩⟩ := h
  all_goals exact hfits h

/-! ## The books after an event -/

/-- The books of the three resources followed recorded movements, and what was mined came out
    of the ground. -/
structure Accounted (w w' : WorldState) : Prop where
  books : ∀ resource, (w.books resource).Follows (w'.books resource)
  ground : w'.voxelYield + w'.ledger.minedOre = w.voxelYield + w.ledger.minedOre

theorem Accounted.refl (w : WorldState) : Accounted w w := ⟨fun _ => .refl _, rfl⟩

theorem Accounted.trans {middle} (h₁ : Accounted w middle) (h₂ : Accounted middle w') :
    Accounted w w' :=
  ⟨fun resource => (h₁.books resource).trans (h₂.books resource), h₂.ground.trans h₁.ground⟩

/-- From a balance, recorded movements lead to a balance, wherever the sums still fit. -/
theorem Accounted.balances (h : Accounted w w') (hbalances : w.Balances) {totals}
    (htotals : w'.conservation = .ok totals) :
    totals.valid = true := by
  obtain ⟨before, hbefore, hvalid⟩ := hbalances
  obtain ⟨hfits, hreads⟩ := conservation_eq_ok hbefore
  obtain ⟨hfits', hreads'⟩ := conservation_eq_ok htotals
  rw [hreads']
  exact fun resource => (h.books resource).reads (hreads.mp hvalid resource) (hfits resource).1
    (hfits' resource)

end WorldState
end Verse
