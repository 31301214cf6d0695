import Verse.World.State

/-!
# The content manifest

The rules the active content manifest registers: what a block of each kind costs and
withstands, what a recipe consumes and yields, how much a unit of each resource weighs and
takes up, and the rewards and limits the engine reads. The floating-point entries are used by
the geometry only and are not here.
-/

namespace Verse

open Lib

/-! ## `u64` arithmetic that does not fail -/

/-- `u64::saturating_add`. -/
def saturatingAdd (a b : Nat) : Nat := min (a + b) u64Max

/-- `u64::saturating_mul`. -/
def saturatingMul (a b : Nat) : Nat := min (a * b) u64Max

/-- `u64::checked_mul`. -/
def checkedMul (a b : Nat) : Option Nat := if a * b ≤ u64Max then some (a * b) else none

@[simp] theorem checkedMul_eq_some {a b c : Nat} :
    checkedMul a b = some c ↔ a * b ≤ u64Max ∧ a * b = c := by
  unfold checkedMul
  split <;> simp_all

/-- `div_ceil`. -/
def divCeil (a b : Nat) : Nat := (a + b - 1) / b

namespace Content

def manifestVersion : String := "p1.5.0"

/-! ## Physics and character -/

def fixedStepHz : Nat := 60
def controlLeaseTicks : Nat := 18
def jumpBufferTicks : Nat := 6
def coyoteTicks : Nat := 6
def magneticReattachLockoutTicks : Nat := 12
def characterMassGrams : Nat := 90000
def voxelCollisionChunkEdgeCells : Int := 8

/-- `MAX_PENDING_PLAYER_CONTROL_FRAMES`. -/
def maxPendingPlayerControlFrames : Nat := 64

/-- `MAX_GRID_BLOCKS_P0`. -/
def maxGridBlocks : Nat := 2048

/-! ## Survival -/

def suitOxygenCapacityMilli : Nat := 1000
def openBreathableDelta : Int := 25
def openVacuumDelta : Int := -40
def sealedBreathableDelta : Int := 0
def sealedVacuumDelta : Int := -5
def respawnOxygenMilli : Nat := 1000
def respawnHelmetClosed : Bool := true
def respawnJetpackEnabled : Bool := true

/-! ## Blocks -/

structure BlockDefinition where
  (conveyorPorts maxHealth componentCost massGrams : Nat)

def block : BlockKind → BlockDefinition
  | .structural => ⟨0, 100, 1, 250000⟩
  | .controlCore => ⟨0, 180, 1, 480000⟩
  | .powerSource => ⟨0, 140, 1, 550000⟩
  | .battery => ⟨0, 120, 1, 700000⟩
  | .cargo => ⟨63, 110, 1, 350000⟩
  | .drill => ⟨0, 100, 1, 600000⟩
  | .anchor => ⟨0, 160, 1, 420000⟩
  | .damageTest => ⟨0, 60, 1, 250000⟩
  | .conveyor => ⟨63, 90, 1, 180000⟩
  | .refinery => ⟨63, 180, 4, 900000⟩
  | .assembler => ⟨63, 160, 4, 800000⟩

/-- The hand tool does this much damage at a time. -/
def handToolDamage : Nat := 35

/-! ## Materials, recipes and rewards -/

def voxelOreYield : VoxelMaterial → Nat
  | .rock => 1
  | .ferriteOre => 3

def refiningOreInput : Nat := 2
def refiningRefinedOutput : Nat := 1
def refiningTicksPerBatch : Nat := 120
def craftingRefinedInput : Nat := 1
def craftingComponentOutput : Nat := 1
def craftingTicksPerBatch : Nat := 90
def queueLimitPerMachine : Nat := 32

def rewardMinedOreUnit : Nat := 5
def rewardRefiningBatch : Nat := 12
def rewardCraftedComponent : Nat := 18
def rewardFramePlaced : Nat := 5
def rewardConstructionCompleted : Nat := 20
def rewardWeldProgressOrRepair : Nat := 0
def rewardInventoryTransfer : Nat := 0
def rewardFirstAnchorEngagement : Nat := 40
def rewardBlockDamage : Nat := 0

def productionMachineKind : ProductionRecipeKind → BlockKind
  | .refining => .refinery
  | .component => .assembler

def machineSupportsRecipe (machineKind : BlockKind) (recipe : ProductionRecipeKind) : Bool :=
  machineKind == productionMachineKind recipe

end Content

/-! ## Blocks -/

namespace Block

def maxHealth (block : Block) : Nat := (Content.block block.kind).maxHealth

/-- `Block::new`. -/
def new (blockId : String) (coordinate : IVec3) (kind : BlockKind) : Block where
  blockId := blockId
  coordinate := coordinate
  kind := kind
  orientation := 0
  health := (Content.block kind).maxHealth
  constructionComplete := true
  componentCost := (Content.block kind).componentCost
  inventoryId := none

end Block

/-! ## Volumes and masses -/

def resourceUnitVolumeLiters : ResourceKind → Nat
  | .ore => 37
  | .refinedMaterial => 15
  | .component => 22

def resourceUnitMassGrams : ResourceKind → Nat
  | .ore => 3500
  | .refinedMaterial => 2400
  | .component => 4800

namespace InventoryContents

/-- `contents_mass_grams`. -/
def massGrams (contents : InventoryContents) : Nat :=
  saturatingAdd
    (saturatingAdd (saturatingMul contents.ore (resourceUnitMassGrams .ore))
      (saturatingMul contents.refinedMaterial (resourceUnitMassGrams .refinedMaterial)))
    (saturatingMul contents.components (resourceUnitMassGrams .component))

/-- The volume of some contents, where it fits the counter. -/
def checkedVolumeLiters (contents : InventoryContents) : Option Nat := do
  let ore ← checkedMul contents.ore (resourceUnitVolumeLiters .ore)
  let refined ← checkedMul contents.refinedMaterial (resourceUnitVolumeLiters .refinedMaterial)
  let ore ← checkedAdd ore refined
  let components ← checkedMul contents.components (resourceUnitVolumeLiters .component)
  checkedAdd ore components

end InventoryContents

namespace InventoryRecord

def usedLiters (inventory : InventoryRecord) : Nat :=
  saturatingAdd
    (saturatingAdd (saturatingMul inventory.contents.ore (resourceUnitVolumeLiters .ore))
      (saturatingMul inventory.contents.refinedMaterial
        (resourceUnitVolumeLiters .refinedMaterial)))
    (saturatingMul inventory.contents.components (resourceUnitVolumeLiters .component))

def massGrams (inventory : InventoryRecord) : Nat := inventory.contents.massGrams

def canAdd (inventory : InventoryRecord) (resource : ResourceKind) (quantity : Nat) : Bool :=
  saturatingAdd inventory.usedLiters
    (saturatingMul (resourceUnitVolumeLiters resource) quantity) ≤ inventory.capacityLiters

/-- `inventory_can_add_contents`. -/
def canAddContents (inventory : InventoryRecord) (contents : InventoryContents) : Bool :=
  match contents.checkedVolumeLiters.bind (checkedAdd inventory.usedLiters) with
  | some used => used ≤ inventory.capacityLiters
  | none => false

end InventoryRecord

/-- `CARGO_INVENTORY_CAPACITY_LITERS`. -/
def cargoInventoryCapacityLiters : Nat := 8000

/-! ## Recipes -/

/-- Inputs, outputs and duration of some batches, where all three fit their counters. -/
def productionRecipeQuantities (recipe : ProductionRecipeKind) (batches : Nat) :
    Option (InventoryContents × InventoryContents × Nat) :=
  if batches = 0 then none
  else match recipe with
  | .refining => do
    let ore ← checkedMul batches Content.refiningOreInput
    let refinedMaterial ← checkedMul batches Content.refiningRefinedOutput
    let duration ← checkedMul batches Content.refiningTicksPerBatch
    return ({ InventoryContents.empty with ore },
      { InventoryContents.empty with refinedMaterial }, duration)
  | .component => do
    let refinedMaterial ← checkedMul batches Content.craftingRefinedInput
    let components ← checkedMul batches Content.craftingComponentOutput
    let duration ← checkedMul batches Content.craftingTicksPerBatch
    return ({ InventoryContents.empty with refinedMaterial },
      { InventoryContents.empty with components }, duration)

end Verse
