import Verse.Engine.Access

/-!
# Damage, destruction and splits

Damage below a block's health only lowers it. A block that gives way is removed for good: its
cost is entered as destroyed, cargo it held is dropped where it was, what a machine had
reserved or still owed is dropped too, and the grid falls apart into the face-connected
components that remain. The component with a control core keeps the grid's identity, the
others get identities derived from it and from the event.
-/

namespace Verse

open Lib

variable (host : Host)

/-! ## Face-connected components -/

/-- The flood from a queue of coordinates: each coordinate taken from the queue joins the
    component, and those of its neighbours that remain join the queue. A turn takes one
    coordinate out of queue and remainder together, so their number is fuel enough. -/
def floodComponent : (fuel : Nat) → (queue : List IVec3) →
    (component remaining : OrdMap IVec3 Unit) → OrdMap IVec3 Unit × OrdMap IVec3 Unit
  | 0, _, component, remaining => (component, remaining)
  | _ + 1, [], component, remaining => (component, remaining)
  | fuel + 1, coordinate :: queue, component, remaining =>
    let found := coordinate.neighbors.filter remaining.contains
    floodComponent fuel (queue ++ found) (component.insert coordinate ())
      (found.foldl OrdMap.erase remaining)

/-- The components of a set of coordinates, each flooded from its least one. -/
def faceComponents : (fuel : Nat) → (remaining : OrdMap IVec3 Unit) →
    List (OrdMap IVec3 Unit)
  | 0, _ => []
  | fuel + 1, remaining =>
    match remaining.keys with
    | [] => []
    | start :: _ =>
      let flooded :=
        floodComponent remaining.size [start] OrdMap.empty (remaining.erase start)
      flooded.1 :: faceComponents fuel flooded.2

/-- Components are ordered by their least coordinate. -/
def leastCoordinateLe (a b : OrdMap IVec3 Unit) : Bool :=
  match a.keys.head?, b.keys.head? with
  | none, _ => true
  | some _, none => false
  | some x, some y => decide (x ≤ y)

namespace Grid

/-- `by_coordinate`. -/
def byCoordinate (grid : Grid) : OrdMap IVec3 String :=
  OrdMap.ofList (grid.blocks.values.map fun block => (block.coordinate, block.blockId))

/-- The face-connected components of the blocks, in order. -/
def components (grid : Grid) : List (OrdMap IVec3 Unit) :=
  let occupied := OrdMap.ofList (grid.byCoordinate.keys.map fun coordinate => (coordinate, ()))
  (faceComponents occupied.size occupied).mergeSort leastCoordinateLe

/-- The block of a coordinate, through its identifier. -/
def blockOf (grid : Grid) (coordinate : IVec3) : Option Block :=
  (grid.byCoordinate.get? coordinate).bind grid.blocks.get?

/-- The blocks of one component. -/
def componentBlocks (grid : Grid) (component : OrdMap IVec3 Unit) : OrdMap String Block :=
  OrdMap.ofList (component.keys.filterMap fun coordinate =>
    (grid.byCoordinate.get? coordinate).bind fun blockId =>
      (grid.blocks.get? blockId).map fun block => (blockId, block))

/-- The first component with a control core, or the first one. -/
def primaryIndex (grid : Grid) : Nat :=
  (grid.components.findIdx? fun component => component.keys.any fun coordinate =>
    match grid.blockOf coordinate with
    | some block => block.kind == .controlCore
    | none => false).getD 0

/-- The identity of the component at an index. -/
def splitGridId (grid : Grid) (eventSequence index : Nat) : String :=
  if index = grid.primaryIndex then grid.gridId
  else s!"{grid.gridId}-split-{eventSequence}-{index}"

/-- The grid one component becomes. -/
def splitOff (grid : Grid) (voxels : VoxelField) (eventSequence index : Nat)
    (component : OrdMap IVec3 Unit) : Grid :=
  let didSplit := decide (grid.components.length > 1)
  let fragment := { grid with
    gridId := grid.splitGridId eventSequence index
    anchorRewardEligible := grid.anchorRewardEligible && decide (index = grid.primaryIndex)
    controlLinearInput := if didSplit then Vec3.zero else grid.controlLinearInput
    controlAngularInput := if didSplit then Vec3.zero else grid.controlAngularInput
    dampeners := grid.dampeners || didSplit
    blocks := grid.componentBlocks component }
  { fragment with anchored := grid.anchored && fragment.anchorTouches host voxels }

/-- All the grids the components become. -/
def fragments (grid : Grid) (voxels : VoxelField) (eventSequence : Nat) : List Grid :=
  grid.components.mapIdx fun index component =>
    grid.splitOff host voxels eventSequence index component

end Grid

namespace WorldState

/-- `split_disconnected_grid`. -/
def splitDisconnectedGrid (w : WorldState) (gridId : String) (eventSequence : Nat) :
    Intent WorldState := do
  let original ← demand (w.grids.get? gridId)
    (.rejected "replay_grid_missing" "grid split target is missing")
  if original.blocks = OrdMap.empty then
    return { w with grids := w.grids.erase gridId }
  else do
    let fragments := original.fragments host w.voxels eventSequence
    rejectIf (∃ fragment ∈ fragments, fragment.gridId ≠ original.gridId
        ∧ w.grids.contains fragment.gridId)
      (.rejected "replay_grid_split_identity_duplicate"
        "deterministic grid split identity is already in use")
    return { w with grids := fragments.foldl (fun grids fragment =>
      grids.insert fragment.gridId fragment) (w.grids.erase gridId) }

/-! ## Destroying a block -/

/-- Everything the jobs of a queue have reserved or still owe. -/
def queueContents (queue : List ProductionJob) : Intent InventoryContents :=
  queue.foldlM (fun contents job => do
    let contents ← contents.add job.reservedInputs
    contents.add job.pendingOutputs) .empty

/-- The cargo of a removed block stays where it was, sealed. -/
def dropCargo (w : WorldState) (removed : Block) (ownerPlayerId : String) : WorldState :=
  match removed.inventoryId with
  | some inventoryId =>
    { w with inventories := w.inventories.modify inventoryId fun inventory =>
        { inventory with domain := .dropped "cargo_block_destroyed" ownerPlayerId } }
  | none => w

/-- What a removed machine was working on is dropped. -/
def dropQueue (w : WorldState) (blockId ownerPlayerId : String) (eventSequence : Nat) :
    Intent WorldState :=
  match w.productionQueues.get? blockId with
  | none => return w
  | some queue => do
    let contents ← queueContents queue
    let inventoryId := s!"inventory-production-drop-{eventSequence}-{blockId}"
    rejectIf (w.inventories.contains inventoryId)
      (.rejected "replay_production_drop_identity_duplicate"
        "deterministic machine-destruction drop identity is already in use")
    let inventory : InventoryRecord := {
      inventoryId
      domain := .dropped "production_machine_destroyed" ownerPlayerId
      contents
      capacityLiters := u64Max }
    return { w with
      productionQueues := w.productionQueues.erase blockId
      inventories := w.inventories.insert inventoryId inventory }

/-- The ledger entry of a destroyed block. -/
def recordDestroyed (w : WorldState) (removed : Block) : Intent WorldState := do
  let destroyedBlocks ← plainAdd w.ledger.destroyedBlocks 1
  let destroyedComponents ← plainAdd w.ledger.destroyedComponents removed.componentCost
  return { w with ledger := { w.ledger with destroyedBlocks, destroyedComponents } }

/-- `apply_damage`. -/
def applyDamage (w : WorldState) (gridId blockId : String) (damage eventSequence : Nat) :
    Intent WorldState := do
  let grid ← w.grid gridId
  let block ← demand (grid.blocks.get? blockId)
    (.rejected "replay_block_missing" "damage target is missing")
  if block.health > damage then
    return w.withGrid gridId { grid with
      blocks := grid.blocks.insert blockId { block with health := block.health - damage } }
  else do
    let w := w.withGrid gridId { grid with blocks := grid.blocks.erase blockId }
    let w ← w.recordDestroyed block
    let w := w.dropCargo block grid.ownerPlayerId
    let w ← w.dropQueue blockId grid.ownerPlayerId eventSequence
    w.splitDisconnectedGrid host gridId eventSequence

end WorldState
end Verse
