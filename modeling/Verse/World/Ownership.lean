import Verse.World.Host
import Verse.Lib.Result

/-!
# Blocks, cargo and who owns them

Ownership of an inventory is not stored: a carried inventory belongs to its player, cargo to
whoever owns the one grid that contains its block, and a dropped inventory keeps the owner it
had when it was dropped. The lookups here resolve those links, and the conveyor search decides
whether a machine reaches a cargo block through completed neighbours of the same grid.
-/

namespace Verse

open Lib

namespace Grid

def blockAt (grid : Grid) (coordinate : IVec3) : Option Block :=
  grid.blocks.values.find? fun block => decide (block.coordinate = coordinate)

/-- `anchor_touches_after_removal`. -/
def anchorTouchesAfterRemoval (host : Host) (grid : Grid) (voxels : VoxelField)
    (removed : Option IVec3) : Bool :=
  grid.blocks.values.any fun block =>
    block.kind == .anchor && block.constructionComplete &&
      let world := host.worldCoordinate grid.position grid.orientation block.coordinate
      let remainsOccupied := fun coordinate =>
        decide (some coordinate ≠ removed) && voxels.occupied.contains coordinate
      remainsOccupied world || world.neighbors.any remainsOccupied

def anchorTouches (host : Host) (grid : Grid) (voxels : VoxelField) : Bool :=
  grid.anchorTouchesAfterRemoval host voxels none

end Grid

namespace WorldState

def blockGrid (w : WorldState) (blockId : String) : Option (Grid × Block) :=
  w.grids.values.findSome? fun grid => (grid.blocks.get? blockId).map fun block => (grid, block)

def cargoBlockForInventory (w : WorldState) (inventoryId : String) : Option (Grid × Block) :=
  match w.inventories.get? inventoryId with
  | some { domain := .cargo blockId, .. } =>
    match w.blockGrid blockId with
    | some (grid, block) =>
      if block.kind = .cargo ∧ block.constructionComplete ∧ block.inventoryId = some inventoryId
      then some (grid, block) else none
    | none => none
  | _ => none

/-- `inventory_owner_player_id`. -/
def inventoryOwnerPlayerId (w : WorldState) (inventoryId : String) : Except String String := do
  let inventory ← demand (w.inventories.get? inventoryId)
    s!"inventory {inventoryId} does not exist"
  match inventory.domain with
  | .player playerId => return playerId
  | .dropped _ ownerPlayerId => return ownerPlayerId
  | .cargo blockId =>
    let linked := w.grids.values.filterMap fun grid =>
      (grid.blocks.get? blockId).map fun block => (grid, block)
    -- The source scans the grids in order and stops at the first broken link or second owner.
    let owner ← linked.foldlM (fun owner (link : Grid × Block) => do
      rejectIf (link.2.inventoryId ≠ some inventoryId)
        s!"cargo block {blockId} does not link back to inventory {inventoryId}"
      rejectIf (owner.isSome) s!"cargo block {blockId} is linked from multiple grids"
      return some link.1.ownerPlayerId) none
    demand owner s!"cargo inventory {inventoryId} has no live owner"

end WorldState

/-! ## Conveyor routes -/

/-- The unvisited completed conveyor blocks that share a face with `block`. -/
def conveyorNeighbors (grid : Grid) (visited : List String) (block : Block) : List String :=
  (grid.blocks.values.filter fun neighbor =>
    neighbor.constructionComplete &&
      decide ((Content.block neighbor.kind).conveyorPorts ≠ 0) &&
      decide (block.coordinate.manhattanDistance neighbor.coordinate = 1) &&
      !visited.contains neighbor.blockId).map Block.blockId

/-- Breadth-first search for `target`. A block enters the frontier once, so a fuel of one
    more than the number of blocks is never used up. -/
def conveyorSearch (grid : Grid) (target : String) :
    (fuel : Nat) → (frontier visited : List String) → Bool
  | 0, _, _ => false
  | _ + 1, [], _ => false
  | fuel + 1, blockId :: frontier, visited =>
    if blockId = target then true
    else match grid.blocks.get? blockId with
      | none => false
      | some block =>
        let found := conveyorNeighbors grid visited block
        conveyorSearch grid target fuel (frontier ++ found) (visited ++ found)

namespace WorldState

def productionRouteExists (w : WorldState) (machineBlockId inventoryId : String) : Bool :=
  match w.blockGrid machineBlockId, w.cargoBlockForInventory inventoryId with
  | some (machineGrid, machine), some (cargoGrid, cargo) =>
    decide (machineGrid.gridId = cargoGrid.gridId) && machine.constructionComplete &&
      decide ((Content.block machine.kind).conveyorPorts ≠ 0) &&
      conveyorSearch machineGrid cargo.blockId (machineGrid.blocks.size + 1)
        [machine.blockId] [machine.blockId]
  | _, _ => false

end WorldState
end Verse
