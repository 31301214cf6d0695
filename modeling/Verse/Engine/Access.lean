import Verse.World.Accounts

/-!
# Access to inventories, grids and tool targets

The guards the engine shares between preparing a client event and applying one: that an
inventory or grid exists, that the acting player owns it, that cargo is open, and that the
voxel, block or face a tool is used on is the one the player's tool points at.
-/

namespace Verse

open Lib

abbrev Intent (α : Type) := Except IntentError α

variable (host : Host)

namespace WorldState

def inventory (w : WorldState) (inventoryId : String) : Intent InventoryRecord :=
  demand (w.inventories.get? inventoryId)
    (.rejected "inventory_missing" s!"inventory {inventoryId} does not exist")

def grid (w : WorldState) (gridId : String) : Intent Grid :=
  demand (w.grids.get? gridId) (.rejected "grid_missing" s!"grid {gridId} does not exist")

/-- The player an accepted envelope names. -/
def actor (w : WorldState) (actorPlayerId : String) : Intent Player :=
  demand (w.player.byId.get? actorPlayerId)
    (.panicked "validated human actor is present")

def withPlayer (w : WorldState) (playerId : String) (player : Player) : WorldState :=
  { w with player := { w.player with byId := w.player.byId.insert playerId player } }

def withInventory (w : WorldState) (inventoryId : String) (inventory : InventoryRecord) :
    WorldState :=
  { w with inventories := w.inventories.insert inventoryId inventory }

def withGrid (w : WorldState) (gridId : String) (grid : Grid) : WorldState :=
  { w with grids := w.grids.insert gridId grid }

/-- New contents for an inventory that is known to exist. -/
def withContents (w : WorldState) (inventoryId : String) (contents : InventoryContents) :
    WorldState :=
  { w with inventories := w.inventories.modify inventoryId fun inventory =>
      { inventory with contents } }

variable {w : WorldState}

variable {inventoryId : String}

@[simp] theorem get?_withContents_eq_none {key : String} {contents} :
    (w.withContents inventoryId contents).inventories.get? key = none
      ↔ w.inventories.get? key = none := by
  simp only [withContents, OrdMap.get?_modify]
  split_ifs with hkey
  · rw [Option.map_eq_none_iff, hkey]
  · rfl

def ensureActorOwnsGrid (w : WorldState) (actorPlayerId gridId : String) : Intent Unit := do
  let grid ← w.grid gridId
  rejectIf (grid.ownerPlayerId ≠ actorPlayerId)
    (.rejected "grid_access_denied"
      "the authenticated player cannot perform this action on the selected grid")

def ensureInventoryFunctional (w : WorldState) (inventoryId : String) : Intent Unit := do
  let inventory ← w.inventory inventoryId
  match inventory.domain with
  | .player _ => return ()
  | .dropped _ _ =>
    .error (.rejected "dropped_inventory_sealed"
      "dropped inventory requires an explicit recovery or salvage action")
  | .cargo blockId =>
    let (_, block) ← demand (w.blockGrid blockId)
      (.rejected "inventory_owner_missing"
        s!"cargo inventory {inventoryId} has no live owner block")
    rejectIf (block.constructionComplete = false)
      (.rejected "inventory_block_incomplete"
        "cargo inventory remains sealed until its block finishes construction")

def ensureActorOwnsInventory (w : WorldState) (actorPlayerId inventoryId : String) :
    Intent Unit := do
  let inventory ← w.inventory inventoryId
  rejectIf (inventory.domain.droppedOwner ≠ none)
    (.rejected "dropped_inventory_sealed"
      "dropped inventory requires an explicit recovery or salvage action")
  let owner ← (w.inventoryOwnerPlayerId inventoryId).mapError
    (.rejected "inventory_authority_invalid")
  rejectIf (owner ≠ actorPlayerId)
    (.rejected "inventory_access_denied"
      "the authenticated player cannot access the selected inventory")
  match inventory.domain with
  | .player playerId =>
    let actor ← demand (w.player.byId.get? actorPlayerId)
      (.rejected "actor_not_present" "the authenticated inventory actor is not present")
    rejectIf (¬ (playerId = actorPlayerId ∧ actor.inventoryId = inventoryId))
      (.rejected "inventory_access_denied"
        "the authenticated player cannot access the selected carried inventory")
  | .cargo _ | .dropped _ _ => return ()

/-- What an inventory guard that passed says: the inventory is not sealed, it belongs to the
    actor, and where it is carried the actor carries it. -/
def Owns (w : WorldState) (actorPlayerId inventoryId : String) : Prop :=
  ∃ inventory, w.inventories.get? inventoryId = some inventory
    ∧ w.inventoryOwnerPlayerId inventoryId = .ok actorPlayerId
    ∧ ((inventory.domain = .player actorPlayerId
          ∧ ∃ actor, w.player.byId.get? actorPlayerId = some actor
            ∧ actor.inventoryId = inventoryId)
        ∨ ∃ blockId, inventory.domain = .cargo blockId)

@[simp] theorem inventory_eq_ok {inventory} :
    w.inventory inventoryId = .ok inventory ↔ w.inventories.get? inventoryId = some inventory :=
  demand_eq_ok

variable {gridId : String}

@[simp] theorem grid_eq_ok {grid : Grid} :
    w.grid gridId = .ok grid ↔ w.grids.get? gridId = some grid :=
  demand_eq_ok

@[simp] theorem actor_eq_ok {playerId : String} {player : Player} :
    w.actor playerId = .ok player ↔ w.player.byId.get? playerId = some player :=
  demand_eq_ok

variable {actorPlayerId : String} {u : Unit}

@[simp] theorem ensureActorOwnsGrid_eq_ok :
    w.ensureActorOwnsGrid actorPlayerId gridId = .ok u ↔
      ∃ grid, w.grids.get? gridId = some grid ∧ grid.ownerPlayerId = actorPlayerId := by
  simp [ensureActorOwnsGrid]

@[simp] theorem ensureActorOwnsInventory_eq_ok :
    w.ensureActorOwnsInventory actorPlayerId inventoryId = .ok u ↔
      w.Owns actorPlayerId inventoryId := by
  unfold ensureActorOwnsInventory Owns
  cases hinventory : w.inventories.get? inventoryId with
  | none => simp [hinventory]
  | some inventory =>
    cases howner : w.inventoryOwnerPlayerId inventoryId with
    | error e => simp [hinventory, Except.mapError]
    | ok owner =>
      cases hdomain : inventory.domain with
      | player playerId =>
        simp only [bind_eq_ok, inventory_eq_ok, hinventory, hdomain, demand_eq_ok,
          rejectIf_eq_ok, Option.some.injEq, exists_eq_left', Except.mapError]
        simp only [InventoryDomain.droppedOwner, ne_eq, not_not, Except.ok.injEq, true_and,
          exists_const, exists_eq_left', InventoryDomain.player.injEq, reduceCtorEq, or_false]
        constructor
        · rintro ⟨howner, actor, hactor, hplayer, hcarries⟩
          exact ⟨howner, hplayer, actor, hactor, hcarries⟩
        · rintro ⟨howner, hplayer, actor, hactor, hcarries⟩
          exact ⟨howner, actor, hactor, hplayer, hcarries⟩
      | cargo blockId =>
        simp [hinventory, hdomain, Except.mapError, InventoryDomain.droppedOwner]
      | dropped reason ownerPlayerId =>
        simp [hinventory, hdomain, InventoryDomain.droppedOwner]

/-! ## Tool targets -/

def ensureVoxelToolTarget (w : WorldState) (actor : Player) (coordinate : IVec3)
    (code message : String) : Intent Unit :=
  match host.closestToolHit actor w.voxels w.grids with
  | some { target := .voxel targeted, localFace := some _ } =>
    rejectIf (targeted ≠ coordinate) (.rejected code message)
  | _ => .error (.rejected code message)

def ensureBlockToolTarget (w : WorldState) (actor : Player) (gridId blockId : String)
    (code message : String) : Intent Unit :=
  match host.closestToolHit actor w.voxels w.grids with
  | some { target := .block targetedGridId targetedBlockId _, localFace := some _ } =>
    rejectIf (¬ (targetedGridId = gridId ∧ targetedBlockId = blockId))
      (.rejected code message)
  | _ => .error (.rejected code message)

/-- `i32::saturating_add`. -/
def saturatingOffset (a b : Int) : Int := max (-2 ^ 31) (min (a + b) (2 ^ 31 - 1))

def ensureBuildToolTarget (w : WorldState) (actor : Player) (gridId : String)
    (coordinate : IVec3) (code message : String) : Intent Unit :=
  match host.closestToolHit actor w.voxels w.grids with
  | some { target := .block targetedGridId _ targeted, localFace := some face } =>
    let expected : IVec3 := .new (saturatingOffset targeted.x face.x)
      (saturatingOffset targeted.y face.y) (saturatingOffset targeted.z face.z)
    rejectIf (¬ (targetedGridId = gridId ∧ expected = coordinate)) (.rejected code message)
  | _ => .error (.rejected code message)

/-- `player_intersects_grid_coordinate`. -/
def playerIntersectsGridCoordinate (w : WorldState) (grid : Grid) (coordinate : IVec3) : Bool :=
  w.player.byId.values.any fun player =>
    player.lifeState == .alive && host.capsuleIntersectsCell player grid coordinate

/-- Whether mining a voxel takes the last support from an anchored grid. -/
def supportsAnchor (w : WorldState) (coordinate : IVec3) : Bool :=
  w.grids.values.any fun grid =>
    grid.anchored && grid.anchorTouches host w.voxels &&
      !grid.anchorTouchesAfterRemoval host w.voxels (some coordinate)

end WorldState

/-! ## Vectors -/

def ensureFinite (value : Vec3) (label : String) : Intent Unit :=
  rejectIf (value.isFinite = false)
    (.rejected "invalid_vector" s!"{label} must contain only finite numbers")

def ensureBoundedControl (value : Vec3) (label : String) : Intent Unit := do
  ensureFinite value label
  rejectIf (host.controlBounded value = false)
    (.rejected "control_input_out_of_range" s!"{label} magnitude must not exceed one")

/-! ## Contents -/

namespace InventoryContents

/-- `mutate_resource`. -/
def set (contents : InventoryContents) (resource : ResourceKind) (amount : Nat) :
    InventoryContents :=
  match resource with
  | .ore => { contents with ore := amount }
  | .refinedMaterial => { contents with refinedMaterial := amount }
  | .component => { contents with components := amount }

/-- `subtract_contents`. -/
def subtract (contents removed : InventoryContents) : Option InventoryContents :=
  if removed.ore ≤ contents.ore ∧ removed.refinedMaterial ≤ contents.refinedMaterial
      ∧ removed.components ≤ contents.components
  then some ⟨contents.ore - removed.ore, contents.refinedMaterial - removed.refinedMaterial,
    contents.components - removed.components⟩
  else none

/-- `add_contents`. -/
def add (contents added : InventoryContents) : Intent InventoryContents := do
  let ore ← demand (checkedAdd contents.ore added.ore)
    (.rejected "production_output_overflow" "ore output overflowed cargo")
  let refinedMaterial ← demand (checkedAdd contents.refinedMaterial added.refinedMaterial)
    (.rejected "production_output_overflow" "refined material output overflowed cargo")
  let components ← demand (checkedAdd contents.components added.components)
    (.rejected "production_output_overflow" "component output overflowed cargo")
  return { ore, refinedMaterial, components }

end InventoryContents
end Verse
