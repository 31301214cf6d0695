import Verse.Engine.Destruction
import Verse.Engine.Effect
import Verse.Engine.Work
import Verse.Handoff.Steps

/-!
# What a player carries, and what leaves it alone

A player's share of a cell is its record, the inventory it carries, its operation history and
its transfer lock. An event writes a few tables, and each kind of write leaves alone the share
of every player it is not about (`Kept`), as long as a carried inventory can be told from
every other (`Carried`): no machine delivers into one and no block drops one.

The writes come first; machine work, damage and a physics step are then composed from them.
-/

namespace Verse

open Lib

/-! ## Full records and gains -/

/-- A record to which a finished job adds nothing: its counters are full. -/
def Player.Saturated (player : Player) (job : ProductionJob) : Prop :=
  player.experience = u64Max ∧ match job.recipe with
    | .refining => player.career.refiningBatches = u64Max
    | .component => player.career.componentsCrafted = u64Max

instance (player : Player) (job : ProductionJob) : Decidable (player.Saturated job) := by
  unfold Player.Saturated
  cases job.recipe <;> exact inferInstance

variable {total : Nat}

theorem saturatingAdd_of_full (h : total = u64Max) (n : Nat) :
    saturatingAdd total n = total := by
  subst h
  simp [saturatingAdd]

variable {player : Player} {job : ProductionJob}

theorem Player.Saturated.creditCompletion
    (h : player.Saturated job) : player.creditCompletion job = player := by
  obtain ⟨hexperience, hcareer⟩ := h
  unfold Player.creditCompletion
  cases hrecipe : job.recipe with
  | refining | component =>
    simp only [hrecipe] at hcareer
    simp only [saturatingAdd_of_full hexperience, saturatingAdd_of_full hcareer]

/-- A saturating counter that has left a value it cannot come back to. -/
def Drifted (before after : Nat) : Prop :=
  after ≤ u64Max ∧ (before < after ∨ u64Max < before)

theorem Drifted.saturatingAdd {before after : Nat} (h : Drifted before after) (n : Nat) :
    Drifted before (saturatingAdd after n) := by
  unfold Drifted Verse.saturatingAdd at *
  omega

theorem drifted_of_not_full {n : Nat} (htotal : total ≠ u64Max) (hn : 0 < n) :
    Drifted total (saturatingAdd total n) := by
  unfold Drifted saturatingAdd
  omega

variable {before : Player}

namespace Player

/-- One of the counters a finished job adds to has drifted. -/
def Gained (before after : Player) : Prop :=
  Drifted before.experience after.experience
    ∨ Drifted before.career.refiningBatches after.career.refiningBatches
    ∨ Drifted before.career.componentsCrafted after.career.componentsCrafted

variable {after : Player}

theorem Gained.ne (h : Gained before after) : after ≠ before := by
  rintro rfl
  unfold Gained Drifted at h
  omega

theorem Gained.creditCompletion (h : Gained before after)
    (job : ProductionJob) : Gained before (after.creditCompletion job) := by
  unfold Player.creditCompletion
  rcases h with hexperience | hrefining | hcrafting
  · cases job.recipe <;> exact .inl (hexperience.saturatingAdd _)
  · cases job.recipe
    · exact .inr (.inl (hrefining.saturatingAdd _))
    · exact .inr (.inl hrefining)
  · cases job.recipe
    · exact .inr (.inr hcrafting)
    · exact .inr (.inr (hcrafting.saturatingAdd _))

theorem gained_creditCompletion (hbatches : 0 < job.batches) (h : ¬ player.Saturated job) :
    Gained player (player.creditCompletion job) := by
  have hreward : ∀ reward, 0 < reward → 0 < saturatingMul job.batches reward := by
    intro reward hreward
    have := Nat.mul_pos hbatches hreward
    unfold saturatingMul u64Max
    omega
  unfold Saturated at h
  unfold Player.creditCompletion
  by_cases hexperience : player.experience = u64Max
  · cases hrecipe : job.recipe with
    | refining =>
      simp only [hrecipe] at h
      exact .inr (.inl (drifted_of_not_full (fun hfull => h ⟨hexperience, hfull⟩) hbatches))
    | component =>
      simp only [hrecipe] at h
      exact .inr (.inr (drifted_of_not_full (fun hfull => h ⟨hexperience, hfull⟩) hbatches))
  · cases job.recipe
    · exact .inl (drifted_of_not_full hexperience (hreward _ (by decide)))
    · exact .inl (drifted_of_not_full hexperience (hreward _ (by decide)))

end Player

namespace WorldState

variable {host : Host} {w w' middle : WorldState} {S : String → Prop}

/-! ## Carried and stowed -/

/-- An inventory nobody carries. -/
def Stowed (w : WorldState) (inventoryId : String) : Prop :=
  ∃ inventory, w.inventories.get? inventoryId = some inventory
    ∧ ∀ playerId, inventory.domain ≠ .player playerId

/-- A player carries an inventory of its own, the inventory of a block is stowed, and a locked
    player is there. -/
structure Carried (w : WorldState) : Prop where
  players : ∀ playerId player, w.player.byId.get? playerId = some player →
    ∃ inventory, w.inventories.get? player.inventoryId = some inventory
      ∧ inventory.domain = .player playerId
  locked : ∀ playerId lock, w.playerTransferLocks.get? playerId = some lock →
    ∃ player, w.player.byId.get? playerId = some player
  cargo : ∀ blockId grid block inventoryId, w.BlockIn blockId grid block →
    block.inventoryId = some inventoryId → w.Stowed inventoryId

theorem carried_of_valid (h : Valid host w) : Carried w where
  players playerId player hplayer := by
    obtain ⟨inventory, hinventory, -, hdomain, -⟩ := (h.players playerId player hplayer).carries
    exact ⟨inventory, hinventory, hdomain⟩
  locked playerId lock hlock :=
    Option.ne_none_iff_exists'.mp (h.locks playerId lock hlock).present.2
  cargo blockId grid block inventoryId hblock hid := by
    obtain ⟨inventory, hinventory, hdomain⟩ := h.cargo blockId grid block inventoryId hblock hid
    refine ⟨inventory, hinventory, fun playerId => ?_⟩
    rw [hdomain]
    exact InventoryDomain.noConfusion

/-- The player carries this inventory. -/
def Carries (w : WorldState) (playerId inventoryId : String) : Prop :=
  ∃ player, w.player.byId.get? playerId = some player ∧ player.inventoryId = inventoryId

variable {playerId inventoryId : String}

/-- An inventory is carried by the player it names and nobody else. -/
theorem Carried.domain_of_carries (h : Carried w)
    (hcarries : w.Carries playerId inventoryId) :
    ∃ inventory, w.inventories.get? inventoryId = some inventory
      ∧ inventory.domain = .player playerId := by
  obtain ⟨player, hplayer, rfl⟩ := hcarries
  exact h.players playerId player hplayer

theorem Carried.eq_of_carries (h : Carried w) {playerId' : String}
    (hcarries : w.Carries playerId inventoryId) (hcarries' : w.Carries playerId' inventoryId) :
    playerId = playerId' := by
  obtain ⟨inventory, hinventory, hdomain⟩ := h.domain_of_carries hcarries
  obtain ⟨inventory', hinventory', hdomain'⟩ := h.domain_of_carries hcarries'
  obtain rfl := Option.mem_unique hinventory hinventory'
  exact InventoryDomain.player.inj (hdomain.symm.trans hdomain')

theorem Carried.not_carries_of_stowed (h : Carried w)
    (hstowed : w.Stowed inventoryId) : ¬ w.Carries playerId inventoryId := by
  intro hcarries
  obtain ⟨inventory, hinventory, hdomain⟩ := h.domain_of_carries hcarries
  obtain ⟨inventory', hinventory', hstowed⟩ := hstowed
  obtain rfl := Option.mem_unique hinventory hinventory'
  exact hstowed playerId hdomain

theorem Carried.not_carries_of_none (h : Carried w)
    (hnone : w.inventories.get? inventoryId = none) : ¬ w.Carries playerId inventoryId := by
  intro hcarries
  obtain ⟨inventory, hinventory, -⟩ := h.domain_of_carries hcarries
  rw [hnone] at hinventory
  cases hinventory

variable {grid : Grid}

variable {block : Block}

theorem cargoBlockForInventory_eq_some
    (h : w.cargoBlockForInventory inventoryId = some (grid, block)) :
    ∃ inventory blockId, w.inventories.get? inventoryId = some inventory
      ∧ inventory.domain = .cargo blockId ∧ w.blockGrid blockId = some (grid, block)
      ∧ block.inventoryId = some inventoryId := by
  unfold cargoBlockForInventory at h
  split at h
  case h_1 _ id blockId contents capacity hinventory =>
    cases hblock : w.blockGrid blockId with
    | none => simp [hblock] at h
    | some found =>
      obtain ⟨foundGrid, foundBlock⟩ := found
      simp only [hblock] at h
      split_ifs at h with hlinked
      cases h
      exact ⟨_, blockId, hinventory, rfl, hblock, hlinked.2.2⟩
  case h_2 => cases h

theorem stowed_of_cargoBlock
    (h : w.cargoBlockForInventory inventoryId ≠ none) : w.Stowed inventoryId := by
  obtain ⟨⟨grid, block⟩, hcargo⟩ := Option.ne_none_iff_exists'.mp h
  obtain ⟨inventory, blockId, hinventory, hdomain, -⟩ := cargoBlockForInventory_eq_some hcargo
  refine ⟨inventory, hinventory, fun playerId => ?_⟩
  rw [hdomain]
  exact InventoryDomain.noConfusion

theorem cargoBlock_of_route {machineId : String}
    (h : w.productionRouteExists machineId inventoryId) :
    w.cargoBlockForInventory inventoryId ≠ none := by
  intro hnone
  cases hmachine : w.blockGrid machineId <;> simp [productionRouteExists, hmachine, hnone] at h

/-! ## Leaving a share alone -/

/-- Nothing of a player's share differs. -/
structure Spares (playerId : String) (w w' : WorldState) : Prop where
  record : w'.player.byId.get? playerId = w.player.byId.get? playerId
  carried : ∀ inventoryId, w.Carries playerId inventoryId →
    w'.inventories.get? inventoryId = w.inventories.get? inventoryId
  history : w'.processedOperations.get? playerId = w.processedOperations.get? playerId
  lock : w'.playerTransferLocks.get? playerId = w.playerTransferLocks.get? playerId

theorem Spares.refl (playerId : String) (w : WorldState) : Spares playerId w w :=
  ⟨rfl, fun _ _ => rfl, rfl, rfl⟩

theorem Spares.carries (h : Spares playerId w w')
    (hcarries : w.Carries playerId inventoryId) : w'.Carries playerId inventoryId := by
  obtain ⟨player, hplayer, hid⟩ := hcarries
  exact ⟨player, h.record.trans hplayer, hid⟩

theorem Spares.trans (h₁ : Spares playerId w middle)
    (h₂ : Spares playerId middle w') : Spares playerId w w' where
  record := h₂.record.trans h₁.record
  carried inventoryId hcarries :=
    (h₂.carried inventoryId (h₁.carries hcarries)).trans (h₁.carried inventoryId hcarries)
  history := h₂.history.trans h₁.history
  lock := h₂.lock.trans h₁.lock

theorem Spares.cancel (h : Spares playerId w middle)
    (h' : Spares playerId w w') : Spares playerId middle w' where
  record := h'.record.trans h.record.symm
  carried inventoryId hcarries := by
    obtain ⟨player, hplayer, hid⟩ := hcarries
    have hcarries : w.Carries playerId inventoryId := ⟨player, h.record ▸ hplayer, hid⟩
    exact (h'.carried inventoryId hcarries).trans (h.carried inventoryId hcarries).symm
  history := h'.history.trans h.history.symm
  lock := h'.lock.trans h.lock.symm

/-- A write that keeps carried inventories carried and leaves the players in `S` alone. -/
structure Kept (S : String → Prop) (w w' : WorldState) : Prop where
  carried : Carried w'
  spares : ∀ playerId, S playerId → Spares playerId w w'

theorem Kept.refl (h : Carried w) : Kept S w w := ⟨h, fun playerId _ => .refl playerId w⟩

theorem Kept.andThen (h₁ : Kept S w middle) (h₂ : Carried middle → Kept S middle w') :
    Kept S w w' :=
  ⟨(h₂ h₁.carried).carried, fun playerId hS =>
    (h₁.spares playerId hS).trans ((h₂ h₁.carried).spares playerId hS)⟩

theorem Kept.of_eq (h : Carried w) (hplayer : w'.player = w.player) (hgrids : w'.grids = w.grids)
    (hinventories : w'.inventories = w.inventories)
    (hhistories : w'.processedOperations = w.processedOperations)
    (hlocks : w'.playerTransferLocks = w.playerTransferLocks) : Kept S w w' := by
  refine ⟨⟨?_, ?_, ?_⟩, fun playerId _ => ⟨?_, ?_, ?_, ?_⟩⟩
  · rw [hplayer, hinventories]
    exact h.players
  · rw [hplayer, hlocks]
    exact h.locked
  · simp only [Stowed, BlockIn, hgrids, hinventories]
    exact h.cargo
  · rw [hplayer]
  · intro inventoryId _
    rw [hinventories]
  · rw [hhistories]
  · rw [hlocks]

/-! ## The writes -/

variable {gridId blockId : String}

variable {block' : Block}

section writes

variable {playerId inventoryId : String}

variable (h : Carried w)

include h

theorem kept_withPlayer {player' : Player}
    (hplayer : w.player.byId.get? playerId = some player)
    (hid : player'.inventoryId = player.inventoryId) (hS : ¬ S playerId) :
    Kept S w (w.withPlayer playerId player') where
  carried := {
    players := by
      intro other record hrecord
      simp only [withPlayer, OrdMap.get?_insert] at hrecord
      split_ifs at hrecord with hother
      · subst hother
        cases hrecord
        obtain ⟨inventory, hinventory, hdomain⟩ := h.players other player hplayer
        exact ⟨inventory, hid ▸ hinventory, hdomain⟩
      · exact h.players other record hrecord
    locked := by
      intro other lock hlock
      simp only [withPlayer, OrdMap.get?_insert]
      split_ifs
      · exact ⟨player', rfl⟩
      · exact h.locked other lock hlock
    cargo := h.cargo }
  spares other hother := by
    have hne : other ≠ playerId := by
      rintro rfl
      exact hS hother
    exact ⟨OrdMap.get?_insert_ne hne, fun _ _ => rfl, rfl, rfl⟩

variable {contents : InventoryContents}

theorem kept_withContents
    (hS : ∀ playerId, S playerId → ¬ w.Carries playerId inventoryId) :
    Kept S w (w.withContents inventoryId contents) where
  carried := {
    players := by
      intro other record hrecord
      obtain ⟨inventory, hinventory, hdomain⟩ := h.players other record hrecord
      simp only [withContents, OrdMap.get?_modify]
      split_ifs with hsame
      · exact ⟨{ inventory with contents }, by simp [← hsame, hinventory], hdomain⟩
      · exact ⟨inventory, hinventory, hdomain⟩
    locked := h.locked
    cargo := by
      intro blockId grid block stowedId hblock hid
      obtain ⟨inventory, hinventory, hdomain⟩ := h.cargo blockId grid block stowedId hblock hid
      simp only [Stowed, withContents, OrdMap.get?_modify]
      split_ifs with hsame
      · exact ⟨{ inventory with contents }, by simp [← hsame, hinventory], hdomain⟩
      · exact ⟨inventory, hinventory, hdomain⟩ }
  spares other hother := by
    refine ⟨rfl, fun carriedId hcarries => ?_, rfl, rfl⟩
    have hne : carriedId ≠ inventoryId := by
      rintro rfl
      exact hS other hother hcarries
    simp [withContents, hne]

theorem kept_withCarriedContents
    (hplayer : w.player.byId.get? playerId = some player) (hS : ¬ S playerId) :
    Kept S w (w.withContents player.inventoryId contents) := by
  refine kept_withContents h fun other hother hcarries => hS ?_
  exact h.eq_of_carries ⟨player, hplayer, rfl⟩ hcarries ▸ hother

variable {inventory : InventoryRecord}

theorem kept_withInventory
    (hfree : ∀ playerId, ¬ w.Carries playerId inventoryId)
    (hdomain : w.Stowed inventoryId → ∀ playerId, inventory.domain ≠ .player playerId) :
    Kept S w (w.withInventory inventoryId inventory) where
  carried := {
    players := by
      intro other record hrecord
      have hne : record.inventoryId ≠ inventoryId := fun he => hfree other ⟨record, hrecord, he⟩
      simp only [withInventory, OrdMap.get?_insert_ne hne]
      exact h.players other record hrecord
    locked := h.locked
    cargo := by
      intro blockId grid block stowedId hblock hid
      have hstowed := h.cargo blockId grid block stowedId hblock hid
      by_cases hsame : stowedId = inventoryId
      · subst hsame
        exact ⟨inventory, OrdMap.get?_insert_self, hdomain hstowed⟩
      · obtain ⟨existing, hexisting, hother⟩ := hstowed
        exact ⟨existing, (OrdMap.get?_insert_ne hsame).trans hexisting, hother⟩ }
  spares other hother := by
    refine ⟨rfl, fun carriedId hcarries => ?_, rfl, rfl⟩
    have hne : carriedId ≠ inventoryId := by
      rintro rfl
      exact hfree other hcarries
    exact OrdMap.get?_insert_ne hne

theorem kept_withNewInventory
    (hfresh : w.inventories.get? inventoryId = none) :
    Kept S w (w.withInventory inventoryId inventory) := by
  refine kept_withInventory h (fun playerId => h.not_carries_of_none hfresh) ?_
  intro ⟨existing, hexisting, _⟩
  rw [hfresh] at hexisting
  cases hexisting

theorem kept_withGrids {grids : OrdMap String Grid}
    (hblocks : ∀ gridId grid blockId block inventoryId, grids.get? gridId = some grid →
      grid.blocks.get? blockId = some block → block.inventoryId = some inventoryId →
      w.Stowed inventoryId) :
    Kept S w { w with grids } where
  carried := {
    players := h.players
    locked := h.locked
    cargo := by
      intro blockId grid block inventoryId ⟨gridId, hgrid, hblock⟩ hid
      exact hblocks gridId grid blockId block inventoryId hgrid hblock hid }
  spares other _ := ⟨rfl, fun _ _ => rfl, rfl, rfl⟩

theorem kept_withGrid
    (hblocks : ∀ blockId block inventoryId, grid.blocks.get? blockId = some block →
      block.inventoryId = some inventoryId → w.Stowed inventoryId) :
    Kept S w (w.withGrid gridId grid) := by
  refine kept_withGrids h fun key other blockId block inventoryId hother hblock hid => ?_
  rw [OrdMap.get?_insert] at hother
  split_ifs at hother with hkey
  · cases hother
    exact hblocks blockId block inventoryId hblock hid
  · exact h.cargo blockId other block inventoryId ⟨key, hother, hblock⟩ hid

theorem kept_withBlock (hgrid : w.grids.get? gridId = some grid)
    (hblock : grid.blocks.get? blockId = some block)
    (hid : block'.inventoryId = block.inventoryId) :
    Kept S w (w.withGrid gridId { grid with blocks := grid.blocks.insert blockId block' }) := by
  refine kept_withGrid h fun key other inventoryId hget hlink => ?_
  rw [OrdMap.get?_insert] at hget
  split_ifs at hget
  · cases hget
    exact h.cargo blockId grid block inventoryId ⟨gridId, hgrid, hblock⟩ (hid ▸ hlink)
  · exact h.cargo key grid other inventoryId ⟨gridId, hgrid, hget⟩ hlink

theorem kept_withHistory {history} (hS : ¬ S playerId) :
    Kept S w (w.withHistory playerId history) where
  carried := ⟨h.players, h.locked, h.cargo⟩
  spares other hother := by
    have hne : other ≠ playerId := by
      rintro rfl
      exact hS hother
    exact ⟨rfl, fun _ _ => rfl, OrdMap.get?_insert_ne hne, rfl⟩

theorem kept_withLock {lock} (hplayer : w.player.byId.get? playerId = some player)
    (hS : ¬ S playerId) :
    Kept S w (w.withLock playerId lock) where
  carried := {
    players := h.players
    locked := by
      intro other existing hlock
      simp only [withLock, OrdMap.get?_insert] at hlock
      split_ifs at hlock with hother
      · exact ⟨player, hother ▸ hplayer⟩
      · exact h.locked other existing hlock
    cargo := h.cargo }
  spares other hother := by
    have hne : other ≠ playerId := by
      rintro rfl
      exact hS hother
    exact ⟨rfl, fun _ _ => rfl, rfl, OrdMap.get?_insert_ne hne⟩

theorem kept_withoutLock (hS : ¬ S playerId) :
    Kept S w (w.withoutLock playerId) where
  carried := {
    players := h.players
    locked := by
      intro other existing hlock
      simp only [withoutLock, OrdMap.get?_erase] at hlock
      split_ifs at hlock
      exact h.locked other existing hlock
    cargo := h.cargo }
  spares other hother := by
    have hne : other ≠ playerId := by
      rintro rfl
      exact hS hother
    exact ⟨rfl, fun _ _ => rfl, rfl, by simp [withoutLock, hne]⟩

variable {package : PlayerTransferPackage}

theorem kept_withoutSubject
    (hplayer : w.player.byId.get? package.aggregateId = some player)
    (hid : package.inventory.inventoryId = player.inventoryId) (hS : ¬ S package.aggregateId) :
    Kept S w (withoutSubject w package) where
  carried := {
    players := by
      intro other record hrecord
      simp only [withoutSubject, OrdMap.get?_erase] at hrecord
      split_ifs at hrecord with hother
      have hne : record.inventoryId ≠ package.inventory.inventoryId := fun he =>
        hother (h.eq_of_carries ⟨record, hrecord, he⟩ ⟨player, hplayer, hid.symm⟩)
      simp only [withoutSubject, OrdMap.get?_erase, if_neg hne]
      exact h.players other record hrecord
    locked := by
      intro other lock hlock
      simp only [withoutSubject, OrdMap.get?_erase] at hlock ⊢
      split_ifs at hlock ⊢
      exact h.locked other lock hlock
    cargo := by
      intro blockId grid block stowedId hblock hstowed
      have hstowed := h.cargo blockId grid block stowedId hblock hstowed
      have hne : stowedId ≠ package.inventory.inventoryId := by
        rintro rfl
        exact h.not_carries_of_stowed hstowed ⟨player, hplayer, hid.symm⟩
      simpa only [Stowed, withoutSubject, OrdMap.get?_erase, if_neg hne] using hstowed }
  spares other hother := by
    have hne : other ≠ package.aggregateId := by
      rintro rfl
      exact hS hother
    refine ⟨by simp [withoutSubject, hne], fun carriedId hcarries => ?_,
      by simp [withoutSubject, hne], by simp [withoutSubject, hne]⟩
    have hapart : carriedId ≠ package.inventory.inventoryId := by
      rintro rfl
      exact hne (h.eq_of_carries hcarries ⟨player, hplayer, hid.symm⟩)
    simp [withoutSubject, hapart]

theorem kept_withSubject
    (hlacks : lacksSubject w package)
    (hid : package.destinationPlayer.inventoryId = package.inventory.inventoryId)
    (hdomain : package.inventory.domain = .player package.aggregateId)
    (hS : ¬ S package.aggregateId) : Kept S w (withSubject w package) := by
  obtain ⟨-, hfresh, -⟩ := hlacks
  refine ⟨⟨?_, ?_, ?_⟩, ?_⟩
  · intro other record hrecord
    simp only [withSubject, OrdMap.get?_insert] at hrecord ⊢
    split_ifs at hrecord with hother
    · cases hrecord
      exact ⟨package.inventory, by simp [hid], hother ▸ hdomain⟩
    · have hne : record.inventoryId ≠ package.inventory.inventoryId := fun he =>
        h.not_carries_of_none hfresh ⟨record, hrecord, he⟩
      rw [if_neg hne]
      exact h.players other record hrecord
  · intro other lock hlock
    simp only [withSubject, OrdMap.get?_insert]
    split_ifs
    · exact ⟨_, rfl⟩
    · exact h.locked other lock hlock
  · intro blockId grid block stowedId hblock hstowed
    obtain ⟨inventory, hinventory, hother⟩ := h.cargo blockId grid block stowedId hblock hstowed
    have hne : stowedId ≠ package.inventory.inventoryId := by
      rintro rfl
      rw [hfresh] at hinventory
      cases hinventory
    exact ⟨inventory, (OrdMap.get?_insert_ne hne).trans hinventory, hother⟩
  · intro other hother
    have hne : other ≠ package.aggregateId := by
      rintro rfl
      exact hS hother
    refine ⟨OrdMap.get?_insert_ne hne, fun carriedId hcarries => ?_, ?_, rfl⟩
    · refine OrdMap.get?_insert_ne ?_
      rintro rfl
      exact h.not_carries_of_none hfresh hcarries
    · unfold withSubject
      cases package.operationHistory with
      | none => rfl
      | some history => exact OrdMap.get?_insert_ne hne

omit h

end writes

/-! ## Machine work -/

/-- The plan finishes a job. -/
def Finishes (outcome : ProductionMachineOutcome) : Prop :=
  outcome.kind = .completed ∨ outcome.kind = .completedAndDelivered

instance (outcome : ProductionMachineOutcome) : Decidable (Finishes outcome) :=
  inferInstanceAs (Decidable (_ ∨ _))

/-- A finished job of a plan pays this player: the player owns the head of that machine's queue
    and the counters it adds to are not full. -/
def Pays (w : WorldState) (outcome : ProductionMachineOutcome) (playerId : String) : Prop :=
  Finishes outcome ∧ ∃ job player, w.queueHead outcome.machineBlockId = some job
    ∧ job.ownerPlayerId = playerId ∧ w.player.byId.get? playerId = some player
    ∧ ¬ player.Saturated job

theorem withPlayer_self
    (h : w.player.byId.get? playerId = some player) : w.withPlayer playerId player = w := by
  have hsame : w.player.byId.insert playerId player = w.player.byId := by
    ext key : 1
    rw [OrdMap.get?_insert]
    split_ifs with hkey
    · rw [hkey, h]
    · rfl
  rw [withPlayer, hsame]

variable {outcome : ProductionMachineOutcome}

theorem kept_credited (h : Carried w)
    {owner : Player} (ledger : Ledger) (hfinishes : Finishes outcome)
    (hhead : w.queueHead outcome.machineBlockId = some job)
    (howner : w.player.byId.get? job.ownerPlayerId = some owner)
    (hS : ∀ playerId, S playerId → ¬ w.Pays outcome playerId) :
    Kept S w ({ w with ledger }.withPlayer job.ownerPlayerId (owner.creditCompletion job)) := by
  have hledger : Kept S w { w with ledger } := .of_eq h rfl rfl rfl rfl rfl
  refine hledger.andThen fun hcarried => ?_
  by_cases hfull : owner.Saturated job
  · rw [hfull.creditCompletion, withPlayer_self (w := { w with ledger }) howner]
    exact .refl hcarried
  · refine kept_withPlayer hcarried howner ?_ fun hin => hS _ hin
      ⟨hfinishes, job, owner, hhead, rfl, howner, hfull⟩
    unfold Player.creditCompletion
    cases job.recipe <;> rfl

theorem Kept.withQueues (h : Kept S w middle) {queues} :
    Kept S w { middle with productionQueues := queues } :=
  h.andThen fun h' => .of_eq h' rfl rfl rfl rfl rfl

variable {machineId : String}

theorem Kept.popped (h : Kept S w middle) :
    Kept S w (middle.popProductionQueueHead machineId) := by
  rw [popProductionQueueHead_eq]
  exact h.withQueues

theorem Work.kept (h : Carried w)
    (work : Work host w machineId outcome w')
    (hS : ∀ playerId, S playerId → ¬ w.Pays outcome playerId) : Kept S w w' := by
  -- What a machine delivers to is at the end of a route.
  have hroute : ∀ {job}, Working host w machineId job →
      w.Stowed job.destinationInventoryId := by
    intro job ⟨_, grid, machine, _, hrunning⟩
    exact stowed_of_cargoBlock (cargoBlock_of_route hrunning.destination)
  cases work with
  | idle => exact .refl h
  | advanced => exact (Kept.refl h).withQueues
  | @completed job owner inputs ticks hkind hmachine hworking hprogress hquantities howner =>
    have hhead := hmachine ▸ hworking.1
    exact (kept_credited h (w.ledger.completed job) (.inl hkind) hhead howner hS).withQueues
  | @completedAndDelivered job owner inputs ticks destination hkind hmachine hworking hprogress
      hquantities howner =>
    have hhead := hmachine ▸ hworking.1
    have hpaid := kept_credited h (w.ledger.completed job) (.inr hkind) hhead howner hS
    refine .popped (hpaid.andThen fun h' => ?_)
    exact kept_withContents h' fun playerId _ => h'.not_carries_of_stowed (hroute hworking)
  | outputDelivered hkind hmachine hworking =>
    exact .popped (kept_withContents h fun playerId _ => h.not_carries_of_stowed (hroute hworking))

variable {other : String}

theorem Work.queue_ne
    (work : Work host w machineId outcome w') (hne : other ≠ machineId) :
    w'.productionQueues.get? other = w.productionQueues.get? other := by
  have hpop : ∀ {v : WorldState} {job}, v.queueHead machineId = some job →
      (v.popProductionQueueHead machineId).productionQueues.get? other
        = v.productionQueues.get? other := by
    intro v job hhead
    obtain ⟨rest, hqueue⟩ := queueHead_eq_some.mp hhead
    rw [get?_popProductionQueueHead hqueue, if_neg hne]
  cases work with
  | idle => rfl
  | advanced => simp [withQueueHead, hne]
  | completed => simp [withQueueHead, withPlayer, hne]
  | completedAndDelivered hkind hmachine hworking | outputDelivered hkind hmachine hworking =>
    exact hpop hworking.1

theorem Work.queueHead_ne
    (work : Work host w machineId outcome w') (hne : other ≠ machineId) :
    w'.queueHead other = w.queueHead other := by
  rw [queueHead, queueHead, work.queue_ne hne]

variable {outcomes : List ProductionMachineOutcome} {machines : List String}

theorem Works.queue_ne
    (works : Works host w machines outcomes w') (hother : other ∉ machines) :
    w'.productionQueues.get? other = w.productionQueues.get? other := by
  induction works with
  | done => rfl
  | step work works ih =>
    rw [List.mem_cons, not_or] at hother
    rw [ih hother.2, work.queue_ne hother.1]

theorem Work.outcome_machine
    (work : Work host w machineId outcome w') : outcome.machineBlockId = machineId := by
  cases work <;> assumption

theorem Works.outcome_machines (works : Works host w machines outcomes w') :
    outcomes.map ProductionMachineOutcome.machineBlockId = machines := by
  induction works with
  | done => rfl
  | step work works ih => rw [List.map_cons, work.outcome_machine, ih]

/-- Whom the rest of a plan pays is decided before the first machine works. -/
theorem Work.pays_iff
    {later : ProductionMachineOutcome} (work : Work host w machineId outcome w')
    (hspares : Spares playerId w w') (hlater : later.machineBlockId ≠ machineId) :
    w'.Pays later playerId ↔ w.Pays later playerId := by
  unfold Pays
  rw [work.queueHead_ne hlater, hspares.record]

theorem Works.kept
    (h : Carried w) (works : Works host w machines outcomes w') (hnodup : machines.Nodup)
    (hS : ∀ playerId, S playerId → ∀ outcome ∈ outcomes, ¬ w.Pays outcome playerId) :
    Kept S w w' := by
  induction works with
  | done => exact .refl h
  | @step w middle w'' machineId outcome machines outcomes work works ih =>
    obtain ⟨hfirst, hrest⟩ := List.nodup_cons.mp hnodup
    have hkept : Kept S w middle := work.kept h fun playerId hin =>
      hS playerId hin outcome List.mem_cons_self
    refine hkept.andThen fun hcarried => ih hcarried hrest fun playerId hin later hmem => ?_
    rw [work.pays_iff (hkept.spares playerId hin)]
    · exact hS playerId hin later (List.mem_cons_of_mem _ hmem)
    · intro he
      rw [← works.outcome_machines, ← he] at hfirst
      exact hfirst (List.mem_map_of_mem hmem)

theorem Work.roster (work : Work host w machineId outcome w') :
    (¬ Finishes outcome ∧ w'.player.byId = w.player.byId)
      ∨ ∃ job owner, Finishes outcome ∧ w.queueHead machineId = some job
        ∧ 0 < job.batches ∧ w.player.byId.get? job.ownerPlayerId = some owner
        ∧ w'.player.byId
          = w.player.byId.insert job.ownerPlayerId (owner.creditCompletion job) := by
  have hpop : ∀ {v : WorldState}, (v.popProductionQueueHead machineId).player = v.player := by
    intro v
    rw [popProductionQueueHead_eq]
  cases work with
  | idle hidle =>
    refine .inl ⟨?_, rfl⟩
    rintro (hkind | hkind) <;> simp [ProductionMachineOutcome.changesState, hkind] at hidle
  | advanced hkind => exact .inl ⟨by simp [Finishes, hkind], rfl⟩
  | @completed job owner inputs ticks hkind hmachine hworking hprogress hquantities howner =>
    exact .inr ⟨job, owner, .inl hkind, hworking.1, batches_pos_of_quantities hquantities, howner,
      rfl⟩
  | @completedAndDelivered job owner inputs ticks destination hkind hmachine hworking hprogress
      hquantities howner =>
    exact .inr ⟨job, owner, .inr hkind, hworking.1, batches_pos_of_quantities hquantities, howner,
      by rw [hpop]; rfl⟩
  | outputDelivered hkind => exact .inl ⟨by simp [Finishes, hkind], by rw [hpop]; rfl⟩

theorem Works.gained
    (works : Works host w machines outcomes w')
    (hplayer : w.player.byId.get? playerId = some player) (hgained : before.Gained player) :
    ∃ player', w'.player.byId.get? playerId = some player' ∧ before.Gained player' := by
  induction works generalizing player with
  | done => exact ⟨player, hplayer, hgained⟩
  | step work works ih =>
    rcases work.roster with ⟨-, heq⟩ | ⟨job, owner, -, -, -, howner, heq⟩
    · exact ih (heq ▸ hplayer) hgained
    · by_cases hsame : playerId = job.ownerPlayerId
      · subst hsame
        obtain rfl := Option.mem_unique hplayer howner
        exact ih (by rw [heq, OrdMap.get?_insert_self]) (hgained.creditCompletion job)
      · exact ih (by rw [heq, OrdMap.get?_insert_ne hsame, hplayer]) hgained

theorem Works.pays (h : Carried w)
    (works : Works host w machines outcomes w') (hnodup : machines.Nodup)
    (hplayer : w.player.byId.get? playerId = some player) (hmem : outcome ∈ outcomes)
    (hpays : w.Pays outcome playerId) :
    ∃ player', w'.player.byId.get? playerId = some player' ∧ player.Gained player' := by
  induction works with
  | done => cases hmem
  | @step w middle w'' machineId first machines outcomes work works ih =>
    obtain ⟨hfirst, hrest⟩ := List.nodup_cons.mp hnodup
    by_cases hpaid : w.Pays first playerId
    · obtain ⟨hfinishes, job, owner, hhead, rfl, howner, hfull⟩ := hpaid
      rw [work.outcome_machine] at hhead
      obtain rfl := Option.mem_unique hplayer howner
      rcases work.roster with ⟨hnot, -⟩ | ⟨job', owner', -, hhead', hbatches, howner', heq⟩
      · exact absurd hfinishes hnot
      · obtain rfl := Option.mem_unique hhead hhead'
        obtain rfl := Option.mem_unique howner howner'
        exact works.gained (by rw [heq, OrdMap.get?_insert_self])
          (Player.gained_creditCompletion hbatches hfull)
    · have hkept : Kept (· = playerId) w middle := work.kept h fun other hother => by
        rw [hother]
        exact hpaid
      have hspares := hkept.spares playerId rfl
      rcases List.mem_cons.mp hmem with rfl | hlater
      · exact absurd hpays hpaid
      · refine ih hkept.carried hrest (hspares.record.trans hplayer) hlater ?_
        rw [work.pays_iff hspares]
        · exact hpays
        · intro he
          rw [← works.outcome_machines, ← he] at hfirst
          exact hfirst (List.mem_map_of_mem hlater)

/-! ## Damage -/

variable {eventSequence : Nat}

theorem blockIn_of_shattered {key blockId' : String} {fragment : Grid}
    (hgrid : w.grids.get? gridId = some grid)
    (hfragment : (w.shattered host gridId (remains grid blockId) eventSequence).get? key
      = some fragment)
    (hblock : fragment.blocks.get? blockId' = some block') :
    ∃ whole, w.BlockIn blockId' whole block' := by
  unfold shattered at hfragment
  rw [← List.foldl_map (f := fun fragment : Grid => (fragment.gridId, fragment))
    (g := fun grids p => OrdMap.insert grids p.1 p.2)] at hfragment
  rcases OrdMap.of_get?_foldl_insert hfragment with hmem | hother
  · obtain ⟨split, hsplit, heq⟩ := List.mem_map.mp hmem
    cases heq
    obtain ⟨index, component, rfl⟩ := Grid.of_mem_fragments hsplit
    rcases OrdMap.of_get?_foldl_insert hblock with hentry | hnone
    · obtain ⟨coordinate, -, hentry⟩ := List.mem_filterMap.mp hentry
      simp only [Option.bind_eq_some_iff, Option.map_eq_some_iff, Prod.mk.injEq] at hentry
      obtain ⟨_, -, _, hkept, rfl, rfl⟩ := hentry
      simp only [remains, OrdMap.get?_erase] at hkept
      split_ifs at hkept
      exact ⟨grid, gridId, hgrid, hkept⟩
    · cases hnone
  · rw [OrdMap.get?_erase] at hother
    split_ifs at hother
    exact ⟨fragment, key, hother, hblock⟩

/-- The record of a removed block's cargo stays and is sealed. -/
theorem kept_dropCargo (h : Carried w) {ownerPlayerId : String}
    (hstowed : ∀ inventoryId, block.inventoryId = some inventoryId → w.Stowed inventoryId) :
    Kept S w (w.dropCargo block ownerPlayerId) := by
  unfold dropCargo
  cases hid : block.inventoryId with
  | none => exact .refl h
  | some inventoryId =>
    obtain ⟨inventory, hinventory, hdomain⟩ := hstowed inventoryId hid
    simp only [OrdMap.modify, hinventory]
    refine kept_withInventory h (fun playerId => ?_) fun _ playerId => InventoryDomain.noConfusion
    exact h.not_carries_of_stowed ⟨inventory, hinventory, hdomain⟩

theorem kept_wrecked (h : Carried w)
    (hgrid : w.grids.get? gridId = some grid)
    (hblock : grid.blocks.get? blockId = some block) :
    Kept S w (w.wrecked host gridId grid blockId block eventSequence) := by
  have hdropped : Kept S w (w.dropCargo block grid.ownerPlayerId) :=
    kept_dropCargo h fun inventoryId hid =>
      h.cargo blockId grid block inventoryId ⟨gridId, hgrid, hblock⟩ hid
  have hgrids : Kept S w { w.dropCargo block grid.ownerPlayerId with
      grids := w.shattered host gridId (remains grid blockId) eventSequence } := by
    refine hdropped.andThen fun h' => kept_withGrids h' ?_
    intro key fragment blockId' block' inventoryId hget hblock' hid
    obtain ⟨whole, gridId', hwhole⟩ := blockIn_of_shattered hgrid hget hblock'
    refine h'.cargo blockId' whole block' inventoryId ⟨gridId', ?_⟩ hid
    rwa [dropCargo_grids]
  rw [wrecked_eq]
  exact hgrids.andThen fun h' => .of_eq h' rfl rfl rfl rfl rfl

theorem Damaged.kept (h : Carried w) {damage : Nat}
    (damaged : Damaged host w gridId blockId damage eventSequence w') : Kept S w w' := by
  cases damaged with
  | hurt hgrid hblock hhealth => exact kept_withBlock h hgrid hblock rfl
  | destroyed hgrid hblock => exact kept_wrecked h hgrid hblock
  | destroyedMachine hgrid hblock hqueue hcontents hdrop =>
    refine Kept.andThen ?_ fun h' => kept_withNewInventory h' (get?_broken_eq_none.mpr hdrop)
    exact (kept_wrecked h hgrid hblock).withQueues

end WorldState
end Verse
