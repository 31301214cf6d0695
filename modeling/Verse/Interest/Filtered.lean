import Verse.Interest.Source
import Verse.World.Valid

/-!
# What belongs to one player

A source collects the private state of a player for every entity there is, and each session is
given the part of it whose public side it sees. `filteredActorPrivate_eq` says that the part is
what collecting for the visible entities alone would have given, and `belongs_of_actorPrivate`
that whatever is collected is the player's own.
-/

namespace Verse.Interest

open Lib
open WorldState (BlockIn BlocksApart)

variable {survey : Surveying} {w : WorldState}

/-! ## Records in order -/

theorem pairwise_values {α : Type} {m : OrdMap String α} {name : α → String}
    (hfiled : ∀ key value, m.get? key = some value → key = name value) :
    m.values.Pairwise fun left right => name left ≤ name right := by
  have hkeys := m.keys_sorted
  rw [OrdMap.keys, List.pairwise_map] at hkeys
  rw [OrdMap.values, List.pairwise_map]
  refine hkeys.imp_of_mem fun {a b} ha hb hlt => ?_
  rw [← hfiled a.1 a.2 (OrdMap.mem_entries.mp ha), ← hfiled b.1 b.2 (OrdMap.mem_entries.mp hb)]
  exact hlt.le

theorem pairwise_grids (hvalid : Valid survey.host w) : w.grids.values.Pairwise
    fun left right => left.gridId ≤ right.gridId :=
  pairwise_values fun gridId grid hgrid => (hvalid.grids gridId grid hgrid).filed

theorem pairwise_drops (hvalid : Valid survey.host w) : w.deathDrops.values.Pairwise
    fun left right => left.dropId ≤ right.dropId :=
  pairwise_values fun dropId drop hdrop => (hvalid.drops dropId drop hdrop).filed

theorem pairwise_inventories (hvalid : Valid survey.host w) : w.inventories.values.Pairwise
    fun left right => left.inventoryId ≤ right.inventoryId :=
  pairwise_values fun inventoryId inventory hinventory =>
    (hvalid.inventories inventoryId inventory hinventory).filed

theorem gridSnapshots_eq (hvalid : Valid survey.host w) : gridSnapshots w = w.grids.values :=
  (pairwise_grids hvalid).insertionSort_eq

variable {grid : Grid}

theorem mem_gridSnapshots :
    grid ∈ gridSnapshots w ↔ ∃ gridId, w.grids.get? gridId = some grid := by
  rw [gridSnapshots, sortByName, List.mem_insertionSort, OrdMap.mem_values]

theorem sortByName_map_filter {α β : Type} {l : List α} {name : α → String} {name' : β → String}
    {f : α → β} (p : α → Bool) (hname : ∀ a, name' (f a) = name a)
    (hl : l.Pairwise fun left right => name left ≤ name right) :
    sortByName name' ((l.filter p).map f) = (l.filter p).map f := by
  refine List.Pairwise.insertionSort_eq ?_
  rw [List.pairwise_map]
  refine (hl.filter p).imp fun h => ?_
  rwa [hname, hname]

theorem playerId_eq (hvalid : Valid survey.host w) {playerId : String} {player : Player}
    (hplayer : w.player.byId.get? playerId = some player) : playerId = player.playerId := by
  have hroster := hvalid.roster
  unfold PlayerRoster.validate at hroster
  split at hroster
  case isTrue hempty => simp [hempty.2] at hplayer
  case isFalse =>
    simp only [bind_eq_ok, rejectIf_eq_ok, not_exists, not_and, not_not] at hroster
    obtain ⟨_, -, hall⟩ := hroster
    exact hall _ (OrdMap.mem_entries.mpr hplayer)

/-! ## Owners -/

variable {blockId inventoryId : String}

/-- The cargo of a block belongs to the owner of its grid. -/
theorem inventoryOwnerPlayerId_cargo (hapart : w.BlocksApart) {block : Block} {inventory}
    (hblock : w.BlockIn blockId grid block) (hlink : block.inventoryId = some inventoryId)
    (hinventory : w.inventories.get? inventoryId = some inventory)
    (hdomain : inventory.domain = .cargo blockId) :
    w.inventoryOwnerPlayerId inventoryId = .ok grid.ownerPlayerId := by
  obtain ⟨gridId, hgrid, hget⟩ := hblock
  have honly : (w.grids.values.filterMap fun grid =>
      (grid.blocks.get? blockId).map fun block => (grid, block)) = [(grid, block)] := by
    have hperm := (OrdMap.perm_cons_erase hgrid).filterMap fun entry =>
      (entry.2.blocks.get? blockId).map fun block => (entry.2, block)
    rw [List.filterMap_cons_some (b := (grid, block)) (by simp [hget])] at hperm
    have hrest : ((w.grids.erase gridId).entries.filterMap fun entry =>
        (entry.2.blocks.get? blockId).map fun block => (entry.2, block)) = [] := by
      rw [List.filterMap_eq_nil_iff]
      rintro ⟨otherId, other⟩ hmem
      have hother := OrdMap.mem_entries.mp hmem
      rw [OrdMap.get?_erase] at hother
      split_ifs at hother with hne
      cases hfound : other.blocks.get? blockId with
      | none => rfl
      | some found => exact absurd (hapart _ _ _ _ _ _ _ hother hgrid hfound hget) hne
    rw [hrest] at hperm
    rw [OrdMap.values, List.filterMap_map]
    exact List.perm_singleton.mp hperm
  obtain ⟨_, _, _, _⟩ := inventory
  cases hdomain
  rw [WorldState.inventoryOwnerPlayerId, hinventory]
  simp only [demand_some, bind_eq_ok]
  refine ⟨_, rfl, ?_⟩
  simp [honly, hlink, rejectIf]

/-- Blocks that are apart are found under their grids. -/
theorem get?_blockGrids (hvalid : Valid survey.host w) {gridId : String} :
    (blockGrids w).get? blockId = some gridId ↔
      ∃ grid block, w.BlockIn blockId grid block ∧ grid.gridId = gridId := by
  have hmem : ∀ b g, (b, g) ∈ ((gridSnapshots w).flatMap fun grid =>
      grid.blocks.values.map fun block => (block.blockId, grid.gridId)) ↔
      ∃ grid block, w.BlockIn b grid block ∧ grid.gridId = g := by
    intro b g
    simp only [List.mem_flatMap, List.mem_map, mem_gridSnapshots, OrdMap.mem_values, Prod.mk.injEq]
    constructor
    · rintro ⟨grid, ⟨key, hgrid⟩, block, ⟨b', hblock⟩, rfl, rfl⟩
      have hfiled := ((hvalid.grids key grid hgrid).blocks b' block hblock).filed
      exact ⟨grid, block, ⟨key, hgrid, hfiled ▸ hblock⟩, rfl⟩
    · rintro ⟨grid, block, ⟨key, hgrid, hblock⟩, rfl⟩
      have hfiled := ((hvalid.grids key grid hgrid).blocks b block hblock).filed
      exact ⟨grid, ⟨key, hgrid⟩, block, ⟨b, hblock⟩, hfiled.symm, rfl⟩
  rw [blockGrids, OrdMap.get?_ofList, hmem]
  rintro ⟨b, g⟩ hp ⟨b', g'⟩ hq (rfl : b = b')
  obtain ⟨grid, block, hblock, rfl⟩ := (hmem b g).mp hp
  obtain ⟨grid', block', hblock', rfl⟩ := (hmem b g').mp hq
  obtain ⟨rfl, -⟩ := hvalid.blocksApart.unique hblock hblock'
  rfl

/-! ## The visible part -/

/-- Every grid and every drop is among these entities. -/
structure Covers (w : WorldState) (entities : List EntityKey) : Prop where
  grids : ∀ grid ∈ gridSnapshots w, toLex (grid.gridId, .grid) ∈ entities
  drops : ∀ drop ∈ w.deathDrops.values, toLex (drop.dropId, .deathDrop) ∈ entities

variable {actor : String} {visible everything : List EntityKey}

theorem ownGrids_eq_filter (hall : Covers w everything) (visible : List EntityKey) :
    ownGrids w actor visible = (ownGrids w actor everything).filter fun grid =>
      decide (toLex (grid.gridId, .grid) ∈ visible) := by
  rw [ownGrids, ownGrids, List.filter_filter]
  refine List.filter_congr fun grid hmem => ?_
  rw [decide_eq_true (hall.grids grid hmem), Bool.and_true, Bool.and_comm]

theorem ownDrops_eq_filter (hall : Covers w everything) (visible : List EntityKey) :
    ownDrops w actor visible = (ownDrops w actor everything).filter fun drop =>
      decide (toLex (drop.dropId, .deathDrop) ∈ visible) := by
  rw [ownDrops, ownDrops, List.filter_filter]
  refine List.filter_congr fun drop hmem => ?_
  rw [decide_eq_true (hall.drops drop hmem), Bool.and_true, Bool.and_comm]

theorem mem_ownBlockIds (hvalid : Valid survey.host w) :
    blockId ∈ ownBlockIds w actor visible ↔
      ∃ grid block, w.BlockIn blockId grid block ∧ grid.ownerPlayerId = actor
        ∧ toLex (grid.gridId, .grid) ∈ visible := by
  simp only [ownBlockIds, ownGrids, List.mem_flatMap, List.mem_filter, List.mem_map,
    mem_gridSnapshots, OrdMap.mem_values, Bool.and_eq_true, beq_iff_eq, decide_eq_true_eq]
  constructor
  · rintro ⟨grid, ⟨⟨key, hgrid⟩, howner, hvisible⟩, block, ⟨blockId', hblock⟩, rfl⟩
    have hfiled := ((hvalid.grids key grid hgrid).blocks blockId' block hblock).filed
    exact ⟨grid, block, ⟨key, hgrid, hfiled ▸ hblock⟩, howner, hvisible⟩
  · rintro ⟨grid, block, ⟨key, hgrid, hblock⟩, howner, hvisible⟩
    have hfiled := ((hvalid.grids key grid hgrid).blocks blockId block hblock).filed
    exact ⟨grid, ⟨⟨key, hgrid⟩, howner, hvisible⟩, block, ⟨blockId, hblock⟩, hfiled.symm⟩

theorem contains_ownBlockIds (hvalid : Valid survey.host w) (hall : Covers w everything)
    (visible : List EntityKey) (blockId : String) : (ownBlockIds w actor visible).contains blockId =
      ((ownBlockIds w actor everything).contains blockId &&
        ((blockGrids w).get? blockId).any fun gridId =>
          decide (toLex (gridId, .grid) ∈ visible)) := by
  rw [Bool.eq_iff_iff]
  simp only [List.contains_iff_mem, mem_ownBlockIds hvalid, Bool.and_eq_true, Option.any_eq_true,
    get?_blockGrids hvalid, decide_eq_true_eq]
  constructor
  · rintro ⟨grid, block, hblock, howner, hvisible⟩
    obtain ⟨key, hgrid, -⟩ := id hblock
    have hcovered := hall.grids grid (mem_gridSnapshots.mpr ⟨key, hgrid⟩)
    exact ⟨⟨grid, block, hblock, howner, hcovered⟩, grid.gridId, ⟨grid, block, hblock, rfl⟩,
      hvisible⟩
  · rintro ⟨⟨grid, block, hblock, howner, -⟩, _, ⟨grid', block', hblock', rfl⟩, hvisible⟩
    obtain ⟨rfl, -⟩ := hvalid.blocksApart.unique hblock hblock'
    exact ⟨grid, block, hblock, howner, hvisible⟩

variable {owners : OrdMap String String} {canonical : CanonicalSnapshot}
   {private' : ActorPrivateSnapshot}

/-- The part of a private state that stays when only the visible entities are left. -/
theorem actorPrivate_eq_ok (hvalid : Valid survey.host w) :
    actorPrivate survey w actor canonical owners visible = .ok private' ↔
      ∃ player, canonical.players.find? (fun player => player.playerId == actor) = some player
        ∧ private' = {
            player := player
            committedOperationSequence := w.lastOperationSequence actor
            inventories := (w.inventories.values.filter
              (showsInventory w actor owners visible)).map inventorySnapshot
            deathDrops := (ownDrops w actor visible).map deathDropSnapshot
            ownedGridMasses := (ownGrids w actor visible).map fun grid =>
              ⟨grid.gridId, survey.massKg (w.gridMassGrams grid)⟩
            productionQueues := (w.productionQueues.entries.filter fun entry =>
              (ownBlockIds w actor visible).contains entry.1).filterMap
                (productionQueueSnapshot survey.host w actor) } := by
  have hinventories : sortByName InventorySnapshot.inventoryId _ = _ :=
    sortByName_map_filter (f := inventorySnapshot) (showsInventory w actor owners visible)
      (fun _ => rfl) (pairwise_inventories hvalid)
  have hdrops : sortByName DeathDropSnapshot.dropId _ = _ :=
    sortByName_map_filter (f := deathDropSnapshot) (fun drop => drop.ownerPlayerId == actor &&
      decide (toLex (drop.dropId, .deathDrop) ∈ visible)) (fun _ => rfl) (pairwise_drops hvalid)
  have hgrids : sortByName OwnedGridMassSnapshot.gridId _ = _ :=
    sortByName_map_filter
      (f := fun grid => ⟨grid.gridId, survey.massKg (w.gridMassGrams grid)⟩)
      (fun grid => grid.ownerPlayerId == actor && decide (toLex (grid.gridId, .grid) ∈ visible))
      (fun _ => rfl) (pairwise_grids hvalid)
  rw [← gridSnapshots_eq hvalid] at hgrids
  simp only [actorPrivate, bind_eq_ok, demand_eq_ok, pure_eq_ok]
  refine exists_congr fun player => and_congr_right fun _ => ?_
  rw [hinventories, ownDrops, hdrops, ownGrids, hgrids, eq_comm]

theorem actorPrivate_eq_error
    (habsent : canonical.players.find? (fun player => player.playerId == actor) = none) :
    actorPrivate survey w actor canonical owners visible = .error (.unboundActor actor) := by
  rw [actorPrivate, habsent]
  rfl

theorem playerId_of_actorPrivate
    (h : actorPrivate survey w actor canonical owners visible = .ok private') :
    private'.player.playerId = actor := by
  simp only [actorPrivate, bind_eq_ok, demand_eq_ok, pure_eq_ok] at h
  obtain ⟨player, hfind, rfl⟩ := h
  simpa using List.find?_some hfind

/-- What an inventory is in, among what is shown of it for everything, decides whether it stays. -/
theorem showsInventory_eq (hvalid : Valid survey.host w) (hall : Covers w everything)
    (owners : OrdMap String String) (visible : List EntityKey) (inventory : InventoryRecord) :
    showsInventory w actor owners visible inventory =
      (showsInventory w actor owners everything inventory && match inventory.domain with
        | .player playerId => playerId == actor
        | .cargo blockId => ((blockGrids w).get? blockId).any fun gridId =>
          decide (toLex (gridId, .grid) ∈ visible)
        | .dropped _ _ => (ownDrops w actor visible).any fun drop =>
          drop.inventoryId == inventory.inventoryId) := by
  rw [showsInventory, showsInventory, Bool.and_assoc]
  congr 1
  cases inventory.domain with
  | player playerId => rw [Bool.and_self]
  | cargo blockId => exact contains_ownBlockIds hvalid hall visible blockId
  | dropped reason owner =>
    rw [ownDrops_eq_filter hall visible, Bool.eq_iff_iff]
    simp only [List.any_eq_true, List.mem_filter, Bool.and_eq_true]
    constructor
    · rintro ⟨drop, ⟨hdrop, hvisible⟩, hid⟩
      exact ⟨⟨drop, hdrop, hid⟩, drop, ⟨hdrop, hvisible⟩, hid⟩
    · exact fun ⟨_, hvisible⟩ => hvisible

theorem productionQueueSnapshot_machine {host : Host} {entry queue}
    (h : productionQueueSnapshot host w actor entry = some queue) :
    queue.machineBlockId = entry.1
      ∧ ∀ job ∈ queue.jobs, job.ownerPlayerId = actor := by
  unfold productionQueueSnapshot at h
  split at h
  case h_1 => cases h
  case h_2 hne =>
    obtain rfl := Option.some.inj h
    refine ⟨rfl, fun job hjob => ?_⟩
    obtain ⟨indexed, hmem, rfl⟩ := List.mem_map.mp hjob
    exact eq_of_beq (List.mem_filter.mp hmem).2

/-! Each list of a private state, cut down to what is visible. -/

theorem filter_drops (hall : Covers w everything) (visible : List EntityKey) :
    ((ownDrops w actor everything).map deathDropSnapshot).filter
        (fun drop => decide (toLex (drop.dropId, .deathDrop) ∈ visible))
      = (ownDrops w actor visible).map deathDropSnapshot := by
  rw [ownDrops_eq_filter hall visible, List.filter_map]
  rfl

theorem filter_masses (hall : Covers w everything) (visible : List EntityKey) :
    ((ownGrids w actor everything).map fun grid =>
        (⟨grid.gridId, survey.massKg (w.gridMassGrams grid)⟩ : OwnedGridMassSnapshot)).filter
          (fun mass => decide (toLex (mass.gridId, .grid) ∈ visible))
      = (ownGrids w actor visible).map fun grid =>
        ⟨grid.gridId, survey.massKg (w.gridMassGrams grid)⟩ := by
  rw [ownGrids_eq_filter hall visible, List.filter_map]
  rfl

theorem filter_queues (hvalid : Valid survey.host w) (hall : Covers w everything)
    (visible : List EntityKey) :
    ((w.productionQueues.entries.filter fun entry =>
        (ownBlockIds w actor everything).contains entry.1).filterMap
          (productionQueueSnapshot survey.host w actor)).filter (fun queue =>
            ((blockGrids w).get? queue.machineBlockId).any fun gridId =>
              decide (toLex (gridId, .grid) ∈ visible))
      = (w.productionQueues.entries.filter fun entry =>
        (ownBlockIds w actor visible).contains entry.1).filterMap
          (productionQueueSnapshot survey.host w actor) := by
  rw [List.filter_filterMap, List.filterMap_filter, List.filterMap_filter]
  refine List.filterMap_congr fun entry _ => ?_
  rw [contains_ownBlockIds hvalid hall visible]
  cases hqueue : productionQueueSnapshot survey.host w actor entry with
  | none => simp
  | some queue =>
    rw [← (productionQueueSnapshot_machine hqueue).1]
    cases (ownBlockIds w actor everything).contains queue.machineBlockId with
    | false => rfl
    | true => cases hgrid : (blockGrids w).get? queue.machineBlockId <;>
        simp [Option.filter, hgrid]

theorem filter_inventories (hvalid : Valid survey.host w) (hall : Covers w everything)
    (owners : OrdMap String String) (visible : List EntityKey) :
    ((w.inventories.values.filter
        (showsInventory w actor owners everything)).map inventorySnapshot).filter
          (fun inventory => match inventory.domain with
            | .player playerId => playerId == actor
            | .cargo blockId => ((blockGrids w).get? blockId).any fun gridId =>
              decide (toLex (gridId, .grid) ∈ visible)
            | .dropped _ _ => ((ownDrops w actor visible).map deathDropSnapshot).any fun drop =>
              drop.inventoryId == inventory.inventoryId)
      = (w.inventories.values.filter (showsInventory w actor owners visible)).map
          inventorySnapshot := by
  rw [List.filter_map, List.filter_filter]
  congr 1
  refine List.filter_congr fun inventory _ => ?_
  rw [showsInventory_eq hvalid hall owners visible inventory, Bool.and_comm]
  congr 1
  obtain ⟨inventoryId, domain, contents, capacity⟩ := inventory
  cases domain with
  | player playerId | cargo blockId => rfl
  | dropped reason owner =>
    show ((ownDrops w actor visible).map deathDropSnapshot).any _ = _
    rw [List.any_map]
    rfl

variable {source : ProjectionSource}

theorem filter_actorPrivate (hvalid : Valid survey.host w) (hall : Covers w everything)
    (hgrids : source.blockGrids = blockGrids w) {whole}
    (hfiled : source.actorPrivate.get? actor = some whole)
    (hwhole : actorPrivate survey w actor canonical owners everything = .ok whole) :
    source.filteredActorPrivate actor visible
      = actorPrivate survey w actor canonical owners visible := by
  obtain ⟨player, hplayer, rfl⟩ := (actorPrivate_eq_ok hvalid).mp hwhole
  refine Eq.trans ?_ ((actorPrivate_eq_ok hvalid).mpr ⟨player, hplayer, rfl⟩).symm
  simp only [ProjectionSource.filteredActorPrivate, hfiled, hgrids, bind_eq_ok, demand_some,
    Except.ok.injEq, exists_eq_left', pure_eq_ok]
  rewrite [filter_drops hall, filter_masses hall, filter_queues hvalid hall,
    ← filter_inventories hvalid hall owners visible]
  rfl

/-! ## Sources, read backwards -/

/-- What a source is made of. -/
structure Sourced (survey : Surveying) (w : WorldState) (owners : OrdMap String String)
    (source : ProjectionSource) : Prop where
  snapshot : survey.projectionSnapshot w = .ok source.canonical
  surveyed : ∃ surveyed, surveyEntities survey w = .ok surveyed
    ∧ source.candidates = surveyed.1.byIdentity ∧ source.supportEntities = surveyed.2
  owned : projectionInventoryOwners survey w = .ok owners
  states : ∀ actor, source.actorPrivate.get? actor =
    (actorPrivate survey w actor source.canonical owners source.candidates.keys).toOption
  blockGrids : source.blockGrids = blockGrids w
  spectator : ∃ position,
    survey.addressFromOriginOffsetUm w.cellAddress survey.publicSpectatorAnchorUm
        = .ok source.spectatorAnchor
      ∧ survey.host.localPositionFromAddress w.cellAddress source.spectatorAnchor = .ok position
      ∧ source.spectatorEnvironment = survey.environment w position

/-- Filing what is computed for each player answers for each of them. -/
theorem get?_states (compute : String → Projected ActorPrivateSnapshot)
    (hown : ∀ playerId private', compute playerId = .ok private' →
      private'.player.playerId = playerId)
    {players : List PlayerSnapshot} {init states : PrivateStates}
    (h : players.foldlM (fun states player => do
      let private' ← compute player.playerId
      return states.file private') init = .ok states) (actor : String) :
    states.byPlayer.get? actor =
      if actor ∈ players.map PlayerSnapshot.playerId then (compute actor).toOption
      else init.byPlayer.get? actor := by
  induction players generalizing init with
  | nil =>
    obtain rfl := pure_eq_ok.mp h
    simp
  | cons player rest ih =>
    simp only [List.foldlM_cons, bind_eq_ok, pure_eq_ok] at h
    obtain ⟨_, ⟨private', hprivate, rfl⟩, hrest⟩ := h
    rw [ih hrest, PrivateStates.file, OrdMap.get?_insert, hown _ _ hprivate, List.map_cons]
    by_cases hactor : actor ∈ rest.map PlayerSnapshot.playerId
    · rw [if_pos hactor, if_pos (List.mem_cons_of_mem _ hactor)]
    · rw [if_neg hactor]
      by_cases hself : actor = player.playerId
      · rw [if_pos hself, if_pos (hself ▸ List.mem_cons_self), hself, hprivate]
        rfl
      · rw [if_neg hself, if_neg (by simpa [hself] using hactor)]

theorem sourced_of_projectionSource
    (h : projectionSource survey w = .ok source) : ∃ owners, Sourced survey w owners source := by
  simp only [projectionSource, bind_eq_ok, pure_eq_ok, mapError_eq_ok] at h
  obtain ⟨canonical, hsnapshot, surveyed, hsurveyed, _, -, owners, howners, states, hstates,
    spectatorAnchor, hanchor, spectatorPosition, hposition, rfl⟩ := h
  refine ⟨owners, hsnapshot, ⟨surveyed, hsurveyed, rfl, rfl⟩, howners, fun actor => ?_, rfl,
    spectatorPosition, hanchor, hposition, rfl⟩
  have hget := get?_states (fun playerId => actorPrivate survey w playerId canonical owners
    surveyed.1.byIdentity.keys) (fun _ _ => playerId_of_actorPrivate) hstates actor
  refine hget.trans ?_
  split_ifs with hmem
  · rfl
  · have habsent : canonical.players.find? (fun player => player.playerId == actor) = none := by
      rw [List.find?_eq_none]
      intro player hplayer he
      exact hmem (List.mem_map.mpr ⟨player, hplayer, eq_of_beq he⟩)
    show none = _
    rw [actorPrivate_eq_error habsent]
    rfl

theorem Sourced.valid (h : Sourced survey w owners source) : Valid survey.host w := by
  have howners := h.owned
  simp only [projectionInventoryOwners, bind_eq_ok, mapError_eq_ok] at howners
  obtain ⟨⟨⟩, hvalid, -⟩ := howners
  exact (validatePlayerRoster_eq_ok survey.host).mp hvalid

theorem keys_of_foldlM {α : Type} {step : Surveyed → α → Projected Surveyed} (key : α → EntityKey)
    (hstep : ∀ before record after, step before record = .ok after →
      (∀ k ∈ before.1.byIdentity.keys, k ∈ after.1.byIdentity.keys)
        ∧ key record ∈ after.1.byIdentity.keys)
    {records : List α} {before after : Surveyed}
    (h : records.foldlM step before = .ok after) :
    (∀ k ∈ before.1.byIdentity.keys, k ∈ after.1.byIdentity.keys)
      ∧ ∀ record ∈ records, key record ∈ after.1.byIdentity.keys := by
  induction records generalizing before with
  | nil =>
    obtain rfl := pure_eq_ok.mp h
    simp
  | cons record rest ih =>
    simp only [List.foldlM_cons, bind_eq_ok] at h
    obtain ⟨middle, hmiddle, hrest⟩ := h
    obtain ⟨hkept, hadded⟩ := hstep before record middle hmiddle
    obtain ⟨hkept', hadded'⟩ := ih hrest
    exact ⟨fun k hk => hkept' k (hkept k hk),
      List.forall_mem_cons.mpr ⟨hkept' _ hadded, hadded'⟩⟩

theorem keys_of_addCandidate {candidates candidates' address payload}
    (h : addCandidate survey candidates address payload = .ok candidates') :
    (∀ k ∈ candidates.byIdentity.keys, k ∈ candidates'.byIdentity.keys)
      ∧ payload.identity ∈ candidates'.byIdentity.keys := by
  simp only [addCandidate, bind_eq_ok, pure_eq_ok] at h
  obtain ⟨_, -, fingerprint, -, _, -, rfl⟩ := h
  simp only [Candidates.file, OrdMap.mem_keys, OrdMap.get?_insert]
  refine ⟨fun k hk => ?_, by simp⟩
  split_ifs
  · exact ⟨_, rfl⟩
  · exact hk

theorem covers_of_surveyEntities {surveyed : Surveyed}
    (h : surveyEntities survey w = .ok surveyed) : Covers w surveyed.1.byIdentity.keys := by
  simp only [surveyEntities, bind_eq_ok] at h
  obtain ⟨players, -, grids, hgrids, chunks, -, voxels, hvoxels, hdrops⟩ := h
  obtain ⟨-, hgrid⟩ := keys_of_foldlM (fun grid : Grid => toLex (grid.gridId, .grid))
    (fun before grid after hstep => by
      simp only [addGrid, publicGrid, bind_eq_ok, pure_eq_ok] at hstep
      obtain ⟨_, ⟨_, -, rfl⟩, _, hadd, rfl⟩ := hstep
      exact keys_of_addCandidate hadd) hgrids
  obtain ⟨hkept, -⟩ := keys_of_foldlM
    (fun entry : IVec3 × PublicVoxelChunkSnapshot => toLex (entry.2.chunkId, .voxelChunk))
    (fun before entry after hstep => by
      simp only [addVoxelChunk, bind_eq_ok, pure_eq_ok] at hstep
      obtain ⟨_, -, _, hadd, rfl⟩ := hstep
      exact keys_of_addCandidate hadd) hvoxels
  obtain ⟨hkept', hdrop⟩ := keys_of_foldlM
    (fun drop : DeathDrop => toLex (drop.dropId, .deathDrop))
    (fun before drop after hstep => by
      simp only [addDrop, publicDrop, bind_eq_ok, pure_eq_ok] at hstep
      obtain ⟨_, ⟨_, -, rfl⟩, _, hadd, rfl⟩ := hstep
      exact keys_of_addCandidate hadd) hdrops
  exact ⟨fun grid hmem => hkept' _ (hkept _ (hgrid grid hmem)), hdrop⟩

/-- For every set of visible entities: the part a session is given is what collecting for these
    entities alone gives. -/
theorem Sourced.filteredActorPrivate_eq (h : Sourced survey w owners source) (actor : String)
    (visible : List EntityKey) :
    source.filteredActorPrivate actor visible
      = actorPrivate survey w actor source.canonical owners visible := by
  have hcovers : Covers w source.candidates.keys := by
    obtain ⟨surveyed, hsurveyed, hcandidates, -⟩ := h.surveyed
    rw [hcandidates]
    exact covers_of_surveyEntities hsurveyed
  cases hwhole : actorPrivate survey w actor source.canonical owners source.candidates.keys with
  | ok whole =>
    have hfiled : source.actorPrivate.get? actor = some whole := by
      rw [h.states, hwhole]
      rfl
    exact filter_actorPrivate h.valid hcovers h.blockGrids hfiled hwhole
  | error e =>
    have hfiled : source.actorPrivate.get? actor = none := by
      rw [h.states, hwhole]
      rfl
    have habsent : source.canonical.players.find? (fun player => player.playerId == actor)
        = none := by
      cases hfind : source.canonical.players.find? fun player => player.playerId == actor with
      | none => rfl
      | some player =>
        rw [(actorPrivate_eq_ok h.valid).mpr ⟨player, hfind, rfl⟩] at hwhole
        cases hwhole
    rw [actorPrivate_eq_error habsent, ProjectionSource.filteredActorPrivate, hfiled]
    rfl

/-! ## Ownership -/

/-- Every record of a private state belongs to the actor. -/
structure Belongs (w : WorldState) (actor : String) (private' : ActorPrivateSnapshot) :
    Prop where
  player : private'.player.playerId = actor
  inventories : ∀ inventory ∈ private'.inventories,
    w.inventoryOwnerPlayerId inventory.inventoryId = .ok actor
  deathDrops : ∀ drop ∈ private'.deathDrops, drop.ownerPlayerId = actor
  ownedGridMasses : ∀ mass ∈ private'.ownedGridMasses, ∃ grid,
    w.grids.get? mass.gridId = some grid ∧ grid.ownerPlayerId = actor
  productionQueues : ∀ queue ∈ private'.productionQueues,
    (∃ grid block, w.BlockIn queue.machineBlockId grid block ∧ grid.ownerPlayerId = actor)
      ∧ ∀ job ∈ queue.jobs, job.ownerPlayerId = actor

theorem get?_owners
    (h : projectionInventoryOwners survey w = .ok owners) {owner : String} :
    owners.get? inventoryId = some owner ↔
      w.inventories.contains inventoryId = true
        ∧ w.inventoryOwnerPlayerId inventoryId = .ok owner := by
  simp only [projectionInventoryOwners, bind_eq_ok, pure_eq_ok] at h
  obtain ⟨_, -, listed, hlisted, rfl⟩ := h
  have hmem : ∀ entry : String × String, entry ∈ listed ↔
      entry.1 ∈ w.inventories.keys ∧ w.inventoryOwnerPlayerId entry.1 = .ok entry.2 := by
    intro entry
    constructor
    · intro he
      obtain ⟨key, hkey, hentry⟩ := exists_of_mem_mapM hlisted entry he
      simp only [bind_eq_ok, mapError_eq_ok, pure_eq_ok] at hentry
      obtain ⟨owner, howner, rfl⟩ := hentry
      exact ⟨hkey, howner⟩
    · rintro ⟨hkey, howner⟩
      obtain ⟨found, hfound, hentry⟩ := exists_mem_mapM hlisted _ hkey
      simp only [bind_eq_ok, mapError_eq_ok, pure_eq_ok, howner, Except.ok.injEq,
        exists_eq_left'] at hentry
      subst hentry
      exact hfound
  rw [OrdMap.get?_ofList, hmem, OrdMap.mem_keys, OrdMap.contains_iff]
  rintro p hp q hq he
  have howner := ((hmem p).mp hp).2
  rw [he, ((hmem q).mp hq).2] at howner
  exact (Except.ok.inj howner).symm

theorem belongs_of_actorPrivate (hvalid : Valid survey.host w)
    (howners : projectionInventoryOwners survey w = .ok owners)
    (h : actorPrivate survey w actor canonical owners visible = .ok private') :
    Belongs w actor private' := by
  have hplayer := playerId_of_actorPrivate h
  obtain ⟨player, -, rfl⟩ := (actorPrivate_eq_ok hvalid).mp h
  refine ⟨hplayer, ?_, ?_, ?_, ?_⟩
  · intro inventory hmem
    obtain ⟨record, hrecord, rfl⟩ := List.mem_map.mp hmem
    have hshown := (List.mem_filter.mp hrecord).2
    simp only [showsInventory, Bool.and_eq_true, beq_iff_eq] at hshown
    exact ((get?_owners howners).mp hshown.1).2
  · intro drop hmem
    obtain ⟨record, hrecord, rfl⟩ := List.mem_map.mp hmem
    have hown := (List.mem_filter.mp hrecord).2
    simp only [Bool.and_eq_true, beq_iff_eq] at hown
    exact hown.1
  · intro mass hmem
    obtain ⟨grid, hgrid, rfl⟩ := List.mem_map.mp hmem
    obtain ⟨hlisted, hown⟩ := List.mem_filter.mp hgrid
    simp only [Bool.and_eq_true, beq_iff_eq] at hown
    obtain ⟨gridId, hget⟩ := mem_gridSnapshots.mp hlisted
    have hfiled := (hvalid.grids gridId grid hget).filed
    exact ⟨grid, hfiled ▸ hget, hown.1⟩
  · intro queue hmem
    obtain ⟨entry, hentry, hqueue⟩ := List.mem_filterMap.mp hmem
    obtain ⟨hmachine, hjobs⟩ := productionQueueSnapshot_machine hqueue
    have hblock := (List.mem_filter.mp hentry).2
    rw [List.contains_iff_mem, mem_ownBlockIds hvalid, ← hmachine] at hblock
    obtain ⟨grid, block, hblock, howner, -⟩ := hblock
    exact ⟨⟨grid, block, hblock, howner⟩, hjobs⟩

end Verse.Interest
