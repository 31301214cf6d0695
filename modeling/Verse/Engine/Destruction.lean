import Verse.Engine.Damage
import Verse.Lib.Lines
import Verse.World.Valid

/-!
# What damage leaves behind

A destroyed block tears a grid into fragments, and everything the rest of the world relies on
follows from one fact: the fragments hold the remaining blocks, each exactly once. It is
proved from the flood outwards. A flood moves coordinates from the remainder and the queue to
the component and loses none (`floodComponent_perm`), so the components list the occupied
coordinates (`components_perm`), so the fragments list the blocks (`fragments_perm`).
-/

namespace Verse

open Lib

variable {host : Host}

/-! ## The flood -/

variable {component : OrdMap IVec3 Unit} {c : IVec3}

theorem keys_insert_perm
    (h : c ∉ component.keys) : (component.insert c ()).keys.Perm (c :: component.keys) := by
  have hnone : component.get? c = none := by
    cases hc : component.get? c with
    | none => rfl
    | some u => exact absurd (OrdMap.mem_keys.mpr ⟨u, hc⟩) h
  exact (OrdMap.insert_perm_cons hnone).map Prod.fst

variable {remaining : OrdMap IVec3 Unit}

theorem keys_erase_perm (h : c ∈ remaining.keys) :
    remaining.keys.Perm (c :: (remaining.erase c).keys) := by
  obtain ⟨u, hc⟩ := OrdMap.mem_keys.mp h
  exact (OrdMap.perm_cons_erase hc).map Prod.fst

variable {found : List IVec3}

theorem keys_foldl_erase_perm
    (hnodup : found.Nodup) (hfound : ∀ c ∈ found, c ∈ remaining.keys) :
    (found ++ (found.foldl OrdMap.erase remaining).keys).Perm remaining.keys := by
  induction found generalizing remaining with
  | nil => exact List.Perm.refl _
  | cons c found ih =>
    obtain ⟨hc, hnodup⟩ := List.nodup_cons.mp hnodup
    have herase := keys_erase_perm (hfound c List.mem_cons_self)
    have hrest : ∀ c' ∈ found, c' ∈ (remaining.erase c).keys := by
      intro c' hc'
      have hmem := herase.mem_iff.mp (hfound c' (List.mem_cons_of_mem _ hc'))
      exact (List.mem_cons.mp hmem).resolve_left fun he => hc (he ▸ hc')
    exact ((ih hnodup hrest).cons c).trans herase.symm

theorem neighbors_nodup (c : IVec3) : c.neighbors.Nodup := by
  have hne : ∀ {a b : IVec3}, a.x ≠ b.x ∨ a.y ≠ b.y ∨ a.z ≠ b.z → a ≠ b := by
    rintro a b h rfl
    simp at h
  obtain ⟨hx, hy, hz⟩ := c.fits
  unfold FitsI32 at hx hy hz
  simp only [IVec3.neighbors, List.nodup_cons, List.mem_cons, List.not_mem_nil, or_false, not_or,
    not_false_eq_true, List.nodup_nil, and_true]
  refine ⟨⟨?_, ?_, ?_, ?_, ?_⟩, ⟨?_, ?_, ?_, ?_⟩, ⟨?_, ?_, ?_⟩, ⟨?_, ?_⟩, ?_⟩ <;>
    (apply hne; simp only [IVec3.new, wrapI32]; omega)

variable {fuel : Nat} {queue : List IVec3}

theorem floodComponent_perm
    (hfuel : queue.length + remaining.size ≤ fuel)
    (hnodup : (component.keys ++ queue ++ remaining.keys).Nodup) :
    ((floodComponent fuel queue component remaining).1.keys
      ++ (floodComponent fuel queue component remaining).2.keys).Perm
      (component.keys ++ queue ++ remaining.keys) := by
  induction fuel generalizing queue component remaining with
  | zero =>
    obtain rfl : queue = [] := List.eq_nil_of_length_eq_zero (by omega)
    simp [floodComponent]
  | succ fuel ih =>
    cases queue with
    | nil => simp [floodComponent]
    | cons c queue =>
      rw [floodComponent]
      set found := c.neighbors.filter remaining.contains with hfound
      have hsplit : (found ++ (found.foldl OrdMap.erase remaining).keys).Perm remaining.keys := by
        refine keys_foldl_erase_perm ((neighbors_nodup c).filter _) fun c' hc' => ?_
        obtain ⟨u, hu⟩ := OrdMap.contains_iff.mp (List.mem_filter.mp hc').2
        exact OrdMap.mem_keys.mpr ⟨u, hu⟩
      have hc : c ∉ component.keys := by
        intro hmem
        rw [List.append_assoc, List.nodup_append] at hnodup
        exact hnodup.2.2 c hmem c (by simp) rfl
      -- The coordinate and its neighbours change places; nothing enters or leaves.
      have hmoved : ((component.insert c ()).keys ++ (queue ++ found)
          ++ (found.foldl OrdMap.erase remaining).keys).Perm
          (component.keys ++ (c :: queue) ++ remaining.keys) := by
        have hfront : ((component.insert c ()).keys ++ queue).Perm
            (component.keys ++ (c :: queue)) :=
          ((keys_insert_perm hc).append_right queue).trans List.perm_middle.symm
        rw [← List.append_assoc, List.append_assoc]
        exact hfront.append hsplit
      refine (ih ?_ (hmoved.nodup_iff.mpr hnodup)).trans hmoved
      have hlength := hsplit.length_eq
      simp only [List.length_append, OrdMap.keys, List.length_map, OrdMap.size,
        List.length_cons] at hlength hfuel ⊢
      omega

theorem size_foldl_erase_le :
    (found.foldl OrdMap.erase remaining).size ≤ remaining.size := by
  induction found generalizing remaining with
  | nil => exact le_rfl
  | cons c found ih => exact ih.trans (List.length_filter_le _ _)

theorem floodComponent_size_le :
    (floodComponent fuel queue component remaining).2.size ≤ remaining.size := by
  induction fuel generalizing queue component remaining with
  | zero => exact le_rfl
  | succ fuel ih =>
    cases queue with
    | nil => exact le_rfl
    | cons c queue => exact ih.trans size_foldl_erase_le

theorem size_eq_length_keys {m : OrdMap IVec3 Unit} : m.size = m.keys.length := by
  simp [OrdMap.size, OrdMap.keys]

theorem faceComponents_perm
    (hfuel : remaining.size ≤ fuel) :
    ((faceComponents fuel remaining).flatMap OrdMap.keys).Perm remaining.keys := by
  induction fuel generalizing remaining with
  | zero =>
    have hempty : remaining.keys = [] :=
      List.eq_nil_of_length_eq_zero (by rw [← size_eq_length_keys]; omega)
    simp [faceComponents, hempty]
  | succ fuel ih =>
    rw [faceComponents]
    cases hkeys : remaining.keys with
    | nil => simp
    | cons start rest =>
      have hstart : remaining.keys.Perm (start :: (remaining.erase start).keys) :=
        keys_erase_perm (by simp [hkeys])
      have hsize : remaining.size = (remaining.erase start).size + 1 := by
        simpa [size_eq_length_keys] using hstart.length_eq
      set flooded := floodComponent remaining.size [start] OrdMap.empty (remaining.erase start)
        with hflooded
      have hflood : (flooded.1.keys ++ flooded.2.keys).Perm
          (start :: (remaining.erase start).keys) :=
        floodComponent_perm (by simp [hsize]; omega) (hstart.nodup_iff.mp OrdMap.keys_nodup)
      have hrest : ((faceComponents fuel flooded.2).flatMap OrdMap.keys).Perm flooded.2.keys :=
        ih (floodComponent_size_le.trans (by omega))
      rw [List.flatMap_cons, ← hkeys]
      exact ((hrest.append_left _).trans hflood).trans hstart.symm

/-! ## Components and fragments -/

variable {block : Block}

namespace Grid

variable {grid : Grid}

/-- Blocks filed under their own identity, at coordinates of their own. -/
structure WellPlaced (grid : Grid) : Prop where
  filed : ∀ blockId block, grid.blocks.get? blockId = some block → blockId = block.blockId
  coordinates : ∀ blockId block blockId' block', grid.blocks.get? blockId = some block →
    grid.blocks.get? blockId' = some block' → block.coordinate = block'.coordinate →
    blockId = blockId'

theorem WellPlaced.of_gridOk {w : WorldState} {gridId : String} (h : GridOk host w gridId grid) :
    grid.WellPlaced :=
  ⟨fun k b hk => (h.blocks k b hk).filed, h.coordinates⟩

variable {blockId : String}

theorem WellPlaced.erase (h : grid.WellPlaced) :
    ({ grid with blocks := grid.blocks.erase blockId } : Grid).WellPlaced := by
  have hkeep : ∀ k b, (grid.blocks.erase blockId).get? k = some b → grid.blocks.get? k = some b := by
    intro k b hk
    rw [OrdMap.get?_erase] at hk
    split_ifs at hk
    exact hk
  exact ⟨fun k b hk => h.filed k b (hkeep k b hk), fun k b k' b' hk hk' =>
    h.coordinates k b k' b' (hkeep k b hk) (hkeep k' b' hk')⟩

theorem WellPlaced.byCoordinate_perm (h : grid.WellPlaced) :
    grid.byCoordinate.entries.Perm
      (grid.blocks.values.map fun block => (block.coordinate, block.blockId)) := by
  refine OrdMap.ofList_perm ?_
  rw [List.map_map, OrdMap.values, List.map_map]
  refine (List.nodup_map_iff_inj_on OrdMap.entries_nodup).mpr ?_
  rintro ⟨k, b⟩ hk ⟨k', b'⟩ hk' hc
  have hk := OrdMap.mem_entries.mp hk
  have hk' := OrdMap.mem_entries.mp hk'
  obtain rfl := h.coordinates k b k' b' hk hk' hc
  rw [Option.mem_unique hk hk']

theorem components_perm : (grid.components.flatMap OrdMap.keys).Perm grid.byCoordinate.keys := by
  have hoccupied : (OrdMap.ofList (grid.byCoordinate.keys.map fun coordinate =>
      (coordinate, ()))).keys.Perm grid.byCoordinate.keys := by
    have hperm : (OrdMap.ofList (grid.byCoordinate.keys.map fun coordinate =>
        (coordinate, ()))).entries.Perm (grid.byCoordinate.keys.map fun coordinate =>
          (coordinate, ())) :=
      OrdMap.ofList_perm (by simpa [List.map_map, Function.comp_def] using OrdMap.keys_nodup)
    simpa [OrdMap.keys, List.map_map, Function.comp_def] using hperm.map Prod.fst
  exact (((List.mergeSort_perm _ _).flatMap_right _).trans
    (faceComponents_perm le_rfl)).trans hoccupied

/-- The entry of the block at a coordinate. -/
def entryAt (grid : Grid) (coordinate : IVec3) : Option (String × Block) :=
  (grid.byCoordinate.get? coordinate).bind fun blockId =>
    (grid.blocks.get? blockId).map fun block => (blockId, block)

theorem WellPlaced.entryAt_eq (h : grid.WellPlaced) {coordinate : IVec3} :
    grid.entryAt coordinate = some (blockId, block) ↔
      grid.blocks.get? blockId = some block ∧ block.coordinate = coordinate := by
  have hindex : ∀ c k, grid.byCoordinate.get? c = some k ↔
      ∃ b, grid.blocks.get? k = some b ∧ b.coordinate = c := by
    intro c k
    rw [← OrdMap.mem_entries, h.byCoordinate_perm.mem_iff, List.mem_map]
    constructor
    · rintro ⟨b, hb, heq⟩
      obtain ⟨rfl, rfl⟩ := Prod.mk.inj heq
      obtain ⟨k, hk⟩ := OrdMap.mem_values.mp hb
      exact ⟨b, h.filed k b hk ▸ hk, rfl⟩
    · rintro ⟨b, hb, rfl⟩
      exact ⟨b, OrdMap.mem_values.mpr ⟨k, hb⟩, by rw [h.filed k b hb]⟩
  simp only [entryAt, Option.bind_eq_some_iff, Option.map_eq_some_iff, Prod.mk.injEq, hindex]
  constructor
  · rintro ⟨k, ⟨b, hb, rfl⟩, b', hb', rfl, rfl⟩
    exact ⟨hb', by rw [Option.mem_unique hb hb']⟩
  · rintro ⟨hb, rfl⟩
    exact ⟨blockId, ⟨block, hb, rfl⟩, block, hb, rfl, rfl⟩

theorem WellPlaced.componentBlocks_perm (h : grid.WellPlaced) :
    (grid.componentBlocks component).entries.Perm (component.keys.filterMap grid.entryAt) := by
  refine OrdMap.ofList_perm ?_
  refine (List.nodup_map_iff_inj_on ?_).mpr ?_
  · refine OrdMap.keys_nodup.filterMap ?_
    rintro c c' ⟨k, b⟩ hc hc'
    exact (h.entryAt_eq.mp hc).2.symm.trans (h.entryAt_eq.mp hc').2
  · rintro ⟨k, b⟩ hk ⟨k', b'⟩ hk' (rfl : k = k')
    obtain ⟨c, -, hc⟩ := List.mem_filterMap.mp hk
    obtain ⟨c', -, hc'⟩ := List.mem_filterMap.mp hk'
    rw [Option.some.inj ((h.entryAt_eq.mp hc).1.symm.trans (h.entryAt_eq.mp hc').1)]

variable {voxels : VoxelField}

variable {eventSequence : Nat}

theorem blocks_fragments :
    (grid.fragments host voxels eventSequence).map Grid.blocks
      = grid.components.map grid.componentBlocks := by
  refine List.ext_getElem? fun i => ?_
  simp [fragments, splitOff, Function.comp_def]

theorem WellPlaced.fragments_perm (h : grid.WellPlaced) :
    (((grid.fragments host voxels eventSequence).map Grid.blocks).flatMap OrdMap.entries).Perm
      grid.blocks.entries := by
  have hcoordinates : grid.byCoordinate.keys.Perm (grid.blocks.values.map Block.coordinate) := by
    simpa [OrdMap.keys, List.map_map, Function.comp_def] using
      h.byCoordinate_perm.map Prod.fst
  have hentries : (grid.blocks.values.map Block.coordinate).filterMap grid.entryAt
      = grid.blocks.entries := by
    have hself : ∀ entry ∈ grid.blocks.entries,
        grid.entryAt entry.2.coordinate = some entry := fun entry he =>
      h.entryAt_eq.mpr ⟨OrdMap.mem_entries.mp he, rfl⟩
    rw [OrdMap.values, List.map_map, List.filterMap_map]
    exact (List.filterMap_congr hself).trans List.filterMap_some
  rw [blocks_fragments, List.flatMap_map]
  calc grid.components.flatMap (fun component => (grid.componentBlocks component).entries)
      |>.Perm (grid.components.flatMap fun component => component.keys.filterMap grid.entryAt) :=
        List.Perm.flatMap_left _ fun component _ => h.componentBlocks_perm
    _ = (grid.components.flatMap OrdMap.keys).filterMap grid.entryAt :=
        List.filterMap_flatMap.symm
    _ |>.Perm (grid.byCoordinate.keys.filterMap grid.entryAt) := components_perm.filterMap _
    _ |>.Perm ((grid.blocks.values.map Block.coordinate).filterMap grid.entryAt) :=
        hcoordinates.filterMap _
    _ = grid.blocks.entries := hentries

/-! ## Identities of the fragments -/

theorem splitGridId_injective {i j : Nat}
    (h : grid.splitGridId eventSequence i = grid.splitGridId eventSequence j) : i = j := by
  have hlonger : ∀ k : Nat, s!"{grid.gridId}-split-{eventSequence}-{k}" ≠ grid.gridId := by
    intro k he
    have htext : ∀ text : String, toString text = text := fun _ => rfl
    have hlength := congrArg String.length he
    simp only [htext, String.length_append, (by decide : "-split-".length = 7)] at hlength
    omega
  unfold splitGridId at h
  split_ifs at h with hi hj hj
  · rw [hi, hj]
  · exact absurd h.symm (hlonger j)
  · exact absurd h (hlonger i)
  · have hlist := congrArg String.toList h
    simp only [String.toList_append] at hlist
    exact toString_nat_injective (String.toList_inj.mp (List.append_cancel_left hlist))

theorem gridIds_fragments_nodup :
    ((grid.fragments host voxels eventSequence).map Grid.gridId).Nodup := by
  have hids : (grid.fragments host voxels eventSequence).map Grid.gridId
      = (List.range grid.components.length).map (grid.splitGridId eventSequence) := by
    refine List.ext_getElem (by simp [fragments]) fun i hi hi' => ?_
    simp [fragments, splitOff]
  rw [hids]
  exact List.nodup_range.map fun i j h => splitGridId_injective h

theorem fragments_of_empty (h : grid.blocks = OrdMap.empty)
    : grid.fragments host voxels eventSequence = [] := by
  have hcomponents : grid.components = [] := by
    have hindex : grid.byCoordinate = OrdMap.empty := by
      simp [byCoordinate, h, OrdMap.values, OrdMap.empty, OrdMap.ofList]
    simp [components, hindex, OrdMap.keys, OrdMap.empty, OrdMap.ofList, faceComponents, OrdMap.size]
  simp [fragments, hcomponents]

theorem of_mem_fragments {fragment : Grid}
    (h : fragment ∈ grid.fragments host voxels eventSequence) :
    ∃ index component, fragment = grid.splitOff host voxels eventSequence index component := by
  obtain ⟨index, hindex, rfl⟩ := List.mem_iff_getElem.mp h
  exact ⟨index, _, by simp only [fragments, List.getElem_mapIdx]; rfl⟩

end Grid

/-! ## Damage -/

namespace WorldState

variable {w w' : WorldState} {gridId blockId : String} {damage eventSequence : Nat}

/-- The grids once what remains of one of them has come apart. -/
def shattered (host : Host) (w : WorldState) (gridId : String) (remaining : Grid)
    (eventSequence : Nat) : OrdMap String Grid :=
  (remaining.fragments host w.voxels eventSequence).foldl
    (fun grids fragment => grids.insert fragment.gridId fragment) (w.grids.erase gridId)

/-- No fragment takes the identity of another grid. -/
def FragmentsFresh (host : Host) (w : WorldState) (gridId : String) (remaining : Grid)
    (eventSequence : Nat) : Prop :=
  ∀ fragment ∈ remaining.fragments host w.voxels eventSequence, fragment.gridId ≠ gridId →
    w.grids.get? fragment.gridId = none

variable {key : String} {grid : Grid}

theorem get?_shattered {remaining : Grid}
    (hfresh : FragmentsFresh host w gridId remaining eventSequence) :
    (w.shattered host gridId remaining eventSequence).get? key = some grid ↔
      (grid ∈ remaining.fragments host w.voxels eventSequence ∧ grid.gridId = key)
        ∨ (key ≠ gridId ∧ w.grids.get? key = some grid) := by
  set fragments := remaining.fragments host w.voxels eventSequence with hfragments
  have hpairs : w.shattered host gridId remaining eventSequence =
      (fragments.map fun fragment => (fragment.gridId, fragment)).foldl
        (fun grids p => grids.insert p.1 p.2) (w.grids.erase gridId) := by
    rw [List.foldl_map]
    rfl
  have hunique : ∀ p ∈ fragments.map (fun fragment => (fragment.gridId, fragment)),
      ∀ q ∈ fragments.map (fun fragment => (fragment.gridId, fragment)), p.1 = q.1 → p.2 = q.2 := by
    intro p hp q hq he
    obtain ⟨f, hf, rfl⟩ := List.mem_map.mp hp
    obtain ⟨g, hg, rfl⟩ := List.mem_map.mp hq
    exact List.inj_on_of_nodup_map Grid.gridIds_fragments_nodup hf hg he
  rw [hpairs, OrdMap.get?_foldl_insert hunique]
  simp only [List.mem_map, Prod.mk.injEq, OrdMap.get?_erase]
  constructor
  · rintro (⟨f, hf, rfl, rfl⟩ | ⟨hget, -⟩)
    · exact .inl ⟨hf, rfl⟩
    · split_ifs at hget with hkey
      exact .inr ⟨hkey, hget⟩
  · rintro (⟨hf, rfl⟩ | ⟨hkey, hget⟩)
    · exact .inl ⟨grid, hf, rfl, rfl⟩
    · refine .inr ⟨by rw [if_neg hkey, hget], ?_⟩
      rintro p ⟨f, hf, rfl⟩ (rfl : f.gridId = key)
      rw [hfresh f hf hkey] at hget
      cases hget

/-- A grid without one of its blocks. -/
def remains (grid : Grid) (blockId : String) : Grid :=
  { grid with blocks := grid.blocks.erase blockId }

/-- The world with a block out of its grid, entered as destroyed and its cargo dropped. -/
def broken (w : WorldState) (gridId : String) (grid : Grid) (blockId : String) (block : Block) :
    WorldState :=
  let entered := { w.withGrid gridId (remains grid blockId) with
    ledger := { w.ledger with
      destroyedBlocks := w.ledger.destroyedBlocks + 1
      destroyedComponents := w.ledger.destroyedComponents + block.componentCost } }
  entered.dropCargo block grid.ownerPlayerId

/-- The same world with the grid in fragments. -/
def wrecked (host : Host) (w : WorldState) (gridId : String) (grid : Grid) (blockId : String)
    (block : Block) (eventSequence : Nat) : WorldState :=
  { w.broken gridId grid blockId block with
    grids := w.shattered host gridId (remains grid blockId) eventSequence }

/-- The sealed inventory of what a destroyed machine was working on. -/
def machineDrop (blockId ownerPlayerId : String) (eventSequence : Nat)
    (contents : InventoryContents) : InventoryRecord where
  inventoryId := s!"inventory-production-drop-{eventSequence}-{blockId}"
  domain := .dropped "production_machine_destroyed" ownerPlayerId
  contents := contents
  capacityLiters := u64Max

/-- What damage does: less health, or no block; and with a machine goes its queue. -/
inductive Damaged (host : Host) (w : WorldState) (gridId blockId : String)
    (damage eventSequence : Nat) : WorldState → Prop
  | hurt {grid : Grid} {block : Block} (hgrid : w.grids.get? gridId = some grid)
      (hblock : grid.blocks.get? blockId = some block) (hhealth : damage < block.health) :
      Damaged host w gridId blockId damage eventSequence (w.withGrid gridId { grid with
        blocks := grid.blocks.insert blockId { block with health := block.health - damage } })
  | destroyed {grid : Grid} {block : Block} (hgrid : w.grids.get? gridId = some grid)
      (hblock : grid.blocks.get? blockId = some block)
      (hidle : w.productionQueues.get? blockId = none)
      (hfiled : grid.gridId = gridId →
        FragmentsFresh host w gridId (remains grid blockId) eventSequence) :
      Damaged host w gridId blockId damage eventSequence
        (w.wrecked host gridId grid blockId block eventSequence)
  | destroyedMachine {grid : Grid} {block : Block} {queue : List ProductionJob}
      {contents : InventoryContents} (hgrid : w.grids.get? gridId = some grid)
      (hblock : grid.blocks.get? blockId = some block)
      (hqueue : w.productionQueues.get? blockId = some queue)
      (hcontents : queueContents queue = .ok contents)
      (hdrop : w.inventories.get? s!"inventory-production-drop-{eventSequence}-{blockId}" = none)
      (hfiled : grid.gridId = gridId →
        FragmentsFresh host w gridId (remains grid blockId) eventSequence) :
      Damaged host w gridId blockId damage eventSequence
        (({ w.wrecked host gridId grid blockId block eventSequence with
          productionQueues := w.productionQueues.erase blockId }).withInventory
            s!"inventory-production-drop-{eventSequence}-{blockId}"
            (machineDrop blockId grid.ownerPlayerId eventSequence contents))

theorem splitDisconnectedGrid_eq_ok {remaining : Grid}
    (hgrid : w.grids.get? gridId = some remaining)
    (h : w.splitDisconnectedGrid host gridId eventSequence = .ok w') :
    w' = { w with grids := w.shattered host gridId remaining eventSequence }
      ∧ (remaining.gridId = gridId → FragmentsFresh host w gridId remaining eventSequence) := by
  simp only [splitDisconnectedGrid, bind_eq_ok, demand_eq_ok, hgrid, Option.some.injEq,
    exists_eq_left'] at h
  split_ifs at h with hempty
  · rw [pure_eq_ok] at h
    have hnone : remaining.fragments host w.voxels eventSequence = [] :=
      Grid.fragments_of_empty hempty
    refine ⟨by simp [← h, shattered, hnone], fun _ => ?_⟩
    simp [FragmentsFresh, hnone]
  · simp only [bind_eq_ok, rejectIf_eq_ok, pure_eq_ok, not_exists, not_and,
      Bool.not_eq_true, OrdMap.contains_eq_false] at h
    obtain ⟨-, hfresh, rfl⟩ := h
    refine ⟨rfl, fun hfiled fragment hmem hne => ?_⟩
    exact hfresh fragment hmem (hfiled ▸ hne)

variable {ownerPlayerId : String}

theorem dropQueue_eq_ok (h : w.dropQueue blockId ownerPlayerId eventSequence = .ok w') :
    (w.productionQueues.get? blockId = none ∧ w' = w)
      ∨ ∃ queue contents, w.productionQueues.get? blockId = some queue
        ∧ queueContents queue = .ok contents
        ∧ w.inventories.get? s!"inventory-production-drop-{eventSequence}-{blockId}" = none
        ∧ w' = ({ w with productionQueues := w.productionQueues.erase blockId }).withInventory
            s!"inventory-production-drop-{eventSequence}-{blockId}"
            (machineDrop blockId ownerPlayerId eventSequence contents) := by
  unfold dropQueue at h
  cases hqueue : w.productionQueues.get? blockId with
  | none =>
    simp only [hqueue, pure_eq_ok] at h
    exact .inl ⟨rfl, h.symm⟩
  | some queue =>
    simp only [hqueue, bind_eq_ok, rejectIf_eq_ok, pure_eq_ok, Bool.not_eq_true,
      OrdMap.contains_eq_false] at h
    obtain ⟨contents, hcontents, -, hdrop, rfl⟩ := h
    exact .inr ⟨queue, contents, rfl, hcontents, hdrop, rfl⟩

@[simp] theorem dropCargo_grids :
    (w.dropCargo block ownerPlayerId).grids = w.grids := by
  unfold dropCargo
  split <;> rfl

@[simp] theorem dropCargo_voxels :
    (w.dropCargo block ownerPlayerId).voxels = w.voxels := by
  unfold dropCargo
  split <;> rfl

theorem get?_dropCargo_inventories :
    (w.dropCargo block ownerPlayerId).inventories.get? key =
      if block.inventoryId = some key then
        (w.inventories.get? key).map fun inventory =>
          { inventory with domain := .dropped "cargo_block_destroyed" ownerPlayerId }
      else w.inventories.get? key := by
  unfold dropCargo
  cases hid : block.inventoryId with
  | none => simp
  | some inventoryId =>
    by_cases hkey : key = inventoryId
    · subst hkey
      simp
    · simp [hkey, Ne.symm hkey]

@[simp] theorem dropCargo_productionQueues :
    (w.dropCargo block ownerPlayerId).productionQueues = w.productionQueues := by
  unfold dropCargo
  split <;> rfl

@[simp] theorem broken_grids :
    (w.broken gridId grid blockId block).grids = w.grids.insert gridId (remains grid blockId) := by
  simp [broken, withGrid]

@[simp] theorem broken_productionQueues :
    (w.broken gridId grid blockId block).productionQueues = w.productionQueues := by
  simp [broken, withGrid]

@[simp] theorem broken_voxels :
    (w.broken gridId grid blockId block).voxels = w.voxels := by
  simp [broken, withGrid]

theorem broken_inventories :
    (w.broken gridId grid blockId block).inventories
      = (w.dropCargo block grid.ownerPlayerId).inventories := by
  unfold broken dropCargo
  split <;> rfl

/-- The tables a destroyed block is in, one by one. -/
theorem wrecked_eq :
    w.wrecked host gridId grid blockId block eventSequence =
      { w.dropCargo block grid.ownerPlayerId with
        grids := w.shattered host gridId (remains grid blockId) eventSequence
        ledger := { w.ledger with
          destroyedBlocks := w.ledger.destroyedBlocks + 1
          destroyedComponents := w.ledger.destroyedComponents + block.componentCost } } := by
  unfold wrecked broken dropCargo
  cases block.inventoryId <;> rfl

theorem get?_broken_eq_none :
    (w.broken gridId grid blockId block).inventories.get? key = none
      ↔ w.inventories.get? key = none := by
  rw [broken_inventories, get?_dropCargo_inventories]
  split_ifs
  · exact Option.map_eq_none_iff
  · rfl

variable {v : WorldState} {remaining' : Grid}

theorem shattered_congr {remaining : Grid}
    (hgrids : v.grids = w.grids.insert gridId remaining') (hvoxels : v.voxels = w.voxels) :
    v.shattered host gridId remaining eventSequence
      = w.shattered host gridId remaining eventSequence := by
  rw [shattered, shattered, hgrids, hvoxels, OrdMap.erase_insert]

theorem FragmentsFresh.congr {remaining : Grid}
    (hgrids : v.grids = w.grids.insert gridId remaining') (hvoxels : v.voxels = w.voxels)
    (h : FragmentsFresh host v gridId remaining eventSequence) :
    FragmentsFresh host w gridId remaining eventSequence := by
  intro fragment hmem hne
  have hnone := h fragment (hvoxels ▸ hmem) hne
  rwa [hgrids, OrdMap.get?_insert_ne hne] at hnone

theorem damaged_of_applyDamage (h : w.applyDamage host gridId blockId damage eventSequence = .ok w') :
    Damaged host w gridId blockId damage eventSequence w' := by
  simp only [applyDamage, bind_eq_ok, grid_eq_ok, demand_eq_ok] at h
  obtain ⟨grid, hgrid, block, hblock, h⟩ := h
  split_ifs at h with hhealth
  · rw [pure_eq_ok] at h
    subst h
    exact .hurt hgrid hblock hhealth
  · simp only [recordDestroyed, bind_eq_ok, plainAdd_eq_ok, pure_eq_ok] at h
    obtain ⟨_, ⟨_, ⟨-, rfl⟩, _, ⟨-, rfl⟩, rfl⟩, dropped, hqueue, hsplit⟩ := h
    change (w.broken gridId grid blockId block).dropQueue _ _ _ = _ at hqueue
    rcases dropQueue_eq_ok hqueue with ⟨hidle, rfl⟩ | ⟨queue, contents, hq, hcontents, hdrop, rfl⟩
    · have hbroken : (w.broken gridId grid blockId block).grids =
          w.grids.insert gridId (remains grid blockId) := broken_grids
      obtain ⟨rfl, hfiled⟩ := splitDisconnectedGrid_eq_ok
        (by rw [hbroken]; exact OrdMap.get?_insert_self) hsplit
      rw [shattered_congr hbroken broken_voxels]
      exact .destroyed hgrid hblock (by simpa using hidle) fun hid =>
        (hfiled hid).congr hbroken broken_voxels
    · have hbroken : (w.broken gridId grid blockId block).grids =
          w.grids.insert gridId (remains grid blockId) := broken_grids
      obtain ⟨rfl, hfiled⟩ := splitDisconnectedGrid_eq_ok
        (by simp only [withInventory, hbroken]; exact OrdMap.get?_insert_self) hsplit
      rw [shattered_congr (w := w) (by simp only [withInventory, hbroken]; rfl)
        (by simp [withInventory])]
      rw [broken_productionQueues] at hq
      have hnone := get?_broken_eq_none.mp hdrop
      simp only [broken_productionQueues]
      exact .destroyedMachine hgrid hblock hq hcontents hnone fun hid =>
        (hfiled hid).congr (by simp only [withInventory, hbroken]; rfl) (by simp [withInventory])

end WorldState

end Verse
