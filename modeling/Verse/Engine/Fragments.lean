import Verse.Engine.Equipped
import Verse.Lib.Connected

/-!
# The fragments of a grid

What is left of a damaged grid comes apart into its face-connected components and into nothing
else. The flood carries that: whatever it has taken up is joined to where it began, and whatever
it has passed has no neighbour left behind. Each component is flooded from what the earlier ones
have left, and since no face joins it to them, it is a component of the whole.
-/

namespace Verse

open Lib

variable {host : Host}

namespace IVec3

/-- The second coordinate is one of the neighbours that the code computes for the first. -/
def Adjacent (a b : IVec3) : Prop := b ∈ a.neighbors

/-- The two coordinates share a face. -/
def SharesFace (a b : IVec3) : Prop :=
  (a.x - b.x).natAbs + (a.y - b.y).natAbs + (a.z - b.z).natAbs = 1

/-- No neighbour of the coordinate lies beyond an `i32`. -/
def Inside (c : IVec3) : Prop :=
  (FitsI32 (c.x + 1) ∧ FitsI32 (c.x - 1)) ∧ (FitsI32 (c.y + 1) ∧ FitsI32 (c.y - 1))
    ∧ FitsI32 (c.z + 1) ∧ FitsI32 (c.z - 1)

instance (c : IVec3) : Decidable c.Inside := inferInstanceAs (Decidable (_ ∧ _))

instance (a b : IVec3) : Decidable (a.SharesFace b) := inferInstanceAs (Decidable (_ = _))

variable {a b : IVec3}

theorem adjacent_iff : a.Adjacent b ↔
    b = new (a.x + 1) a.y a.z ∨ b = new (a.x - 1) a.y a.z ∨ b = new a.x (a.y + 1) a.z
      ∨ b = new a.x (a.y - 1) a.z ∨ b = new a.x a.y (a.z + 1) ∨ b = new a.x a.y (a.z - 1) := by
  simp [Adjacent, neighbors]

theorem Adjacent.symm (h : a.Adjacent b) : b.Adjacent a := by
  obtain ⟨hx, hy, hz⟩ := a.fits
  unfold FitsI32 at hx hy hz
  rw [adjacent_iff] at h ⊢
  simp only [eq_new_iff, wrapI32] at h ⊢
  -- each step is undone by the other step along its axis
  rcases h with h | h | h | h | h | h
  · exact .inr (.inl (by omega))
  · exact .inl (by omega)
  · exact .inr (.inr (.inr (.inl (by omega))))
  · exact .inr (.inr (.inl (by omega)))
  · exact .inr (.inr (.inr (.inr (.inr (by omega)))))
  · exact .inr (.inr (.inr (.inr (.inl (by omega)))))

/-- Where nothing wraps around, the neighbours are what shares a face. -/
theorem adjacent_iff_sharesFace (h : a.Inside) : a.Adjacent b ↔ a.SharesFace b := by
  obtain ⟨⟨hx, hx'⟩, ⟨hy, hy'⟩, hz, hz'⟩ := h
  obtain ⟨hax, hay, haz⟩ := a.fits
  rw [adjacent_iff]
  simp only [eq_new_iff, wrapI32_eq_self hx, wrapI32_eq_self hx', wrapI32_eq_self hy,
    wrapI32_eq_self hy', wrapI32_eq_self hz, wrapI32_eq_self hz', wrapI32_eq_self hax,
    wrapI32_eq_self hay, wrapI32_eq_self haz, SharesFace]
  constructor
  · rintro (⟨h₁, h₂, h₃⟩ | ⟨h₁, h₂, h₃⟩ | ⟨h₁, h₂, h₃⟩ | ⟨h₁, h₂, h₃⟩ | ⟨h₁, h₂, h₃⟩ | ⟨h₁, h₂, h₃⟩) <;>
      (rw [h₁, h₂, h₃]; omega)
  · intro h
    -- one of the three distances is one, and the other two are none
    have hone : (a.x - b.x).natAbs = 1 ∧ a.y = b.y ∧ a.z = b.z
        ∨ a.x = b.x ∧ (a.y - b.y).natAbs = 1 ∧ a.z = b.z
        ∨ a.x = b.x ∧ a.y = b.y ∧ (a.z - b.z).natAbs = 1 := by
      omega
    rcases hone with ⟨h₁, h₂, h₃⟩ | ⟨h₁, h₂, h₃⟩ | ⟨h₁, h₂, h₃⟩ <;> omega

end IVec3

/-! ## The flood -/

variable {component : OrdMap IVec3 Unit} {c other : IVec3}

theorem mem_keys_insert :
    other ∈ (component.insert c ()).keys ↔ other = c ∨ other ∈ component.keys := by
  simp only [OrdMap.mem_keys, OrdMap.get?_insert]
  by_cases h : other = c
  · simp [h]
  · simp [h]

variable {remaining : OrdMap IVec3 Unit}

theorem mem_keys_foldl_erase {found : List IVec3} :
    c ∈ (found.foldl OrdMap.erase remaining).keys ↔ c ∈ remaining.keys ∧ c ∉ found := by
  induction found generalizing remaining with
  | nil => simp
  | cons other found ih =>
    rw [List.foldl_cons, ih]
    simp only [OrdMap.mem_keys, OrdMap.get?_erase, List.mem_cons, not_or]
    by_cases h : c = other
    · simp [h]
    · simp [h]

theorem mem_found :
    other ∈ c.neighbors.filter remaining.contains ↔ c.Adjacent other ∧ other ∈ remaining.keys := by
  rw [List.mem_filter, OrdMap.contains_iff, OrdMap.mem_keys]
  rfl

/-- A flood under way: all it has taken up is joined to its start, and what it has passed has no
    neighbour left behind. -/
structure Flooding (start : IVec3) (queue : List IVec3) (component remaining : OrdMap IVec3 Unit) :
    Prop where
  started : start ∈ component.keys ∨ start ∈ queue
  joined : ∀ c, c ∈ component.keys ∨ c ∈ queue →
    Joined IVec3.Adjacent {c | c ∈ component.keys ∨ c ∈ queue} start c
  passed : ∀ c ∈ component.keys, ∀ other, c.Adjacent other → other ∉ remaining.keys

variable {fuel : Nat}

namespace Flooding

variable {start c : IVec3} {queue : List IVec3} {component remaining : OrdMap IVec3 Unit}

theorem start_of (start : IVec3) (remaining : OrdMap IVec3 Unit) :
    Flooding start [start] OrdMap.empty remaining where
  started := .inr List.mem_cons_self
  joined c hc := by
    have hstart : c = start := by simpa [OrdMap.keys, OrdMap.empty] using hc
    rw [hstart]
    exact .refl
  passed c hc := by simp [OrdMap.keys, OrdMap.empty] at hc

theorem turn (h : Flooding start (c :: queue) component remaining) :
    Flooding start (queue ++ c.neighbors.filter remaining.contains) (component.insert c ())
      ((c.neighbors.filter remaining.contains).foldl OrdMap.erase remaining) := by
  have hsub : {x | x ∈ component.keys ∨ x ∈ c :: queue} ⊆ {x | x ∈ (component.insert c ()).keys
      ∨ x ∈ queue ++ c.neighbors.filter remaining.contains} := by
    intro x hx
    simp only [Set.mem_ofPred_eq, mem_keys_insert, List.mem_append, List.mem_cons] at hx ⊢
    tauto
  have hc : c ∈ {x | x ∈ component.keys ∨ x ∈ c :: queue} := .inr List.mem_cons_self
  refine ⟨hsub h.started, ?_, ?_⟩
  · intro x hx
    by_cases hold : x ∈ component.keys ∨ x ∈ c :: queue
    · exact (h.joined x hold).mono hsub
    · -- a neighbour that has just been found
      have hfound : x ∈ c.neighbors.filter remaining.contains := by
        simp only [mem_keys_insert, List.mem_append, List.mem_cons] at hx hold
        tauto
      refine ((h.joined c hc).mono hsub).trans (.step (hsub hc) ?_ (mem_found.mp hfound).1)
      exact .inr (List.mem_append_right _ hfound)
  · intro x hx other hadj hother
    obtain ⟨hremains, hnew⟩ := mem_keys_foldl_erase.mp hother
    rcases mem_keys_insert.mp hx with rfl | hx
    · exact hnew (mem_found.mpr ⟨hadj, hremains⟩)
    · exact h.passed x hx other hadj hremains

theorem flood (h : Flooding start queue component remaining)
    (hfuel : queue.length + remaining.size ≤ fuel) :
    Flooding start [] (floodComponent fuel queue component remaining).1
      (floodComponent fuel queue component remaining).2 := by
  induction fuel generalizing queue component remaining with
  | zero =>
    obtain rfl : queue = [] := List.eq_nil_of_length_eq_zero (by omega)
    exact h
  | succ fuel ih =>
    cases queue with
    | nil => exact h
    | cons c queue =>
      rw [floodComponent]
      apply ih h.turn
      have hsplit := keys_foldl_erase_perm ((neighbors_nodup c).filter remaining.contains)
        fun x hx => (mem_found.mp hx).2
      have hlength := hsplit.length_eq
      simp only [List.length_append, OrdMap.keys, List.length_map, OrdMap.size,
        List.length_cons] at hlength hfuel ⊢
      omega

end Flooding

/-- A finished flood has taken up one component of what there was. -/
theorem isComponent_flooded {start : IVec3} {left} (h : Flooding start [] component left)
    (hsplit : (component.keys ++ left.keys).Perm remaining.keys) :
    IsComponent IVec3.Adjacent {c | c ∈ remaining.keys} {c | c ∈ component.keys} where
  subset c hc := hsplit.mem_iff.mp (List.mem_append_left _ hc)
  nonempty := ⟨start, by simpa using h.started⟩
  connected := by
    apply Connected.of_joined fun _ _ => IVec3.Adjacent.symm
    intro c hc
    have hjoined := h.joined c (.inl hc)
    simpa using hjoined
  closed c hc other hother hadj := by
    rcases List.mem_append.mp (hsplit.mem_iff.mpr hother) with hin | hleft
    · exact hin
    · exact absurd hleft (h.passed c hc other hadj)

/-- What is flooded one after the other are the components of the coordinates. -/
theorem isComponent_faceComponents
    (hfuel : remaining.size ≤ fuel) :
    ∀ component ∈ faceComponents fuel remaining,
      IsComponent IVec3.Adjacent {c | c ∈ remaining.keys} {c | c ∈ component.keys} := by
  induction fuel generalizing remaining with
  | zero =>
    intro component hmem
    simp [faceComponents] at hmem
  | succ fuel ih =>
    intro component hmem
    rw [faceComponents] at hmem
    cases hkeys : remaining.keys with
    | nil => simp [hkeys] at hmem
    | cons start rest =>
      simp only [hkeys] at hmem
      have hstart : remaining.keys.Perm (start :: (remaining.erase start).keys) :=
        keys_erase_perm (by simp [hkeys])
      have hsize : remaining.size = (remaining.erase start).size + 1 := by
        simpa [size_eq_length_keys] using hstart.length_eq
      have hroom : [start].length + (remaining.erase start).size ≤ remaining.size := by
        simp [hsize]
        omega
      set flooded := floodComponent remaining.size [start] OrdMap.empty (remaining.erase start)
        with hflooded
      have hflood : (flooded.1.keys ++ flooded.2.keys).Perm
          (start :: (remaining.erase start).keys) :=
        floodComponent_perm hroom (hstart.nodup_iff.mp OrdMap.keys_nodup)
      have hsplit := hflood.trans hstart.symm
      have hfirst : IsComponent IVec3.Adjacent {c | c ∈ remaining.keys} {c | c ∈ flooded.1.keys} :=
        isComponent_flooded ((Flooding.start_of start _).flood hroom) hsplit
      rw [← hkeys]
      rcases List.mem_cons.mp hmem with rfl | hmem
      · exact hfirst
      · have hrest := ih (floodComponent_size_le.trans (by omega)) component hmem
        refine hfirst.of_rest (fun _ _ => IVec3.Adjacent.symm) ?_ ?_ hrest
        · intro c
          rw [Set.mem_ofPred_eq, ← hsplit.mem_iff, List.mem_append]
          rfl
        · intro c hc hleft
          have hnodup := hsplit.nodup_iff.mpr OrdMap.keys_nodup
          exact (List.nodup_append.mp hnodup).2.2 c hc c hleft rfl

/-! ## The fragments -/

variable {block : Block}

namespace Grid

variable {grid : Grid}

/-- The coordinates of the blocks. -/
def occupied (grid : Grid) : Set IVec3 :=
  {c | ∃ blockId block, grid.blocks.get? blockId = some block ∧ block.coordinate = c}

theorem WellPlaced.mem_byCoordinate (h : grid.WellPlaced) :
    c ∈ grid.byCoordinate.keys ↔ c ∈ grid.occupied := by
  rw [OrdMap.keys, (h.byCoordinate_perm.map Prod.fst).mem_iff]
  simp only [List.map_map, List.mem_map, Function.comp_apply, occupied, Set.mem_ofPred_eq,
    OrdMap.mem_values]
  constructor
  · intro hc
    obtain ⟨block, ⟨blockId, hblock⟩, rfl⟩ := hc
    exact ⟨blockId, block, hblock, rfl⟩
  · intro hc
    obtain ⟨blockId, block, hblock, rfl⟩ := hc
    exact ⟨block, ⟨blockId, hblock⟩, rfl⟩

theorem isComponent_components (h : grid.WellPlaced)
    (hmem : component ∈ grid.components) :
    IsComponent IVec3.Adjacent grid.occupied {c | c ∈ component.keys} := by
  have hoccupied : {c | c ∈ (OrdMap.ofList (grid.byCoordinate.keys.map fun coordinate =>
      (coordinate, ()))).keys} = grid.occupied := by
    ext c
    rw [Set.mem_ofPred_eq, ← h.mem_byCoordinate, ← components_perm.mem_iff,
      ← (faceComponents_perm le_rfl).mem_iff]
    exact (((List.mergeSort_perm _ _).flatMap_right _).mem_iff).symm
  rw [← hoccupied]
  exact isComponent_faceComponents le_rfl component
    ((List.mergeSort_perm _ _).mem_iff.mp hmem)

theorem WellPlaced.get?_componentBlocks (h : grid.WellPlaced)
    {blockId : String} :
    (grid.componentBlocks component).get? blockId = some block ↔
      grid.blocks.get? blockId = some block ∧ block.coordinate ∈ component.keys := by
  rw [← OrdMap.mem_entries, h.componentBlocks_perm.mem_iff, List.mem_filterMap]
  constructor
  · intro hentry
    obtain ⟨c, hc, hat⟩ := hentry
    obtain ⟨hblock, rfl⟩ := h.entryAt_eq.mp hat
    exact ⟨hblock, hc⟩
  · intro hentry
    obtain ⟨hblock, hc⟩ := hentry
    exact ⟨block.coordinate, hc, h.entryAt_eq.mpr ⟨hblock, rfl⟩⟩

/-- A component holds the coordinates of the blocks it takes. -/
theorem WellPlaced.occupied_componentBlocks (h : grid.WellPlaced)
    (hmem : component ∈ grid.components) {other : Grid}
    (hblocks : other.blocks = grid.componentBlocks component) :
    other.occupied = {c | c ∈ component.keys} := by
  ext c
  simp only [occupied, hblocks, Set.mem_ofPred_eq, h.get?_componentBlocks]
  constructor
  · intro hc
    obtain ⟨blockId, block, ⟨_, hin⟩, rfl⟩ := hc
    exact hin
  · intro hc
    obtain ⟨blockId, block, hblock, rfl⟩ := (isComponent_components h hmem).subset hc
    exact ⟨blockId, block, ⟨hblock, hc⟩, rfl⟩

/-! ## The fragment that goes on as the grid -/

/-- A control core stands in the grid. -/
def HasCore (grid : Grid) : Prop :=
  ∃ blockId block, grid.blocks.get? blockId = some block ∧ block.kind = .controlCore

theorem WellPlaced.blockOf_eq (h : grid.WellPlaced) :
    grid.blockOf c = some block ↔
      ∃ blockId, grid.blocks.get? blockId = some block ∧ block.coordinate = c := by
  have hentry : grid.blockOf c = (grid.entryAt c).map Prod.snd := by
    unfold blockOf entryAt
    cases grid.byCoordinate.get? c with
    | none => rfl
    | some blockId =>
      simp only [Option.bind_some]
      cases grid.blocks.get? blockId <;> rfl
  rw [hentry, Option.map_eq_some_iff]
  constructor
  · intro hfound
    obtain ⟨⟨blockId, found⟩, hat, rfl⟩ := hfound
    exact ⟨blockId, h.entryAt_eq.mp hat⟩
  · intro hfound
    obtain ⟨blockId, hblock⟩ := hfound
    exact ⟨(blockId, block), h.entryAt_eq.mpr hblock, rfl⟩

/-- Whether a component has a control core in it. -/
def coreIn (grid : Grid) (component : OrdMap IVec3 Unit) : Bool :=
  component.keys.any fun coordinate =>
    match grid.blockOf coordinate with
    | some block => block.kind == .controlCore
    | none => false

theorem WellPlaced.coreIn_iff (h : grid.WellPlaced) :
    grid.coreIn component = true ↔ ∃ blockId block,
      (grid.componentBlocks component).get? blockId = some block ∧ block.kind = .controlCore := by
  simp only [coreIn, List.any_eq_true, h.get?_componentBlocks]
  constructor
  · intro hcore
    obtain ⟨c, hc, hkind⟩ := hcore
    cases hblock : grid.blockOf c with
    | none => simp [hblock] at hkind
    | some block =>
      obtain ⟨blockId, hget, rfl⟩ := h.blockOf_eq.mp hblock
      exact ⟨blockId, block, ⟨hget, hc⟩, by simpa [hblock] using hkind⟩
  · intro hcore
    obtain ⟨blockId, block, ⟨hget, hc⟩, hkind⟩ := hcore
    have hblock : grid.blockOf block.coordinate = some block := h.blockOf_eq.mpr ⟨_, hget, rfl⟩
    exact ⟨block.coordinate, hc, by simp [hblock, hkind]⟩

/-- The primary component is one of them, and has a core in it if any has. -/
theorem primaryIndex_spec (h : grid.components ≠ []) :
    ∃ hlt : grid.primaryIndex < grid.components.length,
      (∃ component ∈ grid.components, grid.coreIn component = true) →
        grid.coreIn grid.components[grid.primaryIndex] = true := by
  have hindex : grid.primaryIndex = (grid.components.findIdx? grid.coreIn).getD 0 := rfl
  cases hfound : grid.components.findIdx? grid.coreIn with
  | none =>
    rw [hfound, Option.getD_none] at hindex
    refine ⟨by rw [hindex]; exact List.length_pos_of_ne_nil h, fun hcore => ?_⟩
    obtain ⟨component, hmem, hin⟩ := hcore
    have hnone := List.findIdx?_eq_none_iff.mp hfound component hmem
    rw [hin] at hnone
    cases hnone
  | some index =>
    rw [hfound, Option.getD_some] at hindex
    obtain ⟨hlt, hin, _⟩ := List.findIdx?_eq_some_iff_getElem.mp hfound
    subst hindex
    exact ⟨hlt, fun _ => hin⟩

/-- The block is a finished anchor on or beside an occupied voxel. -/
def AnchorContact (host : Host) (grid : Grid) (voxels : VoxelField) (block : Block) : Prop :=
  block.kind = .anchor ∧ block.constructionComplete = true
    ∧ (voxels.occupied.contains
          (host.worldCoordinate grid.position grid.orientation block.coordinate) = true
      ∨ ∃ beside ∈ (host.worldCoordinate grid.position grid.orientation
          block.coordinate).neighbors, voxels.occupied.contains beside = true)

variable {voxels : VoxelField}

theorem anchorTouches_iff : grid.anchorTouches host voxels = true ↔
    ∃ blockId block, grid.blocks.get? blockId = some block
      ∧ grid.AnchorContact host voxels block := by
  simp only [anchorTouches, anchorTouchesAfterRemoval, List.any_eq_true, Bool.and_eq_true,
    beq_iff_eq, Bool.or_eq_true, decide_eq_true_eq, ne_eq, reduceCtorEq, not_false_eq_true,
    true_and, AnchorContact, OrdMap.mem_values]
  constructor
  · intro h
    obtain ⟨block, ⟨blockId, hblock⟩, ⟨hkind, hdone⟩, htouch⟩ := h
    exact ⟨blockId, block, hblock, hkind, hdone, htouch⟩
  · intro h
    obtain ⟨blockId, block, hblock, hkind, hdone, htouch⟩ := h
    exact ⟨block, ⟨blockId, hblock⟩, ⟨hkind, hdone⟩, htouch⟩

/-- What a grid has come apart into. -/
structure Partition (host : Host) (grid : Grid) (voxels : VoxelField) (fragments : List Grid) :
    Prop where
  /-- The fragments hold the blocks of the grid as they were, each in one fragment. -/
  blocks : (fragments.flatMap fun fragment => fragment.blocks.entries).Perm grid.blocks.entries
  /-- Each fragment is face-connected, and no face joins it to another. -/
  components : ∀ fragment ∈ fragments,
    IsComponent IVec3.SharesFace grid.occupied fragment.occupied
  ids : (fragments.map Grid.gridId).Nodup
  owners : ∀ fragment ∈ fragments, fragment.ownerPlayerId = grid.ownerPlayerId
  /-- One of them goes on as the grid. -/
  primary : fragments ≠ [] → ∃ fragment ∈ fragments, fragment.gridId = grid.gridId
    ∧ fragment.anchorRewardEligible = grid.anchorRewardEligible
    ∧ (grid.HasCore → fragment.HasCore)
  rewards : ∀ fragment ∈ fragments, fragment.gridId ≠ grid.gridId →
    fragment.anchorRewardEligible = false
  anchors : ∀ fragment ∈ fragments, fragment.anchored = true → grid.anchored = true
    ∧ ∃ blockId block, fragment.blocks.get? blockId = some block
      ∧ grid.AnchorContact host voxels block

/-- No block of the grid lies where the coordinates end. -/
def Inside (grid : Grid) : Prop := ∀ block ∈ grid.blocks.values, block.coordinate.Inside

instance : Decidable grid.Inside := inferInstanceAs (Decidable (∀ block ∈ _, _))

theorem Inside.occupied (h : grid.Inside) (hc : c ∈ grid.occupied) : c.Inside := by
  obtain ⟨blockId, block, hblock, rfl⟩ := hc
  exact h block (OrdMap.mem_values.mpr ⟨blockId, hblock⟩)

/-- A grid comes apart into its components. -/
theorem WellPlaced.partition (h : grid.WellPlaced) (hinside : grid.Inside) {eventSequence : Nat} :
    grid.Partition host voxels (grid.fragments host voxels eventSequence) := by
  have hmember : ∀ fragment ∈ grid.fragments host voxels eventSequence,
      ∃ (index : Nat) (hlt : index < grid.components.length),
        fragment = grid.splitOff host voxels eventSequence index grid.components[index] := by
    intro fragment hmem
    obtain ⟨index, hindex, rfl⟩ := List.mem_iff_getElem.mp hmem
    have hlt : index < grid.components.length := by simpa [fragments] using hindex
    exact ⟨index, hlt, by simp only [fragments, List.getElem_mapIdx]⟩
  refine ⟨?_, ?_, gridIds_fragments_nodup, ?_, ?_, ?_, ?_⟩
  · have hperm : (((grid.fragments host voxels eventSequence).map Grid.blocks).flatMap
        OrdMap.entries).Perm grid.blocks.entries := h.fragments_perm
    rwa [List.flatMap_map] at hperm
  · intro fragment hmem
    obtain ⟨index, hlt, rfl⟩ := hmember fragment hmem
    have hin : grid.components[index] ∈ grid.components := List.getElem_mem hlt
    have hblocks : (grid.splitOff host voxels eventSequence index grid.components[index]).blocks
        = grid.componentBlocks grid.components[index] := rfl
    rw [h.occupied_componentBlocks hin hblocks]
    exact (isComponent_components h hin).congr fun c hc _ _ =>
      IVec3.adjacent_iff_sharesFace (hinside.occupied hc)
  · intro fragment hmem
    obtain ⟨index, hlt, rfl⟩ := hmember fragment hmem
    rfl
  · intro hsome
    have hcomponents : grid.components ≠ [] := by
      intro hnone
      exact hsome (by simp [fragments, hnone])
    obtain ⟨hlt, hcore⟩ := primaryIndex_spec hcomponents
    refine ⟨grid.splitOff host voxels eventSequence grid.primaryIndex
      grid.components[grid.primaryIndex], ?_, ?_, ?_, ?_⟩
    · refine List.mem_iff_getElem.mpr ⟨grid.primaryIndex, by simpa [fragments] using hlt, ?_⟩
      simp only [fragments, List.getElem_mapIdx]
    · simp [splitOff, splitGridId]
    · simp [splitOff]
    · intro hcored
      obtain ⟨blockId, block, hblock, hkind⟩ := hcored
      have hoccupied : block.coordinate ∈ grid.byCoordinate.keys :=
        h.mem_byCoordinate.mpr ⟨blockId, block, hblock, rfl⟩
      obtain ⟨component, hmem, hin⟩ :=
        List.mem_flatMap.mp (components_perm.mem_iff.mpr hoccupied)
      have hheld : grid.coreIn component = true :=
        h.coreIn_iff.mpr ⟨blockId, block, h.get?_componentBlocks.mpr ⟨hblock, hin⟩, hkind⟩
      exact h.coreIn_iff.mp (hcore ⟨component, hmem, hheld⟩)
  · intro fragment hmem hother
    obtain ⟨index, hlt, rfl⟩ := hmember fragment hmem
    have hindex : index ≠ grid.primaryIndex := by
      intro heq
      exact hother (by simp [splitOff, splitGridId, heq])
    simp [splitOff, hindex]
  · intro fragment hmem hanchored
    obtain ⟨index, hlt, rfl⟩ := hmember fragment hmem
    simp only [splitOff, Bool.and_eq_true] at hanchored
    obtain ⟨hheld, htouches⟩ := hanchored
    exact ⟨hheld, anchorTouches_iff.mp htouches⟩

end Grid

namespace WorldState

variable {w w' : WorldState} {gridId blockId : String} {damage eventSequence : Nat}

/-- The world in which the fragments have taken the place of a grid. -/
structure ComesApart (host : Host) (w : WorldState) (gridId : String) (survivors : Grid)
    (fragments : List Grid) (w' : WorldState) : Prop where
  partition : survivors.Partition host w.voxels fragments
  grids : ∀ key found, w'.grids.get? key = some found ↔
    (found ∈ fragments ∧ found.gridId = key) ∨ (key ≠ gridId ∧ w.grids.get? key = some found)
  fresh : ∀ fragment ∈ fragments, fragment.gridId ≠ gridId →
    w.grids.get? fragment.gridId = none

theorem comesApart_shattered {survivors : Grid} (hplaced : survivors.WellPlaced)
    (hinside : survivors.Inside)
    (hfresh : FragmentsFresh host w gridId survivors eventSequence)
    (hgrids : w'.grids = w.shattered host gridId survivors eventSequence) :
    ComesApart host w gridId survivors
      (survivors.fragments host w.voxels eventSequence) w' where
  partition := hplaced.partition hinside
  grids key found := by
    rw [hgrids]
    exact get?_shattered hfresh
  fresh := hfresh

/-- What a block of the remaining grid relies on is left as it was. -/
structure Undamaged (kept : Block) (other : String) (w w' : WorldState) : Prop where
  inventory : ∀ inventoryId, kept.inventoryId = some inventoryId →
    w'.inventories.get? inventoryId = w.inventories.get? inventoryId
  queue : w'.productionQueues.get? other = w.productionQueues.get? other

theorem get?_dropCargo_of_kept (hvalid : Valid host w) {grid : Grid} {kept : Block}
    {other inventoryId : String} (hgrid : w.grids.get? gridId = some grid)
    (hblock : grid.blocks.get? blockId = some block) (hkept : grid.blocks.get? other = some kept)
    (hother : other ≠ blockId) (hinventory : kept.inventoryId = some inventoryId)
    {ownerPlayerId : String} :
    (w.dropCargo block ownerPlayerId).inventories.get? inventoryId
      = w.inventories.get? inventoryId := by
  rw [get?_dropCargo_inventories, if_neg]
  intro hsame
  obtain ⟨record, hrecord, hdomain⟩ :=
    hvalid.cargo blockId grid block inventoryId ⟨gridId, hgrid, hblock⟩ hsame
  obtain ⟨record', hrecord', hdomain'⟩ :=
    hvalid.cargo other grid kept inventoryId ⟨gridId, hgrid, hkept⟩ hinventory
  obtain rfl := Option.mem_unique hrecord hrecord'
  exact hother (InventoryDomain.cargo.inj (hdomain'.symm.trans hdomain))

/-- Whatever blocks a grid has lost, what is left of it comes apart into its face-connected
    components, unless a block lies at the end of the coordinates, where the code's neighbours
    wrap around. And where damage destroys a block, in a world as the validator accepts it, that
    is what its grid comes to, and no other block of it loses its cargo or its queue. -/
theorem damage_partitions (hvalid : w.validatePlayerRoster host = .ok ()) :
    (∀ gridId survivors eventSequence v v', v.grids.get? gridId = some survivors →
      survivors.gridId = gridId → survivors.WellPlaced → survivors.Inside →
      v.splitDisconnectedGrid host gridId eventSequence = .ok v' →
      ∃ fragments, ComesApart host v gridId survivors fragments v')
    ∧ ∀ gridId blockId damage eventSequence grid block w', w.grids.get? gridId = some grid →
      grid.blocks.get? blockId = some block → block.health ≤ damage →
      (remains grid blockId).Inside →
      w.applyDamage host gridId blockId damage eventSequence = .ok w' →
      (∃ fragments, ComesApart host w gridId (remains grid blockId) fragments w')
        ∧ ∀ other kept, (remains grid blockId).blocks.get? other = some kept →
          Undamaged kept other w w' := by
  constructor
  · intro gridId survivors eventSequence v v' hgrid hfiled hplaced hinside h
    obtain ⟨rfl, hfresh⟩ := splitDisconnectedGrid_eq_ok hgrid h
    exact ⟨_, comesApart_shattered hplaced hinside (hfresh hfiled) rfl⟩
  · intro gridId blockId damage eventSequence grid block w' hgrid hblock hdestroyed hinside h
    have hvalid := (validatePlayerRoster_eq_ok host).mp hvalid
    have hgridOk := hvalid.grids gridId grid hgrid
    have hplaced : (remains grid blockId).WellPlaced := (Grid.WellPlaced.of_gridOk hgridOk).erase
    have hstays : ∀ other kept, (remains grid blockId).blocks.get? other = some kept →
        other ≠ blockId ∧ grid.blocks.get? other = some kept := by
      intro other kept hkept
      rw [remains, OrdMap.get?_erase] at hkept
      split_ifs at hkept with hother
      exact ⟨hother, hkept⟩
    cases damaged_of_applyDamage h with
    | hurt hgrid' hblock' hhealth =>
      obtain rfl := Option.mem_unique hgrid hgrid'
      obtain rfl := Option.mem_unique hblock hblock'
      exact absurd hdestroyed hhealth.not_ge
    | destroyed hgrid' hblock' hidle hfresh =>
      obtain rfl := Option.mem_unique hgrid hgrid'
      obtain rfl := Option.mem_unique hblock hblock'
      refine ⟨⟨_, comesApart_shattered hplaced hinside (hfresh hgridOk.filed.symm) rfl⟩, ?_⟩
      intro other kept hkept
      obtain ⟨hother, hkept⟩ := hstays other kept hkept
      refine ⟨fun inventoryId hinventory => ?_, ?_⟩
      · rw [wrecked_eq]
        exact get?_dropCargo_of_kept hvalid hgrid hblock hkept hother hinventory
      · simp [wrecked]
    | destroyedMachine hgrid' hblock' hqueue hcontents hdrop hfresh =>
      obtain rfl := Option.mem_unique hgrid hgrid'
      obtain rfl := Option.mem_unique hblock hblock'
      refine ⟨⟨_, comesApart_shattered hplaced hinside (hfresh hgridOk.filed.symm) rfl⟩, ?_⟩
      intro other kept hkept
      obtain ⟨hother, hkept⟩ := hstays other kept hkept
      refine ⟨fun inventoryId hinventory => ?_, ?_⟩
      · obtain ⟨record, hrecord, _⟩ :=
          hvalid.cargo other grid kept inventoryId ⟨gridId, hgrid, hkept⟩ hinventory
        have hne : inventoryId ≠ s!"inventory-production-drop-{eventSequence}-{blockId}" := by
          rintro rfl
          rw [hdrop] at hrecord
          cases hrecord
        simp only [withInventory, OrdMap.get?_insert_ne hne, wrecked_eq]
        exact get?_dropCargo_of_kept hvalid hgrid hblock hkept hother hinventory
      · simp [withInventory, OrdMap.get?_erase, hother]

/-- The small cell loses its cargo and keeps its refinery, with the queue of it. -/
theorem damage_partitions_cargo : ∃ grid w', proofCell.grids.get? "grid-works" = some grid
    ∧ (∃ fragments,
      ComesApart proofHost proofCell "grid-works" (remains grid "block-cargo") fragments w')
    ∧ ∀ other kept, (remains grid "block-cargo").blocks.get? other = some kept →
      Undamaged kept other proofCell w' := by
  have hvalid : proofCell.validatePlayerRoster proofHost = .ok () := by decide +kernel
  have hdone : (proofCell.applyDamage proofHost "grid-works" "block-cargo" u64Max 2).isOk = true := by
    decide +kernel
  have hblock : (proofGrid.blocks.get? "block-cargo").any fun block => block.health ≤ u64Max := by
    decide +kernel
  obtain ⟨block, hblock, hhealth⟩ := (Option.any_eq_true _ _).mp hblock
  cases hdamaged : proofCell.applyDamage proofHost "grid-works" "block-cargo" u64Max 2 with
  | error refusal => simp [hdamaged, Except.isOk, Except.toBool] at hdone
  | ok w' =>
    have hgrid : proofCell.grids.get? "grid-works" = some proofGrid := rfl
    obtain ⟨hfragments, hkept⟩ := (damage_partitions hvalid).2 "grid-works" "block-cargo" u64Max 2
      proofGrid block w' hgrid hblock (of_decide_eq_true hhealth) (by decide +kernel) hdamaged
    exact ⟨proofGrid, w', hgrid, hfragments, hkept⟩

/-- The works with its machine at one end of an axis and its source at the other. -/
def farGrid : Grid := { proofGrid with
  blocks := .ofList [
    ("block-cargo", { Block.new "block-cargo" (.new 0 0 0) .cargo with
      inventoryId := some "inventory-cargo" }),
    ("block-refinery", Block.new "block-refinery" (.new 2147483647 0 0) .refinery),
    ("block-source", Block.new "block-source" (.new (-2147483648) 0 0) .powerSource)] }

def farCell : WorldState := { proofCell with
  grids := .ofList [("grid-works", farGrid)]
  ledger := { proofCell.ledger with genesisInstalledComponents := 6 } }

/-- At the ends of the coordinates the flood steps from one to the other: when the cargo is
    destroyed, the two blocks that are left stay one grid, though no face joins them. -/
theorem not_damage_partitions : farCell.validatePlayerRoster proofHost = .ok ()
    ∧ ∃ w', farCell.applyDamage proofHost "grid-works" "block-cargo" u64Max 2 = .ok w'
      ∧ ∀ fragments, ¬ ComesApart proofHost farCell "grid-works"
        (remains farGrid "block-cargo") fragments w' := by
  refine ⟨by decide +kernel, ?_⟩
  have hdone : (farCell.applyDamage proofHost "grid-works" "block-cargo" u64Max 2).toOption.any
      (fun w' => (w'.grids.get? "grid-works").any fun left =>
        decide ((left.blocks.get? "block-refinery").map (·.coordinate) = some (.new 2147483647 0 0))
        && decide ((left.blocks.get? "block-source").map (·.coordinate)
          = some (.new (-2147483648) 0 0))
        && decide (∀ block ∈ left.blocks.values,
          ¬ IVec3.SharesFace (.new 2147483647 0 0) block.coordinate)) = true := by
    decide +kernel
  cases hdamaged : farCell.applyDamage proofHost "grid-works" "block-cargo" u64Max 2 with
  | error refusal => simp [hdamaged, Except.toOption] at hdone
  | ok w' =>
    refine ⟨w', rfl, fun fragments happart => ?_⟩
    simp only [hdamaged, Except.toOption, Option.any_some, Option.any_eq_true, Bool.and_eq_true,
      decide_eq_true_eq, Option.map_eq_some_iff] at hdone
    obtain ⟨left, hleft, ⟨⟨near, hnear, hnearAt⟩, far, hfar, hfarAt⟩, halone⟩ := hdone
    have hfragment : left ∈ fragments := by
      rcases (happart.grids _ _).mp hleft with ⟨hmem, -⟩ | ⟨hother, -⟩
      · exact hmem
      · exact absurd rfl hother
    have hjoined := (happart.partition.components left hfragment).connected
      _ ⟨_, near, hnear, hnearAt⟩ _ ⟨_, far, hfar, hfarAt⟩
    rcases hjoined.cases_head with hsame | ⟨next, ⟨-, hnext, hface⟩, -⟩
    · exact absurd hsame (by decide)
    · obtain ⟨blockId, block, hblock, rfl⟩ := hnext
      exact halone block (OrdMap.mem_values.mpr ⟨blockId, hblock⟩) hface

end WorldState
end Verse
