import Verse.Engine.Contact
import Verse.Engine.Prepare
import Verse.Lib.Run

/-!
# What is forgotten with a body and what is not

Three events leave something behind in the memory of a world. A blow that destroys a block is
remembered wrongly by whoever touched or stood on that block, or on one that comes off with it.
A voxel is mined from under a player. A player leaves with its contacts still active. These are
the only ones: `live_memory_iff` says it of every run.
-/

namespace Verse

open Lib

/-- The blocks that keep the name of their grid when it comes apart. -/
def Grid.primaryBlocks (grid : Grid) : OrdMap String Block :=
  (grid.components[grid.primaryIndex]?).elim .empty grid.componentBlocks

theorem Grid.splitGridId_primary {grid : Grid} {eventSequence : Nat} :
    grid.splitGridId eventSequence grid.primaryIndex = grid.gridId := by
  simp [splitGridId]

theorem Grid.primaryBlocks_contains {host : Host} {grid : Grid} {voxels} {eventSequence : Nat}
    {blockId : String} :
    grid.primaryBlocks.contains blockId ↔
      ∃ fragment ∈ grid.fragments host voxels eventSequence,
        fragment.gridId = grid.gridId ∧ fragment.blocks.contains blockId := by
  constructor
  · intro hcontains
    cases hprimary : grid.components[grid.primaryIndex]? with
    | none => simp [primaryBlocks, hprimary, OrdMap.contains] at hcontains
    | some component =>
      refine ⟨grid.splitOff host voxels eventSequence grid.primaryIndex component, ?_,
        splitGridId_primary, by simpa [primaryBlocks, hprimary, splitOff] using hcontains⟩
      refine List.mem_of_getElem? (i := grid.primaryIndex) ?_
      simp only [fragments, List.getElem?_mapIdx, hprimary, Option.map_some]
  · rintro ⟨fragment, hmem, hname, hcontains⟩
    obtain ⟨index, hindex⟩ := List.getElem?_of_mem hmem
    simp only [fragments, List.getElem?_mapIdx, Option.map_eq_some_iff] at hindex
    obtain ⟨component, hcomponent, rfl⟩ := hindex
    have hprimary : index = grid.primaryIndex :=
      splitGridId_injective (hname.trans splitGridId_primary.symm)
    rw [hprimary] at hcomponent
    simpa [primaryBlocks, hcomponent, splitOff] using hcontains

/-! ## Names of voxels -/

theorem toList_toString_nat {n : Nat} : (toString n : String).toList = Nat.toDigits 10 n := by
  simp [toString, Nat.repr]

theorem minus_notMem_repr {n : Nat} : '-' ∉ (toString n : String).toList := by
  rw [toList_toString_nat]
  intro hmem
  exact absurd (Nat.isDigit_of_mem_toDigits (by decide) (by decide) hmem) (by decide)

/-- Lists are told apart from what follows the first mark. -/
theorem append_mark_injective {α : Type} {mark : α} {x y a b : List α} (hx : mark ∉ x)
    (hy : mark ∉ y) (h : x ++ mark :: a = y ++ mark :: b) : x = y ∧ a = b := by
  induction x generalizing y with
  | nil =>
    cases y with
    | nil => exact ⟨rfl, (List.cons.inj h).2⟩
    | cons d y =>
      obtain ⟨rfl, -⟩ := List.cons.inj h
      exact absurd List.mem_cons_self hy
  | cons c x ih =>
    cases y with
    | nil =>
      obtain ⟨rfl, -⟩ := List.cons.inj h
      exact absurd List.mem_cons_self hx
    | cons d y =>
      obtain ⟨rfl, hrest⟩ := List.cons.inj h
      obtain ⟨rfl, ha⟩ := ih (fun hmem => hx (List.mem_cons_of_mem _ hmem))
        (fun hmem => hy (List.mem_cons_of_mem _ hmem)) hrest
      exact ⟨rfl, ha⟩

theorem toString_nat_append_injective {m n : Nat} {a b : List Char}
    (h : (toString m : String).toList ++ '-' :: a = (toString n : String).toList ++ '-' :: b) :
    m = n ∧ a = b := by
  obtain ⟨hm, hrest⟩ := append_mark_injective minus_notMem_repr minus_notMem_repr h
  exact ⟨toString_nat_injective (String.toList_inj.mp hm), hrest⟩

theorem toString_int_append_injective {m n : Int} {a b : List Char}
    (h : (toString m : String).toList ++ '-' :: a = (toString n : String).toList ++ '-' :: b) :
    m = n ∧ a = b := by
  have hpositive : ∀ k : Nat, (toString (Int.ofNat k) : String) = toString k := fun _ => rfl
  have hnegative : ∀ k : Nat, (toString (Int.negSucc k) : String).toList
      = '-' :: (toString (k + 1) : String).toList := by
    intro k
    show ("-" ++ toString (k + 1) : String).toList = _
    rw [String.toList_append]
    rfl
  -- A numeral never begins with a dash, so both have the same sign.
  have hsign : ∀ {k : Nat} {rest rest' : List Char},
      (toString k : String).toList ++ rest ≠ '-' :: rest' := by
    intro k rest rest' he
    cases hdigits : (toString k : String).toList with
    | nil => exact absurd (toList_toString_nat.symm.trans hdigits) Nat.toDigits_ne_nil
    | cons c digits =>
      rw [hdigits, List.cons_append] at he
      have hmem : '-' ∈ (toString k : String).toList := by
        rw [hdigits, (List.cons.inj he).1]
        exact List.mem_cons_self
      exact minus_notMem_repr hmem
  cases m with
  | ofNat m =>
    cases n with
    | ofNat n =>
      rw [hpositive, hpositive] at h
      obtain ⟨rfl, hrest⟩ := toString_nat_append_injective h
      exact ⟨rfl, hrest⟩
    | negSucc n =>
      rw [hpositive, hnegative] at h
      exact absurd h hsign
  | negSucc m =>
    cases n with
    | ofNat n =>
      rw [hpositive, hnegative] at h
      exact absurd h.symm hsign
    | negSucc n =>
      rw [hnegative, hnegative, List.cons_append, List.cons_append] at h
      obtain ⟨hm, hrest⟩ := toString_nat_append_injective (List.cons.inj h).2
      obtain rfl : m = n := Nat.succ.inj hm
      exact ⟨rfl, hrest⟩

theorem toString_int_injective {m n : Int} (h : (toString m : String) = toString n) : m = n :=
  (toString_int_append_injective (a := []) (b := []) (by rw [h])).1

theorem voxelCollisionColliderId_injective {coordinate coordinate' : IVec3}
    (h : voxelCollisionColliderId coordinate = voxelCollisionColliderId coordinate') :
    coordinate = coordinate' := by
  have hname : ∀ c : IVec3, (voxelCollisionColliderId c).toList
      = "voxel-".toList ++ ((toString c.x : String).toList ++ '-' :: ((toString c.y : String).toList
        ++ '-' :: (toString c.z : String).toList)) := by
    intro c
    simp only [voxelCollisionColliderId, String.toList_append, List.append_assoc]
    rfl
  have hlist := congrArg String.toList h
  rw [hname, hname] at hlist
  obtain ⟨hx, hrest⟩ := toString_int_append_injective (List.append_cancel_left hlist)
  obtain ⟨hy, hz⟩ := toString_int_append_injective hrest
  have hlast := toString_int_injective (String.toList_inj.mp hz)
  cases coordinate
  cases coordinate'
  simp only at hx hy hlast
  subst hx hy hlast
  rfl

namespace WorldState

variable {host : Host} {w w' : WorldState} {event : CanonicalEvent}

/-! ## Whose collider it is -/

theorem Collider.walks (h : Embodied w) {playerId colliderId : String}
    (hcollider : w.Collider (playerBodyId playerId) colliderId) : w.Walks playerId := by
  generalize hbody : playerBodyId playerId = bodyId at hcollider
  cases hcollider with
  | player hwalks => exact playerBodyId_injective hbody ▸ hwalks
  | planet => exact absurd hbody playerBodyId_ne_planet
  | block hblock =>
    obtain ⟨grid, hgrid, -⟩ := hblock
    exact absurd hbody.symm (h.named _ grid hgrid).2.ne_player
  | voxel => exact absurd hbody.symm chunk_ne_player

theorem Collider.hasBlock {gridId blockId : String} (hname : GridName gridId)
    (hcollider : w.Collider gridId blockId) : w.HasBlock gridId blockId := by
  cases hcollider with
  | player => exact absurd rfl hname.ne_player
  | planet => exact absurd rfl hname.ne_planet
  | block hblock => exact hblock
  | voxel => exact absurd rfl hname.ne_chunk

theorem Collider.occupied (h : Embodied w) {coordinate : IVec3}
    (hcollider : w.Collider (voxelCollisionChunkBodyId coordinate)
      (voxelCollisionColliderId coordinate)) : w.voxels.occupied.contains coordinate := by
  generalize hbody : voxelCollisionChunkBodyId coordinate = bodyId at hcollider
  generalize hname : voxelCollisionColliderId coordinate = colliderId at hcollider
  cases hcollider with
  | player => exact absurd hbody chunk_ne_player
  | planet => exact absurd hbody chunk_ne_planet
  | block hblock =>
    obtain ⟨grid, hgrid, -⟩ := hblock
    exact absurd hbody.symm (h.named _ grid hgrid).2.ne_chunk
  | voxel hoccupied => exact voxelCollisionColliderId_injective hname ▸ hoccupied

/-! ## A voxel is mined -/

theorem live_mined (h : Embodied w) (hlive : LiveMemory w) (coordinate : IVec3) :
    let v := { w with voxels := w.voxels.remove coordinate }.forgetVoxelContacts coordinate
    Embodied v ∧ (LiveMemory v ↔ ¬ w.StandsOn (voxelCollisionChunkBodyId coordinate)
      (voxelCollisionColliderId coordinate)) := by
  intro v
  have hv : Embodied v := ⟨h.keyed, h.named, h.footing⟩
  refine ⟨hv, ?_, ?_⟩
  · intro hlater hstands
    have hcollider := hlater.collider hv (.inr hstands)
    have hgone := hcollider.occupied hv
    simp [v, forgetVoxelContacts, VoxelField.remove, OrdMap.contains] at hgone
  · intro hnobody bodyId colliderId hrecalls
    refine (physicsColliderExists_iff hv).mpr ?_
    have hbefore : w.Recalls bodyId colliderId
        ∧ (bodyId = voxelCollisionChunkBodyId coordinate →
          colliderId ≠ voxelCollisionColliderId coordinate) := by
      rcases hrecalls with ⟨pair, hpair, hends⟩ | hstands
      · obtain ⟨u, hkey⟩ := OrdMap.mem_keys.mp hpair
        simp only [v, forgetVoxelContacts, OrdMap.get?_filter] at hkey
        split_ifs at hkey with hkeep
        refine ⟨.inl ⟨pair, OrdMap.mem_keys.mpr ⟨u, hkey⟩, hends⟩, ?_⟩
        rintro rfl rfl
        rcases hends with ⟨hbody, hname⟩ | ⟨hbody, hname⟩ <;> simp [hbody, hname] at hkeep
      · refine ⟨.inr hstands, ?_⟩
        rintro rfl rfl
        exact hnobody hstands
    have hcollider := hlive.collider h hbefore.1
    cases hcollider with
    | player hwalks => exact .player hwalks
    | planet => exact .planet
    | block hblock => exact .block hblock
    | @voxel other hoccupied =>
      have hother : other ≠ coordinate := by
        rintro rfl
        exact hbefore.2 rfl rfl
      refine .voxel ?_
      simpa [v, forgetVoxelContacts, VoxelField.remove, OrdMap.contains, hother] using hoccupied

/-! ## A player leaves -/

theorem live_withoutSubject (h : Embodied w) (hlive : LiveMemory w) {package} :
    Embodied (withoutSubject w package) ∧ (LiveMemory (withoutSubject w package) ↔
      ¬ ∃ colliderId, w.Touches (playerBodyId package.aggregateId) colliderId) := by
  have hkept : ∀ {playerId player}, (withoutSubject w package).player.byId.get? playerId
      = some player → playerId ≠ package.aggregateId ∧ w.player.byId.get? playerId = some player := by
    intro playerId player hplayer
    simp only [withoutSubject, OrdMap.get?_erase] at hplayer
    split_ifs at hplayer with hother
    exact ⟨hother, hplayer⟩
  have hstood : ∀ {bodyId colliderId}, (withoutSubject w package).StandsOn bodyId colliderId →
      w.StandsOn bodyId colliderId := by
    rintro bodyId colliderId ⟨playerId, player, support, hplayer, hsupport⟩
    exact ⟨playerId, player, support, (hkept hplayer).2, hsupport⟩
  have hv : Embodied (withoutSubject w package) := {
    keyed := fun playerId player hplayer => h.keyed playerId player (hkept hplayer).2
    named := h.named
    footing := fun bodyId colliderId hstands => h.footing bodyId colliderId (hstood hstands) }
  refine ⟨hv, ?_, ?_⟩
  · rintro hlater ⟨colliderId, htouches⟩
    obtain ⟨player, hplayer, -⟩ := (hlater.collider hv (.inl htouches)).walks hv
    exact (hkept hplayer).1 rfl
  · intro hnobody bodyId colliderId hrecalls
    refine (physicsColliderExists_iff hv).mpr ?_
    have hother : bodyId ≠ playerBodyId package.aggregateId := by
      rintro rfl
      rcases hrecalls with htouches | hstands
      · exact hnobody ⟨colliderId, htouches⟩
      · exact h.footing _ _ (hstood hstands) _ rfl
    have hcollider := hlive.collider h (hrecalls.imp id hstood)
    cases hcollider with
    | @player playerId hwalks =>
      obtain ⟨player, hplayer, halive⟩ := hwalks
      have hne : playerId ≠ package.aggregateId := fun he => hother (he ▸ rfl)
      exact .player ⟨player, by simpa [withoutSubject, hne] using hplayer, halive⟩
    | planet => exact .planet
    | block hblock => exact .block hblock
    | voxel hoccupied => exact .voxel hoccupied

/-! ## A block is destroyed -/

section Shattering

variable {gridId blockId : String} {grid : Grid} {eventSequence : Nat}

/-- What a grid that comes apart has under its own name. -/
theorem hasBlock_shattered {colliderId : String} (hname : grid.gridId = gridId)
    (hfresh : FragmentsFresh host w gridId (remains grid blockId) eventSequence) :
    { w with grids := w.shattered host gridId (remains grid blockId) eventSequence }.HasBlock gridId
      colliderId ↔ (remains grid blockId).primaryBlocks.contains colliderId := by
  refine Iff.trans ?_ (@Grid.primaryBlocks_contains host _ w.voxels eventSequence _).symm
  constructor
  · rintro ⟨found, hfound, hcontains⟩
    rcases (get?_shattered hfresh).mp hfound with ⟨hmem, hkey⟩ | ⟨hne, -⟩
    · exact ⟨found, hmem, hkey.trans hname.symm, hcontains⟩
    · exact absurd rfl hne
  · rintro ⟨fragment, hmem, hkey, hcontains⟩
    exact ⟨fragment, (get?_shattered hfresh).mpr (.inl ⟨hmem, hkey.trans hname⟩), hcontains⟩

theorem live_shattered (h : Embodied w) (hlive : LiveMemory w)
    (hgrid : w.grids.get? gridId = some grid)
    (hfresh : FragmentsFresh host w gridId (remains grid blockId) eventSequence) :
    let v := { w with grids := w.shattered host gridId (remains grid blockId) eventSequence }
    Embodied v ∧ (LiveMemory v ↔ ∀ colliderId, w.Recalls gridId colliderId →
      (remains grid blockId).primaryBlocks.contains colliderId) := by
  intro v
  obtain ⟨hkey, hname⟩ := h.named gridId grid hgrid
  have hv : Embodied v := {
    keyed := h.keyed
    footing := h.footing
    named := by
      intro other found hfound
      rcases (get?_shattered hfresh).mp hfound with ⟨hmem, rfl⟩ | ⟨-, hkept⟩
      · obtain ⟨index, component, rfl⟩ := Grid.of_mem_fragments hmem
        have hremains : GridName (remains grid blockId).gridId := hkey ▸ hname
        exact ⟨rfl, .split hremains⟩
      · exact h.named other found hkept }
  refine ⟨hv, ?_, ?_⟩
  · intro hlater colliderId hrecalls
    exact (hasBlock_shattered hkey hfresh).mp ((hlater.collider hv hrecalls).hasBlock hname)
  · intro hsurvives bodyId colliderId hrecalls
    refine (physicsColliderExists_iff hv).mpr ?_
    have hcollider := hlive.collider h hrecalls
    cases hcollider with
    | player hwalks => exact .player hwalks
    | planet => exact .planet
    | block hblock =>
      by_cases hother : bodyId = gridId
      · subst hother
        exact .block ((hasBlock_shattered hkey hfresh).mpr (hsurvives colliderId hrecalls))
      · obtain ⟨found, hfound, hcontains⟩ := hblock
        exact .block ⟨found, (get?_shattered hfresh).mpr (.inr ⟨hother, hfound⟩), hcontains⟩
    | voxel hoccupied => exact .voxel hoccupied

end Shattering

/-- A blow takes this block off its grid: it destroys it or the block that held it there. -/
def Severs (w : WorldState) (gridId blockId : String) (damage : Nat) (colliderId : String) : Prop :=
  ∃ grid block, w.grids.get? gridId = some grid ∧ grid.blocks.get? blockId = some block
    ∧ block.health ≤ damage ∧ (remains grid blockId).primaryBlocks.contains colliderId = false

theorem applyDamage_target {gridId blockId : String} {damage eventSequence : Nat}
    (happlied : w.applyDamage host gridId blockId damage eventSequence = .ok w') :
    ∃ grid block, w.grids.get? gridId = some grid ∧ grid.blocks.get? blockId = some block
      ∧ (damage < block.health → w' = w.withGrid gridId { grid with
          blocks := grid.blocks.insert blockId { block with health := block.health - damage } }) := by
  simp only [applyDamage, bind_eq_ok, grid_eq_ok, demand_eq_ok] at happlied
  obtain ⟨grid, hgrid, block, hblock, happlied⟩ := happlied
  refine ⟨grid, block, hgrid, hblock, fun hhealth => ?_⟩
  rw [if_pos hhealth, pure_eq_ok] at happlied
  exact happlied.symm

theorem live_damaged {gridId blockId : String} {damage eventSequence : Nat} (h : Embodied w)
    (hlive : LiveMemory w)
    (happlied : w.applyDamage host gridId blockId damage eventSequence = .ok w') :
    Embodied w' ∧ (LiveMemory w' ↔
      ¬ ∃ colliderId, w.Recalls gridId colliderId ∧ w.Severs gridId blockId damage colliderId) := by
  obtain ⟨grid, block, hgrid, hblock, hstands⟩ := applyDamage_target happlied
  have hunique : ∀ {grid' block'}, w.grids.get? gridId = some grid' →
      grid'.blocks.get? blockId = some block' → grid = grid' ∧ block = block' := by
    intro grid' block' hgrid' hblock'
    obtain rfl := Option.mem_unique hgrid hgrid'
    exact ⟨rfl, Option.mem_unique hblock hblock'⟩
  by_cases hhealth : damage < block.health
  · have halike : Alike w w' := hstands hhealth ▸ alike_withGrid hgrid (parts_insert hblock)
    refine ⟨halike.embodied h, fun _ => ?_, fun _ => (halike.live_iff h).mpr hlive⟩
    rintro ⟨colliderId, -, grid', block', hgrid', hblock', hfalls, -⟩
    obtain ⟨-, rfl⟩ := hunique hgrid' hblock'
    omega
  · have hshattered : FragmentsFresh host w gridId (remains grid blockId) eventSequence
        ∧ Alike { w with grids := w.shattered host gridId (remains grid blockId) eventSequence }
          w' := by
      cases damaged_of_applyDamage happlied with
      | hurt hgrid' hblock' hhealth' =>
        obtain ⟨-, rfl⟩ := hunique hgrid' hblock'
        exact absurd hhealth' hhealth
      | destroyed hgrid' hblock' hidle hfiled
      | destroyedMachine hgrid' hblock' hqueue hcontents hdrop hfiled =>
        obtain ⟨rfl, rfl⟩ := hunique hgrid' hblock'
        rw [wrecked_eq]
        refine ⟨hfiled (h.named _ _ hgrid).1, ?_⟩
        unfold dropCargo
        cases block.inventoryId <;> exact .of_eq rfl rfl rfl rfl
    obtain ⟨hfresh, halike⟩ := hshattered
    obtain ⟨hv, hiff⟩ := live_shattered h hlive hgrid hfresh
    refine ⟨halike.embodied hv, (halike.live_iff hv).trans (hiff.trans ?_)⟩
    constructor
    · rintro hsurvives ⟨colliderId, hrecalls, grid', block', hgrid', hblock', -, hsevered⟩
      obtain ⟨rfl, rfl⟩ := hunique hgrid' hblock'
      exact absurd (hsurvives colliderId hrecalls) (by simp [hsevered])
    · intro hnothing colliderId hrecalls
      by_contra hsevered
      exact hnothing ⟨colliderId, hrecalls, grid, block, hgrid, hblock, not_lt.mp hhealth,
        Bool.eq_false_iff.mpr hsevered⟩

/-! ## A player arrives -/

/-- Nobody was there, and the arrival stands on nothing. -/
theorem onward_withSubject (h : Embodied w) {package : PlayerTransferPackage}
    (habsent : w.player.byId.get? package.aggregateId = none)
    (hid : package.destinationPlayer.playerId = package.aggregateId)
    (hsupport : package.destinationPlayer.locomotion.support = none) :
    Onward w (withSubject w package) := by
  have hfound : ∀ {playerId player}, (withSubject w package).player.byId.get? playerId
      = some player → (playerId = package.aggregateId ∧ player = package.destinationPlayer)
        ∨ w.player.byId.get? playerId = some player := by
    intro playerId player hplayer
    simp only [withSubject, OrdMap.get?_insert] at hplayer
    split_ifs at hplayer with harrived
    · exact .inl ⟨harrived, (Option.some.inj hplayer).symm⟩
    · exact .inr hplayer
  have hstood : ∀ {bodyId colliderId}, (withSubject w package).StandsOn bodyId colliderId →
      w.StandsOn bodyId colliderId := by
    rintro bodyId colliderId ⟨playerId, player, support, hplayer, hstands, hnames⟩
    rcases hfound hplayer with ⟨-, rfl⟩ | hbefore
    · cases hsupport.symm.trans hstands
    · exact ⟨playerId, player, support, hbefore, hstands, hnames⟩
  have hv : Embodied (withSubject w package) := {
    keyed := by
      intro playerId player hplayer
      rcases hfound hplayer with ⟨rfl, rfl⟩ | hbefore
      · exact hid
      · exact h.keyed playerId player hbefore
    named := h.named
    footing := fun bodyId colliderId hstands => h.footing bodyId colliderId (hstood hstands) }
  refine ⟨hv, fun bodyId colliderId hrecalls => ⟨hrecalls.imp id hstood, fun hcollider => ?_⟩⟩
  cases hcollider with
  | @player playerId hwalks =>
    obtain ⟨player, hplayer, halive⟩ := hwalks
    have hne : playerId ≠ package.aggregateId := by
      rintro rfl
      cases habsent.symm.trans hplayer
    exact .player ⟨player, by simpa [withSubject, hne] using hplayer, halive⟩
  | planet => exact .planet
  | block hblock => exact .block hblock
  | voxel hoccupied => exact .voxel hoccupied

/-- A player in transit stands on nothing. -/
theorem support_of_import {package receipt transfer}
    (hstaged : stageCommittedEvaImport host w package receipt transfer = .ok w') :
    package.destinationPlayer.locomotion.support = none := by
  simp only [stageCommittedEvaImport, bind_eq_ok] at hstaged
  obtain ⟨⟨⟩, hpackage, -⟩ := hstaged
  have hrebased := (packageOk_of_validate hpackage).rebased
  simp only [destinationPlayer, bind_eq_ok, demand_eq_ok, pure_eq_ok] at hrebased
  obtain ⟨-, -, position, -, epoch, -, hsame⟩ := hrebased
  simp only [PlayerTransferPackage.validate, bind_eq_ok, rejectIf_eq_ok, not_or, not_not,
    ne_eq] at hpackage
  obtain ⟨-, -, -, -, -, -, -, ⟨-, hsupport, -⟩, -⟩ := hpackage
  rw [← hsame]
  exact hsupport

/-! ## One event -/

/-- The events that leave something behind in memory. -/
def LeavesBehind (w : WorldState) : EventPayload → Prop
  | .blockDamaged gridId blockId damage =>
    ∃ colliderId, w.Recalls gridId colliderId ∧ w.Severs gridId blockId damage colliderId
  | .voxelMined coordinate .. =>
    w.StandsOn (voxelCollisionChunkBodyId coordinate) (voxelCollisionColliderId coordinate)
  | .playerTransferExported package _ =>
    ∃ colliderId, w.Touches (playerBodyId package.aggregateId) colliderId
  | _ => False

theorem Alike.live_congr {v} {C : Prop} (halike : Alike w' v)
    (hlive : Embodied w' ∧ (LiveMemory w' ↔ C)) : Embodied v ∧ (LiveMemory v ↔ C) :=
  ⟨halike.embodied hlive.1, (halike.live_iff hlive.1).trans hlive.2⟩

theorem Effect.live (h : Embodied w) (hlive : LiveMemory w) (effect : Effect host w event w') :
    Embodied w' ∧ (LiveMemory w' ↔ ¬ w.LeavesBehind event.payload) := by
  have honward : ∀ {v}, Onward w v → ¬ w.LeavesBehind event.payload →
      Embodied v ∧ (LiveMemory v ↔ ¬ w.LeavesBehind event.payload) :=
    fun honward hnothing =>
      ⟨honward.embodied, fun _ => hnothing, fun _ => honward.live h hlive⟩
  have hsame : ∀ {v}, Alike w v → ¬ w.LeavesBehind event.payload →
      Embodied v ∧ (LiveMemory v ↔ ¬ w.LeavesBehind event.payload) :=
    fun halike => honward (halike.onward h)
  have hfenced : Alike w { w with fencingToken := event.authorityFencingToken } :=
    .of_eq rfl rfl rfl rfl
  cases effect with
  | playerControlSet hpayload hby hactor =>
    exact hsame (alike_withPlayer hactor rfl) (by rw [hpayload]; exact id)
  | @suitModeChanged _ jetpackEnabled _ _ actor hpayload hby hactor =>
    refine honward (onward_withPlayer h hactor rfl id ?_) (by rw [hpayload]; exact id)
    cases jetpackEnabled
    · exact .inr rfl
    · exact .inl rfl
  | suitOxygenChanged hpayload hplayer =>
    exact hsame (alike_withPlayer hplayer rfl) (by rw [hpayload]; exact id)
  | @playerIncapacitated deathId cause _ _ _ _ _ _ player _ hpayload hplayer _ _ hcollapse =>
    rw [hcollapse.frame]
    have hfallen : Onward w ((w.withPlayer player.playerId (w.incapacitated host player deathId
        cause)).forgetContacts player.playerId) := onward_fallen h hplayer rfl rfl
    exact honward (hfallen.alike (.of_eq rfl rfl rfl rfl)) (by rw [hpayload]; exact id)
  | playerRespawned hpayload hby hactor =>
    exact honward (onward_fallen h hactor rfl rfl) (by rw [hpayload]; exact id)
  | @voxelMined coordinate _ _ _ _ _ hpayload =>
    rw [hpayload]
    refine Alike.live_congr ?_ (live_mined h hlive coordinate)
    exact .of_eq rfl rfl rfl rfl
  | productionQueued hpayload | inventoryTransferred hpayload =>
    exact hsame (.of_eq rfl rfl rfl rfl) (by rw [hpayload]; exact id)
  | productionQuantumCommitted hpayload hexpected happlied =>
    obtain ⟨machines, -, -, works⟩ := works_of_quantum (hpayload ▸ hexpected) happlied
    exact hsame ((alike_works works).trans (.of_eq rfl rfl rfl rfl)) (by rw [hpayload]; exact id)
  | @blockBuilt gridId block _ _ grid _ hpayload hby hframe hfreshBlock hfreshInventory hgrid =>
    have hadded : Onward w (w.withGrid gridId
        { grid with blocks := grid.blocks.insert block.blockId block }) := onward_withNewBlock h hgrid
    refine honward (hadded.alike ?_) (by rw [hpayload]; exact id)
    unfold withCargoInventory
    cases block.inventoryId <;> exact .of_eq rfl rfl rfl rfl
  | blockWelded hpayload hby hgrid howner hblock =>
    exact hsame (alike_withGrid hgrid (parts_insert hblock)) (by rw [hpayload]; exact id)
  | gridControlSet hpayload hby hgrid =>
    exact hsame (alike_withGrid hgrid rfl) (by rw [hpayload]; exact id)
  | @gridAnchorSet gridId anchored _ _ _ hpayload hby hgrid =>
    refine hsame (alike_withGrid hgrid ?_) (by rw [hpayload]; exact id)
    cases anchored <;> rfl
  | blockDamaged hpayload hby hdamage happlied =>
    rw [hpayload]
    exact live_damaged h hlive happlied
  | physicsStepCommitted hpayload happlied =>
    obtain ⟨active, solved, felt, rfl⟩ := felt_of_applyPhysicsStep happlied
    rw [hpayload]
    exact ⟨embodied_stepped h solved felt, fun _ => id, fun _ => live_stepped h hlive solved felt⟩
  | playerTransferPrepared hpayload hstaged =>
    refine hsame (hfenced.trans ?_) (by rw [hpayload]; exact id)
    obtain ⟨-, -, ⟨rfl, -⟩ | ⟨-, -, -, -, rfl⟩⟩ := stagePreparedEvaLock_eq_ok hstaged
    · exact .refl _
    · exact .of_eq rfl rfl rfl rfl
  | playerTransferQuarantined hpayload hstaged =>
    refine hsame (hfenced.trans ?_) (by rw [hpayload]; exact id)
    obtain ⟨-, -, ⟨rfl, -⟩ | ⟨-, -, rfl⟩⟩ := stageEvaPlayerQuarantine_eq_ok hstaged
    · exact .refl _
    · exact .of_eq rfl rfl rfl rfl
  | playerTransferAborted hpayload hstaged =>
    refine hsame (hfenced.trans ?_) (by rw [hpayload]; exact id)
    obtain ⟨-, -, ⟨-, -, rfl⟩ | ⟨-, -, rfl⟩ | ⟨-, -, -, rfl⟩⟩ :=
      stageAbortedEvaUnlock_eq_ok hstaged
    · exact .of_eq rfl rfl rfl rfl
    · exact .refl _
    · exact .of_eq rfl rfl rfl rfl
  | playerTransferExported hpayload hstaged =>
    obtain ⟨-, -, ⟨rfl, -, hlacks⟩ | ⟨-, -, -, -, -, rfl⟩⟩ := stageCommittedEvaExport_eq_ok hstaged
    · refine hsame hfenced ?_
      rw [hpayload]
      rintro ⟨colliderId, htouches⟩
      obtain ⟨player, hplayer, -⟩ := (hlive.collider h (.inl htouches)).walks h
      cases hlacks.1.symm.trans hplayer
    · rw [hpayload]
      refine Alike.live_congr ?_ (live_withoutSubject h hlive)
      exact .of_eq rfl rfl rfl rfl
  | playerTransferImported hpayload hstaged =>
    have hnothing : ¬ w.LeavesBehind event.payload := by rw [hpayload]; exact id
    obtain ⟨hok, -, ⟨rfl, -⟩ | ⟨-, -, -, -, hlacks, rfl⟩⟩ := stageCommittedEvaImport_eq_ok hstaged
    · exact hsame hfenced hnothing
    · have harrived := onward_withSubject h hlacks.1 hok.subject.2 (support_of_import hstaged)
      exact honward (harrived.alike (.of_eq rfl rfl rfl rfl)) hnothing

theorem leavesBehind_of_hydrated {payload hydrated : EventPayload} {cellAddress}
    (h : payload.hydrateSpatialPoses host cellAddress = .ok hydrated) :
    w.LeavesBehind hydrated ↔ w.LeavesBehind payload := by
  cases reposed_of_hydrated h with
  | playerTransferExported hsame => simp only [LeavesBehind, hsame.1]
  | _ => exact Iff.rfl

/-- Pay, seal and record move no body. -/
theorem Accepted.live (h : Embodied w) (hlive : LiveMemory w)
    (accepted : Accepted host w event w') :
    Embodied w' ∧ (LiveMemory w' ↔ ¬ w.LeavesBehind event.payload) := by
  cases accepted with
  | @intro payload applied credited hydrated admitted effect paid recorded weighed =>
    rw [← leavesBehind_of_hydrated hydrated]
    refine Alike.live_congr ((alike_paid paid).trans ?_) (effect.live h hlive)
    rw [recordOperation_frame recorded]
    exact .of_eq rfl rfl rfl rfl

/-! ## Every run -/

/-- A world as it is founded: everything under its own name, nobody standing on anything and
    nothing in contact. -/
structure Founded (w : WorldState) : Prop where
  keyed : ∀ playerId player, w.player.byId.get? playerId = some player → player.playerId = playerId
  named : ∀ gridId grid, w.grids.get? gridId = some grid → grid.gridId = gridId ∧ GridName gridId
  airborne : ∀ playerId player, w.player.byId.get? playerId = some player →
    player.locomotion.support = none
  apart : w.activeContactPairs = .empty

theorem Founded.unremembered (h : Founded w) {bodyId colliderId : String} :
    ¬ w.Recalls bodyId colliderId := by
  rintro (⟨pair, hpair, -⟩ | ⟨playerId, player, support, hplayer, hsupport, -⟩)
  · rw [h.apart] at hpair
    simp [OrdMap.keys, OrdMap.empty] at hpair
  · cases (h.airborne playerId player hplayer).symm.trans hsupport

theorem Founded.embodied (h : Founded w) : Embodied w where
  keyed := h.keyed
  named := h.named
  footing _ _ hstands := (h.unremembered (.inr hstands)).elim

theorem Founded.live (h : Founded w) : LiveMemory w :=
  fun _ _ hrecalls => (h.unremembered hrecalls).elim

/-- In a run of accepted events every contact and every support names a collider of its world, as
    long as no event of the run leaves something behind; the first that does leaves it so. -/
theorem live_memory_iff {events : List CanonicalEvent} (h : Founded w)
    (hrun : runAll (applyEvent host) w events = .ok w') :
    Throughout (applyEvent host) LiveMemory w events ↔
      Along (applyEvent host) (fun v event => ¬ v.LeavesBehind event.payload) w events :=
  throughout_iff_along (P := Embodied)
    (fun hembodied hlive hstep => ((accepted_of_applyEvent hstep).live hembodied hlive).1)
    (fun _ hembodied hlive hstep => ((accepted_of_applyEvent hstep).live hembodied hlive).2)
    h.embodied h.live hrun

end WorldState

/-! The cargo of the small cell comes to rest on the planet and is then struck until it gives way:
the contact outlives it. -/

/-- A tool that points at the cargo. -/
def strikingHost : Host :=
  { proofHost with
    closestToolHit := fun _ _ _ =>
      some { target := .block "grid-works" "block-cargo" (.new 1 0 0), localFace := some (.new 1 0 0) } }

/-- The cargo, resting on the planet. -/
def resting : ContactPairKey := ⟨"grid-works", "block-cargo", planetBodyId, planetColliderId⟩

/-- A substep in which the cargo touches down and nothing else happens. -/
def touchdown : CanonicalEvent :=
  systemEvent proofCell "physics-step" 500 (.physicsStepCommitted Content.fixedStepHz 1 0
    [{ gridId := "grid-works"
       address := proofGrid.address
       position := proofGrid.position
       orientation := proofGrid.orientation
       linearVelocity := Vec3.zero
       angularVelocity := Vec3.zero }]
    [{ playerId := "player-1"
       address := proofPlayer.address
       position := proofPlayer.position
       orientation := proofPlayer.orientation
       linearVelocity := Vec3.zero
       angularVelocity := Vec3.zero
       surfaceContact := false
       locomotion := proofPlayer.locomotion
       controlLinearInput := Vec3.zero
       controlAngularInput := Vec3.zero
       boost := false
       dampeners := true
       jump := false
       controlExpiresAtSimulationTick := 0 }]
    [{ substepIndex := 0
       bodyAId := resting.bodyA
       colliderAId := resting.colliderA
       bodyBId := resting.bodyB
       colliderBId := resting.colliderB
       pointAddress := proofAddress
       point := Vec3.zero
       normal := Vec3.zero
       penetrationM := .finite 0
       closingSpeedMmPerSecond := 0
       estimatedNormalImpulseMillinewtonSeconds := 0
       reducedTranslationalMassGrams :=
         proofCell.reducedContactMassGrams resting.bodyA resting.bodyB
       phase := .began }]
    [resting])

/-- The player strikes the cargo. -/
def strike (w : WorldState) (operationSequence : Nat) : Option CanonicalEvent :=
  (w.prepareClientEventAs strikingHost
    { eventId := s!"strike-{operationSequence}", occurredAtUnixMs := 1000 } "player-1"
    (.damageBlock operationSequence s!"operation-{operationSequence}" "grid-works"
      "block-cargo")).toOption

/-- The events of a number of strikes, and the world they lead to. -/
def strikes (w : WorldState) : Nat → Option (List CanonicalEvent × WorldState)
  | 0 => some ([], w)
  | n + 1 => do
    let (events, struck) ← strikes w n
    let event ← strike struck (n + 1)
    let next ← (struck.applyEvent strikingHost event).toOption
    return (events ++ [event], next)

/-- A landing and four strikes. -/
def struckDown : Option (List CanonicalEvent × WorldState) := do
  let landed ← (proofCell.applyEvent strikingHost touchdown).toOption
  let (events, struck) ← strikes landed 4
  return (touchdown :: events, struck)

theorem founded_proofCell : proofCell.Founded where
  keyed playerId player hplayer := by
    have hentries : ∀ entry ∈ proofCell.player.byId.entries, entry.2.playerId = entry.1 := by decide
    exact OrdMap.forall_entries.mp hentries playerId player hplayer
  named gridId grid hgrid := by
    have hentries : ∀ entry ∈ proofCell.grids.entries,
        entry.1 = "grid-works" ∧ entry.2.gridId = entry.1 := by decide
    obtain ⟨hkey, hname⟩ := OrdMap.forall_entries.mp hentries gridId grid hgrid
    exact ⟨hname, "works", hkey⟩
  airborne playerId player hplayer := by
    have hentries : ∀ entry ∈ proofCell.player.byId.entries,
        entry.2.locomotion.support = none := by decide
    exact OrdMap.forall_entries.mp hentries playerId player hplayer
  apart := rfl

namespace WorldState

/-- The landing alone leaves every memory live. -/
theorem live_memory_touchdown :
    Throughout (applyEvent strikingHost) LiveMemory proofCell [touchdown] := by
  have hlands : (runAll (applyEvent strikingHost) proofCell [touchdown]).isOk := by decide +kernel
  cases hrun : runAll (applyEvent strikingHost) proofCell [touchdown] with
  | error refusal => simp [hrun, Except.isOk, Except.toBool] at hlands
  | ok landed => exact (live_memory_iff founded_proofCell hrun).mpr ⟨id, fun _ _ => trivial⟩

/-- What the cargo rests on is struck down, and the contact names a collider that is gone. -/
theorem not_live_struckDown : ∃ events w, proofCell.validatePlayerRoster strikingHost = .ok ()
    ∧ proofCell.Founded ∧ runAll (applyEvent strikingHost) proofCell events = .ok w
    ∧ ¬ LiveMemory w := by
  have h : struckDown.any fun r => decide
      (proofCell.validatePlayerRoster strikingHost = .ok ()
        ∧ runAll (applyEvent strikingHost) proofCell r.1 = .ok r.2
        ∧ resting ∈ r.2.activeContactPairs.keys
        ∧ r.2.physicsColliderExists resting.bodyA resting.colliderA = false) := by decide +kernel
  cases hr : struckDown with
  | none => simp [hr] at h
  | some r =>
    rw [hr] at h
    obtain ⟨hvalid, hrun, hresting, hgone⟩ := of_decide_eq_true h
    refine ⟨r.1, r.2, hvalid, founded_proofCell, hrun, fun hlive => ?_⟩
    have hthere := hlive _ _ (.inl ⟨resting, hresting, .inl ⟨rfl, rfl⟩⟩)
    rw [hgone] at hthere
    cases hthere

/-- Nothing touches anything before the landing. -/
example : proofCell.activeContactPairs.keys = [] := by decide

end WorldState
end Verse
