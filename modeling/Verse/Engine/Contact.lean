import Verse.Engine.Carried
import Verse.Engine.Frame

/-!
# What contacts and supports remember

A contact names two colliders and a support names one. Colliders have four kinds, and their
bodies are told apart by how their names begin, so `Collider` lists them without the order in
which they are looked up.

An event takes a collider away in one of four ways: a player falls, a player leaves, a voxel is
mined, or a block is destroyed, alone or with what comes off its grid. The contacts of a player
that falls are forgotten and so are those of the voxel; whatever else the world remembers of
what is gone, it goes on remembering.
-/

namespace Verse

open Lib

/-! ## Names of bodies -/

theorem append_ne_append {p q a b : String} (h : ¬ p.toList <+: q.toList)
    (h' : ¬ q.toList <+: p.toList) : p ++ a ≠ q ++ b := by
  intro he
  have hlist : p.toList ++ a.toList = q.toList ++ b.toList := by
    rw [← String.toList_append, he, String.toList_append]
  have hp : p.toList <+: q.toList ++ b.toList := hlist ▸ List.prefix_append _ _
  exact (List.prefix_or_prefix_of_prefix hp (List.prefix_append _ _)).elim h h'

/-- How the identity of a grid begins. -/
def GridName (gridId : String) : Prop := ∃ rest, gridId = "grid-" ++ rest

theorem playerBodyId_injective {playerId playerId' : String}
    (h : playerBodyId playerId = playerBodyId playerId') : playerId = playerId' := by
  have hlist : ("player-body-" ++ playerId).toList = ("player-body-" ++ playerId').toList :=
    congrArg String.toList h
  rw [String.toList_append, String.toList_append] at hlist
  exact String.toList_inj.mp (List.append_cancel_left hlist)

variable {playerId : String}

theorem playerBodyId_ne_planet : playerBodyId playerId ≠ planetBodyId :=
  append_ne_append (p := "player-body-") (q := "planet-body-") (a := playerId)
    (b := "khepri-prime") (by decide) (by decide)

theorem voxelCollisionChunkBodyId_eq (coordinate : IVec3) :
    ∃ rest, voxelCollisionChunkBodyId coordinate = "voxel-chunk-" ++ rest :=
  ⟨_, by simp only [voxelCollisionChunkBodyId, String.append_assoc]; rfl⟩

theorem GridName.ne_player {gridId playerId : String} (h : GridName gridId) :
    gridId ≠ playerBodyId playerId := by
  obtain ⟨rest, rfl⟩ := h
  exact append_ne_append (q := "player-body-") (by decide) (by decide)

variable {gridId : String}

theorem GridName.ne_planet (h : GridName gridId) : gridId ≠ planetBodyId := by
  obtain ⟨rest, rfl⟩ := h
  exact append_ne_append (q := "planet-body-") (b := "khepri-prime") (by decide) (by decide)

variable {coordinate : IVec3}

theorem GridName.ne_chunk (h : GridName gridId) :
    gridId ≠ voxelCollisionChunkBodyId coordinate := by
  obtain ⟨rest, rfl⟩ := h
  obtain ⟨rest', hchunk⟩ := voxelCollisionChunkBodyId_eq coordinate
  rw [hchunk]
  exact append_ne_append (by decide) (by decide)

theorem chunk_ne_player :
    voxelCollisionChunkBodyId coordinate ≠ playerBodyId playerId := by
  obtain ⟨rest, hchunk⟩ := voxelCollisionChunkBodyId_eq coordinate
  rw [hchunk]
  exact append_ne_append (q := "player-body-") (by decide) (by decide)

theorem chunk_ne_planet :
    voxelCollisionChunkBodyId coordinate ≠ planetBodyId := by
  obtain ⟨rest, hchunk⟩ := voxelCollisionChunkBodyId_eq coordinate
  rw [hchunk]
  exact append_ne_append (q := "planet-body-") (b := "khepri-prime") (by decide) (by decide)

theorem GridName.split {grid : Grid} (h : GridName grid.gridId) {sequence index : Nat} :
    GridName (grid.splitGridId sequence index) := by
  unfold Grid.splitGridId
  split_ifs
  · exact h
  · obtain ⟨rest, hname⟩ := h
    refine ⟨rest ++ ("-split-" ++ (toString sequence ++ ("-" ++ toString index))), ?_⟩
    rw [hname]
    show ((("grid-" ++ rest) ++ "-split-" ++ toString sequence) ++ "-") ++ toString index = _
    simp only [String.append_assoc]

namespace WorldState

variable {host : Host} {w w' : WorldState} {event : CanonicalEvent}

/-! ## Colliders -/

/-- A living player of the world. -/
def Walks (w : WorldState) (playerId : String) : Prop :=
  ∃ player, w.player.byId.get? playerId = some player ∧ player.lifeState = .alive

/-- A block of a grid of the world. -/
def HasBlock (w : WorldState) (gridId blockId : String) : Prop :=
  ∃ grid, w.grids.get? gridId = some grid ∧ grid.blocks.contains blockId

/-- The colliders of a world, and the bodies they belong to. -/
inductive Collider (w : WorldState) : String → String → Prop
  | player {playerId : String} (hwalks : w.Walks playerId) :
      Collider w (playerBodyId playerId) (playerColliderId playerId)
  | planet : Collider w planetBodyId planetColliderId
  | block {gridId blockId : String} (hblock : w.HasBlock gridId blockId) :
      Collider w gridId blockId
  | voxel {coordinate : IVec3} (hoccupied : w.voxels.occupied.contains coordinate) :
      Collider w (voxelCollisionChunkBodyId coordinate) (voxelCollisionColliderId coordinate)

/-- The collider a player stands on. -/
def StandsOn (w : WorldState) (bodyId colliderId : String) : Prop :=
  ∃ playerId player support, w.player.byId.get? playerId = some player
    ∧ player.locomotion.support = some support
    ∧ support.bodyId = bodyId ∧ support.colliderId = colliderId

/-- One of the two colliders of an active contact. -/
def Touches (w : WorldState) (bodyId colliderId : String) : Prop :=
  ∃ pair ∈ w.activeContactPairs.keys, (pair.bodyA = bodyId ∧ pair.colliderA = colliderId)
    ∨ (pair.bodyB = bodyId ∧ pair.colliderB = colliderId)

/-- Everything has its own name, and nobody stands on a player. -/
structure Embodied (w : WorldState) : Prop where
  keyed : ∀ playerId player, w.player.byId.get? playerId = some player → player.playerId = playerId
  named : ∀ gridId grid, w.grids.get? gridId = some grid → grid.gridId = gridId ∧ GridName gridId
  footing : ∀ bodyId colliderId, w.StandsOn bodyId colliderId →
    ∀ playerId, bodyId ≠ playerBodyId playerId

theorem playerForBodyId_player :
    w.playerForBodyId (playerBodyId playerId) = w.player.byId.get? playerId := by
  unfold playerForBodyId
  cases hfound : w.player.byId.entries.find? fun entry =>
      playerBodyId entry.1 == playerBodyId playerId with
  | some entry =>
    have hname : playerBodyId entry.1 = playerBodyId playerId := by
      simpa using List.find?_some hfound
    have hmem : (entry.1, entry.2) ∈ w.player.byId.entries := List.mem_of_find?_eq_some hfound
    rw [OrdMap.mem_entries, playerBodyId_injective hname] at hmem
    exact hmem.symm
  | none =>
    cases hplayer : w.player.byId.get? playerId with
    | none => rfl
    | some player =>
      have habsent := List.find?_eq_none.mp hfound _ (OrdMap.mem_entries.mpr hplayer)
      simp at habsent

theorem playerForBodyId_eq_none {bodyId : String} (h : ∀ playerId, bodyId ≠ playerBodyId playerId) :
    w.playerForBodyId bodyId = none := by
  unfold playerForBodyId
  rw [List.find?_eq_none.mpr]
  · rfl
  · intro entry _ hname
    exact h entry.1 (by simpa using hname : playerBodyId entry.1 = bodyId).symm

theorem physicsColliderExists_iff (h : Embodied w) {bodyId colliderId : String} :
    w.physicsColliderExists bodyId colliderId = true ↔ w.Collider bodyId colliderId := by
  unfold physicsColliderExists
  constructor
  · intro hexists
    cases hfound : w.playerForBodyId bodyId with
    | some player =>
      obtain ⟨playerId, rfl⟩ : ∃ playerId, bodyId = playerBodyId playerId := by
        by_contra hother
        rw [playerForBodyId_eq_none fun playerId he => hother ⟨playerId, he⟩] at hfound
        cases hfound
      rw [playerForBodyId_player] at hfound
      simp only [playerForBodyId_player, hfound, Bool.and_eq_true, beq_iff_eq] at hexists
      rw [hexists.2, h.keyed playerId player hfound]
      exact .player ⟨player, hfound, hexists.1⟩
    | none =>
      rw [hfound] at hexists
      dsimp only at hexists
      split_ifs at hexists with hplanet
      · rw [hplanet, beq_iff_eq.mp hexists]
        exact .planet
      · cases hgrid : w.grids.get? bodyId with
        | some grid =>
          rw [hgrid] at hexists
          exact .block ⟨grid, hgrid, hexists⟩
        | none =>
          rw [hgrid] at hexists
          simp only [List.any_eq_true, Bool.and_eq_true, beq_iff_eq] at hexists
          obtain ⟨coordinate, hmem, rfl, rfl⟩ := hexists
          obtain ⟨u, hoccupied⟩ := OrdMap.mem_keys.mp hmem
          exact .voxel (OrdMap.contains_iff.mpr ⟨u, hoccupied⟩)
  · intro hcollider
    cases hcollider with
    | player hwalks =>
      obtain ⟨player, hplayer, halive⟩ := hwalks
      simp [playerForBodyId_player, hplayer, halive, h.keyed _ _ hplayer]
    | planet =>
      rw [playerForBodyId_eq_none fun _ => playerBodyId_ne_planet.symm]
      simp
    | block hblock =>
      obtain ⟨grid, hgrid, hcontains⟩ := hblock
      obtain ⟨-, hname⟩ := h.named _ _ hgrid
      rw [playerForBodyId_eq_none fun _ => hname.ne_player]
      simp [hname.ne_planet, hgrid, hcontains]
    | @voxel coordinate hoccupied =>
      have hgrid : w.grids.get? (voxelCollisionChunkBodyId coordinate) = none := by
        cases hgrid : w.grids.get? (voxelCollisionChunkBodyId coordinate) with
        | none => rfl
        | some grid => exact absurd rfl (h.named _ _ hgrid).2.ne_chunk
      rw [playerForBodyId_eq_none fun _ => chunk_ne_player]
      simp only [chunk_ne_planet, if_false, hgrid, List.any_eq_true, Bool.and_eq_true, beq_iff_eq]
      obtain ⟨u, hkey⟩ := OrdMap.contains_iff.mp hoccupied
      exact ⟨coordinate, OrdMap.mem_keys.mpr ⟨u, hkey⟩, rfl, rfl⟩

/-- A body that is nobody's and has a collider has no player's name. -/
theorem Collider.ne_player (h : Embodied w) {bodyId colliderId : String}
    (hcollider : w.Collider bodyId colliderId) (hnobody : w.playerForBodyId bodyId = none)
    : bodyId ≠ playerBodyId playerId := by
  cases hcollider with
  | player hwalks =>
    obtain ⟨player, hplayer, -⟩ := hwalks
    rw [playerForBodyId_player, hplayer] at hnobody
    cases hnobody
  | planet => exact playerBodyId_ne_planet.symm
  | block hblock =>
    obtain ⟨grid, hgrid, -⟩ := hblock
    exact (h.named _ grid hgrid).2.ne_player
  | voxel => exact chunk_ne_player

/-! ## Worlds with the same bodies -/

/-- What a player is to the colliders: who it is, whether it lives, and what it stands on. -/
def bodyOf (player : Player) : String × PlayerLifeState × Option LocomotionSupportSnapshot :=
  (player.playerId, player.lifeState, player.locomotion.support)

/-- What a grid is to the colliders. -/
def partsOf (grid : Grid) : String × (String → Bool) := (grid.gridId, grid.blocks.contains)

theorem HasBlock.of_parts {gridId blockId : String} (h : w.HasBlock gridId blockId)
    (hparts : (w'.grids.get? gridId).map partsOf = (w.grids.get? gridId).map partsOf) :
    w'.HasBlock gridId blockId := by
  obtain ⟨grid, hgrid, hcontains⟩ := h
  rw [hgrid] at hparts
  obtain ⟨found, hfound, hsame⟩ := Option.map_eq_some_iff.mp hparts
  simp only [partsOf, Prod.mk.injEq] at hsame
  exact ⟨found, hfound, hsame.2 ▸ hcontains⟩

/-- Worlds with the same bodies that remember the same contacts. -/
structure Alike (w v : WorldState) : Prop where
  players : ∀ playerId, (v.player.byId.get? playerId).map bodyOf
    = (w.player.byId.get? playerId).map bodyOf
  grids : ∀ gridId, (v.grids.get? gridId).map partsOf = (w.grids.get? gridId).map partsOf
  voxels : v.voxels = w.voxels
  contacts : v.activeContactPairs = w.activeContactPairs

namespace Alike

variable {u v : WorldState} {bodyId colliderId : String}

theorem of_eq (hplayer : v.player.byId = w.player.byId) (hgrids : v.grids = w.grids)
    (hvoxels : v.voxels = w.voxels) (hcontacts : v.activeContactPairs = w.activeContactPairs) :
    Alike w v :=
  ⟨fun _ => by rw [hplayer], fun _ => by rw [hgrids], hvoxels, hcontacts⟩

theorem refl (w : WorldState) : Alike w w := .of_eq rfl rfl rfl rfl

theorem trans (h : Alike u v) (h' : Alike v w) : Alike u w :=
  ⟨fun playerId => (h'.players playerId).trans (h.players playerId),
    fun gridId => (h'.grids gridId).trans (h.grids gridId), h'.voxels.trans h.voxels,
    h'.contacts.trans h.contacts⟩

theorem symm (h : Alike w v) : Alike v w :=
  ⟨fun playerId => (h.players playerId).symm, fun gridId => (h.grids gridId).symm,
    h.voxels.symm, h.contacts.symm⟩

theorem player (h : Alike w v) {found : Player}
    (hfound : v.player.byId.get? playerId = some found) :
    ∃ player, w.player.byId.get? playerId = some player ∧ bodyOf player = bodyOf found := by
  have hbody := h.players playerId
  rw [hfound] at hbody
  exact Option.map_eq_some_iff.mp hbody.symm

theorem grid (h : Alike w v) {found : Grid}
    (hfound : v.grids.get? gridId = some found) :
    ∃ grid, w.grids.get? gridId = some grid ∧ partsOf grid = partsOf found := by
  have hparts := h.grids gridId
  rw [hfound] at hparts
  exact Option.map_eq_some_iff.mp hparts.symm

theorem standsOn (h : Alike w v) (hstands : v.StandsOn bodyId colliderId) :
    w.StandsOn bodyId colliderId := by
  obtain ⟨playerId, found, support, hfound, hsupport, hnames⟩ := hstands
  obtain ⟨player, hplayer, hbody⟩ := h.player hfound
  simp only [bodyOf, Prod.mk.injEq] at hbody
  exact ⟨playerId, player, support, hplayer, hbody.2.2.trans hsupport, hnames⟩

theorem collider (h : Alike w v) (hcollider : v.Collider bodyId colliderId) :
    w.Collider bodyId colliderId := by
  cases hcollider with
  | player hwalks =>
    obtain ⟨found, hfound, halive⟩ := hwalks
    obtain ⟨player, hplayer, hbody⟩ := h.player hfound
    simp only [bodyOf, Prod.mk.injEq] at hbody
    exact .player ⟨player, hplayer, hbody.2.1.trans halive⟩
  | planet => exact .planet
  | block hblock => exact .block (hblock.of_parts (h.grids _).symm)
  | voxel hoccupied => exact .voxel (h.voxels ▸ hoccupied)

theorem embodied (h : Alike w v) (hw : Embodied w) : Embodied v where
  keyed playerId found hfound := by
    obtain ⟨player, hplayer, hbody⟩ := h.player hfound
    simp only [bodyOf, Prod.mk.injEq] at hbody
    exact hbody.1 ▸ hw.keyed playerId player hplayer
  named gridId found hfound := by
    obtain ⟨grid, hgrid, hparts⟩ := h.grid hfound
    simp only [partsOf, Prod.mk.injEq] at hparts
    exact hparts.1 ▸ hw.named gridId grid hgrid
  footing bodyId colliderId hstands := hw.footing bodyId colliderId (h.standsOn hstands)

end Alike

variable {player player' : Player}

theorem alike_withPlayer
    (hplayer : w.player.byId.get? playerId = some player) (hbody : bodyOf player' = bodyOf player) :
    Alike w (w.withPlayer playerId player') := by
  refine ⟨fun other => ?_, fun _ => rfl, rfl, rfl⟩
  by_cases hother : other = playerId
  · subst hother
    simp [withPlayer, hplayer, hbody]
  · simp [withPlayer, hother]

theorem alike_withGrid {grid grid' : Grid}
    (hgrid : w.grids.get? gridId = some grid) (hparts : partsOf grid' = partsOf grid) :
    Alike w (w.withGrid gridId grid') := by
  refine ⟨fun _ => rfl, fun other => ?_, rfl, rfl⟩
  by_cases hother : other = gridId
  · subst hother
    simp [withGrid, hgrid, hparts]
  · simp [withGrid, hother]

theorem parts_insert {grid : Grid} {blockId : String} {block block' : Block}
    (hblock : grid.blocks.get? blockId = some block) :
    partsOf { grid with blocks := grid.blocks.insert blockId block' } = partsOf grid := by
  refine congrArg (Prod.mk grid.gridId) (funext fun other => ?_)
  by_cases hother : other = blockId
  · subst hother
    simp [OrdMap.contains, hblock]
  · simp [OrdMap.contains, hother]

theorem alike_paid {applied credited} (paid : Paid applied event credited) :
    Alike applied credited := by
  cases paid with
  | nothing => exact .refl applied
  | actor hby hplayer => exact alike_withPlayer hplayer rfl

theorem alike_work {machineId : String} {outcome} (work : Work host w machineId outcome w') :
    Alike w w' := by
  have hframe := work.frame
  rcases work.roster with ⟨-, hroster⟩ | ⟨job, owner, -, -, -, howner, hroster⟩
  · rw [hframe]
    exact .of_eq hroster rfl rfl rfl
  · have hcredited : Alike w (w.withPlayer job.ownerPlayerId (owner.creditCompletion job)) := by
      refine alike_withPlayer howner ?_
      unfold Player.creditCompletion
      cases job.recipe <;> rfl
    rw [hframe]
    exact ⟨fun playerId => by rw [hroster]; exact hcredited.players playerId, fun _ => rfl, rfl, rfl⟩

theorem alike_works {machines outcomes} (works : Works host w machines outcomes w') :
    Alike w w' := by
  induction works with
  | done => exact .refl _
  | step work works ih => exact (alike_work work).trans ih

/-! ## Live memory -/

/-- What a world remembers: the contacts, and what its players stand on. -/
def Recalls (w : WorldState) (bodyId colliderId : String) : Prop :=
  w.Touches bodyId colliderId ∨ w.StandsOn bodyId colliderId

/-- Every collider remembered is there. -/
def LiveMemory (w : WorldState) : Prop :=
  ∀ bodyId colliderId, w.Recalls bodyId colliderId → w.physicsColliderExists bodyId colliderId

theorem LiveMemory.collider (hlive : LiveMemory w) (h : Embodied w) {bodyId colliderId : String}
    (hrecalls : w.Recalls bodyId colliderId) : w.Collider bodyId colliderId :=
  (physicsColliderExists_iff h).mp (hlive bodyId colliderId hrecalls)

/-- A world that remembers nothing new, and keeps what it remembers. -/
structure Onward (w v : WorldState) : Prop where
  embodied : Embodied v
  recalls : ∀ bodyId colliderId, v.Recalls bodyId colliderId →
    w.Recalls bodyId colliderId ∧ (w.Collider bodyId colliderId → v.Collider bodyId colliderId)

theorem Onward.live {v} (h : Onward w v) (hw : Embodied w) (hlive : LiveMemory w) :
    LiveMemory v := by
  intro bodyId colliderId hrecalls
  obtain ⟨hbefore, hkept⟩ := h.recalls bodyId colliderId hrecalls
  exact (physicsColliderExists_iff h.embodied).mpr (hkept (hlive.collider hw hbefore))

theorem Alike.recalls {v} (h : Alike w v) {bodyId colliderId : String}
    (hrecalls : v.Recalls bodyId colliderId) : w.Recalls bodyId colliderId := by
  rcases hrecalls with ⟨pair, hpair, hends⟩ | hstands
  · exact .inl ⟨pair, h.contacts ▸ hpair, hends⟩
  · exact .inr (h.standsOn hstands)

theorem Alike.onward {v} (h : Alike w v) (hw : Embodied w) : Onward w v where
  embodied := h.embodied hw
  recalls _ _ hrecalls := ⟨h.recalls hrecalls, h.symm.collider⟩

theorem Alike.live_iff {v} (h : Alike w v) (hw : Embodied w) :
    LiveMemory v ↔ LiveMemory w :=
  ⟨(h.symm.onward (h.embodied hw)).live (h.embodied hw), (h.onward hw).live hw⟩

theorem Onward.alike {u v} (h : Onward u v) (h' : Alike v w) : Onward u w where
  embodied := h'.embodied h.embodied
  recalls bodyId colliderId hrecalls := by
    obtain ⟨hbefore, hkept⟩ := h.recalls bodyId colliderId (h'.recalls hrecalls)
    exact ⟨hbefore, fun hcollider => h'.symm.collider (hkept hcollider)⟩

/-! ## Events that take nothing away -/

theorem onward_forgetting (h : Embodied w) (keep : ContactPairKey → Bool) :
    Onward w { w with activeContactPairs := w.activeContactPairs.filter keep } where
  embodied := ⟨h.keyed, h.named, h.footing⟩
  recalls bodyId colliderId hrecalls := by
    refine ⟨?_, fun hcollider => ?_⟩
    · rcases hrecalls with ⟨pair, hpair, hends⟩ | hstands
      · obtain ⟨u, hkey⟩ := OrdMap.mem_keys.mp hpair
        simp only [OrdMap.get?_filter] at hkey
        split_ifs at hkey
        exact .inl ⟨pair, OrdMap.mem_keys.mpr ⟨u, hkey⟩, hends⟩
      · exact .inr hstands
    · cases hcollider with
      | player hwalks => exact .player hwalks
      | planet => exact .planet
      | block hblock => exact .block hblock
      | voxel hoccupied => exact .voxel hoccupied

theorem standsOn_withPlayer (hplayer : w.player.byId.get? playerId = some player)
    (hsupport : player'.locomotion.support = none
      ∨ player'.locomotion.support = player.locomotion.support) {bodyId colliderId : String}
    (hstands : (w.withPlayer playerId player').StandsOn bodyId colliderId) :
    w.StandsOn bodyId colliderId := by
  obtain ⟨other, found, support, hfound, hfoundSupport, hnames⟩ := hstands
  by_cases hother : other = playerId
  · subst hother
    obtain rfl : player' = found := by simpa [withPlayer] using hfound
    rcases hsupport with hnone | hsame
    · rw [hnone] at hfoundSupport
      cases hfoundSupport
    · exact ⟨other, player, support, hplayer, hsame ▸ hfoundSupport, hnames⟩
  · exact ⟨other, found, support, by simpa [withPlayer, hother] using hfound, hfoundSupport, hnames⟩

theorem embodied_withPlayer (h : Embodied w)
    (hplayer : w.player.byId.get? playerId = some player) (hid : player'.playerId = player.playerId)
    (hsupport : player'.locomotion.support = none
      ∨ player'.locomotion.support = player.locomotion.support) :
    Embodied (w.withPlayer playerId player') where
  keyed other found hfound := by
    by_cases hother : other = playerId
    · subst hother
      obtain rfl : player' = found := by simpa [withPlayer] using hfound
      rw [hid, h.keyed other player hplayer]
    · exact h.keyed other found (by simpa [withPlayer, hother] using hfound)
  named := h.named
  footing bodyId colliderId hstands :=
    h.footing bodyId colliderId (standsOn_withPlayer hplayer hsupport hstands)

theorem onward_withPlayer (h : Embodied w)
    (hplayer : w.player.byId.get? playerId = some player) (hid : player'.playerId = player.playerId)
    (halive : player.lifeState = .alive → player'.lifeState = .alive)
    (hsupport : player'.locomotion.support = none
      ∨ player'.locomotion.support = player.locomotion.support) :
    Onward w (w.withPlayer playerId player') where
  embodied := embodied_withPlayer h hplayer hid hsupport
  recalls bodyId colliderId hrecalls := by
    refine ⟨hrecalls.imp id (standsOn_withPlayer hplayer hsupport), fun hcollider => ?_⟩
    cases hcollider with
    | @player other hwalks =>
      obtain ⟨found, hfound, hfoundAlive⟩ := hwalks
      by_cases hother : other = playerId
      · subst hother
        obtain rfl := Option.mem_unique hplayer hfound
        exact .player ⟨player', by simp [withPlayer], halive hfoundAlive⟩
      · exact .player ⟨found, by simpa [withPlayer, hother] using hfound, hfoundAlive⟩
    | planet => exact .planet
    | block hblock => exact .block hblock
    | voxel hoccupied => exact .voxel hoccupied

theorem onward_fallen (h : Embodied w)
    (hplayer : w.player.byId.get? playerId = some player) (hid : player'.playerId = player.playerId)
    (hsupport : player'.locomotion.support = none) :
    Onward w ((w.withPlayer playerId player').forgetContacts playerId) where
  embodied := (onward_forgetting (embodied_withPlayer h hplayer hid (.inl hsupport)) _).embodied
  recalls bodyId colliderId hrecalls := by
    have hother : w.Recalls bodyId colliderId ∧ bodyId ≠ playerBodyId playerId := by
      rcases hrecalls with ⟨pair, hpair, hends⟩ | hstands
      · obtain ⟨u, hkey⟩ := OrdMap.mem_keys.mp hpair
        simp only [forgetContacts, withPlayer, OrdMap.get?_filter, contactKeyInvolvesPlayerId] at hkey
        split_ifs at hkey with hkeep
        simp only [Bool.not_eq_true', Bool.or_eq_false_iff, beq_eq_false_iff_ne] at hkeep
        refine ⟨.inl ⟨pair, OrdMap.mem_keys.mpr ⟨u, hkey⟩, hends⟩, ?_⟩
        rcases hends with ⟨rfl, -⟩ | ⟨rfl, -⟩
        · exact hkeep.1
        · exact hkeep.2
      · have hbefore := standsOn_withPlayer (w := w) hplayer (.inl hsupport) hstands
        exact ⟨.inr hbefore, h.footing bodyId colliderId hbefore playerId⟩
    refine ⟨hother.1, fun hcollider => ?_⟩
    cases hcollider with
    | @player other hwalks =>
      obtain ⟨found, hfound, halive⟩ := hwalks
      have hne : other ≠ playerId := fun he => hother.2 (he ▸ rfl)
      exact .player ⟨found, by simpa [forgetContacts, withPlayer, hne] using hfound, halive⟩
    | planet => exact .planet
    | block hblock => exact .block hblock
    | voxel hoccupied => exact .voxel hoccupied

theorem onward_withNewBlock (h : Embodied w) {grid : Grid} {block : Block}
    (hgrid : w.grids.get? gridId = some grid) :
    Onward w (w.withGrid gridId { grid with blocks := grid.blocks.insert block.blockId block }) where
  embodied := {
    keyed := h.keyed
    footing := h.footing
    named := by
      intro other found hfound
      by_cases hother : other = gridId
      · subst hother
        obtain rfl : _ = found := by simpa [withGrid] using hfound
        exact h.named other grid hgrid
      · exact h.named other found (by simpa [withGrid, hother] using hfound) }
  recalls bodyId colliderId hrecalls := by
    refine ⟨hrecalls, fun hcollider => ?_⟩
    cases hcollider with
    | player hwalks => exact .player hwalks
    | planet => exact .planet
    | block hblock =>
      obtain ⟨found, hfound, hcontains⟩ := hblock
      by_cases hother : bodyId = gridId
      · subst hother
        obtain rfl := Option.mem_unique hgrid hfound
        refine .block ⟨_, OrdMap.get?_insert_self, ?_⟩
        simp only [OrdMap.contains_insert, hcontains, Bool.or_true]
      · exact .block ⟨found, by simpa [withGrid, hother] using hfound, hcontains⟩
    | voxel hoccupied => exact .voxel hoccupied

/-! ## A physics step -/

theorem mem_stepContacts {active current result} {contacts : List PhysicsContactOutcome}
    (h : contacts.foldlM (stepContact active) current = .ok result) {pair}
    (hpair : pair ∈ result.keys) : pair ∈ current.keys ∨ pair ∈ contacts.map contactKey := by
  induction contacts generalizing current with
  | nil =>
    obtain rfl : current = result := by simpa using h
    exact .inl hpair
  | cons contact rest ih =>
    rw [List.foldlM_cons, bind_eq_ok] at h
    obtain ⟨next, hstep, hrest⟩ := h
    simp only [stepContact, bind_eq_ok, rejectIf_eq_ok, pure_eq_ok] at hstep
    obtain ⟨-, -, -, -, rfl⟩ := hstep
    rcases ih hrest with hbefore | hlater
    · obtain ⟨u, hkey⟩ := OrdMap.mem_keys.mp hbefore
      by_cases hsame : pair = contactKey contact
      · exact .inr (by simp [hsame])
      · rw [OrdMap.get?_insert_ne hsame] at hkey
        exact .inl (OrdMap.mem_keys.mpr ⟨u, hkey⟩)
    · exact .inr (List.mem_cons_of_mem _ hlater)

theorem mem_activeContactsAfter {stepCount : Nat} {contacts : List PhysicsContactOutcome}
    {active : OrdMap ContactPairKey Unit} (hcount : stepCount ≠ 0)
    (h : w.activeContactsAfter stepCount contacts = .ok active) {pair : ContactPairKey}
    (hpair : pair ∈ active.keys) : pair ∈ contacts.map contactKey := by
  obtain ⟨before, rfl⟩ := Nat.exists_eq_succ_of_ne_zero hcount
  rw [activeContactsAfter, List.range_succ, List.foldlM_append, bind_eq_ok] at h
  obtain ⟨earlier, -, hlast⟩ := h
  simp only [List.foldlM_cons, List.foldlM_nil, bind_eq_ok, pure_eq_ok] at hlast
  obtain ⟨last, hlast, rfl⟩ := hlast
  rcases mem_stepContacts hlast hpair with hnone | hreported
  · simp [OrdMap.keys, OrdMap.empty] at hnone
  · obtain ⟨contact, hmem, rfl⟩ := List.mem_map.mp hreported
    exact List.mem_map.mpr ⟨contact, (List.mem_filter.mp hmem).1, rfl⟩

/-- What a step has found of the colliders it names. -/
structure Felt (w : WorldState) (players : List PlayerPhysicsOutcome)
    (active : OrdMap ContactPairKey Unit) : Prop where
  contacts : ∀ pair ∈ active.keys, w.physicsColliderExists pair.bodyA pair.colliderA
    ∧ w.physicsColliderExists pair.bodyB pair.colliderB
  supports : ∀ outcome ∈ players, ∀ support, outcome.locomotion.support = some support →
    w.playerForBodyId support.bodyId = none
      ∧ w.physicsColliderExists support.bodyId support.colliderId

theorem support_of_validatePlayerLocomotionOutcome {scheduled : Player} {outcome}
    {resultingTick : Nat} {support}
    (h : w.validatePlayerLocomotionOutcome host scheduled outcome resultingTick = .ok ())
    (hsupport : outcome.locomotion.support = some support) :
    w.playerForBodyId support.bodyId = none
      ∧ w.physicsColliderExists support.bodyId support.colliderId := by
  simp only [validatePlayerLocomotionOutcome, hsupport, bind_eq_ok, rejectIf_eq_ok, ite_eq_ok] at h
  obtain ⟨-, -, -, -, ⟨-, hnone⟩ | ⟨-, -, -, -, -, -, -, -, -, -, -, hlive⟩⟩ := h
  · simp at hnone
  · simp only [not_or, Bool.not_eq_true, Option.isSome_eq_false_iff, Option.isNone_iff_eq_none,
      Bool.not_eq_false] at hlive
    exact ⟨hlive.1, hlive.2.1⟩

theorem felt_of_applyPhysicsStep {fixedStepHz stepCount remainingStepPhase bodies players contacts
      activeAfter}
    (h : w.applyPhysicsStep host fixedStepHz stepCount remainingStepPhase bodies players contacts
      activeAfter = .ok w') :
    ∃ active, Solved host w stepCount bodies players ∧ Felt w players active
      ∧ w' = w.stepped stepCount remainingStepPhase bodies players active := by
  obtain ⟨solved, -⟩ := applyPhysicsStep_eq_ok h
  simp only [applyPhysicsStep, bind_eq_ok, rejectIf_eq_ok, checkAll_eq_ok, not_or, ne_eq, not_not,
    pure_eq_ok] at h
  obtain ⟨-, ⟨-, hcount, -, -⟩, -, -, -, -, ⟨⟩, -, -, -, ⟨⟩, -, -, -, ⟨⟩, hcontacts, -, -, active,
    hactive, -, -, -, -, rfl⟩ := h
  refine ⟨active, solved, ⟨fun pair hpair => ?_, fun outcome hmem support hsupport => ?_⟩, ?_⟩
  · obtain ⟨contact, hreported, rfl⟩ :=
      List.mem_map.mp (mem_activeContactsAfter hcount hactive hpair)
    have hvalid := hcontacts contact hreported
    simp only [validateContact, bind_eq_ok, rejectIf_eq_ok, not_or, Bool.not_eq_false] at hvalid
    obtain ⟨-, -, -, -, -, -, -, -, -, -, -, ⟨-, hexists⟩, -⟩ := hvalid
    exact hexists
  · obtain ⟨before, after, rfl⟩ := List.append_of_mem hmem
    have hvalid := checkEach_eq_ok_iff_split.mp solved.moved before outcome after rfl
    simp only [validatePlayerOutcome, validatePlayerState, bind_eq_ok] at hvalid
    obtain ⟨-, -, prior, -, -, -, -, -, -, -, -, -, -, -, -, -, -, -, -, -, ⟨⟩, hlocomotion, -⟩ :=
      hvalid
    exact support_of_validatePlayerLocomotionOutcome hlocomotion hsupport
  · rw [foldl_withBody, foldl_withMovedPlayer]
    rfl

section Stepping

variable {stepCount remainingStepPhase : Nat} {bodies : List PhysicsBodyOutcome}
  {players : List PlayerPhysicsOutcome} {active : OrdMap ContactPairKey Unit}

theorem player_of_stepped (solved : Solved host w stepCount bodies players)
    {found : Player}
    (hfound : (w.stepped stepCount remainingStepPhase bodies players active).player.byId.get?
      playerId = some found) :
    ∃ player, w.player.byId.get? playerId = some player ∧ found.playerId = player.playerId
      ∧ found.lifeState = player.lifeState
      ∧ (found.locomotion = player.locomotion
        ∨ ∃ outcome ∈ players, found.locomotion = outcome.locomotion) := by
  simp only [stepped, OrdMap.get?_foldl_modify_of_nodup solved.players_nodup,
    Option.map_eq_some_iff] at hfound
  obtain ⟨player, hplayer, rfl⟩ := hfound
  refine ⟨player, hplayer, ?_⟩
  cases hreported : players.find? fun outcome => decide (outcome.playerId = playerId) with
  | none => exact ⟨rfl, rfl, .inl rfl⟩
  | some outcome => exact ⟨rfl, rfl, .inr ⟨outcome, List.mem_of_find?_eq_some hreported, rfl⟩⟩

theorem grids_stepped (gridId : String) :
    ((w.stepped stepCount remainingStepPhase bodies players active).grids.get? gridId).map partsOf
      = (w.grids.get? gridId).map partsOf := by
  simp only [stepped, OrdMap.get?_foldl_modify, Option.map_map]
  refine Option.map_congr fun grid _ => ?_
  show partsOf (List.foldl Grid.posed grid _) = partsOf grid
  unfold partsOf
  rw [Grid.blocks_foldl_posed, Grid.gridId_foldl_posed]

theorem collider_stepped (solved : Solved host w stepCount bodies players)
    {bodyId colliderId : String} (hcollider : w.Collider bodyId colliderId) :
    (w.stepped stepCount remainingStepPhase bodies players active).Collider bodyId colliderId := by
  cases hcollider with
  | @player playerId hwalks =>
    obtain ⟨player, hplayer, halive⟩ := hwalks
    have hmoved : (w.stepped stepCount remainingStepPhase bodies players active).player.byId.get?
        playerId = (w.player.byId.get? playerId).map _ :=
      OrdMap.get?_foldl_modify_of_nodup solved.players_nodup
    rw [hplayer] at hmoved
    refine .player ⟨_, hmoved, ?_⟩
    cases players.find? fun outcome => decide (outcome.playerId = playerId) <;> exact halive
  | planet => exact .planet
  | block hblock => exact .block (hblock.of_parts (grids_stepped _))
  | voxel hoccupied => exact .voxel hoccupied

theorem recalls_stepped (hlive : LiveMemory w) (solved : Solved host w stepCount bodies players)
    (felt : Felt w players active) {bodyId colliderId : String}
    (hrecalls : (w.stepped stepCount remainingStepPhase bodies players active).Recalls bodyId
      colliderId) : w.physicsColliderExists bodyId colliderId := by
  rcases hrecalls with ⟨pair, hpair, hends⟩ | ⟨playerId, found, support, hfound, hsupport, hnames⟩
  · obtain ⟨hfirst, hsecond⟩ := felt.contacts pair hpair
    rcases hends with ⟨rfl, rfl⟩ | ⟨rfl, rfl⟩
    · exact hfirst
    · exact hsecond
  · obtain ⟨player, hplayer, -, -, hsame | ⟨outcome, hmem, hreported⟩⟩ :=
      player_of_stepped solved hfound
    · exact hlive bodyId colliderId (.inr ⟨playerId, player, support, hplayer, hsame ▸ hsupport,
        hnames⟩)
    · obtain ⟨rfl, rfl⟩ := hnames
      exact (felt.supports outcome hmem support (hreported ▸ hsupport)).2

theorem embodied_stepped (h : Embodied w) (solved : Solved host w stepCount bodies players)
    (felt : Felt w players active) :
    Embodied (w.stepped stepCount remainingStepPhase bodies players active) where
  keyed playerId found hfound := by
    obtain ⟨player, hplayer, hid, -⟩ := player_of_stepped solved hfound
    exact hid.trans (h.keyed playerId player hplayer)
  named gridId found hfound := by
    have hparts : ((w.stepped stepCount remainingStepPhase bodies players active).grids.get?
        gridId).map partsOf = (w.grids.get? gridId).map partsOf := grids_stepped gridId
    rw [hfound] at hparts
    obtain ⟨grid, hgrid, hsame⟩ := Option.map_eq_some_iff.mp hparts.symm
    simp only [partsOf, Prod.mk.injEq] at hsame
    exact hsame.1 ▸ h.named gridId grid hgrid
  footing bodyId colliderId hstands playerId := by
    obtain ⟨standing, found, support, hfound, hsupport, rfl, rfl⟩ := hstands
    obtain ⟨player, hplayer, -, -, hsame | ⟨outcome, hmem, hreported⟩⟩ :=
      player_of_stepped solved hfound
    · exact h.footing _ _ ⟨standing, player, support, hplayer, hsame ▸ hsupport, rfl, rfl⟩ playerId
    · -- a footing that is reported is looked up among the players first, and not found
      obtain ⟨hnobody, hexists⟩ := felt.supports outcome hmem support (hreported ▸ hsupport)
      exact ((physicsColliderExists_iff h).mp hexists).ne_player h hnobody

theorem live_stepped (h : Embodied w) (hlive : LiveMemory w)
    (solved : Solved host w stepCount bodies players) (felt : Felt w players active) :
    LiveMemory (w.stepped stepCount remainingStepPhase bodies players active) := by
  intro bodyId colliderId hrecalls
  refine (physicsColliderExists_iff (embodied_stepped h solved felt)).mpr ?_
  exact collider_stepped solved
    ((physicsColliderExists_iff h).mp (recalls_stepped hlive solved felt hrecalls))

end Stepping

end WorldState
end Verse
