import Verse.Interest.Filtered

/-!
# Worlds an observer cannot tell apart

Two worlds that differ only in what belongs to other players: what is in their inventories, what
they breathe and have earned, what their machines are working on and what they asked for. Two
public fields are computed from these. A machine shows whether its first job is blocked, which
depends on how full an inventory of its owner is, and every frame carries whether the books of the
cell balance. Where these agree too, the sources of the two worlds look alike (`sameSight`), and
sources that look alike are projected into the same frame but for the commitment to the whole
world, its sequence number and hash.
-/

namespace Verse.Interest

open Lib
open WorldState (BlockIn BlocksApart)

variable {survey : Surveying} {w w' : WorldState}

/-- `bound_actor`. -/
def boundActor : InterestObserver → Option String
  | .boundPlayer playerId => some playerId
  | .publicOriginSpectator => none

/-- Two worlds that differ in nothing but what is private to players other than the observer. The
    frontier and the accounts, which move when anything private does, may differ with it. -/
structure PrivatelyDifferent (observer : Option String) (w w' : WorldState) : Prop where
  elsewhere : { w with
    player := w'.player
    inventories := w'.inventories
    productionQueues := w'.productionQueues
    processedOperations := w'.processedOperations
    eventSequence := w'.eventSequence
    lastEventHash := w'.lastEventHash
    ledger := w'.ledger
    productionClock := w'.productionClock } = w'
  players : ∀ playerId, ∃ experience career suitOxygenMilli,
    w'.player.byId.get? playerId = (w.player.byId.get? playerId).map fun player =>
      { player with experience, career, suitOxygenMilli }
  inventories : ∀ inventoryId, ∃ contents,
    w'.inventories.get? inventoryId = (w.inventories.get? inventoryId).map fun inventory =>
      { inventory with contents }
  ownPlayer : ∀ actor, observer = some actor →
    w'.player.byId.get? actor = w.player.byId.get? actor
  ownInventories : ∀ actor, observer = some actor → ∀ inventoryId,
    w.inventoryOwnerPlayerId inventoryId = .ok actor →
    w'.inventories.get? inventoryId = w.inventories.get? inventoryId
  ownQueues : ∀ actor, observer = some actor → ∀ machineBlockId grid block,
    w.BlockIn machineBlockId grid block → grid.ownerPlayerId = actor →
    w'.productionQueues.get? machineBlockId = w.productionQueues.get? machineBlockId
  ownHistory : ∀ actor, observer = some actor →
    w'.processedOperations.get? actor = w.processedOperations.get? actor

/-- What anybody sees of private matters is the same: the state of every machine, and whether the
    books balance. -/
structure OutwardlyAlike (host : Host) (w w' : WorldState) : Prop where
  machines : ∀ blockId grid block, w.BlockIn blockId grid block →
    publicMachineState host w' block = publicMachineState host w block
  weighed : Surveying.conservationValid w' = Surveying.conservationValid w

/-! ## Frames without their commitment -/

def InterestSnapshot.withoutCommitment (interest : InterestSnapshot) : InterestSnapshot :=
  { interest with canonicalEventSequence := 0, canonicalWorldHash := "" }

def ProjectedWorldSnapshot.withoutCommitment (projected : ProjectedWorldSnapshot) :
    ProjectedWorldSnapshot :=
  { projected with
    eventSequence := 0
    worldHash := ""
    interest := projected.interest.withoutCommitment }

def ProjectedInterestDelta.withoutCommitment (delta : ProjectedInterestDelta) :
    ProjectedInterestDelta :=
  { delta with
    eventSequence := 0
    worldHash := ""
    interest := delta.interest.withoutCommitment }

/-- A frame without the sequence number and the hash of the world it was projected from. -/
def ServerMessage.withoutCommitment : ServerMessage → ServerMessage
  | .interestBaseline baseline => .interestBaseline baseline.withoutCommitment
  | .interestDelta delta => .interestDelta delta.withoutCommitment
  | message => message

/-! ## Sources that look alike -/

/-- Two sources an observer cannot tell apart. -/
structure SameSight (observer : InterestObserver) (source source' : ProjectionSource) : Prop where
  canonical : { source.canonical with
    players := source'.canonical.players
    eventSequence := source'.canonical.eventSequence
    worldHash := source'.canonical.worldHash } = source'.canonical
  candidates : source'.candidates = source.candidates
  supportEntities : source'.supportEntities = source.supportEntities
  spectatorAnchor : source'.spectatorAnchor = source.spectatorAnchor
  spectatorEnvironment : source'.spectatorEnvironment = source.spectatorEnvironment
  player : ∀ actor, boundActor observer = some actor → source'.player? actor = source.player? actor
  actorPrivate : ∀ actor, boundActor observer = some actor → ∀ visible,
    source'.filteredActorPrivate actor visible = source.filteredActorPrivate actor visible

variable {source source' : ProjectionSource} {cursor : InterestProjectionState}

theorem SameSight.interestAnchor (h : SameSight cursor.observer source source') :
    source'.interestAnchor cursor = source.interestAnchor cursor := by
  unfold ProjectionSource.interestAnchor
  cases hobserver : cursor.observer with
  | boundPlayer playerId => simp only [h.player playerId (by rw [hobserver]; rfl)]
  | publicOriginSpectator => simp only [h.spectatorAnchor]

theorem SameSight.observerEnvironment (h : SameSight cursor.observer source source') :
    source'.observerEnvironment cursor = source.observerEnvironment cursor := by
  unfold ProjectionSource.observerEnvironment
  cases hobserver : cursor.observer with
  | boundPlayer playerId => simp only [h.player playerId (by rw [hobserver]; rfl)]
  | publicOriginSpectator => simp only [h.spectatorEnvironment]

theorem SameSight.nearby {observer} (h : SameSight observer source source')
    (anchor : UniverseAddress) :
    survey.view.nearby source' anchor = survey.view.nearby source anchor := by
  have hcell := (congrArg CanonicalSnapshot.cellAddress h.canonical).symm
  show Interest.nearby survey source' anchor = Interest.nearby survey source anchor
  simp only [Interest.nearby, hcell, h.candidates]

theorem SameSight.query (h : SameSight cursor.observer source source') (anchor : UniverseAddress) :
    source'.query survey.view cursor anchor = source.query survey.view cursor anchor := by
  unfold ProjectionSource.query
  rw [h.nearby anchor, h.candidates, h.supportEntities]
  cases hobserver : cursor.observer with
  | boundPlayer actor => simp only [h.player actor (by rw [hobserver]; rfl)]
  | publicOriginSpectator => rfl

/-- Leave the commitment out of a view; the cursor holds none. -/
def blank (result : ProjectedWorldSnapshot × InterestProjectionState) :
    ProjectedWorldSnapshot × InterestProjectionState :=
  (result.1.withoutCommitment, result.2)

theorem SameSight.transferLink (h : SameSight cursor.observer source source')
    (frameKind : InterestFrameKind) :
    transferLinkForFrame survey.view cursor source'.canonical frameKind
      = transferLinkForFrame survey.view cursor source.canonical frameKind := by
  rw [← h.canonical]
  rfl

/-- A view is the same of both sources, but for the commitment. -/
theorem SameSight.projectInterestWorldSnapshot (h : SameSight cursor.observer source source')
    (removals : RemovalReasons) :
    blank <$> Interest.projectInterestWorldSnapshot survey.view source' cursor removals
      = blank <$> Interest.projectInterestWorldSnapshot survey.view source cursor removals := by
  unfold Interest.projectInterestWorldSnapshot
  simp only [h.interestAnchor, h.observerEnvironment, h.candidates, h.query, h.transferLink,
    map_bind]
  cases hobserver : cursor.observer with
  | boundPlayer actor =>
    simp only [h.actorPrivate actor (by rw [hobserver]; rfl), map_bind, map_pure, blank]
    rw [← h.canonical]
    rfl
  | publicOriginSpectator =>
    simp only [map_bind, map_pure, blank]
    rw [← h.canonical]
    rfl

/-- The frame a view is sent in. -/
def frameOf (cursor : InterestProjectionState)
    (result : ProjectedWorldSnapshot × InterestProjectionState) :
    ServerMessage × InterestProjectionState :=
  if result.1.interest.frameKind = .baseline then (.interestBaseline result.1, result.2)
  else (.interestDelta (result.1.delta cursor), result.2)

def blankFrame (result : ServerMessage × InterestProjectionState) :
    ServerMessage × InterestProjectionState :=
  (result.1.withoutCommitment, result.2)

theorem projectInterestFrame_eq_map {host removals} :
    projectInterestFrame host source cursor removals
      = frameOf cursor <$> Interest.projectInterestWorldSnapshot host source cursor removals := by
  rw [projectInterestFrame]
  cases Interest.projectInterestWorldSnapshot host source cursor removals with
  | error e => rfl
  | ok result =>
    show (if result.1.interest.frameKind = .baseline then _ else _) = pure (frameOf cursor result)
    rw [frameOf]
    split_ifs <;> rfl

theorem blankFrame_frameOf (cursor : InterestProjectionState)
    (result : ProjectedWorldSnapshot × InterestProjectionState) :
    blankFrame (frameOf cursor (blank result)) = blankFrame (frameOf cursor result) := by
  have hkind : (blank result).1.interest.frameKind = result.1.interest.frameKind := rfl
  rw [frameOf, frameOf, hkind]
  split_ifs <;> rfl

theorem SameSight.projectInterestFrame (h : SameSight cursor.observer source source')
    (removals : RemovalReasons) :
    blankFrame <$> Interest.projectInterestFrame survey.view source' cursor removals
      = blankFrame <$> Interest.projectInterestFrame survey.view source cursor removals := by
  have hblank : ∀ view : Projected (ProjectedWorldSnapshot × InterestProjectionState),
      blankFrame <$> frameOf cursor <$> view = (blankFrame ∘ frameOf cursor) <$> blank <$> view := by
    intro view
    rw [Functor.map_map, Functor.map_map]
    congr 1
    exact funext fun result => (blankFrame_frameOf cursor result).symm
  rw [projectInterestFrame_eq_map, projectInterestFrame_eq_map, hblank, hblank,
    h.projectInterestWorldSnapshot]

/-! ## Worlds that look alike -/

/-- Two maps that bind the same keys, the values of the second made from those of the first. -/
theorem entries_eq_map {κ α β : Type} [LinearOrder κ] {m : OrdMap κ α} {n : OrdMap κ β}
    {change : κ → α → β} (h : ∀ k, n.get? k = (m.get? k).map (change k)) :
    n.entries = m.entries.map fun entry => (entry.1, change entry.1 entry.2) := by
  have hsorted : (m.entries.map fun entry => (entry.1, change entry.1 entry.2)).Pairwise
      fun a b => a.1 < b.1 := List.pairwise_map.mpr m.sorted
  have hnodup : (m.entries.map fun entry => (entry.1, change entry.1 entry.2)).Nodup :=
    hsorted.imp fun hlt he => absurd (he ▸ hlt) (lt_irrefl _)
  refine List.Perm.eq_of_pairwise ?_ n.sorted hsorted ?_
  · intro a b _ _ hab hba
    exact absurd (hab.trans hba) (lt_irrefl _)
  · refine (List.perm_ext_iff_of_nodup OrdMap.entries_nodup hnodup).mpr ?_
    rintro ⟨k, v⟩
    rw [OrdMap.mem_entries, h k, Option.map_eq_some_iff, List.mem_map]
    constructor
    · rintro ⟨value, hvalue, rfl⟩
      exact ⟨(k, value), OrdMap.mem_entries.mpr hvalue, rfl⟩
    · rintro ⟨⟨k', value⟩, hmem, he⟩
      obtain ⟨rfl, rfl⟩ := Prod.mk.inj he
      exact ⟨value, OrdMap.mem_entries.mp hmem, rfl⟩

theorem foldlM_congr {ε α β : Type} {step step' : β → α → Except ε β} {l : List α}
    (h : ∀ a ∈ l, ∀ b, step b a = step' b a) (b : β) : l.foldlM step b = l.foldlM step' b := by
  induction l generalizing b with
  | nil => rfl
  | cons a rest ih =>
    rw [List.foldlM_cons, List.foldlM_cons, h a List.mem_cons_self]
    congr 1
    exact funext fun b' => ih (fun c hc => h c (List.mem_cons_of_mem _ hc)) b'

theorem find?_players (hvalid : Valid survey.host w) (actor : String) :
    w.player.byId.values.find? (fun player => player.playerId == actor)
      = w.player.byId.get? actor := by
  have hlookup : ∀ player, w.player.byId.values.find? (fun player => player.playerId == actor)
      = some player → w.player.byId.get? actor = some player := by
    intro player hfind
    obtain ⟨playerId, hget⟩ := OrdMap.mem_values.mp (List.mem_of_find?_eq_some hfind)
    have hactor : player.playerId = actor := by simpa using List.find?_some hfind
    rwa [playerId_eq hvalid hget, hactor] at hget
  cases hfind : w.player.byId.values.find? fun player => player.playerId == actor with
  | some player => exact (hlookup player hfind).symm
  | none =>
    rw [List.find?_eq_none] at hfind
    cases hget : w.player.byId.get? actor with
    | none => rfl
    | some player =>
      have hactor := playerId_eq hvalid hget
      exact absurd (beq_iff_eq.mpr hactor.symm) (hfind player (OrdMap.mem_values.mpr ⟨_, hget⟩))

namespace PrivatelyDifferent

variable {observer : Option String}

variable (h : PrivatelyDifferent observer w w')

include h

theorem grids : w'.grids = w.grids :=
  (congrArg WorldState.grids h.elsewhere).symm

theorem gridSnapshots :
    Interest.gridSnapshots w' = Interest.gridSnapshots w := by
  rw [Interest.gridSnapshots, Interest.gridSnapshots, h.grids]

theorem environment (position : Vec3) :
    survey.environment w' position = survey.environment w position := by
  rw [← h.elsewhere]
  rfl

theorem inventoryOwnerPlayerId (inventoryId : String) :
    w'.inventoryOwnerPlayerId inventoryId = w.inventoryOwnerPlayerId inventoryId := by
  obtain ⟨contents, hinventory⟩ := h.inventories inventoryId
  unfold WorldState.inventoryOwnerPlayerId
  rw [hinventory, h.grids]
  cases w.inventories.get? inventoryId <;> rfl

theorem blockGrid (blockId : String) :
    w'.blockGrid blockId = w.blockGrid blockId := by
  rw [WorldState.blockGrid, WorldState.blockGrid, h.grids]

theorem productionRouteExists
    (machineId inventoryId : String) : w'.productionRouteExists machineId inventoryId
      = w.productionRouteExists machineId inventoryId := by
  obtain ⟨contents, hinventory⟩ := h.inventories inventoryId
  have hcargo : w'.cargoBlockForInventory inventoryId = w.cargoBlockForInventory inventoryId := by
    unfold WorldState.cargoBlockForInventory
    rw [hinventory]
    cases w.inventories.get? inventoryId with
    | none => rfl
    | some inventory =>
      obtain ⟨_, domain, _, _⟩ := inventory
      cases domain <;> simp only [Option.map_some, h.blockGrid]
  rw [WorldState.productionRouteExists, WorldState.productionRouteExists, hcargo, h.blockGrid]

/-! ### The public side -/

variable {canonical canonical' : CanonicalSnapshot}

theorem projectionSnapshot
    (halike : OutwardlyAlike survey.host w w')
    (hcanonical : survey.projectionSnapshot w = .ok canonical)
    (hcanonical' : survey.projectionSnapshot w' = .ok canonical') :
    { canonical with
      players := canonical'.players
      eventSequence := canonical'.eventSequence
      worldHash := canonical'.worldHash } = canonical' := by
  rw [Surveying.projectionSnapshot, halike.weighed] at hcanonical'
  simp only [Surveying.projectionSnapshot, bind_eq_ok, pure_eq_ok] at hcanonical hcanonical'
  obtain ⟨valid, hvalid, rfl⟩ := hcanonical
  obtain ⟨valid', hvalid', rfl⟩ := hcanonical'
  obtain rfl := ok_unique hvalid hvalid'
  rw [← h.elsewhere]

variable {gridId : String} {grid : Grid}

theorem publicGrid (halike : OutwardlyAlike survey.host w w')
    (hgrid : w.grids.get? gridId = some grid) :
    Interest.publicGrid survey w' grid = Interest.publicGrid survey w grid := by
  have hblocks : grid.blocks.values.map (publicBlock survey.host w')
      = grid.blocks.values.map (publicBlock survey.host w) := by
    refine List.map_congr_left fun block hmem => ?_
    obtain ⟨blockId, hblock⟩ := OrdMap.mem_values.mp hmem
    rw [publicBlock, publicBlock, halike.machines blockId grid block ⟨gridId, hgrid, hblock⟩]
  have hcell : w'.cellAddress = w.cellAddress :=
    (congrArg WorldState.cellAddress h.elsewhere).symm
  simp only [Interest.publicGrid, hblocks, hcell]

theorem surveyEntities (halike : OutwardlyAlike survey.host w w') :
    Interest.surveyEntities survey w' = Interest.surveyEntities survey w := by
  have hcell : w'.cellAddress = w.cellAddress :=
    (congrArg WorldState.cellAddress h.elsewhere).symm
  have hvoxels : w'.voxels = w.voxels := (congrArg WorldState.voxels h.elsewhere).symm
  have hbody : w'.voxelBodyId = w.voxelBodyId :=
    (congrArg WorldState.voxelBodyId h.elsewhere).symm
  have hseed : w'.worldSeed = w.worldSeed := (congrArg WorldState.worldSeed h.elsewhere).symm
  have hdrops : w'.deathDrops = w.deathDrops := (congrArg WorldState.deathDrops h.elsewhere).symm
  have hplayers : ∀ surveyed, w'.player.byId.values.foldlM (addPlayer survey w') surveyed
      = w.player.byId.values.foldlM (addPlayer survey w) surveyed := by
    intro surveyed
    choose experience career oxygen hplayer using h.players
    rw [OrdMap.values, entries_eq_map hplayer, OrdMap.values, List.map_map, List.foldlM_map,
      List.foldlM_map]
    congr 1
    funext before entry
    simp only [addPlayer, publicPlayer, hcell, Function.comp_apply]
  have hgrids : ∀ surveyed, (Interest.gridSnapshots w').foldlM (addGrid survey w') surveyed
      = (Interest.gridSnapshots w).foldlM (addGrid survey w) surveyed := by
    intro surveyed
    rw [h.gridSnapshots]
    refine foldlM_congr (fun grid hmem before => ?_) surveyed
    obtain ⟨gridId, hgrid⟩ := mem_gridSnapshots.mp hmem
    rw [addGrid, addGrid, h.publicGrid halike hgrid]
  have hchunks : addVoxelChunk survey w' = addVoxelChunk survey w := by
    funext before entry
    simp only [addVoxelChunk, hseed, hbody]
  simp only [Interest.surveyEntities, hplayers, hgrids, hchunks, hvoxels, hbody, hdrops]

/-! ### The observer's own side -/

variable {owners : OrdMap String String}

theorem owners_eq {owners'} (howners : projectionInventoryOwners survey w = .ok owners)
    (howners' : projectionInventoryOwners survey w' = .ok owners') : owners' = owners := by
  apply OrdMap.ext
  intro inventoryId
  obtain ⟨contents, hinventory⟩ := h.inventories inventoryId
  have hlisted : w'.inventories.contains inventoryId = w.inventories.contains inventoryId := by
    rw [OrdMap.contains, OrdMap.contains, hinventory, Option.isSome_map]
  refine Option.ext fun owner => ?_
  rw [get?_owners howners, get?_owners howners', hlisted, h.inventoryOwnerPlayerId]

variable {actor : String}

theorem player? (hvalid : Valid survey.host w) (hvalid' : Valid survey.host w')
    (hactor : observer = some actor) :
    (w'.player.byId.values.map (survey.playerSnapshot w')).find? (fun player =>
        player.playerId == actor)
      = (w.player.byId.values.map (survey.playerSnapshot w)).find? (fun player =>
        player.playerId == actor) := by
  have hsnapshot : survey.playerSnapshot w' = survey.playerSnapshot w := by
    funext player
    rw [Surveying.playerSnapshot, Surveying.playerSnapshot, h.environment]
  simp only [List.find?_map]
  show Option.map _ (w'.player.byId.values.find? fun player => player.playerId == actor)
    = Option.map _ (w.player.byId.values.find? fun player => player.playerId == actor)
  rw [find?_players hvalid, find?_players hvalid', h.ownPlayer actor hactor, hsnapshot]

theorem productionJobStatus {machineBlockId : String}
    {block : Block} (hvalid : Valid survey.host w) (hactor : observer = some actor)
    (hblock : w.BlockIn machineBlockId grid block) (howner : grid.ownerPlayerId = actor)
    (queueIndex : Nat) : Interest.productionJobStatus survey.host w' machineBlockId queueIndex
      = Interest.productionJobStatus survey.host w machineBlockId queueIndex := by
  have hget := h.ownQueues actor hactor machineBlockId grid block hblock howner
  have hqueue : w'.queueOf machineBlockId = w.queueOf machineBlockId := by
    rw [WorldState.queueOf, WorldState.queueOf, hget]
  unfold Interest.productionJobStatus
  rw [hqueue]
  cases hjob : (w.queueOf machineBlockId)[queueIndex]? with
  | none => rfl
  | some job =>
    have hdestination : w'.inventories.get? job.destinationInventoryId
        = w.inventories.get? job.destinationInventoryId := by
      refine h.ownInventories actor hactor _ ?_
      have hmem : job ∈ w.queueOf machineBlockId := List.mem_of_getElem? hjob
      rw [WorldState.queueOf] at hmem
      cases hfound : w.productionQueues.get? machineBlockId with
      | none => simp [hfound] at hmem
      | some queue =>
        rw [hfound] at hmem
        obtain ⟨grid', block', hmachine, -, -, hjobs⟩ := (hvalid.queues _ _ hfound).machine
        obtain ⟨rfl, -⟩ := hvalid.blocksApart.unique hblock (WorldState.blockIn_of_blockGrid hmachine)
        have hok := hjobs job hmem
        rw [hok.endpoints.2, hok.owned, howner]
    simp only [h.productionRouteExists, h.blockGrid, hdestination]

theorem gridMassGrams
    (hvalid : Valid survey.host w) (hactor : observer = some actor)
    (hgrid : w.grids.get? gridId = some grid) (howner : grid.ownerPlayerId = actor) :
    w'.gridMassGrams grid = w.gridMassGrams grid := by
  have hinventories : (grid.blocks.values.filterMap fun block =>
        (block.inventoryId.bind w'.inventories.get?).map InventoryRecord.massGrams)
      = grid.blocks.values.filterMap fun block =>
        (block.inventoryId.bind w.inventories.get?).map InventoryRecord.massGrams := by
    refine List.filterMap_congr fun block hmem => ?_
    obtain ⟨blockId, hget⟩ := OrdMap.mem_values.mp hmem
    cases hlink : block.inventoryId with
    | none => rfl
    | some inventoryId =>
      have hblock : w.BlockIn blockId grid block := ⟨gridId, hgrid, hget⟩
      obtain ⟨inventory, hinventory, hdomain⟩ := hvalid.cargo blockId grid block _ hblock hlink
      have hown := inventoryOwnerPlayerId_cargo hvalid.blocksApart hblock hlink hinventory hdomain
      simp only [Option.bind_some, h.ownInventories actor hactor inventoryId (howner ▸ hown)]
  have hqueues : grid.blocks.keys.filterMap w'.productionQueues.get?
      = grid.blocks.keys.filterMap w.productionQueues.get? := by
    refine List.filterMap_congr fun blockId hmem => ?_
    obtain ⟨block, hget⟩ := OrdMap.mem_keys.mp hmem
    exact h.ownQueues actor hactor blockId grid block ⟨gridId, hgrid, hget⟩ howner
  rw [WorldState.gridMassGrams, WorldState.gridMassGrams, hinventories, hqueues]

variable {visible : List EntityKey}

theorem inventories_eq (hvalid : Valid survey.host w)
    (hactor : observer = some actor) (howners : projectionInventoryOwners survey w = .ok owners) :
    (w'.inventories.values.filter (showsInventory w' actor owners visible)).map inventorySnapshot
      = (w.inventories.values.filter (showsInventory w actor owners visible)).map
        inventorySnapshot := by
  choose contents hinventory using h.inventories
  have hdrops : w'.deathDrops = w.deathDrops := (congrArg WorldState.deathDrops h.elsewhere).symm
  have hshown : ∀ inventory contents,
      showsInventory w' actor owners visible { inventory with contents }
        = showsInventory w actor owners visible inventory := by
    intro inventory contents
    simp only [showsInventory, ownBlockIds, ownGrids, ownDrops, h.gridSnapshots, hdrops]
  rw [OrdMap.values, entries_eq_map hinventory, OrdMap.values, List.map_map, List.filter_map,
    List.filter_map, List.map_map, List.map_map]
  have hsame : (showsInventory w' actor owners visible ∘ Prod.snd ∘ fun entry =>
        (entry.1, { entry.2 with contents := contents entry.1 }))
      = showsInventory w actor owners visible ∘ (Prod.snd : String × InventoryRecord → _) :=
    funext fun entry => hshown entry.2 _
  rw [hsame]
  refine List.map_congr_left fun entry hmem => ?_
  obtain ⟨hlisted, hkept⟩ := List.mem_filter.mp hmem
  have hget := OrdMap.mem_entries.mp hlisted
  have hfiled := (hvalid.inventories _ _ hget).filed
  simp only [Function.comp_apply, showsInventory, Bool.and_eq_true, beq_iff_eq] at hkept
  have hown := ((get?_owners howners).mp (hfiled ▸ hkept.1)).2
  have hrecord := h.ownInventories actor hactor entry.1 hown
  rw [hinventory, hget, Option.map_some] at hrecord
  simp only [Function.comp_apply, Option.some.inj hrecord]

theorem productionQueues_eq (hvalid : Valid survey.host w) (hactor : observer = some actor) :
    (w'.productionQueues.entries.filter fun entry =>
        (ownBlockIds w' actor visible).contains entry.1).filterMap
          (productionQueueSnapshot survey.host w' actor)
      = (w.productionQueues.entries.filter fun entry =>
        (ownBlockIds w actor visible).contains entry.1).filterMap
          (productionQueueSnapshot survey.host w actor) := by
  have hblocks : ownBlockIds w' actor visible = ownBlockIds w actor visible := by
    simp only [ownBlockIds, ownGrids, h.gridSnapshots]
  have hown : ∀ machineId, (ownBlockIds w actor visible).contains machineId = true →
      ∃ grid block, w.BlockIn machineId grid block ∧ grid.ownerPlayerId = actor := by
    intro machineId hmem
    rw [List.contains_iff_mem, mem_ownBlockIds hvalid] at hmem
    obtain ⟨grid, block, hblock, howner, -⟩ := hmem
    exact ⟨grid, block, hblock, howner⟩
  have hentries : (w'.productionQueues.entries.filter fun entry =>
        (ownBlockIds w actor visible).contains entry.1)
      = w.productionQueues.entries.filter fun entry =>
        (ownBlockIds w actor visible).contains entry.1 := by
    have hmaps : w'.productionQueues.filter (ownBlockIds w actor visible).contains
        = w.productionQueues.filter (ownBlockIds w actor visible).contains := by
      apply OrdMap.ext
      intro machineId
      rw [OrdMap.get?_filter, OrdMap.get?_filter]
      split_ifs with hmem
      · obtain ⟨grid, block, hblock, howner⟩ := hown machineId hmem
        exact h.ownQueues actor hactor machineId grid block hblock howner
      · rfl
    exact congrArg OrdMap.entries hmaps
  rw [hblocks, hentries]
  refine List.filterMap_congr fun entry hmem => ?_
  obtain ⟨grid, block, hblock, howner⟩ := hown entry.1 (List.mem_filter.mp hmem).2
  have hjobs : productionJobSnapshot survey.host w' entry.1
      = productionJobSnapshot survey.host w entry.1 := by
    funext job
    rw [productionJobSnapshot, productionJobSnapshot,
      h.productionJobStatus hvalid hactor hblock howner]
  simp only [productionQueueSnapshot, hjobs]

theorem actorPrivate
    (hvalid : Valid survey.host w) (hvalid' : Valid survey.host w')
    (hactor : observer = some actor) (howners : projectionInventoryOwners survey w = .ok owners)
    (hcanonical : canonical.players = w.player.byId.values.map (survey.playerSnapshot w))
    (hcanonical' : canonical'.players = w'.player.byId.values.map (survey.playerSnapshot w')) :
    Interest.actorPrivate survey w' actor canonical' owners visible
      = Interest.actorPrivate survey w actor canonical owners visible := by
  have hdrops : w'.deathDrops = w.deathDrops := (congrArg WorldState.deathDrops h.elsewhere).symm
  have hmasses : ((ownGrids w' actor visible).map fun grid =>
        (⟨grid.gridId, survey.massKg (w'.gridMassGrams grid)⟩ : OwnedGridMassSnapshot))
      = (ownGrids w actor visible).map fun grid =>
        ⟨grid.gridId, survey.massKg (w.gridMassGrams grid)⟩ := by
    have hgrids : ownGrids w' actor visible = ownGrids w actor visible := by
      rw [ownGrids, ownGrids, h.gridSnapshots]
    rw [hgrids]
    refine List.map_congr_left fun grid hmem => ?_
    obtain ⟨hlisted, hown⟩ := List.mem_filter.mp hmem
    obtain ⟨gridId, hgrid⟩ := mem_gridSnapshots.mp hlisted
    simp only [Bool.and_eq_true, beq_iff_eq] at hown
    rw [h.gridMassGrams hvalid hactor hgrid hown.1]
  have hsequence : w'.lastOperationSequence actor = w.lastOperationSequence actor := by
    rw [WorldState.lastOperationSequence, WorldState.lastOperationSequence,
      h.ownHistory actor hactor]
  simp only [Interest.actorPrivate, hcanonical, hcanonical', h.player? hvalid hvalid' hactor,
    h.inventories_eq hvalid hactor howners, h.productionQueues_eq hvalid hactor, hmasses, hsequence,
    ownDrops, hdrops]

omit h

theorem sameSight {observer} (h : PrivatelyDifferent (boundActor observer) w w')
    (halike : OutwardlyAlike survey.host w w') (hsource : projectionSource survey w = .ok source)
    (hsource' : projectionSource survey w' = .ok source') : SameSight observer source source' := by
  obtain ⟨owners, sourced⟩ := sourced_of_projectionSource hsource
  obtain ⟨owners', sourced'⟩ := sourced_of_projectionSource hsource'
  obtain ⟨surveyed, hsurveyed, hcandidates, hsupports⟩ := sourced.surveyed
  obtain ⟨surveyed', hsurveyed', hcandidates', hsupports'⟩ := sourced'.surveyed
  obtain ⟨position, hanchor, hposition, henvironment⟩ := sourced.spectator
  obtain ⟨position', hanchor', hposition', henvironment'⟩ := sourced'.spectator
  rw [h.surveyEntities halike] at hsurveyed'
  obtain rfl := ok_unique hsurveyed hsurveyed'
  have hplayers : ∀ {v : WorldState} {c : CanonicalSnapshot}, survey.projectionSnapshot v = .ok c →
      c.players = v.player.byId.values.map (survey.playerSnapshot v) := by
    intro v c hc
    simp only [Surveying.projectionSnapshot, bind_eq_ok, pure_eq_ok] at hc
    obtain ⟨_, -, rfl⟩ := hc
    rfl
  have hcell : w'.cellAddress = w.cellAddress :=
    (congrArg WorldState.cellAddress h.elsewhere).symm
  have hsame : source'.spectatorAnchor = source.spectatorAnchor := by
    rw [hcell, hanchor] at hanchor'
    exact (Except.ok.inj hanchor').symm
  obtain rfl := h.owners_eq sourced.owned sourced'.owned
  refine ⟨h.projectionSnapshot halike sourced.snapshot sourced'.snapshot, ?_, ?_, hsame, ?_, ?_, ?_⟩
  · rw [hcandidates, hcandidates']
  · rw [hsupports, hsupports']
  · rw [hcell, hsame, hposition] at hposition'
    obtain rfl := Except.ok.inj hposition'
    rw [henvironment, henvironment', h.environment]
  · intro actor hactor
    have hfind := h.player? sourced.valid sourced'.valid hactor
    rwa [← hplayers sourced.snapshot, ← hplayers sourced'.snapshot] at hfind
  · intro actor hactor visible
    rw [sourced.filteredActorPrivate_eq, sourced'.filteredActorPrivate_eq]
    exact h.actorPrivate sourced.valid sourced'.valid hactor sourced.owned
      (hplayers sourced.snapshot) (hplayers sourced'.snapshot)

end PrivatelyDifferent

end Verse.Interest
