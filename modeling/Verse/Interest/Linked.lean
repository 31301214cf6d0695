import Verse.Interest.Filtered

/-!
# What is shown of a player's own

The client asks every private record for its public side: an inventory for the cargo block it is
in, a death drop for the drop in view, a queue for its machine. A source built from a world keeps
the two sides together, whatever part of the world is in view (`validateActorLinkage_of_depicts`).

One check asks for more than a valid world gives. A queued job names the inventories it takes from
and delivers to, and the client looks for both among those shown. The server sends the queue of
every machine in view, also when the cargo block of an endpoint is out of view or gone.
-/

namespace Verse.Interest

open Lib
open WorldState (BlockIn BlocksApart)

variable {survey : Surveying} {w : WorldState} {owners : OrdMap String String}
  {source : ProjectionSource} {player : String} {entities : List InterestEntityProjection}

/-- Entities that show a part of a world: its own, but for motion. -/
def Depicts (source : ProjectionSource) (player : String)
    (entities : List InterestEntityProjection) : Prop :=
  (entities.map entityKey).Pairwise (· < ·) ∧
    toLex (player, .player) ∈ entities.map entityKey ∧
    ∀ e ∈ entities, ∃ candidate, source.candidates.get? (entityKey e) = some candidate ∧
      (e.payload = candidate.payload ∨ entityKey e ≠ toLex (player, .player) ∧
        structuralPayloadChanged e.payload candidate.payload = false)

/-- Every job shown takes from an inventory that is shown with it, and delivers to one. -/
def ActorPrivateSnapshot.EndpointsShown (actor : ActorPrivateSnapshot) : Prop :=
  ∀ queue ∈ actor.productionQueues, ∀ job ∈ queue.jobs,
    job.sourceInventoryId ∈ actor.inventories.map InventorySnapshot.inventoryId ∧
      job.destinationInventoryId ∈ actor.inventories.map InventorySnapshot.inventoryId

instance (actor : ActorPrivateSnapshot) : Decidable actor.EndpointsShown :=
  inferInstanceAs (Decidable (∀ queue ∈ actor.productionQueues, ∀ job ∈ queue.jobs, _ ∧ _))

/-! ## Candidates -/

/-- The public side of a record of the world. -/
def Mirrors (survey : Surveying) (w : WorldState) : InterestEntityPayload → Prop
  | .player value => ∃ player ∈ w.player.byId.values,
    publicPlayer survey.host w.cellAddress player = .ok value
  | .grid value => ∃ grid ∈ gridSnapshots w, publicGrid survey w grid = .ok value
  | .voxelChunk _ => True
  | .deathDrop value => ∃ drop ∈ w.deathDrops.values, publicDrop survey.host drop = .ok value

/-- Every candidate so far is the public side of a record. -/
def AllMirror (survey : Surveying) (w : WorldState) (surveyed : Surveyed) : Prop :=
  ∀ k candidate, surveyed.1.byIdentity.get? k = some candidate →
    Mirrors survey w candidate.payload

variable {surveyed : Surveyed}

theorem AllMirror.addCandidate {candidates bodies address payload} (h : AllMirror survey w surveyed)
    (hpayload : Mirrors survey w payload)
    (hadd : addCandidate survey surveyed.1 address payload = .ok candidates) :
    AllMirror survey w (candidates, bodies) := by
  simp only [Interest.addCandidate, bind_eq_ok, pure_eq_ok] at hadd
  obtain ⟨_, -, fingerprint, -, _, -, rfl⟩ := hadd
  intro k candidate hget
  rw [Candidates.file, OrdMap.get?_insert] at hget
  split_ifs at hget with hk
  · obtain rfl := Option.some.inj hget
    exact hpayload
  · exact h k candidate hget

theorem AllMirror.foldlM {α : Type} {step : Surveyed → α → Projected Surveyed} {records : List α}
    (hstep : ∀ record ∈ records, ∀ before after, step before record = .ok after →
      AllMirror survey w before → AllMirror survey w after) {before after : Surveyed}
    (hbefore : AllMirror survey w before) (h : records.foldlM step before = .ok after) :
    AllMirror survey w after := by
  induction records generalizing before with
  | nil =>
    obtain rfl := pure_eq_ok.mp h
    exact hbefore
  | cons record rest ih =>
    obtain ⟨hfirst, hothers⟩ := List.forall_mem_cons.mp hstep
    simp only [List.foldlM_cons, bind_eq_ok] at h
    obtain ⟨middle, hmiddle, hrest⟩ := h
    exact ih hothers (hfirst before middle hmiddle hbefore) hrest

theorem allMirror_of_surveyEntities
    (h : surveyEntities survey w = .ok surveyed) : AllMirror survey w surveyed := by
  simp only [surveyEntities, bind_eq_ok] at h
  obtain ⟨players, hplayers, grids, hgrids, chunks, -, voxels, hvoxels, hdrops⟩ := h
  have hempty : AllMirror survey w (Candidates.empty, OrdMap.empty) := fun _ _ hget => by
    cases hget
  have hplayers := hempty.foldlM (fun player hplayer before after hstep hbefore => by
    simp only [addPlayer, bind_eq_ok, pure_eq_ok] at hstep
    obtain ⟨payload, hpayload, _, hadd, rfl⟩ := hstep
    have hmirrors : Mirrors survey w (.player payload) := ⟨player, hplayer, hpayload⟩
    exact hbefore.addCandidate hmirrors hadd)
    hplayers
  have hgrids := hplayers.foldlM (fun grid hgrid before after hstep hbefore => by
    simp only [addGrid, bind_eq_ok, pure_eq_ok] at hstep
    obtain ⟨payload, hpayload, _, hadd, rfl⟩ := hstep
    have hmirrors : Mirrors survey w (.grid payload) := ⟨grid, hgrid, hpayload⟩
    exact hbefore.addCandidate hmirrors hadd) hgrids
  have hvoxels := hgrids.foldlM (fun entry _ before after hstep hbefore => by
    simp only [addVoxelChunk, bind_eq_ok, pure_eq_ok] at hstep
    obtain ⟨_, -, _, hadd, rfl⟩ := hstep
    have hmirrors : Mirrors survey w (.voxelChunk entry.2) := trivial
    exact hbefore.addCandidate hmirrors hadd) hvoxels
  exact hvoxels.foldlM (fun drop hdrop before after hstep hbefore => by
    simp only [addDrop, bind_eq_ok, pure_eq_ok] at hstep
    obtain ⟨payload, hpayload, _, hadd, rfl⟩ := hstep
    have hmirrors : Mirrors survey w (.deathDrop payload) := ⟨drop, hdrop, hpayload⟩
    exact hbefore.addCandidate hmirrors hadd) hdrops

theorem Sourced.mirrors (h : Sourced survey w owners source) {k : EntityKey}
    {candidate : Candidate} (hget : source.candidates.get? k = some candidate) :
    Mirrors survey w candidate.payload := by
  obtain ⟨surveyed, hsurveyed, hcandidates, -⟩ := h.surveyed
  rw [hcandidates] at hget
  exact allMirror_of_surveyEntities hsurveyed k candidate hget

/-! ## What is in view -/

theorem identity_of_structural {previous current}
    (h : structuralPayloadChanged previous current = false) :
    previous.identity = current.identity := by
  cases previous <;> cases current <;>
    simp_all [structuralPayloadChanged, InterestEntityPayload.identity]

variable {e : InterestEntityProjection} {value : PublicGridSnapshot}

theorem grid?_eq_some :
    e.grid? = some value ↔ e.payload = .grid value := by
  unfold InterestEntityProjection.grid?
  split <;> simp_all

theorem deathDrop?_eq_some {value} :
    e.deathDrop? = some value ↔ e.payload = .deathDrop value := by
  unfold InterestEntityProjection.deathDrop?
  split <;> simp_all

theorem player?_eq_some {value} :
    e.player? = some value ↔ e.payload = .player value := by
  unfold InterestEntityProjection.player?
  split <;> simp_all

/-- Records of different names, filed by name. -/
theorem get?_byName {α : Type} {name : α → String} {l : List α} (hl : (l.map name).Nodup) {a : α}
    (ha : a ∈ l) : (OrdMap.ofList (l.map fun a => (name a, a))).get? (name a) = some a := by
  rw [OrdMap.get?_ofList]
  · exact List.mem_map_of_mem ha
  · simp only [List.mem_map]
    rintro _ ⟨b, hb, rfl⟩ _ ⟨c, hc, rfl⟩ hname
    exact List.inj_on_of_nodup_map hl hb hc hname

namespace Depicts

variable (h : Depicts source player entities)

include h

theorem identity (he : e ∈ entities) :
    e.payload.identity = entityKey e := by
  obtain ⟨candidate, hcandidate, hsame | ⟨-, hsame⟩⟩ := h.2.2 e he
  · rw [hsame]
    exact source.filed _ _ hcandidate
  · rw [identity_of_structural hsame]
    exact source.filed _ _ hcandidate

variable {kind : InterestEntityKind}

/-- The entities of one kind go by different names. -/
theorem nodup {α : Type} {f : InterestEntityProjection → Option α} {name : α → String}
    (hf : ∀ e value, f e = some value → e.payload.identity = toLex (name value, kind)) :
    ((entities.filterMap f).map name).Nodup := by
  rw [List.Nodup, List.pairwise_map, List.pairwise_filterMap]
  refine (List.pairwise_map.mp h.1).imp_of_mem fun {e e'} he he' hlt value hvalue value' hvalue'
    hname => ?_
  rw [← h.identity he, ← h.identity he', hf e value hvalue, hf e' value' hvalue', hname] at hlt
  exact lt_irrefl _ hlt

/-- An index of the entities of one kind finds each of them under its name. -/
theorem get?_index {α : Type} {f : InterestEntityProjection → Option α} {name : α → String}
    (hf : ∀ e value, f e = some value → e.payload.identity = toLex (name value, kind))
    {value : α} (he : e ∈ entities) (hvalue : f e = some value) :
    (OrdMap.ofList ((entities.filterMap f).map fun value => (name value, value))).get?
      (name value) = some value :=
  get?_byName (h.nodup hf) (List.mem_filterMap.mpr ⟨e, he, hvalue⟩)

end Depicts

theorem identity_of_grid? (e : InterestEntityProjection) (value : PublicGridSnapshot)
    (h : e.grid? = some value) : e.payload.identity = toLex (value.gridId, .grid) := by
  rw [grid?_eq_some.mp h]
  rfl

theorem identity_of_deathDrop? (e : InterestEntityProjection) (value : PublicDeathDropSnapshot)
    (h : e.deathDrop? = some value) : e.payload.identity = toLex (value.dropId, .deathDrop) := by
  rw [deathDrop?_eq_some.mp h]
  rfl

theorem identity_of_player? (e : InterestEntityProjection) (value : PublicPlayerSnapshot)
    (h : e.player? = some value) : e.payload.identity = toLex (value.playerId, .player) := by
  rw [player?_eq_some.mp h]
  rfl

/-- A grid in view, but for its motion. -/
structure ShowsGrid (survey : Surveying) (w : WorldState) (value : PublicGridSnapshot)
    (grid : Grid) : Prop where
  gridId : value.gridId = grid.gridId
  owner : value.ownerPlayerId = grid.ownerPlayerId
  blocks : value.blocks.Perm (grid.blocks.values.map (publicBlock survey.host w))

variable {grid : Grid}

theorem showsGrid_of_publicGrid
    (h : publicGrid survey w grid = .ok value) : ShowsGrid survey w value grid := by
  simp only [publicGrid, bind_eq_ok, pure_eq_ok] at h
  obtain ⟨_, -, rfl⟩ := h
  exact ⟨rfl, rfl, List.perm_insertionSort _ _⟩

namespace Sourced

variable (hsourced : Sourced survey w owners source) (h : Depicts source player entities)

include hsourced h

theorem showsGrid (he : e ∈ entities)
    (hvalue : e.grid? = some value) : ∃ gridId grid, w.grids.get? gridId = some grid ∧
      ShowsGrid survey w value grid := by
  rw [grid?_eq_some] at hvalue
  obtain ⟨⟨address, fingerprint, critical, payload⟩, hcandidate, hsame⟩ := h.2.2 e he
  have hmirrors := hsourced.mirrors hcandidate
  rw [hvalue] at hsame
  cases payload with
  | grid current =>
    obtain ⟨grid, hgrid, hpublic⟩ := hmirrors
    obtain ⟨gridId, hgrid⟩ := mem_gridSnapshots.mp hgrid
    refine ⟨gridId, grid, hgrid, ?_⟩
    have hshows := showsGrid_of_publicGrid hpublic
    rcases hsame with hsame | ⟨-, hsame⟩
    · obtain rfl := InterestEntityPayload.grid.inj hsame
      exact hshows
    · simp only [structuralPayloadChanged, Bool.or_eq_false_iff, bne_eq_false_iff_eq] at hsame
      obtain ⟨⟨⟨⟨hid, howner⟩, -⟩, -⟩, hblocks⟩ := hsame
      exact ⟨hid.trans hshows.gridId, howner.trans hshows.owner, hblocks ▸ hshows.blocks⟩
  | _ => simp [structuralPayloadChanged] at hsame

/-- A grid of the world whose entity is in view is shown by it. -/
theorem exists_showsGrid {gridId : String} (hgrid : w.grids.get? gridId = some grid)
    (hvisible : toLex (grid.gridId, .grid) ∈ entities.map entityKey) :
    ∃ e value, e ∈ entities ∧ e.grid? = some value ∧ ShowsGrid survey w value grid := by
  obtain ⟨e, he, hkey⟩ := List.mem_map.mp hvisible
  have hidentity := (h.identity he).trans hkey
  cases hpayload : e.payload with
  | grid value =>
    obtain ⟨gridId', grid', hgrid', hshows⟩ := hsourced.showsGrid h he (grid?_eq_some.mpr hpayload)
    rw [hpayload] at hidentity
    have hid : value.gridId = grid.gridId := congrArg (fun k => (ofLex k).1) hidentity
    have hsame : gridId' = gridId := by
      rw [(hsourced.valid.grids gridId' grid' hgrid').filed, ← hshows.gridId, hid,
        (hsourced.valid.grids gridId grid hgrid).filed]
    rw [hsame, hgrid] at hgrid'
    obtain rfl := Option.some.inj hgrid'
    exact ⟨e, value, he, grid?_eq_some.mpr hpayload, hshows⟩
  | _ =>
    rw [hpayload] at hidentity
    cases congrArg (fun k => (ofLex k).2) hidentity

/-- A death drop of the world whose entity is in view is found there. -/
theorem get?_drops {dropId : String} {drop : DeathDrop}
    (hdrop : w.deathDrops.get? dropId = some drop)
    (hvisible : toLex (drop.dropId, .deathDrop) ∈ entities.map entityKey) :
    (buildPublicLinkIndex entities).drops.get? drop.dropId = some ⟨drop.dropId, drop.address⟩ := by
  obtain ⟨e, he, hkey⟩ := List.mem_map.mp hvisible
  have hidentity := (h.identity he).trans hkey
  obtain ⟨⟨address, fingerprint, critical, payload⟩, hcandidate, hsame⟩ := h.2.2 e he
  have hmirrors := hsourced.mirrors hcandidate
  cases hpayload : e.payload with
  | deathDrop value =>
    rw [hpayload] at hidentity hsame
    have hid : value.dropId = drop.dropId := congrArg (fun k => (ofLex k).1) hidentity
    cases payload with
    | deathDrop current =>
      have hcurrent : value = current := by
        rcases hsame with hsame | ⟨-, hsame⟩
        · exact InterestEntityPayload.deathDrop.inj hsame
        · simpa [structuralPayloadChanged] using hsame
      obtain ⟨drop', hdrop', hpublic⟩ := hmirrors
      simp only [publicDrop, bind_eq_ok, pure_eq_ok] at hpublic
      obtain ⟨_, -, rfl⟩ := hpublic
      obtain ⟨dropId', hdrop'⟩ := OrdMap.mem_values.mp hdrop'
      have hsame : dropId' = dropId := by
        rw [(hsourced.valid.drops dropId' drop' hdrop').filed,
          (hsourced.valid.drops dropId drop hdrop).filed, ← hid, hcurrent]
      rw [hsame, hdrop] at hdrop'
      obtain rfl := Option.some.inj hdrop'
      have hfound := h.get?_index identity_of_deathDrop? he (deathDrop?_eq_some.mpr hpayload)
      rw [hid, hcurrent] at hfound
      exact hfound
    | _ => simp [structuralPayloadChanged] at hsame
  | _ =>
    rw [hpayload] at hidentity
    cases congrArg (fun k => (ofLex k).2) hidentity

/-- The player is found in view, where the private state has it. -/
theorem get?_players {record : Player} (hrecord : w.player.byId.get? player = some record) :
    ∃ value, (buildPublicLinkIndex entities).players.get? player = some value ∧
      value.address = record.address := by
  obtain ⟨e, he, hkey⟩ := List.mem_map.mp h.2.1
  have hidentity := (h.identity he).trans hkey
  obtain ⟨⟨address, fingerprint, critical, payload⟩, hcandidate, hsame⟩ := h.2.2 e he
  have hmirrors := hsourced.mirrors hcandidate
  obtain hsame : e.payload = payload := by
    rcases hsame with hsame | ⟨hother, -⟩
    · exact hsame
    · exact absurd hkey hother
  cases hpayload : payload with
  | player value =>
    rw [hpayload] at hsame hmirrors
    rw [hsame] at hidentity
    have hid : value.playerId = player := congrArg (fun k => (ofLex k).1) hidentity
    obtain ⟨record', hrecord', hpublic⟩ := hmirrors
    simp only [publicPlayer, bind_eq_ok, pure_eq_ok] at hpublic
    obtain ⟨_, -, rfl⟩ := hpublic
    obtain ⟨playerId', hrecord'⟩ := OrdMap.mem_values.mp hrecord'
    have hsame' : playerId' = player := (playerId_eq hsourced.valid hrecord').trans hid
    rw [hsame', hrecord] at hrecord'
    obtain rfl := Option.some.inj hrecord'
    have hfound := h.get?_index identity_of_player? he (player?_eq_some.mpr hsame)
    rw [hid] at hfound
    exact ⟨_, hfound, rfl⟩
  | _ =>
    rw [hsame, hpayload] at hidentity
    cases congrArg (fun k => (ofLex k).2) hidentity

/-- No block is listed twice in view. -/
theorem nodup_links : (buildPublicLinkIndex entities).blocks.Nodup := by
  refine List.nodup_flatMap.mpr ⟨fun shown hshown => ?_, ?_⟩
  · obtain ⟨e, he, hshown⟩ := List.mem_filterMap.mp hshown
    obtain ⟨gridId, grid, hgrid, hshows⟩ := hsourced.showsGrid h he hshown
    refine List.Nodup.map (fun _ _ heq => (PublicBlockLink.mk.inj heq).2) ?_
    rw [hshows.blocks.nodup_iff]
    have hkeys : (grid.blocks.values.map (publicBlock survey.host w)).map
        PublicBlockSnapshot.blockId = grid.blocks.keys := by
      rw [List.map_map, OrdMap.values, List.map_map]
      exact List.map_congr_left fun entry hentry =>
        ((hsourced.valid.grids gridId grid hgrid).blocks _ _
          (OrdMap.mem_entries.mp hentry)).filed.symm
    exact List.Nodup.of_map PublicBlockSnapshot.blockId (hkeys ▸ grid.blocks.keys_nodup)
  · refine (List.pairwise_map.mp (h.nodup identity_of_grid?)).imp fun hne => ?_
    intro link hlink hlink'
    obtain ⟨_, -, rfl⟩ := List.mem_map.mp hlink
    obtain ⟨_, -, heq⟩ := List.mem_map.mp hlink'
    exact hne (congrArg PublicGridSnapshot.gridId (PublicBlockLink.mk.inj heq).1.symm)

/-- A block of a grid in view is found there once. -/
theorem requireUniquePublicBlock_eq {blockId : String} {block : Block}
    (hblock : w.BlockIn blockId grid block)
    (hvisible : toLex (grid.gridId, .grid) ∈ entities.map entityKey) (label : String) :
    ∃ link, requireUniquePublicBlock (buildPublicLinkIndex entities) blockId label = .ok link ∧
      link.grid.ownerPlayerId = grid.ownerPlayerId ∧ link.block.kind = block.kind := by
  obtain ⟨gridId, hgrid, hget⟩ := id hblock
  obtain ⟨e, value, he, hvalue, hshows⟩ := hsourced.exists_showsGrid h hgrid hvisible
  have hmem : value ∈ entities.filterMap (·.grid?) := List.mem_filterMap.mpr ⟨e, he, hvalue⟩
  have hone : (buildPublicLinkIndex entities).blocks.filter
      (fun link => link.block.blockId == blockId) = [⟨value, publicBlock survey.host w block⟩] := by
    refine List.perm_singleton.mp ((List.perm_ext_iff_of_nodup ((hsourced.nodup_links h).filter _)
      (List.nodup_singleton _)).mpr fun link => ?_)
    simp only [List.mem_filter, List.mem_singleton, beq_iff_eq, buildPublicLinkIndex,
      List.mem_flatMap, List.mem_map]
    constructor
    · rintro ⟨⟨shown, hshown, found, hfound, rfl⟩, hid⟩
      obtain ⟨e', he', hvalue'⟩ := List.mem_filterMap.mp hshown
      obtain ⟨gridId', grid', hgrid', hshows'⟩ := hsourced.showsGrid h he' hvalue'
      obtain ⟨block', hblock', rfl⟩ := List.mem_map.mp (hshows'.blocks.mem_iff.mp hfound)
      obtain ⟨blockId', hblock'⟩ := OrdMap.mem_values.mp hblock'
      have hfiled := ((hsourced.valid.grids gridId' grid' hgrid').blocks _ _ hblock').filed
      have hthere : w.BlockIn blockId grid' block' :=
        ⟨gridId', hgrid', (hfiled.trans hid : blockId' = blockId) ▸ hblock'⟩
      obtain ⟨rfl, rfl⟩ := hsourced.valid.blocksApart.unique hthere hblock
      rw [List.inj_on_of_nodup_map (h.nodup identity_of_grid?) hshown hmem
        (hshows'.gridId.trans hshows.gridId.symm)]
    · rintro rfl
      have hfiled := ((hsourced.valid.grids gridId grid hgrid).blocks _ _ hget).filed
      exact ⟨⟨value, hmem, _, hshows.blocks.mem_iff.mpr (List.mem_map_of_mem
        (OrdMap.mem_values.mpr ⟨blockId, hget⟩)), rfl⟩, hfiled.symm⟩
  refine ⟨⟨value, publicBlock survey.host w block⟩, ?_, hshows.owner, rfl⟩
  rw [requireUniquePublicBlock, hone]

end Sourced

/-! ## The private side -/

/-- A loop accepts where each element passes in the light of those before it, as far as these are
    related to it. -/
theorem checkEach_of_pairwise {ε α : Type} {check : List α → α → Except ε Unit}
    {R : α → α → Prop} {l : List α} (hpair : l.Pairwise R)
    (h : ∀ earlier, ∀ a ∈ l, (∀ b ∈ earlier, b ∈ l ∧ R b a) → check earlier a = .ok ()) :
    checkEach check [] l = .ok () := by
  rw [checkEach_eq_ok_iff_split]
  rintro before a after rfl
  refine h before a (by simp) fun b hb => ⟨List.mem_append_left _ hb, ?_⟩
  exact (List.pairwise_append.mp hpair).2.2 b hb a List.mem_cons_self

/-- What is shown of a player's own, read off the world. -/
structure Holds (survey : Surveying) (w : WorldState) (owners : OrdMap String String)
    (player : String) (visible : List EntityKey) (actor : ActorPrivateSnapshot) (own : Player) :
    Prop where
  valid : Valid survey.host w
  owned : projectionInventoryOwners survey w = .ok owners
  listed : w.player.byId.get? player = some own
  self : actor.player = survey.playerSnapshot w own
  inventories : actor.inventories = (w.inventories.values.filter
    (showsInventory w player owners visible)).map inventorySnapshot
  deathDrops : actor.deathDrops = (ownDrops w player visible).map deathDropSnapshot
  masses : actor.ownedGridMasses = (ownGrids w player visible).map fun grid =>
    ⟨grid.gridId, survey.massKg (w.gridMassGrams grid)⟩
  queues : actor.productionQueues = (w.productionQueues.entries.filter fun entry =>
    (ownBlockIds w player visible).contains entry.1).filterMap
      (productionQueueSnapshot survey.host w player)

variable {actor : ActorPrivateSnapshot}

theorem Sourced.holds (hsourced : Sourced survey w owners source) {visible}
    (hactor : source.filteredActorPrivate player visible = .ok actor) :
    ∃ own, Holds survey w owners player visible actor own := by
  rw [hsourced.filteredActorPrivate_eq, actorPrivate_eq_ok hsourced.valid] at hactor
  obtain ⟨shown, hfind, rfl⟩ := hactor
  have hsnapshot := hsourced.snapshot
  simp only [Surveying.projectionSnapshot, bind_eq_ok, pure_eq_ok] at hsnapshot
  obtain ⟨_, -, hcanonical⟩ := hsnapshot
  rw [← hcanonical] at hfind
  obtain ⟨record, hrecord, rfl⟩ := List.mem_map.mp (List.mem_of_find?_eq_some hfind)
  obtain ⟨playerId, hget⟩ := OrdMap.mem_values.mp hrecord
  have hname : (survey.playerSnapshot w record).playerId = player := by
    simpa only [beq_iff_eq] using List.find?_some hfind
  have hid : playerId = player := (playerId_eq hsourced.valid hget).trans hname
  exact ⟨record, hsourced.valid, hsourced.owned, hid ▸ hget, rfl, rfl, rfl, rfl, rfl⟩

variable {inventory : InventorySnapshot} {drop : DeathDropSnapshot}

namespace Holds

variable {visible : List EntityKey} {actor : ActorPrivateSnapshot} {own : Player}
  (h : Holds survey w owners player visible actor own)

include h

theorem mem_inventories (hin : inventory ∈ actor.inventories) :
    ∃ found, w.inventories.get? inventory.inventoryId = some found ∧
      inventory = inventorySnapshot found ∧
      showsInventory w player owners visible found = true := by
  rw [h.inventories] at hin
  obtain ⟨found, hfound, rfl⟩ := List.mem_map.mp hin
  obtain ⟨hfound, hshown⟩ := List.mem_filter.mp hfound
  obtain ⟨inventoryId, hget⟩ := OrdMap.mem_values.mp hfound
  have hfiled := (h.valid.inventories inventoryId found hget).filed
  rw [hfiled] at hget
  exact ⟨found, hget, rfl, hshown⟩

variable {inventoryId : String} {found : InventoryRecord}

theorem inventory_mem
    (hget : w.inventories.get? inventoryId = some found)
    (hshown : showsInventory w player owners visible found = true) :
    inventorySnapshot found ∈ actor.inventories := by
  rw [h.inventories]
  exact List.mem_map_of_mem (List.mem_filter.mpr ⟨OrdMap.mem_values.mpr ⟨_, hget⟩, hshown⟩)

theorem nodup_inventories : (actor.inventories.map InventorySnapshot.inventoryId).Nodup := by
  have hkeys : w.inventories.values.map InventoryRecord.inventoryId = w.inventories.keys := by
    rw [OrdMap.values, List.map_map]
    exact List.map_congr_left fun entry hentry =>
      (h.valid.inventories _ _ (OrdMap.mem_entries.mp hentry)).filed.symm
  have hsublist := (List.filter_sublist (p := showsInventory w player owners visible)
    (l := w.inventories.values)).map InventoryRecord.inventoryId
  rw [h.inventories, List.map_map]
  exact List.Nodup.sublist hsublist (hkeys ▸ w.inventories.keys_nodup)

theorem owner_eq
    (hget : w.inventories.get? inventoryId = some found)
    (hshown : showsInventory w player owners visible found = true) :
    w.inventoryOwnerPlayerId inventoryId = .ok player := by
  simp only [showsInventory, Bool.and_eq_true, beq_iff_eq] at hshown
  rw [(h.valid.inventories inventoryId found hget).filed]
  exact ((get?_owners h.owned).mp hshown.1).2

/-- What a player carries is shown to the player, and nothing else is shown as carried. -/
theorem carried : ∃ found, w.inventories.get? own.inventoryId = some found ∧
    actor.inventories.filter (·.isCarried) = [inventorySnapshot found] := by
  obtain ⟨found, hget, hid, hdomain, -⟩ := (h.valid.players player own h.listed).carries
  have howner : w.inventoryOwnerPlayerId found.inventoryId = .ok player := by
    rw [hid, WorldState.inventoryOwnerPlayerId, hget]
    simp [hdomain]
  have hshown : showsInventory w player owners visible found = true := by
    rw [showsInventory, Bool.and_eq_true, beq_iff_eq, hdomain]
    refine ⟨(get?_owners h.owned).mpr ⟨OrdMap.contains_iff.mpr ⟨found, ?_⟩, howner⟩, ?_⟩
    · rw [hid]
      exact hget
    · exact beq_self_eq_true player
  refine ⟨found, hget, List.perm_singleton.mp ((List.perm_ext_iff_of_nodup
    ((List.Nodup.of_map _ h.nodup_inventories).filter _) (List.nodup_singleton _)).mpr
      fun inventory => ?_)⟩
  rw [List.mem_filter, List.mem_singleton]
  constructor
  · rintro ⟨hin, hcarried⟩
    obtain ⟨other, hother, rfl, hshows⟩ := h.mem_inventories hin
    have hok := (h.valid.inventories _ other hother).domain
    simp only [showsInventory, Bool.and_eq_true] at hshows
    cases hotherDomain : other.domain with
    | player playerId =>
      rw [hotherDomain] at hok hshows
      obtain rfl := eq_of_beq hshows.2
      obtain ⟨record', hrecord', hlink⟩ := hok
      rw [h.listed] at hrecord'
      obtain rfl := Option.some.inj hrecord'
      rw [← hlink, hget] at hother
      rw [Option.some.inj hother]
    | _ => simp [InventorySnapshot.isCarried, inventorySnapshot, hotherDomain] at hcarried
  · rintro rfl
    refine ⟨h.inventory_mem hget hshown, ?_⟩
    simp [InventorySnapshot.isCarried, inventorySnapshot, hdomain]

theorem mem_deathDrops (hin : drop ∈ actor.deathDrops) :
    ∃ dropId found, w.deathDrops.get? dropId = some found ∧ drop = deathDropSnapshot found ∧
      found ∈ ownDrops w player visible ∧ found.ownerPlayerId = player ∧
      toLex (found.dropId, .deathDrop) ∈ visible := by
  rw [h.deathDrops] at hin
  obtain ⟨found, hfound, rfl⟩ := List.mem_map.mp hin
  have hown := hfound
  simp only [ownDrops, List.mem_filter, Bool.and_eq_true, beq_iff_eq, decide_eq_true_eq] at hown
  obtain ⟨dropId, hget⟩ := OrdMap.mem_values.mp hown.1
  exact ⟨dropId, found, hget, rfl, hfound, hown.2.1, hown.2.2⟩

/-- The inventory of a death drop is shown with it. -/
theorem sealed (hin : drop ∈ actor.deathDrops) :
    ∃ inventory ∈ actor.inventories, inventory.inventoryId = drop.inventoryId ∧
      inventory.domain.droppedOwner = some player := by
  obtain ⟨dropId, found, hget, rfl, hfound, howner, -⟩ := h.mem_deathDrops hin
  obtain ⟨inventory, hinventory, hdropped⟩ := (h.valid.drops dropId found hget).sealed
  have hfiled := (h.valid.inventories _ inventory hinventory).filed
  rw [howner] at hdropped
  have hname : w.inventoryOwnerPlayerId inventory.inventoryId = .ok player := by
    rw [← hfiled, WorldState.inventoryOwnerPlayerId, hinventory]
    cases hdomain : inventory.domain <;> simp_all [InventoryDomain.droppedOwner]
  have hshown : showsInventory w player owners visible inventory = true := by
    rw [showsInventory, Bool.and_eq_true, beq_iff_eq]
    refine ⟨(get?_owners h.owned).mpr ⟨OrdMap.contains_iff.mpr ⟨inventory, ?_⟩, hname⟩, ?_⟩
    · rw [← hfiled]
      exact hinventory
    · cases hdomain : inventory.domain with
      | dropped reason ownerPlayerId =>
        exact List.any_eq_true.mpr ⟨found, hfound, by rw [hfiled]; exact beq_self_eq_true _⟩
      | _ => simp [hdomain, InventoryDomain.droppedOwner] at hdropped
  exact ⟨_, h.inventory_mem hinventory hshown, hfiled.symm, hdropped⟩

/-- The inventories and the death drops of a player answer to each other. -/
theorem dropped_iff_linked (inventoryId : String) :
    inventoryId ∈ (actor.inventories.filter (·.isDropped)).map InventorySnapshot.inventoryId ↔
      inventoryId ∈ actor.deathDrops.map DeathDropSnapshot.inventoryId := by
  simp only [List.mem_map, List.mem_filter]
  constructor
  · rintro ⟨inventory, ⟨hin, hdropped⟩, rfl⟩
    obtain ⟨found, hget, rfl, hshown⟩ := h.mem_inventories hin
    simp only [showsInventory, Bool.and_eq_true] at hshown
    cases hdomain : found.domain with
    | dropped reason ownerPlayerId =>
      rw [hdomain] at hshown
      obtain ⟨drop, hdrop, hid⟩ := List.any_eq_true.mp hshown.2
      refine ⟨deathDropSnapshot drop, ?_, eq_of_beq hid⟩
      rw [h.deathDrops]
      exact List.mem_map_of_mem hdrop
    | _ => simp [InventorySnapshot.isDropped, inventorySnapshot, hdomain] at hdropped
  · rintro ⟨drop, hin, rfl⟩
    obtain ⟨inventory, hinventory, hid, hdropped⟩ := h.sealed hin
    refine ⟨inventory, ⟨hinventory, ?_⟩, hid⟩
    cases hdomain : inventory.domain <;>
      simp_all [InventorySnapshot.isDropped, InventoryDomain.droppedOwner]

theorem pairwise_deathDrops : actor.deathDrops.Pairwise fun earlier later =>
    earlier.inventoryId ≠ later.inventoryId := by
  have hdrops := (OrdMap.pairwise_entries (m := w.deathDrops)
    (R := fun a b => a.2.inventoryId ≠ b.2.inventoryId) fun _ _ hne => hne.symm).mpr
      h.valid.dropsApart
  rw [h.deathDrops, List.pairwise_map, ownDrops]
  refine List.Pairwise.filter _ ?_
  rw [OrdMap.values, List.pairwise_map]
  exact hdrops

end Holds

/-! ## Linkage -/

variable {queue : ProductionQueueSnapshot}

theorem jobs_of_productionQueueSnapshot {entry}
    (h : productionQueueSnapshot survey.host w player entry = some queue) :
    queue.jobs = (entry.2.zipIdx.filter fun job => job.1.ownerPlayerId == player).map
      (productionJobSnapshot survey.host w entry.1) := by
  unfold productionQueueSnapshot at h
  split at h
  case h_1 => cases h
  case h_2 =>
    rw [← Option.some.inj h]

section Linkage

variable {actor : ActorPrivateSnapshot} {own : Player}
  (hsourced : Sourced survey w owners source) (h : Depicts source player entities)
  (hholds : Holds survey w owners player (entities.map entityKey) actor own)

include hsourced h hholds

theorem validateInventoryLink_of_depicts {earlier} (hin : inventory ∈ actor.inventories)
    (hearlier : ∀ other ∈ earlier, other ∈ actor.inventories ∧
      other.inventoryId ≠ inventory.inventoryId) :
    validateInventoryLink (buildPublicLinkIndex entities) actor player earlier inventory =
      .ok () := by
  obtain ⟨found, hget, rfl, hshown⟩ := hholds.mem_inventories hin
  have hdomain := (hholds.valid.inventories _ found hget).domain
  have howner := hholds.owner_eq hget hshown
  simp only [showsInventory, Bool.and_eq_true] at hshown
  have hshape : (inventorySnapshot found).domain = found.domain := rfl
  unfold validateInventoryLink
  rw [hshape]
  cases hkind : found.domain with
  | player playerId =>
    rw [hkind] at hdomain hshown
    obtain rfl := eq_of_beq hshown.2
    obtain ⟨player', hplayer', hlink⟩ := hdomain
    rw [hholds.listed] at hplayer'
    obtain rfl := Option.some.inj hplayer'
    simp [hholds.self, Surveying.playerSnapshot, hlink]
  | cargo blockId =>
    rw [hkind] at hdomain hshown
    obtain ⟨grid, block, hblock, howned, hvisible⟩ :=
      (mem_ownBlockIds hholds.valid).mp (List.contains_iff_mem.mp hshown.2)
    obtain ⟨grid', block', hblock', hlink⟩ := hdomain
    obtain ⟨rfl, rfl⟩ := hholds.valid.blocksApart.unique hblock hblock'
    obtain ⟨link, hunique, hgrid, hcargo⟩ :=
      hsourced.requireUniquePublicBlock_eq h hblock hvisible "cargo inventory"
    have hkindBlock : block.kind = .cargo :=
      (kind_cargo_iff survey.host hholds.valid.grids hblock).mpr fun hnone => by
        rw [hnone] at hlink
        cases hlink
    have halone : (earlier.any fun other => other.domain == .cargo blockId) = false := by
      rw [List.any_eq_false]
      intro other hother hsame
      obtain ⟨hmem, hne⟩ := hearlier other hother
      obtain ⟨found', hget', rfl, -⟩ := hholds.mem_inventories hmem
      have hdomain' := (hholds.valid.inventories _ found' hget').domain
      rw [show found'.domain = .cargo blockId from eq_of_beq hsame] at hdomain'
      obtain ⟨grid', block', hblock', hlink'⟩ := hdomain'
      obtain ⟨-, rfl⟩ := hholds.valid.blocksApart.unique hblock hblock'
      exact hne (Option.mem_unique hlink' hlink)
    simp only [bind_eq_ok, rejectIf_eq_ok, halone, Bool.false_eq_true, not_false_eq_true]
    exact ⟨(), trivial, link, hunique, by
      rw [hgrid, hcargo, howned, hkindBlock]
      simp⟩
  | dropped reason ownerPlayerId =>
    rw [WorldState.inventoryOwnerPlayerId, hget] at howner
    simp only [demand_some, bind_eq_ok, Except.ok.injEq, exists_eq_left', hkind, pure_eq_ok]
      at howner
    simp [howner]

theorem validateDropLink_of_depicts {earlier : List DeathDropSnapshot}
    (hin : drop ∈ actor.deathDrops)
    (hearlier : ∀ other ∈ earlier, other.inventoryId ≠ drop.inventoryId) :
    validateDropLink (buildPublicLinkIndex entities)
      (OrdMap.ofList (actor.inventories.map fun i => (i.inventoryId, i))) player earlier drop =
        .ok () := by
  obtain ⟨inventory, hinventory, hid, hdropped⟩ := hholds.sealed hin
  obtain ⟨dropId, found, hget, rfl, -, howner, hvisible⟩ := hholds.mem_deathDrops hin
  have hshown := hsourced.get?_drops h hget hvisible
  have hfiled := get?_byName hholds.nodup_inventories hinventory
  rw [hid] at hfiled
  have hfirst : (earlier.any fun other =>
      other.inventoryId == (deathDropSnapshot found).inventoryId) = false := by
    rw [List.any_eq_false]
    exact fun other hother hsame => hearlier other hother (eq_of_beq hsame)
  simp only [validateDropLink, bind_eq_ok, rejectIf_eq_ok, demand_eq_ok, not_not, hfirst,
    Bool.false_eq_true, not_false_eq_true]
  exact ⟨(), howner, _, hshown, (), rfl, inventory, hfiled, (), hdropped, trivial⟩

theorem validateMassLink_of_depicts {mass : OwnedGridMassSnapshot}
    (hin : mass ∈ actor.ownedGridMasses) :
    validateMassLink (buildPublicLinkIndex entities) player mass = .ok () := by
  rw [hholds.masses] at hin
  obtain ⟨grid, hgrid, rfl⟩ := List.mem_map.mp hin
  simp only [ownGrids, List.mem_filter, Bool.and_eq_true, beq_iff_eq, decide_eq_true_eq,
    mem_gridSnapshots] at hgrid
  obtain ⟨⟨gridId, hget⟩, howner, hvisible⟩ := hgrid
  obtain ⟨e, value, he, hvalue, hshows⟩ := hsourced.exists_showsGrid h hget hvisible
  have hfound := h.get?_index identity_of_grid? he hvalue
  rw [hshows.gridId] at hfound
  simp only [validateMassLink, bind_eq_ok, rejectIf_eq_ok, demand_eq_ok, not_not]
  exact ⟨value, hfound, hshows.owner.trans howner⟩

theorem validateQueueLink_of_depicts (hshown : actor.EndpointsShown)
    (hin : queue ∈ actor.productionQueues) :
    validateQueueLink (buildPublicLinkIndex entities)
      (OrdMap.ofList (actor.inventories.map fun i => (i.inventoryId, i))) player queue =
        .ok () := by
  have hendpoints := hshown queue hin
  have hcontains : ∀ inventoryId ∈ actor.inventories.map InventorySnapshot.inventoryId,
      (OrdMap.ofList (actor.inventories.map fun i => (i.inventoryId, i))).contains inventoryId =
        true := by
    rintro _ hmem
    obtain ⟨inventory, hinventory, rfl⟩ := List.mem_map.mp hmem
    exact OrdMap.contains_iff.mpr ⟨_, get?_byName hholds.nodup_inventories hinventory⟩
  rw [hholds.queues] at hin
  obtain ⟨⟨machineBlockId, jobs⟩, hentry, hqueue⟩ := List.mem_filterMap.mp hin
  obtain ⟨hentry, hblockId⟩ := List.mem_filter.mp hentry
  obtain ⟨grid, block, hblock, howned, hvisible⟩ :=
    (mem_ownBlockIds hholds.valid).mp (List.contains_iff_mem.mp hblockId)
  have hok := hholds.valid.queues _ _ (OrdMap.mem_entries.mp hentry)
  obtain ⟨grid', block', hmachine, -, hkind, hjobs⟩ := hok.machine
  obtain ⟨rfl, rfl⟩ := hholds.valid.blocksApart.unique hblock
    (WorldState.blockIn_of_blockGrid hmachine)
  obtain ⟨link, hunique, hgrid, hlinkKind⟩ :=
    hsourced.requireUniquePublicBlock_eq h hblock hvisible "production queue"
  have hmachineId := (productionQueueSnapshot_machine hqueue).1
  have hjobsShown := jobs_of_productionQueueSnapshot hqueue
  have hpair : queue.jobs.Pairwise fun earlier later => earlier.jobId ≠ later.jobId := by
    have horder := hok.order
    rw [← List.zipIdx_map_fst 0 jobs, List.pairwise_map] at horder
    rw [hjobsShown, List.pairwise_map]
    exact (horder.imp fun hne => hne.1).filter _
  simp only [validateQueueLink, bind_eq_ok, rejectIf_eq_ok, not_or, not_not, ← or_iff_not_and_not]
  refine ⟨link, hmachineId ▸ hunique, (), ⟨hgrid.trans howned, hlinkKind ▸ hkind⟩,
    checkEach_of_pairwise hpair fun earlier job hjob hearlier => ?_⟩
  obtain ⟨hsource, hdestination⟩ := hendpoints job hjob
  rw [hjobsShown] at hjob
  obtain ⟨⟨queued, index⟩, hqueued, rfl⟩ := List.mem_map.mp hjob
  obtain ⟨hqueued, hmine⟩ := List.mem_filter.mp hqueued
  have hjobOk := hjobs queued (List.fst_mem_of_mem_zipIdx hqueued)
  have hrecipe : (queued.recipe = .refining ∧ link.block.kind = .refinery) ∨
      (queued.recipe = .component ∧ link.block.kind = .assembler) := by
    have hsupports := hjobOk.recipe
    rw [Content.machineSupportsRecipe, beq_iff_eq, ← hlinkKind] at hsupports
    cases hqueuedRecipe : queued.recipe <;>
      simp_all [Content.productionMachineKind]
  have hfirst : (earlier.any fun other => other.jobId ==
      (productionJobSnapshot survey.host w machineBlockId (queued, index)).jobId) = false := by
    rw [List.any_eq_false]
    exact fun other hother hsame => (hearlier other hother).2 (eq_of_beq hsame)
  simp only [validateJobLink, bind_eq_ok, rejectIf_eq_ok, not_or, not_not, ← or_iff_not_and_not,
    hfirst, Bool.false_eq_true, not_false_eq_true, true_and, hcontains _ hsource,
    hcontains _ hdestination, Bool.true_eq_false, and_self]
  exact ⟨(), ⟨eq_of_beq hmine, hjobOk.filed.trans hmachineId.symm⟩, (), hrecipe, trivial⟩

end Linkage

/-- Whatever part of a world is in view, what a player is shown of its own has its public side
    there, if the inventories of every queued job are shown with it. -/
theorem validateActorLinkage_of_depicts
    (hsource : projectionSource survey w = .ok source) (h : Depicts source player entities)
    (hactor : source.filteredActorPrivate player (entities.map entityKey) = .ok actor)
    (hshown : actor.EndpointsShown) : validateActorLinkage player actor entities = .ok () := by
  obtain ⟨owners, hsourced⟩ := sourced_of_projectionSource hsource
  obtain ⟨own, hholds⟩ := hsourced.holds hactor
  obtain ⟨value, hvalue, haddress⟩ := hsourced.get?_players h hholds.listed
  obtain ⟨carried, hcarried, hone⟩ := hholds.carried
  have hname : actor.player.playerId = player := by
    rw [hholds.self]
    exact (playerId_eq hholds.valid hholds.listed).symm
  have hpresent : (OrdMap.ofList (actor.inventories.map fun i => (i.inventoryId, i))).contains
      actor.player.inventoryId = true := by
    have hin : inventorySnapshot carried ∈ actor.inventories :=
      List.mem_of_mem_filter (hone ▸ List.mem_singleton_self _)
    have hid : (inventorySnapshot carried).inventoryId = actor.player.inventoryId := by
      rw [hholds.self]
      exact (hholds.valid.inventories _ carried hcarried).filed.symm
    exact OrdMap.contains_iff.mpr ⟨_, hid ▸ get?_byName hholds.nodup_inventories hin⟩
  have hapart := List.pairwise_map.mp hholds.nodup_inventories
  simp only [validateActorLinkage, bind_eq_ok, rejectIf_eq_ok, demand_eq_ok, checkAll_eq_ok,
    not_or, not_not, Bool.not_eq_false]
  exact ⟨(), hname, value, hvalue, (), haddress.trans (by rw [hholds.self]; rfl), (),
    checkEach_of_pairwise hapart fun earlier inventory hin hearlier =>
      validateInventoryLink_of_depicts hsourced h hholds hin hearlier, (),
    ⟨by rw [hone]; rfl, hpresent⟩, (),
    checkEach_of_pairwise (hholds.pairwise_deathDrops) fun earlier drop hin hearlier =>
      validateDropLink_of_depicts hsourced h hholds hin fun other hother =>
        (hearlier other hother).2, (),
    ⟨fun inventoryId => (hholds.dropped_iff_linked inventoryId).mp,
      fun inventoryId => (hholds.dropped_iff_linked inventoryId).mpr⟩, (),
    fun mass hin => validateMassLink_of_depicts hsourced h hholds hin,
    fun queue hin => validateQueueLink_of_depicts hsourced h hholds hshown hin⟩

end Verse.Interest
