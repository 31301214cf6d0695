import Verse.Interest.Shown

/-!
# Frames the client accepts

`Picture` is what a projection found out about the world, and the frame is made of it. A
baseline's picture passes every check of the client by itself; a delta's picture passes over
the view its cursor stands for. Either way the client is left with the view the server's next
cursor stands for: `Shows` is kept.
-/

namespace Verse.Interest

open Lib
open Directory (CellKeyV1)

variable {host : Projecting}

/-! ## Pictures -/

structure Picture where
  own : PlayerSnapshot
  environment : EnvironmentSnapshot
  candidates : OrdMap EntityKey Candidate
  selection : Selection
  actor : ActorPrivateSnapshot
  entities : List InterestEntityProjection
  link : Option InterestTransferLink
  viewHash : String
  (entered replaced : List InterestEntityProjection)

namespace Picture

variable (picture : Picture) (source : ProjectionSource) (cursor : InterestProjectionState)

/-- What the digest of the view is taken of. -/
def material : HashMaterial where
  projectionSchemaVersion := projectionSchemaVersion
  interestSchemaVersion := interestSchemaVersion
  contentManifestVersion := source.canonical.contentManifestVersion
  universeId := source.canonical.universeId
  cellId := source.canonical.cellId
  universeManifestHash := source.canonical.universeManifestHash
  celestialRegistryHash := source.canonical.celestialRegistryHash
  cellAddress := source.canonical.cellAddress
  localOrigin := picture.own.address
  gravityBodyId := source.canonical.gravityBodyId
  voxelBodyId := source.canonical.voxelBodyId
  observerClass := .boundPlayer
  sessionEpoch := cursor.sessionEpoch
  interestEpoch := cursor.interestEpoch
  baselineId := cursor.baselineId
  deltaSequence := picture.selection.deltaSequence
  transferLink := picture.link
  entities := picture.entities
  environment := picture.environment
  conservationValid := source.canonical.conservationValid
  actorPrivate := some picture.actor

def interest : InterestSnapshot where
  schemaVersion := interestSchemaVersion
  frameKind := picture.selection.frameKind
  sessionEpoch := cursor.sessionEpoch
  interestEpoch := cursor.interestEpoch
  baselineId := cursor.baselineId
  deltaSequence := picture.selection.deltaSequence
  observerClass := .boundPlayer
  cellAddress := source.canonical.cellAddress
  localOriginAddress := picture.own.address
  registryHash := source.canonical.celestialRegistryHash
  universeManifestHash := source.canonical.universeManifestHash
  transferLink := picture.link
  canonicalEventSequence := source.canonical.eventSequence
  canonicalTick := source.canonical.simulationTick
  canonicalWorldHash := source.canonical.worldHash
  previousViewHash := picture.selection.previousViewHash
  viewHash := picture.viewHash
  entered := picture.entered
  replaced := picture.replaced
  removed := picture.selection.removed

/-- The payloads selected, as the public arrays of a baseline are filled from them. -/
def shown : List InterestEntityProjection :=
  (picture.selection.payloads.entries.filter fun entry =>
    decide (entry.1 ∈ picture.selection.members.keys)).map fun entry =>
      ⟨(ofLex entry.1).1, (ofLex entry.1).2, 0, 0, entry.2⟩

def projected : ProjectedWorldSnapshot where
  projectionSchemaVersion := projectionSchemaVersion
  schemaVersion := source.canonical.schemaVersion
  contentManifestVersion := source.canonical.contentManifestVersion
  universeId := source.canonical.universeId
  cellId := source.canonical.cellId
  universeManifestHash := source.canonical.universeManifestHash
  celestialRegistryHash := source.canonical.celestialRegistryHash
  cellAddress := source.canonical.cellAddress
  gravityBodyId := source.canonical.gravityBodyId
  voxelBodyId := source.canonical.voxelBodyId
  eventSequence := source.canonical.eventSequence
  simulationTick := source.canonical.simulationTick
  fencingToken := source.canonical.fencingToken
  worldHash := source.canonical.worldHash
  players := picture.shown.filterMap (·.player?)
  environment := picture.environment
  voxelChunks := picture.shown.filterMap (·.voxelChunk?)
  grids := picture.shown.filterMap (·.grid?)
  deathDrops := picture.shown.filterMap (·.deathDrop?)
  conservationValid := source.canonical.conservationValid
  interest := picture.interest source cursor
  actorPrivate := some picture.actor

/-- The cursor the projection leaves. -/
def next : InterestProjectionState :=
  { cursor with
    members := picture.selection.members
    payloads := picture.selection.payloads
    deltaSequence := picture.selection.deltaSequence
    viewHash := some picture.viewHash
    lastEvaluatedTick := some source.canonical.simulationTick
    environment := some picture.environment
    actorPrivate := some picture.actor
    transferLink := none }

end Picture

/-- What a projection finds out, for a bound player. -/
structure Pictures (host : Projecting) (source : ProjectionSource)
    (cursor : InterestProjectionState) (player : String) (picture : Picture) : Prop where
  session : validateSession cursor = .ok ()
  own : source.player? player = some picture.own
  environment : picture.own.environment = some picture.environment
  candidates : source.query host cursor picture.own.address = .ok picture.candidates
  selection : select host cursor picture.candidates picture.own.address
    source.canonical.simulationTick OrdMap.empty = .ok picture.selection
  actor : source.filteredActorPrivate player picture.selection.members.keys = .ok picture.actor
  entities : (picture.selection.members.entries.map refOf).mapM
    (completeEntityProjection picture.selection.payloads) = .ok picture.entities
  link : transferLinkForFrame host cursor source.canonical picture.selection.frameKind =
    .ok picture.link
  viewHash : host.wire.hashing.digest (picture.material source cursor) = .ok picture.viewHash
  entered : picture.selection.entered.mapM
    (completeEntityProjection picture.selection.payloads) = .ok picture.entered
  replaced : picture.selection.replaced.mapM
    (completeEntityProjection picture.selection.payloads) = .ok picture.replaced

section

variable {source : ProjectionSource} {cursor next : InterestProjectionState} {player : String}

theorem pictures_of_project {projected} (hobserver : cursor.observer = .boundPlayer player)
    (h : projectInterestWorldSnapshot host source cursor OrdMap.empty = .ok (projected, next)) :
    ∃ picture, Pictures host source cursor player picture ∧
      projected = picture.projected source cursor ∧ next = picture.next source cursor := by
  simp only [projectInterestWorldSnapshot, ProjectionSource.interestAnchor,
    ProjectionSource.observerEnvironment, hobserver, bind_eq_ok, demand_eq_ok, rejectIf_eq_ok,
    map_eq_ok, mapError_eq_ok, pure_eq_ok, Prod.mk.injEq] at h
  obtain ⟨_, hsession, anchor, hanchor, environment, henvironment, -, -, candidates, hcandidates,
    selection, hselection, actorPrivate, ⟨actor, hactor, rfl⟩, entities, hentities, link, hlink,
    viewHash, hviewHash, entered, hentered, replaced, hreplaced, rfl, rfl⟩ := h
  obtain ⟨own, hown, rfl⟩ := Option.map_eq_some_iff.mp hanchor
  rw [hown] at henvironment
  exact ⟨⟨own, environment, candidates, selection, actor, entities, link, viewHash, entered,
    replaced⟩, ⟨hsession, hown, henvironment, hcandidates, hselection, hactor, hentities, hlink,
      hviewHash, hentered, hreplaced⟩, rfl, by simp only [Picture.next, hobserver]⟩

/-! ## Cursors -/

/-- What a worker's own cursor is known to be, with or without a view. -/
structure Kept (host : Projecting) (limits : ResourceLimits) (binding : ValidatedRegistry)
    (player sessionEpoch : String) (cursor : InterestProjectionState) : Prop where
  coherent : Coherent cursor
  valid : ∀ k payload, cursor.payloads.get? k = some payload → ∀ revision,
    validateEntity limits binding (entityOf ⟨k, revision⟩ payload) = .ok ()
  room : cursor.members.size ≤ host.policy.maximumVisibleEntities
  named : cursor.baselineId = baselineIdOf host sessionEpoch cursor.interestEpoch
  observer : cursor.observer = .boundPlayer player
  session : cursor.sessionEpoch = sessionEpoch

variable {limits : ResourceLimits} {welcome : WelcomeBinding} {binding : ValidatedRegistry}
  {sessionEpoch : String} {picture : Picture}

variable (h : Pictures host source cursor player picture)

include h

theorem Pictures.selected :
    Selected host cursor picture.candidates picture.selection :=
  selected_of_select h.selection

theorem Pictures.payload {k : EntityKey} {payload}
    (hpayload : picture.selection.payloads.get? k = some payload) :
    ∃ member candidate whole, picture.selection.members.get? k = some member ∧
      picture.candidates.get? k = some candidate ∧ source.candidates.get? k = some whole ∧
      candidate.payload = whole.payload ∧
      Choice cursor (picture.selection.deltaSequence + 1) k candidate member payload := by
  have hsome := h.selected.same k
  rw [hpayload] at hsome
  obtain ⟨member, hmember⟩ := Option.isSome_iff_exists.mp hsome
  obtain ⟨candidate, hcandidate, hchoice⟩ := h.selected.chosen k member payload hmember hpayload
  obtain ⟨whole, hwhole, hsame⟩ := candidate_of_query h.candidates hcandidate
  exact ⟨member, candidate, whole, hmember, hcandidate, hwhole, hsame, hchoice⟩

theorem Pictures.valid (hworld : Presentable limits welcome binding source)
    (hcursor : Kept host limits binding player sessionEpoch cursor) {k : EntityKey} {payload}
    (hpayload : picture.selection.payloads.get? k = some payload) (revision : Nat) :
    validateEntity limits binding (entityOf ⟨k, revision⟩ payload) = .ok () := by
  obtain ⟨member, candidate, whole, -, -, hwhole, hsame, hchoice⟩ := h.payload hpayload
  rcases hchoice.current with hcurrent | ⟨-, -, hprior⟩
  · rw [hcurrent, hsame]
    exact hworld.entity k whole hwhole revision
  · exact hcursor.valid k payload hprior revision

theorem Pictures.kept (hworld : Presentable limits welcome binding source)
    (hcursor : Kept host limits binding player sessionEpoch cursor) :
    Kept host limits binding player sessionEpoch (picture.next source cursor) where
  coherent := by
    refine ⟨fun hnone => (by cases hnone), h.selected.same, ?_⟩
    intro k member hmember
    have hmember' : picture.selection.members.get? k = some member := hmember
    have hsome := h.selected.same k
    rw [hmember'] at hsome
    obtain ⟨payload, hpayload⟩ := Option.isSome_iff_exists.mp hsome.symm
    obtain ⟨candidate, -, hchoice⟩ := h.selected.chosen k member payload hmember' hpayload
    show member.projectedRevision ≤ picture.selection.deltaSequence + 1
    rcases hchoice.kept with hnew | ⟨old, hold, hkept, -⟩
    · exact hnew.le
    · have hle := hcursor.coherent.revised k old hold
      have hsequence := h.selected.sequence
      cases hfirst : cursor.viewHash with
      | none =>
        rw [hcursor.coherent.blank hfirst k] at hold
        cases hold
      | some hash =>
        rw [hfirst] at hsequence
        simp only [Option.isNone_some, Bool.false_eq_true, if_false] at hsequence
        omega
  valid := fun k payload hpayload revision => h.valid hworld hcursor hpayload revision
  room := h.selected.room
  named := hcursor.named
  observer := hcursor.observer
  session := hcursor.session

omit h

theorem validateEntityVector_of_complete {payloads} {refs : List EntityRef} {l}
    (h : refs.mapM (completeEntityProjection payloads) = .ok l)
    (hsorted : (refs.map (·.identity)).Pairwise (· < ·))
    (hvalid : ∀ k payload, payloads.get? k = some payload → ∀ revision,
      validateEntity limits binding (entityOf ⟨k, revision⟩ payload) = .ok ())
    (hroom : refs.length ≤ limits.maxEntities) :
    validateEntityVector l limits binding = .ok () := by
  have hkeys := map_entityKey_of_complete h
  have hlength : l.length = refs.length := by
    simpa using congrArg List.length hkeys
  simp only [validateEntityVector, bind_eq_ok, rejectIf_eq_ok, ensureStrictlySorted_eq_ok,
    checkAll_eq_ok, not_lt]
  refine ⟨(), hlength.le.trans hroom, (), by rw [hkeys]; exact hsorted, ?_⟩
  intro e he
  obtain ⟨entity, -, payload, hpayload, rfl⟩ := (mem_of_complete h).mp he
  exact hvalid entity.identity payload hpayload entity.projectedRevision

theorem Pictures.depicts (h : Pictures host source cursor player picture)
    (hcursor : cursor.observer = .boundPlayer player)
    (hown : (source.candidates.get? (toLex (player, .player))).isSome) :
    Depicts source player picture.entities := by
  have hkeys := map_entityKey_of_complete h.entities
  rw [map_identity_refOf] at hkeys
  obtain ⟨whole, hwhole⟩ := Option.isSome_iff_exists.mp hown
  obtain ⟨own, hcandidate, -, hcritical⟩ := query_own hcursor hwhole h.candidates
  refine ⟨sorted_of_complete h.entities, ?_, ?_⟩
  · rw [hkeys]
    exact OrdMap.mem_keys.mpr (Option.isSome_iff_exists.mp
      (h.selected.critical _ own hcandidate hcritical))
  · intro e he
    obtain ⟨entity, -, payload, hpayload, rfl⟩ := (mem_of_complete h.entities).mp he
    obtain ⟨member, candidate, whole', -, hcandidate', hwhole', hsame, hchoice⟩ :=
      h.payload hpayload
    refine ⟨whole', hwhole', ?_⟩
    rcases hchoice.current with hcurrent | ⟨hordinary, hstructure, -⟩
    · exact .inl (hcurrent.trans hsame)
    · refine .inr ⟨?_, by rw [← hsame]; exact hstructure⟩
      intro hself
      have hidentity : entity.identity = toLex (player, .player) := hself
      rw [hidentity, hcandidate] at hcandidate'
      rw [← Option.some.inj hcandidate', hcritical] at hordinary
      cases hordinary

theorem Pictures.linked (h : Pictures host source cursor player picture)
    (hcursor : cursor.observer = .boundPlayer player)
    (hworld : Presentable limits welcome binding source)
    (hshown : picture.actor.EndpointsShown) :
    validatePrivateLinkage (.player player) (some picture.actor) picture.entities = .ok () := by
  obtain ⟨-, -, hown⟩ := filteredActorPrivate_valid hworld h.actor
  have hkeys := map_entityKey_of_complete h.entities
  rw [map_identity_refOf] at hkeys
  obtain ⟨survey, w, hsource⟩ := hworld.projected
  refine validateActorLinkage_of_depicts hsource (h.depicts hcursor hown) ?_ hshown
  rw [hkeys]
  exact h.actor

/-! ## What every frame of a world passes -/

/-- What the two ends of a session take for granted of the parts they share. -/
structure Sharing (host : Projecting) (limits : ResourceLimits) : Prop where
  hex : ∀ material hash, host.wire.hashing.digest material = .ok hash →
    validBlake3Hex hash = true
  baselines : Function.Injective host.baselineDigest
  cells : Function.Injective host.wire.hashing.cellIdForKey
  keys : ∀ key, host.validateCellKey key = .ok () → key.schemaVersion = cellKeySchemaVersion
  room : 2 * host.policy.maximumVisibleEntities ≤ limits.maxEntities

variable (h : Pictures host source cursor player picture)

include h

theorem Pictures.environment_valid
    (hworld : Presentable limits welcome binding source) {label : String} :
    binding.validateEnvironment picture.environment label = .ok () :=
  validateEnvironment_label (hworld.environment picture.own (List.mem_of_find?_eq_some h.own)
    picture.environment h.environment)

theorem Pictures.header (hworld : Presentable limits welcome binding source) :
    validateInterestHeader (picture.interest source cursor) picture.selection.frameKind binding =
      .ok () := by
  have hown := hworld.address picture.own (List.mem_of_find?_eq_some h.own)
  have houter := hworld.outer
  simp only [validateOuter, bind_eq_ok, rejectIf_eq_ok, not_not] at houter
  obtain ⟨⟨⟩, ⟨-, -, -, -, hmanifest, hregistry, huniverse⟩, ⟨⟩, haddress, -⟩ := houter
  simp only [validateInterestHeader, bind_eq_ok, rejectIf_eq_ok, not_not]
  exact ⟨(), ⟨rfl, rfl, hregistry, hmanifest, huniverse, universeId_of_validateAddress hown⟩, (),
    validateAddress_label haddress, validateAddress_label hown⟩

theorem Pictures.role (hworld : Presentable limits welcome binding source)
    (hrole : welcome.role = .player player) {actorPrivate motion}
    (hactor : ∀ a, actorPrivate = some a → a = picture.actor)
    (hmotion : ∀ m, motion = some m → m = privatePlayerMotion picture.actor.player) :
    validateRole welcome .boundPlayer actorPrivate motion = .ok () := by
  obtain ⟨-, hplayer, -⟩ := filteredActorPrivate_valid hworld h.actor
  simp only [validateRole, hrole, rejectIf_eq_ok, not_or, Bool.not_eq_true, Option.any_eq_false,
    bne_eq_false_iff_eq, ne_eq, not_true_eq_false, not_false_eq_true, true_and]
  refine ⟨?_, ?_⟩
  · intro a ha
    rw [hactor a ha, hplayer]
  · intro m hm
    rw [hmotion m hm]
    exact hplayer

theorem Pictures.arrays {α : Type}
    {f : InterestEntityProjection → Option α}
    (hf : ∀ e id kind revision schema, f e = f ⟨id, kind, revision, schema, e.payload⟩) :
    picture.shown.filterMap f = picture.entities.filterMap f := by
  have hsame : picture.selection.members.keys = picture.selection.payloads.keys :=
    OrdMap.keys_eq_of_isSome h.selected.same
  have hvisible : (picture.selection.payloads.entries.filter fun entry =>
      decide (entry.1 ∈ picture.selection.members.keys)) =
        picture.selection.payloads.entries := by
    rw [List.filter_eq_self]
    intro entry hentry
    rw [hsame]
    exact decide_eq_true (List.mem_map_of_mem hentry)
  have hsorted := sorted_of_complete h.entities
  have hperm : (picture.entities.map fun e => (entityKey e, e.payload)).Perm
      picture.selection.payloads.entries := by
    refine (List.perm_ext_iff_of_nodup ?_ OrdMap.entries_nodup).mpr ?_
    · refine List.Nodup.of_map Prod.fst ?_
      rw [List.map_map]
      exact hsorted.imp fun h => h.ne
    · rintro ⟨k, payload⟩
      rw [List.mem_map, OrdMap.mem_entries]
      constructor
      · rintro ⟨e, he, hpair⟩
        obtain ⟨entity, -, payload', hpayload', rfl⟩ := (mem_of_complete h.entities).mp he
        obtain ⟨rfl, rfl⟩ := Prod.mk.inj hpair
        exact hpayload'
      · intro hpayload
        have hsome := h.selected.same k
        rw [hpayload] at hsome
        obtain ⟨member, hmember⟩ := Option.isSome_iff_exists.mp hsome
        exact ⟨entityOf (refOf (k, member)) payload, (mem_of_complete h.entities).mpr
          ⟨refOf (k, member), List.mem_map_of_mem (OrdMap.mem_entries.mpr hmember), payload,
            hpayload, rfl⟩, rfl⟩
  have hpairwise : (picture.entities.map fun e => (entityKey e, e.payload)).Pairwise
      fun a b => a.1 < b.1 := by
    rw [List.pairwise_map]
    exact List.pairwise_map.mp hsorted
  have hentries : picture.selection.payloads.entries.Pairwise fun a b => a.1 < b.1 :=
    picture.selection.payloads.sorted
  have heq : (picture.entities.map fun e => (entityKey e, e.payload)) =
      picture.selection.payloads.entries := by
    refine List.Perm.eq_of_pairwise ?_ hpairwise hentries hperm
    intro a b _ _ hab hba
    exact absurd (hab.trans hba) (lt_irrefl _)
  rw [Picture.shown, hvisible, ← heq, List.map_map, List.filterMap_map]
  refine List.filterMap_congr fun e _ => ?_
  exact (hf e _ _ _ _).symm

/-! ## Baselines -/

theorem Pictures.entities_valid
    (hshare : Sharing host limits) (hworld : Presentable limits welcome binding source)
    (hcursor : Kept host limits binding player sessionEpoch cursor) :
    validateEntityVector picture.entities limits binding = .ok () := by
  refine validateEntityVector_of_complete h.entities ?_
    (fun k payload hpayload revision => h.valid hworld hcursor hpayload revision) ?_
  · rw [map_identity_refOf]
    exact OrdMap.keys_sorted
  · have hroom := h.selected.room
    have hlimit := hshare.room
    rw [List.length_map]
    have hsize : picture.selection.members.size = picture.selection.members.entries.length := rfl
    omega

theorem Pictures.link_valid
    (hshare : Sharing host limits) (hworld : Presentable limits welcome binding source)
    (hrole : welcome.role = .player player) :
    validateTransferLink host.wire.hashing picture.link source.canonical.cellId
      source.canonical.cellAddress welcome.role binding = .ok () := by
  have hlink := h.link
  rw [transferLinkForFrame] at hlink
  cases hcursor : cursor.transferLink with
  | none =>
    rw [hcursor] at hlink
    rw [← Except.ok.inj hlink]
    rfl
  | some link =>
    rw [hcursor] at hlink
    simp only [bind_eq_ok, rejectIf_eq_ok, mapError_eq_ok, pure_eq_ok, not_or, ne_eq,
      not_not, Bool.not_eq_false] at hlink
    obtain ⟨⟨⟩, ⟨-, -, hid, hgeneration⟩, ⟨⟩, hkey, ⟨⟩, ⟨hcell, haddress⟩, hpicture⟩ := hlink
    rw [← hpicture, hrole]
    have houter := hworld.outer
    simp only [validateOuter, bind_eq_ok] at houter
    obtain ⟨⟨⟩, -, ⟨⟩, hvalid, -⟩ := houter
    simp only [validateTransferLink, bind_eq_ok, rejectIf_eq_ok, not_or, ne_eq, not_not,
      Bool.not_eq_false]
    exact ⟨(), ⟨by simp, hid, hgeneration, hshare.keys _ hkey⟩, (),
      by rw [haddress]; exact validateAddress_label hvalid, (), haddress, hcell⟩

theorem Pictures.blank (hcursor : Kept host limits binding player sessionEpoch cursor)
    (hblank : cursor.viewHash = none) :
    picture.selection.frameKind = .baseline ∧ picture.selection.deltaSequence = 0 ∧
      picture.selection.previousViewHash = none ∧ picture.entered = picture.entities ∧
      picture.replaced = [] ∧ picture.selection.removed = [] := by
  have hentered := h.entered
  have hreplaced := h.replaced
  rw [h.selected.entered, hblank] at hentered
  rw [h.selected.replaced, hblank] at hreplaced
  refine ⟨by rw [h.selected.kind, hblank]; rfl, by rw [h.selected.sequence, hblank]; rfl,
    by rw [h.selected.previous, hblank], ?_, ?_, ?_⟩
  · exact ok_unique hentered h.entities
  · exact (Except.ok.inj hreplaced).symm
  · have hkeys : cursor.members.keys = [] := by
      refine List.eq_nil_iff_forall_not_mem.mpr fun k hk => ?_
      obtain ⟨member, hmember⟩ := OrdMap.mem_keys.mp hk
      rw [hcursor.coherent.blank hblank k] at hmember
      cases hmember
    rw [h.selected.removed, ← List.map_eq_nil_iff, map_removalKey_removedEntities, hkeys,
      List.filter_nil]

omit h

/-- The view a picture shows. -/
def Picture.view (picture : Picture) (source : ProjectionSource)
    (cursor : InterestProjectionState) : ViewState where
  contentManifestVersion := source.canonical.contentManifestVersion
  universeId := source.canonical.universeId
  cellId := source.canonical.cellId
  universeManifestHash := source.canonical.universeManifestHash
  celestialRegistryHash := source.canonical.celestialRegistryHash
  cellAddress := source.canonical.cellAddress
  localOrigin := picture.own.address
  gravityBodyId := source.canonical.gravityBodyId
  voxelBodyId := source.canonical.voxelBodyId
  observerClass := .boundPlayer
  sessionEpoch := cursor.sessionEpoch
  interestEpoch := cursor.interestEpoch
  baselineId := cursor.baselineId
  deltaSequence := picture.selection.deltaSequence
  canonicalEventSequence := source.canonical.eventSequence
  canonicalTick := source.canonical.simulationTick
  entities := picture.entities
  environment := picture.environment
  conservationValid := source.canonical.conservationValid
  actorPrivate := some picture.actor
  transferLink := picture.link
  viewHash := picture.viewHash

variable {config : VerifierConfig}

/-! ## Deltas -/

/-- The place a view shows. -/
def ViewState.place (view : ViewState) : CellPlace where
  contentManifestVersion := view.contentManifestVersion
  universeId := view.universeId
  cellId := view.cellId
  universeManifestHash := view.universeManifestHash
  celestialRegistryHash := view.celestialRegistryHash
  cellAddress := view.cellAddress
  gravityBodyId := view.gravityBodyId
  voxelBodyId := view.voxelBodyId

/-- A view of a cell, no later than a world of it. -/
structure ShownOf (canonical : CanonicalSnapshot) (view : ViewState) : Prop where
  place : view.place = canonical.place
  event : view.canonicalEventSequence ≤ canonical.eventSequence
  tick : view.canonicalTick ≤ canonical.simulationTick

theorem ShownOf.later {old new} {view : ViewState} (h : ShownOf old view)
    (hlater : CanonicalSnapshot.Later old new) : ShownOf new view :=
  ⟨h.place.trans hlater.1.symm, h.event.trans hlater.2.1, h.tick.trans hlater.2.2⟩

/-- A cursor stands for a view: the one its last frame left the client with. -/
structure Shows (cursor : InterestProjectionState) (view : ViewState) : Prop where
  session : view.sessionEpoch = cursor.sessionEpoch
  epoch : view.interestEpoch = cursor.interestEpoch
  baseline : view.baselineId = cursor.baselineId
  sequence : view.deltaSequence = cursor.deltaSequence
  observer : view.observerClass = .boundPlayer
  hash : cursor.viewHash = some view.viewHash
  entities : (cursor.members.entries.map refOf).mapM
    (completeEntityProjection cursor.payloads) = .ok view.entities
  environment : cursor.environment = some view.environment
  actorPrivate : cursor.actorPrivate = view.actorPrivate
  present : view.actorPrivate.isSome

theorem Pictures.shows (h : Pictures host source cursor player picture) :
    Shows (picture.next source cursor) (picture.view source cursor) :=
  ⟨rfl, rfl, rfl, rfl, rfl, rfl, h.entities, rfl, rfl, rfl⟩

theorem Pictures.link_of_delta (h : Pictures host source cursor player picture)
    (hkind : picture.selection.frameKind = .delta) : picture.link = none := by
  have hlink := h.link
  rw [transferLinkForFrame] at hlink
  cases hcursor : cursor.transferLink with
  | none =>
    rw [hcursor] at hlink
    exact (Except.ok.inj hlink).symm
  | some link =>
    rw [hcursor, hkind] at hlink
    simp only [bind_eq_ok, rejectIf_eq_ok, not_or] at hlink
    obtain ⟨⟨⟩, ⟨hbaseline, -⟩, -⟩ := hlink
    exact absurd (by decide : InterestFrameKind.delta ≠ .baseline) hbaseline

variable {current : ViewState}

theorem Pictures.continued (h : Pictures host source cursor player picture)
    (hshows : Shows cursor current) :
    cursor.viewHash.isNone = false ∧ picture.selection.frameKind = .delta ∧
      picture.selection.deltaSequence = cursor.deltaSequence + 1 ∧
      picture.selection.previousViewHash = some current.viewHash := by
  have hfirst : cursor.viewHash.isNone = false := by rw [hshows.hash]; rfl
  refine ⟨hfirst, ?_, ?_, ?_⟩
  · rw [h.selected.kind, hfirst]
    rfl
  · rw [h.selected.sequence, hfirst]
    rfl
  · rw [h.selected.previous, hshows.hash]

theorem deltaPrivateComponents_cases (previous actor : ActorPrivateSnapshot) :
    (∀ a, (deltaPrivateComponents (some previous) (some actor)).1 = some a → a = actor) ∧
    (∀ m, (deltaPrivateComponents (some previous) (some actor)).2 = some m →
      m = privatePlayerMotion actor.player) ∧
    ¬ ((deltaPrivateComponents (some previous) (some actor)).1.isSome ∧
      (deltaPrivateComponents (some previous) (some actor)).2.isSome) := by
  rw [deltaPrivateComponents]
  split
  · exact ⟨fun a ha => (Option.some.inj ha).symm, fun m hm => (by cases hm), by simp⟩
  · split
    · exact ⟨fun a ha => (by cases ha), fun m hm => (Option.some.inj hm).symm, by simp⟩
    · exact ⟨fun a ha => (by cases ha), fun m hm => (by cases hm), by simp⟩

section
variable (h : Pictures host source cursor player picture) (hshare : Sharing host config.limits)
  (hworld : Presentable config.limits welcome binding source)
  (hcursor : Kept host config.limits binding player sessionEpoch cursor)
  (hrole : welcome.role = .player player)

include h hshare hworld hcursor hrole

theorem Pictures.validateBaseline (hshown : picture.actor.EndpointsShown)
    (hblank : cursor.viewHash = none) :
    Interest.validateBaseline host.wire.hashing config welcome binding
      (picture.projected source cursor) = .ok (picture.view source cursor) := by
  obtain ⟨hkind, hsequence, hprevious, hentered, hreplaced, hremoved⟩ := h.blank hcursor hblank
  obtain ⟨hvalid, -, -⟩ := filteredActorPrivate_valid hworld h.actor
  have hsession := h.session
  simp only [validateSession, bind_eq_ok, rejectIf_eq_ok, not_or, Bool.not_eq_true] at hsession
  obtain ⟨⟨⟩, ⟨hnotblank, -⟩, hepoch, hbaseline⟩ := hsession
  have hmaterial : (picture.projected source cursor).view.hashMaterial =
      picture.material source cursor := by
    simp only [ProjectedWorldSnapshot.view, ViewState.hashMaterial, Picture.projected,
      Picture.interest, Picture.material, hentered, hsequence]
  rw [validateBaseline_eq_ok, hmaterial]
  refine ⟨⟨?_, ?_, ?_, ?_, ?_, ?_, ?_, ?_, ?_, ?_, ?_⟩, h.viewHash, hshare.hex _ _ h.viewHash, ?_⟩
  · simp only [validateOuterBaseline, bind_eq_ok]
    exact ⟨(), validateOuter_label hworld.outer, h.environment_valid hworld⟩
  · have hheader := h.header hworld
    rwa [hkind] at hheader
  · simp [repeatedBaselineHeaders, Picture.projected, Picture.interest]
  · exact h.link_valid hshare hworld hrole
  · refine h.role hworld hrole ?_ ?_
    · intro a ha
      exact (Option.some.inj ha).symm
    · intro m hm
      cases hm
  · simp [Picture.projected]
  · have hnonempty : cursor.sessionEpoch ≠ "" := by
      intro hempty
      rw [hempty] at hnotblank
      exact absurd hnotblank (by decide)
    simp only [Picture.projected, Picture.interest, hsequence, hprevious, hreplaced, hremoved]
    simpa using ⟨hnonempty, hbaseline⟩
  · show validateEntityVector picture.entered config.limits binding = .ok ()
    rw [hentered]
    exact h.entities_valid hshare hworld hcursor
  · show rejectIf _ _ = .ok ()
    simp only [rejectIf_eq_ok, Picture.projected, Picture.interest, hentered, not_or, ne_eq,
      not_not]
    exact ⟨h.arrays fun _ _ _ _ _ => rfl, h.arrays fun _ _ _ _ _ => rfl,
      h.arrays fun _ _ _ _ _ => rfl, h.arrays fun _ _ _ _ _ => rfl⟩
  · intro a ha
    obtain rfl := Option.some.inj ha
    exact hvalid
  · show validatePrivateLinkage welcome.role (some picture.actor) picture.entered = .ok ()
    rw [hrole, hentered]
    exact h.linked hcursor.observer hworld hshown
  · simp only [Picture.view, ProjectedWorldSnapshot.view, Picture.projected, Picture.interest,
      hentered, hsequence]

/-- Everything a delta is checked for before its public changes are applied. -/
theorem Pictures.deltaChecks (hshows : Shows cursor current)
    (hof : ShownOf source.canonical current) :
    DeltaChecks config welcome binding current ((picture.projected source cursor).delta cursor) := by
  obtain ⟨hfirst, hkind, hsequence, hprevious⟩ := h.continued hshows
  obtain ⟨previous, hprivate⟩ := Option.isSome_iff_exists.mp hshows.present
  obtain ⟨hactor, hmotion, hexclusive⟩ :=
    deltaPrivateComponents_cases previous picture.actor
  rw [← hprivate, ← hshows.actorPrivate] at hactor hmotion hexclusive
  have hplace := hof.place
  simp only [ViewState.place, CanonicalSnapshot.place, CellPlace.mk.injEq] at hplace
  obtain ⟨-, -, hcell, -, -, haddress, hgravity, hvoxel⟩ := hplace
  have hroom := hshare.room
  have hentered : picture.selection.entered =
      enteredRefs cursor picture.selection.members false := by
    rw [h.selected.entered, hfirst]
  have hreplaced : picture.selection.replaced =
      replacedRefs cursor picture.selection.members false := by
    rw [h.selected.replaced, hfirst]
  have hlength : picture.entered.length + picture.replaced.length +
      picture.selection.removed.length ≤ config.limits.maxEntities := by
    have h₁ := congrArg List.length (map_entityKey_of_complete h.entered)
    have h₂ := congrArg List.length (map_entityKey_of_complete h.replaced)
    rw [List.length_map, List.length_map, hentered] at h₁
    rw [List.length_map, List.length_map, hreplaced] at h₂
    have hchanges : (enteredRefs cursor picture.selection.members false).length +
        (replacedRefs cursor picture.selection.members false).length +
          (removedEntities cursor picture.selection.members picture.candidates
            OrdMap.empty).length ≤ picture.selection.members.size + cursor.members.size :=
      length_changes_le
    have hnext := h.selected.room
    have hprior := hcursor.room
    rw [h.selected.removed]
    omega
  have hvalid : ∀ k payload, picture.selection.payloads.get? k = some payload → ∀ revision,
      validateEntity config.limits binding (entityOf ⟨k, revision⟩ payload) = .ok () :=
    fun k payload hpayload revision => h.valid hworld hcursor hpayload revision
  refine ⟨?_, ?_, ?_, ?_, ?_, h.link_of_delta hkind, ?_, hexclusive, ?_, ?_, ?_, ?_⟩
  · simp only [validateOuterDelta, bind_eq_ok, whenSome_eq_ok]
    refine ⟨(), validateOuter_label hworld.outer, ?_⟩
    intro environment henvironment
    obtain rfl : picture.environment = environment := by
      have hsome : (if cursor.environment ≠ some picture.environment then
          some picture.environment else none) = some environment := henvironment
      split at hsome
      · exact Option.some.inj hsome
      · cases hsome
    exact h.environment_valid hworld
  · have hheader := h.header hworld
    rwa [hkind] at hheader
  · simp [repeatedDeltaHeaders, ProjectedWorldSnapshot.delta, Picture.projected, Picture.interest]
  · exact h.role hworld hrole hactor hmotion
  · rw [validateDeltaFrontier_eq_ok]
    have hnumbered := h.selected.numbered
    refine ⟨by rw [hshows.sequence]; omega, hshows.session.symm, hshows.epoch.symm,
      hshows.baseline.symm, ?_, hprevious, hshows.observer.symm, haddress.symm, hof.event, hof.tick⟩
    rw [hshows.sequence]
    exact hsequence
  · simp only [ProjectedWorldSnapshot.delta, Picture.projected, hcell, hgravity, hvoxel]
    simp
  · refine validateEntityVector_of_complete h.entered ?_ hvalid ?_
    · rw [hentered]
      exact sorted_enteredRefs
    · have := congrArg List.length (map_entityKey_of_complete h.entered)
      simp only [List.length_map] at this
      omega
  · refine validateEntityVector_of_complete h.replaced ?_ hvalid ?_
    · rw [hreplaced]
      exact sorted_replacedRefs
    · have := congrArg List.length (map_entityKey_of_complete h.replaced)
      simp only [List.length_map] at this
      omega
  · simp only [validateRemovals, bind_eq_ok, rejectIf_eq_ok, ensureStrictlySorted_eq_ok, not_lt]
    refine ⟨(), ?_, ?_⟩
    · show picture.selection.removed.length ≤ config.limits.maxEntities
      omega
    · show (picture.selection.removed.map removalKey).Pairwise (· < ·)
      rw [h.selected.removed]
      exact sorted_removedEntities
  · simp only [validateDisjointOperations, bind_eq_ok, rejectIf_eq_ok, not_lt, not_not]
    refine ⟨(), hlength, ?_⟩
    show (picture.entered.map entityKey ++ picture.replaced.map entityKey ++
      picture.selection.removed.map removalKey).Nodup
    rw [map_entityKey_of_complete h.entered, map_entityKey_of_complete h.replaced, hentered,
      hreplaced, h.selected.removed]
    exact nodup_changes

theorem Pictures.validateDelta (hshown : picture.actor.EndpointsShown)
    (hshows : Shows cursor current) (hof : ShownOf source.canonical current) :
    Interest.validateDelta host.wire.hashing config welcome binding current
      ((picture.projected source cursor).delta cursor) = .ok (picture.view source cursor) := by
  obtain ⟨hfirst, hkind, -, -⟩ := h.continued hshows
  have hlink := h.link_of_delta hkind
  obtain ⟨hvalid, -, -⟩ := filteredActorPrivate_valid hworld h.actor
  obtain ⟨previous, hprivate⟩ := Option.isSome_iff_exists.mp hshows.present
  have hmotion : ((picture.projected source cursor).delta cursor).actorPrivate =
      (deltaPrivateComponents (some previous) (some picture.actor)).1 ∧
      ((picture.projected source cursor).delta cursor).actorPrivateMotion =
        (deltaPrivateComponents (some previous) (some picture.actor)).2 := by
    rw [← hprivate, ← hshows.actorPrivate]
    exact ⟨rfl, rfl⟩
  have hview : { ((picture.projected source cursor).delta cursor).view current picture.entities
      (some picture.actor) with viewHash := picture.viewHash } = picture.view source cursor := by
    have henvironment : ((picture.projected source cursor).delta cursor).environment.getD
        current.environment = picture.environment := by
      show (if cursor.environment ≠ some picture.environment then some picture.environment
        else none).getD current.environment = picture.environment
      split
      case isTrue => rfl
      case isFalse hsame =>
        rw [not_not, hshows.environment] at hsame
        exact Option.some.inj hsame
    have hplace := hof.place
    simp only [ViewState.place, CanonicalSnapshot.place, CellPlace.mk.injEq] at hplace
    obtain ⟨hcontent, huniverse, hcell, hmanifest, hregistry, haddress, hgravity, hvoxel⟩ := hplace
    rw [ProjectedInterestDelta.view, henvironment]
    simp only [Picture.view, ProjectedWorldSnapshot.delta, Picture.projected, Picture.interest,
      Option.getD_some, hcontent, huniverse, hcell, hmanifest, hregistry, haddress, hgravity,
      hvoxel, hshows.session, hshows.epoch, hshows.baseline, hshows.observer, hlink]
  have happlied : applyOperations config.limits (entityMap current.entities)
      ((picture.projected source cursor).delta cursor).interest = .ok (entityMap picture.entities) := by
    have hroom := hshare.room
    have hchanging : Changing host cursor picture.candidates picture.selection current.entities
        ((picture.projected source cursor).delta cursor).interest :=
      ⟨hcursor.coherent, h.selected, hfirst, hshows.entities, h.entered, h.replaced, rfl⟩
    exact hchanging.applyOperations h.entities (by omega)
  have hvalues : (entityMap picture.entities).values = picture.entities :=
    values_entityMap (sorted_of_complete h.entities)
  rw [validateDelta_eq_ok]
  refine ⟨?_, _, happlied, some picture.actor, ?_, ?_, ?_, hshare.hex _ _ h.viewHash, ?_⟩
  · exact h.deltaChecks hshare hworld hcursor hrole hshows hof
  · rw [hprivate]
    exact nextActorPrivate_of_delta hvalid hmotion.1 hmotion.2
  · rw [hvalues, hrole]
    exact h.linked hcursor.observer hworld hshown
  · rw [hvalues]
    have hhash : (((picture.projected source cursor).delta cursor).view current picture.entities
        (some picture.actor)).hashMaterial = picture.material source cursor :=
      congrArg ViewState.hashMaterial hview
    rw [hhash]
    exact h.viewHash
  · rw [hvalues]
    exact hview.symm

/-! ## Frames -/

/-- The inventories of every job in what a cursor last showed its player are shown with it. -/
def InterestProjectionState.EndpointsShown (cursor : InterestProjectionState) : Prop :=
  ∀ actor, cursor.actorPrivate = some actor → actor.EndpointsShown

/-- What a projected frame does to a client, and to the cursor. -/
structure Framed (host : Projecting) (config : VerifierConfig) (welcome : WelcomeBinding)
    (binding : ValidatedRegistry) (player sessionEpoch : String) (source : ProjectionSource)
    (cursor : InterestProjectionState) (message : ServerMessage)
    (next : InterestProjectionState) (view : ViewState) : Prop where
  kept : Kept host config.limits binding player sessionEpoch next
  shows : Shows next view
  shownOf : view.place = source.canonical.place ∧
    view.canonicalEventSequence = source.canonical.eventSequence ∧
    view.canonicalTick = source.canonical.simulationTick
  epoch : next.interestEpoch = cursor.interestEpoch
  link : view.transferLink = cursor.transferLink
  frontier : message.frontier? = some view.frontier
  opens : cursor.viewHash = none → ∃ baseline, message = .interestBaseline baseline ∧
    validateBaseline host.wire.hashing config welcome binding baseline = .ok view
  continues : ∀ current, Shows cursor current → ShownOf source.canonical current →
    ∃ delta, message = .interestDelta delta ∧
      validateDelta host.wire.hashing config welcome binding current delta = .ok view

end

theorem Pictures.link_eq (h : Pictures host source cursor player picture) :
    picture.link = cursor.transferLink := by
  have hlink := h.link
  rw [transferLinkForFrame] at hlink
  cases hcursor : cursor.transferLink with
  | none =>
    rw [hcursor] at hlink
    exact (Except.ok.inj hlink).symm
  | some link =>
    rw [hcursor] at hlink
    simp only [bind_eq_ok, pure_eq_ok] at hlink
    obtain ⟨-, -, -, -, -, -, hsome⟩ := hlink
    exact hsome.symm

theorem framed_of_project {message} (hshare : Sharing host config.limits)
    (hworld : Presentable config.limits welcome binding source)
    (hcursor : Kept host config.limits binding player sessionEpoch cursor)
    (hrole : welcome.role = .player player)
    (h : projectInterestFrame host source cursor OrdMap.empty = .ok (message, next))
    (hnext : next.EndpointsShown) :
    ∃ view, Framed host config welcome binding player sessionEpoch source cursor message next
      view := by
  simp only [projectInterestFrame, bind_eq_ok] at h
  obtain ⟨⟨projected, next'⟩, hproject, hframe⟩ := h
  obtain ⟨picture, hpicture, rfl, rfl⟩ := pictures_of_project hcursor.observer hproject
  have hpictured : next = picture.next source cursor := by
    split at hframe <;> exact (Prod.mk.inj (Except.ok.inj hframe)).2.symm
  have hmessage : message = if picture.selection.frameKind = .baseline then
      .interestBaseline (picture.projected source cursor)
      else .interestDelta ((picture.projected source cursor).delta cursor) := by
    split at hframe
    case isTrue hkind =>
      have hkind' : picture.selection.frameKind = .baseline := hkind
      rw [if_pos hkind']
      exact (Prod.mk.inj (Except.ok.inj hframe)).1.symm
    case isFalse hkind =>
      have hkind' : picture.selection.frameKind ≠ .baseline := hkind
      rw [if_neg hkind']
      exact (Prod.mk.inj (Except.ok.inj hframe)).1.symm
  subst hpictured
  have hshown : picture.actor.EndpointsShown := hnext picture.actor rfl
  refine ⟨picture.view source cursor, hpicture.kept hworld hcursor, hpicture.shows,
    ⟨rfl, rfl, rfl⟩, rfl, hpicture.link_eq, ?_, ?_, ?_⟩
  · rw [hmessage]
    split <;> rfl
  · intro hblank
    obtain ⟨hkind, -⟩ := hpicture.blank hcursor hblank
    rw [if_pos hkind] at hmessage
    exact ⟨_, hmessage, hpicture.validateBaseline hshare hworld hcursor hrole hshown hblank⟩
  · intro current hshows hof
    obtain ⟨-, hkind, -, -⟩ := hpicture.continued hshows
    rw [if_neg (by rw [hkind]; decide)] at hmessage
    exact ⟨_, hmessage, hpicture.validateDelta hshare hworld hcursor hrole hshown hshows hof⟩

end

end Verse.Interest
