import Verse.Interest.Sessions
import Verse.Lib.Run

/-!
# Hysteresis and budgets

The frames of a session over any number of revisions of the world, however far apart in ticks.
A member is kept while it is inside the exit radius and the budgets reach it, it is gone once
it has been outside for the declared ticks, and no frame shows more than the policy allows.

Everything about one frame comes from the order in which the budget is spent: what controls
the session, then the members, then what enters. Over several frames the tick since which a
member has been outside is carried along unchanged.
-/

namespace Verse.Interest

open Lib

/-! ## The policy -/

structure InterestBandDefinition extends InterestBand where
  kind : InterestEntityKind
deriving DecidableEq

/-- The interest policy as the content states it. -/
structure InterestDefinition where
  (spatialBucketEdgeM enterRadiusM exitRadiusM exitConsecutiveTicks maximumVisibleEntities : Nat)
  (selectedContextMarginM maximumSelectedContextEntities : Nat)
  publicSpectatorAnchorUm : Int × Int × Int
  entityBands : List InterestBandDefinition
deriving DecidableEq

def expectedKinds : List InterestEntityKind := [.player, .grid, .voxelChunk, .deathDrop]

/-- Comparing the kinds as sets adds nothing to comparing them as lists. -/
def validateInterest (definition : InterestDefinition) : Except String Unit := do
  rejectIf (definition.spatialBucketEdgeM ≠ 256)
    "P1.5 spatial buckets must have a 256 metre edge"
  rejectIf (definition.enterRadiusM ≠ 2000 ∨ definition.exitRadiusM ≠ 2250)
    "P1.5 interest radii must be the versioned 2,000/2,250 metre proof policy"
  rejectIf (definition.exitConsecutiveTicks ≠ 2)
    "P1.5 interest exit hysteresis must require two committed evaluations"
  rejectIf (definition.maximumVisibleEntities ≠ 4096)
    "P1.5 interest views must contain at most 4,096 entities"
  rejectIf (definition.selectedContextMarginM ≠ 250
      ∨ definition.maximumSelectedContextEntities ≠ 64
      ∨ definition.publicSpectatorAnchorUm ≠ (0, 0, 0))
    "P1.5 selected-context and spectator-anchor policy must remain pinned"
  rejectIf (definition.entityBands.map (·.kind) ≠ expectedKinds
      ∨ (∃ band ∈ definition.entityBands, band.enterRadiusM = 0
        ∨ band.exitRadiusM ≤ band.enterRadiusM ∨ band.updateIntervalTicks = 0
        ∨ band.maximumEntities = 0)
      ∨ definition.maximumVisibleEntities
        < (definition.entityBands.map (·.maximumEntities)).sum)
    "P1.5 interest entity bands must be unique, bounded, and ordered"

namespace InterestDefinition

/-- The kind as an error names it. -/
def kindText : InterestEntityKind → String
  | .player => "Player"
  | .grid => "Grid"
  | .voxelChunk => "VoxelChunk"
  | .deathDrop => "DeathDrop"

/-- `interest_band`. -/
def band (definition : InterestDefinition) (kind : InterestEntityKind) : Projected InterestBand :=
  demand ((definition.entityBands.find? fun band => band.kind == kind).map (·.toInterestBand))
    (.invalidCanonicalSnapshot s!"interest band for {kindText kind} is missing")

def policy (definition : InterestDefinition) : InterestPolicy where
  maximumVisibleEntities := definition.maximumVisibleEntities
  exitConsecutiveTicks := definition.exitConsecutiveTicks
  band := definition.band

end InterestDefinition

/-- An entity leaves a band no nearer than it enters it. -/
def InterestPolicy.Ordered (policy : InterestPolicy) : Prop :=
  ∀ kind band, policy.band kind = .ok band → band.enterRadiusM ≤ band.exitRadiusM

theorem ordered_of_validateInterest {definition} (hvalid : validateInterest definition = .ok ()) :
    definition.policy.Ordered := by
  intro kind band hband
  simp only [validateInterest, bind_eq_ok, rejectIf_eq_ok, not_or] at hvalid
  obtain ⟨-, -, -, -, -, -, -, -, -, -, -, hbounded, -⟩ := hvalid
  simp only [InterestDefinition.policy, InterestDefinition.band, demand_eq_ok,
    Option.map_eq_some_iff] at hband
  obtain ⟨declared, hfound, rfl⟩ := hband
  by_contra hle
  exact hbounded ⟨declared, List.mem_of_find?_eq_some hfound, .inr (.inl (not_le.mp hle).le)⟩

/-! ## What controls a session -/

/-- The player a session is bound to, and what supports that player. -/
def criticalKeys (source : ProjectionSource) (cursor : InterestProjectionState) :
    List EntityKey :=
  match cursor.observer with
  | .publicOriginSpectator => []
  | .boundPlayer actor =>
    let support := (source.player? actor).bind fun player =>
      player.locomotion.support.bind fun support => source.supportEntities.get? support.bodyId
    toLex (actor, .player) :: support.toList

/-- An entity of the world as a session meets it. -/
def marked (source : ProjectionSource) (cursor : InterestProjectionState) (k : EntityKey)
    (whole : Candidate) : Candidate :=
  { whole with controlCritical := decide (k ∈ criticalKeys source cursor) }

variable {host : Projecting} {source : ProjectionSource} {cursor next : InterestProjectionState}
  {anchor : UniverseAddress} {candidates : OrdMap EntityKey Candidate} {k : EntityKey}
  {candidate whole : Candidate} {removals : RemovalReasons} {tick : Nat}

/-- A session looks at what is near, at its members and at what controls it. -/
theorem query_eq_ok (h : source.query host cursor anchor = .ok candidates) :
    ∃ near, host.nearby source anchor = .ok near ∧ ∀ k candidate,
      candidates.get? k = some candidate ↔ ∃ whole, source.candidates.get? k = some whole ∧
        candidate = marked source cursor k whole ∧
        (k ∈ near ∨ (cursor.members.get? k).isSome ∨ k ∈ criticalKeys source cursor) := by
  simp only [ProjectionSource.query, bind_eq_ok, pure_eq_ok] at h
  obtain ⟨near, hnear, rfl⟩ := h
  refine ⟨near, hnear, fun k candidate => ?_⟩
  have hsame : ∀ p ∈ (near ++ (cursor.members.keys.filter fun identity =>
      source.candidates.contains identity) ++ criticalKeys source cursor).filterMap
        (fun identity => (source.candidates.get? identity).map fun whole =>
          (identity, marked source cursor identity whole)),
      p.1 ∈ near ++ (cursor.members.keys.filter fun identity =>
        source.candidates.contains identity) ++ criticalKeys source cursor ∧
      ∃ whole, source.candidates.get? p.1 = some whole ∧
        p.2 = marked source cursor p.1 whole := by
    intro p hp
    obtain ⟨identity, hidentity, hmap⟩ := List.mem_filterMap.mp hp
    obtain ⟨whole, hwhole, rfl⟩ := Option.map_eq_some_iff.mp hmap
    exact ⟨hidentity, whole, hwhole, rfl⟩
  refine Iff.trans (OrdMap.get?_ofList ?_) ?_
  · intro p hp q hq hkey
    obtain ⟨-, a, ha, hpa⟩ := hsame p hp
    obtain ⟨-, b, hb, hqb⟩ := hsame q hq
    rw [hkey, hb] at ha
    rw [hpa, hqb, Option.some.inj ha, hkey]
  · constructor
    · intro hmem
      obtain ⟨hk, whole, hwhole, hmarked⟩ := hsame _ hmem
      refine ⟨whole, hwhole, hmarked, ?_⟩
      simp only [List.mem_append, List.mem_filter, OrdMap.mem_keys] at hk
      rcases hk with (hk | ⟨hk, -⟩) | hk
      · exact .inl hk
      · exact .inr (.inl (Option.isSome_iff_exists.mpr hk))
      · exact .inr (.inr hk)
    · rintro ⟨whole, hwhole, rfl, hk⟩
      refine List.mem_filterMap.mpr ⟨k, ?_, by rw [hwhole]; rfl⟩
      simp only [List.mem_append, List.mem_filter, OrdMap.mem_keys]
      rcases hk with hk | hk | hk
      · exact .inl (.inl hk)
      · exact .inl (.inr ⟨Option.isSome_iff_exists.mp hk, OrdMap.contains_iff.mpr ⟨whole, hwhole⟩⟩)
      · exact .inr hk

theorem select_evidence {selection : Selection}
    (h : select host cursor candidates anchor tick removals = .ok selection) :
    select host cursor candidates anchor tick OrdMap.empty = .ok { selection with
        removed := removedEntities cursor selection.members candidates OrdMap.empty } ∧
      selection.removed = removedEntities cursor selection.members candidates removals := by
  have hentries : removals.keys.any (fun identity => candidates.contains identity) = false →
      (candidates.entries.filter fun entry => !removals.contains entry.1) =
        candidates.entries.filter fun entry =>
          !(OrdMap.empty : RemovalReasons).contains entry.1 := by
    intro hapart
    refine List.filter_congr ?_
    rintro ⟨k, candidate⟩ hentry
    have hcontains : removals.contains k = false := by
      by_contra hnamed
      obtain ⟨reason, hreason⟩ := OrdMap.contains_iff.mp (Bool.eq_true_of_not_eq_false hnamed)
      rw [List.any_eq_false] at hapart
      exact hapart k (OrdMap.mem_keys.mpr ⟨reason, hreason⟩)
        (OrdMap.contains_iff.mpr ⟨candidate, OrdMap.mem_entries.mp hentry⟩)
    rw [hcontains]
    rfl
  have hnothing : (OrdMap.empty : RemovalReasons).keys.any
      (fun identity => candidates.contains identity) = false := rfl
  cases hfirst : cursor.viewHash.isNone <;>
    simp only [select, hfirst, Bool.false_eq_true, if_true, if_false, bind_eq_ok, rejectIf_eq_ok,
      pure_eq_ok, Bool.not_eq_true] at h ⊢ <;>
    obtain ⟨⟨⟩, htick, ⟨⟩, hapart, sequence, hsequence, revision, hrevision, evaluated,
      hevaluated, ⟨⟩, hcritical, admitted, hadmitted, rfl⟩ := h <;>
    rw [hentries hapart] at hevaluated <;>
    exact ⟨⟨⟨⟩, htick, ⟨⟩, hnothing, sequence, hsequence, revision, hrevision, evaluated,
      hevaluated, ⟨⟩, hcritical, admitted, hadmitted, rfl⟩, rfl⟩

/-! ## One candidate -/

section Evaluate

variable {firstFrame : Bool} {revision distance : Nat} {band : InterestBand} {member : Membership}
  {selected : Option Eligible}

/-- Where a candidate is placed decides whether it is eligible, and since when it has been
    outside. -/
theorem placed_of_evaluate
    (hband : host.policy.band (ofLex k).2 = .ok band)
    (hdistance : host.squaredDistanceUm anchor candidate.address = .ok distance)
    (h : evaluate host cursor anchor tick firstFrame revision k candidate = .ok selected) :
    ∃ included outside priority, placeOf host cursor tick band (cursor.members.get? k) candidate
        distance = .ok (included, outside, priority) ∧
      selected.isSome = included ∧
      ∀ item, selected = some item → item.member.outsideSinceTick = outside := by
  simp only [evaluate, hband, hdistance, bind_eq_ok, Except.ok.injEq, exists_eq_left'] at h
  obtain ⟨⟨included, outside, priority⟩, hplace, h⟩ := h
  refine ⟨included, outside, priority, hplace, ?_⟩
  cases included with
  | false =>
    obtain rfl : none = selected := Except.ok.inj h
    exact ⟨rfl, fun item hitem => (by cases hitem)⟩
  | true =>
    have hitem : ∃ item, selected = some item ∧ item.member.outsideSinceTick = outside := by
      simp only [if_true] at h
      split at h
      case isTrue =>
        simp only [bind_eq_ok, pure_eq_ok] at h
        obtain ⟨_, -, _, -, rfl⟩ := h
        exact ⟨_, rfl, rfl⟩
      case isFalse =>
        simp only [bind_eq_ok, demand_eq_ok, pure_eq_ok] at h
        obtain ⟨_, -, _, -, _, -, _, -, rfl⟩ := h
        exact ⟨_, rfl, rfl⟩
    obtain ⟨item, rfl, houtside⟩ := hitem
    refine ⟨rfl, fun item' hitem' => ?_⟩
    rw [← Option.some.inj hitem', houtside]

theorem isSome_of_inside (hmember : cursor.members.get? k = some member)
    (hband : host.policy.band (ofLex k).2 = .ok band)
    (hdistance : host.squaredDistanceUm anchor candidate.address = .ok distance)
    (hinside : distance ≤ radiusSquaredUm band.exitRadiusM)
    (h : evaluate host cursor anchor tick firstFrame revision k candidate = .ok selected) :
    selected.isSome = true := by
  obtain ⟨included, outside, priority, hplace, hselected, -⟩ :=
    placed_of_evaluate hband hdistance h
  rw [hselected]
  simp only [placeOf, hmember, hinside, if_true] at hplace
  split_ifs at hplace <;> exact (Prod.mk.inj (Except.ok.inj hplace)).1.symm

theorem since_of_outside (hordinary : candidate.controlCritical = false)
    (hband : host.policy.band (ofLex k).2 = .ok band)
    (hdistance : host.squaredDistanceUm anchor candidate.address = .ok distance)
    (hradii : band.enterRadiusM ≤ band.exitRadiusM)
    (houtside : radiusSquaredUm band.exitRadiusM < distance) {item : Eligible}
    (h : evaluate host cursor anchor tick firstFrame revision k candidate = .ok (some item)) :
    ∃ member since, cursor.members.get? k = some member ∧
      item.member.outsideSinceTick = some since ∧ since ≤ tick ∧
      (∀ before, member.outsideSinceTick = some before → since = before) ∧
      tick < since + host.policy.exitConsecutiveTicks := by
  have hfar : ¬ distance ≤ radiusSquaredUm band.enterRadiusM := by
    have hedge : band.enterRadiusM * 1000000 ≤ band.exitRadiusM * 1000000 :=
      Nat.mul_le_mul_right _ hradii
    have hle : radiusSquaredUm band.enterRadiusM ≤ radiusSquaredUm band.exitRadiusM :=
      Nat.mul_le_mul hedge hedge
    omega
  obtain ⟨included, outside, priority, hplace, hselected, hsince⟩ :=
    placed_of_evaluate hband hdistance h
  obtain rfl : true = included := hselected
  cases hold : cursor.members.get? k with
  | none =>
    simp [placeOf, hold, hordinary, hfar] at hplace
  | some member =>
    simp only [placeOf, hold, hordinary, Bool.false_eq_true, if_false, if_neg hfar,
      if_neg (not_le.mpr houtside), bind_eq_ok, rejectIf_eq_ok, not_or, not_lt, pure_eq_ok,
      Prod.mk.injEq, decide_eq_true_eq] at hplace
    obtain ⟨⟨⟩, ⟨hle, -⟩, hticks, rfl, -⟩ := hplace
    refine ⟨member, _, rfl, hsince item rfl, hle, ?_, by omega⟩
    intro before hbefore
    rw [hbefore, Option.getD_some]

end Evaluate

/-! ## The budget -/

theorem countP_keys_insert {α : Type} {m : OrdMap EntityKey α} {v : α} {p} :
    (m.insert k v).keys.countP p ≤ m.keys.countP p + if p k then 1 else 0 := by
  cases hget : m.get? k with
  | none =>
    have hperm : (m.insert k v).keys.Perm (k :: m.keys) := (OrdMap.insert_perm_cons hget).map _
    rw [hperm.countP_eq, List.countP_cons]
  | some old =>
    have hkeys : (m.insert k v).keys = m.keys := OrdMap.keys_eq_of_isSome fun other => by
      rw [OrdMap.get?_insert]
      split
      case isTrue hk => rw [hk, hget]; rfl
      case isFalse => rfl
    rw [hkeys]
    exact Nat.le_add_right _ _

def Eligible.kind (item : Eligible) : InterestEntityKind := (ofLex item.identity).2

section Spend

variable {admitted admitted' : Admitted} {item : Eligible} {items before after : List Eligible}
  {kind : InterestEntityKind} {band : InterestBand}

/-- An item is passed over for want of room, or let in and counted. -/
theorem spend_counted (h : spend host admitted item = .ok admitted') :
    ∃ band, host.policy.band item.kind = .ok band ∧
      ((item.controlCritical = false ∧ admitted' = admitted ∧
        (host.policy.maximumVisibleEntities ≤ admitted.members.size ∨
          band.maximumEntities ≤ admitted.kindCounts item.kind)) ∨
      ((item.controlCritical = false → admitted.kindCounts item.kind < band.maximumEntities) ∧
        admitted'.members = admitted.members.insert item.identity item.member ∧
        ∀ kind, admitted'.kindCounts kind =
          admitted.kindCounts kind + if item.kind = kind then 1 else 0)) := by
  simp only [spend, bind_eq_ok, ite_eq_ok, pure_eq_ok] at h
  obtain ⟨band, hband, ⟨⟨hordinary, hfull⟩, rfl⟩ | ⟨hroom, rfl⟩⟩ := h
  · exact ⟨band, hband, .inl ⟨hordinary, rfl, hfull⟩⟩
  · refine ⟨band, hband, .inr ⟨fun hordinary => ?_, rfl, fun kind => ?_⟩⟩
    · by_contra hfull
      exact hroom ⟨hordinary, .inr (not_lt.mp hfull)⟩
    · by_cases hkind : kind = item.kind
      · subst hkind
        simp [Eligible.kind]
      · have hother : ¬ item.kind = kind := fun h => hkind h.symm
        simp only [if_neg hother, Nat.add_zero]
        exact if_neg hkind

theorem spent_le (h : items.foldlM (spend host) admitted = .ok admitted') :
    admitted'.members.size ≤ admitted.members.size + items.length ∧
      admitted'.kindCounts kind ≤
        admitted.kindCounts kind + items.countP fun item => decide (item.kind = kind) := by
  induction items generalizing admitted with
  | nil =>
    obtain rfl : admitted = admitted' := by simpa using h
    exact ⟨le_rfl, le_rfl⟩
  | cons item rest ih =>
    rw [List.foldlM_cons, bind_eq_ok] at h
    obtain ⟨next, hnext, hrest⟩ := h
    obtain ⟨hsize, hcount⟩ := ih hrest
    rw [List.countP_cons, List.length_cons]
    obtain ⟨band, -, ⟨-, rfl, -⟩ | ⟨-, hmembers, hcounts⟩⟩ := spend_counted hnext
    · exact ⟨by omega, by omega⟩
    · have hinsert : next.members.size ≤ admitted.members.size + 1 := by
        rw [hmembers]
        exact OrdMap.size_insert_le
      rw [hcounts kind] at hcount
      by_cases hkind : item.kind = kind
      · simp only [hkind, if_true, decide_true] at hcount ⊢
        exact ⟨by omega, by omega⟩
      · simp only [hkind, if_false, decide_false, Bool.false_eq_true] at hcount ⊢
        exact ⟨by omega, by omega⟩

theorem isSome_of_room
    (h : (before ++ item :: after).foldlM (spend host) ⟨fun _ => 0, OrdMap.empty, OrdMap.empty⟩ =
      .ok admitted') (hband : host.policy.band item.kind = .ok band)
    (hroom : before.length < host.policy.maximumVisibleEntities)
    (hcount : (before.countP fun other => decide (other.kind = item.kind)) <
      band.maximumEntities) : (admitted'.members.get? item.identity).isSome = true := by
  rw [List.foldlM_append, bind_eq_ok] at h
  obtain ⟨spent, hspent, h⟩ := h
  rw [List.foldlM_cons, bind_eq_ok] at h
  obtain ⟨next, hnext, hrest⟩ := h
  obtain ⟨hsize, hcounted : _ ≤ _ + before.countP fun other => decide (other.kind = item.kind)⟩ :=
    spent_le hspent
  refine isSome_of_foldlM hrest (.inl ?_)
  obtain ⟨band', hband', ⟨-, -, hfull⟩ | ⟨-, hmembers, -⟩⟩ := spend_counted hnext
  · obtain rfl : band = band' := ok_unique hband hband'
    have hnone : (OrdMap.empty : OrdMap EntityKey Membership).size = 0 := rfl
    rcases hfull with hfull | hfull <;> simp only [hnone, Nat.zero_add] at hsize hcounted <;> omega
  · rw [hmembers, OrdMap.get?_insert_self]
    rfl

theorem ordinary_le {critical : EntityKey → Bool} (hband : host.policy.band kind = .ok band)
    (hitems : ∀ item ∈ items, item.controlCritical = critical item.identity)
    (hcounted : (admitted.members.keys.countP fun k => decide ((ofLex k).2 = kind)) ≤
      admitted.kindCounts kind)
    (hwithin : (admitted.members.keys.countP fun k =>
      decide ((ofLex k).2 = kind) && !critical k) ≤ band.maximumEntities)
    (h : items.foldlM (spend host) admitted = .ok admitted') :
    (admitted'.members.keys.countP fun k => decide ((ofLex k).2 = kind) && !critical k) ≤
      band.maximumEntities := by
  induction items generalizing admitted with
  | nil =>
    obtain rfl : admitted = admitted' := by simpa using h
    exact hwithin
  | cons item rest ih =>
    rw [List.foldlM_cons, bind_eq_ok] at h
    obtain ⟨next, hnext, hrest⟩ := h
    obtain ⟨hitem, hrests⟩ := List.forall_mem_cons.mp hitems
    obtain ⟨band', hband', ⟨-, rfl, -⟩ | ⟨hroom, hmembers, hcounts⟩⟩ := spend_counted hnext
    · exact ih hrests hcounted hwithin hrest
    · have htotal : (next.members.keys.countP fun k => decide ((ofLex k).2 = kind)) ≤
          next.kindCounts kind := by
        rw [hmembers, hcounts kind]
        refine countP_keys_insert.trans (Nat.add_le_add hcounted ?_)
        by_cases hkind : (ofLex item.identity).2 = kind <;> simp [Eligible.kind, hkind]
      refine ih hrests htotal ?_ hrest
      cases hcritical : critical item.identity with
      | true =>
        -- what controls the session is not counted against the band
        rw [hmembers]
        refine countP_keys_insert.trans ?_
        simpa [hcritical] using hwithin
      | false =>
        by_cases hkind : item.kind = kind
        · subst hkind
          obtain rfl : band = band' := ok_unique hband hband'
          have hlt := hroom (hitem.trans hcritical)
          have hle : (next.members.keys.countP fun k =>
              decide ((ofLex k).2 = item.kind) && !critical k) ≤
              next.members.keys.countP fun k => decide ((ofLex k).2 = item.kind) :=
            List.countP_mono_left fun k _ hk => (Bool.and_eq_true_iff.mp hk).1
          rw [hcounts item.kind, if_pos rfl] at htotal
          omega
        · rw [hmembers]
          refine countP_keys_insert.trans ?_
          have hother : ¬ (ofLex item.identity).2 = kind := hkind
          simpa [hother] using hwithin

end Spend

/-! ## One frame -/

/-- What is eligible in a frame, in the order in which the budget is spent. -/
def ranking (host : Projecting) (source : ProjectionSource) (cursor : InterestProjectionState) :
    Projected (List Eligible) := do
  let anchor ← source.interestAnchor cursor
  let candidates ← source.query host cursor anchor
  let sequence := if cursor.viewHash.isNone then 0 else cursor.deltaSequence + 1
  let evaluated ← candidates.entries.mapM fun entry =>
    evaluate host cursor anchor source.canonical.simulationTick cursor.viewHash.isNone
      (sequence + 1) entry.1 entry.2
  return (evaluated.filterMap id).insertionSort (Eligible.before · ·)

/-- What a frame is drawn from. -/
structure Drawn (host : Projecting) (source : ProjectionSource) (cursor : InterestProjectionState)
    (removals : RemovalReasons) (anchor : UniverseAddress)
    (candidates : OrdMap EntityKey Candidate) (bare : Selection)
    (projected : ProjectedWorldSnapshot) (next : InterestProjectionState) : Prop where
  anchored : source.interestAnchor cursor = .ok anchor
  queried : source.query host cursor anchor = .ok candidates
  selected : select host cursor candidates anchor source.canonical.simulationTick OrdMap.empty =
    .ok bare
  members : next.members = bare.members
  payloads : next.payloads = bare.payloads
  entered : bare.entered.mapM (completeEntityProjection bare.payloads) =
    .ok projected.interest.entered
  replaced : bare.replaced.mapM (completeEntityProjection bare.payloads) =
    .ok projected.interest.replaced
  removed : projected.interest.removed = removedEntities cursor bare.members candidates removals

variable {projected : ProjectedWorldSnapshot} {bare : Selection}

theorem drawn_of_project
    (h : projectInterestWorldSnapshot host source cursor removals = .ok (projected, next)) :
    ∃ anchor candidates bare, Drawn host source cursor removals anchor candidates bare projected
      next := by
  unfold projectInterestWorldSnapshot at h
  obtain ⟨_, -, h⟩ := bind_eq_ok.mp h
  obtain ⟨anchor, hanchor, h⟩ := bind_eq_ok.mp h
  obtain ⟨environment, -, h⟩ := bind_eq_ok.mp h
  obtain ⟨_, -, h⟩ := bind_eq_ok.mp h
  obtain ⟨candidates, hcandidates, h⟩ := bind_eq_ok.mp h
  obtain ⟨selection, hselection, h⟩ := bind_eq_ok.mp h
  obtain ⟨hbare, hremoved⟩ := select_evidence hselection
  have hshown : next.members = selection.members ∧ next.payloads = selection.payloads ∧
      selection.entered.mapM (completeEntityProjection selection.payloads) =
        .ok projected.interest.entered ∧
      selection.replaced.mapM (completeEntityProjection selection.payloads) =
        .ok projected.interest.replaced ∧ projected.interest.removed = selection.removed := by
    cases hobserver : cursor.observer <;>
      simp only [hobserver, bind_eq_ok, map_eq_ok, mapError_eq_ok, pure_eq_ok,
        Prod.mk.injEq] at h <;>
      obtain ⟨_, -, entities, -, link, -, hash, -, entered, hentered, replaced, hreplaced, rfl,
        rfl⟩ := h <;>
      exact ⟨rfl, rfl, hentered, hreplaced, rfl⟩
  obtain ⟨hmembers, hpayloads, hentered, hreplaced, hreasons⟩ := hshown
  exact ⟨anchor, candidates, _, hanchor, hcandidates, hbare, hmembers, hpayloads, hentered,
    hreplaced, hreasons.trans hremoved⟩

/-- The evaluation of a frame's candidates, in the order in which the budget is spent. -/
theorem Drawn.ranked (h : Drawn host source cursor removals anchor candidates bare projected next) :
    ∃ ranked admitted, ranking host source cursor = .ok ranked ∧
      ranked.foldlM (spend host) ⟨fun _ => 0, OrdMap.empty, OrdMap.empty⟩ = .ok admitted ∧
      bare.members = admitted.members ∧
      (∀ item ∈ ranked, ∃ candidate, candidates.get? item.identity = some candidate ∧
        evaluate host cursor anchor source.canonical.simulationTick cursor.viewHash.isNone
          (bare.deltaSequence + 1) item.identity candidate = .ok (some item)) ∧
      ∀ k candidate, candidates.get? k = some candidate → ∃ selected,
        evaluate host cursor anchor source.canonical.simulationTick cursor.viewHash.isNone
          (bare.deltaSequence + 1) k candidate = .ok selected ∧
        ∀ item, selected = some item → item.identity = k ∧ item ∈ ranked := by
  obtain ⟨sequence, evaluated, admitted, hsequence, -, hevaluated, -, hadmitted, rfl⟩ :=
    select_eq_ok h.selected
  have hmem : ∀ item, item ∈ (evaluated.filterMap id).insertionSort (Eligible.before · ·) ↔
      some item ∈ evaluated := by
    intro item
    rw [List.mem_insertionSort, List.mem_filterMap]
    simp
  refine ⟨_, admitted, ?_, hadmitted, rfl, ?_, ?_⟩
  · simp only [ranking, h.anchored, h.queried, ← hsequence, hevaluated, bind_eq_ok, pure_eq_ok,
      Except.ok.injEq, exists_eq_left']
  · intro item hitem
    obtain ⟨⟨k, candidate⟩, hentry, hevaluate⟩ :=
      exists_of_mem_mapM hevaluated _ ((hmem item).mp hitem)
    obtain ⟨rfl, -⟩ := choice_of_evaluate hevaluate
    exact ⟨candidate, OrdMap.mem_entries.mp hentry, hevaluate⟩
  · intro k candidate hcandidate
    obtain ⟨selected, hselected, hevaluate⟩ :=
      exists_mem_mapM hevaluated _ (OrdMap.mem_entries.mpr hcandidate)
    refine ⟨selected, hevaluate, ?_⟩
    rintro item rfl
    exact ⟨(choice_of_evaluate hevaluate).1, (hmem item).mpr hselected⟩

/-- What a session is shown never exceeds the policy, always has what controls the session in
    its present state, and names every change once and in order. -/
structure Budgeted (host : Projecting) (source : ProjectionSource)
    (cursor : InterestProjectionState) (projected : ProjectedWorldSnapshot)
    (next : InterestProjectionState) : Prop where
  room : next.members.size ≤ host.policy.maximumVisibleEntities
  bands : ∀ kind band, host.policy.band kind = .ok band →
    (next.members.keys.countP fun k => decide ((ofLex k).2 = kind) &&
      !decide (k ∈ criticalKeys source cursor)) ≤ band.maximumEntities
  critical : ∀ k ∈ criticalKeys source cursor, ∀ whole, source.candidates.get? k = some whole →
    (next.members.get? k).isSome ∧ next.payloads.get? k = some whole.payload
  entered : (projected.interest.entered.map entityKey).Pairwise (· < ·)
  replaced : (projected.interest.replaced.map entityKey).Pairwise (· < ·)
  removed : (projected.interest.removed.map removalKey).Pairwise (· < ·)
  shownOnce : (projected.interest.entered.map entityKey).Disjoint
    (projected.interest.replaced.map entityKey)
  enteredStays : (projected.interest.entered.map entityKey).Disjoint
    (projected.interest.removed.map removalKey)
  replacedStays : (projected.interest.replaced.map entityKey).Disjoint
    (projected.interest.removed.map removalKey)

theorem budgeted_of_project
    (h : projectInterestWorldSnapshot host source cursor removals = .ok (projected, next)) :
    Budgeted host source cursor projected next := by
  obtain ⟨anchor, candidates, bare, hdrawn⟩ := drawn_of_project h
  obtain ⟨ranked, admitted, -, hadmitted, hmembers, hranked, -⟩ := hdrawn.ranked
  obtain ⟨near, -, hquery⟩ := query_eq_ok hdrawn.queried
  have hselected := selected_of_select hdrawn.selected
  have hentered : projected.interest.entered.map entityKey =
      (enteredRefs cursor bare.members cursor.viewHash.isNone).map (·.identity) := by
    rw [map_entityKey_of_complete hdrawn.entered, hselected.entered]
  have hreplaced : projected.interest.replaced.map entityKey =
      (replacedRefs cursor bare.members cursor.viewHash.isNone).map (·.identity) := by
    rw [map_entityKey_of_complete hdrawn.replaced, hselected.replaced]
  have hchanges : (projected.interest.entered.map entityKey ++
      projected.interest.replaced.map entityKey ++
        projected.interest.removed.map removalKey).Nodup := by
    rw [hentered, hreplaced, hdrawn.removed]
    exact nodup_changes
  obtain ⟨hshown, -, hstays⟩ := List.nodup_append'.mp hchanges
  obtain ⟨henteredStays, hreplacedStays⟩ := List.disjoint_append_left.mp hstays
  refine ⟨?_, ?_, ?_, ?_, ?_, ?_, (List.nodup_append'.mp hshown).2.2, henteredStays, hreplacedStays⟩
  · rw [hdrawn.members]
    exact hselected.room
  · intro kind band hband
    rw [hdrawn.members, hmembers]
    refine ordinary_le hband ?_
      (Nat.zero_le _) (Nat.zero_le _) hadmitted
    intro item hitem
    obtain ⟨candidate, hcandidate, hevaluate⟩ := hranked item hitem
    obtain ⟨-, hcritical, -⟩ := choice_of_evaluate hevaluate
    obtain ⟨whole, -, rfl, -⟩ := (hquery _ _).mp hcandidate
    exact hcritical
  · intro k hk whole hwhole
    have hcandidate := (hquery k _).mpr ⟨whole, hwhole, rfl, .inr (.inr hk)⟩
    have hcritical : (marked source cursor k whole).controlCritical = true := decide_eq_true hk
    have hmember := hselected.critical k _ hcandidate hcritical
    rw [hdrawn.members, hdrawn.payloads]
    refine ⟨hmember, ?_⟩
    obtain ⟨member, hmember'⟩ := Option.isSome_iff_exists.mp hmember
    obtain ⟨payload, hpayload⟩ := Option.isSome_iff_exists.mp ((hselected.same k).symm.trans hmember)
    obtain ⟨candidate, hcandidate', hchoice⟩ := hselected.chosen k member payload hmember' hpayload
    obtain rfl := Option.mem_unique hcandidate hcandidate'
    rcases hchoice.current with hcurrent | ⟨hordinary, -⟩
    · rw [hpayload, hcurrent]
      rfl
    · rw [hcritical] at hordinary
      cases hordinary
  · rw [hentered]
    exact sorted_enteredRefs
  · rw [hreplaced]
    exact sorted_replacedRefs
  · rw [hdrawn.removed]
    exact sorted_removedEntities

/-- The entity is in the world and inside the exit radius of its band. -/
def Inside (host : Projecting) (k : EntityKey) (source : ProjectionSource)
    (cursor : InterestProjectionState) : Prop :=
  ∃ whole anchor distance band, source.candidates.get? k = some whole ∧
    source.interestAnchor cursor = .ok anchor ∧
    host.squaredDistanceUm anchor whole.address = .ok distance ∧
    host.policy.band (ofLex k).2 = .ok band ∧ distance ≤ radiusSquaredUm band.exitRadiusM

/-- The entity does not control the session, and wherever it is it is outside that radius. -/
def Outside (host : Projecting) (k : EntityKey) (source : ProjectionSource)
    (cursor : InterestProjectionState) : Prop :=
  k ∉ criticalKeys source cursor ∧ ∀ whole anchor distance band,
    source.candidates.get? k = some whole → source.interestAnchor cursor = .ok anchor →
    host.squaredDistanceUm anchor whole.address = .ok distance →
    host.policy.band (ofLex k).2 = .ok band → radiusSquaredUm band.exitRadiusM < distance

/-- What the budget is spent on before the entity leaves room for it, in all and in its band. -/
def WithinBudget (host : Projecting) (k : EntityKey) (source : ProjectionSource)
    (cursor : InterestProjectionState) : Prop :=
  ∀ before item after band, ranking host source cursor = .ok (before ++ item :: after) →
    item.identity = k → host.policy.band item.kind = .ok band →
    before.length < host.policy.maximumVisibleEntities ∧
      (before.countP fun other => decide (other.kind = item.kind)) < band.maximumEntities

theorem member_of_inside
    (h : projectInterestWorldSnapshot host source cursor removals = .ok (projected, next))
    (hmember : (cursor.members.get? k).isSome) (hinside : Inside host k source cursor)
    (hbudget : WithinBudget host k source cursor) : (next.members.get? k).isSome := by
  obtain ⟨anchor, candidates, bare, hdrawn⟩ := drawn_of_project h
  obtain ⟨ranked, admitted, hranking, hadmitted, hmembers, hranked, hall⟩ := hdrawn.ranked
  obtain ⟨near, -, hquery⟩ := query_eq_ok hdrawn.queried
  obtain ⟨whole, anchor', distance, band, hwhole, hanchor, hdistance, hband, hle⟩ := hinside
  obtain rfl : anchor = anchor' := ok_unique hdrawn.anchored hanchor
  obtain ⟨selected, hevaluate, hitem⟩ :=
    hall k _ ((hquery k _).mpr ⟨whole, hwhole, rfl, .inr (.inl hmember)⟩)
  obtain ⟨member, hmember⟩ := Option.isSome_iff_exists.mp hmember
  have hsome : selected.isSome = true := by
    refine isSome_of_inside hmember hband ?_ hle hevaluate
    exact hdistance
  obtain ⟨item, rfl⟩ := Option.isSome_iff_exists.mp hsome
  obtain ⟨rfl, hin⟩ := hitem item rfl
  obtain ⟨before, after, rfl⟩ := List.append_of_mem hin
  obtain ⟨hroom, hcount⟩ := hbudget before item after band hranking rfl hband
  rw [hdrawn.members, hmembers]
  exact isSome_of_room hadmitted hband hroom hcount

theorem since_of_member
    (hradii : host.policy.Ordered)
    (h : projectInterestWorldSnapshot host source cursor removals = .ok (projected, next))
    (houtside : Outside host k source cursor) {member : Membership}
    (hmember : next.members.get? k = some member) :
    ∃ old since, cursor.members.get? k = some old ∧ member.outsideSinceTick = some since ∧
      since ≤ source.canonical.simulationTick ∧
      (∀ before, old.outsideSinceTick = some before → since = before) ∧
      source.canonical.simulationTick < since + host.policy.exitConsecutiveTicks := by
  obtain ⟨anchor, candidates, bare, hdrawn⟩ := drawn_of_project h
  obtain ⟨ranked, admitted, -, hadmitted, hmembers, hranked, -⟩ := hdrawn.ranked
  obtain ⟨near, -, hquery⟩ := query_eq_ok hdrawn.queried
  have hnone : Admitted.Chosen (fun k member _ => ∃ item ∈ ranked, item.identity = k ∧
      item.member = member) ⟨fun _ => 0, OrdMap.empty, OrdMap.empty⟩ :=
    ⟨fun _ => rfl, fun _ _ _ hmember => (by cases hmember)⟩
  have hchosen := hnone.foldlM (fun item hitem => ⟨item, hitem, rfl, rfl⟩) hadmitted
  rw [hdrawn.members, hmembers] at hmember
  obtain ⟨payload, hpayload⟩ := Option.isSome_iff_exists.mp
    ((hchosen.same k).symm.trans (Option.isSome_iff_exists.mpr ⟨member, hmember⟩))
  obtain ⟨item, hitem, rfl, rfl⟩ := hchosen.chosen k member payload hmember hpayload
  obtain ⟨candidate, hcandidate, hevaluate⟩ := hranked item hitem
  obtain ⟨whole, hwhole, rfl, -⟩ := (hquery _ _).mp hcandidate
  obtain ⟨hordinary, hfar⟩ := houtside
  have hmeasured := hevaluate
  simp only [evaluate, bind_eq_ok] at hmeasured
  obtain ⟨band, hband, distance, hdistance, -⟩ := hmeasured
  exact since_of_outside (decide_eq_false hordinary) hband hdistance (hradii _ _ hband)
    (hfar whole anchor distance band hwhole hdrawn.anchored hdistance hband) hevaluate

/-! ## Sessions -/

/-- The cursor a frame leaves, projected from a source with the evidence there is. -/
def showFrame (host : Projecting) (cursor : InterestProjectionState)
    (frame : ProjectionSource × RemovalReasons) : Projected InterestProjectionState :=
  Prod.snd <$> projectInterestWorldSnapshot host frame.1 cursor frame.2

variable {frames : List (ProjectionSource × RemovalReasons)}
  {frame first last : ProjectionSource × RemovalReasons}

theorem showFrame_eq_ok : showFrame host cursor frame = .ok next ↔ ∃ projected,
    projectInterestWorldSnapshot host frame.1 cursor frame.2 = .ok (projected, next) := by
  simp only [showFrame, map_eq_ok, Prod.exists]
  exact exists_congr fun projected => exists_eq_right

/-- The entity is a member, inside and within the budgets in every frame, so it stays one. -/
theorem throughout_member (hmember : (cursor.members.get? k).isSome)
    (hinside : Along (showFrame host) (fun cursor frame =>
      Inside host k frame.1 cursor ∧ WithinBudget host k frame.1 cursor) cursor frames) :
    Throughout (showFrame host) (fun cursor => (cursor.members.get? k).isSome = true) cursor
      frames := by
  induction frames generalizing cursor with
  | nil => exact hmember
  | cons frame rest ih =>
    refine ⟨hmember, fun next hnext => ih ?_ (hinside.2 next hnext)⟩
    obtain ⟨projected, hprojected⟩ := showFrame_eq_ok.mp hnext
    exact member_of_inside hprojected hmember hinside.1.1 hinside.1.2

/-- The entity is no member, or is known to have been outside by the tick. -/
def OutsideBy (k : EntityKey) (tick : Nat) (cursor : InterestProjectionState) : Prop :=
  ∀ member, cursor.members.get? k = some member →
    ∃ since, member.outsideSinceTick = some since ∧ since ≤ tick

theorem OutsideBy.showFrame
    (hradii : host.policy.Ordered)
    (hby : OutsideBy k tick cursor) (houtside : Outside host k frame.1 cursor)
    (h : showFrame host cursor frame = .ok next) : OutsideBy k tick next ∧
      (tick + host.policy.exitConsecutiveTicks ≤ frame.1.canonical.simulationTick →
        next.members.get? k = none) := by
  obtain ⟨projected, hprojected⟩ := showFrame_eq_ok.mp h
  have hsince : ∀ member, next.members.get? k = some member → ∃ since,
      member.outsideSinceTick = some since ∧ since ≤ tick ∧
      frame.1.canonical.simulationTick < since + host.policy.exitConsecutiveTicks := by
    intro member hmember
    obtain ⟨old, since, hold, hfound, -, hkept, hticks⟩ :=
      since_of_member hradii hprojected houtside hmember
    obtain ⟨before, hbefore, hle⟩ := hby old hold
    obtain rfl := hkept before hbefore
    exact ⟨since, hfound, hle, hticks⟩
  refine ⟨fun member hmember => ?_, fun hticks => ?_⟩
  · obtain ⟨since, hfound, hle, -⟩ := hsince member hmember
    exact ⟨since, hfound, hle⟩
  · cases hmember : next.members.get? k with
    | none => rfl
    | some member =>
      obtain ⟨since, -, hle, hlt⟩ := hsince member hmember
      omega

/-- The first frame that sees the entity outside knows since when. -/
theorem outsideBy_of_showFrame
    (hradii : host.policy.Ordered)
    (houtside : Outside host k frame.1 cursor) (h : showFrame host cursor frame = .ok next) :
    OutsideBy k frame.1.canonical.simulationTick next := by
  obtain ⟨projected, hprojected⟩ := showFrame_eq_ok.mp h
  intro member hmember
  obtain ⟨old, since, -, hfound, hle, -⟩ := since_of_member hradii hprojected houtside hmember
  exact ⟨since, hfound, hle⟩

/-- Outside since the first frame, and gone with the first frame that is late enough. -/
theorem gone_of_outside
    (hradii : host.policy.Ordered)
    (hby : OutsideBy k tick cursor)
    (houtside : Along (showFrame host) (fun cursor frame => Outside host k frame.1 cursor) cursor
      (frames ++ [last]))
    (hrun : runAll (showFrame host) cursor (frames ++ [last]) = .ok next)
    (hlate : tick + host.policy.exitConsecutiveTicks ≤ last.1.canonical.simulationTick) :
    next.members.get? k = none := by
  induction frames generalizing cursor with
  | nil =>
    obtain ⟨reached, hlast, hdone⟩ := runAll_cons_eq_ok.mp hrun
    obtain rfl : reached = next := Except.ok.inj hdone
    exact (hby.showFrame hradii houtside.1 hlast).2 hlate
  | cons frame rest ih =>
    obtain ⟨reached, hreached, hrest⟩ := runAll_cons_eq_ok.mp hrun
    exact ih (hby.showFrame hradii houtside.1 hreached).1 (houtside.2 reached hreached) hrest

/-- What a session may expect of its frames, whatever the ticks between them. -/
structure Paced (host : Projecting) (cursor : InterestProjectionState)
    (frames : List (ProjectionSource × RemovalReasons)) : Prop where
  budgeted : Along (showFrame host) (fun cursor frame => ∀ projected next,
    projectInterestWorldSnapshot host frame.1 cursor frame.2 = .ok (projected, next) →
      Budgeted host frame.1 cursor projected next) cursor frames
  kept : ∀ k, (cursor.members.get? k).isSome →
    Along (showFrame host) (fun cursor frame =>
      Inside host k frame.1 cursor ∧ WithinBudget host k frame.1 cursor) cursor frames →
    Throughout (showFrame host) (fun cursor => (cursor.members.get? k).isSome = true) cursor frames
  gone : ∀ k first middle last next, frames = first :: (middle ++ [last]) →
    runAll (showFrame host) cursor frames = .ok next →
    Along (showFrame host) (fun cursor frame => Outside host k frame.1 cursor) cursor frames →
    first.1.canonical.simulationTick + host.policy.exitConsecutiveTicks ≤
      last.1.canonical.simulationTick →
    next.members.get? k = none

/-- A policy that is accepted paces every run of frames: the budgets hold in each, what stays
    inside its radius and within the budgets stays a member, and what is outside from one frame to
    another that is late enough is gone. -/
theorem paced_of_validateInterest {definition : InterestDefinition}
    (hvalid : validateInterest definition = .ok ()) (hpolicy : host.policy = definition.policy) :
    Paced host cursor frames := by
  have hradii : host.policy.Ordered := hpolicy ▸ ordered_of_validateInterest hvalid
  refine ⟨?_, fun k => throughout_member, ?_⟩
  · exact along_of_preserved (P := fun _ => True) (fun _ _ => trivial)
      (fun _ projected next h => budgeted_of_project h) trivial
  · rintro k first middle last next rfl hrun houtside hlate
    obtain ⟨reached, hfirst, hrest⟩ := runAll_cons_eq_ok.mp hrun
    exact gone_of_outside hradii (outsideBy_of_showFrame hradii houtside.1 hfirst)
      (houtside.2 reached hfirst) hrest hlate

/-- The interest policy of the content. -/
def contentInterest : InterestDefinition where
  spatialBucketEdgeM := 256
  enterRadiusM := 2000
  exitRadiusM := 2250
  exitConsecutiveTicks := 2
  maximumVisibleEntities := 4096
  selectedContextMarginM := 250
  maximumSelectedContextEntities := 64
  publicSpectatorAnchorUm := (0, 0, 0)
  entityBands := [⟨⟨2000, 2250, 1, 1024⟩, .player⟩, ⟨⟨2000, 2250, 1, 1024⟩, .grid⟩,
    ⟨⟨512, 640, 6, 1536⟩, .voxelChunk⟩, ⟨⟨2000, 2250, 60, 512⟩, .deathDrop⟩]

/-! ## A grid that flies off

The grid is in sight once, and then beyond every radius. Its owner stays. -/

theorem toOption_eq_some {α : Type} {x : Projected α} {a : α} :
    x.toOption = some a ↔ x = .ok a := by
  cases x <;> simp [Except.toOption]

theorem outside_iff {source : ProjectionSource} : (k ∉ criticalKeys source cursor ∧
    ∀ whole ∈ source.candidates.get? k, ∀ anchor ∈ (source.interestAnchor cursor).toOption,
      ∀ distance ∈ (host.squaredDistanceUm anchor whole.address).toOption,
      ∀ band ∈ (host.policy.band (ofLex k).2).toOption,
        radiusSquaredUm band.exitRadiusM < distance) ↔ Outside host k source cursor := by
  simp only [Outside, Option.mem_def, toOption_eq_some]
  grind

instance {source : ProjectionSource} : Decidable (Outside host k source cursor) :=
  decidable_of_iff _ outside_iff

/-- Where all is near but what is two cells to the west. -/
def flyingOff : Projecting := { Overlap.host (fun _ => none) with
  policy := contentInterest.policy
  squaredDistanceUm := fun anchor address =>
    .ok (if anchor.cellX ≤ address.cellX + 1 then 0 else radiusSquaredUm 2250 + 1) }

def flyingGrid : EntityKey := toLex ("grid-works", .grid)

/-- The cell at a tick, with its grid gone to the west. -/
def flownOff (tick : Nat) : ProjectionSource × RemovalReasons :=
  let source := Overlap.cell Overlap.homeKey
  ({ source with
      canonical := { source.canonical with simulationTick := tick }
      candidates := source.candidates.modify flyingGrid fun grid =>
        { grid with address := { grid.address with cellX := grid.address.cellX - 1 } }
      filed := by
        intro identity candidate hget
        rw [OrdMap.get?_modify] at hget
        split_ifs at hget with hgrid
        · obtain ⟨grid, hfound, rfl⟩ := Option.map_eq_some_iff.mp hget
          exact (source.filed flyingGrid grid hfound).trans hgrid.symm
        · exact source.filed _ _ hget }, OrdMap.empty)

/-- The grid is a member, and gone two ticks after it is first shown outside. Its owner is still
    there. -/
theorem paced_contentInterest : ∃ cursor next,
    showFrame flyingOff (Overlap.cursorAt 1) (Overlap.cell Overlap.homeKey, OrdMap.empty)
        = .ok cursor
      ∧ runAll (showFrame flyingOff) cursor [flownOff 1, flownOff 3] = .ok next
      ∧ Paced flyingOff cursor [flownOff 1, flownOff 3]
      ∧ ((cursor.members.get? flyingGrid).isSome ∧ next.members.get? flyingGrid = none)
      ∧ next.members.keys = [toLex ("player-1", .player)] := by
  have hflight : (showFrame flyingOff (Overlap.cursorAt 1)
      (Overlap.cell Overlap.homeKey, OrdMap.empty)).toOption.any fun cursor =>
    (showFrame flyingOff cursor (flownOff 1)).toOption.any fun middle =>
    (showFrame flyingOff middle (flownOff 3)).toOption.any fun next =>
      decide ((cursor.members.get? flyingGrid).isSome
        ∧ Outside flyingOff flyingGrid (flownOff 1).1 cursor
        ∧ Outside flyingOff flyingGrid (flownOff 3).1 middle
        ∧ next.members.keys = [toLex ("player-1", .player)]) := by decide +kernel
  obtain ⟨cursor, hstart, hmiddle⟩ := exists_ok_of_any hflight
  obtain ⟨middle, hmiddle, hnext⟩ := exists_ok_of_any hmiddle
  obtain ⟨next, hnext, hshown⟩ := exists_ok_of_any hnext
  obtain ⟨hgrid, hfirst, hlast, howner⟩ := of_decide_eq_true hshown
  have hrun : runAll (showFrame flyingOff) cursor [flownOff 1, flownOff 3] = .ok next :=
    runAll_cons_eq_ok.mpr ⟨middle, hmiddle, runAll_cons_eq_ok.mpr ⟨next, hnext, runAll_nil⟩⟩
  have hpaced : Paced flyingOff cursor [flownOff 1, flownOff 3] :=
    @paced_of_validateInterest _ _ _ contentInterest (by decide) rfl
  refine ⟨cursor, next, hstart, hrun, hpaced, ⟨hgrid, ?_⟩, howner⟩
  refine hpaced.gone flyingGrid _ [] _ next rfl hrun ⟨hfirst, fun reached hreached => ?_⟩ (by decide)
  obtain rfl := ok_unique hmiddle hreached
  exact ⟨hlast, fun _ _ => trivial⟩

end Verse.Interest
