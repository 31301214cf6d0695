import Mathlib.Algebra.Order.BigOperators.Group.List
import Verse.Interest.Linked
import Verse.Interest.Selected
import Verse.Interest.Transport

/-!
# What a session is shown

A frame is accepted when the client holds the view the frame was projected from. Two things
go into that. The public changes of a delta take the entities of the view before to exactly
those of the view after, so the digest the client computes is the one the server sent; and
the content of the world shown passes the client's checks, whatever part of it is visible.
-/

namespace Verse.Interest

open Lib
open Directory (CellKeyV1)

variable {host : Projecting}

/-! ## Public changes -/

section Changes

variable {entities : EntityMap} {l : List InterestEntityProjection} {k : EntityKey}
  {e : InterestEntityProjection}

/-- The entities of a list, filed over those of a map. -/
def insertAll (entities : EntityMap) (l : List InterestEntityProjection) : EntityMap :=
  (l.map fun e => (entityKey e, e)).foldl (fun m p => m.insert p.1 p.2) entities

theorem insertAll_cons : insertAll entities (e :: l) =
    insertAll (entities.insert (entityKey e) e) l := rfl

theorem get?_insertAll (hl : (l.map entityKey).Nodup) :
    (insertAll entities l).get? k = some e ↔ (e ∈ l ∧ entityKey e = k) ∨
      (entities.get? k = some e ∧ ∀ e' ∈ l, entityKey e' ≠ k) := by
  rw [insertAll, OrdMap.get?_foldl_insert]
  · refine or_congr ?_ (and_congr Iff.rfl ?_)
    · rw [List.mem_map]
      constructor
      · rintro ⟨e', he', hpair⟩
        obtain ⟨rfl, rfl⟩ := Prod.mk.inj hpair
        exact ⟨he', rfl⟩
      · rintro ⟨he, rfl⟩
        exact ⟨e, he, rfl⟩
    · simp
  · intro p hp q hq hkey
    obtain ⟨a, ha, rfl⟩ := List.mem_map.mp hp
    obtain ⟨b, hb, rfl⟩ := List.mem_map.mp hq
    exact List.inj_on_of_nodup_map hl ha hb hkey

theorem foldlM_enterEntity (hl : (l.map entityKey).Nodup)
    (hfresh : ∀ e ∈ l, entities.get? (entityKey e) = none) :
    l.foldlM enterEntity entities = .ok (insertAll entities l) := by
  induction l generalizing entities with
  | nil => rfl
  | cons e rest ih =>
    obtain ⟨hhead, htail⟩ := List.nodup_cons.mp hl
    have henter : enterEntity entities e = .ok (entities.insert (entityKey e) e) := by
      simp [enterEntity, hfresh e List.mem_cons_self]
    rw [List.foldlM_cons, henter, insertAll_cons]
    refine ih htail ?_
    intro e' he'
    rw [OrdMap.get?_insert_ne]
    · exact hfresh e' (List.mem_cons_of_mem _ he')
    · intro hkey
      exact hhead (hkey ▸ List.mem_map_of_mem he')

theorem foldlM_replaceEntity (hl : (l.map entityKey).Nodup)
    (hrises : ∀ e ∈ l, ∃ existing, entities.get? (entityKey e) = some existing ∧
      existing.projectedRevision < e.projectedRevision) :
    l.foldlM replaceEntity entities = .ok (insertAll entities l) := by
  induction l generalizing entities with
  | nil => rfl
  | cons e rest ih =>
    obtain ⟨hhead, htail⟩ := List.nodup_cons.mp hl
    obtain ⟨existing, hexisting, hlt⟩ := hrises e List.mem_cons_self
    have hreplace : replaceEntity entities e = .ok (entities.insert (entityKey e) e) := by
      simp [replaceEntity, hexisting, hlt]
    rw [List.foldlM_cons, hreplace, insertAll_cons]
    refine ih htail ?_
    intro e' he'
    obtain ⟨existing', hexisting', hlt'⟩ := hrises e' (List.mem_cons_of_mem _ he')
    refine ⟨existing', ?_, hlt'⟩
    rw [OrdMap.get?_insert_ne]
    · exact hexisting'
    · intro hkey
      exact hhead (hkey ▸ List.mem_map_of_mem he')

/-- The entities of a map, without those a list removes. -/
def eraseAll (entities : EntityMap) (l : List InterestRemoval) : EntityMap :=
  l.foldl (fun m r => m.erase (removalKey r)) entities

theorem get?_eraseAll {l} :
    (eraseAll entities l).get? k = if k ∈ l.map removalKey then none else entities.get? k := by
  induction l generalizing entities with
  | nil => simp [eraseAll]
  | cons r rest ih =>
    show (eraseAll (entities.erase (removalKey r)) rest).get? k = _
    rw [ih, OrdMap.get?_erase]
    simp only [List.map_cons, List.mem_cons]
    by_cases hk : k = removalKey r <;> by_cases hrest : k ∈ rest.map removalKey <;>
      simp [hk, hrest]

theorem foldlM_removeEntity {l : List InterestRemoval} (hl : (l.map removalKey).Nodup)
    (hthere : ∀ r ∈ l, (entities.get? (removalKey r)).isSome) :
    l.foldlM removeEntity entities = .ok (eraseAll entities l) := by
  induction l generalizing entities with
  | nil => rfl
  | cons r rest ih =>
    obtain ⟨hhead, htail⟩ := List.nodup_cons.mp hl
    have hremove : removeEntity entities r = .ok (entities.erase (removalKey r)) := by
      simp [removeEntity, OrdMap.contains, hthere r List.mem_cons_self]
    rw [List.foldlM_cons, hremove]
    refine ih htail ?_
    intro r' hr'
    rw [OrdMap.get?_erase, if_neg]
    · exact hthere r' (List.mem_cons_of_mem _ hr')
    · intro hkey
      exact hhead (hkey ▸ List.mem_map_of_mem hr')

end Changes

/-! ## References -/

section References

variable {prior : InterestProjectionState} {members : OrdMap EntityKey Membership}
  {candidates : OrdMap EntityKey Candidate} {k : EntityKey} {entity : EntityRef} {firstFrame : Bool}

theorem mem_map_refOf {p : EntityKey × Membership → Bool} :
    entity ∈ (members.entries.filter p).map refOf ↔ ∃ member,
      members.get? entity.identity = some member ∧ p (entity.identity, member) = true ∧
        entity.projectedRevision = member.projectedRevision := by
  simp only [List.mem_map, List.mem_filter]
  constructor
  · rintro ⟨⟨k, member⟩, ⟨hentry, hp⟩, rfl⟩
    exact ⟨member, OrdMap.mem_entries.mp hentry, hp, rfl⟩
  · rintro ⟨member, hmember, hp, hrevision⟩
    refine ⟨(entity.identity, member), ⟨OrdMap.mem_entries.mpr hmember, hp⟩, ?_⟩
    rw [refOf, ← hrevision]

theorem mem_enteredRefs : entity ∈ enteredRefs prior members firstFrame ↔
    ∃ member, members.get? entity.identity = some member ∧
      (firstFrame = false → prior.members.get? entity.identity = none) ∧
      entity.projectedRevision = member.projectedRevision := by
  cases firstFrame with
  | false => simp only [enteredRefs, Bool.false_eq_true, if_false, mem_map_refOf,
      Option.isNone_iff_eq_none, true_implies]
  | true =>
    have hall : members.entries = members.entries.filter fun _ => true := by simp
    rw [enteredRefs, if_pos rfl, hall, mem_map_refOf]
    simp

theorem mem_replacedRefs : entity ∈ replacedRefs prior members firstFrame ↔
    firstFrame = false ∧ ∃ member, members.get? entity.identity = some member ∧
      (∃ old, prior.members.get? entity.identity = some old ∧
        old.projectedRevision ≠ member.projectedRevision) ∧
      entity.projectedRevision = member.projectedRevision := by
  cases firstFrame with
  | false => simp only [replacedRefs, Bool.false_eq_true, if_false, mem_map_refOf,
      Option.any_eq_true, bne_iff_ne, true_and]
  | true => simp [replacedRefs]

theorem sorted_enteredRefs :
    ((enteredRefs prior members firstFrame).map (·.identity)).Pairwise (· < ·) := by
  rw [enteredRefs]
  split
  · rw [map_identity_refOf]
    exact OrdMap.keys_sorted
  · rw [map_identity_refOf]
    exact OrdMap.keys_sorted.sublist (List.filter_sublist.map _)

theorem sorted_replacedRefs :
    ((replacedRefs prior members firstFrame).map (·.identity)).Pairwise (· < ·) := by
  rw [replacedRefs]
  split
  · exact List.Pairwise.nil
  · rw [map_identity_refOf]
    exact OrdMap.keys_sorted.sublist (List.filter_sublist.map _)

variable {removals : RemovalReasons}

/-- The identities gone are already in order, so sorting their removals changes nothing. -/
theorem map_removalKey_removedEntities :
    (removedEntities prior members candidates removals).map removalKey =
      prior.members.keys.filter fun identity => (members.get? identity).isNone := by
  have hsorted : (prior.members.keys.filter fun identity =>
      (members.get? identity).isNone).Pairwise (· ≤ ·) :=
    (OrdMap.keys_sorted.sublist List.filter_sublist).imp fun h => h.le
  have hkeys : ∀ l : List EntityKey, (l.map fun identity =>
      ({ entityId := (ofLex identity).1, kind := (ofLex identity).2,
         reason := (removals.get? identity).getD
          (if candidates.contains identity then .outOfInterest else .destroyed) } :
        InterestRemoval)).map removalKey = l := by
    intro l
    rw [List.map_map]
    exact List.map_id l
  rw [removedEntities, List.Pairwise.insertionSort_eq]
  · exact hkeys _
  · rw [List.pairwise_map]
    exact hsorted

theorem mem_removedEntities :
    k ∈ (removedEntities prior members candidates removals).map removalKey ↔
      (prior.members.get? k).isSome ∧ members.get? k = none := by
  rw [map_removalKey_removedEntities, List.mem_filter, OrdMap.mem_keys, Option.isNone_iff_eq_none,
    Option.isSome_iff_exists]

theorem sorted_removedEntities :
    ((removedEntities prior members candidates removals).map removalKey).Pairwise (· < ·) := by
  rw [map_removalKey_removedEntities]
  exact OrdMap.keys_sorted.sublist List.filter_sublist

theorem nodup_changes :
    ((enteredRefs prior members firstFrame).map (·.identity) ++
        (replacedRefs prior members firstFrame).map (·.identity) ++
      (removedEntities prior members candidates removals).map removalKey).Nodup := by
  refine List.nodup_append'.mpr ⟨List.nodup_append'.mpr ⟨?_, ?_, ?_⟩, ?_, ?_⟩
  · exact sorted_enteredRefs.imp fun h => h.ne
  · exact sorted_replacedRefs.imp fun h => h.ne
  · intro k hentered hreplaced
    obtain ⟨entity, hentity, rfl⟩ := List.mem_map.mp hentered
    obtain ⟨entity', hentity', hsame⟩ := List.mem_map.mp hreplaced
    obtain ⟨-, -, hnone, -⟩ := mem_enteredRefs.mp hentity
    obtain ⟨hlater, -, -, ⟨old, hold, -⟩, -⟩ := mem_replacedRefs.mp hentity'
    rw [hsame, hnone hlater] at hold
    cases hold
  · exact sorted_removedEntities.imp fun h => h.ne
  · intro k hshown hremoved
    have hmember : ∃ member, members.get? k = some member := by
      rcases List.mem_append.mp hshown with hshown | hshown
      · obtain ⟨entity, hentity, rfl⟩ := List.mem_map.mp hshown
        exact (mem_enteredRefs.mp hentity).imp fun _ h => h.1
      · obtain ⟨entity, hentity, rfl⟩ := List.mem_map.mp hshown
        exact (mem_replacedRefs.mp hentity).2.imp fun _ h => h.1
    rw [(mem_removedEntities.mp hremoved).2] at hmember
    obtain ⟨member, hmember⟩ := hmember
    cases hmember

theorem length_changes_le :
    (enteredRefs prior members false).length + (replacedRefs prior members false).length +
        (removedEntities prior members candidates removals).length ≤
      members.size + prior.members.size := by
  have hremoved : (removedEntities prior members candidates removals).length ≤
      prior.members.size := by
    have hlength : ((removedEntities prior members candidates removals).map removalKey).length ≤
        prior.members.keys.length := by
      rw [map_removalKey_removedEntities]
      exact List.length_filter_le _ _
    rwa [List.length_map, OrdMap.keys, List.length_map] at hlength
  have hsplit := List.length_eq_countP_add_countP (l := members.entries)
    fun entry => (prior.members.get? entry.1).isNone
  have hreplaced : (replacedRefs prior members false).length ≤
      members.entries.countP fun entry => decide ¬ (prior.members.get? entry.1).isNone = true := by
    rw [replacedRefs, if_neg Bool.false_ne_true, List.length_map, ← List.countP_eq_length_filter]
    refine List.countP_mono_left ?_
    intro entry _ hany
    obtain ⟨old, hold, -⟩ := Option.any_eq_true _ _ |>.mp hany
    simp [hold]
  have hentered : (enteredRefs prior members false).length =
      members.entries.countP fun entry => (prior.members.get? entry.1).isNone := by
    rw [enteredRefs, if_neg Bool.false_ne_true, List.length_map, ← List.countP_eq_length_filter]
  have hsize : members.size = members.entries.length := rfl
  omega

end References

/-! ## Completeness of a delta -/

/-- A cursor binds members and payloads alike, under revisions it has already given out, and
    none before its baseline. -/
structure Coherent (cursor : InterestProjectionState) : Prop where
  blank : cursor.viewHash = none → ∀ k, cursor.members.get? k = none
  same : ∀ k, (cursor.members.get? k).isSome = (cursor.payloads.get? k).isSome
  revised : ∀ k member, cursor.members.get? k = some member →
    member.projectedRevision ≤ cursor.deltaSequence + 1

variable {limits : ResourceLimits}

/-- What is shown under an identity. -/
def shownAt (members : OrdMap EntityKey Membership)
    (payloads : OrdMap EntityKey InterestEntityPayload) (k : EntityKey) :
    Option InterestEntityProjection := do
  let member ← members.get? k
  let payload ← payloads.get? k
  return entityOf ⟨k, member.projectedRevision⟩ payload

section Completeness

variable {members : OrdMap EntityKey Membership} {payloads : OrdMap EntityKey InterestEntityPayload}
  {l : List InterestEntityProjection} {k : EntityKey} {e : InterestEntityProjection}
  {member : Membership}

theorem shownAt_eq_some : shownAt members payloads k = some e ↔ ∃ member payload,
    members.get? k = some member ∧ payloads.get? k = some payload ∧
      e = entityOf ⟨k, member.projectedRevision⟩ payload := by
  simp only [shownAt, Option.bind_eq_bind, Option.bind_eq_some_iff, Option.pure_def,
    Option.some.injEq]
  constructor
  · rintro ⟨member, hmember, payload, hpayload, rfl⟩
    exact ⟨member, payload, hmember, hpayload, rfl⟩
  · rintro ⟨member, payload, hmember, hpayload, rfl⟩
    exact ⟨member, hmember, payload, hpayload, rfl⟩

theorem shownAt_of_none (h : members.get? k = none) : shownAt members payloads k = none := by
  rw [shownAt, h]
  rfl

/-- A member with a payload is shown under its own identity, at its own revision. -/
theorem exists_shownAt (hsame : ∀ k, (members.get? k).isSome = (payloads.get? k).isSome)
    (h : members.get? k = some member) : ∃ e, shownAt members payloads k = some e ∧
      entityKey e = k ∧ e.projectedRevision = member.projectedRevision := by
  have hsome := hsame k
  rw [h] at hsome
  obtain ⟨payload, hpayload⟩ := Option.isSome_iff_exists.mp hsome.symm
  exact ⟨_, shownAt_eq_some.mpr ⟨member, payload, h, hpayload, rfl⟩, rfl, rfl⟩

theorem get?_entityMap_eq_shownAt
    (h : (members.entries.map refOf).mapM (completeEntityProjection payloads) = .ok l) :
    (entityMap l).get? k = shownAt members payloads k :=
  Option.ext fun _ => (get?_entityMap_of_complete h).trans shownAt_eq_some.symm

/-- Completed references are what is shown under the identities they are of. -/
theorem mem_of_completed {refs : List EntityRef} {S : EntityKey → Membership → Prop}
    (hrefs : ∀ entity : EntityRef, entity ∈ refs ↔ ∃ member,
      members.get? entity.identity = some member ∧ S entity.identity member ∧
        entity.projectedRevision = member.projectedRevision)
    (h : refs.mapM (completeEntityProjection payloads) = .ok l) :
    e ∈ l ↔ (∃ member, members.get? (entityKey e) = some member ∧ S (entityKey e) member) ∧
      shownAt members payloads (entityKey e) = some e := by
  rw [mem_of_complete h, shownAt_eq_some]
  constructor
  · rintro ⟨entity, hentity, payload, hpayload, rfl⟩
    obtain ⟨member, hmember, hS, hrevision⟩ := (hrefs entity).mp hentity
    exact ⟨⟨member, hmember, hS⟩, member, payload, hmember, hpayload, by rw [← hrevision]; rfl⟩
  · rintro ⟨⟨member, hmember, hS⟩, member', payload, hmember', hpayload, he⟩
    obtain rfl := Option.mem_unique hmember hmember'
    exact ⟨⟨entityKey e, member.projectedRevision⟩, (hrefs _).mpr ⟨member, hmember, hS, rfl⟩,
      payload, hpayload, he⟩

/-- Entities inserted at some identities are what is shown there, and nothing changes elsewhere. -/
theorem get?_insertAll_shownAt (entities : EntityMap) {S : EntityKey → Prop}
    (hl : (l.map entityKey).Nodup)
    (hmem : ∀ e, e ∈ l ↔ S (entityKey e) ∧ shownAt members payloads (entityKey e) = some e)
    (hshown : S k → ∃ e, shownAt members payloads k = some e ∧ entityKey e = k) :
    (S k → (insertAll entities l).get? k = shownAt members payloads k) ∧
      (¬ S k → (insertAll entities l).get? k = entities.get? k) := by
  constructor
  · intro hS
    obtain ⟨e, he, rfl⟩ := hshown hS
    rw [he]
    exact (get?_insertAll hl).mpr (.inl ⟨(hmem e).mpr ⟨hS, he⟩, rfl⟩)
  · intro hS
    have hother : ∀ e ∈ l, entityKey e ≠ k := fun e he hkey => hS (hkey ▸ ((hmem e).mp he).1)
    refine Option.ext fun e => ?_
    rw [get?_insertAll hl]
    constructor
    · rintro (⟨he, hkey⟩ | ⟨h, -⟩)
      · exact absurd hkey (hother e he)
      · exact h
    · exact fun h => .inr ⟨h, hother⟩

end Completeness

/-- A delta, from the view before to a selection. -/
structure Changing (host : Projecting) (prior : InterestProjectionState)
    (candidates : OrdMap EntityKey Candidate) (selection : Selection)
    (before : List InterestEntityProjection) (interest : InterestSnapshot) : Prop where
  coherent : Coherent prior
  selected : Selected host prior candidates selection
  later : prior.viewHash.isNone = false
  before : (prior.members.entries.map refOf).mapM
    (completeEntityProjection prior.payloads) = .ok before
  entered : selection.entered.mapM (completeEntityProjection selection.payloads) =
    .ok interest.entered
  replaced : selection.replaced.mapM (completeEntityProjection selection.payloads) =
    .ok interest.replaced
  removed : interest.removed = selection.removed

namespace Changing

variable {prior : InterestProjectionState} {candidates : OrdMap EntityKey Candidate}
  {selection : Selection} {before after : List InterestEntityProjection}
  {interest : InterestSnapshot} {k : EntityKey} {e : InterestEntityProjection}
  {member old : Membership}

variable (h : Changing host prior candidates selection before interest)

include h

/-- A member either has a revision that is given out for the first time, or the revision and
    the payload it had. -/
theorem revised (hmember : selection.members.get? k = some member)
    (hold : prior.members.get? k = some old) :
    old.projectedRevision < member.projectedRevision ∨
      old.projectedRevision = member.projectedRevision ∧
        shownAt prior.members prior.payloads k =
          shownAt selection.members selection.payloads k := by
  obtain ⟨e, he, -⟩ := exists_shownAt h.selected.same hmember
  obtain ⟨_, payload, -, hpayload, -⟩ := shownAt_eq_some.mp he
  obtain ⟨candidate, -, hchoice⟩ := h.selected.chosen k member payload hmember hpayload
  rcases hchoice.kept with hnew | ⟨old', hold', hkept, hsame⟩
  · left
    have hle := h.coherent.revised k old hold
    have hsequence := h.selected.sequence
    rw [h.later] at hsequence
    simp only [Bool.false_eq_true, if_false] at hsequence
    omega
  · right
    obtain rfl := Option.mem_unique hold hold'
    refine ⟨hkept.symm, ?_⟩
    simp only [shownAt, hmember, hold, hpayload, hsame, hkept, Option.bind_eq_bind,
      Option.bind_some]

theorem shown_of_member {S : Membership → Prop}
    (hmember : ∃ member, selection.members.get? k = some member ∧ S member) :
    ∃ e, shownAt selection.members selection.payloads k = some e ∧ entityKey e = k :=
  (exists_shownAt h.selected.same hmember.choose_spec.1).imp fun _ he => ⟨he.1, he.2.1⟩

theorem mem_entered : e ∈ interest.entered ↔
    (∃ member, selection.members.get? (entityKey e) = some member ∧
      prior.members.get? (entityKey e) = none) ∧
    shownAt selection.members selection.payloads (entityKey e) = some e := by
  refine mem_of_completed (S := fun k _ => prior.members.get? k = none) (fun entity => ?_) h.entered
  rw [h.selected.entered, h.later, mem_enteredRefs]
  simp only [true_implies]

theorem mem_replaced : e ∈ interest.replaced ↔
    (∃ member, selection.members.get? (entityKey e) = some member ∧
      ∃ old, prior.members.get? (entityKey e) = some old ∧
        old.projectedRevision ≠ member.projectedRevision) ∧
    shownAt selection.members selection.payloads (entityKey e) = some e := by
  refine mem_of_completed (S := fun k member => ∃ old, prior.members.get? k = some old ∧
    old.projectedRevision ≠ member.projectedRevision) (fun entity => ?_) h.replaced
  rw [h.selected.replaced, h.later, mem_replacedRefs]
  simp only [true_and]

theorem mem_removed : k ∈ interest.removed.map removalKey ↔
    (prior.members.get? k).isSome ∧ selection.members.get? k = none := by
  rw [h.removed, h.selected.removed, mem_removedEntities]

theorem nodup_entered : (interest.entered.map entityKey).Nodup := by
  rw [map_entityKey_of_complete h.entered, h.selected.entered]
  exact sorted_enteredRefs.imp fun h => h.ne

theorem nodup_replaced : (interest.replaced.map entityKey).Nodup := by
  rw [map_entityKey_of_complete h.replaced, h.selected.replaced]
  exact sorted_replacedRefs.imp fun h => h.ne

theorem nodup_removed : (interest.removed.map removalKey).Nodup := by
  rw [h.removed, h.selected.removed]
  exact sorted_removedEntities.imp fun h => h.ne

/-- After the first step what was not there before is as in the selection, and the rest as it
    was. -/
theorem get?_entered :
    (prior.members.get? k = none → (insertAll (entityMap before) interest.entered).get? k =
      shownAt selection.members selection.payloads k) ∧
    (prior.members.get? k ≠ none → (insertAll (entityMap before) interest.entered).get? k =
      shownAt prior.members prior.payloads k) := by
  have hinsert := get?_insertAll_shownAt (entityMap before) (k := k) (l := interest.entered)
    (S := fun k => ∃ member, selection.members.get? k = some member ∧ prior.members.get? k = none)
    h.nodup_entered (fun _ => h.mem_entered) h.shown_of_member
  constructor
  · intro hnone
    cases hmember : selection.members.get? k with
    | some member => exact hinsert.1 ⟨member, hmember, hnone⟩
    | none =>
      rw [hinsert.2 (by simp [hmember]), get?_entityMap_eq_shownAt h.before, shownAt_of_none hnone,
        shownAt_of_none hmember]
  · intro hsome
    rw [hinsert.2 fun hS => hsome hS.choose_spec.2, get?_entityMap_eq_shownAt h.before]

/-- After the second step every member is as in the selection. -/
theorem get?_replaced :
    (insertAll (insertAll (entityMap before) interest.entered) interest.replaced).get? k =
      if (selection.members.get? k).isSome then shownAt selection.members selection.payloads k
      else shownAt prior.members prior.payloads k := by
  have hinsert := get?_insertAll_shownAt (insertAll (entityMap before) interest.entered) (k := k)
    (l := interest.replaced)
    (S := fun k => ∃ member, selection.members.get? k = some member ∧
      ∃ old, prior.members.get? k = some old ∧ old.projectedRevision ≠ member.projectedRevision)
    h.nodup_replaced (fun _ => h.mem_replaced) h.shown_of_member
  cases hmember : selection.members.get? k with
  | none =>
    rw [hinsert.2 (by simp [hmember])]
    cases hold : prior.members.get? k with
    | none =>
      rw [h.get?_entered.1 hold, shownAt_of_none hmember, shownAt_of_none hold]
      rfl
    | some old =>
      rw [h.get?_entered.2 (by simp [hold])]
      rfl
  | some member =>
    rw [Option.isSome_some, if_pos rfl]
    cases hold : prior.members.get? k with
    | none => rw [hinsert.2 (by simp [hold]), h.get?_entered.1 hold]
    | some old =>
      by_cases hne : old.projectedRevision = member.projectedRevision
      · rw [hinsert.2 (by simp [hmember, hold, hne]), h.get?_entered.2 (by simp [hold])]
        exact ((h.revised hmember hold).resolve_left hne.not_lt).2
      · exact hinsert.1 ⟨member, hmember, old, hold, hne⟩

/-- What is replaced was shown, at an earlier revision. -/
theorem rises (he : e ∈ interest.replaced) : ∃ existing,
    (insertAll (entityMap before) interest.entered).get? (entityKey e) = some existing ∧
      existing.projectedRevision < e.projectedRevision := by
  obtain ⟨⟨member, hmember, old, hold, hne⟩, hshown⟩ := h.mem_replaced.mp he
  obtain ⟨existing, hexisting, -, hrevision⟩ := exists_shownAt h.coherent.same hold
  obtain ⟨e', he', -, hrevision'⟩ := exists_shownAt h.selected.same hmember
  obtain rfl := Option.mem_unique hshown he'
  refine ⟨existing, (h.get?_entered.2 (by simp [hold])).trans hexisting, ?_⟩
  rw [hrevision, hrevision']
  exact (h.revised hmember hold).resolve_right fun hkept => hne hkept.1

/-- What is removed was shown. -/
theorem there {r : InterestRemoval} (hr : r ∈ interest.removed) :
    ((insertAll (insertAll (entityMap before) interest.entered) interest.replaced).get?
      (removalKey r)).isSome := by
  obtain ⟨hsome, hnone⟩ := h.mem_removed.mp (List.mem_map_of_mem hr)
  obtain ⟨old, hold⟩ := Option.isSome_iff_exists.mp hsome
  obtain ⟨existing, hexisting, -⟩ := exists_shownAt h.coherent.same hold
  rw [h.get?_replaced, hnone, if_neg (by simp), hexisting]
  rfl

variable (hafter : (selection.members.entries.map refOf).mapM
  (completeEntityProjection selection.payloads) = .ok after)

include hafter

theorem result : eraseAll (insertAll (insertAll (entityMap before) interest.entered)
    interest.replaced) interest.removed = entityMap after := by
  apply OrdMap.ext
  intro k
  rw [get?_eraseAll, get?_entityMap_eq_shownAt hafter, h.get?_replaced]
  cases hmember : selection.members.get? k with
  | some member =>
    have hstays : k ∉ interest.removed.map removalKey := by
      rw [h.mem_removed, hmember]
      simp
    rw [if_neg hstays]
    rfl
  | none =>
    rw [shownAt_of_none hmember]
    split
    case isTrue => rfl
    case isFalse hstays =>
      rw [h.mem_removed, hmember] at hstays
      have hold : prior.members.get? k = none := by simpa using hstays
      rw [if_neg (by simp), shownAt_of_none hold]

/-- The public changes of a delta, applied to the entities of the view before, leave those of
    the view after. -/
theorem applyOperations (hroom : host.policy.maximumVisibleEntities ≤ limits.maxEntities) :
    Interest.applyOperations limits (entityMap before) interest = .ok (entityMap after) := by
  have hsize : (entityMap after).size = selection.members.size := by
    have hvalues := congrArg List.length (values_entityMap (sorted_of_complete hafter))
    have hkeys := congrArg List.length (map_entityKey_of_complete hafter)
    rw [OrdMap.values, List.length_map] at hvalues
    simp only [List.length_map] at hkeys
    exact hvalues.trans hkeys
  have hlimit : ¬ limits.maxEntities < (entityMap after).size := by
    have := h.selected.room
    omega
  have hfresh : ∀ e ∈ interest.entered, (entityMap before).get? (entityKey e) = none := by
    intro e he
    obtain ⟨⟨-, -, hnone⟩, -⟩ := h.mem_entered.mp he
    rw [get?_entityMap_eq_shownAt h.before, shownAt_of_none hnone]
  simp only [Interest.applyOperations, bind_eq_ok, rejectIf_eq_ok, pure_eq_ok]
  exact ⟨_, foldlM_enterEntity h.nodup_entered hfresh, _,
    foldlM_replaceEntity h.nodup_replaced fun _ he => h.rises he, _,
    foldlM_removeEntity h.nodup_removed fun _ hr => h.there hr, (),
    by rw [h.result hafter]; exact hlimit, h.result hafter⟩

end Changing

/-! ## Labels -/

section Labels

variable {binding : ValidatedRegistry} {welcome : WelcomeBinding} {label label' : String}

variable {address : UniverseAddress}

theorem validateAddress_label
    (h : binding.validateAddress address label = .ok ()) :
    binding.validateAddress address label' = .ok () := by
  simp only [ValidatedRegistry.validateAddress, validateAddress, bind_eq_ok, rejectIf_eq_ok,
    mapError_eq_ok] at h ⊢
  exact h

theorem validateEnvironment_label {environment}
    (h : binding.validateEnvironment environment label = .ok ()) :
    binding.validateEnvironment environment label' = .ok () := by
  simp only [ValidatedRegistry.validateEnvironment, bind_eq_ok, rejectIf_eq_ok, demand_eq_ok]
    at h ⊢
  exact h

theorem validateCellBodyBindings_label {gravityBodyId voxelBodyId : String}
    (h : validateCellBodyBindings binding gravityBodyId voxelBodyId label = .ok ()) :
    validateCellBodyBindings binding gravityBodyId voxelBodyId label' = .ok () := by
  simp only [validateCellBodyBindings] at h ⊢
  split at h
  · rfl
  · simp only [ValidatedRegistry.requireBody, bind_eq_ok, rejectIf_eq_ok] at h ⊢
    exact h
  · cases h

theorem validateOuter_label {outer} (h : validateOuter welcome binding outer label = .ok ()) :
    validateOuter welcome binding outer label' = .ok () := by
  simp only [validateOuter, bind_eq_ok, rejectIf_eq_ok] at h ⊢
  obtain ⟨_, hheader, _, haddress, hbodies⟩ := h
  exact ⟨(), hheader, (), validateAddress_label haddress, validateCellBodyBindings_label hbodies⟩

theorem universeId_of_validateAddress
    (h : binding.validateAddress address label = .ok ()) :
    address.universeId = binding.universeId := by
  simp only [ValidatedRegistry.validateAddress, validateAddress, bind_eq_ok, rejectIf_eq_ok,
    not_not] at h
  obtain ⟨_, huniverse, -⟩ := h
  exact huniverse

end Labels

/-! ## The private part -/

section Private

variable {limits : ResourceLimits} {binding : ValidatedRegistry}
  {previous current : ActorPrivateSnapshot}

/-- Motion is all that private states of one structure differ in. -/
theorem applyPrivateMotion_eq (h : privateStructureEqual previous current = true) :
    applyPrivateMotion previous (privatePlayerMotion current.player) = current := by
  obtain ⟨⟨⟩, _, _, _, _, _⟩ := previous
  obtain ⟨⟨⟩, _, _, _, _, _⟩ := current
  simp only [privateStructureEqual, Bool.and_eq_true, beq_iff_eq] at h
  obtain ⟨⟨⟨⟨⟨⟨⟨⟨⟨⟨⟨⟨⟨rfl, rfl⟩, rfl⟩, rfl⟩, rfl⟩, rfl⟩, rfl⟩, rfl⟩, rfl⟩, rfl⟩, rfl⟩, rfl⟩, rfl⟩, rfl⟩ := h
  rfl

theorem eq_of_privateStructureEqual (h : privateStructureEqual previous current = true)
    (hplayer : previous.player = current.player) : previous = current := by
  obtain ⟨_, _, _, _, _, _⟩ := previous
  obtain ⟨_, _, _, _, _, _⟩ := current
  simp only [privateStructureEqual, Bool.and_eq_true, beq_iff_eq] at h hplayer
  obtain ⟨⟨⟨⟨⟨⟨⟨⟨⟨⟨⟨⟨⟨rfl, rfl⟩, rfl⟩, rfl⟩, rfl⟩, -⟩, -⟩, -⟩, -⟩, -⟩, -⟩, -⟩, -⟩, -⟩ := h
  rw [hplayer]

theorem validatePrivateMotion_of_actor (h : validateActorPrivate current limits binding = .ok ()) :
    validatePrivateMotion (privatePlayerMotion current.player) binding = .ok () := by
  simp only [validateActorPrivate, bind_eq_ok, whenSome_eq_ok] at h
  obtain ⟨_, haddress, _, henvironment, -⟩ := h
  simp only [validatePrivateMotion, bind_eq_ok, whenSome_eq_ok]
  refine ⟨(), validateAddress_label haddress, ?_⟩
  intro environment henv
  exact validateEnvironment_label (henvironment environment henv)

theorem nextActorPrivate_of_delta (h : validateActorPrivate current limits binding = .ok ())
    {delta : ProjectedInterestDelta}
    (hactor : delta.actorPrivate = (deltaPrivateComponents (some previous) (some current)).1)
    (hmotion : delta.actorPrivateMotion =
      (deltaPrivateComponents (some previous) (some current)).2) :
    nextActorPrivate limits binding (some previous) delta = .ok (some current) := by
  rw [deltaPrivateComponents] at hactor hmotion
  cases hstructure : privateStructureEqual previous current with
  | false =>
    simp only [hstructure, if_true] at hactor hmotion
    simp only [nextActorPrivate, hactor, bind_eq_ok, pure_eq_ok]
    exact ⟨(), h, trivial⟩
  | true =>
    by_cases hplayer : previous.player = current.player
    · simp only [hstructure, hplayer, ne_eq, not_true_eq_false, Bool.true_eq_false, if_false]
        at hactor hmotion
      rw [nextActorPrivate, hactor, hmotion, eq_of_privateStructureEqual hstructure hplayer]
    · simp only [hstructure, hplayer, ne_eq, not_false_eq_true, Bool.true_eq_false, if_false,
        if_true] at hactor hmotion
      have hidentity : previous.player.playerId = current.player.playerId := by
        simp only [privateStructureEqual, Bool.and_eq_true, beq_iff_eq] at hstructure
        exact hstructure.1.1.1.1.1.1.1.1.2
      simp only [nextActorPrivate, hactor, hmotion, bind_eq_ok, demand_eq_ok, rejectIf_eq_ok,
        pure_eq_ok, not_not, Option.some.injEq, exists_eq_left']
      exact ⟨(), validatePrivateMotion_of_actor h, (), hidentity, applyPrivateMotion_eq hstructure⟩

theorem validateActorPrivate_of_part {whole part : ActorPrivateSnapshot}
    (h : validateActorPrivate whole limits binding = .ok ()) (hplayer : part.player = whole.player)
    (hinventories : part.inventories.Sublist whole.inventories)
    (hdrops : part.deathDrops.Sublist whole.deathDrops)
    (hmasses : part.ownedGridMasses.Sublist whole.ownedGridMasses)
    (hqueues : part.productionQueues.Sublist whole.productionQueues) :
    validateActorPrivate part limits binding = .ok () := by
  simp only [validateActorPrivate, bind_eq_ok, whenSome_eq_ok, checkAll_eq_ok, rejectIf_eq_ok,
    ensureStrictlySorted_eq_ok, not_lt] at h ⊢
  obtain ⟨_, haddress, _, henvironment, _, hdrop, _, hcount, _, h₁, _, h₂, _, h₃, h₄⟩ := h
  have hjobs := (hqueues.map fun queue => queue.jobs.length).sum_le_sum fun _ _ => Nat.zero_le _
  have hlengths : part.inventories.length + part.deathDrops.length + part.ownedGridMasses.length +
      part.productionQueues.length ≤ whole.inventories.length + whole.deathDrops.length +
        whole.ownedGridMasses.length + whole.productionQueues.length :=
    Nat.add_le_add (Nat.add_le_add (Nat.add_le_add hinventories.length_le hdrops.length_le)
      hmasses.length_le) hqueues.length_le
  rw [hplayer]
  exact ⟨(), haddress, (), henvironment, (), fun drop hin => hdrop drop (hdrops.subset hin), (),
    (Nat.add_le_add hlengths hjobs).trans hcount, (), h₁.sublist (hinventories.map _), (),
    h₂.sublist (hdrops.map _), (), h₃.sublist (hmasses.map _), h₄.sublist (hqueues.map _)⟩

end Private

/-! ## Worlds -/

/-- The outer header of the frames of a world. -/
def CanonicalSnapshot.outer (canonical : CanonicalSnapshot) : OuterHeader where
  projectionSchemaVersion := projectionSchemaVersion
  schemaVersion := canonical.schemaVersion
  contentManifestVersion := canonical.contentManifestVersion
  universeId := canonical.universeId
  universeManifestHash := canonical.universeManifestHash
  celestialRegistryHash := canonical.celestialRegistryHash
  cellAddress := canonical.cellAddress
  gravityBodyId := canonical.gravityBodyId
  voxelBodyId := canonical.voxelBodyId

/-- A source built from a world, with content that suits what a client has negotiated: its
    schemas, its registry and its limits. -/
structure Presentable (limits : ResourceLimits) (welcome : WelcomeBinding)
    (binding : ValidatedRegistry) (source : ProjectionSource) : Prop where
  projected : ∃ survey w, projectionSource survey w = .ok source
  outer : validateOuter welcome binding source.canonical.outer "world" = .ok ()
  address : ∀ player ∈ source.canonical.players,
    binding.validateAddress player.address "player" = .ok ()
  environment : ∀ player ∈ source.canonical.players, ∀ environment,
    player.environment = some environment →
      binding.validateEnvironment environment "player" = .ok ()
  entity : ∀ k candidate, source.candidates.get? k = some candidate → ∀ revision,
    validateEntity limits binding (entityOf ⟨k, revision⟩ candidate.payload) = .ok ()
  actor : ∀ player actor, source.actorPrivate.get? player = some actor →
    validateActorPrivate actor limits binding = .ok () ∧
      (source.candidates.get? (toLex (player, .player))).isSome

theorem filteredActorPrivate_valid {welcome binding source} {player : String} {visible actor}
    (hworld : Presentable limits welcome binding source)
    (h : source.filteredActorPrivate player visible = .ok actor) :
    validateActorPrivate actor limits binding = .ok () ∧ actor.player.playerId = player ∧
      (source.candidates.get? (toLex (player, .player))).isSome := by
  simp only [ProjectionSource.filteredActorPrivate, bind_eq_ok, demand_eq_ok, pure_eq_ok] at h
  obtain ⟨whole, hwhole, rfl⟩ := h
  obtain ⟨hvalid, hown⟩ := hworld.actor player whole hwhole
  exact ⟨validateActorPrivate_of_part hvalid rfl List.filter_sublist List.filter_sublist
    List.filter_sublist List.filter_sublist, source.owned player whole hwhole, hown⟩

end Verse.Interest
