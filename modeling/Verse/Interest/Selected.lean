import Verse.Interest.Checked
import Verse.Interest.Projection

/-!
# What a projection selects

The members a projection selects and their payloads bind the same entities; every payload is
that of a candidate, or the one the session was shown before when nothing structural changed
in it; and a member keeps its revision only together with its payload. This is what makes a
delta complete: what it does not mention has not changed.
-/

namespace Verse.Interest

open Lib

variable {host : Projecting}

/-! ## Entities -/

/-- An entity as it is shown. -/
def entityOf (entity : EntityRef) (payload : InterestEntityPayload) : InterestEntityProjection :=
  ⟨(ofLex entity.identity).1, (ofLex entity.identity).2, entity.projectedRevision,
    projectionSchemaVersion, payload⟩

variable {entity : EntityRef}

@[simp] theorem entityKey_entityOf {payload} :
    entityKey (entityOf entity payload) = entity.identity := rfl

@[simp] theorem completeEntityProjection_eq_ok {payloads e} :
    completeEntityProjection payloads entity = .ok e ↔
      ∃ payload, payloads.get? entity.identity = some payload ∧ e = entityOf entity payload := by
  simp only [completeEntityProjection, bind_eq_ok, demand_eq_ok, pure_eq_ok, entityOf]
  refine exists_congr fun payload => and_congr_right fun _ => eq_comm

section Complete

variable {payloads : OrdMap EntityKey InterestEntityPayload} {refs : List EntityRef}
  {members : OrdMap EntityKey Membership} {l : List InterestEntityProjection} {k : EntityKey}
  {e : InterestEntityProjection}

theorem mem_of_complete (h : refs.mapM (completeEntityProjection payloads) = .ok l) :
    e ∈ l ↔ ∃ entity ∈ refs, ∃ payload, payloads.get? entity.identity = some payload ∧
      e = entityOf entity payload := by
  induction mapM_eq_ok_iff_forall₂.mp h with
  | nil => simp
  | @cons entity e' rest l' hhead htail ih =>
    obtain ⟨payload, hpayload, rfl⟩ := completeEntityProjection_eq_ok.mp hhead
    have hrest := ih (mapM_eq_ok_iff_forall₂.mpr htail)
    simp only [List.mem_cons, hrest]
    constructor
    · rintro (rfl | ⟨entity', hmem, hrest⟩)
      · exact ⟨entity, .inl rfl, payload, hpayload, rfl⟩
      · exact ⟨entity', .inr hmem, hrest⟩
    · rintro ⟨entity', rfl | hmem, payload', hpayload', rfl⟩
      · rw [hpayload] at hpayload'
        exact .inl (by rw [Option.some.inj hpayload'])
      · exact .inr ⟨entity', hmem, payload', hpayload', rfl⟩

theorem map_entityKey_of_complete (h : refs.mapM (completeEntityProjection payloads) = .ok l) :
    l.map entityKey = refs.map (·.identity) := by
  induction mapM_eq_ok_iff_forall₂.mp h with
  | nil => rfl
  | cons hhead htail ih =>
    obtain ⟨payload, -, rfl⟩ := completeEntityProjection_eq_ok.mp hhead
    rw [List.map_cons, List.map_cons, ih (mapM_eq_ok_iff_forall₂.mpr htail), entityKey_entityOf]

theorem map_identity_refOf {entries : List (EntityKey × Membership)} :
    (entries.map refOf).map (·.identity) = entries.map Prod.fst := by
  rw [List.map_map]
  rfl

theorem sorted_of_complete
    (h : (members.entries.map refOf).mapM (completeEntityProjection payloads) = .ok l) :
    (l.map entityKey).Pairwise (· < ·) := by
  rw [map_entityKey_of_complete h, map_identity_refOf]
  exact OrdMap.keys_sorted

theorem key_injective_of_sorted (hl : (l.map entityKey).Pairwise (· < ·)) :
    ∀ a ∈ l, ∀ b ∈ l, entityKey a = entityKey b → a = b := by
  have hnodup : (l.map entityKey).Nodup := hl.imp fun h => h.ne
  intro a ha b hb hab
  exact List.inj_on_of_nodup_map hnodup ha hb hab

theorem get?_entityMap (hl : (l.map entityKey).Pairwise (· < ·)) :
    (entityMap l).get? k = some e ↔ e ∈ l ∧ entityKey e = k := by
  rw [entityMap, OrdMap.get?_ofList, List.mem_map]
  · constructor
    · rintro ⟨e', he', hpair⟩
      obtain ⟨rfl, rfl⟩ := Prod.mk.inj hpair
      exact ⟨he', rfl⟩
    · rintro ⟨he, rfl⟩
      exact ⟨e, he, rfl⟩
  · intro p hp q hq hkey
    obtain ⟨a, ha, rfl⟩ := List.mem_map.mp hp
    obtain ⟨b, hb, rfl⟩ := List.mem_map.mp hq
    exact key_injective_of_sorted hl a ha b hb hkey

theorem values_entityMap (hl : (l.map entityKey).Pairwise (· < ·)) :
    (entityMap l).values = l := by
  have hpairs : ((l.map fun e => (entityKey e, e)).map Prod.fst) = l.map entityKey := by
    rw [List.map_map]
    rfl
  have hperm : (entityMap l).entries.Perm (l.map fun e => (entityKey e, e)) := by
    apply OrdMap.ofList_perm
    rw [hpairs]
    exact hl.imp fun h => h.ne
  have hsorted : (entityMap l).entries.Pairwise fun a b => a.1 < b.1 := (entityMap l).sorted
  have hpairwise : (l.map fun e => (entityKey e, e)).Pairwise fun a b => a.1 < b.1 := by
    rw [List.pairwise_map]
    exact List.pairwise_map.mp hl
  have heq : (entityMap l).entries = l.map fun e => (entityKey e, e) := by
    refine List.Perm.eq_of_pairwise ?_ hsorted hpairwise hperm
    intro a b _ _ hab hba
    exact absurd (hab.trans hba) (lt_irrefl _)
  rw [OrdMap.values, heq, List.map_map]
  exact List.map_id l

theorem get?_entityMap_of_complete
    (h : (members.entries.map refOf).mapM (completeEntityProjection payloads) = .ok l) :
    (entityMap l).get? k = some e ↔ ∃ member payload, members.get? k = some member ∧
      payloads.get? k = some payload ∧ e = entityOf ⟨k, member.projectedRevision⟩ payload := by
  rw [get?_entityMap (sorted_of_complete h), mem_of_complete h]
  constructor
  · rintro ⟨⟨entity, hentity, payload, hpayload, rfl⟩, rfl⟩
    obtain ⟨⟨k, member⟩, hentry, rfl⟩ := List.mem_map.mp hentity
    exact ⟨member, payload, OrdMap.mem_entries.mp hentry, hpayload, rfl⟩
  · rintro ⟨member, payload, hmember, hpayload, rfl⟩
    exact ⟨⟨refOf (k, member), List.mem_map.mpr ⟨_, OrdMap.mem_entries.mpr hmember, rfl⟩,
      payload, hpayload, rfl⟩, rfl⟩

end Complete

/-! ## One candidate -/

variable {prior : InterestProjectionState} {anchor : UniverseAddress} {tick revision : Nat}
  {firstFrame : Bool} {k : EntityKey} {candidate : Candidate}

/-- What a selected member and its payload may be, over the cursor before. -/
structure Choice (prior : InterestProjectionState) (revision : Nat) (k : EntityKey)
    (candidate : Candidate) (member : Membership) (payload : InterestEntityPayload) : Prop where
  current : payload = candidate.payload ∨ candidate.controlCritical = false ∧
    structuralPayloadChanged payload candidate.payload = false ∧
    prior.payloads.get? k = some payload
  kept : member.projectedRevision = revision ∨ ∃ old, prior.members.get? k = some old ∧
    member.projectedRevision = old.projectedRevision ∧ prior.payloads.get? k = some payload

theorem priority_of_placeOf {band old} {distance : Nat} {outside} {priority : Nat}
    (h : placeOf host prior tick band old candidate distance = .ok (true, outside, priority)) :
    priority = 0 ↔ candidate.controlCritical = true := by
  cases hcritical : candidate.controlCritical with
  | true =>
    simp only [placeOf, hcritical, if_true, Except.ok.injEq, Prod.mk.injEq] at h
    simp [← h.2.2]
  | false =>
    suffices hne : priority ≠ 0 by simpa using hne
    simp only [placeOf, hcritical, Bool.false_eq_true, if_false] at h
    split at h
    · simp only [Except.ok.injEq, Prod.mk.injEq] at h
      rw [← h.2.2]
      split <;> decide
    · cases old with
      | none => simp at h
      | some member =>
        simp only [ite_eq_ok, Except.ok.injEq, Prod.mk.injEq, bind_eq_ok, pure_eq_ok] at h
        rcases h with ⟨-, -, -, rfl⟩ | ⟨-, -, -, -, -, rfl⟩ <;> decide

theorem choice_of_evaluate {item : Eligible}
    (h : evaluate host prior anchor tick firstFrame revision k candidate = .ok (some item)) :
    item.identity = k ∧ item.controlCritical = candidate.controlCritical ∧
      (item.priority = 0 ↔ candidate.controlCritical = true) ∧
      Choice prior revision k candidate item.member item.payload := by
  simp only [evaluate, bind_eq_ok] at h
  obtain ⟨band, -, distance, -, ⟨included, outside, priority⟩, hplace, h⟩ := h
  cases included with
  | false => cases h
  | true =>
    have hpriority := priority_of_placeOf hplace
    cases hold : prior.members.get? k with
    | none =>
      simp only [hold, Option.isNone_none, Bool.or_true, if_true, bind_eq_ok, pure_eq_ok,
        Option.some.injEq, exists_eq_left'] at h
      subst h
      exact ⟨rfl, rfl, hpriority, .inl rfl, .inl rfl⟩
    | some old =>
      simp only [hold, Option.isSome_some, Option.isNone_some, Bool.true_and, Bool.or_false,
        if_true, demand_some] at h
      split at h
      case isTrue hdue =>
        simp only [hdue, Bool.true_eq_false, if_false, bind_eq_ok, pure_eq_ok,
          Option.some.injEq, exists_eq_left'] at h
        subst h
        refine ⟨rfl, rfl, hpriority, .inl rfl, ?_⟩
        by_cases hsame : old.contentFingerprint = candidate.contentFingerprint ∧
            prior.payloads.get? k = some candidate.payload
        · exact .inr ⟨old, hold, if_pos hsame, hsame.2⟩
        · exact .inl (if_neg hsame)
      case isFalse hdue =>
        -- Not looked at again: the session keeps what it was shown.
        have hdue' := Bool.eq_false_iff.mpr hdue
        simp only [hdue', if_true, bind_eq_ok, demand_eq_ok, pure_eq_ok, Option.some.injEq,
          exists_eq_left'] at h
        obtain ⟨_, -, payload, hpayload, rfl⟩ := h
        simp only [Bool.or_eq_false_iff, hpayload, Option.any_some] at hdue'
        obtain ⟨⟨⟨-, hcritical⟩, hstructure⟩, -⟩ := hdue'
        exact ⟨rfl, rfl, hpriority, .inr ⟨hcritical, hstructure, hpayload⟩,
          .inr ⟨old, hold, rfl, hpayload⟩⟩

theorem isSome_of_evaluate {selected} (hcritical : candidate.controlCritical)
    (h : evaluate host prior anchor tick firstFrame revision k candidate = .ok selected) :
    selected.isSome := by
  simp only [evaluate, placeOf, hcritical, if_true, Bool.or_true, Bool.true_or, bind_eq_ok,
    Except.ok.injEq, exists_eq_left', pure_eq_ok] at h
  obtain ⟨band, -, distance, -, rfl⟩ := h
  rfl

/-! ## The budget -/

section Budget

variable {P : EntityKey → Membership → InterestEntityPayload → Prop} {admitted admitted' : Admitted}
  {item : Eligible} {items : List Eligible}

/-- What the budget let in binds members and payloads alike. -/
structure Admitted.Chosen (P : EntityKey → Membership → InterestEntityPayload → Prop)
    (admitted : Admitted) : Prop where
  same : ∀ k, (admitted.members.get? k).isSome = (admitted.payloads.get? k).isSome
  chosen : ∀ k member payload, admitted.members.get? k = some member →
    admitted.payloads.get? k = some payload → P k member payload

/-- An item is passed over, or let in; what controls the session is let in. -/
theorem spend_cases (h : spend host admitted item = .ok admitted') :
    (item.controlCritical = false ∧ admitted' = admitted) ∨
    ((item.controlCritical = true ∨
        admitted.members.size < host.policy.maximumVisibleEntities) ∧
      admitted'.members = admitted.members.insert item.identity item.member ∧
      admitted'.payloads = admitted.payloads.insert item.identity item.payload) := by
  simp only [spend, bind_eq_ok, ite_eq_ok, pure_eq_ok] at h
  obtain ⟨band, -, ⟨⟨hordinary, -⟩, rfl⟩ | ⟨hroom, rfl⟩⟩ := h
  · exact .inl ⟨hordinary, rfl⟩
  · refine .inr ⟨?_, rfl, rfl⟩
    by_contra hnone
    simp only [not_or, Bool.not_eq_true, not_lt] at hnone
    exact hroom ⟨hnone.1, .inl hnone.2⟩

theorem Admitted.Chosen.spend (hadmitted : admitted.Chosen P)
    (hitem : P item.identity item.member item.payload)
    (h : Interest.spend host admitted item = .ok admitted') : admitted'.Chosen P := by
  rcases spend_cases h with ⟨-, rfl⟩ | ⟨-, hmembers, hpayloads⟩
  · exact hadmitted
  · refine ⟨?_, ?_⟩
    · intro k
      rw [hmembers, hpayloads, OrdMap.get?_insert, OrdMap.get?_insert]
      split
      · rfl
      · exact hadmitted.same k
    · intro k member payload hmember hpayload
      rw [hmembers, OrdMap.get?_insert] at hmember
      rw [hpayloads, OrdMap.get?_insert] at hpayload
      by_cases hk : k = item.identity
      · rw [if_pos hk] at hmember hpayload
        obtain rfl := Option.some.inj hmember
        obtain rfl := Option.some.inj hpayload
        rwa [hk]
      · rw [if_neg hk] at hmember hpayload
        exact hadmitted.chosen k member payload hmember hpayload

theorem Admitted.Chosen.foldlM (hadmitted : admitted.Chosen P)
    (hitems : ∀ item ∈ items, P item.identity item.member item.payload)
    (h : items.foldlM (Interest.spend host) admitted = .ok admitted') : admitted'.Chosen P := by
  induction items generalizing admitted with
  | nil =>
    obtain rfl : admitted = admitted' := by simpa using h
    exact hadmitted
  | cons item rest ih =>
    rw [List.foldlM_cons, bind_eq_ok] at h
    obtain ⟨next, hnext, hrest⟩ := h
    exact ih (hadmitted.spend (hitems item List.mem_cons_self) hnext)
      (fun item hitem => hitems item (List.mem_cons_of_mem _ hitem)) hrest

theorem isSome_of_foldlM (h : items.foldlM (spend host) admitted = .ok admitted')
    (hk : (admitted.members.get? k).isSome ∨
      ∃ item ∈ items, item.controlCritical = true ∧ item.identity = k) :
    (admitted'.members.get? k).isSome := by
  induction items generalizing admitted with
  | nil =>
    obtain rfl : admitted = admitted' := by simpa using h
    rcases hk with hk | ⟨item, hitem, -⟩
    · exact hk
    · cases hitem
  | cons item rest ih =>
    rw [List.foldlM_cons, bind_eq_ok] at h
    obtain ⟨next, hnext, hrest⟩ := h
    refine ih hrest ?_
    rcases spend_cases hnext with ⟨hordinary, rfl⟩ | ⟨-, hmembers, -⟩
    · rcases hk with hk | ⟨item', hitem, hcritical, hidentity⟩
      · exact .inl hk
      · rcases List.mem_cons.mp hitem with rfl | hitem
        · rw [hordinary] at hcritical
          cases hcritical
        · exact .inr ⟨item', hitem, hcritical, hidentity⟩
    · rw [hmembers, OrdMap.get?_insert]
      by_cases hkey : k = item.identity
      · left
        rw [if_pos hkey]
        rfl
      · rw [if_neg hkey]
        rcases hk with hk | ⟨item', hitem, hcritical, hidentity⟩
        · exact .inl hk
        · rcases List.mem_cons.mp hitem with rfl | hitem
          · exact absurd hidentity.symm hkey
          · exact .inr ⟨item', hitem, hcritical, hidentity⟩

/-- Where nothing comes before what controls the session, the budget is kept. -/
theorem size_le_of_foldlM (h : items.foldlM (spend host) admitted = .ok admitted')
    (hfirst : items.Pairwise fun a b => b.controlCritical = true → a.controlCritical = true)
    (hroom : admitted.members.size + (items.filter fun item => item.controlCritical).length ≤
      host.policy.maximumVisibleEntities) :
    admitted'.members.size ≤ host.policy.maximumVisibleEntities := by
  induction items generalizing admitted with
  | nil =>
    obtain rfl : admitted = admitted' := by simpa using h
    simpa using hroom
  | cons item rest ih =>
    rw [List.foldlM_cons, bind_eq_ok] at h
    obtain ⟨next, hnext, hrest⟩ := h
    obtain ⟨hhead, htail⟩ := List.pairwise_cons.mp hfirst
    cases hcritical : item.controlCritical with
    | true =>
      rw [List.filter_cons_of_pos (by simp [hcritical]), List.length_cons] at hroom
      rcases spend_cases hnext with ⟨hordinary, -⟩ | ⟨-, hmembers, -⟩
      · rw [hcritical] at hordinary
        cases hordinary
      · have hinsert : next.members.size ≤ admitted.members.size + 1 := by
          rw [hmembers]
          exact OrdMap.size_insert_le
        exact ih hrest htail (by omega)
    | false =>
      have hnone : rest.filter (fun item => item.controlCritical) = [] := by
        rw [List.filter_eq_nil_iff]
        intro b hb hbcritical
        have := hhead b hb hbcritical
        rw [hcritical] at this
        cases this
      rw [List.filter_cons_of_neg (by simp [hcritical]), hnone, List.length_nil] at hroom
      rcases spend_cases hnext with ⟨-, rfl⟩ | ⟨hspend, hmembers, -⟩
      · exact ih hrest htail (by rw [hnone]; exact hroom)
      · have hinsert : next.members.size ≤ admitted.members.size + 1 := by
          rw [hmembers]
          exact OrdMap.size_insert_le
        have hlt : admitted.members.size < host.policy.maximumVisibleEntities := by
          simpa [hcritical] using hspend
        exact ih hrest htail (by rw [hnone, List.length_nil]; omega)

instance : Std.Total fun a b : Eligible => a.before b = true := ⟨fun a b => by
  rcases le_total (toLex (a.priority, toLex (a.distanceSquaredUm, a.identity)))
    (toLex (b.priority, toLex (b.distanceSquaredUm, b.identity))) with h | h
  · exact .inl (decide_eq_true h)
  · exact .inr (decide_eq_true h)⟩

instance : IsTrans Eligible fun a b => a.before b = true := ⟨fun _ _ _ hab hbc =>
  decide_eq_true (le_trans (of_decide_eq_true hab) (of_decide_eq_true hbc))⟩

theorem priority_le_of_before {a b : Eligible} (h : Eligible.before a b = true) :
    a.priority ≤ b.priority := by
  rcases Prod.Lex.toLex_le_toLex.mp (of_decide_eq_true h) with hlt | ⟨heq, -⟩
  · exact hlt.le
  · exact heq.le

end Budget

/-! ## A selection -/

/-- What a projection selects from the candidates for a cursor. -/
structure Selected (host : Projecting) (prior : InterestProjectionState)
    (candidates : OrdMap EntityKey Candidate) (selection : Selection) : Prop where
  same : ∀ k, (selection.members.get? k).isSome = (selection.payloads.get? k).isSome
  chosen : ∀ k member payload, selection.members.get? k = some member →
    selection.payloads.get? k = some payload → ∃ candidate,
      candidates.get? k = some candidate ∧
        Choice prior (selection.deltaSequence + 1) k candidate member payload
  critical : ∀ k candidate, candidates.get? k = some candidate → candidate.controlCritical →
    (selection.members.get? k).isSome
  room : selection.members.size ≤ host.policy.maximumVisibleEntities
  numbered : selection.deltaSequence + 1 ≤ u64Max
  entered : selection.entered = enteredRefs prior selection.members prior.viewHash.isNone
  replaced : selection.replaced = replacedRefs prior selection.members prior.viewHash.isNone
  removed : selection.removed =
    removedEntities prior selection.members candidates OrdMap.empty
  kind : selection.frameKind = if prior.viewHash.isNone then .baseline else .delta
  sequence : selection.deltaSequence = if prior.viewHash.isNone then 0 else prior.deltaSequence + 1
  previous : selection.previousViewHash = prior.viewHash

variable {candidates : OrdMap EntityKey Candidate} {selection : Selection}

theorem select_eq_ok
    (h : select host prior candidates anchor tick OrdMap.empty = .ok selection) :
    ∃ sequence evaluated admitted,
      sequence = (if prior.viewHash.isNone then 0 else prior.deltaSequence + 1) ∧
      sequence + 1 ≤ u64Max ∧
      candidates.entries.mapM (fun entry => evaluate host prior anchor tick prior.viewHash.isNone
        (sequence + 1) entry.1 entry.2) = .ok evaluated ∧
      (((evaluated.filterMap id).insertionSort (Eligible.before · ·)).filter
        fun item => item.controlCritical).length ≤ host.policy.maximumVisibleEntities ∧
      ((evaluated.filterMap id).insertionSort (Eligible.before · ·)).foldlM (spend host)
        ⟨fun _ => 0, OrdMap.empty, OrdMap.empty⟩ = .ok admitted ∧
      selection = {
        members := admitted.members
        payloads := admitted.payloads
        entered := enteredRefs prior admitted.members prior.viewHash.isNone
        replaced := replacedRefs prior admitted.members prior.viewHash.isNone
        removed := removedEntities prior admitted.members candidates OrdMap.empty
        frameKind := if prior.viewHash.isNone then .baseline else .delta
        deltaSequence := sequence
        previousViewHash := prior.viewHash } := by
  have hentries : (candidates.entries.filter fun entry =>
      !(OrdMap.empty : RemovalReasons).contains entry.1) = candidates.entries := by
    rw [List.filter_eq_self]
    intro entry _
    rfl
  cases hfirst : prior.viewHash.isNone with
  | true =>
    simp only [select, hfirst, hentries, if_true, bind_eq_ok, rejectIf_eq_ok, demand_eq_ok,
      checkedAdd_eq_some, pure_eq_ok, exists_eq_left', not_lt] at h
    obtain ⟨-, -, -, -, revision, ⟨hnumbered, rfl⟩, evaluated, hevaluated, -, hcritical, admitted,
      hadmitted, rfl⟩ := h
    exact ⟨0, evaluated, admitted, rfl, hnumbered, hevaluated, hcritical, hadmitted, rfl⟩
  | false =>
    simp only [select, hfirst, hentries, Bool.false_eq_true, if_false, bind_eq_ok,
      rejectIf_eq_ok, demand_eq_ok, checkedAdd_eq_some, pure_eq_ok, not_lt] at h
    obtain ⟨-, -, -, -, sequence, ⟨-, rfl⟩, revision, ⟨hnumbered, rfl⟩, evaluated, hevaluated, -,
      hcritical, admitted, hadmitted, rfl⟩ := h
    exact ⟨_, evaluated, admitted, rfl, hnumbered, hevaluated, hcritical, hadmitted, rfl⟩

theorem selected_of_select
    (h : select host prior candidates anchor tick OrdMap.empty = .ok selection) :
    Selected host prior candidates selection := by
  obtain ⟨sequence, evaluated, admitted, hsequence, hnumbered, hevaluated, hcritical, hadmitted,
    rfl⟩ := select_eq_ok h
  have hmem : ∀ item, item ∈ (evaluated.filterMap id).insertionSort (Eligible.before · ·) ↔
      some item ∈ evaluated := by
    intro item
    rw [List.mem_insertionSort, List.mem_filterMap]
    simp
  have hitem : ∀ item ∈ (evaluated.filterMap id).insertionSort (Eligible.before · ·),
      ∃ candidate, candidates.get? item.identity = some candidate ∧
        (item.priority = 0 ↔ item.controlCritical = true) ∧
        Choice prior (sequence + 1) item.identity candidate item.member item.payload := by
    intro item hin
    obtain ⟨⟨k, candidate⟩, hentry, hevaluate⟩ :=
      exists_of_mem_mapM hevaluated _ ((hmem item).mp hin)
    obtain ⟨rfl, hsame, hpriority, hchoice⟩ := choice_of_evaluate hevaluate
    exact ⟨candidate, OrdMap.mem_entries.mp hentry, by rw [hpriority, hsame], hchoice⟩
  have hnone : Admitted.Chosen (fun k member payload => ∃ candidate,
      candidates.get? k = some candidate ∧ Choice prior (sequence + 1) k candidate member payload)
      ⟨fun _ => 0, OrdMap.empty, OrdMap.empty⟩ :=
    ⟨fun _ => rfl, fun _ _ _ hmember => (by cases hmember)⟩
  have hchosen := hnone.foldlM
    (fun item hin => let ⟨c, hc, _, hchoice⟩ := hitem item hin; ⟨c, hc, hchoice⟩) hadmitted
  have hfirst : ((evaluated.filterMap id).insertionSort (Eligible.before · ·)).Pairwise
      fun a b => b.controlCritical = true → a.controlCritical = true := by
    refine (List.pairwise_insertionSort (Eligible.before · ·) _).imp_of_mem ?_
    intro a b ha hb hab hbcritical
    obtain ⟨-, -, hapriority, -⟩ := hitem a ha
    obtain ⟨-, -, hbpriority, -⟩ := hitem b hb
    have hle := priority_le_of_before hab
    rw [hbpriority.mpr hbcritical] at hle
    exact hapriority.mp (Nat.le_zero.mp hle)
  have hsize := size_le_of_foldlM hadmitted hfirst
    ((Nat.zero_add _).trans_le hcritical)
  refine ⟨hchosen.same, hchosen.chosen, ?_, hsize, hnumbered, rfl, rfl, rfl, rfl, hsequence, rfl⟩
  · intro k candidate hcandidate hcritical
    obtain ⟨selected, hselected, hevaluate⟩ :=
      exists_mem_mapM hevaluated _ (OrdMap.mem_entries.mpr hcandidate)
    obtain ⟨item, rfl⟩ := Option.isSome_iff_exists.mp (isSome_of_evaluate hcritical hevaluate)
    obtain ⟨rfl, hitem, -, -⟩ := choice_of_evaluate hevaluate
    exact isSome_of_foldlM hadmitted (.inr ⟨item, (hmem item).mpr hselected,
      hitem.trans hcritical, rfl⟩)

/-! ## The candidates -/

section Query

variable {source : ProjectionSource} {cursor : InterestProjectionState}
  {candidates : OrdMap EntityKey Candidate}

theorem candidate_of_query (h : source.query host cursor anchor = .ok candidates)
    (hk : candidates.get? k = some candidate) : ∃ whole, source.candidates.get? k = some whole ∧
      candidate.payload = whole.payload := by
  simp only [ProjectionSource.query, bind_eq_ok, pure_eq_ok] at h
  obtain ⟨near, -, rfl⟩ := h
  rcases OrdMap.of_get?_foldl_insert hk with hmem | hnone
  · obtain ⟨identity, -, hidentity⟩ := List.mem_filterMap.mp hmem
    obtain ⟨whole, hwhole, hpair⟩ := Option.map_eq_some_iff.mp hidentity
    obtain ⟨rfl, rfl⟩ := Prod.mk.inj hpair
    exact ⟨whole, hwhole, rfl⟩
  · cases hnone

theorem query_own {player : String} (hobserver : cursor.observer = .boundPlayer player)
    {whole : Candidate} (hwhole : source.candidates.get? (toLex (player, .player)) = some whole)
    (h : source.query host cursor anchor = .ok candidates) :
    ∃ candidate, candidates.get? (toLex (player, .player)) = some candidate ∧
      candidate.payload = whole.payload ∧ candidate.controlCritical = true := by
  simp only [ProjectionSource.query, bind_eq_ok, pure_eq_ok, hobserver] at h
  obtain ⟨near, -, rfl⟩ := h
  refine ⟨{ whole with controlCritical := true }, (OrdMap.get?_ofList ?_).mpr
    (List.mem_filterMap.mpr ⟨toLex (player, .player), ?_, ?_⟩), rfl, rfl⟩
  · intro p hp q hq hkey
    obtain ⟨a, -, ha⟩ := List.mem_filterMap.mp hp
    obtain ⟨b, -, hb⟩ := List.mem_filterMap.mp hq
    obtain ⟨c, hc, rfl⟩ := Option.map_eq_some_iff.mp ha
    obtain ⟨d, hd, rfl⟩ := Option.map_eq_some_iff.mp hb
    obtain rfl : a = b := hkey
    rw [hc] at hd
    rw [Option.some.inj hd]
  · exact List.mem_append_right _ List.mem_cons_self
  · rw [hwhole, Option.map_some, decide_eq_true List.mem_cons_self]

end Query

end Verse.Interest
