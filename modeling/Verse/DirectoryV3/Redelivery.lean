import Verse.DirectoryV3.Immovable

/-!
# An authority call delivered twice

A worker that never heard whether its claim, recovery or release was committed makes the call
again. No call carries an identifier: the directory recognises the second delivery by the
assignment that the first would have left, and then looks through its documents for the
assignment that was there just before.

Two things about a history carry this. An assignment only ever rises in `authorityRank`, so the
first document with a generation is the one that the transition to it appended, and no earlier
one can be taken for it. And what a search has found in a history it finds again in any
continuation of it, so that other commits in between do not matter.

One call is not recognised. The first claim of a cell that was never assigned expects
generation zero, and the fence of generation zero is looked up in a history that begins with
the fence of generation one.
-/

namespace Verse.DirectoryV3

open Lib Directory

variable {codec : DirectoryCodec} {genesis document next : CellDirectoryDocumentV3}
  {history result last : DirectoryHistory} {op : DirectoryV3Op} {cellKey : CellKeyV1}
  {cellId holderId holderId' : String} {generation generation' : Nat}
  {transition transition' : CellAuthorityTransitionV3} {a a' p : CellAssignmentRecord}

/-! ## Assignments only rise -/

/-- A cell that sleeps is past the holder of its generation and before the next. -/
def authorityRank (assignment : CellAssignmentRecord) : Nat :=
  2 * assignment.assignmentGeneration + if assignment.state = .assigned then 0 else 1

theorem Reassigns.rank_lt (h : Reassigns op a a') : authorityRank a < authorityRank a' := by
  cases h with
  | claimed asleep =>
    simp only [authorityRank, CellAssignmentRecord.claimedBy, asleep]
    simp only [reduceCtorEq, if_true, if_false]
    omega
  | recovered held =>
    simp only [authorityRank, CellAssignmentRecord.claimedBy, held, if_true]
    omega
  | released held =>
    simp only [authorityRank, held, reduceCtorEq, if_true, if_false]
    omega

/-- What two documents of a history, the earlier first, have to do with each other. -/
structure AuthorityRises (before after : CellDirectoryDocumentV3) : Prop where
  cells : ∀ cellId,
    (after.assignments.get? cellId).isSome = (before.assignments.get? cellId).isSome
  ranks : ∀ cellId a a', before.assignments.get? cellId = some a →
    after.assignments.get? cellId = some a' → a' = a ∨ authorityRank a < authorityRank a'

theorem AuthorityRises.of_eq (h : next.assignments = document.assignments) :
    AuthorityRises document next where
  cells cellId := by rw [h]
  ranks cellId a a' ha ha' := by
    rw [h, ha] at ha'
    exact .inl (Option.some.inj ha').symm

theorem AuthorityRises.found {before after} (h : AuthorityRises before after)
    (ha' : after.assignments.get? cellId = some a') :
    ∃ a, before.assignments.get? cellId = some a := by
  have hcells := h.cells cellId
  rw [ha', Option.isSome_some] at hcells
  exact Option.isSome_iff_exists.mp hcells.symm

theorem AuthorityRises.trans {x y z} (hxy : AuthorityRises x y) (hyz : AuthorityRises y z) :
    AuthorityRises x z where
  cells cellId := (hyz.cells cellId).trans (hxy.cells cellId)
  ranks cellId a c ha hc := by
    obtain ⟨b, hb⟩ := hyz.found hc
    rcases hxy.ranks cellId a b ha hb with rfl | hab
    · exact hyz.ranks cellId b c hb hc
    · rcases hyz.ranks cellId b c hb hc with rfl | hbc
      · exact .inr hab
      · exact .inr (hab.trans hbc)

theorem Effect.authorityRises (h : Effect codec document op next) :
    AuthorityRises document next := by
  cases h with
  | prepared fresh | advanced found advances staged => exact .of_eq rfl
  | @reassigned _ cellId assignment assignment' found reassigns =>
    refine ⟨fun other => ?_, fun other a a' ha ha' => ?_⟩
    · show ((document.assignments.insert cellId assignment').get? other).isSome = _
      rw [OrdMap.get?_insert]
      split_ifs with hother
      · rw [hother, found]
        rfl
      · rfl
    · change (document.assignments.insert cellId assignment').get? other = some a' at ha'
      rw [OrdMap.get?_insert] at ha'
      split_ifs at ha' with hother
      · obtain rfl := Option.some.inj ha'
        rw [hother, found] at ha
        obtain rfl := Option.some.inj ha
        exact .inr reassigns.rank_lt
      · rw [ha] at ha'
        exact .inl (Option.some.inj ha').symm

/-- What is kept along a run. -/
structure Dated (codec : DirectoryCodec) (history : DirectoryHistory) : Prop where
  valid : history.current.Valid codec
  rising : history.documents.Pairwise AuthorityRises

theorem IsGenesis.dated (h : IsGenesis codec genesis) : Dated codec (genesisHistory genesis) where
  valid := validate_eq_ok.mp h.valid
  rising := List.pairwise_singleton _ _

variable (h : Dated codec history)

include h

theorem Dated.before (hmem : document ∈ history.documents) :
    document = history.current ∨ AuthorityRises document history.current := by
  have hrising := h.rising
  rw [DirectoryHistory.documents, List.pairwise_append] at hrising
  rcases List.mem_append.mp hmem with hearlier | hcurrent
  · exact .inr (hrising.2.2 document hearlier _ List.mem_cons_self)
  · exact .inl (List.mem_singleton.mp hcurrent)

theorem Dated.append (hvalid : next.Valid codec)
    (hrises : AuthorityRises history.current next) :
    Dated codec { earlier := history.documents, current := next } where
  valid := hvalid
  rising := by
    refine List.pairwise_append.mpr ⟨h.rising, List.pairwise_singleton _ _, ?_⟩
    intro document hmem d hd
    obtain rfl := List.mem_singleton.mp hd
    rcases h.before hmem with rfl | hbefore
    · exact hrises
    · exact hbefore.trans hrises

theorem Dated.step (hstep : history.step codec op = .ok result) :
    Dated codec result := by
  cases step_cases h.valid hstep with
  | unchanged => exact h
  | appended effect valid => exact h.append valid effect.authorityRises

theorem Dated.run {ops} (hrun : run codec history ops = .ok result) : Dated codec result :=
  preserved_of_run (fun hdated hstep => Dated.step hdated hstep) h hrun

theorem documents_of_run {ops} (hrun : run codec history ops = .ok result) :
    history.documents <+: result.documents :=
  relates_of_step (P := Dated codec) (R := fun x y => x.documents <+: y.documents)
    (fun hdated hstep => Dated.step hdated hstep)
    (fun hdated hstep => by
      cases step_cases hdated.valid hstep with
      | unchanged => exact List.prefix_rfl
      | appended effect valid => exact List.prefix_append _ _)
    (fun _ => List.prefix_rfl) (fun hab hbc => hab.trans hbc) h hrun

theorem Dated.rank_le
    (ha : history.current.assignments.get? cellId = some a) (hmem : document ∈ history.documents) :
    ∃ b, document.assignments.get? cellId = some b ∧ authorityRank b ≤ authorityRank a := by
  rcases h.before hmem with rfl | hbefore
  · exact ⟨a, ha, Nat.le_refl _⟩
  · obtain ⟨b, hb⟩ := hbefore.found ha
    refine ⟨b, hb, ?_⟩
    rcases hbefore.ranks cellId b a hb ha with rfl | hlt
    · exact Nat.le_refl _
    · exact Nat.le_of_lt hlt

omit h

/-! ## Searching a history -/

variable {expected resulting : Nat} {prior : Option CellAssignmentRecord}
  {documents more : List CellDirectoryDocumentV3}

theorem authorityTransitionPredecessor_append
    (h : authorityTransitionPredecessor cellId expected resulting prior documents = .ok (some p)) :
    authorityTransitionPredecessor cellId expected resulting prior (documents ++ more)
      = .ok (some p) := by
  induction documents generalizing prior with
  | nil => cases h
  | cons document rest ih =>
    simp only [List.cons_append, authorityTransitionPredecessor, bind_eq_ok, demand_eq_ok] at h ⊢
    obtain ⟨assignment, hget, h⟩ := h
    refine ⟨assignment, hget, ?_⟩
    split_ifs at h ⊢ with hfirst hpast
    · exact h
    · cases h
    · exact ih h

theorem releaseTransitionPredecessor_append
    (h : releaseTransitionPredecessor cellId generation prior documents = .ok (some p)) :
    releaseTransitionPredecessor cellId generation prior (documents ++ more) = .ok (some p) := by
  induction documents generalizing prior with
  | nil => cases h
  | cons document rest ih =>
    simp only [List.cons_append, releaseTransitionPredecessor, bind_eq_ok, demand_eq_ok] at h ⊢
    obtain ⟨assignment, hget, h⟩ := h
    refine ⟨assignment, hget, ?_⟩
    split_ifs at h ⊢ with hfirst hpast
    · exact h
    · cases h
    · exact ih h

theorem authorityTransitionPredecessor_last
    (hbefore : ∀ d ∈ documents, ∃ b, d.assignments.get? cellId = some b
      ∧ b.assignmentGeneration < resulting)
    (hp : document.assignments.get? cellId = some p) (hlt : p.assignmentGeneration < resulting)
    (hexpected : p.assignmentGeneration = expected)
    (ha : next.assignments.get? cellId = some a) (hresulting : a.assignmentGeneration = resulting) :
    authorityTransitionPredecessor cellId expected resulting prior (documents ++ [document, next])
      = .ok (some p) := by
  induction documents generalizing prior with
  | nil =>
    have hne : p.assignmentGeneration ≠ resulting := Nat.ne_of_lt hlt
    simp only [List.nil_append, authorityTransitionPredecessor, bind_eq_ok, demand_eq_ok]
    refine ⟨p, hp, ?_⟩
    rw [if_neg hne, if_neg (Nat.lt_asymm hlt)]
    simp only [bind_eq_ok, demand_eq_ok]
    refine ⟨a, ha, ?_⟩
    rw [if_pos hresulting, Option.filter_some, hexpected]
    simp [pure, Except.pure]
  | cons d rest ih =>
    obtain ⟨⟨b, hb, hblt⟩, hrest⟩ := List.forall_mem_cons.mp hbefore
    simp only [List.cons_append, authorityTransitionPredecessor, bind_eq_ok, demand_eq_ok]
    refine ⟨b, hb, ?_⟩
    rw [if_neg (Nat.ne_of_lt hblt), if_neg (Nat.lt_asymm hblt)]
    exact ih hrest

/-- The first sleeping document of the generation is found, and the one before it. -/
theorem releaseTransitionPredecessor_last
    (hbefore : ∀ d ∈ documents, ∃ b, d.assignments.get? cellId = some b
      ∧ b.assignmentGeneration ≤ generation
      ∧ ¬ (b.assignmentGeneration = generation ∧ b.state = .sleeping))
    (hp : document.assignments.get? cellId = some p) (hheld : p.state = .assigned)
    (hgeneration : p.assignmentGeneration = generation)
    (ha : next.assignments.get? cellId = some a) (hasleep : a.state = .sleeping)
    (hsame : a.assignmentGeneration = generation) :
    releaseTransitionPredecessor cellId generation prior (documents ++ [document, next])
      = .ok (some p) := by
  induction documents generalizing prior with
  | nil =>
    simp only [List.nil_append, releaseTransitionPredecessor, bind_eq_ok, demand_eq_ok]
    refine ⟨p, hp, ?_⟩
    rw [if_neg (by simp [hheld]), if_neg (by omega)]
    simp only [bind_eq_ok, demand_eq_ok]
    refine ⟨a, ha, ?_⟩
    rw [if_pos ⟨hsame, hasleep, p, rfl, hgeneration, hheld⟩]
    rfl
  | cons d rest ih =>
    obtain ⟨⟨b, hb, hle, hnone⟩, hrest⟩ := List.forall_mem_cons.mp hbefore
    simp only [List.cons_append, releaseTransitionPredecessor, bind_eq_ok, demand_eq_ok]
    refine ⟨b, hb, ?_⟩
    rw [if_neg (fun h => hnone ⟨h.1, h.2.1⟩), if_neg (by omega)]
    exact ih hrest

/-! ## Fences -/

theorem CellDirectoryDocumentV3.Valid.fenceHistory (h : document.Valid codec)
    (ha : document.assignments.get? cellId = some a) :
    CellDirectoryDocumentV3.validateFenceHistory cellId a = .ok () := by
  have hok := h.validateAssignment ha
  simp only [CellDirectoryDocumentV3.validateAssignment, bind_eq_ok] at hok
  obtain ⟨-, -, -, -, hok⟩ := hok
  cases hstate : a.state <;> simp only [hstate, bind_eq_ok, reduceCtorEq, false_and,
    exists_const] at hok
  case sleeping => exact hok.choose_spec.2
  case assigned => exact hok.choose_spec.2

theorem CellDirectoryDocumentV3.Valid.fence (h : document.Valid codec)
    (ha : document.assignments.get? cellId = some a) (hpos : 1 ≤ generation)
    (hle : generation ≤ a.assignmentGeneration) :
    ∃ fence, a.fencingHistory.get? generation = some fence := by
  have hok := h.fenceHistory ha
  simp only [CellDirectoryDocumentV3.validateFenceHistory, bind_eq_ok] at hok
  obtain ⟨-, -, hok⟩ := hok
  have hmem : generation ∈ List.range' 1 a.assignmentGeneration := by
    rw [List.mem_range'_1]
    omega
  obtain ⟨before, after, hsplit⟩ := List.append_of_mem hmem
  have hone := checkEach_eq_ok_iff_split.mp hok before generation after hsplit
  simp only [bind_eq_ok, demand_eq_ok] at hone
  obtain ⟨fence, hfence, -⟩ := hone
  exact ⟨fence, hfence⟩

theorem CellDirectoryDocumentV3.Valid.no_fence_zero (h : document.Valid codec)
    (ha : document.assignments.get? cellId = some a) : a.fencingHistory.get? 0 = none := by
  by_contra hzero
  obtain ⟨fence, hfence⟩ := Option.ne_none_iff_exists'.mp hzero
  have hok := h.fenceHistory ha
  simp only [CellDirectoryDocumentV3.validateFenceHistory, bind_eq_ok, rejectIf_eq_ok, not_or,
    not_not] at hok
  obtain ⟨-, ⟨hsize, -⟩, -⟩ := hok
  have hsubset : 0 :: List.range' 1 a.assignmentGeneration ⊆ a.fencingHistory.keys := by
    intro g hg
    rw [OrdMap.mem_keys]
    rcases List.mem_cons.mp hg with rfl | hg
    · exact ⟨fence, hfence⟩
    · rw [List.mem_range'_1] at hg
      exact h.fence ha (by omega) (by omega)
  have hnodup : (0 :: List.range' 1 a.assignmentGeneration).Nodup := by
    refine List.nodup_cons.mpr ⟨?_, List.nodup_range'⟩
    rw [List.mem_range'_1]
    omega
  have hlength := (hnodup.subperm hsubset).length_le
  have hkeys : a.fencingHistory.keys.length = a.assignmentGeneration := by
    rw [← hsize, OrdMap.keys, List.length_map]
    rfl
  rw [hkeys, List.length_cons, List.length_range'] at hlength
  omega

theorem CellDirectoryDocumentV3.Valid.current_fence (h : document.Valid codec)
    (ha : document.assignments.get? cellId = some a) (hpos : 1 ≤ a.assignmentGeneration) :
    a.fencingHistory.get? a.assignmentGeneration = some a.authorityFencingToken := by
  obtain ⟨fence, hfence⟩ := h.fence ha hpos (Nat.le_refl _)
  have hok := h.fenceHistory ha
  simp only [CellDirectoryDocumentV3.validateFenceHistory, bind_eq_ok, rejectIf_eq_ok, not_or,
    not_not] at hok
  obtain ⟨-, ⟨-, hcurrent⟩, -⟩ := hok
  rw [hfence, Option.getD_some] at hcurrent
  rw [hfence, hcurrent]

/-! ## What a call finds -/

/-- The guard that takes a transition for one already made. -/
def Made (a : CellAssignmentRecord) (generation : Nat) (holderId : String) : Prop :=
  a.state = .assigned
    ∧ a.assignmentGeneration = generation + 1
    ∧ a.holderId = some holderId
    ∧ (a.fencingHistory.get? generation).bind (checkedAdd · 1) = some a.authorityFencingToken

theorem checkedAdd_eq_some {x y z : Nat} : checkedAdd x y = some z ↔ x + y ≤ u64Max ∧ x + y = z := by
  unfold checkedAdd
  split_ifs with hle
  · simp [hle]
  · simp [hle]

/-- An accepted transition was made before, or is made now. -/
inductive TransitionCases (codec : DirectoryCodec) (history : DirectoryHistory) (cellId : String)
    (generation : Nat) (holderId : String) (transition : CellAuthorityTransitionV3)
    (a : CellAssignmentRecord) : DirectoryHistory → CellAssignmentRecord → Prop where
  | again {p : CellAssignmentRecord} (made : Made a generation holderId)
      (found : authorityTransitionPredecessor cellId generation (generation + 1) none
        history.documents = .ok (some p))
      (state : p.state = transition.expectedPredecessorState) :
      TransitionCases codec history cellId generation holderId transition a history a
  | first {next : CellDirectoryDocumentV3} {result : DirectoryHistory}
      (current : a.assignmentGeneration = generation)
      (state : a.state = transition.expectedPredecessorState)
      (room : a.authorityFencingToken + 1 ≤ u64Max)
      (finished : finishV3Transaction codec history.current
        { history.current with
          assignments := history.current.assignments.insert a.cellId
            (CellAssignmentRecord.claimedBy a holderId) } = .ok next)
      (advanced : history.advance codec next = .ok result) :
      TransitionCases codec history cellId generation holderId transition a result
        (CellAssignmentRecord.claimedBy a holderId)

theorem transitionCellAuthority_eq_ok
    (h : transitionCellAuthority codec history cellKey generation holderId transition
      = .ok (result, a')) :
    validateStableIdV3 holderId "assignment holder" = .ok ()
      ∧ generation + 1 ≤ u64Max
      ∧ ∃ cellId a, cellIdOfV3 codec cellKey = .ok cellId
        ∧ history.current.assignments.get? cellId = some a
        ∧ TransitionCases codec history cellId generation holderId transition a result a' := by
  simp only [transitionCellAuthority, bind_eq_ok, demand_eq_ok] at h
  obtain ⟨⟨⟩, hholder, cellId, hcell, a, ha, resulting, hresulting, h⟩ := h
  obtain ⟨hroom, rfl⟩ := checkedAdd_eq_some.mp hresulting
  refine ⟨hholder, hroom, cellId, a, hcell, ha, ?_⟩
  split_ifs at h with hmade
  · simp only [bind_eq_ok] at h
    obtain ⟨found, hfound, h⟩ := h
    split_ifs at h with hstate
    simp only [pure_eq_ok, Prod.mk.injEq] at h
    obtain ⟨rfl, rfl⟩ := h
    obtain ⟨p, rfl, hp⟩ := Option.map_eq_some_iff.mp hstate
    exact .again hmade hfound hp
  · simp only [bind_eq_ok, rejectIf_eq_ok, not_or, not_not, pure_eq_ok, Prod.mk.injEq] at h
    obtain ⟨-, ⟨hcurrent, hstate, -⟩, -, hfence, next, hnext, advanced, hadvanced, rfl, rfl⟩ := h
    obtain ⟨fence, hfence⟩ := Option.ne_none_iff_exists'.mp hfence
    exact .first hcurrent hstate (checkedAdd_eq_some.mp hfence).1 hnext hadvanced

/-- An accepted release was made before, or is made now. -/
inductive ReleaseCases (codec : DirectoryCodec) (history : DirectoryHistory) (cellId : String)
    (generation : Nat) (holderId : String) (a : CellAssignmentRecord) :
    DirectoryHistory → CellAssignmentRecord → Prop where
  | again {p : CellAssignmentRecord} (asleep : a.state = .sleeping)
      (current : a.assignmentGeneration = generation)
      (found : releaseTransitionPredecessor cellId generation none history.documents = .ok (some p))
      (holder : p.holderId = some holderId) :
      ReleaseCases codec history cellId generation holderId a history a
  | first {next : CellDirectoryDocumentV3} {result : DirectoryHistory}
      (held : a.state = .assigned) (current : a.assignmentGeneration = generation)
      (holder : a.holderId = some holderId)
      (finished : finishV3Transaction codec history.current
        { history.current with
          assignments := history.current.assignments.insert a.cellId
            { a with state := .sleeping, holderId := none } } = .ok next)
      (advanced : history.advance codec next = .ok result) :
      ReleaseCases codec history cellId generation holderId a result
        { a with state := .sleeping, holderId := none }

theorem releaseCell_eq_ok
    (h : releaseCell codec history cellKey generation holderId = .ok (result, a')) :
    validateStableIdV3 holderId "assignment holder" = .ok ()
      ∧ ∃ cellId a, cellIdOfV3 codec cellKey = .ok cellId
        ∧ history.current.assignments.get? cellId = some a
        ∧ ReleaseCases codec history cellId generation holderId a result a' := by
  simp only [releaseCell, bind_eq_ok, demand_eq_ok] at h
  obtain ⟨⟨⟩, hholder, cellId, hcell, a, ha, h⟩ := h
  refine ⟨hholder, cellId, a, hcell, ha, ?_⟩
  split_ifs at h with hreleased
  · obtain ⟨hasleep, hcurrent, -⟩ := hreleased
    simp only [bind_eq_ok] at h
    obtain ⟨found, hfound, h⟩ := h
    split_ifs at h with hheld
    simp only [pure_eq_ok, Prod.mk.injEq] at h
    obtain ⟨rfl, rfl⟩ := h
    obtain ⟨p, rfl, hp⟩ := Option.bind_eq_some_iff.mp hheld
    exact .again hasleep hcurrent hfound hp
  · simp only [bind_eq_ok, rejectIf_eq_ok, not_or, not_not, pure_eq_ok, Prod.mk.injEq] at h
    obtain ⟨-, ⟨hstate, hcurrent, hheld⟩, -, -, next, hnext, advanced, hadvanced, rfl, rfl⟩ := h
    exact .first hstate hcurrent hheld hnext hadvanced

theorem appended_of_finished (hvalid : history.current.Valid codec)
    (ha : history.current.assignments.get? cellId = some a) (hne : a' ≠ a)
    (hnext : finishV3Transaction codec history.current
      { history.current with
        assignments := history.current.assignments.insert a.cellId a' } = .ok next)
    (hadvance : history.advance codec next = .ok result) :
    result.documents = history.documents ++ [result.current]
      ∧ result.current.assignments.get? cellId = some a' := by
  rw [hvalid.cellId_eq ha] at hnext
  obtain ⟨-, -, rfl⟩ := finishV3Transaction_eq_ok.mp hnext
  have hget : (transacted codec history.current
      { history.current with
        assignments := history.current.assignments.insert cellId a' }).assignments.get? cellId
      = some a' := OrdMap.get?_insert_self
  rcases advance_of_valid hadvance with ⟨hsame, rfl⟩ | ⟨-, rfl⟩
  · rw [hsame, ha] at hget
    exact absurd (Option.some.inj hget).symm hne
  · exact ⟨rfl, hget⟩

/-! ## What a delivered call leaves -/

/-- A transition that the history shows, and nothing of the cell after it. -/
structure TransitionShown (history : DirectoryHistory) (cellId : String) (generation : Nat)
    (holderId : String) (transition : CellAuthorityTransitionV3) (a : CellAssignmentRecord) :
    Prop where
  current : history.current.assignments.get? cellId = some a
  held : a.state = .assigned
  successor : a.assignmentGeneration = generation + 1
  holder : a.holderId = some holderId
  fence : generation ≠ 0 →
    (a.fencingHistory.get? generation).bind (checkedAdd · 1) = some a.authorityFencingToken
  predecessor : ∃ p, authorityTransitionPredecessor cellId generation (generation + 1) none
    history.documents = .ok (some p) ∧ p.state = transition.expectedPredecessorState

theorem TransitionCases.shown (hdated : Dated codec history)
    (ha : history.current.assignments.get? cellId = some a)
    (h : TransitionCases codec history cellId generation holderId transition a result a') :
    TransitionShown result cellId generation holderId transition a' := by
  cases h with
  | again made found state =>
    exact ⟨ha, made.1, made.2.1, made.2.2.1, fun _ => made.2.2.2, _, found, state⟩
  | first current state room finished advanced =>
    subst current
    have hne : CellAssignmentRecord.claimedBy a holderId ≠ a := by
      intro heq
      have hgeneration := congrArg CellAssignmentRecord.assignmentGeneration heq
      simp only [CellAssignmentRecord.claimedBy] at hgeneration
      omega
    obtain ⟨hdocuments, hget⟩ := appended_of_finished hdated.valid ha hne finished advanced
    refine ⟨hget, rfl, rfl, rfl, fun hpos => ?_, a, ?_, state⟩
    · have hfence := hdated.valid.current_fence ha (Nat.pos_of_ne_zero hpos)
      show ((a.fencingHistory.insert (a.assignmentGeneration + 1)
        (a.authorityFencingToken + 1)).get? a.assignmentGeneration).bind (checkedAdd · 1)
          = some (a.authorityFencingToken + 1)
      rw [OrdMap.get?_insert_ne (Nat.succ_ne_self _).symm, hfence]
      exact checkedAdd_eq_some.mpr ⟨room, rfl⟩
    · rw [hdocuments, DirectoryHistory.documents, List.append_assoc]
      refine authorityTransitionPredecessor_last (fun d hd => ?_) ha (Nat.lt_succ_self _) rfl hget rfl
      obtain ⟨b, hb, hle⟩ := hdated.rank_le ha (List.mem_append_left _ hd)
      refine ⟨b, hb, ?_⟩
      simp only [authorityRank] at hle
      split_ifs at hle <;> omega

/-- A release that the history shows, and nothing of the cell after it. -/
structure ReleaseShown (history : DirectoryHistory) (cellId : String) (generation : Nat)
    (holderId : String) (a : CellAssignmentRecord) : Prop where
  current : history.current.assignments.get? cellId = some a
  asleep : a.state = .sleeping
  same : a.assignmentGeneration = generation
  predecessor : ∃ p, releaseTransitionPredecessor cellId generation none history.documents
    = .ok (some p) ∧ p.holderId = some holderId

theorem ReleaseCases.shown (hdated : Dated codec history)
    (ha : history.current.assignments.get? cellId = some a)
    (h : ReleaseCases codec history cellId generation holderId a result a') :
    ReleaseShown result cellId generation holderId a' := by
  cases h with
  | again asleep current found holder => exact ⟨ha, asleep, current, _, found, holder⟩
  | first held current holder finished advanced =>
    subst current
    have hne : { a with state := .sleeping, holderId := none } ≠ a := by
      intro heq
      have hstate := congrArg CellAssignmentRecord.state heq
      rw [held] at hstate
      cases hstate
    obtain ⟨hdocuments, hget⟩ := appended_of_finished hdated.valid ha hne finished advanced
    refine ⟨hget, rfl, rfl, a, ?_, holder⟩
    rw [hdocuments, DirectoryHistory.documents, List.append_assoc]
    refine releaseTransitionPredecessor_last (fun d hd => ?_) ha held rfl hget rfl rfl
    obtain ⟨b, hb, hle⟩ := hdated.rank_le ha (List.mem_append_left _ hd)
    refine ⟨b, hb, ?_⟩
    simp only [authorityRank, held, if_true] at hle
    split_ifs at hle with hassigned
    · exact ⟨by omega, fun h => by rw [hassigned] at h; cases h.2⟩
    · exact ⟨by omega, fun h => by omega⟩

theorem TransitionShown.later (h : TransitionShown result cellId generation holderId transition a)
    (hcontinued : result.documents <+: last.documents)
    (hcurrent : last.current.assignments.get? cellId = some a) :
    TransitionShown last cellId generation holderId transition a where
  current := hcurrent
  held := h.held
  successor := h.successor
  holder := h.holder
  fence := h.fence
  predecessor := by
    obtain ⟨p, hfound, hp⟩ := h.predecessor
    obtain ⟨more, hmore⟩ := hcontinued
    refine ⟨p, ?_, hp⟩
    rw [← hmore]
    exact authorityTransitionPredecessor_append hfound

theorem ReleaseShown.later (h : ReleaseShown result cellId generation holderId a)
    (hcontinued : result.documents <+: last.documents)
    (hcurrent : last.current.assignments.get? cellId = some a) :
    ReleaseShown last cellId generation holderId a where
  current := hcurrent
  asleep := h.asleep
  same := h.same
  predecessor := by
    obtain ⟨p, hfound, hp⟩ := h.predecessor
    obtain ⟨more, hmore⟩ := hcontinued
    refine ⟨p, ?_, hp⟩
    rw [← hmore]
    exact releaseTransitionPredecessor_append hfound

/-! ## The call again, and calls that resemble it -/

theorem TransitionShown.again (h : TransitionShown last cellId generation holderId transition a)
    (hholder : validateStableIdV3 holderId "assignment holder" = .ok ())
    (hroom : generation + 1 ≤ u64Max) (hcell : cellIdOfV3 codec cellKey = .ok cellId)
    (hpos : generation ≠ 0) :
    transitionCellAuthority codec last cellKey generation holderId transition = .ok (last, a) := by
  obtain ⟨p, hfound, hp⟩ := h.predecessor
  have hmade : Made a generation holderId := ⟨h.held, h.successor, h.holder, h.fence hpos⟩
  unfold Made at hmade
  simp only [transitionCellAuthority, bind_eq_ok, demand_eq_ok]
  refine ⟨(), hholder, cellId, hcell, a, h.current, generation + 1,
    checkedAdd_eq_some.mpr ⟨hroom, rfl⟩, ?_⟩
  rw [if_pos hmade]
  simp only [bind_eq_ok]
  refine ⟨some p, hfound, ?_⟩
  rw [if_pos (by rw [Option.map_some, hp])]
  rfl

theorem expectedPredecessorState_injective
    (h : transition.expectedPredecessorState = transition'.expectedPredecessorState) :
    transition = transition' := by
  cases transition <;> cases transition' <;> first | rfl | cases h

/-- After a transition nothing that expects an older generation is accepted but the transition
    itself, and not even that where it was the first claim of its cell. -/
theorem TransitionShown.refuses (h : TransitionShown last cellId generation holderId transition a)
    (hvalid : last.current.Valid codec) (hcell : cellIdOfV3 codec cellKey = .ok cellId)
    (hle : generation' ≤ generation)
    (hother : generation' = generation → holderId' = holderId → transition' = transition →
      generation = 0) :
    transitionCellAuthority codec last cellKey generation' holderId' transition' ≠ .ok (result, a') := by
  intro hok
  obtain ⟨-, -, cellId', a₀, hcell', ha₀, hcases⟩ := transitionCellAuthority_eq_ok hok
  obtain rfl := ok_unique hcell hcell'
  obtain rfl := Option.mem_unique h.current ha₀
  have hsuccessor := h.successor
  cases hcases with
  | again made found state =>
    obtain ⟨-, hgeneration, hholder, hfence⟩ := made
    obtain rfl : generation' = generation := by omega
    obtain rfl := Option.mem_unique h.holder hholder
    obtain ⟨p, hfound, hp⟩ := h.predecessor
    obtain rfl := Option.some.inj (ok_unique hfound found)
    have hzero := hother rfl rfl (expectedPredecessorState_injective (state.symm.trans hp))
    rw [hzero, hvalid.no_fence_zero h.current] at hfence
    cases hfence
  | first current => omega

theorem TransitionShown.refuses_release
    (h : TransitionShown last cellId generation holderId transition a)
    (hcell : cellIdOfV3 codec cellKey = .ok cellId) (hle : generation' ≤ generation) :
    releaseCell codec last cellKey generation' holderId' ≠ .ok (result, a') := by
  intro hok
  obtain ⟨-, cellId', a₀, hcell', ha₀, hcases⟩ := releaseCell_eq_ok hok
  obtain rfl := ok_unique hcell hcell'
  obtain rfl := Option.mem_unique h.current ha₀
  have hsuccessor := h.successor
  cases hcases with
  | again asleep current =>
    rw [h.held] at asleep
    cases asleep
  | first held current => omega

theorem ReleaseShown.again (h : ReleaseShown last cellId generation holderId a)
    (hvalid : last.current.Valid codec)
    (hholder : validateStableIdV3 holderId "assignment holder" = .ok ())
    (hcell : cellIdOfV3 codec cellKey = .ok cellId) :
    releaseCell codec last cellKey generation holderId = .ok (last, a) := by
  obtain ⟨p, hfound, hp⟩ := h.predecessor
  have hnone : a.holderId = none := by
    have hok := hvalid.validateAssignment h.current
    simp only [CellDirectoryDocumentV3.validateAssignment, h.asleep, bind_eq_ok,
      rejectIf_eq_ok] at hok
    obtain ⟨-, -, -, -, -, hnone, -⟩ := hok
    simpa using hnone
  simp only [releaseCell, bind_eq_ok, demand_eq_ok]
  refine ⟨(), hholder, cellId, hcell, a, h.current, ?_⟩
  rw [if_pos ⟨h.asleep, h.same, hnone⟩]
  simp only [bind_eq_ok]
  refine ⟨some p, hfound, ?_⟩
  rw [if_pos (by rw [Option.bind_some, hp])]
  rfl

theorem ReleaseShown.refuses (h : ReleaseShown last cellId generation holderId a)
    (hcell : cellIdOfV3 codec cellKey = .ok cellId)
    (hother : ¬ (generation' = generation ∧ holderId' = holderId)) :
    releaseCell codec last cellKey generation' holderId' ≠ .ok (result, a') := by
  intro hok
  obtain ⟨-, cellId', a₀, hcell', ha₀, hcases⟩ := releaseCell_eq_ok hok
  obtain rfl := ok_unique hcell hcell'
  obtain rfl := Option.mem_unique h.current ha₀
  cases hcases with
  | again asleep current found holder =>
    obtain rfl : generation' = generation := current.symm.trans h.same
    obtain ⟨p, hfound, hp⟩ := h.predecessor
    obtain rfl := Option.some.inj (ok_unique hfound found)
    exact hother ⟨rfl, Option.mem_unique holder hp⟩
  | first held current =>
    rw [h.asleep] at held
    cases held

/-- A cell that sleeps is claimed, at its generation, or nothing. -/
theorem ReleaseShown.refuses_transition (h : ReleaseShown last cellId generation holderId a)
    (hcell : cellIdOfV3 codec cellKey = .ok cellId)
    (hother : ¬ (generation' = generation ∧ transition' = .claimSleeping)) :
    transitionCellAuthority codec last cellKey generation' holderId' transition' ≠ .ok (result, a') := by
  intro hok
  obtain ⟨-, -, cellId', a₀, hcell', ha₀, hcases⟩ := transitionCellAuthority_eq_ok hok
  obtain rfl := ok_unique hcell hcell'
  obtain rfl := Option.mem_unique h.current ha₀
  cases hcases with
  | again made =>
    obtain ⟨hheld, -⟩ := made
    rw [h.asleep] at hheld
    cases hheld
  | first current state =>
    rw [h.asleep] at state
    refine hother ⟨current.symm.trans h.same, ?_⟩
    cases transition' with
    | claimSleeping => rfl
    | recoverAssigned => cases state

/-! ## The three calls -/

/-- How the holder of a cell changes. -/
inductive AuthorityCall where
  | claim
  | recover
  | release
deriving DecidableEq, Repr

variable {call : AuthorityCall}

def AuthorityCall.act (codec : DirectoryCodec) (history : DirectoryHistory) (cellKey : CellKeyV1)
    (expectedGeneration : Nat) (holderId : String) :
    AuthorityCall → Fallible (DirectoryHistory × CellAssignmentRecord)
  | .claim => claimCell codec history cellKey expectedGeneration holderId
  | .recover => recoverCell codec history cellKey expectedGeneration holderId
  | .release => releaseCell codec history cellKey expectedGeneration holderId

/-- What a call does to the assignment it is made for: which one that must be, and which one it
    leaves. -/
def AuthorityCall.Turns (expectedGeneration : Nat) (holderId : String)
    (before after : CellAssignmentRecord) : AuthorityCall → Prop
  | .claim => before.state = .sleeping ∧ before.assignmentGeneration = expectedGeneration
      ∧ after.state = .assigned ∧ after.holderId = some holderId
      ∧ after.assignmentGeneration = before.assignmentGeneration + 1
      ∧ after.authorityFencingToken = before.authorityFencingToken + 1
  | .recover => before.state = .assigned ∧ before.assignmentGeneration = expectedGeneration
      ∧ after.state = .assigned ∧ after.holderId = some holderId
      ∧ after.assignmentGeneration = before.assignmentGeneration + 1
      ∧ after.authorityFencingToken = before.authorityFencingToken + 1
  | .release => before.state = .assigned ∧ before.assignmentGeneration = expectedGeneration
      ∧ before.holderId = some holderId ∧ after.state = .sleeping ∧ after.holderId = none
      ∧ after.assignmentGeneration = before.assignmentGeneration
      ∧ after.authorityFencingToken = before.authorityFencingToken

def AuthorityCall.Shown (history : DirectoryHistory) (cellId : String) (generation : Nat)
    (holderId : String) (a : CellAssignmentRecord) : AuthorityCall → Prop
  | .claim => TransitionShown history cellId generation holderId .claimSleeping a
  | .recover => TransitionShown history cellId generation holderId .recoverAssigned a
  | .release => ReleaseShown history cellId generation holderId a

theorem AuthorityCall.dated_of_act (h : Dated codec history)
    (hact : call.act codec history cellKey generation holderId = .ok (result, a)) :
    Dated codec result := by
  have hstep : ∃ op, history.step codec op = .ok result := by
    cases call with
    | claim => exact ⟨.claim cellKey generation holderId, map_eq_ok.mpr ⟨_, hact, rfl⟩⟩
    | recover => exact ⟨.recover cellKey generation holderId, map_eq_ok.mpr ⟨_, hact, rfl⟩⟩
    | release => exact ⟨.release cellKey generation holderId, map_eq_ok.mpr ⟨_, hact, rfl⟩⟩
  obtain ⟨op, hstep⟩ := hstep
  exact h.step hstep

theorem shown_of_transition (h : Dated codec history) (hresult : Dated codec result)
    (hact : transitionCellAuthority codec history cellKey generation holderId transition
      = .ok (result, a)) :
    cellIdOfV3 codec cellKey = .ok a.cellId
      ∧ TransitionShown result a.cellId generation holderId transition a
      ∧ (result = history
        ∨ result.documents = history.documents ++ [result.current]
          ∧ ∃ before, history.current.assignments.get? a.cellId = some before
            ∧ before.state = transition.expectedPredecessorState
            ∧ before.assignmentGeneration = generation
            ∧ a.state = .assigned ∧ a.holderId = some holderId
            ∧ a.assignmentGeneration = before.assignmentGeneration + 1
            ∧ a.authorityFencingToken = before.authorityFencingToken + 1) := by
  obtain ⟨-, -, cellId, before, hcell, hbefore, hcases⟩ := transitionCellAuthority_eq_ok hact
  have hshown := hcases.shown h hbefore
  obtain rfl := hresult.valid.cellId_eq hshown.current
  refine ⟨hcell, hshown, ?_⟩
  cases hcases with
  | again => exact .inl rfl
  | first current state room finished advanced =>
    have hne : CellAssignmentRecord.claimedBy before holderId ≠ before := by
      intro heq
      have hgeneration := congrArg CellAssignmentRecord.assignmentGeneration heq
      simp only [CellAssignmentRecord.claimedBy] at hgeneration
      omega
    obtain ⟨hdocuments, -⟩ := appended_of_finished h.valid hbefore hne finished advanced
    exact .inr ⟨hdocuments, before, hbefore, state, current, rfl, rfl, rfl, rfl⟩

theorem shown_of_release (h : Dated codec history) (hresult : Dated codec result)
    (hact : releaseCell codec history cellKey generation holderId = .ok (result, a)) :
    cellIdOfV3 codec cellKey = .ok a.cellId
      ∧ ReleaseShown result a.cellId generation holderId a
      ∧ (result = history
        ∨ result.documents = history.documents ++ [result.current]
          ∧ ∃ before, history.current.assignments.get? a.cellId = some before
            ∧ AuthorityCall.Turns generation holderId before a .release) := by
  obtain ⟨-, cellId, before, hcell, hbefore, hcases⟩ := releaseCell_eq_ok hact
  have hshown := hcases.shown h hbefore
  obtain rfl := hresult.valid.cellId_eq hshown.current
  refine ⟨hcell, hshown, ?_⟩
  cases hcases with
  | again => exact .inl rfl
  | first held current holder finished advanced =>
    have hne : { before with state := .sleeping, holderId := none } ≠ before := by
      intro heq
      have hstate := congrArg CellAssignmentRecord.state heq
      rw [held] at hstate
      cases hstate
    obtain ⟨hdocuments, -⟩ := appended_of_finished h.valid hbefore hne finished advanced
    exact .inr ⟨hdocuments, before, hbefore, held, current, holder, rfl, rfl, rfl, rfl⟩

theorem AuthorityCall.shown_of_act (h : Dated codec history)
    (hact : call.act codec history cellKey generation holderId = .ok (result, a)) :
    cellIdOfV3 codec cellKey = .ok a.cellId
      ∧ call.Shown result a.cellId generation holderId a
      ∧ (result = history
        ∨ result.documents = history.documents ++ [result.current]
          ∧ ∃ before, history.current.assignments.get? a.cellId = some before
            ∧ call.Turns generation holderId before a) := by
  have hresult : Dated codec result := AuthorityCall.dated_of_act h hact
  cases call with
  | claim | recover => exact shown_of_transition h hresult hact
  | release => exact shown_of_release h hresult hact

theorem AuthorityCall.Shown.later (h : call.Shown result cellId generation holderId a)
    (hcontinued : result.documents <+: last.documents)
    (hcurrent : last.current.assignments.get? cellId = some a) :
    call.Shown last cellId generation holderId a := by
  cases call with
  | claim | recover => exact TransitionShown.later h hcontinued hcurrent
  | release => exact ReleaseShown.later h hcontinued hcurrent

/-- No cell is held at generation zero, so none is recovered from there. -/
theorem pos_of_recovered (h : Dated codec history)
    (hact : recoverCell codec history cellKey generation holderId = .ok (result, a)) :
    generation ≠ 0 := by
  rintro rfl
  obtain ⟨-, -, cellId, before, -, hbefore, hcases⟩ := transitionCellAuthority_eq_ok hact
  cases hcases with
  | again made =>
    obtain ⟨-, -, -, hfence⟩ := made
    rw [h.valid.no_fence_zero hbefore] at hfence
    cases hfence
  | first current state =>
    have hok := h.valid.validateAssignment hbefore
    have hheld : before.state = .assigned := state
    simp only [CellDirectoryDocumentV3.validateAssignment, hheld, bind_eq_ok, rejectIf_eq_ok,
      not_or] at hok
    obtain ⟨-, -, -, -, -, ⟨hgeneration, -⟩, -⟩ := hok
    exact hgeneration current

theorem exists_error_of_ne_ok {ε α : Type} {x : Except ε α} (h : ∀ y, x ≠ .ok y) :
    ∃ reason, x = .error reason := by
  cases x with
  | ok y => exact absurd rfl (h y)
  | error reason => exact ⟨reason, rfl⟩

/-- In every life of a directory, and for as long as a cell is left as an accepted call returned
    it: the call made again returns the same assignment and appends nothing, exactly where it is
    not the claim of a cell that was never assigned; any other call that expects that generation
    or an older one is refused, unless it is the next claim of the cell just released; and the
    call itself appended nothing, or one document in which generation and fence are one higher
    after a claim or a recovery and the same after a release. -/
theorem redelivered_iff (hgenesis : IsGenesis codec genesis) {ops later : List DirectoryV3Op}
    (hrun : run codec (genesisHistory genesis) ops = .ok history)
    (hact : call.act codec history cellKey generation holderId = .ok (result, a))
    (hlater : run codec result later = .ok last)
    (hcurrent : last.current.assignments.get? a.cellId = some a) :
    (call.act codec last cellKey generation holderId = .ok (last, a)
        ↔ ¬ (call = .claim ∧ generation = 0))
      ∧ (∀ call' generation' holderId', generation' ≤ generation →
          ¬ (call' = call ∧ generation' = generation ∧ holderId' = holderId) →
          ¬ (call = .release ∧ call' = .claim ∧ generation' = generation) →
          ∃ reason, AuthorityCall.act codec last cellKey generation' holderId' call'
            = .error reason)
      ∧ (result = history
        ∨ result.documents = history.documents ++ [result.current]
          ∧ ∃ before, history.current.assignments.get? a.cellId = some before
            ∧ call.Turns generation holderId before a) := by
  have hdated : Dated codec history := hgenesis.dated.run hrun
  have hresult : Dated codec result := AuthorityCall.dated_of_act hdated hact
  have hlast : Dated codec last := hresult.run hlater
  obtain ⟨hcell, hshown, hturned⟩ := AuthorityCall.shown_of_act hdated hact
  replace hshown := AuthorityCall.Shown.later hshown (documents_of_run hresult hlater) hcurrent
  refine ⟨?_, fun call' generation' holderId' hle hother hnext => ?_, hturned⟩
  · cases call with
    | claim =>
      obtain ⟨hholder, hroom, -⟩ := transitionCellAuthority_eq_ok hact
      constructor
      · rintro hagain ⟨-, hzero⟩
        exact TransitionShown.refuses hshown hlast.valid hcell (Nat.le_refl _)
          (fun _ _ _ => hzero) hagain
      · intro hne
        exact TransitionShown.again hshown hholder hroom hcell fun hzero => hne ⟨rfl, hzero⟩
    | recover =>
      obtain ⟨hholder, hroom, -⟩ := transitionCellAuthority_eq_ok hact
      have hpos := pos_of_recovered hdated hact
      exact iff_of_true (TransitionShown.again hshown hholder hroom hcell hpos)
        fun h => AuthorityCall.noConfusion h.1
    | release =>
      obtain ⟨hholder, -⟩ := releaseCell_eq_ok hact
      exact iff_of_true (ReleaseShown.again hshown hlast.valid hholder hcell)
        fun h => AuthorityCall.noConfusion h.1
  · refine exists_error_of_ne_ok fun y hok => ?_
    obtain ⟨result', a'⟩ := y
    cases call with
    | claim =>
      cases call' with
      | claim =>
        exact TransitionShown.refuses hshown hlast.valid hcell hle
          (fun hg hh _ => absurd ⟨rfl, hg, hh⟩ hother) hok
      | recover =>
        exact TransitionShown.refuses hshown hlast.valid hcell hle
          (fun _ _ ht => CellAuthorityTransitionV3.noConfusion ht) hok
      | release => exact TransitionShown.refuses_release hshown hcell hle hok
    | recover =>
      cases call' with
      | claim =>
        exact TransitionShown.refuses hshown hlast.valid hcell hle
          (fun _ _ ht => CellAuthorityTransitionV3.noConfusion ht) hok
      | recover =>
        exact TransitionShown.refuses hshown hlast.valid hcell hle
          (fun hg hh _ => absurd ⟨rfl, hg, hh⟩ hother) hok
      | release => exact TransitionShown.refuses_release hshown hcell hle hok
    | release =>
      cases call' with
      | claim =>
        exact ReleaseShown.refuses_transition hshown hcell
          (fun h => hnext ⟨rfl, rfl, h.1⟩) hok
      | recover =>
        exact ReleaseShown.refuses_transition hshown hcell
          (fun h => CellAuthorityTransitionV3.noConfusion h.2) hok
      | release =>
        exact ReleaseShown.refuses hshown hcell (fun h => hother ⟨rfl, h.1, h.2⟩) hok

/-! The second proof cell, which nobody ever held. -/

def neverHeld : CellDirectoryDocumentV3 :=
  { proofGenesis with
    assignments := OrdMap.ofList
      [ heldCell false "holder-1", ((proofCell true).2,
          { cellKey := (proofCell true).1
            cellId := (proofCell true).2
            assignmentGeneration := 0
            authorityFencingToken := 0
            fencingHistory := OrdMap.empty
            state := .sleeping
            holderId := none }) ] }

/-- A claim, and the same claim again. -/
def claimedTwice : Fallible ((DirectoryHistory × CellAssignmentRecord)
    × Fallible (DirectoryHistory × CellAssignmentRecord)) := do
  let first ← claimCell proofCodec (genesisHistory neverHeld) (proofCell true).1 0 "worker-1"
  return (first, claimCell proofCodec first.1 (proofCell true).1 0 "worker-1")

/-- The first claim is accepted, and refused when it is delivered again. -/
theorem not_redelivered_neverHeld :
    IsGenesis proofCodec neverHeld
      ∧ ∃ result a, AuthorityCall.act proofCodec (genesisHistory neverHeld) (proofCell true).1 0
            "worker-1" .claim = .ok (result, a)
        ∧ result.current.assignments.get? a.cellId = some a
        ∧ AuthorityCall.act proofCodec result (proofCell true).1 0 "worker-1" .claim
          = .error (.assignmentConflict (proofCell true).2
            "expected the current sleeping generation without a holder") := by
  have hgenesis : IsGenesis proofCodec neverHeld := ⟨by decide +kernel, by decide +kernel⟩
  have hevaluated : claimedTwice.toOption.any (fun r =>
      r.1.1.current.assignments.get? r.1.2.cellId = some r.1.2
        && (match r.2 with
          | .error e => e = .assignmentConflict (proofCell true).2
              "expected the current sleeping generation without a holder"
          | .ok _ => false)) = true := by decide +kernel
  obtain ⟨⟨⟨result, a⟩, second⟩, hrun, hchecked⟩ := exists_ok_of_any hevaluated
  simp only [claimedTwice, bind_eq_ok, pure_eq_ok, Prod.mk.injEq] at hrun
  obtain ⟨first, hfirst, rfl, rfl⟩ := hrun
  simp only [Bool.and_eq_true, decide_eq_true_eq] at hchecked
  obtain ⟨hcurrent, hsecond⟩ := hchecked
  refine ⟨hgenesis, result, a, hfirst, hcurrent, ?_⟩
  show claimCell proofCodec result (proofCell true).1 0 "worker-1" = _
  split at hsecond
  · rename_i hrefused
    rw [hrefused, of_decide_eq_true hsecond]
  · cases hsecond

/-- A recovery that is delivered again after the other cell was recovered too. -/
def recoveredBoth : Fallible ((DirectoryHistory × CellAssignmentRecord) × DirectoryHistory) := do
  let first ← recoverCell proofCodec (genesisHistory proofGenesis) (proofCell false).1 1 "worker-1"
  let last ← run proofCodec first.1 [.recover (proofCell true).1 1 "worker-2"]
  return (first, last)

/-- The other cell is recovered in between, and the first recovery is made again. -/
theorem redelivered_iff_recovered :
    ∃ result a last, AuthorityCall.act proofCodec (genesisHistory proofGenesis)
          (proofCell false).1 1 "worker-1" .recover = .ok (result, a)
      ∧ last ≠ result
      ∧ AuthorityCall.act proofCodec last (proofCell false).1 1 "worker-1" .recover
        = .ok (last, a) := by
  have hevaluated : recoveredBoth.toOption.any (fun r =>
      r.2.current.assignments.get? r.1.2.cellId = some r.1.2 && r.2 ≠ r.1.1) = true := by
    decide +kernel
  obtain ⟨⟨⟨result, a⟩, last⟩, hrun, hchecked⟩ := exists_ok_of_any hevaluated
  simp only [recoveredBoth, bind_eq_ok, pure_eq_ok, Prod.mk.injEq] at hrun
  obtain ⟨first, hfirst, last', hlast, rfl, rfl⟩ := hrun
  simp only [Bool.and_eq_true, decide_eq_true_eq] at hchecked
  obtain ⟨hcurrent, hne⟩ := hchecked
  have hstart : run proofCodec (genesisHistory proofGenesis) [] = .ok (genesisHistory proofGenesis) :=
    rfl
  have hact : AuthorityCall.act proofCodec (genesisHistory proofGenesis) (proofCell false).1 1
      "worker-1" .recover = .ok (result, a) := hfirst
  refine ⟨result, a, last', hact, hne, ?_⟩
  exact (redelivered_iff proofGenesis_isGenesis hstart hact hlast hcurrent).1.mpr
    fun h => AuthorityCall.noConfusion h.1

end Verse.DirectoryV3
