import Verse.DirectoryV3.Immovable
import Verse.LifecycleV2.Cell

/-!
# One cell in the directory

What the lifecycle needs of the directory is one assignment, at the tip and back in the history.
`tipStep_of_step` says what an accepted operation does to it: nothing, or what an authority
transition that names the cell makes of it. A document that has been committed stays where it
is, so an assignment that was read once is read again by its revision and hash.
-/

namespace Verse.LifecycleV2

open Lib Directory DirectoryV3

variable {codec : DirectoryCodec} {history result : DirectoryHistory} {op : DirectoryV3Op}
  {cellId : String} {assignment assignment' : CellAssignmentRecord}

/-! ## Authority transitions, read backwards -/

/-- What an authority transition that names the cell makes of its assignment. -/
inductive Reassigned (codec : DirectoryCodec) (cellId : String) :
    DirectoryV3Op → CellAssignmentRecord → CellAssignmentRecord → Prop where
  | claimed {cellKey holderId assignment} (named : codec.sky.cellId cellKey = some cellId)
      (stable : validStableId holderId = true) (asleep : assignment.state = .sleeping)
      (room : assignment.assignmentGeneration + 1 ≤ u64Max)
      (fenceRoom : assignment.authorityFencingToken + 1 ≤ u64Max) :
      Reassigned codec cellId (.claim cellKey assignment.assignmentGeneration holderId) assignment
        (CellAssignmentRecord.claimedBy assignment holderId)
  | recovered {cellKey holderId assignment} (named : codec.sky.cellId cellKey = some cellId)
      (stable : validStableId holderId = true) (held : assignment.state = .assigned)
      (room : assignment.assignmentGeneration + 1 ≤ u64Max)
      (fenceRoom : assignment.authorityFencingToken + 1 ≤ u64Max) :
      Reassigned codec cellId (.recover cellKey assignment.assignmentGeneration holderId)
        assignment (CellAssignmentRecord.claimedBy assignment holderId)
  | released {cellKey holderId assignment} (named : codec.sky.cellId cellKey = some cellId)
      (held : assignment.state = .assigned) (holder : assignment.holderId = some holderId) :
      Reassigned codec cellId (.release cellKey assignment.assignmentGeneration holderId)
        assignment { assignment with state := .sleeping, holderId := none }

/-- What an accepted operation does to the tip and to the assignment it has for a cell. -/
inductive TipStep (codec : DirectoryCodec) (history : DirectoryHistory) (cellId : String)
    (assignment : CellAssignmentRecord) (op : DirectoryV3Op) : DirectoryHistory → Prop where
  | unchanged : TipStep codec history cellId assignment op history
  | appended {next assignment'} (valid : next.Valid codec)
      (revision : next.directoryRevision = history.current.directoryRevision + 1)
      (universeId : next.universeId = history.current.universeId)
      (manifestHash : next.universeManifestHash = history.current.universeManifestHash)
      (found : next.assignments.get? cellId = some assignment')
      (reassigned : assignment' = assignment
        ∨ Reassigned codec cellId op assignment assignment') :
      TipStep codec history cellId assignment op
        { earlier := history.documents, current := next }

variable {next : CellDirectoryDocumentV3}

/-- One assignment is replaced: the cell's own, or another's. -/
theorem tipStep_of_insert {namedId : String} {named named'} (hvalid : history.current.Valid codec)
    (hget : history.current.assignments.get? cellId = some assignment)
    (hnamed : history.current.assignments.get? namedId = some named)
    (hreassigned : namedId = cellId → Reassigned codec cellId op named named')
    (hnext : finishV3Transaction codec history.current
      { history.current with
        assignments := history.current.assignments.insert named.cellId named' } = .ok next)
    (hadvance : history.advance codec next = .ok result) :
    TipStep codec history cellId assignment op result := by
  rw [hvalid.cellId_eq hnamed] at hnext
  obtain ⟨-, hok, rfl⟩ := finishV3Transaction_eq_ok.mp hnext
  rcases advance_of_valid hadvance with ⟨-, rfl⟩ | ⟨-, rfl⟩
  · exact .unchanged
  · by_cases hid : namedId = cellId
    · subst hid
      obtain rfl := Option.mem_unique hget hnamed
      exact .appended hok rfl rfl rfl OrdMap.get?_insert_self (.inr (hreassigned rfl))
    · exact .appended hok rfl rfl rfl
        ((OrdMap.get?_insert_ne (Ne.symm hid)).trans hget) (.inl rfl)

variable {cellKey : CellKeyV1}

variable {id : String}

theorem cellIdOfV3_eq_ok :
    cellIdOfV3 codec cellKey = .ok id ↔ codec.sky.cellId cellKey = some id := by
  simp [cellIdOfV3]

variable {generation : Nat} {holderId : String} {done : DirectoryHistory × CellAssignmentRecord}

theorem tipStep_of_transition
    {transition : CellAuthorityTransitionV3}
    (hvalid : history.current.Valid codec)
    (hget : history.current.assignments.get? cellId = some assignment)
    (hreassigned : ∀ named, codec.sky.cellId cellKey = some cellId →
      validStableId holderId = true → named.state = transition.expectedPredecessorState →
      named.assignmentGeneration = generation → generation + 1 ≤ u64Max →
      named.authorityFencingToken + 1 ≤ u64Max →
        Reassigned codec cellId op named (CellAssignmentRecord.claimedBy named holderId))
    (h : transitionCellAuthority codec history cellKey generation holderId transition = .ok done) :
    TipStep codec history cellId assignment op done.1 := by
  simp only [transitionCellAuthority, validateStableIdV3, bind_eq_ok, demand_eq_ok,
    rejectIf_eq_ok, not_not, cellIdOfV3_eq_ok, checkedAdd_eq_some] at h
  obtain ⟨-, hstable, namedId, hnamedId, named, hnamed, resulting, ⟨hroom, -⟩, h⟩ := h
  split_ifs at h with hdelivered
  · simp only [bind_eq_ok] at h
    obtain ⟨predecessor, -, h⟩ := h
    split_ifs at h with hstate
    obtain rfl := Except.ok.inj h
    exact .unchanged
  · simp only [bind_eq_ok, rejectIf_eq_ok, not_or, not_not] at h
    obtain ⟨-, ⟨hgeneration, hstate, -⟩, -, hfence, next, hnext, advanced, hadvanced, h⟩ := h
    obtain rfl := Except.ok.inj h
    refine tipStep_of_insert hvalid hget hnamed ?_ hnext hadvanced
    rintro rfl
    refine hreassigned named hnamedId hstable hstate hgeneration hroom ?_
    by_contra hfull
    exact hfence (if_neg hfull)

theorem tipStep_of_release
    (hvalid : history.current.Valid codec)
    (hget : history.current.assignments.get? cellId = some assignment)
    (h : releaseCell codec history cellKey generation holderId = .ok done) :
    TipStep codec history cellId assignment (.release cellKey generation holderId) done.1 := by
  simp only [releaseCell, bind_eq_ok, demand_eq_ok, cellIdOfV3_eq_ok] at h
  obtain ⟨-, -, namedId, hnamedId, named, hnamed, h⟩ := h
  split_ifs at h with hreleased
  · simp only [bind_eq_ok] at h
    obtain ⟨predecessor, -, h⟩ := h
    split_ifs at h with hstate
    obtain rfl := Except.ok.inj h
    exact .unchanged
  · simp only [bind_eq_ok, rejectIf_eq_ok, not_or, not_not] at h
    obtain ⟨-, ⟨hstate, hgeneration, hholder⟩, -, -, next, hnext, advanced, hadvanced, h⟩ := h
    obtain rfl := Except.ok.inj h
    refine tipStep_of_insert hvalid hget hnamed ?_ hnext hadvanced
    rintro rfl
    subst hgeneration
    exact .released hnamedId hstate hholder

/-- An operation of a transfer leaves every assignment alone. -/
theorem tipStep_of_cases (hget : history.current.assignments.get? cellId = some assignment)
    (hcases : StepCases codec history op result)
    (hneither : ∀ a a', ¬ Reassigns op a a') : TipStep codec history cellId assignment op result := by
  cases hcases with
  | unchanged => exact .unchanged
  | appended effect valid =>
    cases effect with
    | prepared fresh | advanced found advances staged =>
      exact .appended valid rfl rfl rfl hget (.inl rfl)
    | reassigned found reassigns => exact absurd reassigns (hneither _ _)

theorem tipStep_of_step (hvalid : history.current.Valid codec)
    (hget : history.current.assignments.get? cellId = some assignment)
    (h : history.step codec op = .ok result) : TipStep codec history cellId assignment op result := by
  cases op with
  | claim cellKey generation holderId =>
    obtain ⟨done, hdone, rfl⟩ := map_eq_ok.mp h
    refine tipStep_of_transition hvalid hget ?_ hdone
    rintro named hnamed hstable hstate rfl hroom hfence
    exact .claimed hnamed hstable hstate hroom hfence
  | recover cellKey generation holderId =>
    obtain ⟨done, hdone, rfl⟩ := map_eq_ok.mp h
    refine tipStep_of_transition hvalid hget ?_ hdone
    rintro named hnamed hstable hstate rfl hroom hfence
    exact .recovered hnamed hstable hstate hroom hfence
  | release cellKey generation holderId =>
    obtain ⟨done, hdone, rfl⟩ := map_eq_ok.mp h
    exact tipStep_of_release hvalid hget hdone
  | prepare | sourcePrepared | quarantine | commit | sourceExported | destinationImported
  | destinationActivated | sourceFinalized | requestAbort | abortCleanup | finalizeAbort =>
    exact tipStep_of_cases hget (step_cases hvalid h) fun _ _ hreassigns => nomatch hreassigns

/-! ## Looking back -/

/-- The tip is the only document of its revision, and every document is valid. -/
structure Filed (codec : DirectoryCodec) (history : DirectoryHistory) : Prop where
  all_valid : ∀ document ∈ history.documents, document.Valid codec
  below : ∀ document ∈ history.earlier,
    document.directoryRevision < history.current.directoryRevision

theorem Filed.valid (h : Filed codec history) : history.current.Valid codec :=
  h.all_valid _ (List.mem_append_right _ List.mem_cons_self)

variable {document : CellDirectoryDocumentV3}

theorem filed_of_isGenesis (h : IsGenesis codec document) :
    Filed codec (genesisHistory document) where
  all_valid other hmem := by
    rw [List.mem_singleton.mp hmem]
    exact validate_eq_ok.mp h.valid
  below _ hmem := absurd hmem List.not_mem_nil

theorem Filed.appended (h : Filed codec history)
    (hvalid : next.Valid codec)
    (hrevision : next.directoryRevision = history.current.directoryRevision + 1) :
    Filed codec { earlier := history.documents, current := next } where
  all_valid document hmem := by
    rcases List.mem_append.mp hmem with hearlier | hcurrent
    · exact h.all_valid document hearlier
    · rw [List.mem_singleton.mp hcurrent]
      exact hvalid
  below document hmem := by
    show document.directoryRevision < next.directoryRevision
    rcases List.mem_append.mp hmem with hearlier | hcurrent
    · have := h.below document hearlier
      omega
    · rw [List.mem_singleton.mp hcurrent]
      omega

theorem Filed.step (h : Filed codec history) (hstep : history.step codec op = .ok result) :
    Filed codec result := by
  cases step_cases h.valid hstep with
  | unchanged => exact h
  | appended effect valid =>
    refine h.appended valid ?_
    cases effect with
    | prepared | advanced | reassigned => rfl

theorem Filed.run (h : Filed codec history) {ops}
    (hrun : DirectoryV3.run codec history ops = .ok result) : Filed codec result :=
  preserved_of_run (fun hfiled hstep => Filed.step hfiled hstep) h hrun

variable {directoryRevision : Nat} {documentHash : String}

theorem resolveDocument_eq_ok :
    resolveDocument history directoryRevision documentHash = .ok document ↔
      history.documents.find? (fun document => document.directoryRevision = directoryRevision)
          = some document
        ∧ document.documentHash = documentHash := by
  simp only [resolveDocument, bind_eq_ok, demand_eq_ok, rejectIf_eq_ok, pure_eq_ok, not_not]
  constructor
  · rintro ⟨found, hfound, -, hhash, rfl⟩
    exact ⟨hfound, hhash⟩
  · rintro ⟨hfound, hhash⟩
    exact ⟨document, hfound, (), hhash, rfl⟩

/-- The tip is found by its own revision and hash. -/
theorem Filed.resolve_current (h : Filed codec history) :
    resolveDocument history history.current.directoryRevision history.current.documentHash
      = .ok history.current := by
  refine resolveDocument_eq_ok.mpr ⟨?_, rfl⟩
  have hnone : history.earlier.find? (fun document =>
      document.directoryRevision = history.current.directoryRevision) = none := by
    refine List.find?_eq_none.mpr fun document hmem => ?_
    have := h.below document hmem
    simpa using Nat.ne_of_lt this
  rw [DirectoryHistory.documents, List.find?_append, hnone]
  simp

theorem resolveDocument_mono (hstep : TipStep codec history cellId assignment op result)
    (h : resolveDocument history directoryRevision documentHash = .ok document) :
    resolveDocument result directoryRevision documentHash = .ok document := by
  cases hstep with
  | unchanged => exact h
  | appended =>
    rw [resolveDocument_eq_ok] at h ⊢
    refine ⟨?_, h.2⟩
    rw [DirectoryHistory.documents, List.find?_append, h.1]
    rfl

variable {found : ValidatedCurrentCellAssignmentV3}

theorem assignmentFromDocument_eq_ok :
    assignmentFromDocument document cellId = .ok found ↔
      document.assignments.get? cellId = some found.assignment
        ∧ found.directoryRevision = document.directoryRevision
        ∧ found.directoryDocumentHash = document.documentHash
        ∧ found.universeId = document.universeId
        ∧ found.universeManifestHash = document.universeManifestHash := by
  simp only [assignmentFromDocument, bind_eq_ok, demand_eq_ok, pure_eq_ok]
  constructor
  · rintro ⟨assignment, hget, rfl⟩
    exact ⟨hget, rfl, rfl, rfl, rfl⟩
  · rintro ⟨hget, hrevision, hhash, huniverse, hmanifest⟩
    refine ⟨_, hget, ?_⟩
    rw [← hrevision, ← hhash, ← huniverse, ← hmanifest]

theorem Filed.historical (h : Filed codec history)
    (hcurrent : currentCellAssignment history cellId = .ok found) :
    historicalCellAssignment history found.directoryRevision found.directoryDocumentHash cellId
      = .ok found := by
  obtain ⟨-, hrevision, hhash, -, -⟩ := assignmentFromDocument_eq_ok.mp hcurrent
  rw [historicalCellAssignment, bind_eq_ok, hrevision, hhash]
  exact ⟨_, h.resolve_current, hcurrent⟩

theorem historicalCellAssignment_mono (hstep : TipStep codec history cellId assignment op result)
    (h : historicalCellAssignment history directoryRevision documentHash id = .ok found) :
    historicalCellAssignment result directoryRevision documentHash id = .ok found := by
  rw [historicalCellAssignment, bind_eq_ok] at h ⊢
  obtain ⟨document, hresolved, hfound⟩ := h
  exact ⟨document, resolveDocument_mono hstep hresolved, hfound⟩

/-! ## What a valid document says of an assignment -/

/-- An assignment is at rest: asleep without a holder, or held. -/
structure AtRest (codec : DirectoryCodec) (cellId : String) (assignment : CellAssignmentRecord) :
    Prop where
  cellId_eq : assignment.cellId = cellId
  named : codec.sky.cellId assignment.cellKey = some cellId
  settled : (assignment.state = .sleeping ∧ assignment.holderId = none)
    ∨ (assignment.state = .assigned ∧ assignment.holderId.isSome)
  counted : assignment.state = .assigned →
    assignment.assignmentGeneration ≠ 0 ∧ assignment.authorityFencingToken ≠ 0

theorem atRest_of_valid
    (h : document.Valid codec) (hget : document.assignments.get? cellId = some assignment) :
    AtRest codec cellId assignment := by
  have hok := h.validateAssignment hget
  simp only [CellDirectoryDocumentV3.validateAssignment, bind_eq_ok, demand_eq_ok, rejectIf_eq_ok,
    not_or, not_not] at hok
  obtain ⟨derived, hnamed, -, ⟨rfl, hid, -⟩, hstate⟩ := hok
  cases hcase : assignment.state with
  | sleeping =>
    simp only [hcase, bind_eq_ok, rejectIf_eq_ok] at hstate
    obtain ⟨-, hholder, -⟩ := hstate
    exact ⟨hid, hnamed, .inl ⟨hcase, by simpa using hholder⟩, fun hassigned =>
      absurd (hcase.symm.trans hassigned) (by decide)⟩
  | assigned =>
    simp only [hcase, bind_eq_ok, rejectIf_eq_ok, not_or] at hstate
    obtain ⟨-, ⟨hgeneration, hfence, hholder⟩, -⟩ := hstate
    refine ⟨hid, hnamed, .inr ⟨hcase, ?_⟩, fun _ => ⟨hgeneration, hfence⟩⟩
    refine Option.isSome_iff_ne_none.mpr fun hnone => hholder ?_
    rw [hnone]
    rintro _ ⟨⟩
  | claiming | releasing =>
    rw [hcase] at hstate
    cases hstate

theorem Filed.atRest (h : Filed codec history)
    (hfound : historicalCellAssignment history directoryRevision documentHash cellId = .ok found) :
    AtRest codec cellId found.assignment := by
  rw [historicalCellAssignment, bind_eq_ok] at hfound
  obtain ⟨document, hresolved, hfound⟩ := hfound
  have hmem := List.mem_of_find?_eq_some (resolveDocument_eq_ok.mp hresolved).1
  exact atRest_of_valid (h.all_valid document hmem) (assignmentFromDocument_eq_ok.mp hfound).1

end Verse.LifecycleV2
