import Verse.DirectoryV3.Prepare

/-!
# What one step does

`step_cases` reads an accepted operation backwards once and for all: it recognised its own
earlier success and left the history alone, or it appended one document, valid and one revision
on, that differs from the current one by one `Effect`. A prepare puts a new transfer on record,
a stage advances one that is there, an authority transition replaces one assignment.

`Advances` says for each stage from which record to which it goes and which transition of the
placements it makes; every invariant of the directory is proved from it and not from the stages.
-/

namespace Verse.DirectoryV3

open Lib Directory

variable {codec : DirectoryCodec} {document : CellDirectoryDocumentV3}

/-- From which record of a transfer to which a stage goes, and with which transition of its
    placements. -/
inductive Advances : DirectoryV3Op → String → CellTransferRecordV3 →
    Option BundledPlacementTransition → CellTransferRecordV3 → Prop where
  | sourcePrepared {id prepare proof current} (phase : current.phase = .prepared)
      (unset : current.sourcePrepareProof = none) :
      Advances (.sourcePrepared id prepare) id current none
        { current with sourcePrepareProof := some proof }
  | quarantined {id quarantine proof receipt current} (phase : current.phase = .prepared)
      (receiptUnset : current.quarantineReceiptHash = none)
      (unset : current.destinationQuarantineProof = none) :
      Advances (.quarantine id quarantine) id current none
        { current with
          quarantineReceiptHash := some receipt
          destinationQuarantineProof := some proof
          phase := .quarantined }
  | adopted {id quarantine proof receipt current} (phase : current.phase = .aborting)
      (receiptUnset : current.quarantineReceiptHash = none)
      (unset : current.destinationQuarantineProof = none) :
      Advances (.quarantine id quarantine) id current none
        { current with
          quarantineReceiptHash := some receipt
          destinationQuarantineProof := some proof }
  | committed {id root current} (phase : current.phase = .quarantined) :
      Advances (.commit id root) id current (some .commit) { current with phase := .committed }
  | exported {id exported proof current} (phase : current.phase = .committed)
      (unset : current.sourceExportProof = none) :
      Advances (.sourceExported id exported) id current none
        { current with sourceExportProof := some proof }
  | imported {id imported proof current} (phase : current.phase = .committed)
      (unset : current.importProof = none) :
      Advances (.destinationImported id imported) id current (some .imported)
        { current with importProof := some proof, phase := .imported }
  | activated {id activation proof current} (phase : current.phase = .imported)
      (unset : current.destinationActivationProof = none) :
      Advances (.destinationActivated id activation) id current none
        { current with destinationActivationProof := some proof }
  | finalized {id finalization proof current} (phase : current.phase = .imported)
      (unset : current.finalizationProof = none) :
      Advances (.sourceFinalized id finalization) id current none
        { current with finalizationProof := some proof, phase := .finalized }
  | abortRequested {id current} (phase : current.phase = .prepared ∨ current.phase = .quarantined) :
      Advances (.requestAbort id) id current none { current with phase := .aborting }
  | sourceCleaned {id cleanup proof current} (phase : current.phase = .aborting)
      (unset : current.sourceAbortProof = none) :
      Advances (.abortCleanup id cleanup) id current none
        { current with sourceAbortProof := some proof }
  | destinationCleaned {id cleanup proof current} (phase : current.phase = .aborting)
      (unset : current.destinationAbortProof = none) :
      Advances (.abortCleanup id cleanup) id current none
        { current with destinationAbortProof := some proof }
  | aborted {id current} (phase : current.phase = .aborting) :
      Advances (.finalizeAbort id) id current (some .abort) { current with phase := .aborted }

/-- What an authority transition makes of an assignment. -/
inductive Reassigns : DirectoryV3Op → CellAssignmentRecord → CellAssignmentRecord → Prop where
  | claimed {cellKey generation holderId assignment} (asleep : assignment.state = .sleeping) :
      Reassigns (.claim cellKey generation holderId) assignment
        (CellAssignmentRecord.claimedBy assignment holderId)
  | recovered {cellKey generation holderId assignment} (held : assignment.state = .assigned) :
      Reassigns (.recover cellKey generation holderId) assignment
        (CellAssignmentRecord.claimedBy assignment holderId)
  | released {cellKey generation holderId assignment} (held : assignment.state = .assigned) :
      Reassigns (.release cellKey generation holderId) assignment
        { assignment with state := .sleeping, holderId := none }

/-- One change of the document. -/
inductive Effect (codec : DirectoryCodec) (document : CellDirectoryDocumentV3) :
    DirectoryV3Op → CellDirectoryDocumentV3 → Prop where
  | prepared {requested} (fresh : FreshRequest codec document requested) :
      Effect codec document (.prepare requested) (prepared codec document requested)
  | advanced {op transferId current transition record placements}
      (found : document.transfers.get? transferId = some current)
      (advances : Advances op transferId current transition record)
      (staged : stagePlacements codec document transferId current transition = .ok placements) :
      Effect codec document op (transacted codec document
        { document with
          placements
          transfers := document.transfers.insert transferId record })
  | reassigned {op cellId assignment assignment'}
      (found : document.assignments.get? cellId = some assignment)
      (reassigns : Reassigns op assignment assignment') :
      Effect codec document op (transacted codec document
        { document with assignments := document.assignments.insert cellId assignment' })

/-! ## Stages of a transfer on record -/

theorem finishV3Transaction_eq_ok {prior next result} :
    finishV3Transaction codec prior next = .ok result ↔
      prior.directoryRevision + 1 ≤ u64Max ∧ (transacted codec prior next).Valid codec
        ∧ result = transacted codec prior next := by
  simp only [finishV3Transaction, bind_eq_ok, rejectIf_eq_ok, pure_eq_ok]
  have hrevision : checkedAdd prior.directoryRevision 1 = none ↔
      ¬ prior.directoryRevision + 1 ≤ u64Max := by
    simp [checkedAdd]
  rw [hrevision, not_not]
  constructor
  · rintro ⟨⟨⟩, hle, ⟨⟩, hvalid, rfl⟩
    exact ⟨hle, validate_eq_ok.mp hvalid, rfl⟩
  · rintro ⟨hle, hvalid, rfl⟩
    exact ⟨(), hle, (), validate_eq_ok.mpr hvalid, rfl⟩

variable {cellId : String} {assignment : CellAssignmentRecord}

section Staging

variable {next : CellDirectoryDocumentV3} {transferId : String}

variable {settled : CellTransferRecordV3 → Fallible Bool}
  {transition : Option BundledPlacementTransition}
  {record : CellTransferRecordV3 → CellTransferRecordV3}

theorem stageTransfer_cases
    (h : stageTransfer codec document transferId settled transition record = .ok next) :
    ∃ current, document.transfers.get? transferId = some current
      ∧ (settled current = .ok true ∧ next = document
        ∨ settled current = .ok false ∧ ∃ placements,
          stagePlacements codec document transferId current transition = .ok placements
            ∧ finishV3Transaction codec document
              { document with
                placements
                transfers := document.transfers.insert transferId (record current) }
              = .ok next) := by
  simp only [stageTransfer, v3Transfer, bind_eq_ok, demand_eq_ok] at h
  obtain ⟨-, -, current, hget, done, hsettled, hrest⟩ := h
  refine ⟨current, hget, ?_⟩
  cases done with
  | true => exact .inl ⟨hsettled, (Except.ok.inj hrest).symm⟩
  | false =>
    simp only [Bool.false_eq_true, if_false, bind_eq_ok] at hrest
    exact .inr ⟨hsettled, hrest⟩

theorem proofSettled_eq_false {existing proof} {retryPhase ready : Prop} [Decidable retryPhase]
    [Decidable ready] {changed notReady : String}
    (h : proofSettled transferId existing proof retryPhase changed ready notReady = .ok false) :
    existing = none ∧ ready := by
  unfold proofSettled at h
  cases existing with
  | some recorded => simp at h
  | none => simpa using h

theorem stageProof_eq_ok {what rootAggregateId changedRoot : String} {checked apply}
    (h : stageProof codec document transferId checked what rootAggregateId changedRoot apply
      = .ok next) : apply = .ok next := by
  simp only [stageProof, bind_eq_ok] at h
  obtain ⟨-, -, -, -, -, -, -, -, hnext⟩ := h
  exact hnext

/-- What a stage that was not a retry leaves: a document that one effect made, and valid. -/
def Staged (codec : DirectoryCodec) (document : CellDirectoryDocumentV3) (op : DirectoryV3Op)
    (next : CellDirectoryDocumentV3) : Prop :=
  next = document ∨ (Effect codec document op next ∧ next.Valid codec
    ∧ document.directoryRevision + 1 ≤ u64Max)

variable {op : DirectoryV3Op}

theorem staged_of_stageTransfer
    (h : stageTransfer codec document transferId settled transition record = .ok next)
    (hready : ∀ current, settled current = .ok false →
      Advances op transferId current transition (record current)) :
    Staged codec document op next := by
  obtain ⟨current, hget, ⟨-, rfl⟩ | ⟨hsettled, placements, hstaged, hfinish⟩⟩ :=
    stageTransfer_cases h
  · exact .inl rfl
  · obtain ⟨hle, hvalid, rfl⟩ := finishV3Transaction_eq_ok.mp hfinish
    exact .inr ⟨.advanced hget (hready current hsettled) hstaged, hvalid, hle⟩

/-! ## Each operation -/

variable {requested : CellTransferRecordV3}

/-- A request for a transfer that is not on record is never taken for a retry. -/
theorem stageV3Prepare_of_new
    (h : stageV3Prepare codec document requested = .ok next)
    (hnew : document.transfers.get? requested.transferId = none) :
    FreshRequest codec document requested ∧ next = prepared codec document requested
      ∧ next.Valid codec ∧ document.directoryRevision + 1 ≤ u64Max := by
  simp only [stageV3Prepare, bind_eq_ok, rejectIf_eq_ok, not_not, demand_eq_ok, hnew] at h
  obtain ⟨⟨⟩, -, ⟨⟩, hunproved, plan, hidentity, source, hsource, destination, hdestination, ⟨⟩, -,
    ⟨⟩, hroute, placements, hstaged, hfinish⟩ := h
  obtain ⟨rfl, -, -, -, -⟩ := validateIdentity_eq_ok hidentity
  obtain ⟨-, -, -, -, happlies, rfl⟩ := stageBundledPlacementTransition_eq_ok.mp hstaged
  obtain ⟨hle, hvalid, rfl⟩ := finishV3Transaction_eq_ok.mp hfinish
  have hindexed := hvalid.indexed requested.transferId requested (OrdMap.get?_insert_self ..)
  refine ⟨⟨hunproved, hidentity, hnew, hindexed.unused,
    ⟨source, hsource, destination, hdestination, hroute⟩, ?_⟩, rfl, hvalid, hle⟩
  intro member hmember
  obtain ⟨placement, hget, -, hkind, hphase⟩ := happlies.found member hmember
  exact ⟨placement, hget, hkind, hphase⟩

theorem stageV3Prepare_staged
    (h : stageV3Prepare codec document requested = .ok next) :
    Staged codec document (.prepare requested) next := by
  cases hexisting : document.transfers.get? requested.transferId with
  | some existing =>
    simp only [stageV3Prepare, bind_eq_ok, hexisting] at h
    obtain ⟨-, -, -, -, -, -, -, -, -, -, -, -, hretry⟩ := h
    split_ifs at hretry with hsame
    exact .inl (Except.ok.inj hretry).symm
  | none =>
    obtain ⟨hfresh, rfl, hvalid, hle⟩ := stageV3Prepare_of_new h hexisting
    exact .inr ⟨.prepared hfresh, hvalid, hle⟩

theorem stageV3SourcePrepared_staged {prepare}
    (h : stageV3SourcePrepared codec document transferId prepare = .ok next) :
    Staged codec document (.sourcePrepared transferId prepare) next := by
  refine staged_of_stageTransfer (stageProof_eq_ok h) fun current hready => ?_
  obtain ⟨hnone, hphase⟩ := proofSettled_eq_false hready
  exact .sourcePrepared hphase hnone

theorem stageV3Quarantine_staged {quarantine}
    (h : stageV3Quarantine codec document transferId quarantine = .ok next) :
    Staged codec document (.quarantine transferId quarantine) next := by
  have happly := stageProof_eq_ok h
  simp only [applyV3QuarantineProof, bind_eq_ok, demand_some, Except.ok.injEq] at happly
  obtain ⟨-, -, receiptHash, -, -, -, hstage⟩ := happly
  refine staged_of_stageTransfer hstage fun current hready => ?_
  simp only [quarantineSettled, ite_eq_ok, reduceCtorEq, Except.ok.injEq, and_false, false_or,
    or_self, not_or, Option.not_isSome_iff_eq_none, and_true] at hready
  obtain ⟨hset, hphase, -⟩ := hready
  have hphase : current.phase = .prepared ∨ current.phase = .aborting := by
    by_contra hne
    exact hphase (not_or.mp hne)
  rcases hphase with hprepared | haborting
  · rw [if_pos hprepared]
    exact .quarantined hprepared hset.1 hset.2
  · rw [if_neg (by simp [haborting])]
    exact .adopted haborting hset.1 hset.2

theorem stageV3Commit_staged {root : String}
    (h : stageV3Commit codec document transferId root = .ok next) :
    Staged codec document (.commit transferId root) next := by
  simp only [stageV3Commit, bind_eq_ok] at h
  obtain ⟨-, -, -, -, hstage⟩ := h
  refine staged_of_stageTransfer hstage fun current hready => ?_
  simp only [ite_eq_ok, reduceCtorEq, Except.ok.injEq, and_false, false_or, not_or, not_not,
    and_true] at hready
  exact .committed hready.2.2.1

theorem stageV3SourceExported_staged {exported}
    (h : stageV3SourceExported codec document transferId exported = .ok next) :
    Staged codec document (.sourceExported transferId exported) next := by
  refine staged_of_stageTransfer (stageProof_eq_ok h) fun current hready => ?_
  obtain ⟨hnone, hphase, -⟩ := proofSettled_eq_false hready
  exact .exported hphase hnone

theorem stageV3DestinationImported_staged {imported}
    (h : stageV3DestinationImported codec document transferId imported = .ok next) :
    Staged codec document (.destinationImported transferId imported) next := by
  refine staged_of_stageTransfer (stageProof_eq_ok h) fun current hready => ?_
  obtain ⟨hnone, hphase, -⟩ := proofSettled_eq_false hready
  exact .imported hphase hnone

theorem stageV3DestinationActivated_staged {activation}
    (h : stageV3DestinationActivated codec document transferId activation = .ok next) :
    Staged codec document (.destinationActivated transferId activation) next := by
  refine staged_of_stageTransfer (stageProof_eq_ok h) fun current hready => ?_
  obtain ⟨hnone, hphase, -⟩ := proofSettled_eq_false hready
  exact .activated hphase hnone

theorem stageV3SourceFinalized_staged {finalization}
    (h : stageV3SourceFinalized codec document transferId finalization = .ok next) :
    Staged codec document (.sourceFinalized transferId finalization) next := by
  refine staged_of_stageTransfer (stageProof_eq_ok h) fun current hready => ?_
  obtain ⟨hnone, hphase, -⟩ := proofSettled_eq_false hready
  exact .finalized hphase hnone

theorem stageV3RequestAbort_staged (h : stageV3RequestAbort codec document transferId = .ok next) :
    Staged codec document (.requestAbort transferId) next := by
  refine staged_of_stageTransfer h fun current hready => ?_
  simp only [ite_eq_ok, reduceCtorEq, Except.ok.injEq, and_false, false_or, not_not,
    and_true] at hready
  exact .abortRequested hready.2

theorem stageV3AbortCleanup_staged {cleanup}
    (h : stageV3AbortCleanup codec document transferId cleanup = .ok next) :
    Staged codec document (.abortCleanup transferId cleanup) next := by
  simp only [stageV3AbortCleanup, bind_eq_ok] at h
  obtain ⟨-, -, hstage⟩ := h
  refine staged_of_stageTransfer hstage fun current hready => ?_
  cases hside : cleanup.side with
  | source =>
    simp only [hside] at hready ⊢
    obtain ⟨hnone, hphase⟩ := proofSettled_eq_false hready
    exact .sourceCleaned hphase hnone
  | destination =>
    simp only [hside] at hready ⊢
    obtain ⟨hnone, hphase⟩ := proofSettled_eq_false hready
    exact .destinationCleaned hphase hnone

theorem stageV3FinalizeAbort_staged
    (h : stageV3FinalizeAbort codec document transferId = .ok next) :
    Staged codec document (.finalizeAbort transferId) next := by
  refine staged_of_stageTransfer h fun current hready => ?_
  simp only [ite_eq_ok, reduceCtorEq, Except.ok.injEq, and_false, false_or, not_or, not_not,
    and_true] at hready
  exact .aborted hready.2.1

/-! ## Authority -/

variable {history : DirectoryHistory}

theorem advance_of_valid {result} (h : history.advance codec next = .ok result) :
    next = history.current ∧ result = history
      ∨ next ≠ history.current
        ∧ result = { earlier := history.documents, current := next } := by
  simp only [DirectoryHistory.advance, DirectoryHistory.commit, bind_eq_ok] at h
  obtain ⟨-, -, -, -, h⟩ := h
  split_ifs at h with hsame
  · exact .inl ⟨hsame, (Except.ok.inj h).symm⟩
  · simp only [bind_eq_ok] at h
    obtain ⟨-, -, -, -, h⟩ := h
    exact .inr ⟨hsame, (Except.ok.inj h).symm⟩

variable {cellKey : CellKeyV1} {generation : Nat} {holderId : String}
  {result : DirectoryHistory × CellAssignmentRecord}

theorem transitionCellAuthority_cases {transition}
    (h : transitionCellAuthority codec history cellKey generation holderId transition
      = .ok result) :
    result.1 = history
      ∨ ∃ cellId assignment, history.current.assignments.get? cellId = some assignment
        ∧ assignment.state = transition.expectedPredecessorState
        ∧ ∃ next, finishV3Transaction codec history.current
            { history.current with
              assignments := history.current.assignments.insert assignment.cellId
                (CellAssignmentRecord.claimedBy assignment holderId) } = .ok next
          ∧ history.advance codec next = .ok result.1 := by
  simp only [transitionCellAuthority, bind_eq_ok, demand_eq_ok] at h
  obtain ⟨-, -, cellId, -, assignment, hget, resulting, -, h⟩ := h
  split_ifs at h with hdelivered
  · simp only [bind_eq_ok] at h
    obtain ⟨predecessor, -, h⟩ := h
    split_ifs at h with hstate
    exact .inl (by rw [← Except.ok.inj h])
  · simp only [bind_eq_ok, rejectIf_eq_ok, not_or, not_not] at h
    obtain ⟨-, ⟨-, hstate, -⟩, -, -, next, hnext, advanced, hadvanced, h⟩ := h
    obtain rfl := Except.ok.inj h
    exact .inr ⟨cellId, assignment, hget, hstate, next, hnext, hadvanced⟩

theorem releaseCell_cases
    (h : releaseCell codec history cellKey generation holderId = .ok result) :
    result.1 = history
      ∨ ∃ cellId assignment, history.current.assignments.get? cellId = some assignment
        ∧ assignment.state = .assigned
        ∧ ∃ next, finishV3Transaction codec history.current
            { history.current with
              assignments := history.current.assignments.insert assignment.cellId
                { assignment with state := .sleeping, holderId := none } } = .ok next
          ∧ history.advance codec next = .ok result.1 := by
  simp only [releaseCell, bind_eq_ok, demand_eq_ok] at h
  obtain ⟨-, -, cellId, -, assignment, hget, h⟩ := h
  split_ifs at h with hreleased
  · simp only [bind_eq_ok] at h
    obtain ⟨predecessor, -, h⟩ := h
    split_ifs at h with hstate
    exact .inl (by rw [← Except.ok.inj h])
  · simp only [bind_eq_ok, rejectIf_eq_ok, not_or, not_not] at h
    obtain ⟨-, ⟨hstate, -, -⟩, -, -, next, hnext, advanced, hadvanced, h⟩ := h
    obtain rfl := Except.ok.inj h
    exact .inr ⟨cellId, assignment, hget, hstate, next, hnext, hadvanced⟩

/-! ## The step -/

theorem CellDirectoryDocumentV3.Valid.cellId_eq (h : document.Valid codec)
    (hget : document.assignments.get? cellId = some assignment) : assignment.cellId = cellId := by
  have hok := h.validateAssignment hget
  simp only [CellDirectoryDocumentV3.validateAssignment, bind_eq_ok, rejectIf_eq_ok, not_or,
    not_not] at hok
  obtain ⟨-, -, -, ⟨-, hid, -⟩, -⟩ := hok
  exact hid

end Staging

/-- What an accepted operation does to the history. -/
inductive StepCases (codec : DirectoryCodec) (history : DirectoryHistory) (op : DirectoryV3Op) :
    DirectoryHistory → Prop where
  | unchanged : StepCases codec history op history
  | appended {next} (effect : Effect codec history.current op next) (valid : next.Valid codec) :
      StepCases codec history op { earlier := history.documents, current := next }

variable {history result : DirectoryHistory} {op : DirectoryV3Op}

theorem stepCases_of_staged {staged}
    (hstaged : ∀ next, staged = .ok next → Staged codec history.current op next)
    (h : staged >>= history.advance codec = .ok result) : StepCases codec history op result := by
  obtain ⟨next, hnext, hadvance⟩ := bind_eq_ok.mp h
  rcases advance_of_valid hadvance with ⟨-, rfl⟩ | ⟨hne, rfl⟩
  · exact .unchanged
  · rcases hstaged next hnext with rfl | ⟨heffect, hvalid, -⟩
    · exact absurd rfl hne
    · exact .appended heffect hvalid

theorem stepCases_of_reassigned {assignment'} (hvalid : history.current.Valid codec)
    (hget : history.current.assignments.get? cellId = some assignment)
    (hreassigns : Reassigns op assignment assignment')
    (hnext : finishV3Transaction codec history.current
      { history.current with
        assignments := history.current.assignments.insert assignment.cellId assignment' }
        = .ok next) (hadvance : history.advance codec next = .ok result) :
    StepCases codec history op result := by
  rw [hvalid.cellId_eq hget] at hnext
  obtain ⟨hle, hok, rfl⟩ := finishV3Transaction_eq_ok.mp hnext
  rcases advance_of_valid hadvance with ⟨-, rfl⟩ | ⟨-, rfl⟩
  · exact .unchanged
  · exact .appended (.reassigned hget hreassigns) hok

theorem step_cases (hvalid : history.current.Valid codec) (h : history.step codec op = .ok result) :
    StepCases codec history op result := by
  cases op with
  | prepare requested => exact stepCases_of_staged (fun _ => stageV3Prepare_staged) h
  | sourcePrepared id prepare => exact stepCases_of_staged (fun _ => stageV3SourcePrepared_staged) h
  | quarantine id quarantine => exact stepCases_of_staged (fun _ => stageV3Quarantine_staged) h
  | commit id root => exact stepCases_of_staged (fun _ => stageV3Commit_staged) h
  | sourceExported id exported =>
    exact stepCases_of_staged (fun _ => stageV3SourceExported_staged) h
  | destinationImported id imported =>
    exact stepCases_of_staged (fun _ => stageV3DestinationImported_staged) h
  | destinationActivated id activation =>
    exact stepCases_of_staged (fun _ => stageV3DestinationActivated_staged) h
  | sourceFinalized id finalization =>
    exact stepCases_of_staged (fun _ => stageV3SourceFinalized_staged) h
  | requestAbort id => exact stepCases_of_staged (fun _ => stageV3RequestAbort_staged) h
  | abortCleanup id cleanup => exact stepCases_of_staged (fun _ => stageV3AbortCleanup_staged) h
  | finalizeAbort id => exact stepCases_of_staged (fun _ => stageV3FinalizeAbort_staged) h
  | claim cellKey generation holderId =>
    obtain ⟨done, hdone, rfl⟩ := map_eq_ok.mp h
    rcases transitionCellAuthority_cases hdone with hsame | ⟨cellId, assignment, hget, hstate, next,
      hnext, hadvance⟩
    · rw [hsame]
      exact .unchanged
    · exact stepCases_of_reassigned hvalid hget (.claimed hstate) hnext hadvance
  | recover cellKey generation holderId =>
    obtain ⟨done, hdone, rfl⟩ := map_eq_ok.mp h
    rcases transitionCellAuthority_cases hdone with hsame | ⟨cellId, assignment, hget, hstate, next,
      hnext, hadvance⟩
    · rw [hsame]
      exact .unchanged
    · exact stepCases_of_reassigned hvalid hget (.recovered hstate) hnext hadvance
  | release cellKey generation holderId =>
    obtain ⟨done, hdone, rfl⟩ := map_eq_ok.mp h
    rcases releaseCell_cases hdone with hsame | ⟨cellId, assignment, hget, hstate, next, hnext,
      hadvance⟩
    · rw [hsame]
      exact .unchanged
    · exact stepCases_of_reassigned hvalid hget (.released hstate) hnext hadvance

theorem valid_of_step
    (hvalid : history.current.Valid codec) (h : history.step codec op = .ok result) :
    result.current.Valid codec := by
  cases step_cases hvalid h with
  | unchanged => exact hvalid
  | appended _ hok => exact hok

end Verse.DirectoryV3
