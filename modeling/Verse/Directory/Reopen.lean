import Verse.Directory.Preservation

/-!
# When a directory can be opened again

Every document of a run is consistent, and a consistent document passes `validateDocument`
exactly when no transfer is aborting without its source proof (`validateDocument_iff`). Only
one operation can bring such a transfer about, a request to abort a prepared transfer whose
source proof has not been recorded; so a run leaves only documents that open again exactly
when it makes no such request (`reopens_iff`).
-/

namespace Verse.Directory

open Lib

variable {ids : CellIds} {manifest : UniverseManifest} {proofCells : List CellKeyV1}
  {expected : OrdMap String CellAssignmentRecord} {d d' : CellDirectoryDocument}
  {op : DirectoryOp} {ops : List DirectoryOp}

/-- The stored document passes the check made when the directory is opened. -/
def Reopens (manifest : UniverseManifest) (expected : OrdMap String CellAssignmentRecord)
    (d : CellDirectoryDocument) : Prop :=
  validateDocument d manifest expected = .ok ()

instance : Decidable (Reopens manifest expected d) := by
  unfold Reopens; infer_instance

/-! ## The first document -/

variable {cellKey : CellKeyV1}

theorem assignmentOk_fresh {cellId : String}
    (hid : ids.cellId cellKey = some cellId) :
    AssignmentOk ids cellId
      { cellKey, cellId, assignmentGeneration := 0, authorityFencingToken := 0,
        fencingHistory := OrdMap.empty, state := .sleeping, holderId := none } where
  filed := rfl
  key := hid
  history := ⟨rfl, by simp, by simp, rfl⟩
  state := by simp [validateAssignmentState]

variable {m : OrdMap String CellAssignmentRecord}

theorem addProofCell_ok {m'} (h : addProofCell ids manifest m cellKey = .ok m')
    (hm : ∀ cellId a, m.get? cellId = some a → AssignmentOk ids cellId a) :
    ∀ cellId a, m'.get? cellId = some a → AssignmentOk ids cellId a := by
  simp only [addProofCell, cellIdOf, bind_eq_ok, rejectIf_eq_ok, demand_eq_ok, pure_eq_ok] at h
  obtain ⟨-, -, -, -, cellId, hid, -, -, rfl⟩ := h
  intro cellId' a ha
  by_cases hc : cellId' = cellId
  · subst hc
    obtain rfl := Option.mem_unique OrdMap.get?_insert_self ha
    exact assignmentOk_fresh hid
  · exact hm cellId' a (by simpa [hc] using ha)

theorem foldlM_addProofCell_ok
    (h : proofCells.foldlM (addProofCell ids manifest) m = .ok expected)
    (hm : ∀ cellId a, m.get? cellId = some a → AssignmentOk ids cellId a) :
    ∀ cellId a, expected.get? cellId = some a → AssignmentOk ids cellId a := by
  induction proofCells generalizing m with
  | nil =>
    obtain rfl := Except.ok.inj h
    exact hm
  | cons cellKey rest ih =>
    rw [List.foldlM_cons, bind_eq_ok] at h
    obtain ⟨m', hadd, hrest⟩ := h
    exact ih hrest (addProofCell_ok hadd hm)

theorem consistent_fresh (h : canonicalAssignments ids manifest proofCells = .ok expected) :
    Consistent ids manifest expected (freshDocument manifest expected) := by
  simp only [canonicalAssignments, bind_eq_ok, rejectIf_eq_ok, pure_eq_ok] at h
  obtain ⟨m, hm, -, -, rfl⟩ := h
  refine ⟨rfl, rfl, rfl, Nat.one_ne_zero, fun _ => rfl, ?_, ?_, ?_⟩
  · exact fun ha => foldlM_addProofCell_ok hm (by simp) _ _ ha
  · simp [freshDocument]
  · simp [freshDocument]

theorem Consistent.of_run (h : canonicalAssignments ids manifest proofCells = .ok expected)
    (hrun : run ids (freshDocument manifest expected) ops = .ok d) :
    Consistent ids manifest expected d :=
  preserved_of_run Consistent.of_apply (consistent_fresh h) hrun

/-! ## The check on a consistent document -/

theorem Consistent.validateAssignment (h : Consistent ids manifest expected d) {entry}
    (he : entry ∈ expected.entries) :
    validateAssignment d entry = .ok () := by
  obtain ⟨cellId, e⟩ := entry
  have hcell := h.cells cellId
  rw [OrdMap.mem_entries.mp he] at hcell
  obtain ⟨a, ha, hkey⟩ := Option.map_eq_some_iff.mp hcell
  have hok := h.assignments ha
  simp only [Directory.validateAssignment, bind_eq_ok, demand_eq_ok, rejectIf_eq_ok]
  exact ⟨a, ha, (), by simp [hok.filed, hkey], (), hok.state, hok.history.valid⟩

theorem Consistent.validatePlacement (h : Consistent ids manifest expected d) {entry}
    (he : entry ∈ d.placements.entries) :
    validatePlacement d entry = .ok () := by
  obtain ⟨aggregateId, p⟩ := entry
  have hok := h.placements (OrdMap.mem_entries.mp he)
  obtain ⟨a, ha, hkey⟩ := hok.cell
  simp only [Directory.validatePlacement, validateStableId, bind_eq_ok, demand_eq_ok,
    rejectIf_eq_ok]
  exact ⟨(), by simp [hok.canonical], (), by simp [hok.filed, hok.generation], a, ha, (),
    by simp [hkey], by simp [hok.binding]⟩

variable {transferId : String} {t : CellTransferRecord}

theorem TransferOk.validateTransfer_iff
    (h : TransferOk d transferId t) :
    validateTransfer d (transferId, t) = .ok () ↔ AbortProved t := by
  obtain ⟨source, hsource, hsourceKey⟩ := h.source
  obtain ⟨destination, hdestination, hdestinationKey⟩ := h.destination
  obtain ⟨p, hp, hkind, hmatch⟩ := h.placement
  have hi := h.identity
  have hsourceBound : ∀ {g f}, FenceBound d t.sourceCellId g f →
      source.fencingHistory.get? g = some f := by
    rintro g f ⟨a, ha, hg⟩
    rwa [Option.mem_unique hsource ha]
  have hdestinationBound : ∀ {g f}, FenceBound d t.destinationCellId g f →
      destination.fencingHistory.get? g = some f := by
    rintro g f ⟨a, ha, hg⟩
    rwa [Option.mem_unique hdestination ha]
  have hlast : ¬ phaseDisagrees transferId t p ↔ AbortProved t := by
    rw [phaseDisagrees_iff]
    exact ⟨fun hd => hd.2.2, fun ha => ⟨hmatch, h.evidence, ha⟩⟩
  simp only [validateTransfer, validateStableId, validateHash, bind_eq_ok, demand_eq_ok,
    rejectIf_eq_ok, whenSome_eq_ok, validateHistoricalProofAuthority_eq_ok, exists_const,
    hsource, hdestination, hp, Option.some.injEq, exists_eq_left', hlast]
  constructor
  · exact fun hv => hv.2.2.2.2.2.2.2.2.2.2.2.2
  · intro ha
    refine ⟨by simp [hi.canonical], by simp [hi.aggregate], by simp [hi.package], ?_,
      by simp [hsourceKey, hdestinationKey, hkind], ?_, ?_, ?_, ?_, ?_, ?_, ?_, ha⟩
    · simp only [hi.filed, hi.distinct, hi.sourceGeneration, hi.destinationGeneration,
        hi.priorGeneration, hi.resulting, ne_eq, not_true_eq_false, or_self, not_false_eq_true]
    · exact fun r hr => by simp [h.proofs.receipt r hr]
    · exact fun proof hproof =>
        ⟨(), (h.proofs.prepare proof hproof).1, hsourceBound (h.proofs.prepare proof hproof).2⟩
    · exact fun proof hproof => by
        obtain ⟨hv, hb, hr⟩ := h.proofs.quarantine proof hproof
        exact ⟨(), hv, hdestinationBound hb, not_not.mpr hr⟩
    · exact fun proof hproof =>
        ⟨(), (h.proofs.imported proof hproof).1,
          hdestinationBound (h.proofs.imported proof hproof).2⟩
    · exact fun proof hproof =>
        ⟨(), (h.proofs.finalization proof hproof).1,
          hsourceBound (h.proofs.finalization proof hproof).2⟩
    · exact fun proof hproof => by
        obtain ⟨hv, hb, hr⟩ := h.proofs.sourceAbort proof hproof
        exact ⟨(), hv, hsourceBound hb, not_not.mpr hr⟩
    · exact fun proof hproof => by
        obtain ⟨hv, hb, hr⟩ := h.proofs.destinationAbort proof hproof
        exact ⟨(), hv, hdestinationBound hb, not_not.mpr hr⟩

/-- A consistent document opens again exactly when every abort under way is proved. -/
theorem Consistent.reopens_iff_abortProved (h : Consistent ids manifest expected d) :
    Reopens manifest expected d ↔
      ∀ transferId t, d.transfers.get? transferId = some t → AbortProved t := by
  have hsize : d.assignments.size = expected.size :=
    OrdMap.size_eq_of_isSome fun cellId => by
      simpa using congrArg Option.isSome (h.cells cellId)
  simp only [Reopens, validateDocument, bind_eq_ok, rejectIf_eq_ok, checkAll_eq_ok, exists_const]
  constructor
  · rintro ⟨-, -, -, ht⟩ transferId t hget
    exact (h.transfers hget).validateTransfer_iff.mp (ht _ (OrdMap.mem_entries.mpr hget))
  · intro hproved
    refine ⟨?_, fun _ he => h.validateAssignment he, fun _ he => h.validatePlacement he, ?_⟩
    · simp [h.schema, h.universeId, h.manifestHash, h.revision, hsize]
    · rintro ⟨transferId, t⟩ he
      have hget := OrdMap.mem_entries.mp he
      exact (h.transfers hget).validateTransfer_iff.mpr (hproved _ _ hget)

/-! ## Along a run -/

/-- The request does not abort a prepared transfer whose source proof is not on record. -/
def AbortCovered (d : CellDirectoryDocument) (op : DirectoryOp) : Prop :=
  ∀ transferId t, op = .requestAbort transferId → d.transfers.get? transferId = some t →
    t.phase = .prepared → t.sourcePrepareProof.isSome

theorem abortProved_insert {t'} (hall : ∀ k t, d.transfers.get? k = some t → AbortProved t) :
    (∀ k t, (d.transfers.insert transferId t').get? k = some t → AbortProved t) ↔
      AbortProved t' := by
  constructor
  · exact fun h => h transferId t' OrdMap.get?_insert_self
  · intro h k t hk
    by_cases hc : k = transferId
    · subst hc
      obtain rfl := Option.mem_unique OrdMap.get?_insert_self hk
      exact h
    · exact hall k t (by simpa [hc] using hk)

theorem AbortProved.of_phase (h : t.phase ≠ .aborting) :
    AbortProved t :=
  fun he => absurd he h

theorem abortProved_transition (ht : Transition ids d op d')
    (hall : ∀ k t, d.transfers.get? k = some t → AbortProved t)
    (hevidence : ∀ k t, d.transfers.get? k = some t → EvidenceAgrees t) :
    (∀ k t, d'.transfers.get? k = some t → AbortProved t) ↔ AbortCovered d op := by
  cases ht with
  | retry hop =>
    refine ⟨fun _ k t' he hget hprepared => ?_, fun _ => hall⟩
    subst he
    obtain ⟨t, ht, hphase⟩ := hop
    obtain rfl := Option.mem_unique ht hget
    rcases hphase with hphase | hphase <;> simp [hphase] at hprepared
  | claim | release | recoverAssignment | registerPlacement =>
    exact ⟨fun _ _ _ he => by simp at he, fun _ => hall⟩
  | prepareTransfer =>
    refine (abortProved_insert hall).trans ⟨fun _ _ _ he => by simp at he, fun _ => ?_⟩
    exact .of_phase (by simp [preparedTransfer])
  | recordSourcePrepared | recordQuarantine | commitTransfer | recordImported |
    finalizeTransfer | finalizeAbort =>
    refine (abortProved_insert hall).trans ⟨fun _ _ _ he => by simp at he, fun _ => ?_⟩
    exact .of_phase (by simp [*])
  | @recordAbortCleanup transferId proof t cell generation ht hphase =>
    refine (abortProved_insert hall).trans ⟨fun _ _ _ he => by simp at he, fun _ _ => ?_⟩
    have hs := hall _ _ ht hphase
    cases hrole : proof.role <;> simpa [CellTransferRecord.withAbortProof, hrole] using hs
  | @requestAbort transferId t p ht hphase =>
    refine (abortProved_insert hall).trans ?_
    constructor
    · intro hproved k t' he hget _
      obtain rfl : transferId = k := by simpa using he
      obtain rfl := Option.mem_unique ht hget
      exact hproved rfl
    · intro hcovered _
      rcases hphase with hphase | hphase
      · exact hcovered transferId t rfl ht hphase
      · have he := hevidence _ _ ht
        simp only [EvidenceAgrees, hphase] at he
        exact he.2.2.1

/-- A run leaves only documents that open again exactly when it never requests the abort of
    a prepared transfer before its source proof is recorded. -/
theorem reopens_iff (hcells : canonicalAssignments ids manifest proofCells = .ok expected)
    (hrun : run ids (freshDocument manifest expected) ops = .ok d) :
    Throughout (apply ids) (Reopens manifest expected) (freshDocument manifest expected) ops ↔
      Along (apply ids) AbortCovered (freshDocument manifest expected) ops := by
  have hfresh := consistent_fresh hcells
  refine throughout_iff_along (P := Consistent ids manifest expected)
    (fun hs _ hstep => hs.of_apply hstep) ?_ hfresh ?_ hrun
  · intro s op s' _ hs hreopens hstep
    have hall := hs.reopens_iff_abortProved.mp hreopens
    rw [(hs.of_apply hstep).reopens_iff_abortProved]
    exact abortProved_transition (transition_of_apply hstep) hall
      fun _ _ hget => (hs.transfers hget).evidence
  · exact hfresh.reopens_iff_abortProved.mpr (by simp [freshDocument])

/-! The shortest way to a directory that cannot be opened: both cells claimed, an aggregate
prepared, and the abort requested at once. -/

def proofManifest : UniverseManifest where
  universeId := "the-verse-local"
  manifestHash := "af1349b9f5f9a1a6a0404dea36dcc9499bcb25c9adc112b7cc9a93cae41f3262"

def abortedEarly : List DirectoryOp :=
  [ .claim cellOriginKey 0 "worker-origin" 5,
    .claim { cellOriginKey with cellX := 501 } 0 "worker-east" 9,
    .registerPlacement "grid-mobile" .grid cellOriginKey,
    .prepareTransfer "grid-mobile" 1 "transfer-grid-abort" { cellOriginKey with cellX := 501 }
      "690245e3efffc0cf73142adc956e42d8c0d959967104a85d34efdedbb222cc2e",
    .requestAbort "transfer-grid-abort" ]

/-- The assignments of a fresh two-cell directory and the document a run from it ends in. -/
def ranFrom (ids : CellIds) (manifest : UniverseManifest) (proofCells : List CellKeyV1)
    (ops : List DirectoryOp) :
    Fallible (OrdMap String CellAssignmentRecord × CellDirectoryDocument) := do
  let expected ← canonicalAssignments ids manifest proofCells
  let d ← run ids (freshDocument manifest expected) ops
  return (expected, d)

/-- Evaluating a run, and a property of where it ends, finds the run. -/
theorem exists_run_of_ranFrom {P : OrdMap String CellAssignmentRecord → CellDirectoryDocument →
      Prop} [∀ expected d, Decidable (P expected d)]
    (h : (ranFrom ids manifest proofCells ops).toOption.any (fun r => P r.1 r.2)) :
    ∃ expected d, canonicalAssignments ids manifest proofCells = .ok expected
      ∧ run ids (freshDocument manifest expected) ops = .ok d ∧ P expected d := by
  cases hr : ranFrom ids manifest proofCells ops with
  | error e => simp [hr, Except.toOption] at h
  | ok r =>
    simp only [ranFrom, bind_eq_ok, pure_eq_ok] at hr
    obtain ⟨expected, hcells, d, hrun, rfl⟩ := hr
    refine ⟨expected, d, hcells, hrun, ?_⟩
    simpa [ranFrom, hcells, hrun, bind, Except.bind, pure, Except.pure, Except.toOption] using h

/-- The transfer is aborted before its source prepared anything: the run stops reopening there. -/
theorem reopens_iff_abortedEarly :
    ∃ expected d, canonicalAssignments proofCellIds proofManifest proofCellKeys = .ok expected
      ∧ run proofCellIds (freshDocument proofManifest expected) abortedEarly = .ok d
      ∧ (Throughout (apply proofCellIds) (Reopens proofManifest expected)
            (freshDocument proofManifest expected) abortedEarly ↔
          Along (apply proofCellIds) AbortCovered (freshDocument proofManifest expected)
            abortedEarly) := by
  obtain ⟨expected, d, hcells, hrun, -⟩ :=
    @exists_run_of_ranFrom proofCellIds proofManifest proofCellKeys abortedEarly
      (fun _ _ => True) _ (by decide +kernel)
  exact ⟨expected, d, hcells, hrun, reopens_iff hcells hrun⟩

/-- The run is accepted to its end, and its last document is never opened again. -/
theorem not_reopens_abortedEarly :
    ∃ expected d, canonicalAssignments proofCellIds proofManifest proofCellKeys = .ok expected
      ∧ run proofCellIds (freshDocument proofManifest expected) abortedEarly = .ok d
      ∧ ¬ Reopens proofManifest expected d :=
  exists_run_of_ranFrom (by decide +kernel)

end Verse.Directory
