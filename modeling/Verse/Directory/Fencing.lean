import Verse.Directory.Residency

/-!
# Which fence a cell held, and when

A cell is assigned again and again, and each assignment has its own fence. The history of a
cell only grows, at its end, so a fence of the past keeps the one generation it belongs to,
and a proof signed under it can be checked for as long as the directory exists.

`AssignmentStep` says what one accepted operation may do to the assignments, `FenceBound` that
the fence of a proof is on record for its cell. An operation that presents a proof is accepted
under any fence of the history, not only under the last one: a cell event that was durable
before its cell was recovered is recorded after it.
-/

namespace Verse.Directory

open Lib

/-! ## The fences of one cell -/

namespace FenceHistory

variable {a : CellAssignmentRecord} {g g' f f' : Nat}

theorem lt_of_lt (h : FenceHistory a) (hg : a.fencingHistory.get? g = some f)
    (hg' : a.fencingHistory.get? g' = some f') (hlt : g < g') : f < f' := by
  obtain ⟨k, rfl⟩ := Nat.exists_eq_add_of_lt hlt
  induction k generalizing f' with
  | zero => exact h.increasing hg hg'
  | succ k ih =>
    have hbounds := h.isSome_iff.mp ⟨f', hg'⟩
    obtain ⟨m, hm⟩ := h.isSome_iff.mpr (show 1 ≤ g + k + 1 ∧ g + k + 1 ≤ _ by omega)
    have hbefore : f < m := ih hm (by omega)
    exact hbefore.trans (h.increasing hm hg')

theorem generation_unique (h : FenceHistory a) (hg : a.fencingHistory.get? g = some f)
    (hg' : a.fencingHistory.get? g' = some f) : g = g' := by
  rcases Nat.lt_trichotomy g g' with hlt | heq | hgt
  · exact absurd (h.lt_of_lt hg hg' hlt) (lt_irrefl f)
  · exact heq
  · exact absurd (h.lt_of_lt hg' hg hgt) (lt_irrefl f)

/-- The search for the generation of a fence finds the one entry that has it. -/
theorem resolves (h : FenceHistory a) (hstate : a.state = .assigned)
    (hg : a.fencingHistory.get? g = some f) : Resolves a f g := by
  refine ⟨hstate, ?_⟩
  have hnodup : (a.fencingHistory.entries.filterMap fun entry =>
      if entry.2 = f then some entry.1 else none).Nodup := by
    have hkeys := a.fencingHistory.keys_nodup
    rw [OrdMap.keys] at hkeys
    refine hkeys.sublist ?_
    induction a.fencingHistory.entries with
    | nil => exact .refl _
    | cons entry rest ih =>
      by_cases he : entry.2 = f
      · simpa [he] using ih
      · simpa [he] using ih.cons entry.1
  have hmem : ∀ k, k ∈ (a.fencingHistory.entries.filterMap fun entry =>
      if entry.2 = f then some entry.1 else none) ↔ k = g := by
    intro k
    simp only [List.mem_filterMap, Option.ite_none_right_eq_some, Option.some.injEq]
    constructor
    · intro hk
      obtain ⟨⟨k', f'⟩, he, rfl, rfl⟩ := hk
      exact h.generation_unique (OrdMap.mem_entries.mp he) hg
    · intro hk
      exact ⟨(g, f), OrdMap.mem_entries.mpr hg, rfl, hk.symm⟩
  exact List.perm_singleton.mp
    ((List.perm_ext_iff_of_nodup hnodup (List.nodup_singleton g)).mpr (by simpa using hmem))

end FenceHistory

/-! ## One step of the assignments -/

/-- The operation gives the cell its next assignment, under this fence. -/
def Assigns (ids : CellIds) (op : DirectoryOp) (cellId : String) (fence : Nat) : Prop :=
  match op with
  | .claim cellKey _ _ token => ids.cellId cellKey = some cellId ∧ token = fence
  | .recoverAssignment cellKey _ _ token => ids.cellId cellKey = some cellId ∧ token = fence
  | _ => False

/-- A new assignment takes the next generation and a higher fence and enters both at the end
    of the history; nothing else touches the generation, the fence or the history. -/
def AssignmentStep (ids : CellIds) (d : CellDirectoryDocument) (op : DirectoryOp)
    (d' : CellDirectoryDocument) : Prop :=
  ∀ cellId a, d.assignments.get? cellId = some a →
    ∃ a', d'.assignments.get? cellId = some a'
      ∧ (∀ fence, Assigns ids op cellId fence →
          a'.assignmentGeneration = a.assignmentGeneration + 1
            ∧ a'.authorityFencingToken = fence ∧ a.authorityFencingToken < fence
            ∧ a'.fencingHistory = a.fencingHistory.insert (a.assignmentGeneration + 1) fence)
      ∧ ((∀ fence, ¬ Assigns ids op cellId fence) →
          a'.assignmentGeneration = a.assignmentGeneration
            ∧ a'.authorityFencingToken = a.authorityFencingToken
            ∧ a'.fencingHistory = a.fencingHistory)

section steps

variable {ids : CellIds} {manifest : UniverseManifest} {proofCells : List CellKeyV1}
  {expected : OrdMap String CellAssignmentRecord} {d d' : CellDirectoryDocument}
  {op : DirectoryOp} {ops : List DirectoryOp}

theorem AssignmentStep.of_eq (h : d'.assignments = d.assignments)
    (hop : ∀ cellId fence, ¬ Assigns ids op cellId fence) : AssignmentStep ids d op d' := by
  intro cellId a ha
  refine ⟨a, by rw [h]; exact ha, ?_, fun _ => ⟨rfl, rfl, rfl⟩⟩
  intro fence hassigns
  exact absurd hassigns (hop cellId fence)

theorem AssignmentStep.of_assign {cellId holderId : String} {fence : Nat} {a}
    (ha : d.assignments.get? cellId = some a) (hfence : a.authorityFencingToken < fence)
    (hop : ∀ cellId' fence', Assigns ids op cellId' fence' ↔ cellId' = cellId ∧ fence' = fence) :
    AssignmentStep ids d op (d.withAssignment cellId (a.assign holderId fence)) := by
  intro cellId' b hb
  by_cases hc : cellId' = cellId
  · subst hc
    obtain rfl := Option.mem_unique ha hb
    refine ⟨_, OrdMap.get?_insert_self, ?_, ?_⟩
    · intro fence' hassigns
      obtain ⟨-, rfl⟩ := (hop _ _).mp hassigns
      exact ⟨rfl, rfl, hfence, rfl⟩
    · intro hnone
      exact absurd ((hop _ _).mpr ⟨rfl, rfl⟩) (hnone fence)
  · refine ⟨b, by simpa [hc] using hb, ?_, fun _ => ⟨rfl, rfl, rfl⟩⟩
    intro fence' hassigns
    exact absurd ((hop _ _).mp hassigns).1 hc

theorem assignmentStep_transition (ht : Transition ids d op d') :
    AssignmentStep ids d op d' := by
  cases ht with
  | retry hop =>
    refine .of_eq rfl ?_
    intro cellId fence hassigns
    cases op with
    | claim | recoverAssignment => exact hop
    | _ => exact hassigns
  | registerPlacement | prepareTransfer | recordSourcePrepared | recordQuarantine |
    commitTransfer | recordImported | finalizeTransfer | requestAbort | recordAbortCleanup |
    finalizeAbort => exact .of_eq rfl (fun _ _ h => h)
  | claim _ hid ha _ _ hfence | recoverAssignment _ hid ha _ _ hfence =>
    refine .of_assign ha hfence ?_
    intro cellId' fence'
    simp [Assigns, hid, eq_comm]
  | @release _ _ cellId a _ ha =>
    intro cellId' b hb
    by_cases hc : cellId' = cellId
    · subst hc
      obtain rfl := Option.mem_unique ha hb
      exact ⟨_, OrdMap.get?_insert_self, fun _ h => absurd h id, fun _ => ⟨rfl, rfl, rfl⟩⟩
    · exact ⟨b, by simpa [hc] using hb, fun _ h => absurd h id, fun _ => ⟨rfl, rfl, rfl⟩⟩

/-! ## Proofs on record -/

/-- A proof a transfer carries, of any of the five kinds. -/
inductive RecordedProof where
  | prepare (proof : CellTransferPrepareProof)
  | quarantine (proof : CellTransferQuarantineProof)
  | imported (proof : CellTransferImportProof)
  | finalization (proof : CellTransferFinalizationProof)
  | cleanup (proof : CellTransferAbortProof)
deriving DecidableEq

namespace RecordedProof

/-- The cell whose event the proof binds. -/
def cellId : RecordedProof → String
  | .prepare proof => proof.sourceCellId
  | .quarantine proof => proof.destinationCellId
  | .imported proof => proof.destinationCellId
  | .finalization proof => proof.sourceCellId
  | .cleanup proof => proof.cellId

/-- The assignment generation the event happened under. -/
def generation : RecordedProof → Nat
  | .prepare proof => proof.sourceAssignmentGeneration
  | .quarantine proof => proof.destinationAssignmentGeneration
  | .imported proof => proof.destinationAssignmentGeneration
  | .finalization proof => proof.sourceAssignmentGeneration
  | .cleanup proof => proof.assignmentGeneration

/-- The fence the event was signed with. -/
def fence : RecordedProof → Nat
  | .prepare proof => proof.sourceFencingToken
  | .quarantine proof => proof.destinationFencingToken
  | .imported proof => proof.destinationFencingToken
  | .finalization proof => proof.sourceFencingToken
  | .cleanup proof => proof.fencingToken

end RecordedProof

/-- Every proof on record, in the order a transfer can collect them. -/
def CellTransferRecord.proofs (t : CellTransferRecord) : List RecordedProof :=
  (t.sourcePrepareProof.map .prepare).toList
    ++ (t.destinationQuarantineProof.map .quarantine).toList
    ++ (t.importProof.map .imported).toList
    ++ (t.finalizationProof.map .finalization).toList
    ++ (t.sourceAbortProof.map .cleanup).toList
    ++ (t.destinationAbortProof.map .cleanup).toList

variable {t : CellTransferRecord} {proof : RecordedProof}

theorem CellTransferRecord.mem_proofs :
    proof ∈ t.proofs ↔
      (∃ p, t.sourcePrepareProof = some p ∧ .prepare p = proof)
        ∨ (∃ p, t.destinationQuarantineProof = some p ∧ .quarantine p = proof)
        ∨ (∃ p, t.importProof = some p ∧ .imported p = proof)
        ∨ (∃ p, t.finalizationProof = some p ∧ .finalization p = proof)
        ∨ (∃ p, t.sourceAbortProof = some p ∧ .cleanup p = proof)
        ∨ (∃ p, t.destinationAbortProof = some p ∧ .cleanup p = proof) := by
  simp [CellTransferRecord.proofs]

/-! A proof that binds its transfer is about a cell of the transfer. -/

theorem cell_of_validatePrepareProof {p} (h : validatePrepareProof t p = .ok ()) :
    p.sourceCellId = t.sourceCellId := by
  simp only [validatePrepareProof, bind_eq_ok, rejectIf_eq_ok, not_or, not_not] at h
  obtain ⟨-, -, -, -, -, -, hcell, -⟩ := h
  exact hcell

theorem cell_of_validateQuarantineProof {p} (h : validateQuarantineProof t p = .ok ()) :
    p.destinationCellId = t.destinationCellId := by
  simp only [validateQuarantineProof, bind_eq_ok, rejectIf_eq_ok, not_or, not_not] at h
  obtain ⟨-, -, -, -, -, -, -, hcell, -⟩ := h
  exact hcell

theorem cell_of_validateImportProof {p} (h : validateImportProof t p = .ok ()) :
    p.destinationCellId = t.destinationCellId := by
  simp only [validateImportProof, bind_eq_ok, rejectIf_eq_ok, not_or, not_not] at h
  obtain ⟨-, -, -, -, -, -, -, hcell, -⟩ := h
  exact hcell

theorem cell_of_validateFinalizationProof {p} (h : validateFinalizationProof t p = .ok ()) :
    p.sourceCellId = t.sourceCellId := by
  simp only [validateFinalizationProof, bind_eq_ok, rejectIf_eq_ok, not_or, not_not] at h
  obtain ⟨-, -, -, -, -, -, hcell, -⟩ := h
  exact hcell

theorem cell_of_validateAbortProof {p} (h : validateAbortProof t p = .ok ()) :
    p.cellId = t.abortCellId p.role := by
  simp only [validateAbortProof, bind_eq_ok, rejectIf_eq_ok, not_or, not_not] at h
  obtain ⟨-, -, -, -, -, -, hcell, -⟩ := h
  exact hcell

variable {transferId : String}

theorem TransferOk.proof_bound (h : TransferOk d transferId t) (hmem : proof ∈ t.proofs) :
    FenceBound d proof.cellId proof.generation proof.fence := by
  rcases CellTransferRecord.mem_proofs.mp hmem with ⟨p, hp, rfl⟩ | ⟨p, hp, rfl⟩ | ⟨p, hp, rfl⟩ |
    ⟨p, hp, rfl⟩ | ⟨p, hp, rfl⟩ | ⟨p, hp, rfl⟩
  · obtain ⟨hv, hb⟩ := h.proofs.prepare p hp
    rwa [← cell_of_validatePrepareProof hv] at hb
  · obtain ⟨hv, hb, -⟩ := h.proofs.quarantine p hp
    rwa [← cell_of_validateQuarantineProof hv] at hb
  · obtain ⟨hv, hb⟩ := h.proofs.imported p hp
    rwa [← cell_of_validateImportProof hv] at hb
  · obtain ⟨hv, hb⟩ := h.proofs.finalization p hp
    rwa [← cell_of_validateFinalizationProof hv] at hb
  · obtain ⟨hv, hb, hrole⟩ := h.proofs.sourceAbort p hp
    have hcell := cell_of_validateAbortProof hv
    rw [hrole] at hcell
    show FenceBound d p.cellId _ _
    rw [hcell]
    exact hb
  · obtain ⟨hv, hb, hrole⟩ := h.proofs.destinationAbort p hp
    have hcell := cell_of_validateAbortProof hv
    rw [hrole] at hcell
    show FenceBound d p.cellId _ _
    rw [hcell]
    exact hb

/-- A transfer drops no proof. -/
def KeepsProofs (d d' : CellDirectoryDocument) : Prop :=
  ∀ transferId t, d.transfers.get? transferId = some t →
    ∃ t', d'.transfers.get? transferId = some t' ∧ ∀ proof ∈ t.proofs, proof ∈ t'.proofs

theorem KeepsProofs.refl (d : CellDirectoryDocument) : KeepsProofs d d :=
  fun _ t ht => ⟨t, ht, fun _ h => h⟩

theorem KeepsProofs.trans {d₁ d₂ d₃} (h : KeepsProofs d₁ d₂) (h' : KeepsProofs d₂ d₃) :
    KeepsProofs d₁ d₃ := by
  intro k t ht
  obtain ⟨t', ht', hsub⟩ := h k t ht
  obtain ⟨t'', ht'', hsub'⟩ := h' k t' ht'
  exact ⟨t'', ht'', fun proof hp => hsub' proof (hsub proof hp)⟩

theorem KeepsProofs.of_insert {t t'} (h : d'.transfers = d.transfers.insert transferId t')
    (ht : d.transfers.get? transferId = some t) (hsub : ∀ proof ∈ t.proofs, proof ∈ t'.proofs) :
    KeepsProofs d d' := by
  intro k u hu
  by_cases hc : k = transferId
  · subst hc
    obtain rfl := Option.mem_unique ht hu
    exact ⟨t', by simp [h], hsub⟩
  · exact ⟨u, by simpa [h, hc] using hu, fun _ hp => hp⟩

/-- Each recording writes a proof where the phase says that there was none. -/
theorem Consistent.keepsProofs (hd : Consistent ids manifest expected d)
    (ht : Transition ids d op d') : KeepsProofs d d' := by
  cases ht with
  | retry | claim | release | recoverAssignment | registerPlacement => exact .refl d
  | @prepareTransfer _ transferId _ _ _ _ _ _ _ _ hnew =>
    intro k u hu
    have hc : k ≠ transferId := by
      intro he
      rw [he, hnew] at hu
      cases hu
    exact ⟨u, by simpa [hc] using hu, fun _ hp => hp⟩
  | recordSourcePrepared ht _ _ _ hnone =>
    refine .of_insert rfl ht ?_
    intro proof hp
    rw [CellTransferRecord.mem_proofs] at hp ⊢
    simp only [hnone, reduceCtorEq, false_and, exists_false, false_or] at hp
    exact .inr hp
  | recordQuarantine _ ht _ _ _ _ hnone =>
    have hquarantine := (hd.transfers ht).evidence.1
    rw [hnone, Option.isSome_none, Option.isSome_eq_false_iff, Option.isNone_iff_eq_none]
      at hquarantine
    refine .of_insert rfl ht ?_
    intro proof hp
    rw [CellTransferRecord.mem_proofs] at hp ⊢
    simp only [hquarantine, reduceCtorEq, false_and, exists_false, false_or] at hp
    exact hp.imp id .inr
  | commitTransfer ht | requestAbort ht | finalizeAbort ht =>
    exact .of_insert rfl ht fun _ hp => hp
  | recordImported ht _ _ hphase =>
    have he := (hd.transfers ht).evidence.2
    simp only [hphase] at he
    refine .of_insert rfl ht ?_
    intro proof hp
    rw [CellTransferRecord.mem_proofs] at hp ⊢
    simp only [he.2.2.1, reduceCtorEq, false_and, exists_false, false_or] at hp
    exact hp.imp id (Or.imp id .inr)
  | finalizeTransfer ht _ _ hphase =>
    have he := (hd.transfers ht).evidence.2
    simp only [hphase] at he
    refine .of_insert rfl ht ?_
    intro proof hp
    rw [CellTransferRecord.mem_proofs] at hp ⊢
    simp only [he.2.2.2.1, reduceCtorEq, false_and, exists_false, false_or] at hp
    exact hp.imp id (Or.imp id (Or.imp id .inr))
  | @recordAbortCleanup _ cleanup t _ _ ht _ _ _ _ hnone =>
    refine .of_insert rfl ht ?_
    intro proof hp
    rw [CellTransferRecord.mem_proofs] at hp ⊢
    cases hrole : cleanup.role with
    | source =>
      simp only [hrole, CellTransferRecord.abortProof] at hnone
      simp only [hnone, reduceCtorEq, false_and, exists_false, false_or] at hp
      simp only [CellTransferRecord.withAbortProof]
      exact hp.imp id (Or.imp id (Or.imp id (Or.imp id .inr)))
    | destination =>
      simp only [hrole, CellTransferRecord.abortProof] at hnone
      simp only [hnone, reduceCtorEq, false_and, exists_false, or_false] at hp
      simp only [CellTransferRecord.withAbortProof]
      exact hp.imp id (Or.imp id (Or.imp id (Or.imp id .inl)))

/-! ## Pinned cells -/

/-- The cell is assigned now. -/
def Assigned (d : CellDirectoryDocument) (cellId : String) : Prop :=
  ∃ a, d.assignments.get? cellId = some a ∧ a.state = .assigned

/-- Both cells of every transfer that is not finished are assigned. -/
def Pinned (d : CellDirectoryDocument) : Prop :=
  ∀ transferId t, d.transfers.get? transferId = some t →
    ¬ (t.phase = .finalized ∨ t.phase = .aborted) →
      Assigned d t.sourceCellId ∧ Assigned d t.destinationCellId

variable {cellId : String}

theorem Assigned.of_eq (h : d'.assignments = d.assignments)
    (ha : Assigned d cellId) : Assigned d' cellId := by
  obtain ⟨a, ha, hs⟩ := ha
  exact ⟨a, by rw [h]; exact ha, hs⟩

theorem Assigned.withAssignment {cellId cellId' : String} {a : CellAssignmentRecord}
    (h : Assigned d cellId') (hs : a.state = .assigned ∨ cellId' ≠ cellId) :
    Assigned (d.withAssignment cellId a) cellId' := by
  by_cases hc : cellId' = cellId
  · subst hc
    exact ⟨a, OrdMap.get?_insert_self, hs.resolve_right (fun hne => hne rfl)⟩
  · obtain ⟨b, hb, hbs⟩ := h
    exact ⟨b, by simpa [hc] using hb, hbs⟩

theorem Pinned.of_insert (h : Pinned d) {t t'} (ha : d'.assignments = d.assignments)
    (hd : d'.transfers = d.transfers.insert transferId t')
    (ht : d.transfers.get? transferId = some t) (hsource : t'.sourceCellId = t.sourceCellId)
    (hdestination : t'.destinationCellId = t.destinationCellId)
    (hopen : ¬ (t.phase = .finalized ∨ t.phase = .aborted)) : Pinned d' := by
  intro k u hu hphase
  by_cases hc : k = transferId
  · subst hc
    rw [hd, OrdMap.get?_insert_self] at hu
    obtain rfl := Option.some.inj hu
    obtain ⟨hs, hdest⟩ := h k t ht hopen
    rw [hsource, hdestination]
    exact ⟨hs.of_eq ha, hdest.of_eq ha⟩
  · rw [hd, OrdMap.get?_insert_ne hc] at hu
    obtain ⟨hs, hdest⟩ := h k u hu hphase
    exact ⟨hs.of_eq ha, hdest.of_eq ha⟩

theorem Consistent.pinned_transition (hd : Consistent ids manifest expected d) (h : Pinned d)
    (ht : Transition ids d op d') : Pinned d' := by
  cases ht with
  | retry => exact h
  | registerPlacement =>
    intro k u hu hphase
    obtain ⟨hs, hdest⟩ := h k u hu hphase
    exact ⟨hs.of_eq rfl, hdest.of_eq rfl⟩
  | claim | recoverAssignment =>
    intro k u hu hphase
    obtain ⟨hs, hdest⟩ := h k u hu hphase
    exact ⟨hs.withAssignment (.inl rfl), hdest.withAssignment (.inl rfl)⟩
  | @release _ _ cellId a _ _ _ _ hfree =>
    intro k u hu hphase
    obtain ⟨hs, hdest⟩ := h k u hu hphase
    have hmem : u ∈ d.transfers.values := OrdMap.mem_values.mpr ⟨k, hu⟩
    -- the release was free of the transfer, so its cells are other cells
    have hother : u.sourceCellId ≠ cellId ∧ u.destinationCellId ≠ cellId := by
      rw [← not_or]
      intro hcell
      exact hfree ⟨u, hmem, hphase, hcell⟩
    exact ⟨hs.withAssignment (.inr hother.1), hdest.withAssignment (.inr hother.2)⟩
  | @prepareTransfer _ transferId _ _ p source destination _ _ _ _ hp hsource hdestination
      hsourceState hdestinationState =>
    intro k u hu hphase
    by_cases hc : k = transferId
    · subst hc
      obtain rfl := Option.mem_unique OrdMap.get?_insert_self hu
      have hs : d.assignments.get? p.cellId = some source :=
        hd.assignedAt_of_cellAt (hd.placements hp).cell hsource
      obtain ⟨-, hdest, -⟩ := hd.assignedAt_ok hdestination
      exact ⟨⟨source, hs, hsourceState⟩, ⟨destination, hdest, hdestinationState⟩⟩
    · rw [CellDirectoryDocument.withMove_transfers, OrdMap.get?_insert_ne hc] at hu
      obtain ⟨hs, hdest⟩ := h k u hu hphase
      exact ⟨hs.of_eq rfl, hdest.of_eq rfl⟩
  | recordSourcePrepared ht _ _ _ _ hphase | recordQuarantine _ ht _ _ _ hphase =>
    exact h.of_insert rfl rfl ht rfl rfl (by simp [hphase])
  | commitTransfer ht hphase | recordImported ht _ _ hphase | finalizeTransfer ht _ _ hphase
  | finalizeAbort ht hphase => exact h.of_insert rfl rfl ht rfl rfl (by simp [hphase])
  | requestAbort ht hphase =>
    refine h.of_insert rfl rfl ht rfl rfl ?_
    rcases hphase with hphase | hphase <;> simp [hphase]
  | @recordAbortCleanup _ proof _ _ _ ht hphase =>
    refine h.of_insert rfl rfl ht ?_ ?_ (by simp [hphase])
    · cases proof.role <;> simp [CellTransferRecord.withAbortProof]
    · cases proof.role <;> simp [CellTransferRecord.withAbortProof]

/-! ## What an operation presents -/

/-- The cell whose event the operation presents as proof, and the fence of that event. -/
def presented (d : CellDirectoryDocument) : DirectoryOp → Option (CellKeyV1 × Nat)
  | .recordSourcePrepared transferId proof =>
    (d.transfers.get? transferId).map fun t => (t.sourceCellKey, proof.sourceFencingToken)
  | .recordQuarantine transferId _ _ proof =>
    (d.transfers.get? transferId).map fun t =>
      (t.destinationCellKey, proof.destinationFencingToken)
  | .recordImported transferId proof =>
    (d.transfers.get? transferId).map fun t =>
      (t.destinationCellKey, proof.destinationFencingToken)
  | .finalizeTransfer transferId proof =>
    (d.transfers.get? transferId).map fun t => (t.sourceCellKey, proof.sourceFencingToken)
  | .recordAbortCleanup transferId proof =>
    (d.transfers.get? transferId).map fun t => (t.abortCellKey proof.role, proof.fencingToken)
  | _ => none

theorem fence_recorded (hd : Consistent ids manifest expected d) {cellKey : CellKeyV1} {a}
    {generation fence : Nat} (hb : FenceBound d cellId generation fence)
    (hcell : CellAt d cellId cellKey) (ha : assignedAt ids d cellKey a) :
    a.fencingHistory.get? generation = some fence := by
  obtain ⟨b, hb, hg⟩ := hb
  obtain rfl := Option.mem_unique (hd.assignedAt_of_cellAt hcell ha) hb
  exact hg

/-- An operation that is accepted presents a fence its cell has held: the fence is looked up
    in the history before a new proof is recorded, and a repeated proof is already bound. -/
theorem Consistent.presented_held (hd : Consistent ids manifest expected d)
    (ht : Transition ids d op d') {cellKey : CellKeyV1} {fence : Nat} {a}
    (hop : presented d op = some (cellKey, fence)) (ha : assignedAt ids d cellKey a) :
    ∃ generation, a.fencingHistory.get? generation = some fence := by
  have same : ∀ {b : CellAssignmentRecord}, assignedAt ids d cellKey b → b = a := by
    intro b hb
    obtain ⟨cellId, hid, hget⟩ := ha
    obtain ⟨cellId', hid', hget'⟩ := hb
    obtain rfl := Option.mem_unique hid hid'
    exact Option.mem_unique hget' hget
  cases ht with
  | claim | release | recoverAssignment | registerPlacement | prepareTransfer |
    commitTransfer | requestAbort | finalizeAbort => simp [presented] at hop
  | recordSourcePrepared ht hcell _ _ _ _ hhistory
  | recordQuarantine _ ht hcell _ _ _ _ _ _ hhistory | recordImported ht hcell _ _ _ _ _ hhistory
  | finalizeTransfer ht hcell _ _ _ _ hhistory | recordAbortCleanup ht _ hcell _ _ _ hhistory =>
    simp only [presented, ht, Option.map_some, Option.some.injEq, Prod.mk.injEq] at hop
    obtain ⟨rfl, rfl⟩ := hop
    exact ⟨_, same hcell ▸ hhistory⟩
  | retry hrepeats =>
    cases op with
    | claim | release | recoverAssignment | registerPlacement | prepareTransfer |
      commitTransfer | requestAbort | finalizeAbort => simp [presented] at hop
    | recordSourcePrepared transferId proof =>
      obtain ⟨t, generation, ht, hproof⟩ := hrepeats
      simp only [presented, ht, Option.map_some, Option.some.injEq, Prod.mk.injEq] at hop
      obtain ⟨rfl, rfl⟩ := hop
      have hok := hd.transfers ht
      exact ⟨_, fence_recorded hd (hok.proofs.prepare _ hproof).2 hok.source ha⟩
    | recordQuarantine transferId packageHash receiptHash proof =>
      obtain ⟨t, generation, ht, -, -, -, hproof⟩ := hrepeats
      simp only [presented, ht, Option.map_some, Option.some.injEq, Prod.mk.injEq] at hop
      obtain ⟨rfl, rfl⟩ := hop
      have hok := hd.transfers ht
      exact ⟨_, fence_recorded hd (hok.proofs.quarantine _ hproof).2.1 hok.destination ha⟩
    | recordImported transferId proof =>
      obtain ⟨t, generation, ht, -, hproof⟩ := hrepeats
      simp only [presented, ht, Option.map_some, Option.some.injEq, Prod.mk.injEq] at hop
      obtain ⟨rfl, rfl⟩ := hop
      have hok := hd.transfers ht
      exact ⟨_, fence_recorded hd (hok.proofs.imported _ hproof).2 hok.destination ha⟩
    | finalizeTransfer transferId proof =>
      obtain ⟨t, generation, ht, -, hproof⟩ := hrepeats
      simp only [presented, ht, Option.map_some, Option.some.injEq, Prod.mk.injEq] at hop
      obtain ⟨rfl, rfl⟩ := hop
      have hok := hd.transfers ht
      exact ⟨_, fence_recorded hd (hok.proofs.finalization _ hproof).2 hok.source ha⟩
    | recordAbortCleanup transferId proof =>
      obtain ⟨t, generation, ht, -, hproof⟩ := hrepeats
      simp only [presented, ht, Option.map_some, Option.some.injEq, Prod.mk.injEq] at hop
      obtain ⟨rfl, rfl⟩ := hop
      have hok := hd.transfers ht
      cases hrole : proof.role with
      | source =>
        simp only [hrole, CellTransferRecord.abortProof] at hproof
        simp only [hrole, CellTransferRecord.abortCellKey] at ha
        exact ⟨_, fence_recorded hd (hok.proofs.sourceAbort _ hproof).2.1 hok.source ha⟩
      | destination =>
        simp only [hrole, CellTransferRecord.abortProof] at hproof
        simp only [hrole, CellTransferRecord.abortCellKey] at ha
        exact ⟨_, fence_recorded hd (hok.proofs.destinationAbort _ hproof).2.1 hok.destination ha⟩

theorem assigns_above (ht : Transition ids d op d') {fence : Nat} {a}
    (hop : Assigns ids op cellId fence) (ha : d.assignments.get? cellId = some a) :
    a.authorityFencingToken < fence := by
  obtain ⟨a', -, hassign, -⟩ := assignmentStep_transition ht cellId a ha
  exact (hassign fence hop).2.2.1

/-! ## Runs -/

theorem Consistent.pinned_apply (h : Consistent ids manifest expected d ∧ Pinned d)
    (happly : apply ids d op = .ok d') : Consistent ids manifest expected d' ∧ Pinned d' :=
  ⟨h.1.of_apply happly, h.1.pinned_transition h.2 (transition_of_apply happly)⟩

theorem Pinned.of_run (hcells : canonicalAssignments ids manifest proofCells = .ok expected)
    (hrun : run ids (freshDocument manifest expected) ops = .ok d) : Pinned d := by
  have hfresh : Pinned (freshDocument manifest expected) := by
    intro k t ht
    simp [freshDocument] at ht
  exact (preserved_of_run Consistent.pinned_apply ⟨consistent_fresh hcells, hfresh⟩ hrun).2

theorem AssignmentStep.succeed (hd : Consistent ids manifest expected d)
    (h : AssignmentStep ids d op d') {generation fence : Nat}
    (hb : FenceBound d cellId generation fence) : FenceBound d' cellId generation fence := by
  obtain ⟨a, ha, hg⟩ := hb
  obtain ⟨a', ha', hassign, hkeep⟩ := h cellId a ha
  by_cases hop : ∃ token, Assigns ids op cellId token
  · obtain ⟨token, hop⟩ := hop
    obtain ⟨-, -, -, hhistory⟩ := hassign token hop
    have hle := ((hd.assignments ha).history.isSome_iff.mp ⟨fence, hg⟩).2
    refine ⟨a', ha', ?_⟩
    rw [hhistory, OrdMap.get?_insert_ne (by omega)]
    exact hg
  · refine ⟨a', ha', ?_⟩
    rw [(hkeep (fun token h => hop ⟨token, h⟩)).2.2]
    exact hg

/-- What a later document still has of an earlier one: the past of every cell, and every
    proof. -/
def Remembers (d d' : CellDirectoryDocument) : Prop :=
  (∀ cellId generation fence, FenceBound d cellId generation fence →
      FenceBound d' cellId generation fence)
    ∧ KeepsProofs d d'

theorem Consistent.remembers_run (hd : Consistent ids manifest expected d)
    (h : run ids d ops = .ok d') : Remembers d d' := by
  refine relates_of_step (R := Remembers) Consistent.of_apply ?_ ?_ ?_ hd h
  · intro s op s' hs hstep
    have ht := transition_of_apply hstep
    exact ⟨fun _ _ _ => (assignmentStep_transition ht).succeed hs, hs.keepsProofs ht⟩
  · exact fun s => ⟨fun _ _ _ hb => hb, .refl s⟩
  · intro a b c hab hbc
    exact ⟨fun _ _ _ hb => hbc.1 _ _ _ (hab.1 _ _ _ hb), hab.2.trans hbc.2⟩

/-- The fence resolves to the generation and to no other, and the search of the directory
    finds it whenever the cell is assigned. -/
def ResolvesTo (d : CellDirectoryDocument) (t : CellTransferRecord) (proof : RecordedProof) :
    Prop :=
  ∃ a, d.assignments.get? proof.cellId = some a
    ∧ a.fencingHistory.get? proof.generation = some proof.fence
    ∧ (∀ generation, a.fencingHistory.get? generation = some proof.fence →
        generation = proof.generation)
    ∧ (a.state = .assigned →
        resolveProofGeneration t proof.generation proof.fence a = .ok proof.generation)

theorem Consistent.resolvesTo (hd : Consistent ids manifest expected d)
    (t : CellTransferRecord) (hb : FenceBound d proof.cellId proof.generation proof.fence) :
    ResolvesTo d t proof := by
  obtain ⟨a, ha, hg⟩ := hb
  have hhistory := (hd.assignments ha).history
  refine ⟨a, ha, hg, fun g hg' => hhistory.generation_unique hg' hg, fun hstate => ?_⟩
  exact resolveProofGeneration_eq_ok.mpr ⟨hhistory.resolves hstate hg, .inr rfl⟩

/-- The law of the fences, for every document the directory can reach and every run from
    it. -/
theorem fencing_law (hcells : canonicalAssignments ids manifest proofCells = .ok expected)
    {before : List DirectoryOp}
    (hreach : run ids (freshDocument manifest expected) before = .ok d)
    (hrun : run ids d ops = .ok d') :
    -- at every step, a new assignment advances the generation by one and the fence, and enters
    -- both in the history; no other step touches the three
    Along (apply ids) (fun s op => ∀ s', apply ids s op = .ok s' → AssignmentStep ids s op s')
        d ops
      -- the history lists the generations up to the current one, under rising fences, and a
      -- fence belongs to one generation
      ∧ (∀ cellId a, d'.assignments.get? cellId = some a →
          a.fencingHistory.keys = List.range' 1 a.assignmentGeneration
            ∧ (a.fencingHistory.get? a.assignmentGeneration).getD 0 = a.authorityFencingToken
            ∧ (∀ g g' f f', a.fencingHistory.get? g = some f →
                a.fencingHistory.get? g' = some f' → g < g' → f < f')
            ∧ (∀ g g' f, a.fencingHistory.get? g = some f →
                a.fencingHistory.get? g' = some f → g = g'))
      -- no entry of the history is changed or lost
      ∧ (∀ cellId a, d.assignments.get? cellId = some a →
          ∃ a', d'.assignments.get? cellId = some a'
            ∧ ∀ g f, a.fencingHistory.get? g = some f → a'.fencingHistory.get? g = some f)
      -- a recorded proof stays on record and resolves to its own generation, and while its
      -- transfer is unfinished its cells are assigned
      ∧ (∀ transferId t, d.transfers.get? transferId = some t →
          ∃ t', d'.transfers.get? transferId = some t'
            ∧ (∀ proof ∈ t.proofs, proof ∈ t'.proofs ∧ ResolvesTo d' t' proof)
            ∧ (¬ (t'.phase = .finalized ∨ t'.phase = .aborted) →
                Assigned d' t'.sourceCellId ∧ Assigned d' t'.destinationCellId))
      -- an operation that presents a fence its cell never held is refused, and so is a new
      -- assignment that does not raise the fence
      ∧ (∀ op cellKey fence a, presented d' op = some (cellKey, fence) →
          assignedAt ids d' cellKey a → (∀ g, a.fencingHistory.get? g ≠ some fence) →
          ∀ s, apply ids d' op ≠ .ok s)
      ∧ (∀ op cellId fence a, Assigns ids op cellId fence →
          d'.assignments.get? cellId = some a → fence ≤ a.authorityFencingToken →
          ∀ s, apply ids d' op ≠ .ok s) := by
  have hd := Consistent.of_run hcells hreach
  have hwhole := runAll_append_eq_ok.mpr ⟨d, hreach, hrun⟩
  have hd' : Consistent ids manifest expected d' := Consistent.of_run hcells hwhole
  have hremembers := hd.remembers_run hrun
  refine ⟨?_, ?_, ?_, ?_, ?_, ?_⟩
  · refine along_of_preserved Consistent.of_apply (fun {s op} hs s' hstep => ?_) hd
    exact assignmentStep_transition (transition_of_apply hstep)
  · intro cellId a ha
    have hhistory := (hd'.assignments ha).history
    exact ⟨hhistory.generations, hhistory.current,
      fun _ _ _ _ hg hg' hlt => hhistory.lt_of_lt hg hg' hlt,
      fun _ _ _ hg hg' => hhistory.generation_unique hg hg'⟩
  · intro cellId a ha
    have hcell : (d'.assignments.get? cellId).isSome := by
      have hkeys := (hd'.cells cellId).trans (hd.cells cellId).symm
      rw [ha] at hkeys
      cases hget : d'.assignments.get? cellId with
      | none => simp [hget] at hkeys
      | some a' => rfl
    obtain ⟨a', ha'⟩ := Option.isSome_iff_exists.mp hcell
    refine ⟨a', ha', fun g f hg => ?_⟩
    obtain ⟨b, hb, hgb⟩ := hremembers.1 cellId g f ⟨a, ha, hg⟩
    obtain rfl := Option.mem_unique ha' hb
    exact hgb
  · intro transferId t ht
    obtain ⟨t', ht', hsub⟩ := hremembers.2 transferId t ht
    refine ⟨t', ht', fun proof hp => ⟨hsub proof hp, ?_⟩, ?_⟩
    · exact hd'.resolvesTo t' (hremembers.1 _ _ _ ((hd.transfers ht).proof_bound hp))
    · exact Pinned.of_run hcells hwhole transferId t' ht'
  · intro op cellKey fence a hop ha hnone s hs
    obtain ⟨g, hg⟩ := hd'.presented_held (transition_of_apply hs) hop ha
    exact hnone g hg
  · intro op cellId fence a hop ha hle s hs
    exact absurd (assigns_above (transition_of_apply hs) hop ha) (not_lt.mpr hle)

/-! A source that is taken over between its event and the record of it: the event was signed
with fence 5 of the first generation, and the cell now holds fence 6 of the second. -/

def takenOver : List DirectoryOp :=
  [ .claim cellOriginKey 0 "worker-origin" 5,
    .claim { cellOriginKey with cellX := 501 } 0 "worker-east" 9,
    .registerPlacement "grid-mobile" .grid cellOriginKey,
    .prepareTransfer "grid-mobile" 1 "transfer-grid" { cellOriginKey with cellX := 501 }
      "690245e3efffc0cf73142adc956e42d8c0d959967104a85d34efdedbb222cc2e",
    .recoverAssignment cellOriginKey 1 "worker-origin-successor" 6 ]

def lateProof : CellTransferPrepareProof where
  transferId := "transfer-grid"
  packageHash := "690245e3efffc0cf73142adc956e42d8c0d959967104a85d34efdedbb222cc2e"
  sourceCellId := "5110e8ef07316dc5fc8cd48210915d3e879779c67dc3e11a9da0402656c76d17"
  sourceAssignmentGeneration := 0
  priorPlacementGeneration := 1
  sourceFencingToken := 5
  sourceEventSequence := 7
  sourceEventHash := "af1349b9f5f9a1a6a0404dea36dcc9499bcb25c9adc112b7cc9a93cae41f3262"
  sourceWorldHash := "af1349b9f5f9a1a6a0404dea36dcc9499bcb25c9adc112b7cc9a93cae41f3262"

/-- The source is taken over and the late proof of its last holder recorded: nothing on record
    goes. -/
theorem fencing_law_takenOver :
    ∃ expected d d', canonicalAssignments proofCellIds proofManifest proofCellKeys = .ok expected
      ∧ run proofCellIds (freshDocument proofManifest expected) takenOver = .ok d
      ∧ run proofCellIds d [.recordSourcePrepared "transfer-grid" lateProof] = .ok d'
      ∧ ∀ transferId t, d.transfers.get? transferId = some t →
          ∃ t', d'.transfers.get? transferId = some t'
            ∧ (∀ proof ∈ t.proofs, proof ∈ t'.proofs ∧ ResolvesTo d' t' proof)
            ∧ (¬ (t'.phase = .finalized ∨ t'.phase = .aborted) →
                Assigned d' t'.sourceCellId ∧ Assigned d' t'.destinationCellId) := by
  obtain ⟨expected, d', hcells, hrun, -⟩ :=
    @exists_run_of_ranFrom proofCellIds proofManifest proofCellKeys
      (takenOver ++ [.recordSourcePrepared "transfer-grid" lateProof])
      (fun _ _ => True) _ (by decide +kernel)
  obtain ⟨d, hbefore, hlast⟩ := runAll_append_eq_ok.mp hrun
  exact ⟨expected, d, d', hcells, hbefore, hlast, (fencing_law hcells hbefore hlast).2.2.2.1⟩

/-- The fence presented is not the one the assigned source holds, and its proof is recorded. -/
theorem past_fence_recorded :
    ∃ expected d d', canonicalAssignments proofCellIds proofManifest proofCellKeys = .ok expected
      ∧ run proofCellIds (freshDocument proofManifest expected) takenOver = .ok d
      ∧ (∃ a, assignedAt proofCellIds d cellOriginKey a ∧ a.state = .assigned
          ∧ presented d (.recordSourcePrepared "transfer-grid" lateProof)
              = some (cellOriginKey, 5)
          ∧ a.authorityFencingToken ≠ 5)
      ∧ apply proofCellIds d (.recordSourcePrepared "transfer-grid" lateProof) = .ok d'
      ∧ d' ≠ d := by
  obtain ⟨expected, d, hcells, hrun, ⟨hcell, hpresented⟩, hlast⟩ :=
    @exists_run_of_ranFrom proofCellIds proofManifest proofCellKeys takenOver
      (fun _ d =>
        ((d.assignments.get? lateProof.sourceCellId).any
            (fun a => a.state = .assigned ∧ a.authorityFencingToken ≠ 5)
          ∧ presented d (.recordSourcePrepared "transfer-grid" lateProof)
              = some (cellOriginKey, 5))
        ∧ (apply proofCellIds d (.recordSourcePrepared "transfer-grid" lateProof)).toOption.any
            (fun d' => d' ≠ d)) _ (by decide +kernel)
  obtain ⟨a, ha, hheld⟩ := (Option.any_eq_true _ _).mp hcell
  have hstate : a.state = .assigned ∧ a.authorityFencingToken ≠ 5 := by simpa using hheld
  obtain ⟨d', happly, hne⟩ := (Option.any_eq_true _ _).mp hlast
  have hchanged : d' ≠ d := by simpa using hne
  refine ⟨expected, d, d', hcells, hrun, ⟨a, ⟨_, rfl, ha⟩, hstate.1, hpresented, hstate.2⟩, ?_,
    hchanged⟩
  cases hd : apply proofCellIds d (.recordSourcePrepared "transfer-grid" lateProof) with
  | error e => simp [hd, Except.toOption] at happly
  | ok r => simpa [hd, Except.toOption] using happly

end steps

end Verse.Directory
