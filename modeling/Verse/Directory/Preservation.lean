import Verse.Directory.Invariant

/-!
# Accepted operations keep the directory consistent

Three shapes of update cover every transition: an assignment is replaced by one that has
forgotten nothing, a transfer is replaced by one that is still in order, or a placement and
the one transfer that holds it change together. Each shape has one lemma that says what the
rest of the document needs; a transition then only has to look at the records it writes.
-/

namespace Verse.Directory

open Lib

section shapes

variable {ids : CellIds} {manifest : UniverseManifest}
  {expected : OrdMap String CellAssignmentRecord} {d : CellDirectoryDocument}

variable {cellId : String}

variable (h : Consistent ids manifest expected d)

include h

theorem Consistent.withAssignment {a a'} (ha : d.assignments.get? cellId = some a)
    (hsucc : Succeeds a a') (hok : AssignmentOk ids cellId a') :
    Consistent ids manifest expected (d.withAssignment cellId a') := by
  have hs : CellsSucceed d (d.withAssignment cellId a') := .withAssignment ha hsucc
  refine ⟨h.schema, h.universeId, h.manifestHash, Nat.succ_ne_zero _, ?_, ?_, ?_, ?_⟩
  · intro cellId'
    by_cases hc : cellId' = cellId
    · subst hc
      simpa [ha, hsucc.cellKey] using h.cells cellId'
    · simpa [hc] using h.cells cellId'
  · intro cellId' b hb
    by_cases hc : cellId' = cellId
    · subst hc
      obtain rfl : a' = b := by simpa using hb
      exact hok
    · exact h.assignments (by simpa [hc] using hb)
  · exact fun hp => (h.placements hp).mono hs
  · exact fun ht => (h.transfers ht).mono hs fun p hp hm => ⟨p, hp, rfl, hm⟩

variable {aggregateId : String} {p : AggregatePlacementRecord}

theorem Consistent.withPlacement
    (hnew : d.placements.get? aggregateId = none)
    (hok : PlacementOk d aggregateId p) :
    Consistent ids manifest expected (d.withPlacement aggregateId p) := by
  have hs : CellsSucceed d (d.withPlacement aggregateId p) := .of_eq rfl
  refine ⟨h.schema, h.universeId, h.manifestHash, Nat.succ_ne_zero _, h.cells, h.assignments, ?_, ?_⟩
  · intro aggregateId' q hq
    by_cases hc : aggregateId' = aggregateId
    · subst hc
      obtain rfl : p = q := by simpa using hq
      exact hok.mono hs
    · exact (h.placements (by simpa [hc] using hq)).mono hs
  · intro transferId t ht
    refine (h.transfers ht).mono hs fun q hq hm => ⟨q, ?_, rfl, hm⟩
    have hne : t.aggregateId ≠ aggregateId := by
      intro he
      simp [he, hnew] at hq
    simpa [hne] using hq

variable {transferId : String} {t : CellTransferRecord}

theorem Consistent.withTransfer
    (hok : TransferOk d transferId t) :
    Consistent ids manifest expected (d.withTransfer transferId t) := by
  have hs : CellsSucceed d (d.withTransfer transferId t) := .of_eq rfl
  refine ⟨h.schema, h.universeId, h.manifestHash, Nat.succ_ne_zero _, h.cells, h.assignments, ?_, ?_⟩
  · exact fun hp => (h.placements hp).mono hs
  · intro transferId' u hu
    by_cases hc : transferId' = transferId
    · subst hc
      obtain rfl : t = u := by simpa using hu
      exact hok.mono hs fun p hp hm => ⟨p, hp, rfl, hm⟩
    · exact (h.transfers (by simpa [hc] using hu)).mono hs
        fun p hp hm => ⟨p, hp, rfl, hm⟩

/-- The placement of an aggregate moves with the transfer that holds it. Any other transfer
    of the aggregate is settled, so it only asks that the aggregate has not gone back. -/
theorem Consistent.withMove
    {p' : AggregatePlacementRecord}
    (hp : d.placements.get? aggregateId = some p)
    (hfree : ∀ transferId', transferId' ≠ transferId → p.activeTransferId ≠ some transferId')
    (hkind : p'.aggregateKind = p.aggregateKind) (hmoved : MovedOn p p')
    (hpok : PlacementOk d aggregateId p')
    (htok : TransferOk (d.withMove aggregateId p' transferId t) transferId t) :
    Consistent ids manifest expected (d.withMove aggregateId p' transferId t) := by
  have hs : CellsSucceed d (d.withMove aggregateId p' transferId t) := .of_eq rfl
  refine ⟨h.schema, h.universeId, h.manifestHash, Nat.succ_ne_zero _, h.cells, h.assignments, ?_, ?_⟩
  · intro aggregateId' q hq
    by_cases hc : aggregateId' = aggregateId
    · subst hc
      obtain rfl : p' = q := by simpa using hq
      exact hpok.mono hs
    · exact (h.placements (by simpa [hc] using hq)).mono hs
  · intro transferId' u hu
    by_cases hc : transferId' = transferId
    · subst hc
      obtain rfl : t = u := by simpa using hu
      exact htok
    · refine (h.transfers (by simpa [hc] using hu)).mono hs fun q hq hm => ?_
      by_cases ha : u.aggregateId = aggregateId
      · obtain rfl : p = q := by rw [ha, hp] at hq; exact Option.some.inj hq
        exact ⟨p', by simp [ha], hkind,
          placementMatches_of_settled hm (hm.settled (hfree _ hc)) hmoved⟩
      · exact ⟨q, by simpa [ha] using hq, rfl, hm⟩

variable {a : CellAssignmentRecord} {cellKey : CellKeyV1}

theorem Consistent.assignedAt_ok (ha : assignedAt ids d cellKey a) :
    ids.cellId cellKey = some a.cellId ∧ d.assignments.get? a.cellId = some a
      ∧ a.cellKey = cellKey := by
  obtain ⟨cellId, hid, hget⟩ := ha
  have hok := h.assignments hget
  rw [hok.filed]
  exact ⟨hid, hget, ids.injective hok.key hid⟩

theorem Consistent.assignedAt_of_cellAt
    (hcell : CellAt d cellId cellKey) (ha : assignedAt ids d cellKey a) :
    d.assignments.get? cellId = some a := by
  obtain ⟨b, hb, rfl⟩ := hcell
  obtain ⟨cellId', hid, hget⟩ := ha
  obtain rfl : cellId = cellId' := Option.some.inj ((h.assignments hb).key.symm.trans hid)
  exact hget

theorem Consistent.fenceBound {generation fence : Nat}
    (hcell : CellAt d cellId cellKey) (ha : assignedAt ids d cellKey a)
    (hhistory : a.fencingHistory.get? generation = some fence) :
    FenceBound d cellId generation fence :=
  ⟨a, h.assignedAt_of_cellAt hcell ha, hhistory⟩

omit h

end shapes

/-! ## Held placements -/

section held

variable {transferId : String} {t : CellTransferRecord} {p : AggregatePlacementRecord}

theorem heldAtSource.only (h : heldAtSource t transferId p) :
    ∀ transferId', transferId' ≠ transferId → p.activeTransferId ≠ some transferId' := by
  intro transferId' hne he
  rw [h.2.2.2] at he
  exact hne (Option.some.inj he).symm

theorem heldAtDestination.only (h : heldAtDestination t transferId p) :
    ∀ transferId', transferId' ≠ transferId → p.activeTransferId ≠ some transferId' := by
  intro transferId' hne he
  rw [h.2.2.2] at he
  exact hne (Option.some.inj he).symm

end held

/-! ## The transitions -/

section transitions

variable {ids : CellIds} {manifest : UniverseManifest}
  {expected : OrdMap String CellAssignmentRecord} {d d' : CellDirectoryDocument}
  {op : DirectoryOp}

/-! One record at a time: what each recording leaves of a transfer that was in order. -/

section records

variable {transferId : String} {t : CellTransferRecord}

variable (h : TransferOk d transferId t)

include h

theorem TransferOk.recordSourcePrepared {proof} (hphase : t.phase = .prepared)
    (hproof : validatePrepareProof t proof = .ok ())
    (hbound : FenceBound d t.sourceCellId proof.sourceAssignmentGeneration
      proof.sourceFencingToken) :
    TransferOk d transferId { t with sourcePrepareProof := some proof } where
  identity := { h.identity with }
  source := h.source
  destination := h.destination
  placement := h.placement
  proofs := { h.proofs with
    prepare := fun proof' hp => by
      obtain rfl := Option.some.inj hp
      exact ⟨hproof, hbound⟩ }
  evidence := by
    have he := h.evidence
    simp only [EvidenceAgrees, hphase] at he ⊢
    exact he

theorem TransferOk.recordQuarantine {proof : CellTransferQuarantineProof} {receiptHash : String}
    (hphase : t.phase = .prepared)
    (hprepared : t.sourcePrepareProof.isSome) (hreceipt : validBlake3Hex receiptHash)
    (hbinds : proof.quarantineReceiptHash = receiptHash)
    (hproof : validateQuarantineProof t proof = .ok ())
    (hbound : FenceBound d t.destinationCellId proof.destinationAssignmentGeneration
      proof.destinationFencingToken) :
    TransferOk d transferId { t with
      phase := .quarantined
      quarantineReceiptHash := some receiptHash
      destinationQuarantineProof := some proof } := by
  subst hbinds
  have he := h.evidence
  simp only [EvidenceAgrees, hphase] at he
  obtain ⟨-, hnone, himport, hfinal, hsourceAbort, hdestAbort⟩ := he
  exact {
    identity := { h.identity with }
    source := h.source
    destination := h.destination
    placement := by
      obtain ⟨p, hp, hkind, hm⟩ := h.placement
      refine ⟨p, hp, hkind, ?_⟩
      simpa [placementMatches, hphase] using hm
    proofs := {
      receipt := fun r hr => by
        obtain rfl := Option.some.inj hr
        exact hreceipt
      prepare := h.proofs.prepare
      quarantine := fun proof' hp => by
        obtain rfl := Option.some.inj hp
        refine ⟨?_, hbound, rfl⟩
        -- the receipt on record is now the one the proof binds
        simp only [validateQuarantineProof, bind_eq_ok, rejectIf_eq_ok, hnone] at hproof ⊢
        simpa using hproof
      imported := fun proof' hp => by simp [himport] at hp
      finalization := fun proof' hp => by simp [hfinal] at hp
      sourceAbort := h.proofs.sourceAbort
      destinationAbort := h.proofs.destinationAbort }
    evidence := by
      simp [EvidenceAgrees, hprepared, himport, hfinal, hsourceAbort, hdestAbort] }

/-- Only the placement clause reads the phase and the placement: the rest of a record in
    order stays in order when a step changes neither the identity nor the proofs. -/
theorem TransferOk.withPhase {phase} (hs : CellsSucceed d d')
    (hplacement : ∃ p, d'.placements.get? t.aggregateId = some p
      ∧ p.aggregateKind = t.aggregateKind
      ∧ placementMatches transferId { t with phase := phase } p)
    (hevidence : EvidenceAgrees { t with phase := phase }) :
    TransferOk d' transferId { t with phase := phase } where
  identity := { h.identity with }
  source := h.source.mono hs
  destination := h.destination.mono hs
  placement := hplacement
  proofs := { h.proofs.mono hs with }
  evidence := hevidence

theorem TransferOk.recordImported {proof} (hphase : t.phase = .committed)
    (hproof : validateImportProof t proof = .ok ())
    (hbound : FenceBound d t.destinationCellId proof.destinationAssignmentGeneration
      proof.destinationFencingToken) (hs : CellsSucceed d d')
    (hplacement : ∃ p, d'.placements.get? t.aggregateId = some p
      ∧ p.aggregateKind = t.aggregateKind
      ∧ placementMatches transferId
        { t with phase := .imported, importProof := some proof } p) :
    TransferOk d' transferId { t with phase := .imported, importProof := some proof } where
  identity := { h.identity with }
  source := h.source.mono hs
  destination := h.destination.mono hs
  placement := hplacement
  proofs := { h.proofs.mono hs with
    imported := fun proof' hp => by
      obtain rfl := Option.some.inj hp
      exact ⟨hproof, hbound.mono hs⟩ }
  evidence := by
    have he := h.evidence
    simp only [EvidenceAgrees, hphase] at he ⊢
    obtain ⟨hq, hr, hsrc, -, hf, hsa, hda⟩ := he
    exact ⟨hq, hr, hsrc, rfl, hf, hsa, hda⟩

theorem TransferOk.finalizeTransfer {proof} (hphase : t.phase = .imported)
    (hproof : validateFinalizationProof t proof = .ok ())
    (hbound : FenceBound d t.sourceCellId proof.sourceAssignmentGeneration
      proof.sourceFencingToken) :
    TransferOk d transferId { t with phase := .finalized, finalizationProof := some proof } where
  identity := { h.identity with }
  source := h.source
  destination := h.destination
  placement := by
    obtain ⟨p, hp, hkind, hm⟩ := h.placement
    refine ⟨p, hp, hkind, ?_⟩
    simpa [placementMatches, hphase] using hm
  proofs := { h.proofs with
    finalization := fun proof' hp => by
      obtain rfl := Option.some.inj hp
      exact ⟨hproof, hbound⟩ }
  evidence := by
    have he := h.evidence
    simp only [EvidenceAgrees, hphase] at he ⊢
    obtain ⟨hq, hr, hsrc, hi, -, hsa, hda⟩ := he
    exact ⟨hq, hr, hsrc, hi, rfl, hsa, hda⟩

theorem TransferOk.recordAbortCleanup {proof} (hphase : t.phase = .aborting)
    (hproof : validateAbortProof t proof = .ok ())
    (hbound : FenceBound d (t.abortCellId proof.role) proof.assignmentGeneration
      proof.fencingToken) :
    TransferOk d transferId (t.withAbortProof proof) := by
  have he := h.evidence
  simp only [EvidenceAgrees, hphase] at he
  cases hrole : proof.role with
  | source =>
    simp only [CellTransferRecord.abortCellId, hrole] at hbound
    simp only [CellTransferRecord.withAbortProof, hrole]
    exact {
      identity := { h.identity with }
      source := h.source
      destination := h.destination
      placement := h.placement
      proofs := { h.proofs with
        sourceAbort := fun proof' hp => by
          obtain rfl := Option.some.inj hp
          exact ⟨hproof, hbound, hrole⟩ }
      evidence := by simpa [EvidenceAgrees, hphase] using he }
  | destination =>
    simp only [CellTransferRecord.abortCellId, hrole] at hbound
    simp only [CellTransferRecord.withAbortProof, hrole]
    exact {
      identity := { h.identity with }
      source := h.source
      destination := h.destination
      placement := h.placement
      proofs := { h.proofs with
        destinationAbort := fun proof' hp => by
          obtain rfl := Option.some.inj hp
          exact ⟨hproof, hbound, hrole⟩ }
      evidence := by simpa [EvidenceAgrees, hphase] using he }

theorem TransferOk.abortCellAt (role : TransferAbortRole) :
    CellAt d (t.abortCellId role) (t.abortCellKey role) := by
  cases role with
  | source => exact h.source
  | destination => exact h.destination

omit h

end records

theorem consistent_of_transition (h : Consistent ids manifest expected d)
    (ht : Transition ids d op d') : Consistent ids manifest expected d' := by
  cases ht with
  | retry => exact h
  | claim hholder hid ha hstate hbound hfence
  | recoverAssignment hholder hid ha hstate hbound hfence =>
    have hok := h.assignments ha
    exact h.withAssignment ha (.assign hok.history) (hok.assign hholder hfence)
  | release hid ha hstate hholder hfree =>
    exact h.withAssignment ha ⟨rfl, id⟩ (h.assignments ha).sleep
  | registerPlacement haggregate ha hnew =>
    obtain ⟨-, hget, hkey⟩ := h.assignedAt_ok ha
    exact h.withPlacement hnew
      ⟨haggregate, rfl, Nat.one_ne_zero, ⟨_, hget, hkey⟩, rfl⟩
  | @prepareTransfer aggregateId transferId packageHash destinationCellKey p source destination
      haggregate htransfer hpackage hnew hp hsource hdestination hsourceState hdestState
      hresident hidle hdistinct hbound =>
    have hpok := h.placements hp
    obtain ⟨-, hdestGet, hdestKey⟩ := h.assignedAt_ok hdestination
    have hsourceGet := h.assignedAt_of_cellAt hpok.cell hsource
    refine h.withMove hp (fun k _ => by simp [hidle]) rfl (.inr ⟨rfl, rfl⟩)
      ⟨hpok.canonical, hpok.filed, hpok.generation, hpok.cell, rfl⟩ ?_
    exact {
      identity := {
        canonical := htransfer
        aggregate := haggregate
        package := hpackage
        filed := rfl
        distinct := hdistinct
        sourceGeneration := (h.assignments hsourceGet).generation_ne_zero hsourceState
        destinationGeneration := (h.assignments hdestGet).generation_ne_zero hdestState
        priorGeneration := hpok.generation
        resulting := checkedAdd_eq_some.mpr ⟨hbound, rfl⟩ }
      source := hpok.cell
      destination := ⟨destination, hdestGet, hdestKey⟩
      placement := ⟨_, OrdMap.get?_insert_self, rfl, rfl, rfl, rfl, rfl⟩
      proofs := by constructor <;> simp [preparedTransfer]
      evidence := by simp [EvidenceAgrees, preparedTransfer] }
  | recordSourcePrepared ht hsource hresolves hproof hnone hphase hhistory =>
    have hok := h.transfers ht
    exact h.withTransfer
      (hok.recordSourcePrepared hphase hproof (h.fenceBound hok.source hsource hhistory))
  | recordQuarantine hreceipt ht hdestination hresolves hbinds hphase hnone hprepared hproof
      hhistory =>
    have hok := h.transfers ht
    exact h.withTransfer (hok.recordQuarantine hphase hprepared hreceipt hbinds hproof
      (h.fenceBound hok.destination hdestination hhistory))
  | @commitTransfer transferId t p source destination ht hphase hreceipt hprepared hquarantined
      hsource hdestination hp hheld =>
    have hok := h.transfers ht
    have hpok := h.placements hp
    have hres := checkedAdd_eq_some.mp hok.identity.resulting
    refine h.withMove hp hheld.only rfl (.inl ?_)
      ⟨hpok.canonical, hpok.filed, ?_, hok.destination, ?_⟩ (hok.withPhase (.of_eq rfl) ?_ ?_)
    · rw [hheld.2.2.1, ← hres.2]
      exact Nat.lt_succ_self _
    · rw [← hres.2]
      exact Nat.succ_ne_zero _
    · simp [AggregatePlacementRecord.bindingAgrees, hheld.2.2.2]
    · obtain ⟨q, hq, hkind, -⟩ := hok.placement
      obtain rfl := Option.mem_unique hp hq
      exact ⟨_, OrdMap.get?_insert_self, hkind, rfl, rfl, rfl, hheld.2.2.2⟩
    · have he := hok.evidence
      simp only [EvidenceAgrees, hphase] at he
      exact he
  | @recordImported transferId proof t p destination generation ht hdestination hresolves hphase
      hp hheld hproof hhistory =>
    have hok := h.transfers ht
    have hpok := h.placements hp
    refine h.withMove hp hheld.only rfl (.inr ⟨rfl, rfl⟩)
      ⟨hpok.canonical, hpok.filed, hpok.generation, hpok.cell, rfl⟩
      (hok.recordImported hphase hproof (h.fenceBound hok.destination hdestination hhistory)
        (.of_eq rfl) ?_)
    obtain ⟨q, hq, hkind, -⟩ := hok.placement
    obtain rfl := Option.mem_unique hp hq
    exact ⟨_, OrdMap.get?_insert_self, hkind, .inr ⟨hheld.2.2.1, hheld.2.1⟩⟩
  | finalizeTransfer ht hsource hresolves hphase hp hproof hhistory =>
    have hok := h.transfers ht
    exact h.withTransfer
      (hok.finalizeTransfer hphase hproof (h.fenceBound hok.source hsource hhistory))
  | @requestAbort transferId t p ht hphase hp hheld =>
    have hok := h.transfers ht
    refine h.withTransfer (hok.withPhase (.of_eq rfl) ?_ ?_)
    · obtain ⟨q, hq, hkind, -⟩ := hok.placement
      obtain rfl := Option.mem_unique hp hq
      exact ⟨p, hp, hkind, hheld⟩
    · have he := hok.evidence
      rcases hphase with hphase | hphase <;> simp only [EvidenceAgrees, hphase] at he ⊢
      · exact ⟨he.1, he.2.2.1, he.2.2.2.1⟩
      · exact ⟨he.1, he.2.2.2.1, he.2.2.2.2.1⟩
  | recordAbortCleanup ht hphase hcell hresolves hproof hnone hhistory =>
    have hok := h.transfers ht
    exact h.withTransfer (hok.recordAbortCleanup hphase hproof
      (h.fenceBound (hok.abortCellAt _) hcell hhistory))
  | @finalizeAbort transferId t p ht hphase hsource hdestination hp hheld =>
    have hok := h.transfers ht
    have hpok := h.placements hp
    refine h.withMove hp hheld.only rfl (.inr ⟨rfl, rfl⟩)
      ⟨hpok.canonical, hpok.filed, hpok.generation, hpok.cell, rfl⟩
      (hok.withPhase (.of_eq rfl) ?_ ?_)
    · obtain ⟨q, hq, hkind, -⟩ := hok.placement
      obtain rfl := Option.mem_unique hp hq
      exact ⟨_, OrdMap.get?_insert_self, hkind, .inr ⟨hheld.2.2.1, hheld.2.1⟩⟩
    · have he := hok.evidence
      simp only [EvidenceAgrees, hphase] at he ⊢
      exact ⟨he.1, he.2.1, he.2.2, hsource, hdestination⟩

theorem Consistent.of_apply (h : Consistent ids manifest expected d)
    (happly : apply ids d op = .ok d') : Consistent ids manifest expected d' :=
  consistent_of_transition h (transition_of_apply happly)

end transitions

end Verse.Directory
