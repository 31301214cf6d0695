import Verse.Directory.Fencing

/-!
# Whether a committed transfer can always be brought to its end

After the commit there is no way back: the import must be recorded, and then the transfer
finalized. The record of an import only needs the placement the commit left, which nothing
else may touch. Finalizing asks for more, that the aggregate still be at rest where the
transfer brought it; and an imported aggregate may be prepared for its next transfer before
the last one is finalized. `AtRest` is what finalizing asks, and `Overtakes` the one operation
that takes it away.
-/

namespace Verse.Directory

open Lib

section rollForward

variable {ids : CellIds} {manifest : UniverseManifest} {proofCells : List CellKeyV1}
  {expected : OrdMap String CellAssignmentRecord} {d d' : CellDirectoryDocument}
  {op : DirectoryOp} {ops : List DirectoryOp} {transferId : String} {t : CellTransferRecord}

/-- Some proof records the import of the transfer. -/
def Importable (ids : CellIds) (d : CellDirectoryDocument) (transferId : String) : Prop :=
  ∃ proof r, proof.transferId = transferId ∧ recordImported ids d transferId proof = .ok r

/-- Some proof, of the transfer and under a fence its source has held, finalizes it. -/
def Finalizable (ids : CellIds) (d : CellDirectoryDocument) (transferId : String)
    (t : CellTransferRecord) : Prop :=
  ∃ proof r, proof.transferId = transferId
    ∧ (∃ generation, FenceBound d t.sourceCellId generation proof.sourceFencingToken)
    ∧ finalizeTransfer ids d transferId proof = .ok r

/-- Every transfer past its commit can take its next step. -/
def RollsForward (ids : CellIds) (d : CellDirectoryDocument) : Prop :=
  ∀ transferId t, d.transfers.get? transferId = some t →
    (t.phase = .committed → Assigned d t.destinationCellId → Importable ids d transferId)
      ∧ (t.phase = .imported → Assigned d t.sourceCellId → Finalizable ids d transferId t)

/-- The aggregate of every imported transfer is at rest where the transfer brought it. -/
def AtRest (d : CellDirectoryDocument) : Prop :=
  ∀ transferId t p, d.transfers.get? transferId = some t → t.phase = .imported →
    d.placements.get? t.aggregateId = some p →
      p.state = .resident ∧ p.cellId = t.destinationCellId
        ∧ p.placementGeneration = t.resultingPlacementGeneration

/-- The revision can still advance, or nothing waits for it to. -/
def Roomy (d : CellDirectoryDocument) : Prop :=
  d.directoryRevision < u64Max
    ∨ ∀ transferId t, d.transfers.get? transferId = some t →
        t.phase ≠ .committed ∧ t.phase ≠ .imported

/-- The operation prepares a new transfer of an aggregate whose last one is imported and not
    yet finalized. -/
def Overtakes (d : CellDirectoryDocument) (op : DirectoryOp) : Prop :=
  ∃ aggregateId generation transferId destinationCellKey packageHash,
    op = .prepareTransfer aggregateId generation transferId destinationCellKey packageHash
      ∧ d.transfers.get? transferId = none
      ∧ ∃ transferId' t, d.transfers.get? transferId' = some t ∧ t.phase = .imported
          ∧ t.aggregateId = aggregateId

/-! ## What the two records ask for -/

/-- An import proof under the authority of the quarantine. -/
def importProofFrom (t : CellTransferRecord) (q : CellTransferQuarantineProof) :
    CellTransferImportProof where
  transferId := t.transferId
  packageHash := t.packageHash
  quarantineReceiptHash := q.quarantineReceiptHash
  destinationCellId := t.destinationCellId
  destinationAssignmentGeneration := q.destinationAssignmentGeneration
  resultingPlacementGeneration := t.resultingPlacementGeneration
  destinationFencingToken := q.destinationFencingToken
  destinationEventSequence := q.destinationEventSequence
  destinationEventHash := q.destinationEventHash
  destinationWorldHash := q.destinationWorldHash

/-- A finalization proof under the authority of the prepare. -/
def finalizationProofFrom (t : CellTransferRecord) (q : CellTransferPrepareProof) :
    CellTransferFinalizationProof where
  transferId := t.transferId
  packageHash := t.packageHash
  sourceCellId := t.sourceCellId
  sourceAssignmentGeneration := q.sourceAssignmentGeneration
  resultingPlacementGeneration := t.resultingPlacementGeneration
  sourceFencingToken := q.sourceFencingToken
  sourceEventSequence := q.sourceEventSequence
  sourceEventHash := q.sourceEventHash
  sourceWorldHash := q.sourceWorldHash

theorem validate_importProofFrom {q} (hq : validateQuarantineProof t q = .ok ())
    (hreceipt : t.quarantineReceiptHash = some q.quarantineReceiptHash) :
    validateImportProof t (importProofFrom t q) = .ok () := by
  simp only [validateQuarantineProof, validateHash, bind_eq_ok, rejectIf_eq_ok, not_or,
    not_not] at hq
  obtain ⟨-, hevent, -, hworld, -, -, -, -, hgeneration, -, hfence, hsequence⟩ := hq
  simp [validateImportProof, validateHash, importProofFrom, hevent, hworld, hreceipt,
    hgeneration, hfence, hsequence]

theorem validate_finalizationProofFrom {q} (hq : validatePrepareProof t q = .ok ()) :
    validateFinalizationProof t (finalizationProofFrom t q) = .ok () := by
  simp only [validatePrepareProof, validateHash, bind_eq_ok, rejectIf_eq_ok, not_or, not_not] at hq
  obtain ⟨-, hevent, -, hworld, -, -, -, hgeneration, -, hfence, hsequence⟩ := hq
  simp [validateFinalizationProof, validateHash, finalizationProofFrom, hevent, hworld, hfence,
    hsequence, not_lt.mp hgeneration]

theorem Assigned.resolves (hd : Consistent ids manifest expected d) {cellId : String}
    {cellKey : CellKeyV1} (hassigned : Assigned d cellId) (hcell : CellAt d cellId cellKey)
    {generation fence : Nat} (hb : FenceBound d cellId generation fence) :
    ∃ a, assignedAt ids d cellKey a ∧ Resolves a fence generation
      ∧ a.fencingHistory.get? generation = some fence := by
  obtain ⟨a, ha, hstate⟩ := hassigned
  obtain ⟨b, hb', hkey⟩ := hcell
  obtain ⟨c, hc, hg⟩ := hb
  rw [ha] at hb' hc
  obtain rfl := Option.some.inj hb'
  obtain rfl := Option.some.inj hc
  have hok := hd.assignments ha
  exact ⟨a, ⟨cellId, hkey ▸ hok.key, ha⟩, hok.history.resolves hstate hg, hg⟩

/-! The guards of the two records are also enough for them. -/

variable {p : AggregatePlacementRecord} {a : CellAssignmentRecord}

theorem recordImported_accepts {proof : CellTransferImportProof}
    (ht : d.transfers.get? transferId = some t) (hphase : t.phase = .committed)
    (ha : assignedAt ids d t.destinationCellKey a)
    (hresolves : Resolves a proof.destinationFencingToken proof.destinationAssignmentGeneration)
    (hget : a.fencingHistory.get? proof.destinationAssignmentGeneration
      = some proof.destinationFencingToken)
    (hp : d.placements.get? t.aggregateId = some p) (hheld : heldAtDestination t transferId p)
    (hproof : validateImportProof t proof = .ok ()) (hroom : d.directoryRevision < u64Max) :
    ∃ r, recordImported ids d transferId proof = .ok r := by
  obtain ⟨hstate, hcell, hgeneration, hactive⟩ := hheld
  have hresolve : resolveProofGeneration t proof.destinationAssignmentGeneration
      proof.destinationFencingToken a = .ok proof.destinationAssignmentGeneration :=
    resolveProofGeneration_eq_ok.mpr ⟨hresolves, .inr rfl⟩
  have hauthority : validateHistoricalProofAuthority t proof.destinationAssignmentGeneration
      proof.destinationFencingToken a = .ok () :=
    validateHistoricalProofAuthority_eq_ok.mpr hget
  have hcommit : ∀ next, commitDocument d next
      = .ok { next with directoryRevision := d.directoryRevision + 1 } :=
    fun next => commitDocument_eq_ok.mpr ⟨hroom, rfl⟩
  simp [recordImported, transfer_eq_ok.mpr ht, assignment_eq_ok.mpr ha, hresolve, hphase,
    placement_eq_ok.mpr hp, hstate, hcell, hgeneration, hactive, hproof, hauthority, hcommit]

theorem finalizeTransfer_accepts {proof : CellTransferFinalizationProof}
    (ht : d.transfers.get? transferId = some t) (hphase : t.phase = .imported)
    (ha : assignedAt ids d t.sourceCellKey a)
    (hresolves : Resolves a proof.sourceFencingToken proof.sourceAssignmentGeneration)
    (hget : a.fencingHistory.get? proof.sourceAssignmentGeneration = some proof.sourceFencingToken)
    (hp : d.placements.get? t.aggregateId = some p)
    (hrest : p.state = .resident ∧ p.cellId = t.destinationCellId
      ∧ p.placementGeneration = t.resultingPlacementGeneration)
    (hproof : validateFinalizationProof t proof = .ok ())
    (hroom : d.directoryRevision < u64Max) :
    ∃ r, finalizeTransfer ids d transferId proof = .ok r := by
  obtain ⟨hstate, hcell, hgeneration⟩ := hrest
  have hresolve : resolveProofGeneration t proof.sourceAssignmentGeneration
      proof.sourceFencingToken a = .ok proof.sourceAssignmentGeneration :=
    resolveProofGeneration_eq_ok.mpr ⟨hresolves, .inr rfl⟩
  have hauthority : validateHistoricalProofAuthority t proof.sourceAssignmentGeneration
      proof.sourceFencingToken a = .ok () :=
    validateHistoricalProofAuthority_eq_ok.mpr hget
  have hcommit : ∀ next, commitDocument d next
      = .ok { next with directoryRevision := d.directoryRevision + 1 } :=
    fun next => commitDocument_eq_ok.mpr ⟨hroom, rfl⟩
  simp [finalizeTransfer, transfer_eq_ok.mpr ht, assignment_eq_ok.mpr ha, hresolve, hphase,
    placement_eq_ok.mpr hp, hstate, hcell, hgeneration, hproof, hauthority, hcommit]

theorem importable_iff (hd : Consistent ids manifest expected d)
    (ht : d.transfers.get? transferId = some t) (hphase : t.phase = .committed)
    (hassigned : Assigned d t.destinationCellId) :
    Importable ids d transferId ↔ d.directoryRevision < u64Max := by
  have hok := hd.transfers ht
  constructor
  · intro h
    obtain ⟨proof, r, -, h⟩ := h
    simp only [recordImported, bind_eq_ok, transfer_eq_ok, ht, Option.some.injEq,
      exists_eq_left', hphase, reduceCtorEq, or_self, if_false, commitDocument_eq_ok] at h
    obtain ⟨-, -, -, -, -, -, -, -, -, -, -, -, -, ⟨hroom, -⟩, -⟩ := h
    exact hroom
  · intro hroom
    have he := hok.evidence
    simp only [EvidenceAgrees, hphase] at he
    obtain ⟨hsome, hreceipt, -⟩ := he
    rw [hreceipt] at hsome
    obtain ⟨q, hq⟩ := Option.isSome_iff_exists.mp hsome
    obtain ⟨hv, hb, hhash⟩ := hok.proofs.quarantine q hq
    obtain ⟨a, ha, hresolves, hget⟩ := hassigned.resolves hd hok.destination hb
    obtain ⟨p, hp, -, hheld⟩ := hok.placement
    simp only [placementMatches, hphase] at hheld
    obtain ⟨r, hr⟩ := recordImported_accepts  ht hphase ha
      hresolves hget hp hheld (validate_importProofFrom hv hhash) hroom
    exact ⟨importProofFrom t q, r, hok.identity.filed, hr⟩

theorem finalizable_iff (hd : Consistent ids manifest expected d)
    (ht : d.transfers.get? transferId = some t) (hphase : t.phase = .imported)
    (hassigned : Assigned d t.sourceCellId) :
    Finalizable ids d transferId t ↔
      d.directoryRevision < u64Max
        ∧ ∀ p, d.placements.get? t.aggregateId = some p →
            p.state = .resident ∧ p.cellId = t.destinationCellId
              ∧ p.placementGeneration = t.resultingPlacementGeneration := by
  have hok := hd.transfers ht
  constructor
  · intro h
    obtain ⟨proof, r, -, -, h⟩ := h
    simp only [finalizeTransfer, bind_eq_ok, transfer_eq_ok, placement_eq_ok, ht,
      Option.some.injEq, exists_eq_left', hphase, reduceCtorEq, if_false, rejectIf_eq_ok,
      not_or, not_not, commitDocument_eq_ok] at h
    obtain ⟨-, -, -, -, -, -, p, hp, -, hrest, -, -, -, -, -, ⟨hroom, -⟩, -⟩ := h
    refine ⟨hroom, fun q hq => ?_⟩
    obtain rfl := Option.mem_unique hp hq
    exact hrest
  · intro h
    obtain ⟨hroom, hrest⟩ := h
    have he := hok.evidence
    simp only [EvidenceAgrees, hphase] at he
    obtain ⟨q, hq⟩ := Option.isSome_iff_exists.mp he.2.2.1
    obtain ⟨hv, hb⟩ := hok.proofs.prepare q hq
    obtain ⟨a, ha, hresolves, hget⟩ := hassigned.resolves hd hok.source hb
    obtain ⟨p, hp, -⟩ := hok.placement
    obtain ⟨r, hr⟩ := finalizeTransfer_accepts  ht hphase ha
      hresolves hget hp (hrest p hp) (validate_finalizationProofFrom hv) hroom
    exact ⟨finalizationProofFrom t q, r, hok.identity.filed, ⟨_, hb⟩, hr⟩

theorem rollsForward_iff_atRest (hd : Consistent ids manifest expected d) (hpinned : Pinned d) :
    RollsForward ids d ↔ AtRest d ∧ Roomy d := by
  have assigned : ∀ {transferId t}, d.transfers.get? transferId = some t →
      t.phase = .committed ∨ t.phase = .imported →
        Assigned d t.sourceCellId ∧ Assigned d t.destinationCellId := by
    intro transferId t ht hphase
    refine hpinned transferId t ht ?_
    rcases hphase with hphase | hphase <;> simp [hphase]
  constructor
  · intro h
    constructor
    · intro transferId t p ht hphase hp
      have hassigned := (assigned ht (.inr hphase)).1
      exact ((finalizable_iff hd ht hphase hassigned).mp
        ((h transferId t ht).2 hphase hassigned)).2 p hp
    · -- a transfer that waits shows that there is room
      by_cases hwaits : ∃ transferId t, d.transfers.get? transferId = some t
          ∧ (t.phase = .committed ∨ t.phase = .imported)
      · obtain ⟨transferId, t, ht, hphase⟩ := hwaits
        obtain ⟨hsource, hdestination⟩ := assigned ht hphase
        rcases hphase with hphase | hphase
        · exact .inl ((importable_iff hd ht hphase hdestination).mp
            ((h transferId t ht).1 hphase hdestination))
        · exact .inl ((finalizable_iff hd ht hphase hsource).mp
            ((h transferId t ht).2 hphase hsource)).1
      · refine .inr fun transferId t ht => ?_
        rw [← not_or]
        exact fun hphase => hwaits ⟨transferId, t, ht, hphase⟩
  · intro h transferId t ht
    obtain ⟨hrest, hroomy⟩ := h
    have hroom : t.phase = .committed ∨ t.phase = .imported →
        d.directoryRevision < u64Max := by
      intro hphase
      refine hroomy.resolve_right fun hnone => ?_
      obtain ⟨hc, hi⟩ := hnone transferId t ht
      exact hphase.elim hc hi
    constructor
    · intro hphase hassigned
      exact (importable_iff hd ht hphase hassigned).mpr (hroom (.inl hphase))
    · intro hphase hassigned
      exact (finalizable_iff hd ht hphase hassigned).mpr
        ⟨hroom (.inr hphase), fun p hp => hrest transferId t p ht hphase hp⟩

/-! ## One step -/

variable {t' : CellTransferRecord}

theorem AtRest.withTransfer (h : AtRest d)
    (hphase : t'.phase ≠ .imported) : AtRest (d.withTransfer transferId t') := by
  intro k u p hu huphase hp
  by_cases hc : k = transferId
  · subst hc
    obtain rfl := Option.mem_unique OrdMap.get?_insert_self hu
    exact absurd huphase hphase
  · exact h k u p (by simpa [hc] using hu) huphase hp

theorem AtRest.withMove (h : AtRest d) {aggregateId : String} {p' : AggregatePlacementRecord}
    (hp : d.placements.get? aggregateId = some p)
    (hbusy : p.state ≠ .resident)
    (hwritten : t'.phase = .imported → t'.aggregateId = aggregateId →
      p'.state = .resident ∧ p'.cellId = t'.destinationCellId
        ∧ p'.placementGeneration = t'.resultingPlacementGeneration)
    (hsame : t'.phase = .imported → t'.aggregateId = aggregateId) :
    AtRest (d.withMove aggregateId p' transferId t') := by
  intro k u q hu huphase hq
  by_cases hc : k = transferId
  · subst hc
    obtain rfl := Option.mem_unique OrdMap.get?_insert_self hu
    rw [hsame huphase] at hq
    obtain rfl := Option.mem_unique OrdMap.get?_insert_self hq
    exact hwritten huphase (hsame huphase)
  · rw [CellDirectoryDocument.withMove_transfers, OrdMap.get?_insert_ne hc] at hu
    by_cases ha : u.aggregateId = aggregateId
    · exact absurd (h k u p hu huphase (ha ▸ hp)).1 hbusy
    · exact h k u q hu huphase (by simpa [ha] using hq)

theorem not_overtakes (hop : ∀ aggregateId generation transferId destinationCellKey packageHash,
    op ≠ .prepareTransfer aggregateId generation transferId destinationCellKey packageHash) :
    ¬ Overtakes d op := by
  intro h
  obtain ⟨aggregateId, generation, transferId, destination, packageHash, he, -⟩ := h
  exact hop _ _ _ _ _ he

theorem atRest_transition (hd : Consistent ids manifest expected d) (h : AtRest d)
    (ht : Transition ids d op d') : AtRest d' ↔ ¬ Overtakes d op := by
  cases ht with
  | retry hop =>
    refine iff_of_true h ?_
    intro hover
    obtain ⟨aggregateId, generation, transferId, destination, packageHash, rfl, hnone, -⟩ := hover
    obtain ⟨t, ht, -⟩ := hop
    rw [hnone] at ht
    cases ht
  | claim | release | recoverAssignment =>
    exact iff_of_true h (not_overtakes (by simp))
  | @registerPlacement aggregateId _ _ _ _ _ hnew =>
    refine iff_of_true ?_ (not_overtakes (by simp))
    intro k u p hu hphase hp
    have hne : u.aggregateId ≠ aggregateId := by
      intro he
      obtain ⟨q, hq, -⟩ := (hd.transfers hu).placement
      rw [he, hnew] at hq
      cases hq
    exact h k u p hu hphase (by simpa [hne] using hp)
  | @prepareTransfer aggregateId transferId packageHash destinationCellKey p _ _ _ _ _ hnew hp =>
    constructor
    · intro hrest hover
      obtain ⟨_, _, _, _, _, he, -, k, u, hu, hphase, haggregate⟩ := hover
      simp only [DirectoryOp.prepareTransfer.injEq] at he
      obtain ⟨rfl, -⟩ := he
      have hc : k ≠ transferId := by
        intro hk
        rw [hk, hnew] at hu
        cases hu
      have hmoving := hrest k u { p with state := .preparing, activeTransferId := some transferId }
        (by simpa [hc] using hu) hphase (by simp [haggregate])
      cases hmoving.1
    · intro hover k u q hu hphase hq
      by_cases hc : k = transferId
      · subst hc
        obtain rfl := Option.mem_unique OrdMap.get?_insert_self hu
        simp [preparedTransfer] at hphase
      · rw [CellDirectoryDocument.withMove_transfers, OrdMap.get?_insert_ne hc] at hu
        by_cases ha : u.aggregateId = aggregateId
        · exact absurd ⟨_, _, _, _, _, rfl, hnew, k, u, hu, hphase, ha⟩ hover
        · exact h k u q hu hphase (by simpa [ha] using hq)
  | recordSourcePrepared _ _ _ _ _ hphase =>
    exact iff_of_true (h.withTransfer (by simp [hphase])) (not_overtakes (by simp))
  | recordQuarantine | finalizeTransfer | requestAbort =>
    exact iff_of_true (h.withTransfer (by simp)) (not_overtakes (by simp))
  | @recordAbortCleanup _ proof _ _ _ _ hphase =>
    refine iff_of_true (h.withTransfer ?_) (not_overtakes (by simp))
    cases proof.role <;> simp [CellTransferRecord.withAbortProof, hphase]
  | commitTransfer _ _ _ _ _ _ _ hp hheld | finalizeAbort _ _ _ _ hp hheld =>
    refine iff_of_true (h.withMove hp ?_ (by simp) (by simp)) (not_overtakes (by simp))
    simp [hheld.1]
  | recordImported _ _ _ _ hp hheld =>
    refine iff_of_true (h.withMove hp ?_ ?_ (fun _ => rfl)) (not_overtakes (by simp))
    · simp [hheld.1]
    · exact fun _ _ => ⟨rfl, hheld.2.1, hheld.2.2.1⟩

/-! ## Runs -/

/-- Every transfer past its commit can be rolled forward in every document of a run exactly
    when no step of the run overtakes an imported transfer and the revision is not exhausted
    while a transfer waits. -/
theorem rollsForward_iff (hcells : canonicalAssignments ids manifest proofCells = .ok expected)
    (hrun : run ids (freshDocument manifest expected) ops = .ok d) :
    Throughout (apply ids) (RollsForward ids) (freshDocument manifest expected) ops ↔
      Along (apply ids) (fun s op => ¬ Overtakes s op) (freshDocument manifest expected) ops
        ∧ Throughout (apply ids) Roomy (freshDocument manifest expected) ops := by
  have hfresh : Consistent ids manifest expected (freshDocument manifest expected)
      ∧ Pinned (freshDocument manifest expected) :=
    ⟨consistent_fresh hcells,
      Pinned.of_run hcells (show run ids (freshDocument manifest expected) [] = .ok _ from rfl)⟩
  have hrest : AtRest (freshDocument manifest expected) := by
    intro k t p ht
    simp [freshDocument] at ht
  calc Throughout (apply ids) (RollsForward ids) (freshDocument manifest expected) ops
      ↔ Throughout (apply ids) (fun s => AtRest s ∧ Roomy s) (freshDocument manifest expected)
          ops := throughout_congr Consistent.pinned_apply
            (fun hs => rollsForward_iff_atRest hs.1 hs.2) hfresh
    _ ↔ Throughout (apply ids) AtRest (freshDocument manifest expected) ops
          ∧ Throughout (apply ids) Roomy (freshDocument manifest expected) ops :=
        throughout_and
    _ ↔ _ := and_congr_left' (throughout_iff_along
          (P := Consistent ids manifest expected) (fun hs _ hstep => hs.of_apply hstep)
          (fun _ hs hrests hstep => atRest_transition hs hrests (transition_of_apply hstep))
          hfresh.1 hrest hrun)

/-! An aggregate is moved to the east, and turned back before its source is finalized. -/

def turnedBack : List DirectoryOp :=
  [ .claim cellOriginKey 0 "worker-origin" 5,
    .claim eastCell 0 "worker-east" 9,
    .registerPlacement "player-local" .player cellOriginKey,
    .prepareTransfer "player-local" 1 "transfer-east" eastCell someHash,
    .recordSourcePrepared "transfer-east"
      { transferId := "transfer-east"
        packageHash := someHash
        sourceCellId := originId
        sourceAssignmentGeneration := 1
        priorPlacementGeneration := 1
        sourceFencingToken := 5
        sourceEventSequence := 1
        sourceEventHash := someHash
        sourceWorldHash := someHash },
    .recordQuarantine "transfer-east" someHash someHash
      { transferId := "transfer-east"
        packageHash := someHash
        quarantineReceiptHash := someHash
        destinationCellId := eastId
        destinationAssignmentGeneration := 1
        resultingPlacementGeneration := 2
        destinationFencingToken := 9
        destinationEventSequence := 1
        destinationEventHash := someHash
        destinationWorldHash := someHash },
    .commitTransfer "transfer-east" 1,
    .recordImported "transfer-east"
      { transferId := "transfer-east"
        packageHash := someHash
        quarantineReceiptHash := someHash
        destinationCellId := eastId
        destinationAssignmentGeneration := 1
        resultingPlacementGeneration := 2
        destinationFencingToken := 9
        destinationEventSequence := 2
        destinationEventHash := someHash
        destinationWorldHash := someHash },
    .prepareTransfer "player-local" 2 "transfer-origin" cellOriginKey someHash ]

/-- The grid turns back before the finalization of its crossing is asked for. -/
theorem rollsForward_iff_turnedBack :
    ∃ expected d, canonicalAssignments proofCellIds proofManifest proofCellKeys = .ok expected
      ∧ run proofCellIds (freshDocument proofManifest expected) turnedBack = .ok d
      ∧ (Throughout (apply proofCellIds) (RollsForward proofCellIds)
            (freshDocument proofManifest expected) turnedBack ↔
          Along (apply proofCellIds) (fun s op => ¬ Overtakes s op)
              (freshDocument proofManifest expected) turnedBack
            ∧ Throughout (apply proofCellIds) Roomy (freshDocument proofManifest expected)
                turnedBack) := by
  obtain ⟨expected, d, hcells, hrun, -⟩ :=
    @exists_run_of_ranFrom proofCellIds proofManifest proofCellKeys turnedBack
      (fun _ _ => True) _ (by decide +kernel)
  exact ⟨expected, d, hcells, hrun, rollsForward_iff hcells hrun⟩

/-- The transfer to the east is imported and its source assigned, and no proof finalizes it. -/
theorem not_rollsForward_turnedBack :
    ∃ expected d, canonicalAssignments proofCellIds proofManifest proofCellKeys = .ok expected
      ∧ run proofCellIds (freshDocument proofManifest expected) turnedBack = .ok d
      ∧ ¬ RollsForward proofCellIds d := by
  obtain ⟨expected, d, hcells, hrun, hfound⟩ :=
    @exists_run_of_ranFrom proofCellIds proofManifest proofCellKeys turnedBack
      (fun _ d =>
        (d.transfers.get? "transfer-east").any (fun t =>
          t.phase = .imported
            ∧ (d.assignments.get? t.sourceCellId).any (fun a => a.state = .assigned)
            ∧ (d.placements.get? t.aggregateId).any (fun p => p.state = .preparing)))
      _ (by decide +kernel)
  refine ⟨expected, d, hcells, hrun, fun hforward => ?_⟩
  obtain ⟨t, ht, hfacts⟩ := (Option.any_eq_true _ _).mp hfound
  simp only [decide_eq_true_eq] at hfacts
  obtain ⟨hphase, hcell, hplace⟩ := hfacts
  obtain ⟨a, ha, hstate⟩ := (Option.any_eq_true _ _).mp hcell
  obtain ⟨p, hp, hmoving⟩ := (Option.any_eq_true _ _).mp hplace
  simp only [decide_eq_true_eq] at hstate hmoving
  have hassigned : Assigned d t.sourceCellId := ⟨a, ha, hstate⟩
  have hd := Consistent.of_run hcells hrun
  have hrest := ((finalizable_iff hd ht hphase hassigned).mp
    ((hforward _ t ht).2 hphase hassigned)).2 p hp
  rw [hmoving] at hrest
  cases hrest.1

/-- The transfer back is asked for last. -/
example : (turnedBack.filter (· matches .prepareTransfer ..)).length = 2 := by decide

end rollForward

end Verse.Directory
