import Verse.Directory.Reopen
import Mathlib.Logic.Relation

/-!
# Where an aggregate lives

The directory is the single writer of residency: an aggregate is in one cell, under a
generation, and only a committed transfer moves it. `PlacementStep` says what one accepted
operation may do to the placements, `PhaseStep` what it may do to the phases; both are read
off the transitions. A run can then only take a phase along the edges of `TransferPhase.next`,
whose reachability decides which histories a transfer can have.

The placement an abort restores needs the whole distance from prepare to the end of the
abort: the record is written once, when the transfer is prepared, and the invariant ties the
placement to it for as long as the transfer holds the placement.
-/

namespace Verse.Directory

open Lib

/-! ## Phases -/

/-- The edges of the transfer graph. -/
inductive TransferPhase.next : TransferPhase → TransferPhase → Prop where
  | quarantine : next .prepared .quarantined
  | commit : next .quarantined .committed
  | arrive : next .committed .imported
  | finalize : next .imported .finalized
  | abortPrepared : next .prepared .aborting
  | abortQuarantined : next .quarantined .aborting
  | cleaned : next .aborting .aborted

/-- The phases a transfer can be in after some operations. -/
abbrev TransferPhase.leads : TransferPhase → TransferPhase → Prop :=
  Relation.ReflTransGen TransferPhase.next

variable {a b : TransferPhase}

/-- A transfer on one side of the commit decision stays on that side. -/
theorem TransferPhase.leads.decided (h : a.leads b) :
    ((a = .committed ∨ a = .imported ∨ a = .finalized) →
        b = .committed ∨ b = .imported ∨ b = .finalized)
      ∧ ((a = .aborting ∨ a = .aborted) → b = .aborting ∨ b = .aborted) := by
  induction h with
  | refl => exact ⟨id, id⟩
  | tail _ hstep ih =>
    obtain ⟨ihCommit, ihAbort⟩ := ih
    constructor
    · intro ha
      rcases ihCommit ha with rfl | rfl | rfl <;> cases hstep <;> simp
    · intro ha
      rcases ihAbort ha with rfl | rfl <;> cases hstep
      simp

theorem TransferPhase.leads.terminal (h : a.leads b)
    (ha : a = .finalized ∨ a = .aborted) : b = a := by
  induction h with
  | refl => rfl
  | tail _ hstep ih =>
    subst ih
    rcases ha with rfl | rfl <;> cases hstep

/-! ## Records over a run -/

/-- What a transfer carries from its prepare on, and how its phase moves. -/
structure Evolves (t t' : CellTransferRecord) : Prop where
  aggregateId : t'.aggregateId = t.aggregateId
  aggregateKind : t'.aggregateKind = t.aggregateKind
  sourceCellKey : t'.sourceCellKey = t.sourceCellKey
  sourceCellId : t'.sourceCellId = t.sourceCellId
  destinationCellKey : t'.destinationCellKey = t.destinationCellKey
  destinationCellId : t'.destinationCellId = t.destinationCellId
  priorPlacementGeneration : t'.priorPlacementGeneration = t.priorPlacementGeneration
  resultingPlacementGeneration : t'.resultingPlacementGeneration = t.resultingPlacementGeneration
  packageHash : t'.packageHash = t.packageHash
  phase : t.phase.leads t'.phase

theorem Evolves.refl (t : CellTransferRecord) : Evolves t t :=
  ⟨rfl, rfl, rfl, rfl, rfl, rfl, rfl, rfl, rfl, .refl⟩

variable {t t' : CellTransferRecord}

theorem Evolves.trans {t''} (h : Evolves t t') (h' : Evolves t' t'') :
    Evolves t t'' where
  aggregateId := h'.aggregateId.trans h.aggregateId
  aggregateKind := h'.aggregateKind.trans h.aggregateKind
  sourceCellKey := h'.sourceCellKey.trans h.sourceCellKey
  sourceCellId := h'.sourceCellId.trans h.sourceCellId
  destinationCellKey := h'.destinationCellKey.trans h.destinationCellKey
  destinationCellId := h'.destinationCellId.trans h.destinationCellId
  priorPlacementGeneration := h'.priorPlacementGeneration.trans h.priorPlacementGeneration
  resultingPlacementGeneration :=
    h'.resultingPlacementGeneration.trans h.resultingPlacementGeneration
  packageHash := h'.packageHash.trans h.packageHash
  phase := h.phase.trans h'.phase

/-- One accepted operation takes a phase along at most one edge. -/
def PhaseStep (d d' : CellDirectoryDocument) : Prop :=
  (∀ transferId t, d.transfers.get? transferId = some t →
      ∃ t', d'.transfers.get? transferId = some t' ∧ Evolves t t'
        ∧ (t'.phase = t.phase ∨ t.phase.next t'.phase))
    ∧ ∀ transferId t', d.transfers.get? transferId = none →
      d'.transfers.get? transferId = some t' → t'.phase = .prepared

/-- One accepted operation leaves the cell and the generation of a placement alone, unless it
    commits a transfer of the aggregate: then the generation advances by one and the cell
    becomes the destination. -/
def PlacementStep (d : CellDirectoryDocument) (op : DirectoryOp) (d' : CellDirectoryDocument) :
    Prop :=
  ∀ aggregateId p, d.placements.get? aggregateId = some p →
    ∃ p', d'.placements.get? aggregateId = some p' ∧
      ((p'.placementGeneration = p.placementGeneration ∧ p'.cellId = p.cellId
          ∧ p'.cellKey = p.cellKey)
        ∨ ∃ transferId t generation,
          op = .commitTransfer transferId generation
            ∧ d.transfers.get? transferId = some t ∧ t.phase = .quarantined
            ∧ d'.transfers.get? transferId = some { t with phase := .committed }
            ∧ t.aggregateId = aggregateId ∧ p.cellId = t.sourceCellId
            ∧ p'.placementGeneration = p.placementGeneration + 1
            ∧ p'.cellId = t.destinationCellId ∧ p'.cellKey = t.destinationCellKey)

section steps

variable {ids : CellIds} {manifest : UniverseManifest} {proofCells : List CellKeyV1}
  {expected : OrdMap String CellAssignmentRecord} {d d' : CellDirectoryDocument}
  {op : DirectoryOp} {ops : List DirectoryOp}

theorem PhaseStep.of_eq (h : d'.transfers = d.transfers) : PhaseStep d d' := by
  refine ⟨fun k t ht => ⟨t, by rw [h]; exact ht, .refl t, .inl rfl⟩, fun k t' hn ht => ?_⟩
  rw [h, hn] at ht
  cases ht

variable {transferId : String}

theorem PhaseStep.of_insert
    (h : d'.transfers = d.transfers.insert transferId t')
    (ht : d.transfers.get? transferId = some t) (he : Evolves t t')
    (hphase : t'.phase = t.phase ∨ t.phase.next t'.phase) : PhaseStep d d' := by
  constructor
  · intro k u hu
    by_cases hc : k = transferId
    · subst hc
      obtain rfl := Option.mem_unique ht hu
      exact ⟨t', by simp [h], he, hphase⟩
    · exact ⟨u, by simpa [h, hc] using hu, .refl u, .inl rfl⟩
  · intro k u hn hu
    have hc : k ≠ transferId := by
      rintro rfl
      rw [ht] at hn
      cases hn
    rw [h, OrdMap.get?_insert_ne hc, hn] at hu
    cases hu

theorem phaseStep_transition (ht : Transition ids d op d') : PhaseStep d d' := by
  cases ht with
  | retry | claim | release | recoverAssignment | registerPlacement =>
    exact .of_eq rfl
  | @prepareTransfer aggregateId transferId _ _ _ _ _ _ _ _ hnew =>
    constructor
    · intro k u hu
      have hc : k ≠ transferId := by
        rintro rfl
        rw [hnew] at hu
        cases hu
      exact ⟨u, by simpa [hc] using hu, .refl u, .inl rfl⟩
    · intro k u hn hu
      by_cases hc : k = transferId
      · subst hc
        obtain rfl := Option.mem_unique OrdMap.get?_insert_self hu
        rfl
      · rw [CellDirectoryDocument.withMove_transfers, OrdMap.get?_insert_ne hc, hn] at hu
        cases hu
  | recordSourcePrepared ht =>
    exact .of_insert rfl ht ⟨rfl, rfl, rfl, rfl, rfl, rfl, rfl, rfl, rfl, .refl⟩ (.inl rfl)
  | @recordQuarantine _ _ _ t _ _ _ ht _ _ _ hphase =>
    have hedge : t.phase.next .quarantined := hphase ▸ .quarantine
    exact .of_insert rfl ht
      ⟨rfl, rfl, rfl, rfl, rfl, rfl, rfl, rfl, rfl, .single hedge⟩ (.inr hedge)
  | @commitTransfer _ t _ _ _ ht hphase =>
    have hedge : t.phase.next .committed := hphase ▸ .commit
    exact .of_insert rfl ht
      ⟨rfl, rfl, rfl, rfl, rfl, rfl, rfl, rfl, rfl, .single hedge⟩ (.inr hedge)
  | @recordImported _ _ t _ _ _ ht _ _ hphase =>
    have hedge : t.phase.next .imported := hphase ▸ .arrive
    exact .of_insert rfl ht
      ⟨rfl, rfl, rfl, rfl, rfl, rfl, rfl, rfl, rfl, .single hedge⟩ (.inr hedge)
  | @finalizeTransfer _ _ t _ _ _ ht _ _ hphase =>
    have hedge : t.phase.next .finalized := hphase ▸ .finalize
    exact .of_insert rfl ht
      ⟨rfl, rfl, rfl, rfl, rfl, rfl, rfl, rfl, rfl, .single hedge⟩ (.inr hedge)
  | @requestAbort _ t _ ht hphase =>
    have hedge : t.phase.next .aborting := by
      rcases hphase with hphase | hphase
      · exact hphase ▸ .abortPrepared
      · exact hphase ▸ .abortQuarantined
    exact .of_insert rfl ht
      ⟨rfl, rfl, rfl, rfl, rfl, rfl, rfl, rfl, rfl, .single hedge⟩ (.inr hedge)
  | @recordAbortCleanup _ proof t _ _ ht =>
    refine .of_insert rfl ht ?_ ?_
    · cases proof.role <;> exact ⟨rfl, rfl, rfl, rfl, rfl, rfl, rfl, rfl, rfl, .refl⟩
    · cases proof.role <;> exact .inl rfl
  | @finalizeAbort _ t _ ht hphase =>
    have hedge : t.phase.next .aborted := hphase ▸ .cleaned
    exact .of_insert rfl ht
      ⟨rfl, rfl, rfl, rfl, rfl, rfl, rfl, rfl, rfl, .single hedge⟩ (.inr hedge)

theorem PlacementStep.of_eq (h : d'.placements = d.placements) : PlacementStep d op d' :=
  fun _ p hp => ⟨p, by rw [h]; exact hp, .inl ⟨rfl, rfl, rfl⟩⟩

variable {aggregateId : String} {p : AggregatePlacementRecord}

theorem PlacementStep.of_insert {p'} (h : d'.placements = d.placements.insert aggregateId p')
    (hp : d.placements.get? aggregateId = some p)
    (hsame : p'.placementGeneration = p.placementGeneration ∧ p'.cellId = p.cellId
      ∧ p'.cellKey = p.cellKey) : PlacementStep d op d' := by
  intro k q hq
  by_cases hc : k = aggregateId
  · subst hc
    obtain rfl := Option.mem_unique hp hq
    exact ⟨p', by simp [h], .inl hsame⟩
  · exact ⟨q, by simpa [h, hc] using hq, .inl ⟨rfl, rfl, rfl⟩⟩

theorem placementStep_transition (hd : Consistent ids manifest expected d)
    (ht : Transition ids d op d') : PlacementStep d op d' := by
  cases ht with
  | retry | claim | release | recoverAssignment | recordSourcePrepared |
    recordQuarantine | finalizeTransfer | requestAbort | recordAbortCleanup =>
    exact .of_eq rfl
  | @registerPlacement aggregateId _ _ _ _ _ hnew =>
    intro k q hq
    have hc : k ≠ aggregateId := by
      rintro rfl
      rw [hnew] at hq
      cases hq
    exact ⟨q, by simpa [hc] using hq, .inl ⟨rfl, rfl, rfl⟩⟩
  | prepareTransfer _ _ _ _ hp | recordImported _ _ _ _ hp | finalizeAbort _ _ _ _ hp =>
    exact .of_insert rfl hp ⟨rfl, rfl, rfl⟩
  | @commitTransfer transferId t p _ _ ht hphase _ _ _ _ _ hp hheld =>
    intro k q hq
    by_cases hc : k = t.aggregateId
    · subst hc
      obtain rfl := Option.mem_unique hp hq
      have hres := checkedAdd_eq_some.mp (hd.transfers ht).identity.resulting
      refine ⟨_, OrdMap.get?_insert_self, .inr ⟨transferId, t, _, rfl, ht, hphase,
        OrdMap.get?_insert_self, rfl, hheld.2.1, ?_, rfl, rfl⟩⟩
      show t.resultingPlacementGeneration = p.placementGeneration + 1
      rw [hheld.2.2.1, hres.2]
    · exact ⟨q, by simpa [hc] using hq, .inl ⟨rfl, rfl, rfl⟩⟩

/-! ## Runs -/

/-- Nothing the directory has on record is forgotten, and no generation goes back. -/
structure Advances (d d' : CellDirectoryDocument) : Prop where
  placements : ∀ aggregateId p, d.placements.get? aggregateId = some p →
    ∃ p', d'.placements.get? aggregateId = some p'
      ∧ p.placementGeneration ≤ p'.placementGeneration
  transfers : ∀ transferId t, d.transfers.get? transferId = some t →
    ∃ t', d'.transfers.get? transferId = some t' ∧ Evolves t t'

theorem Advances.refl (d : CellDirectoryDocument) : Advances d d :=
  ⟨fun _ p hp => ⟨p, hp, le_rfl⟩, fun _ t ht => ⟨t, ht, .refl t⟩⟩

theorem Advances.trans {d''} (h : Advances d d') (h' : Advances d' d'') : Advances d d'' := by
  constructor
  · intro k p hp
    obtain ⟨p', hp', hle⟩ := h.placements k p hp
    obtain ⟨p'', hp'', hle'⟩ := h'.placements k p' hp'
    exact ⟨p'', hp'', hle.trans hle'⟩
  · intro k t ht
    obtain ⟨t', ht', he⟩ := h.transfers k t ht
    obtain ⟨t'', ht'', he'⟩ := h'.transfers k t' ht'
    exact ⟨t'', ht'', he.trans he'⟩

theorem Consistent.advances_apply (hd : Consistent ids manifest expected d)
    (h : apply ids d op = .ok d') : Advances d d' := by
  have ht := transition_of_apply h
  constructor
  · intro k p hp
    obtain ⟨p', hp', ⟨hg, -, -⟩ | ⟨_, _, _, _, _, _, _, _, _, hg, -, -⟩⟩ :=
      placementStep_transition hd ht k p hp
    · exact ⟨p', hp', hg.ge⟩
    · exact ⟨p', hp', by omega⟩
  · intro k t hk
    obtain ⟨t', ht', he, -⟩ := (phaseStep_transition ht).1 k t hk
    exact ⟨t', ht', he⟩

theorem Consistent.advances_run (hd : Consistent ids manifest expected d)
    (h : run ids d ops = .ok d') : Advances d d' :=
  relates_of_step Consistent.of_apply Consistent.advances_apply .refl .trans hd h

theorem Consistent.holds_unique (hd : Consistent ids manifest expected d)
    {transferId' : String}
    (ht : d.transfers.get? transferId = some t) (ht' : d.transfers.get? transferId' = some t')
    (haggregate : t.aggregateId = t'.aggregateId) (hholds : t.phase.holdsPlacement)
    (hholds' : t'.phase.holdsPlacement) : transferId = transferId' := by
  obtain ⟨p, hp, -, hm⟩ := (hd.transfers ht).placement
  obtain ⟨p', hp', -, hm'⟩ := (hd.transfers ht').placement
  rw [haggregate, hp'] at hp
  obtain rfl := Option.some.inj hp
  exact Option.mem_unique (hm.active hholds) (hm'.active hholds')

variable {packageHash : String} {generation : Nat} {destinationCellKey : CellKeyV1}

theorem prepared_record
    (hnew : d.transfers.get? transferId = none)
    (hp : d.placements.get? aggregateId = some p)
    (ht : Transition ids d
      (.prepareTransfer aggregateId generation transferId destinationCellKey packageHash) d') :
    p.state = .resident ∧ p.activeTransferId = none ∧
      ∃ t, d'.transfers.get? transferId = some t ∧ t.aggregateId = aggregateId
        ∧ t.aggregateKind = p.aggregateKind ∧ t.sourceCellKey = p.cellKey
        ∧ t.sourceCellId = p.cellId ∧ t.priorPlacementGeneration = p.placementGeneration := by
  cases ht with
  | retry hop =>
    obtain ⟨t, ht, -⟩ := hop
    rw [hnew] at ht
    cases ht
  | prepareTransfer _ _ _ _ hp' _ _ _ _ hresident hidle =>
    obtain rfl := Option.mem_unique hp hp'
    exact ⟨hresident, hidle, _, OrdMap.get?_insert_self, rfl, rfl, rfl, rfl, rfl⟩

theorem CellAt.key_unique {cellId : String} {k k' : CellKeyV1} (h : CellAt d cellId k)
    (h' : CellAt d cellId k') : k = k' := by
  obtain ⟨a, ha, rfl⟩ := h
  obtain ⟨a', ha', rfl⟩ := h'
  rw [Option.mem_unique ha ha']

/-- From prepare to the end of an abort, whatever happens in between, the placement comes back
    exactly as it was. -/
theorem Consistent.abort_restores (hd : Consistent ids manifest expected d) {m}
    (hnew : d.transfers.get? transferId = none) (hp : d.placements.get? aggregateId = some p)
    (hrun : run ids d
      (.prepareTransfer aggregateId generation transferId destinationCellKey packageHash :: ops)
        = .ok m) (ht : m.transfers.get? transferId = some t) (hphase : t.phase = .aborting)
    (hend : apply ids m (.finalizeAbort transferId) = .ok d') :
    d'.placements.get? aggregateId = some p := by
  obtain ⟨d₁, hprepare, hrest⟩ := runAll_cons_eq_ok.mp hrun
  have hd₁ := hd.of_apply hprepare
  have hm : Consistent ids manifest expected m := preserved_of_run Consistent.of_apply hd₁ hrest
  obtain ⟨hresident, hidle, t₁, ht₁, hagg, hkind, hkey, hcell, hgen⟩ :=
    prepared_record hnew hp (transition_of_apply hprepare)
  obtain ⟨u, hu, hev⟩ := (hd₁.advances_run hrest).transfers transferId t₁ ht₁
  obtain rfl := Option.mem_unique ht hu
  -- what the invariant says of the placement just before the abort ends
  have htok := hm.transfers ht
  obtain ⟨q, hq, hqkind, hmatch⟩ := htok.placement
  simp only [placementMatches, hphase] at hmatch
  have hqok := hm.placements hq
  have hsource : CellAt m q.cellId t.sourceCellKey := by rw [hmatch.2.1]; exact htok.source
  have hqkey := hqok.cell.key_unique hsource
  have haggregate : t.aggregateId = aggregateId := hev.aggregateId.trans hagg
  have hback : { q with state := .resident, activeTransferId := none } = p := by
    have hfiled := (hd.placements hp).filed
    have hqfiled := hqok.filed
    obtain ⟨pid, pkind, pkey, pcell, pgen, pstate, pactive⟩ := p
    simp only at hresident hidle hkind hkey hcell hgen hfiled
    simp only [AggregatePlacementRecord.mk.injEq]
    refine ⟨?_, ?_, ?_, ?_, ?_, hresident.symm, hidle.symm⟩
    · rw [hqfiled, haggregate, hfiled]
    · rw [hqkind, hev.aggregateKind, hkind]
    · rw [hqkey, hev.sourceCellKey, hkey]
    · rw [hmatch.2.1, hev.sourceCellId, hcell]
    · rw [hmatch.2.2.1, hev.priorPlacementGeneration, hgen]
  cases transition_of_apply hend with
  | retry hop =>
    obtain ⟨u, hu, hu'⟩ := hop
    obtain rfl := Option.mem_unique ht hu
    rw [hphase] at hu'
    cases hu'
  | finalizeAbort hu _ _ _ hq' =>
    obtain rfl := Option.mem_unique ht hu
    obtain rfl := Option.mem_unique hq hq'
    rw [CellDirectoryDocument.withMove_placements, haggregate, hback, OrdMap.get?_insert_self]

/-- The law of residency, for every document the directory can reach and every run from it. -/
theorem residency_law (hcells : canonicalAssignments ids manifest proofCells = .ok expected)
    {before : List DirectoryOp}
    (hreach : run ids (freshDocument manifest expected) before = .ok d) :
    -- at every step, a generation moves by one and only with a commit, and a phase moves along
    -- one edge, beginning at `prepared`
    Along (apply ids) (fun s op => ∀ s', apply ids s op = .ok s' →
        PlacementStep s op s' ∧ PhaseStep s s') d ops
      -- no two transfers of one aggregate are in a phase before import
      ∧ (∀ transferId transferId' t t', d.transfers.get? transferId = some t →
          d.transfers.get? transferId' = some t' → t.aggregateId = t'.aggregateId →
          t.phase.holdsPlacement → t'.phase.holdsPlacement → transferId = transferId')
      -- over a whole run, every aggregate keeps one placement whose generation does not fall,
      -- a decided transfer stays decided, and a terminal phase stays
      ∧ (∀ d', run ids d ops = .ok d' →
          (∀ aggregateId p, d.placements.get? aggregateId = some p →
            ∃! p', d'.placements.get? aggregateId = some p'
              ∧ p.placementGeneration ≤ p'.placementGeneration)
          ∧ ∀ transferId t, d.transfers.get? transferId = some t →
            ∃ t', d'.transfers.get? transferId = some t' ∧ t.phase.leads t'.phase
              ∧ (t.phase = .committed ∨ t.phase = .imported ∨ t.phase = .finalized →
                  t'.phase ≠ .aborting ∧ t'.phase ≠ .aborted)
              ∧ (t.phase = .aborting ∨ t.phase = .aborted → t'.phase ≠ .committed)
              ∧ (t.phase = .finalized ∨ t.phase = .aborted → t'.phase = t.phase))
      -- the end of an abort puts back the placement its prepare found
      ∧ (∀ aggregateId generation transferId destinationCellKey packageHash p m d',
          d.transfers.get? transferId = none → d.placements.get? aggregateId = some p →
          run ids d (.prepareTransfer aggregateId generation transferId destinationCellKey
            packageHash :: ops) = .ok m →
          (∃ t, m.transfers.get? transferId = some t ∧ t.phase = .aborting) →
          apply ids m (.finalizeAbort transferId) = .ok d' →
          d'.placements.get? aggregateId = some p) := by
  have hd := Consistent.of_run hcells hreach
  refine ⟨?_, ?_, ?_, ?_⟩
  · refine along_of_preserved Consistent.of_apply (fun {s op} hs s' hstep => ?_) hd
    have ht := transition_of_apply hstep
    exact ⟨placementStep_transition hs ht, phaseStep_transition ht⟩
  · exact fun _ _ _ _ ht ht' haggregate hholds hholds' =>
      hd.holds_unique ht ht' haggregate hholds hholds'
  · intro d' hrun
    have hadv := hd.advances_run hrun
    refine ⟨fun aggregateId p hp => ?_, fun transferId t ht => ?_⟩
    · obtain ⟨p', hp', hle⟩ := hadv.placements aggregateId p hp
      exact ⟨p', ⟨hp', hle⟩, fun q hq => Option.mem_unique hq.1 hp'⟩
    · obtain ⟨t', ht', hev⟩ := hadv.transfers transferId t ht
      obtain ⟨hcommitted, haborted⟩ := hev.phase.decided
      refine ⟨t', ht', hev.phase, fun hc => ?_, fun ha => ?_, hev.phase.terminal⟩
      · rcases hcommitted hc with h | h | h <;> simp [h]
      · rcases haborted ha with h | h <;> simp [h]
  · rintro aggregateId generation transferId destinationCellKey packageHash p m d' hnew hp hrun
      ⟨t, ht, hphase⟩ hend
    exact hd.abort_restores hnew hp hrun ht hphase hend

/-! The early abort is cleaned up in both cells, and brought to its end. -/

def eastCell : CellKeyV1 := { cellOriginKey with cellX := 501 }

def originId : String := "5110e8ef07316dc5fc8cd48210915d3e879779c67dc3e11a9da0402656c76d17"

def eastId : String := "e24242afc42c71a9629093e0c82b1779e306e92c52804ebc105ef373fa5a8f4d"

/-- A hash in canonical text; nothing here depends on which one it is. -/
def someHash : String := "690245e3efffc0cf73142adc956e42d8c0d959967104a85d34efdedbb222cc2e"

def cleanup (role : TransferAbortRole) (cellId : String) (fencingToken : Nat) : DirectoryOp :=
  .recordAbortCleanup "transfer-grid-abort"
    { transferId := "transfer-grid-abort"
      packageHash := someHash
      cellId := cellId
      assignmentGeneration := 1
      role := role
      fencingToken := fencingToken
      eventSequence := 1
      eventHash := someHash
      worldHash := someHash }

/-- From the preparation of the transfer to the second cleanup. -/
def abortedAndCleaned : List DirectoryOp :=
  abortedEarly.drop 3 ++ [cleanup .source originId 5, cleanup .destination eastId 9]

/-- The grid is where it was before the transfer was prepared. -/
theorem residency_law_abortedEarly :
    ∃ expected d p m d', canonicalAssignments proofCellIds proofManifest proofCellKeys = .ok expected
      ∧ run proofCellIds (freshDocument proofManifest expected) (abortedEarly.take 3) = .ok d
      ∧ run proofCellIds d abortedAndCleaned = .ok m
      ∧ apply proofCellIds m (.finalizeAbort "transfer-grid-abort") = .ok d'
      ∧ d.placements.get? "grid-mobile" = some p
      ∧ m.placements.get? "grid-mobile" ≠ some p
      ∧ d'.placements.get? "grid-mobile" = some p := by
  obtain ⟨expected, d, hcells, hbefore, hevaluated⟩ :=
    @exists_run_of_ranFrom proofCellIds proofManifest proofCellKeys (abortedEarly.take 3)
      (fun _ d => (run proofCellIds d abortedAndCleaned).toOption.any fun m =>
        decide (d.transfers.get? "transfer-grid-abort" = none
            ∧ (m.transfers.get? "transfer-grid-abort").any (·.phase = .aborting)
            ∧ (d.placements.get? "grid-mobile").isSome
            ∧ m.placements.get? "grid-mobile" ≠ d.placements.get? "grid-mobile")
          && (apply proofCellIds m (.finalizeAbort "transfer-grid-abort")).isOk) _
      (by decide +kernel)
  obtain ⟨m, hrun, hchecked⟩ := exists_ok_of_any hevaluated
  rw [Bool.and_eq_true, decide_eq_true_eq] at hchecked
  obtain ⟨⟨hnew, haborting, hplaced, hmoved⟩, hends⟩ := hchecked
  obtain ⟨t, ht, hphase⟩ := (Option.any_eq_true _ _).mp haborting
  obtain ⟨p, hp⟩ := Option.isSome_iff_exists.mp hplaced
  cases hend : apply proofCellIds m (.finalizeAbort "transfer-grid-abort") with
  | error e => simp [hend, Except.isOk, Except.toBool] at hends
  | ok d' =>
    have hback : d'.placements.get? "grid-mobile" = some p :=
      (residency_law hcells hbefore).2.2.2 _ _ _ _ _ p m d' hnew hp hrun
        ⟨t, ht, of_decide_eq_true hphase⟩ hend
    exact ⟨expected, d, p, m, d', hcells, hbefore, hrun, hend, hp, hp ▸ hmoved, hback⟩

end steps

end Verse.Directory
