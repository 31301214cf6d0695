import Verse.Directory.Transition

/-!
# What every directory keeps

`Consistent` is the invariant of a run: an assignment record agrees with the cell it is
filed under and carries the whole history of its fences; a placement agrees with the cell it
names and with its own state; a transfer agrees with both of its cells, with the placement of
its aggregate, and with the proofs it has collected so far.

It is what `validateDocument` checks, less one clause. The check asks every transfer outside
`prepared` and `aborted` for its source proof, and a transfer whose abort is requested early
has none; `EvidenceAgrees` leaves that clause out, and `phaseDisagrees_iff` says that nothing
else is missing.

The transfer part of the invariant reads only assignments and placements, so a change to one
transfer cannot break another unless it moves the placement they share. What may happen to a
shared placement is `placementMatches_of_settled`: a settled transfer only asks that the
aggregate stay put or have moved on since.
-/

namespace Verse.Directory

open Lib

/-! ## Assignments -/

/-- The generations `1, 2, ..`, each under a positive fence above the one before it. -/
structure FenceHistory (a : CellAssignmentRecord) : Prop where
  generations : a.fencingHistory.keys = List.range' 1 a.assignmentGeneration
  positive : ∀ {g f}, a.fencingHistory.get? g = some f → 0 < f
  increasing : ∀ {g f f'}, a.fencingHistory.get? g = some f →
    a.fencingHistory.get? (g + 1) = some f' → f < f'
  current : (a.fencingHistory.get? a.assignmentGeneration).getD 0 = a.authorityFencingToken

variable {holderId : String}

namespace FenceHistory

variable {a : CellAssignmentRecord} {g f : Nat}

theorem isSome_iff (h : FenceHistory a) :
    (∃ f, a.fencingHistory.get? g = some f) ↔ 1 ≤ g ∧ g ≤ a.assignmentGeneration := by
  rw [← OrdMap.mem_keys, h.generations, List.mem_range'_1]
  omega

theorem valid (h : FenceHistory a) : ¬ fencingHistoryInvalid a := by
  have hlen : a.fencingHistory.entries.length = a.assignmentGeneration := by
    simpa [OrdMap.keys] using congrArg List.length h.generations
  rintro (hsize | ⟨⟨⟨g, f⟩, i⟩, hmem, hbad⟩ | hcurrent)
  · exact hsize hlen
  · have hi : a.fencingHistory.entries[i]? = some (g, f) := List.mem_zipIdx_iff_getElem?.mp hmem
    have hg : g = i + 1 := by
      have hk : a.fencingHistory.keys[i]? = some g := by simp [OrdMap.keys, hi]
      have hlt : i < a.assignmentGeneration := by
        rw [← hlen]
        exact (List.getElem?_eq_some_iff.mp hi).1
      rw [h.generations, List.getElem?_range' hlt] at hk
      have := Option.some.inj hk
      omega
    have hget : a.fencingHistory.get? g = some f :=
      OrdMap.mem_entries.mp (List.mem_of_getElem? hi)
    dsimp only at hbad
    rcases hbad with hbad | hbad | ⟨hpos, previous, hprevious, hle⟩
    · exact hbad hg
    · exact absurd hbad (h.positive hget).ne'
    · have hlt : previous < f := by
        refine h.increasing hprevious ?_
        rwa [Nat.sub_add_cancel (by omega)]
      exact absurd hlt (not_lt.mpr hle)
  · exact hcurrent h.current

theorem assign (h : FenceHistory a) (hf : a.authorityFencingToken < f) :
    FenceHistory (a.assign holderId f) := by
  have hfresh : a.fencingHistory.get? (a.assignmentGeneration + 1) = none := by
    cases hget : a.fencingHistory.get? (a.assignmentGeneration + 1) with
    | none => rfl
    | some f' => exact absurd (h.isSome_iff.mp ⟨f', hget⟩).2 (by omega)
  have hbelow : ∀ p ∈ a.fencingHistory.entries, p.1 < a.assignmentGeneration + 1 :=
    fun p hp => Nat.lt_succ_of_le
      (h.isSome_iff.mp ⟨p.2, OrdMap.mem_entries.mp hp⟩).2
  refine ⟨?_, ?_, ?_, ?_⟩
  · have happend := OrdMap.entries_insert_of_gt (v := f) hbelow
    have hkeys := h.generations
    simp only [OrdMap.keys] at hkeys
    simp only [CellAssignmentRecord.assign, OrdMap.keys, happend, List.map_append, hkeys,
      List.map_cons, List.map_nil, List.range'_concat, one_mul]
    rw [Nat.add_comm 1]
  · intro g f' hget
    simp only [CellAssignmentRecord.assign, OrdMap.get?_insert] at hget
    split at hget
    · obtain rfl := Option.some.inj hget
      omega
    · exact h.positive hget
  · intro g f₁ f₂ h₁ h₂
    simp only [CellAssignmentRecord.assign, OrdMap.get?_insert] at h₁ h₂
    split at h₂
    · -- the step into the new generation is above the current fence
      rename_i hg
      obtain rfl := Option.some.inj h₂
      rw [if_neg (by omega)] at h₁
      have hcur := h.current
      rw [show a.assignmentGeneration = g by omega, h₁] at hcur
      simp only [Option.getD_some] at hcur
      omega
    · split at h₁
      · rename_i hg
        have := (h.isSome_iff.mp ⟨f₂, h₂⟩).2
        omega
      · exact h.increasing h₁ h₂
  · simp [CellAssignmentRecord.assign]

end FenceHistory

/-- An assignment record under the cell it is filed under. -/
structure AssignmentOk (ids : CellIds) (cellId : String) (a : CellAssignmentRecord) : Prop where
  filed : a.cellId = cellId
  key : ids.cellId a.cellKey = some cellId
  history : FenceHistory a
  state : validateAssignmentState cellId a = .ok ()

variable {ids : CellIds} {cellId : String} {a : CellAssignmentRecord}

theorem AssignmentOk.generation_ne_zero
    (h : AssignmentOk ids cellId a) (ha : a.state = .assigned) :
    a.assignmentGeneration ≠ 0 := by
  have hs := h.state
  simp only [validateAssignmentState, ha, rejectIf_eq_ok, not_or] at hs
  exact hs.1

variable {fence : Nat}

theorem AssignmentOk.assign
    (h : AssignmentOk ids cellId a)
    (hholder : validStableId holderId) (hfence : a.authorityFencingToken < fence) :
    AssignmentOk ids cellId (a.assign holderId fence) where
  filed := h.filed
  key := h.key
  history := h.history.assign hfence
  state := by
    have hne := validStableId_nonempty hholder
    simp [validateAssignmentState, CellAssignmentRecord.assign, hne]
    omega

theorem AssignmentOk.sleep
    (h : AssignmentOk ids cellId a) :
    AssignmentOk ids cellId { a with state := .sleeping, holderId := none } where
  filed := h.filed
  key := h.key
  history := ⟨h.history.generations, h.history.positive, h.history.increasing,
    h.history.current⟩
  state := by simp [validateAssignmentState]

/-- A later assignment record of the same cell: it has forgotten nothing. -/
structure Succeeds (a a' : CellAssignmentRecord) : Prop where
  cellKey : a'.cellKey = a.cellKey
  history : ∀ {g f}, a.fencingHistory.get? g = some f → a'.fencingHistory.get? g = some f

theorem Succeeds.refl (a : CellAssignmentRecord) : Succeeds a a := ⟨rfl, id⟩

theorem Succeeds.assign (h : FenceHistory a)
    : Succeeds a (a.assign holderId fence) where
  cellKey := rfl
  history := by
    intro g f hget
    have hle := (h.isSome_iff.mp ⟨f, hget⟩).2
    simpa [CellAssignmentRecord.assign, show g ≠ a.assignmentGeneration + 1 by omega] using hget

/-! ## What survives a change of the document -/

/-- The cell is in the directory, under this key. -/
def CellAt (d : CellDirectoryDocument) (cellId : String) (cellKey : CellKeyV1) : Prop :=
  ∃ a, d.assignments.get? cellId = some a ∧ a.cellKey = cellKey

/-- The cell held this fence in this generation. -/
def FenceBound (d : CellDirectoryDocument) (cellId : String) (generation fence : Nat) : Prop :=
  ∃ a, d.assignments.get? cellId = some a ∧ a.fencingHistory.get? generation = some fence

/-- Every cell of `d` is a cell of `d'`, with the same key and at least the same history. -/
def CellsSucceed (d d' : CellDirectoryDocument) : Prop :=
  ∀ cellId a, d.assignments.get? cellId = some a →
    ∃ a', d'.assignments.get? cellId = some a' ∧ Succeeds a a'

variable {d d' : CellDirectoryDocument}

theorem CellsSucceed.of_eq (h : d'.assignments = d.assignments) :
    CellsSucceed d d' :=
  fun _ a ha => ⟨a, by rw [h]; exact ha, .refl a⟩

theorem CellsSucceed.withAssignment {a'} (ha : d.assignments.get? cellId = some a)
    (h : Succeeds a a') : CellsSucceed d (d.withAssignment cellId a') := by
  intro cellId' b hb
  by_cases hc : cellId' = cellId
  · subst hc
    obtain rfl := Option.mem_unique ha hb
    exact ⟨a', by simp, h⟩
  · exact ⟨b, by simpa [hc] using hb, .refl b⟩

section succeed

variable {d d' : CellDirectoryDocument} {cellId : String} {generation fence : Nat}

theorem CellAt.mono {cellKey : CellKeyV1} (hs : CellsSucceed d d')
    (h : CellAt d cellId cellKey) : CellAt d' cellId cellKey := by
  obtain ⟨a, ha, hk⟩ := h
  obtain ⟨a', ha', hsucc⟩ := hs cellId a ha
  exact ⟨a', ha', hsucc.cellKey.trans hk⟩

theorem FenceBound.mono (hs : CellsSucceed d d') (h : FenceBound d cellId generation fence) :
    FenceBound d' cellId generation fence := by
  obtain ⟨a, ha, hg⟩ := h
  obtain ⟨a', ha', hsucc⟩ := hs cellId a ha
  exact ⟨a', ha', hsucc.history hg⟩

end succeed

/-! ## Placements -/

structure PlacementOk (d : CellDirectoryDocument) (aggregateId : String)
    (p : AggregatePlacementRecord) : Prop where
  canonical : validStableId aggregateId
  filed : p.aggregateId = aggregateId
  generation : p.placementGeneration ≠ 0
  cell : CellAt d p.cellId p.cellKey
  binding : p.bindingAgrees

variable {p : AggregatePlacementRecord}

theorem PlacementOk.mono {aggregateId : String}
    (hs : CellsSucceed d d') (h : PlacementOk d aggregateId p) :
    PlacementOk d' aggregateId p :=
  { h with cell := h.cell.mono hs }

/-- The phases in which a transfer holds the placement of its aggregate. -/
def TransferPhase.holdsPlacement (phase : TransferPhase) : Prop :=
  phase = .prepared ∨ phase = .quarantined ∨ phase = .committed ∨ phase = .aborting

section placements

variable {transferId : String} {t : CellTransferRecord} {p p' : AggregatePlacementRecord}

theorem placementMatches.active (h : placementMatches transferId t p)
    (hphase : t.phase.holdsPlacement) : p.activeTransferId = some transferId := by
  unfold placementMatches at h
  rcases hphase with hp | hp | hp | hp <;> simp only [hp] at h <;> exact h.2.2.2

theorem placementMatches.settled (h : placementMatches transferId t p)
    (hne : p.activeTransferId ≠ some transferId) : ¬ t.phase.holdsPlacement :=
  fun hphase => hne (h.active hphase)

/-- The aggregate stayed where it was, or has moved on. -/
def MovedOn (p p' : AggregatePlacementRecord) : Prop :=
  p.placementGeneration < p'.placementGeneration
    ∨ (p'.placementGeneration = p.placementGeneration ∧ p'.cellId = p.cellId)

theorem placementMatches_of_settled (h : placementMatches transferId t p)
    (hsettled : ¬ t.phase.holdsPlacement) (hmoved : MovedOn p p') :
    placementMatches transferId t p' := by
  unfold placementMatches at h ⊢
  unfold MovedOn at hmoved
  cases hp : t.phase with
  | prepared => exact absurd (.inl hp) hsettled
  | quarantined => exact absurd (.inr (.inl hp)) hsettled
  | committed => exact absurd (.inr (.inr (.inl hp))) hsettled
  | aborting => exact absurd (.inr (.inr (.inr hp))) hsettled
  | imported | finalized | aborted =>
    simp only [hp] at h ⊢
    rcases hmoved with hlt | ⟨hg, hc⟩
    · omega
    · rw [hg, hc]; exact h

end placements

/-! ## Transfers -/

/-- What the phase of a transfer says about the proofs on record, phase by phase. -/
def EvidenceAgrees (t : CellTransferRecord) : Prop :=
  t.destinationQuarantineProof.isSome = t.quarantineReceiptHash.isSome ∧
  match t.phase with
  | .prepared =>
    t.quarantineReceiptHash = none ∧ t.importProof = none ∧ t.finalizationProof = none
      ∧ t.sourceAbortProof = none ∧ t.destinationAbortProof = none
  | .quarantined | .committed =>
    t.quarantineReceiptHash.isSome ∧ t.sourcePrepareProof.isSome
      ∧ t.importProof = none ∧ t.finalizationProof = none
      ∧ t.sourceAbortProof = none ∧ t.destinationAbortProof = none
  | .imported =>
    t.quarantineReceiptHash.isSome ∧ t.sourcePrepareProof.isSome
      ∧ t.importProof.isSome ∧ t.finalizationProof = none
      ∧ t.sourceAbortProof = none ∧ t.destinationAbortProof = none
  | .finalized =>
    t.quarantineReceiptHash.isSome ∧ t.sourcePrepareProof.isSome
      ∧ t.importProof.isSome ∧ t.finalizationProof.isSome
      ∧ t.sourceAbortProof = none ∧ t.destinationAbortProof = none
  | .aborting => t.importProof = none ∧ t.finalizationProof = none
  | .aborted =>
    t.importProof = none ∧ t.finalizationProof = none
      ∧ t.sourceAbortProof.isSome ∧ t.destinationAbortProof.isSome

/-- The clause of the check that `EvidenceAgrees` leaves out. -/
def AbortProved (t : CellTransferRecord) : Prop :=
  t.phase = .aborting → t.sourcePrepareProof.isSome

variable {transferId : String} {t : CellTransferRecord}

theorem phaseDisagrees_iff :
    ¬ phaseDisagrees transferId t p ↔
      placementMatches transferId t p ∧ EvidenceAgrees t ∧ AbortProved t := by
  unfold phaseDisagrees EvidenceAgrees AbortProved TransferPhase.holdsReceipt
  cases hp : t.phase <;> cases t.quarantineReceiptHash <;>
    cases t.sourcePrepareProof <;> cases t.destinationQuarantineProof <;>
    simp [and_assoc, Option.isSome_iff_ne_none]

/-- The identity of a transfer, fixed when it is prepared. -/
structure TransferIdentity (transferId : String) (t : CellTransferRecord) : Prop where
  canonical : validStableId transferId
  aggregate : validStableId t.aggregateId
  package : validBlake3Hex t.packageHash
  filed : t.transferId = transferId
  distinct : t.sourceCellId ≠ t.destinationCellId
  sourceGeneration : t.sourceAssignmentGeneration ≠ 0
  destinationGeneration : t.destinationAssignmentGeneration ≠ 0
  priorGeneration : t.priorPlacementGeneration ≠ 0
  resulting : checkedAdd t.priorPlacementGeneration 1 = some t.resultingPlacementGeneration

/-- Every proof on record binds its transfer, under a fence its cell held. -/
structure ProofsOk (d : CellDirectoryDocument) (t : CellTransferRecord) : Prop where
  receipt : ∀ r, t.quarantineReceiptHash = some r → validBlake3Hex r
  prepare : ∀ proof, t.sourcePrepareProof = some proof →
    validatePrepareProof t proof = .ok ()
      ∧ FenceBound d t.sourceCellId proof.sourceAssignmentGeneration proof.sourceFencingToken
  quarantine : ∀ proof, t.destinationQuarantineProof = some proof →
    validateQuarantineProof t proof = .ok ()
      ∧ FenceBound d t.destinationCellId proof.destinationAssignmentGeneration
          proof.destinationFencingToken
      ∧ t.quarantineReceiptHash = some proof.quarantineReceiptHash
  imported : ∀ proof, t.importProof = some proof →
    validateImportProof t proof = .ok ()
      ∧ FenceBound d t.destinationCellId proof.destinationAssignmentGeneration
          proof.destinationFencingToken
  finalization : ∀ proof, t.finalizationProof = some proof →
    validateFinalizationProof t proof = .ok ()
      ∧ FenceBound d t.sourceCellId proof.sourceAssignmentGeneration proof.sourceFencingToken
  sourceAbort : ∀ proof, t.sourceAbortProof = some proof →
    validateAbortProof t proof = .ok ()
      ∧ FenceBound d t.sourceCellId proof.assignmentGeneration proof.fencingToken
      ∧ proof.role = .source
  destinationAbort : ∀ proof, t.destinationAbortProof = some proof →
    validateAbortProof t proof = .ok ()
      ∧ FenceBound d t.destinationCellId proof.assignmentGeneration proof.fencingToken
      ∧ proof.role = .destination

structure TransferOk (d : CellDirectoryDocument) (transferId : String)
    (t : CellTransferRecord) : Prop where
  identity : TransferIdentity transferId t
  source : CellAt d t.sourceCellId t.sourceCellKey
  destination : CellAt d t.destinationCellId t.destinationCellKey
  placement : ∃ p, d.placements.get? t.aggregateId = some p
    ∧ p.aggregateKind = t.aggregateKind ∧ placementMatches transferId t p
  proofs : ProofsOk d t
  evidence : EvidenceAgrees t

theorem ProofsOk.mono
    (hs : CellsSucceed d d') (h : ProofsOk d t) : ProofsOk d' t where
  receipt := h.receipt
  prepare proof hp := ⟨(h.prepare proof hp).1, (h.prepare proof hp).2.mono hs⟩
  quarantine proof hp :=
    ⟨(h.quarantine proof hp).1, (h.quarantine proof hp).2.1.mono hs, (h.quarantine proof hp).2.2⟩
  imported proof hp := ⟨(h.imported proof hp).1, (h.imported proof hp).2.mono hs⟩
  finalization proof hp := ⟨(h.finalization proof hp).1, (h.finalization proof hp).2.mono hs⟩
  sourceAbort proof hp :=
    ⟨(h.sourceAbort proof hp).1, (h.sourceAbort proof hp).2.1.mono hs, (h.sourceAbort proof hp).2.2⟩
  destinationAbort proof hp :=
    ⟨(h.destinationAbort proof hp).1, (h.destinationAbort proof hp).2.1.mono hs,
      (h.destinationAbort proof hp).2.2⟩

theorem TransferOk.mono
    (h : TransferOk d transferId t) (hs : CellsSucceed d d')
    (hp : ∀ p, d.placements.get? t.aggregateId = some p → placementMatches transferId t p →
      ∃ p', d'.placements.get? t.aggregateId = some p' ∧ p'.aggregateKind = p.aggregateKind
        ∧ placementMatches transferId t p') :
    TransferOk d' transferId t where
  identity := h.identity
  source := h.source.mono hs
  destination := h.destination.mono hs
  placement := by
    obtain ⟨p, hget, hkind, hmatch⟩ := h.placement
    obtain ⟨p', hget', hkind', hmatch'⟩ := hp p hget hmatch
    exact ⟨p', hget', hkind'.trans hkind, hmatch'⟩
  proofs := h.proofs.mono hs
  evidence := h.evidence

/-! ## The document -/

structure Consistent (ids : CellIds) (universeManifest : UniverseManifest)
    (expectedAssignments : OrdMap String CellAssignmentRecord) (d : CellDirectoryDocument) :
    Prop where
  schema : d.schemaVersion = cellDirectorySchemaVersion
  universeId : d.universeId = universeManifest.universeId
  manifestHash : d.universeManifestHash = universeManifest.manifestHash
  revision : d.directoryRevision ≠ 0
  cells : ∀ cellId, (d.assignments.get? cellId).map (·.cellKey) =
    (expectedAssignments.get? cellId).map (·.cellKey)
  assignments : ∀ {cellId a}, d.assignments.get? cellId = some a → AssignmentOk ids cellId a
  placements : ∀ {aggregateId p}, d.placements.get? aggregateId = some p →
    PlacementOk d aggregateId p
  transfers : ∀ {transferId t}, d.transfers.get? transferId = some t → TransferOk d transferId t

end Verse.Directory
