import Verse.DirectoryV3.Effect

/-!
# What a step moves

One step changes the placements not at all, or those of all the members of one transfer, by the
transition the operation stands for. It keeps every record of a transfer, changes the phase of
at most one of them along an edge, and fills in evidence only where there was none.

Both are read off `Effect`: `PlacementStep` is about where the aggregates are, `RecordKept` about
what the directory remembers.
-/

namespace Verse.DirectoryV3

open Lib Directory

variable {codec : DirectoryCodec} {document next : CellDirectoryDocumentV3}
  {op : DirectoryV3Op}

/-! ## Placements -/

/-- The transition of placements an operation stands for, if any. -/
def DirectoryV3Op.transition : DirectoryV3Op → Option BundledPlacementTransition
  | .prepare _ => some .prepare
  | .commit _ _ => some .commit
  | .destinationImported _ _ => some .imported
  | .finalizeAbort _ => some .abort
  | _ => none

/-- The members of a transfer are all taken through a transition, and nothing else is. -/
structure MovedTogether (transition : BundledPlacementTransition) (transferId : String)
    (transfer : CellTransferRecordV3) (before after : Placements) : Prop where
  members : ∀ member ∈ transfer.bundle.members, ∃ placement,
    before.get? member.aggregateId = some placement
      ∧ transition.phaseValid transfer.plan transferId member placement
      ∧ after.get? member.aggregateId
          = some (transition.advance transfer.plan transferId member placement)
  others : ∀ aggregateId, (∀ member ∈ transfer.bundle.members, member.aggregateId ≠ aggregateId) →
    after.get? aggregateId = before.get? aggregateId

variable {transition : BundledPlacementTransition} {transferId : String}

theorem MovedTogether.cases_of_get {transfer before after}
    (h : MovedTogether transition transferId transfer before after) {aggregateId : String}
    {placement'} (hget : after.get? aggregateId = some placement') :
    (∃ member ∈ transfer.bundle.members, member.aggregateId = aggregateId
      ∧ ∃ placement, before.get? aggregateId = some placement
        ∧ transition.phaseValid transfer.plan transferId member placement
        ∧ placement' = transition.advance transfer.plan transferId member placement)
    ∨ ((∀ member ∈ transfer.bundle.members, member.aggregateId ≠ aggregateId)
      ∧ before.get? aggregateId = some placement') := by
  by_cases hmember : ∃ member ∈ transfer.bundle.members, member.aggregateId = aggregateId
  · obtain ⟨member, hmem, rfl⟩ := hmember
    obtain ⟨placement, hbefore, hphase, hafter⟩ := h.members member hmem
    rw [hafter] at hget
    exact .inl ⟨member, hmem, rfl, placement, hbefore, hphase, (Option.some.inj hget).symm⟩
  · push Not at hmember
    exact .inr ⟨hmember, (h.others aggregateId hmember).symm.trans hget⟩

theorem advance_still (h : transition ≠ .commit) {plan member placement} :
    (transition.advance plan transferId member placement).placementGeneration
        = placement.placementGeneration
      ∧ (transition.advance plan transferId member placement).cellId = placement.cellId
      ∧ (transition.advance plan transferId member placement).cellKey = placement.cellKey := by
  cases transition with
  | commit => exact absurd rfl h
  | prepare | imported | abort => exact ⟨rfl, rfl, rfl⟩

/-- What a step does to the placements. -/
inductive PlacementStep (op : DirectoryV3Op) (before after : CellDirectoryDocumentV3) : Prop where
  | unmoved (same : after.placements = before.placements)
  | moved {transition transferId transfer} (stands : op.transition = some transition)
      (onRecord : after.transfers.get? transferId = some transfer)
      (ordered : transfer.plan.Ordered)
      (together : MovedTogether transition transferId transfer before.placements after.placements)

theorem movedTogether_of_applies {transfer : CellTransferRecordV3} {placements}
    (hplan : transfer.plan.Ordered) (h : transition.Applies transfer.plan transferId placements) :
    MovedTogether transition transferId transfer placements
      (transition.advanceAll transfer.plan transferId placements) where
  members := by
    intro member hmember
    obtain ⟨placement, hget, -, -, hphase⟩ := h.found member hmember
    refine ⟨placement, hget, hphase, ?_⟩
    rw [get?_advanceAll_of_mem hplan hmember, hget]
    rfl
  others _ hmember := get?_advanceAll_of_not_mem hplan hmember

theorem stagePlacements_some {current placements}
    (h : stagePlacements codec document transferId current (some transition) = .ok placements) :
    current.plan.Ordered ∧ transition.Applies current.plan transferId document.placements
      ∧ placements = transition.advanceAll current.plan transferId document.placements := by
  simp only [stagePlacements, CellTransferRecordV3.bundledPlan, bind_eq_ok, pure_eq_ok] at h
  obtain ⟨plan, ⟨⟨⟩, hplan, rfl⟩, hstaged⟩ := h
  obtain ⟨-, -, -, -, happlies, rfl⟩ := stageBundledPlacementTransition_eq_ok.mp hstaged
  exact ⟨BundledPlacementPlan.ordered_of_validate hplan, happlies, rfl⟩

theorem Advances.transition_eq {current record transition}
    (h : Advances op transferId current transition record) : op.transition = transition := by
  cases h <;> rfl

theorem MovedTogether.of_plan_eq {transfer transfer' : CellTransferRecordV3} {before after}
    (h : MovedTogether transition transferId transfer before after)
    (hplan : transfer'.plan = transfer.plan) :
    MovedTogether transition transferId transfer' before after := by
  have hmembers : transfer'.bundle.members = transfer.bundle.members :=
    congrArg BundledPlacementPlan.members hplan
  constructor
  · intro member hmember
    rw [hplan]
    exact h.members member (hmembers ▸ hmember)
  · intro aggregateId hnone
    exact h.others aggregateId (hmembers ▸ hnone)

theorem FreshRequest.movedTogether {requested} (h : FreshRequest codec document requested) :
    MovedTogether .prepare requested.transferId requested document.placements
      (prepared codec document requested).placements where
  members := by
    intro member hmember
    obtain ⟨placement, hget, -, hphase⟩ := h.resident member hmember
    exact ⟨placement, hget, hphase, get?_prepared_of_mem codec h.ordered hmember hget⟩
  others _ hmember := get?_prepared_of_not_mem h.ordered hmember

/-! ## Records -/

/-- One move of a transfer from a phase to the next. -/
inductive PhaseEdge : TransferPhase → TransferPhase → Prop where
  | quarantine : PhaseEdge .prepared .quarantined
  | commit : PhaseEdge .quarantined .committed
  | imported : PhaseEdge .committed .imported
  | finalize : PhaseEdge .imported .finalized
  | cancel : PhaseEdge .prepared .aborting
  | withdraw : PhaseEdge .quarantined .aborting
  | abort : PhaseEdge .aborting .aborted

/-- The eight proofs of a transfer, in the order in which they are declared. -/
def CellTransferRecordV3.evidence (transfer : CellTransferRecordV3) :
    List (Option DirectoryPhaseProofV3) :=
  [transfer.sourcePrepareProof, transfer.destinationQuarantineProof, transfer.sourceExportProof,
    transfer.importProof, transfer.destinationActivationProof, transfer.finalizationProof,
    transfer.sourceAbortProof, transfer.destinationAbortProof]

/-- Once there, there for good. -/
def StillRecorded {α : Type} (before after : Option α) : Prop := ∀ a ∈ before, after = some a

theorem StillRecorded.refl {α : Type} (a : Option α) : StillRecorded a a := fun _ h => h

theorem StillRecorded.of_none {α : Type} {a b : Option α} (h : a = none) : StillRecorded a b := by
  intro x hx
  rw [h] at hx
  cases hx

theorem StillRecorded.trans {α : Type} {a b c : Option α} (hab : StillRecorded a b)
    (hbc : StillRecorded b c) :
    StillRecorded a c :=
  fun x hx => hbc x (hab x hx)

/-- What a later record of a transfer keeps of an earlier one. -/
structure RecordKept (before after : CellTransferRecordV3) : Prop where
  material : before.immutableMaterialMatches after
  receipt : StillRecorded before.quarantineReceiptHash after.quarantineReceiptHash
  evidence : List.Forall₂ StillRecorded before.evidence after.evidence

theorem immutableMaterialMatches_refl (transfer : CellTransferRecordV3) :
    transfer.immutableMaterialMatches transfer :=
  ⟨rfl, rfl, rfl, rfl, rfl, rfl, rfl, rfl, rfl, rfl, rfl⟩

theorem RecordKept.refl (transfer : CellTransferRecordV3) : RecordKept transfer transfer where
  material := immutableMaterialMatches_refl transfer
  receipt := StillRecorded.refl _
  evidence := List.forall₂_same.mpr fun _ _ => StillRecorded.refl _

theorem RecordKept.trans {a b c} (hab : RecordKept a b) (hbc : RecordKept b c) :
    RecordKept a c where
  material := by
    obtain ⟨h₁, h₂, h₃, h₄, h₅, h₆, h₇, h₈, h₉, h₁₀, h₁₁⟩ := hab.material
    unfold CellTransferRecordV3.immutableMaterialMatches
    rw [h₁, h₂, h₃, h₄, h₅, h₆, h₇, h₈, h₉, h₁₀, h₁₁]
    exact hbc.material
  receipt := hab.receipt.trans hbc.receipt
  evidence := by
    have hpair := hab.evidence
    have hpair' := hbc.evidence
    simp only [CellTransferRecordV3.evidence, List.forall₂_cons, List.forall₂_nil_left_iff] at *
    grind [StillRecorded.trans]

theorem Advances.kept {current record transition}
    (h : Advances op transferId current transition record) :
    RecordKept current record
      ∧ (record.phase = current.phase ∨ PhaseEdge current.phase record.phase) := by
  have hmaterial := immutableMaterialMatches_refl current
  have hreceipt := StillRecorded.refl current.quarantineReceiptHash
  have hevidence := (RecordKept.refl current).evidence
  cases h with
  | sourcePrepared phase unset | exported phase unset | activated phase unset
  | sourceCleaned phase unset | destinationCleaned phase unset =>
    refine ⟨⟨hmaterial, hreceipt, ?_⟩, .inl rfl⟩
    simp [CellTransferRecordV3.evidence, StillRecorded.refl, StillRecorded.of_none unset]
  | quarantined phase receiptUnset unset =>
    refine ⟨⟨hmaterial, StillRecorded.of_none receiptUnset, ?_⟩, .inr ?_⟩
    · simp [CellTransferRecordV3.evidence, StillRecorded.refl, StillRecorded.of_none unset]
    · rw [phase]
      exact .quarantine
  | adopted phase receiptUnset unset =>
    refine ⟨⟨hmaterial, StillRecorded.of_none receiptUnset, ?_⟩, .inl rfl⟩
    simp [CellTransferRecordV3.evidence, StillRecorded.refl, StillRecorded.of_none unset]
  | committed phase =>
    refine ⟨⟨hmaterial, hreceipt, hevidence⟩, .inr ?_⟩
    rw [phase]
    exact .commit
  | imported phase unset =>
    refine ⟨⟨hmaterial, hreceipt, ?_⟩, .inr ?_⟩
    · simp [CellTransferRecordV3.evidence, StillRecorded.refl, StillRecorded.of_none unset]
    · rw [phase]
      exact .imported
  | finalized phase unset =>
    refine ⟨⟨hmaterial, hreceipt, ?_⟩, .inr ?_⟩
    · simp [CellTransferRecordV3.evidence, StillRecorded.refl, StillRecorded.of_none unset]
    · rw [phase]
      exact .finalize
  | abortRequested phase =>
    refine ⟨⟨hmaterial, hreceipt, hevidence⟩, .inr ?_⟩
    rcases phase with hprepared | hquarantined
    · rw [hprepared]
      exact .cancel
    · rw [hquarantined]
      exact .withdraw
  | aborted phase =>
    refine ⟨⟨hmaterial, hreceipt, hevidence⟩, .inr ?_⟩
    rw [phase]
    exact .abort

theorem RecordKept.plan_eq {before after} (h : RecordKept before after) :
    after.plan = before.plan := by
  obtain ⟨-, hroot, hskey, hsid, hdkey, hdid, -, -, -, -, hbundle⟩ := h.material
  rw [CellTransferRecordV3.plan, CellTransferRecordV3.plan, hroot, hskey, hsid, hdkey, hdid,
    hbundle]

/-- What a step does to the records: a new one has nothing proved, and an old one is kept. -/
structure RecordStep (before after : CellDirectoryDocumentV3) : Prop where
  kept : ∀ transferId transfer, before.transfers.get? transferId = some transfer →
    ∃ transfer', after.transfers.get? transferId = some transfer'
      ∧ RecordKept transfer transfer'
      ∧ (transfer'.phase = transfer.phase ∨ PhaseEdge transfer.phase transfer'.phase)
  opened : ∀ transferId transfer', after.transfers.get? transferId = some transfer' →
    before.transfers.get? transferId = none → transfer'.Unproved

theorem RecordStep.of_transfers_eq (h : next.transfers = document.transfers) :
    RecordStep document next where
  kept _ transfer hget := ⟨transfer, h ▸ hget, .refl transfer, .inl rfl⟩
  opened _ transfer' hget hnone := by
    rw [h, hnone] at hget
    cases hget

/-! ## Both, for every effect -/

theorem Effect.recordStep (h : Effect codec document op next) : RecordStep document next := by
  cases h with
  | @prepared requested fresh =>
    constructor
    · intro transferId transfer hget
      have hne : transferId ≠ requested.transferId := by
        rintro rfl
        rw [fresh.fresh] at hget
        cases hget
      refine ⟨transfer, ?_, .refl transfer, .inl rfl⟩
      rw [prepared_transfers, OrdMap.get?_insert_ne hne, hget]
    · intro transferId transfer' hget hnone
      rw [prepared_transfers, OrdMap.get?_insert] at hget
      split_ifs at hget with hid
      · obtain rfl := Option.some.inj hget
        exact fresh.unproved
      · rw [hnone] at hget
        cases hget
  | @advanced _ transferId current transition record placements found advances staged =>
    obtain ⟨hkept, hedge⟩ := advances.kept
    constructor
    · intro id transfer hget
      by_cases hid : id = transferId
      · subst hid
        obtain rfl := Option.mem_unique found hget
        exact ⟨record, OrdMap.get?_insert_self, hkept, hedge⟩
      · exact ⟨transfer, (OrdMap.get?_insert_ne hid).trans hget, .refl transfer, .inl rfl⟩
    · intro id transfer' hget hnone
      have hget := (OrdMap.get?_insert (m := document.transfers)).symm.trans hget
      split_ifs at hget with hid
      · rw [hid, found] at hnone
        cases hnone
      · rw [hnone] at hget
        cases hget
  | reassigned found reassigns => exact .of_transfers_eq rfl

theorem Effect.placementStep (h : Effect codec document op next) :
    PlacementStep op document next := by
  cases h with
  | @prepared requested fresh =>
    exact .moved rfl OrdMap.get?_insert_self fresh.ordered fresh.movedTogether
  | @advanced _ transferId current transition record placements found advances staged =>
    cases transition with
    | none => exact .unmoved (Except.ok.inj staged).symm
    | some transition =>
      obtain ⟨hordered, happlies, rfl⟩ := stagePlacements_some staged
      have hplan := advances.kept.1.plan_eq
      refine .moved advances.transition_eq OrdMap.get?_insert_self (hplan ▸ hordered) ?_
      exact (movedTogether_of_applies hordered happlies).of_plan_eq hplan
  | reassigned found reassigns => exact .unmoved rfl

end Verse.DirectoryV3
