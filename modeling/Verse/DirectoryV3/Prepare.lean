import Verse.DirectoryV3.Valid

/-!
# When a prepare is accepted

A request is about the present: its members are resident in the source cell, its two cells are
held as it says. But the document it would leave is validated whole, and there every finished
transfer still says where its members are, resident at its own end of the move or already
further on. A member that is being prepared is neither. So what decides is whether each
finished transfer of a member has been overtaken: whether the aggregate has moved on since.
-/

namespace Verse.DirectoryV3

open Lib Directory

variable {codec : DirectoryCodec} {document : CellDirectoryDocumentV3}
  {requested : CellTransferRecordV3}

/-- The document a prepare would leave, accepted or not. -/
def prepared (codec : DirectoryCodec) (document : CellDirectoryDocumentV3)
    (requested : CellTransferRecordV3) : CellDirectoryDocumentV3 :=
  transacted codec document
    { document with
      placements := BundledPlacementTransition.prepare.advanceAll requested.plan
        requested.transferId document.placements
      transfers := document.transfers.insert requested.transferId requested }

/-- A request for a transfer that is not on record, well formed and true of the present: nothing
    proved yet, both cells held as it says, every member resident at its prior generation. -/
structure FreshRequest (codec : DirectoryCodec) (document : CellDirectoryDocumentV3)
    (requested : CellTransferRecordV3) : Prop where
  unproved : requested.Unproved
  identity : requested.validateIdentity codec requested.transferId = .ok requested.plan
  fresh : document.transfers.get? requested.transferId = none
  unused : ∀ genesis ∈ document.migrationGenesis,
    requested.transferId ∉ genesis.sourceTerminalTransferIds
  route : ∃ source ∈ document.assignments.get? requested.sourceCellId,
    ∃ destination ∈ document.assignments.get? requested.destinationCellId,
      requested.RouteIsCurrent codec source destination
  resident : ∀ member ∈ requested.bundle.members,
    ∃ placement ∈ document.placements.get? member.aggregateId,
      placement.aggregateKind = member.aggregateKind
        ∧ BundledPlacementTransition.prepare.phaseValid requested.plan requested.transferId member
            placement

instance : Decidable (FreshRequest codec document requested) :=
  decidable_of_iff
    (requested.Unproved
      ∧ requested.validateIdentity codec requested.transferId = .ok requested.plan
      ∧ document.transfers.get? requested.transferId = none
      ∧ (∀ genesis ∈ document.migrationGenesis,
          requested.transferId ∉ genesis.sourceTerminalTransferIds)
      ∧ (∃ source ∈ document.assignments.get? requested.sourceCellId,
          ∃ destination ∈ document.assignments.get? requested.destinationCellId,
            requested.RouteIsCurrent codec source destination)
      ∧ ∀ member ∈ requested.bundle.members,
          ∃ placement ∈ document.placements.get? member.aggregateId,
            placement.aggregateKind = member.aggregateKind
              ∧ BundledPlacementTransition.prepare.phaseValid requested.plan requested.transferId
                  member placement)
    ⟨fun ⟨h₁, h₂, h₃, h₄, h₅, h₆⟩ => ⟨h₁, h₂, h₃, h₄, h₅, h₆⟩,
      fun ⟨h₁, h₂, h₃, h₄, h₅, h₆⟩ => ⟨h₁, h₂, h₃, h₄, h₅, h₆⟩⟩

/-- The documented sizes, with the request on record. -/
structure WithinBounds (codec : DirectoryCodec) (document : CellDirectoryDocumentV3)
    (requested : CellTransferRecordV3) : Prop where
  revision : document.directoryRevision < u64Max
  transfers : document.transfers.size < maxDraftTransfers
  memberships : document.transfers.sumBy (·.bundle.members.length)
    + requested.bundle.members.length ≤ maxDraftTransferMemberships
  bytes : codec.encodedLength (prepared codec document requested) ≤ maxDraftDirectoryV3Bytes

instance : Decidable (WithinBounds codec document requested) :=
  decidable_of_iff
    (document.directoryRevision < u64Max
      ∧ document.transfers.size < maxDraftTransfers
      ∧ document.transfers.sumBy (·.bundle.members.length)
          + requested.bundle.members.length ≤ maxDraftTransferMemberships
      ∧ codec.encodedLength (prepared codec document requested) ≤ maxDraftDirectoryV3Bytes)
    ⟨fun ⟨h₁, h₂, h₃, h₄⟩ => ⟨h₁, h₂, h₃, h₄⟩, fun ⟨h₁, h₂, h₃, h₄⟩ => ⟨h₁, h₂, h₃, h₄⟩⟩

/-- An aggregate at this generation has moved on since a transfer it was a member of. -/
def Overtaken (transfer : CellTransferRecordV3) (member : BundledPlacementMember)
    (generation : Nat) : Prop :=
  match transfer.phase with
  | .imported | .finalized => member.resultingPlacementGeneration < generation
  | .aborted => member.priorPlacementGeneration < generation
  | .prepared | .quarantined | .committed | .aborting => True

/-! ## The parts of a prepared document -/

variable {placement : AggregatePlacementRecord} {member : BundledPlacementMember}
   {aggregateId : String}

section parts

@[simp] theorem prepared_assignments :
    (prepared codec document requested).assignments = document.assignments := rfl

@[simp] theorem prepared_migrationGenesis :
    (prepared codec document requested).migrationGenesis = document.migrationGenesis := rfl

@[simp] theorem prepared_transfers :
    (prepared codec document requested).transfers =
      document.transfers.insert requested.transferId requested := rfl

@[simp] theorem prepared_directoryRevision :
    (prepared codec document requested).directoryRevision = document.directoryRevision + 1 := rfl

theorem FreshRequest.ordered (h : FreshRequest codec document requested) :
    requested.plan.Ordered :=
  BundledPlacementPlan.ordered_of_validate (validateIdentity_eq_ok h.identity).2.1

theorem get?_prepared_of_mem (codec : DirectoryCodec) (h : requested.plan.Ordered)
    (hmem : member ∈ requested.bundle.members)
    (hget : document.placements.get? member.aggregateId = some placement) :
    (prepared codec document requested).placements.get? member.aggregateId =
      some { placement with
        state := .preparing, activeTransferId := some requested.transferId } := by
  refine (get?_advanceAll_of_mem h hmem).trans ?_
  rw [hget]
  rfl

theorem get?_prepared_of_not_mem (h : requested.plan.Ordered)
    (hmem : ∀ member ∈ requested.bundle.members, member.aggregateId ≠ aggregateId) :
    (prepared codec document requested).placements.get? aggregateId =
      document.placements.get? aggregateId :=
  get?_advanceAll_of_not_mem h hmem

theorem FreshRequest.placement_of_prepared (h : FreshRequest codec document requested)
    (hget : (prepared codec document requested).placements.get? aggregateId = some placement) :
    ∃ before, document.placements.get? aggregateId = some before
      ∧ (placement = before
        ∨ placement = { before with
            state := .preparing, activeTransferId := some requested.transferId }
          ∧ ∃ member ∈ requested.bundle.members, member.aggregateId = aggregateId) := by
  by_cases hmem : ∃ member ∈ requested.bundle.members, member.aggregateId = aggregateId
  · obtain ⟨member, hmember, rfl⟩ := hmem
    obtain ⟨before, hbefore, -, -⟩ := h.resident member hmember
    rw [get?_prepared_of_mem codec h.ordered hmember hbefore] at hget
    exact ⟨before, hbefore, .inr ⟨(Option.some.inj hget).symm, member, hmember, rfl⟩⟩
  · push Not at hmem
    rw [get?_prepared_of_not_mem h.ordered hmem] at hget
    exact ⟨placement, hget, .inl rfl⟩

theorem CellTransferRecordV3.Unproved.advances (h : requested.Unproved) :
    requested.advances = [] := by
  simp [CellTransferRecordV3.advances, advanced, h.1]

theorem FreshRequest.advancesOf_prepared (h : FreshRequest codec document requested) :
    advancesOf (prepared codec document requested).transfers.entries =
      advancesOf document.transfers.entries :=
  OrdMap.flatMap_entries_insert h.fresh h.unproved.advances

theorem validatePhaseProofs_of_unproved (h : requested.Unproved)
    (source destination : CellAssignmentRecord) :
    requested.validatePhaseProofs codec.hashes source destination = .ok () := by
  obtain ⟨hphase, hreceipt, hprepare, hquarantine, hexport, himport, hactivation, hfinal, hsource,
    hdestination⟩ := h
  simp [CellTransferRecordV3.validatePhaseProofs, CellTransferRecordV3.validatePhaseProof,
    CellTransferRecordV3.validateProofOrder, CellTransferRecordV3.phaseValid, whenSome, hphase,
    hreceipt, hprepare, hquarantine, hexport, himport, hactivation, hfinal, hsource, hdestination]

end parts

/-! ## A prepared document is valid when every finished transfer is overtaken -/

variable {cellId : String}

variable {index : List Advance}

theorem laterMemberHistory_congr {generation : Nat}
    {p p' : AggregatePlacementRecord}
    (hgeneration : p'.placementGeneration = p.placementGeneration)
    (hcell : p'.cellId = p.cellId) :
    laterMemberHistory aggregateId generation cellId p' index =
      laterMemberHistory aggregateId generation cellId p index := by
  have hloop : ∀ remaining g c, validateLaterMemberHistory aggregateId p' index remaining g c =
      validateLaterMemberHistory aggregateId p index remaining g c := by
    intro remaining
    induction remaining with
    | zero => intro g c; simp only [validateLaterMemberHistory, hgeneration, hcell]
    | succ n ih => intro g c; simp only [validateLaterMemberHistory, ih]
  rw [laterMemberHistory, laterMemberHistory, hgeneration, hloop]

variable {assignment : CellAssignmentRecord}

theorem CellDirectoryDocumentV3.Valid.validateAssignment (h : document.Valid codec)
    (hget : document.assignments.get? cellId = some assignment) :
    document.validateAssignment codec (cellId, assignment) = .ok () := by
  have hall := h.assignments
  simp only [CellDirectoryDocumentV3.validateAssignments, bind_eq_ok, checkAll_eq_ok] at hall
  obtain ⟨-, -, hall⟩ := hall
  exact hall _ (OrdMap.mem_entries.mpr hget)

theorem CellDirectoryDocumentV3.Valid.fence_on_record (h : document.Valid codec)
    (hget : document.assignments.get? cellId = some assignment)
    (hassigned : assignment.state = .assigned) :
    assignment.fencingHistory.get? assignment.assignmentGeneration =
      some assignment.authorityFencingToken := by
  have hvalid := h.validateAssignment hget
  simp only [CellDirectoryDocumentV3.validateAssignment, hassigned,
    CellDirectoryDocumentV3.validateFenceHistory, bind_eq_ok, rejectIf_eq_ok, not_or,
    not_not] at hvalid
  obtain ⟨_, _, _, _, _, ⟨-, hfence, -⟩, _, ⟨-, hhistory⟩, -⟩ := hvalid
  cases hlast : assignment.fencingHistory.get? assignment.assignmentGeneration with
  | none => rw [hlast] at hhistory; exact absurd hhistory.symm hfence
  | some fence => rw [hlast] at hhistory; exact congrArg some hhistory

theorem FreshRequest.routed_prepared (h : FreshRequest codec document requested)
    (hvalid : document.Valid codec) :
    Routed codec (prepared codec document requested).assignments requested := by
  obtain ⟨source, hsource, destination, hdestination, hskey, hdkey, hsheld, hdheld, hsgen, hsfence,
    hdgen, hdfence, hnear⟩ := h.route
  refine ⟨source, destination, hsource, hdestination, hskey, hdkey, ?_, ?_, hnear,
    fun _ => ⟨hsheld, hdheld⟩, validatePhaseProofs_of_unproved h.unproved source destination⟩
  · rw [← hsgen, ← hsfence]
    exact hvalid.fence_on_record hsource hsheld
  · rw [← hdgen, ← hdfence]
    exact hvalid.fence_on_record hdestination hdheld

/-- The new transfer finds its members where it put them. -/
theorem FreshRequest.memberOk_prepared (h : FreshRequest codec document requested)
    (hmem : member ∈ requested.bundle.members)
    (index : List Advance) :
    MemberOk (prepared codec document requested).placements index requested.transferId requested
      member := by
  obtain ⟨before, hbefore, hkind, hkey, hcell, hgeneration, -, -⟩ := h.resident member hmem
  refine ⟨_, get?_prepared_of_mem codec h.ordered hmem hbefore, hkind, ?_, ?_⟩
  · rw [memberMatchesPhase, h.unproved.1]
    exact ⟨rfl, hkey, hcell, hgeneration, rfl⟩
  · intro start hstart
    rw [CellDirectoryDocumentV3.terminalStart, h.unproved.1] at hstart
    exact absurd hstart (by simp)

variable {transferId : String} {transfer : CellTransferRecordV3}

/-- What a finished transfer says of an aggregate that is resident again, or preparing again, is
    only that it has been overtaken. -/
theorem memberMatchesPhase_of_overtaken {before}
    (hmatches : memberMatchesPhase before member transfer transferId)
    (hresident : before.state = .resident)
    (hgeneration : placement.placementGeneration = before.placementGeneration)
    (hovertaken : Overtaken transfer member before.placementGeneration) :
    memberMatchesPhase placement member transfer transferId := by
  unfold memberMatchesPhase at hmatches ⊢
  unfold Overtaken at hovertaken
  cases hphase : transfer.phase <;> simp only [hphase, hresident, reduceCtorEq, false_and] at hmatches
  all_goals simp only [hphase] at hovertaken
  all_goals exact .inl (hgeneration ▸ hovertaken)

variable (h : FreshRequest codec document requested)

include h

/-- An earlier transfer still agrees with its members, if it agreed before and those that are
    being prepared now have overtaken it. -/
theorem FreshRequest.memberOk_earlier
    (hok : MemberOk document.placements index transferId transfer member)
    (hovertaken : ∀ current ∈ requested.bundle.members,
      current.aggregateId = member.aggregateId →
        Overtaken transfer member current.priorPlacementGeneration) :
    MemberOk (prepared codec document requested).placements index transferId transfer member := by
  obtain ⟨before, hbefore, hkind, hmatches, hlater⟩ := hok
  by_cases hshared : ∃ current ∈ requested.bundle.members,
      current.aggregateId = member.aggregateId
  · obtain ⟨current, hcurrent, hid⟩ := hshared
    obtain ⟨resident, hresident, -, -, -, hgeneration, hstate, -⟩ := h.resident current hcurrent
    rw [hid, hbefore] at hresident
    obtain rfl := Option.some.inj hresident
    have hget := get?_prepared_of_mem codec h.ordered hcurrent (hid ▸ hbefore)
    rw [hid] at hget
    refine ⟨_, hget, hkind, ?_, ?_⟩
    · exact memberMatchesPhase_of_overtaken hmatches hstate rfl
        (hgeneration ▸ hovertaken current hcurrent hid)
    · intro start hstart
      refine (laterMemberHistory_congr (p := before) ?_ ?_).trans (hlater start hstart) <;> rfl
  · push Not at hshared
    exact ⟨before, (get?_prepared_of_not_mem h.ordered hshared).trans hbefore, hkind, hmatches,
      hlater⟩

theorem FreshRequest.validatePlacement_prepared (hvalid : document.Valid codec)
    (hget : (prepared codec document requested).placements.get? aggregateId = some placement) :
    (prepared codec document requested).validatePlacement (aggregateId, placement) = .ok () := by
  obtain ⟨before, hbefore, rfl | ⟨rfl, -⟩⟩ := h.placement_of_prepared hget
  · exact hvalid.placements _ _ hbefore
  · have hok := hvalid.placements _ _ hbefore
    simp only [CellDirectoryDocumentV3.validatePlacement, bind_eq_ok, demand_eq_ok,
      rejectIf_eq_ok] at hok ⊢
    obtain ⟨⟨⟩, hid, assignment, hassignment, ⟨⟩, hidentity, -⟩ := hok
    exact ⟨(), hid, assignment, hassignment, (), hidentity, by
      simp [AggregatePlacementRecord.bindingAgrees]⟩

theorem FreshRequest.validatePlacementHistory_prepared (hvalid : document.Valid codec)
    (hget : (prepared codec document requested).placements.get? aggregateId = some placement) :
    (prepared codec document requested).validatePlacementHistory aggregateId placement =
      .ok () := by
  obtain ⟨before, hbefore, heq⟩ := h.placement_of_prepared hget
  have hsame : placement.placementGeneration = before.placementGeneration
      ∧ placement.cellId = before.cellId := by
    rcases heq with rfl | ⟨rfl, -⟩ <;> exact ⟨rfl, rfl⟩
  have hok := hvalid.histories _ _ hbefore
  simp only [CellDirectoryDocumentV3.validatePlacementHistory, h.advancesOf_prepared,
    prepared_migrationGenesis, hsame.1, laterMemberHistory_congr hsame.1 hsame.2]
  exact hok

theorem FreshRequest.validateMigrationGenesis_prepared (hvalid : document.Valid codec) :
    (prepared codec document requested).validateMigrationGenesis codec = .ok () := by
  have hrevision : document.directoryRevision ≠ 0 := fun hzero => hvalid.header
    (.inr (.inr (.inr (.inl hzero))))
  have hok := hvalid.genesis
  simp only [CellDirectoryDocumentV3.validateMigrationGenesis, whenSome_eq_ok, bind_eq_ok,
    rejectIf_eq_ok, checkAll_eq_ok] at hok ⊢
  intro genesis hgenesis
  obtain ⟨⟨⟩, hrecord, -, -, -, -, hfloors⟩ := hok genesis hgenesis
  -- the roots are pinned at revision one, and a prepare is never that
  have hlater : (prepared codec document requested).directoryRevision ≠ 1 := by
    rw [prepared_directoryRevision]
    omega
  refine ⟨(), hrecord, (), fun hone => hlater hone.1, (), fun hone => hlater hone.1,
    fun floor hfloor => ?_⟩
  have hbelow := hfloors floor hfloor
  simp only [CellDirectoryDocumentV3.validateMigrationFloor, bind_eq_ok, demand_eq_ok,
    rejectIf_eq_ok] at hbelow ⊢
  obtain ⟨before, hbefore, assignment, hassignment, hagrees⟩ := hbelow
  by_cases hmem : ∃ member ∈ requested.bundle.members, member.aggregateId = floor.1
  · obtain ⟨member, hmember, hid⟩ := hmem
    have hget := get?_prepared_of_mem codec h.ordered hmember (hid ▸ hbefore)
    rw [hid] at hget
    exact ⟨_, hget, assignment, hassignment, hagrees⟩
  · push Not at hmem
    exact ⟨before, (get?_prepared_of_not_mem h.ordered hmem).trans hbefore, assignment,
      hassignment, hagrees⟩

omit h

/-- Every finished transfer that shares a member with the request has been overtaken. -/
def EarlierOvertaken (document : CellDirectoryDocumentV3) (requested : CellTransferRecordV3) :
    Prop :=
  ∀ transferId transfer, document.transfers.get? transferId = some transfer →
    ∀ member ∈ transfer.bundle.members, ∀ current ∈ requested.bundle.members,
      current.aggregateId = member.aggregateId →
        Overtaken transfer member current.priorPlacementGeneration

variable (h : FreshRequest codec document requested)

include h

theorem size_prepared_placements :
    (prepared codec document requested).placements.size = document.placements.size := by
  apply OrdMap.size_eq_of_isSome
  intro aggregateId
  by_cases hmem : ∃ member ∈ requested.bundle.members, member.aggregateId = aggregateId
  · obtain ⟨member, hmember, rfl⟩ := hmem
    obtain ⟨before, hbefore, -, -⟩ := h.resident member hmember
    rw [get?_prepared_of_mem codec h.ordered hmember hbefore, hbefore]
    rfl
  · push Not at hmem
    rw [get?_prepared_of_not_mem h.ordered hmem]

theorem FreshRequest.header_prepared
    (hvalid : document.Valid codec) (hbounds : WithinBounds codec document requested) :
    ¬ (prepared codec document requested).headerInvalid codec := by
  have hheader := hvalid.header
  simp only [CellDirectoryDocumentV3.headerInvalid, not_or, not_lt, ne_eq, not_not] at hheader ⊢
  obtain ⟨hschema, huniverse, hmanifest, -, hcells, hplacements, -, -, -, -⟩ := hheader
  refine ⟨hschema, huniverse, hmanifest, Nat.succ_ne_zero _, hcells, ?_, ?_, hbounds.bytes,
    codec.documentHash_hex _, rfl⟩
  · rw [size_prepared_placements h]
    exact hplacements
  · rw [prepared_transfers, OrdMap.size_insert_new h.fresh]
    exact hbounds.transfers

theorem FreshRequest.valid_prepared
    (hvalid : document.Valid codec) (hbounds : WithinBounds codec document requested)
    (hovertaken : EarlierOvertaken document requested) :
    (prepared codec document requested).Valid codec := by
  -- a transfer of the prepared document is the new one or an earlier one
  have hsplit : ∀ {transferId transfer},
      (prepared codec document requested).transfers.get? transferId = some transfer →
      transferId = requested.transferId ∧ transfer = requested
        ∨ transferId ≠ requested.transferId
          ∧ document.transfers.get? transferId = some transfer := by
    intro transferId transfer hget
    rw [prepared_transfers, OrdMap.get?_insert] at hget
    split_ifs at hget with hid
    · exact .inl ⟨hid, (Option.some.inj hget).symm⟩
    · exact .inr ⟨hid, hget⟩
  have hnone : ∀ a ∈ requested.advances, False := by simp [h.unproved.advances]
  refine {
    header := h.header_prepared hvalid hbounds
    assignments := hvalid.assignments
    genesis := h.validateMigrationGenesis_prepared hvalid
    placements := fun _ _ hget => h.validatePlacement_prepared hvalid hget
    indexed := ?_
    memberships := ?_
    unambiguous := ?_
    routed := ?_
    members := ?_
    only_members := ?_
    histories := fun _ _ hget => h.validatePlacementHistory_prepared hvalid hget
    active := ?_ }
  · intro transferId transfer hget
    rcases hsplit hget with ⟨rfl, rfl⟩ | ⟨-, hearlier⟩
    · refine ⟨h.unused, h.identity, ?_⟩
      -- the members are at their prior generations, and no placement is below its floor
      intro genesis hgenesis member hmember floor hfloor
      obtain ⟨placement, hplacement, -, -, -, hgeneration, -⟩ := h.resident member hmember
      have hfloors := hvalid.genesis
      simp only [CellDirectoryDocumentV3.validateMigrationGenesis, whenSome_eq_ok, bind_eq_ok,
        checkAll_eq_ok, CellDirectoryDocumentV3.validateMigrationFloor, demand_eq_ok,
        rejectIf_eq_ok] at hfloors
      obtain ⟨-, -, -, -, -, -, hfloors⟩ := hfloors genesis hgenesis
      obtain ⟨before, hbefore, _, _, hagrees⟩ := hfloors _ (OrdMap.mem_entries.mpr hfloor)
      obtain rfl := Option.mem_unique hplacement hbefore
      simp only [not_or, not_lt] at hagrees
      exact hgeneration ▸ hagrees.2.2.1
    · exact hvalid.indexed _ _ hearlier
  · rw [prepared_transfers, OrdMap.sumBy_insert_new h.fresh, Nat.add_comm]
    exact hbounds.memberships
  · intro transferId transfer transferId' transfer' hget hget' hne
    rcases hsplit hget with ⟨rfl, rfl⟩ | ⟨-, hearlier⟩
    · exact fun a ha => (hnone a ha).elim
    · rcases hsplit hget' with ⟨rfl, rfl⟩ | ⟨-, hearlier'⟩
      · exact fun a _ b hb => (hnone b hb).elim
      · exact hvalid.unambiguous _ _ _ _ hearlier hearlier' hne
  · intro transferId transfer hget
    rcases hsplit hget with ⟨rfl, rfl⟩ | ⟨-, hearlier⟩
    · exact h.routed_prepared hvalid
    · exact hvalid.routed _ _ hearlier
  · intro transferId transfer hget member hmember
    rcases hsplit hget with ⟨rfl, rfl⟩ | ⟨-, hearlier⟩
    · exact h.memberOk_prepared hmember _
    · rw [h.advancesOf_prepared]
      exact h.memberOk_earlier (hvalid.members _ _ hearlier member hmember)
        (hovertaken _ _ hearlier member hmember)
  · intro transferId transfer hget aggregateId placement hplacement hactive
    obtain ⟨before, hbefore, heq⟩ := h.placement_of_prepared hplacement
    rcases hsplit hget with ⟨rfl, rfl⟩ | ⟨hne, hearlier⟩
    · rcases heq with rfl | ⟨-, hmember⟩
      · -- nothing could carry the new transfer before
        obtain ⟨transfer, htransfer, -⟩ := hvalid.active _ _ _ hbefore hactive
        rw [h.fresh] at htransfer
        cases htransfer
      · exact hmember
    · rcases heq with rfl | ⟨rfl, -⟩
      · exact hvalid.only_members _ _ hearlier _ _ hbefore hactive
      · exact absurd (Option.some.inj hactive).symm hne
  · intro aggregateId placement transferId hplacement hactive
    obtain ⟨before, hbefore, rfl | ⟨rfl, hmember⟩⟩ := h.placement_of_prepared hplacement
    · obtain ⟨transfer, htransfer, hmember⟩ := hvalid.active _ _ _ hbefore hactive
      refine ⟨transfer, ?_, hmember⟩
      rw [prepared_transfers, OrdMap.get?_insert_ne]
      · exact htransfer
      · rintro rfl
        rw [h.fresh] at htransfer
        cases htransfer
    · obtain rfl := Option.some.inj hactive
      exact ⟨requested, by rw [prepared_transfers, OrdMap.get?_insert_self], hmember⟩

/-! ## Which requests are accepted -/

/-- Of a fresh request only the document it would leave is left to check. -/
theorem FreshRequest.stageV3Prepare_eq
    (hvalid : document.Valid codec) (hbounds : WithinBounds codec document requested) :
    (∃ next, stageV3Prepare codec document requested = .ok next) ↔
      (prepared codec document requested).Valid codec := by
  obtain ⟨source, hsource, destination, hdestination, hroute⟩ := h.route
  obtain ⟨-, hplan, hid, hroot, -⟩ := validateIdentity_eq_ok h.identity
  have happlies : BundledPlacementTransition.prepare.Applies requested.plan requested.transferId
      document.placements := by
    refine ⟨?_, ?_⟩
    · intro aggregateId placement hget hactive
      obtain ⟨transfer, htransfer, -⟩ := hvalid.active _ _ _ hget hactive
      rw [h.fresh] at htransfer
      cases htransfer
    · intro member hmember
      obtain ⟨placement, hget, hkind, hphase⟩ := h.resident member hmember
      have hok := hvalid.placements _ _ hget
      simp only [CellDirectoryDocumentV3.validatePlacement, bind_eq_ok, demand_eq_ok,
        rejectIf_eq_ok, not_or, not_not] at hok
      obtain ⟨_, _, _, _, _, ⟨hidentity, -⟩, _⟩ := hok
      exact ⟨placement, hget, hidentity, hkind, hphase⟩
  have hstaged := stageBundledPlacementTransition_eq_ok.mpr
    ⟨hplan, hid, hroot, rfl, happlies, rfl⟩
  have hrevision : checkedAdd document.directoryRevision 1 ≠ none := by
    have hlt := hbounds.revision
    simp only [checkedAdd, ne_eq, ite_eq_right_iff, reduceCtorEq, imp_false, not_not]
    omega
  rw [← validate_eq_ok]
  simp only [stageV3Prepare, bind_eq_ok, rejectIf_eq_ok, not_not, demand_eq_ok]
  constructor
  · rintro ⟨next, ⟨⟩, -, ⟨⟩, -, plan, hidentity, _, _, _, _, _, _, hnext⟩
    obtain rfl := (validateIdentity_eq_ok hidentity).1
    rw [h.fresh] at hnext
    simp only [bind_eq_ok, rejectIf_eq_ok, hstaged, finishV3Transaction] at hnext
    obtain ⟨_, _, _, hplacements, _, _, _, hok, -⟩ := hnext
    obtain rfl := Except.ok.inj hplacements
    exact hok
  · intro hok
    refine ⟨prepared codec document requested, (), validate_eq_ok.mpr hvalid, (), h.unproved, _,
      h.identity, source, hsource, destination, hdestination, (),
      validatePhaseProofs_of_unproved h.unproved source destination, ?_⟩
    rw [h.fresh]
    simp only [bind_eq_ok, rejectIf_eq_ok, not_not, finishV3Transaction, pure_eq_ok]
    exact ⟨(), hroute, _, hstaged, (), hrevision, (), hok, rfl⟩

theorem FreshRequest.overtaken_of_valid (hnext : (prepared codec document requested).Valid codec) :
    EarlierOvertaken document requested := by
  intro transferId transfer hget member hmember current hcurrent hid
  have hne : transferId ≠ requested.transferId := by
    rintro rfl
    rw [h.fresh] at hget
    cases hget
  obtain ⟨resident, hresident, -, -, -, hgeneration, -⟩ := h.resident current hcurrent
  obtain ⟨placement, hplacement, -, hmatches, -⟩ := hnext.members transferId transfer
    ((OrdMap.get?_insert_ne hne).trans hget) member hmember
  rw [← hid, get?_prepared_of_mem codec h.ordered hcurrent hresident] at hplacement
  obtain rfl := Option.some.inj hplacement
  -- a preparing member agrees with a finished transfer only by having overtaken it
  unfold memberMatchesPhase at hmatches
  unfold Overtaken
  cases hphase : transfer.phase <;> simp only [hphase] at hmatches ⊢
  all_goals
    rcases hmatches with hlater | ⟨hstate, -⟩
    · exact hgeneration ▸ hlater
    · cases hstate

theorem FreshRequest.prepare_iff_overtaken
    (hvalid : document.Valid codec) (hbounds : WithinBounds codec document requested) :
    (∃ next, stageV3Prepare codec document requested = .ok next) ↔
      EarlierOvertaken document requested := by
  rw [h.stageV3Prepare_eq hvalid hbounds]
  exact ⟨h.overtaken_of_valid, h.valid_prepared hvalid hbounds⟩

omit h

end Verse.DirectoryV3
