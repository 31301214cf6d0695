import Verse.DirectoryV3.History

/-!
# Validity, part by part

`validate` walks the document four times. `Valid` says what the walks establish, one field for
each thing a later argument asks for, in terms of the maps rather than of the order they are
visited in; `validate_eq_ok` says it is the same.

The parts are split by what they look at. `Indexed` is about a transfer and the genesis,
`Routed` about a transfer and the assignments, `MemberOk` about a transfer and the placements:
an operation that leaves one of these alone leaves the part alone.
-/

namespace Verse.DirectoryV3

open Lib Directory

variable {codec : DirectoryCodec} {document : CellDirectoryDocumentV3}

/-! ## Identities -/

variable {transfer : CellTransferRecordV3} {transferId : String}

theorem validateIdentity_eq_ok {plan} (h : transfer.validateIdentity codec transferId = .ok plan) :
    plan = transfer.plan ∧ transfer.plan.validate codec.sky codec.memberRoot = .ok ()
      ∧ validStableId transferId = true
      ∧ validBlake3Hex transfer.bundle.memberRoot = true ∧ transfer.transferId = transferId := by
  simp only [CellTransferRecordV3.validateIdentity, validateStableIdV3, validateHashV3,
    CellTransferRecordV3.bundledPlan, bind_eq_ok, rejectIf_eq_ok, pure_eq_ok, demand_eq_ok,
    not_not] at h
  obtain ⟨⟨⟩, hid, _, _, _, _, _, _, _, _, _, hroot, _, hsame, _, _, _, _, _, ⟨_, hplan, rfl⟩, _,
    _, _, _, rfl⟩ := h
  rw [not_or, not_not] at hsame
  exact ⟨rfl, hplan, hid, hroot, hsame.1⟩

/-! ## The first loop over the transfers -/

/-- What the first loop asks of a transfer on its own. -/
structure Indexed (codec : DirectoryCodec) (genesis : Option DirectoryMigrationGenesisV1)
    (transferId : String) (transfer : CellTransferRecordV3) : Prop where
  unused : ∀ g ∈ genesis, transferId ∉ g.sourceTerminalTransferIds
  identity : transfer.validateIdentity codec transferId = .ok transfer.plan
  above_floor : ∀ g ∈ genesis, ∀ member ∈ transfer.bundle.members,
    ∀ floor ∈ g.placementFloors.get? member.aggregateId,
      floor.placementGeneration ≤ member.priorPlacementGeneration

variable {genesis : Option DirectoryMigrationGenesisV1}

theorem Indexed.plan_valid
    (h : Indexed codec genesis transferId transfer) :
    transfer.plan.validate codec.sky codec.memberRoot = .ok () :=
  (validateIdentity_eq_ok h.identity).2.1

theorem Indexed.ordered
    (h : Indexed codec genesis transferId transfer) :
    transfer.plan.Ordered :=
  BundledPlacementPlan.ordered_of_validate h.plan_valid

/-- Two transfers make no move from the same generation of the same aggregate in the same
    cell. -/
def DistinctAdvances (transfer transfer' : CellTransferRecordV3) : Prop :=
  ∀ a ∈ transfer.advances, ∀ b ∈ transfer'.advances, a.key ≠ b.key

theorem DistinctAdvances.symm {transfer'} (h : DistinctAdvances transfer transfer') :
    DistinctAdvances transfer' transfer :=
  fun b hb a ha => (h a ha b hb).symm

theorem membershipsOf_append (xs ys : List (String × CellTransferRecordV3)) :
    membershipsOf (xs ++ ys) = membershipsOf xs + membershipsOf ys := by
  simp [membershipsOf]

theorem membershipsOf_entries (transfers : OrdMap String CellTransferRecordV3) :
    membershipsOf transfers.entries = transfers.sumBy (·.bundle.members.length) := by
  rw [OrdMap.sumBy_eq, membershipsOf]

variable {earlier : List (String × CellTransferRecordV3)}

theorem indexTransfer_eq_ok {entry} :
    document.indexTransfer codec earlier entry = .ok () ↔
      Indexed codec document.migrationGenesis entry.1 entry.2
        ∧ membershipsOf earlier + entry.2.bundle.members.length ≤ maxDraftTransferMemberships
        ∧ ∀ before ∈ earlier, DistinctAdvances before.2 entry.2 := by
  simp only [CellDirectoryDocumentV3.indexTransfer, bind_eq_ok, rejectIf_eq_ok, checkAll_eq_ok,
    not_lt, not_exists, not_and]
  constructor
  · rintro ⟨⟨⟩, hunused, plan, hidentity, ⟨⟩, hfloors, ⟨⟩, hcount, hkeys⟩
    obtain rfl := (validateIdentity_eq_ok hidentity).1
    refine ⟨⟨hunused, hidentity, ?_⟩, hcount, ?_⟩
    · intro g hg member hmember floor hfloor
      exact hfloors g hg member hmember floor hfloor
    · intro before hbefore a ha b hb
      exact hkeys b hb a (List.mem_flatMap.mpr ⟨before, hbefore, ha⟩)
  · rintro ⟨hindexed, hcount, hkeys⟩
    refine ⟨(), hindexed.unused, _, hindexed.identity, (), hindexed.above_floor, (), hcount, ?_⟩
    intro b hb a ha
    obtain ⟨before, hbefore, ha⟩ := List.mem_flatMap.mp ha
    exact hkeys before hbefore a ha b hb

theorem checkEach_indexTransfer {l} (hcount : membershipsOf earlier ≤ maxDraftTransferMemberships) :
    checkEach (document.indexTransfer codec) earlier l = .ok () ↔
      (∀ entry ∈ l, Indexed codec document.migrationGenesis entry.1 entry.2)
        ∧ membershipsOf earlier + membershipsOf l ≤ maxDraftTransferMemberships
        ∧ l.Pairwise (fun a b => DistinctAdvances a.2 b.2)
        ∧ ∀ before ∈ earlier, ∀ entry ∈ l, DistinctAdvances before.2 entry.2 := by
  induction l generalizing earlier with
  | nil => simpa [checkEach, membershipsOf] using hcount
  | cons entry rest ih =>
    have hsum : membershipsOf (earlier ++ [entry]) =
        membershipsOf earlier + entry.2.bundle.members.length := by
      rw [membershipsOf_append]
      simp [membershipsOf]
    have hcons : membershipsOf (entry :: rest) =
        entry.2.bundle.members.length + membershipsOf rest := by
      simp [membershipsOf]
    rw [checkEach, bind_eq_ok, hcons]
    constructor
    · rintro ⟨⟨⟩, hentry, hrest⟩
      obtain ⟨hindexed, hle, hkeys⟩ := indexTransfer_eq_ok.mp hentry
      obtain ⟨hall, htotal, hpair, hcross⟩ := (ih (hsum ▸ hle)).mp hrest
      refine ⟨List.forall_mem_cons.mpr ⟨hindexed, hall⟩, by omega,
        List.pairwise_cons.mpr ⟨?_, hpair⟩, ?_⟩
      · intro later hlater
        exact hcross entry (by simp) later hlater
      · intro before hbefore
        refine List.forall_mem_cons.mpr ⟨hkeys before hbefore, fun later hlater => ?_⟩
        exact hcross before (by simp [hbefore]) later hlater
    · rintro ⟨hall, htotal, hpair, hcross⟩
      obtain ⟨hindexed, hall⟩ := List.forall_mem_cons.mp hall
      obtain ⟨hfirst, hpair⟩ := List.pairwise_cons.mp hpair
      have hle : membershipsOf earlier + entry.2.bundle.members.length
          ≤ maxDraftTransferMemberships := by omega
      refine ⟨(), indexTransfer_eq_ok.mpr ⟨hindexed, hle, fun before hbefore =>
        hcross before hbefore entry (by simp)⟩, (ih (hsum ▸ hle)).mpr ⟨hall, by omega, hpair, ?_⟩⟩
      intro before hbefore later hlater
      rcases List.mem_append.mp hbefore with hbefore | hbefore
      · exact hcross before hbefore later (by simp [hlater])
      · rw [List.mem_singleton.mp hbefore]
        exact hfirst later hlater

/-! ## The second loop over the transfers -/

/-- The two cells a transfer is between, as it describes them, and its proofs against them. -/
def Routed (codec : DirectoryCodec) (assignments : OrdMap String CellAssignmentRecord)
    (transfer : CellTransferRecordV3) : Prop :=
  ∃ source destination, assignments.get? transfer.sourceCellId = some source
    ∧ assignments.get? transfer.destinationCellId = some destination
    ∧ source.cellKey = transfer.sourceCellKey
    ∧ destination.cellKey = transfer.destinationCellKey
    ∧ source.fencingHistory.get? transfer.sourceAssignmentGeneration
        = some transfer.sourceFencingToken
    ∧ destination.fencingHistory.get? transfer.destinationAssignmentGeneration
        = some transfer.destinationFencingToken
    ∧ areFaceNeighbors codec transfer.sourceCellKey transfer.destinationCellKey
    ∧ (¬ terminal transfer.phase → source.state = .assigned ∧ destination.state = .assigned)
    ∧ transfer.validatePhaseProofs codec.hashes source destination = .ok ()

/-- A member is where the phase of its transfer says, and has moved on from there if it is not. -/
def MemberOk (placements : Placements) (index : List Advance) (transferId : String)
    (transfer : CellTransferRecordV3) (member : BundledPlacementMember) : Prop :=
  ∃ placement, placements.get? member.aggregateId = some placement
    ∧ placement.aggregateKind = member.aggregateKind
    ∧ memberMatchesPhase placement member transfer transferId
    ∧ ∀ start, CellDirectoryDocumentV3.terminalStart transfer member placement = some start →
        laterMemberHistory member.aggregateId start.1 start.2 placement index = .ok ()

/-- Nothing but a member carries the transfer. -/
def OnlyMembers (placements : Placements) (transferId : String)
    (transfer : CellTransferRecordV3) : Prop :=
  ∀ aggregateId placement, placements.get? aggregateId = some placement →
    placement.activeTransferId = some transferId →
      ∃ member ∈ transfer.bundle.members, member.aggregateId = aggregateId

theorem validateTransferMember_eq_ok {member} :
    document.validateTransferMember transferId transfer member = .ok () ↔
      MemberOk document.placements (advancesOf document.transfers.entries) transferId transfer
        member := by
  simp only [CellDirectoryDocumentV3.validateTransferMember, bind_eq_ok, demand_eq_ok,
    rejectIf_eq_ok, not_or, not_not, MemberOk]
  constructor
  · rintro ⟨placement, hget, ⟨⟩, ⟨hkind, hphase⟩, hlater⟩
    refine ⟨placement, hget, hkind, hphase, fun start hstart => ?_⟩
    rw [hstart] at hlater
    exact hlater
  · rintro ⟨placement, hget, hkind, hphase, hlater⟩
    refine ⟨placement, hget, (), ⟨hkind, hphase⟩, ?_⟩
    cases hstart : CellDirectoryDocumentV3.terminalStart transfer member placement with
    | none => rfl
    | some start => exact hlater start hstart

theorem validateTransfer_eq_ok :
    document.validateTransfer codec (transferId, transfer) = .ok () ↔
      Routed codec document.assignments transfer
        ∧ (∀ member ∈ transfer.bundle.members, MemberOk document.placements
            (advancesOf document.transfers.entries) transferId transfer member)
        ∧ OnlyMembers document.placements transferId transfer := by
  simp only [CellDirectoryDocumentV3.validateTransfer, bind_eq_ok, demand_eq_ok, rejectIf_eq_ok,
    checkAll_eq_ok, validateTransferMember_eq_ok, not_or, not_not, not_and, Routed]
  constructor
  · rintro ⟨source, hsource, destination, hdestination, ⟨⟩,
      ⟨hskey, hdkey, hsfence, hdfence, hnear, hheld⟩, ⟨⟩, hproofs, ⟨⟩, hmembers, honly⟩
    refine ⟨⟨source, destination, hsource, hdestination, hskey, hdkey, hsfence, hdfence, hnear,
      hheld, hproofs⟩, hmembers, ?_⟩
    intro aggregateId placement hget hactive
    by_contra hnone
    exact honly ⟨(aggregateId, placement), OrdMap.mem_entries.mpr hget, hactive, hnone⟩
  · rintro ⟨⟨source, destination, hsource, hdestination, hskey, hdkey, hsfence, hdfence, hnear,
      hheld, hproofs⟩, hmembers, honly⟩
    refine ⟨source, hsource, destination, hdestination, (),
      ⟨hskey, hdkey, hsfence, hdfence, hnear, hheld⟩, (), hproofs, (), hmembers, ?_⟩
    rintro ⟨⟨aggregateId, placement⟩, hentry, hactive, hnone⟩
    exact hnone (honly aggregateId placement (OrdMap.mem_entries.mp hentry) hactive)

/-! ## The document -/

/-- What `validate` establishes. -/
structure CellDirectoryDocumentV3.Valid (codec : DirectoryCodec)
    (document : CellDirectoryDocumentV3) : Prop where
  header : ¬ document.headerInvalid codec
  assignments : document.validateAssignments codec = .ok ()
  genesis : document.validateMigrationGenesis codec = .ok ()
  placements : ∀ aggregateId placement, document.placements.get? aggregateId = some placement →
    document.validatePlacement (aggregateId, placement) = .ok ()
  indexed : ∀ transferId transfer, document.transfers.get? transferId = some transfer →
    Indexed codec document.migrationGenesis transferId transfer
  memberships :
    document.transfers.sumBy (·.bundle.members.length) ≤ maxDraftTransferMemberships
  unambiguous : ∀ transferId transfer transferId' transfer',
    document.transfers.get? transferId = some transfer →
    document.transfers.get? transferId' = some transfer' →
    transferId ≠ transferId' → DistinctAdvances transfer transfer'
  routed : ∀ transferId transfer, document.transfers.get? transferId = some transfer →
    Routed codec document.assignments transfer
  members : ∀ transferId transfer, document.transfers.get? transferId = some transfer →
    ∀ member ∈ transfer.bundle.members, MemberOk document.placements
      (advancesOf document.transfers.entries) transferId transfer member
  only_members : ∀ transferId transfer, document.transfers.get? transferId = some transfer →
    OnlyMembers document.placements transferId transfer
  histories : ∀ aggregateId placement, document.placements.get? aggregateId = some placement →
    document.validatePlacementHistory aggregateId placement = .ok ()
  active : ∀ aggregateId placement transferId,
    document.placements.get? aggregateId = some placement →
    placement.activeTransferId = some transferId →
      ∃ transfer, document.transfers.get? transferId = some transfer
        ∧ ∃ member ∈ transfer.bundle.members, member.aggregateId = aggregateId

theorem validatePlacementTransfers_eq_ok {aggregateId : String} {placement} :
    document.validatePlacementTransfers (aggregateId, placement) = .ok () ↔
      document.validatePlacementHistory aggregateId placement = .ok ()
        ∧ ∀ transferId, placement.activeTransferId = some transferId →
          ∃ transfer, document.transfers.get? transferId = some transfer
            ∧ ∃ member ∈ transfer.bundle.members, member.aggregateId = aggregateId := by
  simp only [CellDirectoryDocumentV3.validatePlacementTransfers, bind_eq_ok, whenSome_eq_ok,
    demand_eq_ok, rejectIf_eq_ok, not_not]
  constructor
  · rintro ⟨⟨⟩, hhistory, hactive⟩
    exact ⟨hhistory, hactive⟩
  · rintro ⟨hhistory, hactive⟩
    exact ⟨(), hhistory, hactive⟩

theorem validateTransfers_eq_ok :
    document.validateTransfers codec = .ok () ↔
      checkEach (document.indexTransfer codec) [] document.transfers.entries = .ok ()
        ∧ (∀ transferId transfer, document.transfers.get? transferId = some transfer →
            document.validateTransfer codec (transferId, transfer) = .ok ())
        ∧ ∀ aggregateId placement, document.placements.get? aggregateId = some placement →
            document.validatePlacementTransfers (aggregateId, placement) = .ok () := by
  simp only [CellDirectoryDocumentV3.validateTransfers, bind_eq_ok, checkAll_eq_ok,
    OrdMap.forall_entries]
  constructor
  · rintro ⟨⟨⟩, hindexed, ⟨⟩, htransfers, hplacements⟩
    exact ⟨hindexed, htransfers, hplacements⟩
  · rintro ⟨hindexed, htransfers, hplacements⟩
    exact ⟨(), hindexed, (), htransfers, hplacements⟩

theorem validate_eq_ok : document.validate codec = .ok () ↔ document.Valid codec := by
  have hloop := @checkEach_indexTransfer codec document [] document.transfers.entries
    (Nat.zero_le _)
  simp only [List.not_mem_nil, false_implies, implies_true, and_true, OrdMap.forall_entries,
    OrdMap.pairwise_entries (fun a b hab => DistinctAdvances.symm hab), membershipsOf_entries,
    show membershipsOf [] = 0 from rfl, Nat.zero_add] at hloop
  simp only [CellDirectoryDocumentV3.validate, bind_eq_ok, rejectIf_eq_ok, checkAll_eq_ok,
    OrdMap.forall_entries, validateTransfers_eq_ok, hloop, validateTransfer_eq_ok,
    validatePlacementTransfers_eq_ok]
  constructor
  · rintro ⟨⟨⟩, hheader, ⟨⟩, hassignments, ⟨⟩, hgenesis, ⟨⟩, hplacements,
      ⟨hindexed, hcount, hpairs⟩, htransfers, hhistories⟩
    exact {
      header := hheader
      assignments := hassignments
      genesis := hgenesis
      placements := hplacements
      indexed := hindexed
      memberships := hcount
      unambiguous := fun id t id' t' h h' hne => hpairs id t id' t' h h' hne
      routed := fun id t h => (htransfers id t h).1
      members := fun id t h => (htransfers id t h).2.1
      only_members := fun id t h => (htransfers id t h).2.2
      histories := fun id p h => (hhistories id p h).1
      active := fun id p transferId h hactive => (hhistories id p h).2 transferId hactive }
  · intro h
    refine ⟨(), h.header, (), h.assignments, (), h.genesis, (), h.placements,
      ⟨h.indexed, h.memberships, h.unambiguous⟩, ?_, ?_⟩
    · intro id t ht
      exact ⟨h.routed id t ht, h.members id t ht, h.only_members id t ht⟩
    · intro id p hp
      exact ⟨h.histories id p hp, fun transferId hactive => h.active id p transferId hp hactive⟩

end Verse.DirectoryV3
