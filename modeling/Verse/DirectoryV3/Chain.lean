import Verse.DirectoryV3.Immovable
import Verse.DirectoryV3.Moves

/-!
# The chain of an aggregate

The moves that the transfers beyond their commit made of one aggregate, put in order, lead from
where the genesis had it to where it is. `Chain` is such an order: every move starts where the
one before it ended, one generation on, so that no generation is skipped and none is left twice.

The index of moves is kept in the order of the transfers' identifiers, which is not the order in
which they committed; hence the permutation.
-/

namespace Verse.DirectoryV3

open Lib Directory

variable {codec : DirectoryCodec} {genesis document next : CellDirectoryDocumentV3}
  {op : DirectoryV3Op} {aggregateId : String}

/-- Moves of an aggregate, each from where the one before left it, one generation on. -/
inductive Chain (aggregateId : String) : Nat → String → List Advance → Nat → String → Prop where
  | here {generation cellId} : Chain aggregateId generation cellId [] generation cellId
  | moved {generation cellId rest last lastCellId} {a : Advance}
      (key : a.key = (aggregateId, generation, cellId))
      (once : a.nextGeneration = generation + 1)
      (rest_chain : Chain aggregateId a.nextGeneration a.nextCellId rest last lastCellId) :
      Chain aggregateId generation cellId (a :: rest) last lastCellId

variable {generation last : Nat} {cellId lastCellId : String} {path : List Advance}

theorem Chain.snoc
    {a : Advance} (h : Chain aggregateId generation cellId path last lastCellId)
    (hkey : a.key = (aggregateId, last, lastCellId)) (honce : a.nextGeneration = last + 1) :
    Chain aggregateId generation cellId (path ++ [a]) a.nextGeneration a.nextCellId := by
  induction h with
  | here => exact .moved hkey honce .here
  | moved key once _ ih => exact .moved key once (ih hkey honce)

theorem Chain.generations
    (h : Chain aggregateId generation cellId path last lastCellId) :
    last = generation + path.length
      ∧ path.map (·.generation) = List.range' generation path.length := by
  induction h with
  | here => exact ⟨rfl, rfl⟩
  | @moved generation cellId rest last lastCellId a key once rest_chain ih =>
    have hgeneration : a.generation = generation := congrArg (·.2.1) key
    obtain ⟨hlast, hmap⟩ := ih
    rw [once] at hlast hmap
    refine ⟨?_, ?_⟩
    · rw [hlast, List.length_cons]
      omega
    · rw [List.map_cons, hmap, hgeneration, List.length_cons, List.range'_succ]

/-- The moves of an aggregate that the transfers on record made. -/
def movesOf (document : CellDirectoryDocumentV3) (aggregateId : String) : List Advance :=
  (advancesOf document.transfers.entries).filter (·.aggregateId = aggregateId)

/-- Every aggregate got from where the genesis had it to where it is by the committed transfers
    on record, all of them and in one order only. -/
def Chained (genesis document : CellDirectoryDocumentV3) : Prop :=
  ∀ aggregateId placement, document.placements.get? aggregateId = some placement →
    ∃ origin, genesis.placements.get? aggregateId = some origin
      ∧ ∃ path, Chain aggregateId origin.placementGeneration origin.cellId path
          placement.placementGeneration placement.cellId
        ∧ path.Perm (movesOf document aggregateId)

/-! ## What a record contributes -/

variable {transferId : String} {current record : CellTransferRecordV3}

theorem movesOf_insert (aggregateId : String)
    (hget : document.transfers.get? transferId = some current)
    (htransfers : next.transfers = document.transfers.insert transferId record) :
    ∃ others, (movesOf document aggregateId).Perm
        (current.advances.filter (·.aggregateId = aggregateId) ++ others)
      ∧ (movesOf next aggregateId).Perm
        (record.advances.filter (·.aggregateId = aggregateId) ++ others) := by
  refine ⟨((document.transfers.erase transferId).entries.flatMap (·.2.advances)).filter
    (·.aggregateId = aggregateId), ?_, ?_⟩
  · rw [← List.filter_append]
    exact (OrdMap.flatMap_entries_perm hget).filter _
  · rw [← List.filter_append, movesOf, htransfers]
    exact OrdMap.flatMap_entries_insert_perm.filter _

theorem movesOf_perm_of_advances_eq
    (hget : document.transfers.get? transferId = some current)
    (htransfers : next.transfers = document.transfers.insert transferId record)
    (hsame : record.advances = current.advances) :
    (movesOf document aggregateId).Perm (movesOf next aggregateId) := by
  obtain ⟨others, hbefore, hafter⟩ := movesOf_insert _ hget htransfers
  rw [hsame] at hafter
  exact hbefore.trans hafter.symm

/-- A move of a member. -/
def CellTransferRecordV3.move (transfer : CellTransferRecordV3) (member : BundledPlacementMember) :
    Advance where
  aggregateId := member.aggregateId
  generation := member.priorPlacementGeneration
  cellId := transfer.sourceCellId
  nextGeneration := member.resultingPlacementGeneration
  nextCellId := transfer.destinationCellId

variable {transfer : CellTransferRecordV3}

theorem filter_advances_of_mem (hordered : transfer.plan.Ordered) (hphase : advanced transfer.phase)
    {member} (hmember : member ∈ transfer.bundle.members) :
    transfer.advances.filter (·.aggregateId = member.aggregateId) = [transfer.move member] := by
  have honly : transfer.bundle.members.filter (·.aggregateId = member.aggregateId) =
      transfer.bundle.members.filter (· = member) := by
    refine List.filter_congr fun other hother => ?_
    simp only [decide_eq_decide]
    constructor
    · intro hid
      exact hordered.eq_of_aggregateId hother hmember hid
    · rintro rfl
      rfl
  have hnodup : transfer.bundle.members.Nodup := hordered.ids_nodup.of_map _
  have hmoves : transfer.advances = transfer.bundle.members.map transfer.move := if_pos hphase
  rw [hmoves, List.filter_map]
  show (transfer.bundle.members.filter (·.aggregateId = member.aggregateId)).map transfer.move = _
  rw [honly, List.filter_eq, List.count_eq_one_of_mem hnodup hmember]
  rfl

theorem filter_advances_of_not_mem
    (hmember : ∀ member ∈ transfer.bundle.members, member.aggregateId ≠ aggregateId) :
    transfer.advances.filter (·.aggregateId = aggregateId) = [] := by
  rw [List.filter_eq_nil_iff]
  intro a ha
  obtain ⟨-, member, hmem, rfl⟩ := mem_advances.mp ha
  simpa using hmember member hmem

theorem Advances.advances_eq {transition} (h : Advances op transferId current transition record)
    (hne : transition ≠ some .commit) :
    record.advances = current.advances := by
  cases h with
  | committed phase => exact absurd rfl hne
  | sourcePrepared | adopted | exported | activated | sourceCleaned | destinationCleaned => rfl
  | quarantined phase | imported phase | finalized phase | aborted phase =>
    simp [CellTransferRecordV3.advances, advanced, phase]
  | abortRequested phase =>
    rcases phase with phase | phase <;> simp [CellTransferRecordV3.advances, advanced, phase]

theorem Advances.committed_of_commit
    (h : Advances op transferId current (some .commit) record) :
    ¬ advanced current.phase ∧ advanced record.phase ∧ record.plan = current.plan := by
  cases h with
  | committed phase => exact ⟨by simp [advanced, phase], .inl rfl, rfl⟩

/-! ## Every reachable document -/

theorem Chained.of_still (h : Chained genesis document)
    (hmoves : ∀ aggregateId, (movesOf document aggregateId).Perm (movesOf next aggregateId))
    (hstill : ∀ aggregateId placement', next.placements.get? aggregateId = some placement' →
      ∃ placement, document.placements.get? aggregateId = some placement
        ∧ placement'.placementGeneration = placement.placementGeneration
        ∧ placement'.cellId = placement.cellId) :
    Chained genesis next := by
  intro aggregateId placement' hget
  obtain ⟨placement, hbefore, hgeneration, hcell⟩ := hstill aggregateId placement' hget
  obtain ⟨origin, horigin, path, hchain, hperm⟩ := h aggregateId placement hbefore
  rw [hgeneration, hcell]
  exact ⟨origin, horigin, path, hchain, hperm.trans (hmoves aggregateId)⟩

/-- A commit extends the chain of every member by its move, and of nothing else. -/
theorem Chained.committed (h : Chained genesis document)
    (hget : document.transfers.get? transferId = some current)
    (htransfers : next.transfers = document.transfers.insert transferId record)
    (hordered : current.plan.Ordered) (hbefore : ¬ advanced current.phase)
    (hafter : advanced record.phase) (hplan : record.plan = current.plan)
    (hmoved : MovedTogether .commit transferId current document.placements next.placements) :
    Chained genesis next := by
  have hmembers : record.bundle.members = current.bundle.members :=
    congrArg BundledPlacementPlan.members hplan
  intro aggregateId placement' hplacement
  obtain ⟨others, hold, hnew⟩ := movesOf_insert aggregateId hget htransfers
  have hnone : current.advances = [] := if_neg hbefore
  rw [hnone, List.filter_nil, List.nil_append] at hold
  rcases hmoved.cases_of_get hplacement with
    ⟨member, hmember, rfl, placement, hwas, hphase, rfl⟩ | ⟨hother, hwas⟩
  · obtain ⟨-, hcell, hgeneration, -, -⟩ := hphase
    obtain ⟨origin, horigin, path, hchain, hperm⟩ := h _ placement hwas
    rw [hgeneration, hcell] at hchain
    have hkey : (record.move member).key =
        (member.aggregateId, member.priorPlacementGeneration, current.plan.sourceCellId) := by
      rw [← hplan]
      rfl
    refine ⟨origin, horigin, path ++ [record.move member], ?_, ?_⟩
    · have hextended := hchain.snoc hkey (hordered.advances_once member hmember)
      have hto : (record.move member).nextCellId = current.plan.destinationCellId := by
        rw [← hplan]
        rfl
      rw [hto] at hextended
      exact hextended
    · rw [filter_advances_of_mem (hplan ▸ hordered) hafter (hmembers ▸ hmember)] at hnew
      exact (List.perm_append_comm.trans ((hperm.trans hold).append_left _)).trans hnew.symm
  · obtain ⟨origin, horigin, path, hchain, hperm⟩ := h _ placement' hwas
    rw [filter_advances_of_not_mem (hmembers ▸ hother), List.nil_append] at hnew
    exact ⟨origin, horigin, path, hchain, (hperm.trans hold).trans hnew.symm⟩

theorem Chained.effect (h : Chained genesis document) (heffect : Effect codec document op next) :
    Chained genesis next := by
  cases heffect with
  | @prepared requested fresh =>
    refine h.of_still (fun aggregateId => ?_) fun aggregateId placement' hget => ?_
    · rw [movesOf, movesOf, fresh.advancesOf_prepared]
    · obtain ⟨before, hbefore, rfl | ⟨rfl, -⟩⟩ := fresh.placement_of_prepared hget
      · exact ⟨placement', hbefore, rfl, rfl⟩
      · exact ⟨before, hbefore, rfl, rfl⟩
  | @advanced _ transferId current transition record placements found advances staged =>
    by_cases hcommit : transition = some .commit
    · subst hcommit
      obtain ⟨hordered, happlies, rfl⟩ := stagePlacements_some staged
      obtain ⟨hbefore, hafter, hplan⟩ := advances.committed_of_commit
      exact h.committed found rfl hordered hbefore hafter hplan
        (movedTogether_of_applies hordered happlies)
    · refine h.of_still (fun aggregateId =>
        movesOf_perm_of_advances_eq found rfl (advances.advances_eq hcommit))
        fun aggregateId placement' hget => ?_
      cases transition with
      | none =>
        obtain rfl := Except.ok.inj staged
        exact ⟨placement', hget, rfl, rfl⟩
      | some transition =>
        obtain ⟨hordered, happlies, rfl⟩ := stagePlacements_some staged
        rcases (movedTogether_of_applies hordered happlies).cases_of_get hget with
          ⟨member, -, rfl, placement, hwas, -, rfl⟩ | ⟨-, hwas⟩
        · obtain ⟨hgeneration, hcell, -⟩ := @advance_still transition transferId
            (fun he => hcommit (he ▸ rfl)) current.plan member placement
          exact ⟨placement, hwas, hgeneration, hcell⟩
        · exact ⟨placement', hwas, rfl, rfl⟩
  | reassigned found reassigns =>
    exact h.of_still (fun _ => List.Perm.refl _) fun _ placement' hget =>
      ⟨placement', hget, rfl, rfl⟩

theorem IsGenesis.chained (h : IsGenesis codec genesis) : Chained genesis genesis := by
  intro aggregateId placement hget
  refine ⟨placement, hget, [], .here, ?_⟩
  rw [movesOf, h.no_transfers]
  exact List.Perm.refl _

/-! ## Where a chain starts -/

theorem laterMemberHistory_nil {placement}
    (h : laterMemberHistory aggregateId generation cellId placement [] = .ok ()) :
    generation = placement.placementGeneration ∧ cellId = placement.cellId := by
  unfold laterMemberHistory at h
  cases hremaining : placement.placementGeneration - generation with
  | zero =>
    rw [hremaining, validateLaterMemberHistory, rejectIf_eq_ok, not_or, not_not, not_not] at h
    exact h
  | succ n =>
    rw [hremaining, validateLaterMemberHistory, bind_eq_ok] at h
    obtain ⟨a, ha, -⟩ := h
    rw [demand_eq_ok] at ha
    cases ha

theorem IsGenesis.origin (h : IsGenesis codec genesis) {origin}
    (hget : genesis.placements.get? aggregateId = some origin) :
    origin.placementGeneration = 1
      ∨ ∃ g ∈ genesis.migrationGenesis, ∃ floor ∈ g.placementFloors.get? aggregateId,
          floor.placementGeneration = origin.placementGeneration
            ∧ floor.cellId = origin.cellId := by
  have hvalid := validate_eq_ok.mp h.valid
  have hplacement := hvalid.placements aggregateId origin hget
  simp only [CellDirectoryDocumentV3.validatePlacement, bind_eq_ok, rejectIf_eq_ok, not_or] at hplacement
  obtain ⟨-, -, -, -, -, ⟨-, hpos, -⟩, -⟩ := hplacement
  have hhistory := hvalid.histories aggregateId origin hget
  simp only [CellDirectoryDocumentV3.validatePlacementHistory, h.no_transfers] at hhistory
  by_cases hlater : 1 < origin.placementGeneration
  · right
    rw [if_pos hlater] at hhistory
    cases hfloor : genesis.migrationGenesis.bind (·.placementFloors.get? aggregateId) with
    | none =>
      rw [hfloor] at hhistory
      cases hhistory
    | some floor =>
      rw [hfloor] at hhistory
      obtain ⟨g, hg, hgfloor⟩ := Option.bind_eq_some_iff.mp hfloor
      exact ⟨g, hg, floor, hgfloor, laterMemberHistory_nil hhistory⟩
  · left
    omega

end Verse.DirectoryV3
