import Mathlib.Data.List.Chain
import Verse.Directory.Validate

/-!
# Bundles

A grid never moves alone: its riders go with it. A bundle names the grid and its riders, each
with the placement generation it has before the move and the one it has after, and commits to
them by a root hash. The four transitions here are the only way a bundled move changes a
placement, and each changes the placement of every member or of none.

`Celestial` is what the directory asks of the identity and the geometry of cells, and
`memberRoot` is the hash of the members.
-/

namespace Verse.DirectoryV3

open Lib Directory

/-- `celestial::cell_id` and `celestial::neighbor_cell_key`: neither has a value for a key that
    is not canonical. -/
structure Celestial extends CellIds where
  neighborCellKey : CellKeyV1 → Int × Int × Int → Option CellKeyV1

structure BundledPlacementMember where
  aggregateId : String
  aggregateKind : MobileAggregateKind
  (priorPlacementGeneration resultingPlacementGeneration : Nat)
deriving DecidableEq, Repr

/-- What moves together, and a commitment to all of it. -/
structure BundledPlacementPlan where
  rootAggregateId : String
  sourceCellKey : CellKeyV1
  sourceCellId : String
  destinationCellKey : CellKeyV1
  destinationCellId : String
  members : List BundledPlacementMember
  memberRoot : String
deriving DecidableEq

inductive BundledPlacementTransition where
  | prepare
  | commit
  | imported
  | abort
deriving DecidableEq, Repr

abbrev Placements := OrdMap String AggregatePlacementRecord

section

variable (sky : Celestial) (memberRoot : BundledPlacementPlan → String)

/-- `celestial::validate_cell_key`: a key has an identifier exactly when it is canonical. -/
def validateCellKey (cellKey : CellKeyV1) : Fallible Unit :=
  rejectIf (sky.cellId cellKey = none) (.invalidDirectory (sky.reason cellKey))

/-- `calculate_member_root`: the root is a hash of everything else in the plan. -/
def BundledPlacementPlan.calculateMemberRoot (plan : BundledPlacementPlan) : String :=
  memberRoot { plan with memberRoot := "" }

/-- The body of the loop over the members. `prior` is the member before this one, and whether
    the root was seen is whether it is among `earlier`. -/
def BundledPlacementPlan.validateMember (plan : BundledPlacementPlan)
    (earlier : List BundledPlacementMember) (member : BundledPlacementMember) :
    Fallible Unit := do
  validateStableId member.aggregateId "bundle member"
  rejectIf ((∃ prior ∈ earlier.getLast?, prior.aggregateId ≥ member.aggregateId)
      ∨ member.priorPlacementGeneration = 0
      ∨ checkedAdd member.priorPlacementGeneration 1
          ≠ some member.resultingPlacementGeneration)
    (.invalidDirectory "bundled placement members must be unique, ordered, and advance once")
  if member.aggregateId = plan.rootAggregateId then
    rejectIf (member.aggregateKind ≠ .grid
        ∨ ∃ seen ∈ earlier, seen.aggregateId = plan.rootAggregateId)
      (.invalidDirectory "bundled placement root must identify exactly one grid")
  else
    rejectIf (member.aggregateKind ≠ .player)
      (.invalidDirectory "the bounded grid bundle permits only player rider members")

def BundledPlacementPlan.validate (plan : BundledPlacementPlan) : Fallible Unit := do
  validateStableId plan.rootAggregateId "root aggregate"
  validateCellKey sky plan.sourceCellKey
  validateCellKey sky plan.destinationCellKey
  rejectIf (plan.sourceCellKey = plan.destinationCellKey
      ∨ plan.sourceCellKey.universeId ≠ plan.destinationCellKey.universeId
      ∨ (∃ cellId ∈ sky.cellId plan.sourceCellKey, cellId ≠ plan.sourceCellId)
      ∨ (∃ cellId ∈ sky.cellId plan.destinationCellKey, cellId ≠ plan.destinationCellId)
      ∨ plan.members = []
      ∨ 128 < plan.members.length
      ∨ plan.memberRoot ≠ plan.calculateMemberRoot memberRoot)
    (.invalidDirectory "bundled placement cells, members, or root are invalid")
  checkEach plan.validateMember [] plan.members
  rejectIf (¬ ∃ member ∈ plan.members, member.aggregateId = plan.rootAggregateId)
    (.invalidDirectory "bundled placement members omit the grid root")

/-! ## The four transitions -/

/-- Where a member must be for a transition to find it. -/
def BundledPlacementTransition.phaseValid (transition : BundledPlacementTransition)
    (plan : BundledPlacementPlan) (transferId : String) (member : BundledPlacementMember)
    (placement : AggregatePlacementRecord) : Prop :=
  match transition with
  | .prepare =>
    placement.cellKey = plan.sourceCellKey
      ∧ placement.cellId = plan.sourceCellId
      ∧ placement.placementGeneration = member.priorPlacementGeneration
      ∧ placement.state = .resident
      ∧ placement.activeTransferId = none
  | .commit | .abort =>
    placement.cellKey = plan.sourceCellKey
      ∧ placement.cellId = plan.sourceCellId
      ∧ placement.placementGeneration = member.priorPlacementGeneration
      ∧ placement.state = .preparing
      ∧ placement.activeTransferId = some transferId
  | .imported =>
    placement.cellKey = plan.destinationCellKey
      ∧ placement.cellId = plan.destinationCellId
      ∧ placement.placementGeneration = member.resultingPlacementGeneration
      ∧ placement.state = .inTransit
      ∧ placement.activeTransferId = some transferId

instance (transition : BundledPlacementTransition) (plan : BundledPlacementPlan)
    (transferId : String) (member : BundledPlacementMember)
    (placement : AggregatePlacementRecord) :
    Decidable (transition.phaseValid plan transferId member placement) := by
  unfold BundledPlacementTransition.phaseValid; cases transition <;> infer_instance

/-- What a transition makes of the placement of a member. -/
def BundledPlacementTransition.advance (transition : BundledPlacementTransition)
    (plan : BundledPlacementPlan) (transferId : String) (member : BundledPlacementMember)
    (placement : AggregatePlacementRecord) : AggregatePlacementRecord :=
  match transition with
  | .prepare =>
    { placement with state := .preparing, activeTransferId := some transferId }
  | .commit =>
    { placement with
      cellKey := plan.destinationCellKey
      cellId := plan.destinationCellId
      placementGeneration := member.resultingPlacementGeneration
      state := .inTransit }
  | .imported | .abort =>
    { placement with state := .resident, activeTransferId := none }

/-- Every member's placement is advanced, and no other. -/
def BundledPlacementTransition.advanceAll (transition : BundledPlacementTransition)
    (plan : BundledPlacementPlan) (transferId : String) (placements : Placements) : Placements :=
  plan.members.foldl (fun staged member =>
    staged.modify member.aggregateId (transition.advance plan transferId member)) placements

/-- Every member of the plan takes the transition, or none does. -/
def stageBundledPlacementTransition (placements : Placements) (plan : BundledPlacementPlan)
    (transferId durableMemberRoot : String) (transition : BundledPlacementTransition) :
    Fallible Placements := do
  plan.validate sky memberRoot
  validateStableId transferId "transfer"
  validateHash durableMemberRoot "bundled placement member root"
  rejectIf (durableMemberRoot ≠ plan.memberRoot)
    (.transferConflict transferId "placement plan does not match the durable member root")
  rejectIf (∃ entry ∈ placements.entries, entry.2.activeTransferId = some transferId
      ∧ ¬ ∃ member ∈ plan.members, member.aggregateId = entry.1)
    (.transferConflict transferId "transfer ID is active on a nonmember placement")
  checkAll (fun member => do
    let placement ← demand (placements.get? member.aggregateId)
      (.unknownAggregate member.aggregateId)
    rejectIf (placement.aggregateId ≠ member.aggregateId
        ∨ placement.aggregateKind ≠ member.aggregateKind
        ∨ ¬ transition.phaseValid plan transferId member placement)
      (.transferConflict transferId
        s!"bundle member {member.aggregateId} is stale or in the wrong placement phase"))
    plan.members
  return transition.advanceAll plan transferId placements

end

/-! ## What a valid plan is -/

variable {sky : Celestial} {memberRoot : BundledPlacementPlan → String}

/-- The members as the loop over them leaves them: in order, each moved on by one. -/
structure BundledPlacementPlan.Ordered (plan : BundledPlacementPlan) : Prop where
  ascending : plan.members.Pairwise fun a b => a.aggregateId < b.aggregateId
  prior_pos : ∀ member ∈ plan.members, 0 < member.priorPlacementGeneration
  advances_once : ∀ member ∈ plan.members,
    member.resultingPlacementGeneration = member.priorPlacementGeneration + 1

variable {plan : BundledPlacementPlan}

theorem BundledPlacementPlan.ordered_of_validate
    (h : plan.validate sky memberRoot = .ok ()) : plan.Ordered := by
  simp only [validate, bind_eq_ok] at h
  obtain ⟨_, _, _, _, _, _, _, _, _, hmembers, _⟩ := h
  rw [checkEach_eq_ok_iff_split] at hmembers
  have hmember : ∀ before member after, plan.members = before ++ member :: after →
      (∀ prior ∈ before.getLast?, prior.aggregateId < member.aggregateId)
        ∧ 0 < member.priorPlacementGeneration
        ∧ member.resultingPlacementGeneration = member.priorPlacementGeneration + 1 := by
    intro before member after heq
    have hbody := hmembers before member after heq
    simp only [List.nil_append, validateMember, bind_eq_ok, rejectIf_eq_ok, not_or] at hbody
    obtain ⟨_, _, _, ⟨hprior, hpos, hadd⟩, _⟩ := hbody
    refine ⟨fun prior hmem => ?_, Nat.pos_of_ne_zero hpos, ?_⟩
    · exact lt_of_not_ge fun hge => hprior ⟨prior, hmem, hge⟩
    · exact (checkedAdd_eq_some.mp (not_not.mp hadd)).2.symm
  refine ⟨?_, ?_, ?_⟩
  · -- each member is checked against the one just before it, so the list is a chain
    have htrans : Trans (fun a b : BundledPlacementMember => a.aggregateId < b.aggregateId)
        (fun a b : BundledPlacementMember => a.aggregateId < b.aggregateId)
        (fun a b : BundledPlacementMember => a.aggregateId < b.aggregateId) :=
      ⟨fun hab hbc => lt_trans hab hbc⟩
    apply List.isChain_iff_pairwise.mp
    apply List.isChain_iff_forall_rel_of_append_cons_cons.mpr
    intro prior member before after heq
    exact (hmember (before ++ [prior]) member after (by simpa using heq)).1 prior (by simp)
  · intro member hmem
    obtain ⟨before, after, heq⟩ := List.append_of_mem hmem
    exact (hmember before member after heq).2.1
  · intro member hmem
    obtain ⟨before, after, heq⟩ := List.append_of_mem hmem
    exact (hmember before member after heq).2.2

theorem BundledPlacementPlan.Ordered.ids_nodup
    (h : plan.Ordered) : (plan.members.map (·.aggregateId)).Nodup := by
  refine List.pairwise_map.mpr (h.ascending.imp ?_)
  intro a b hab
  exact hab.ne

theorem BundledPlacementPlan.Ordered.eq_of_aggregateId (h : plan.Ordered) {a b}
    (ha : a ∈ plan.members) (hb : b ∈ plan.members) (hid : a.aggregateId = b.aggregateId) : a = b :=
  List.inj_on_of_nodup_map h.ids_nodup ha hb hid

/-! ## What a transition does -/

section

variable {plan : BundledPlacementPlan} {transition : BundledPlacementTransition}
  {transferId : String} {placements : Placements} {aggregateId : String}

theorem get?_advanceAll_of_mem (hplan : plan.Ordered) {member} (hmem : member ∈ plan.members) :
    (transition.advanceAll plan transferId placements).get? member.aggregateId =
      (placements.get? member.aggregateId).map (transition.advance plan transferId member) := by
  refine (OrdMap.get?_foldl_modify_of_nodup hplan.ids_nodup).trans ?_
  cases hfind : plan.members.find? fun m => decide (m.aggregateId = member.aggregateId) with
  | none => exact absurd (List.find?_eq_none.mp hfind member hmem) (by simp)
  | some found =>
    have hid : found.aggregateId = member.aggregateId := by simpa using List.find?_some hfind
    rw [hplan.eq_of_aggregateId (List.mem_of_find?_eq_some hfind) hmem hid]

theorem get?_advanceAll_of_not_mem (hplan : plan.Ordered)
    (hmem : ∀ member ∈ plan.members, member.aggregateId ≠ aggregateId) :
    (transition.advanceAll plan transferId placements).get? aggregateId =
      placements.get? aggregateId := by
  refine (OrdMap.get?_foldl_modify_of_nodup hplan.ids_nodup).trans ?_
  rw [List.find?_eq_none.mpr fun member h => by simpa using hmem member h]
  simp

/-- What a transition checks of the placements: each member is where it must be, and nothing
    else carries the transfer. -/
structure BundledPlacementTransition.Applies (transition : BundledPlacementTransition)
    (plan : BundledPlacementPlan) (transferId : String) (placements : Placements) : Prop where
  only_members : ∀ aggregateId placement, placements.get? aggregateId = some placement →
    placement.activeTransferId = some transferId →
      ∃ member ∈ plan.members, member.aggregateId = aggregateId
  found : ∀ member ∈ plan.members, ∃ placement,
    placements.get? member.aggregateId = some placement
      ∧ placement.aggregateId = member.aggregateId
      ∧ placement.aggregateKind = member.aggregateKind
      ∧ transition.phaseValid plan transferId member placement

theorem stageBundledPlacementTransition_eq_ok {root : String} {staged} :
    stageBundledPlacementTransition sky memberRoot placements plan transferId root transition
        = .ok staged ↔
      plan.validate sky memberRoot = .ok () ∧ validStableId transferId = true
        ∧ validBlake3Hex root = true ∧ root = plan.memberRoot
        ∧ transition.Applies plan transferId placements
        ∧ staged = transition.advanceAll plan transferId placements := by
  simp only [stageBundledPlacementTransition, validateStableId, validateHash, bind_eq_ok,
    rejectIf_eq_ok, checkAll_eq_ok, demand_eq_ok, pure_eq_ok, not_not]
  constructor
  · rintro ⟨⟨⟩, hplan, ⟨⟩, hid, ⟨⟩, hhex, ⟨⟩, hroot, ⟨⟩, honly, ⟨⟩, hfound, rfl⟩
    refine ⟨hplan, hid, hhex, hroot, ⟨?_, ?_⟩, rfl⟩
    · intro aggregateId placement hget hactive
      by_contra hnone
      exact honly ⟨(aggregateId, placement), OrdMap.mem_entries.mpr hget, hactive, hnone⟩
    · intro member hmem
      obtain ⟨placement, hget, hok⟩ := hfound member hmem
      simp only [not_or, not_not] at hok
      exact ⟨placement, hget, hok⟩
  · rintro ⟨hplan, hid, hhex, hroot, happlies, rfl⟩
    refine ⟨(), hplan, (), hid, (), hhex, (), hroot, (), ?_, (), ?_, rfl⟩
    · rintro ⟨⟨aggregateId, placement⟩, hentry, hactive, hnone⟩
      exact hnone (happlies.only_members _ _ (OrdMap.mem_entries.mp hentry) hactive)
    · intro member hmem
      obtain ⟨placement, hget, hok⟩ := happlies.found member hmem
      refine ⟨placement, hget, ?_⟩
      simp only [not_or, not_not]
      exact hok

end

end Verse.DirectoryV3
