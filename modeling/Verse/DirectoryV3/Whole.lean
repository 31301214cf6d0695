import Verse.DirectoryV3.Bundle

/-!
# A bundle moves whole

A transition reads the placement of every member before it writes any. So what it leaves is the
placements it found with every member's changed, or nothing at all: a bundle whose members have
drifted apart, in whatever way they came to, is refused by all four transitions alike.

What ties the steps of one move together is checked anew at each of them. The placements name
the transfer they are held by, and the durable record of the transfer names the members it is
for, so that a step under another transfer or for other members finds nothing to take up.
-/

namespace Verse.DirectoryV3

open Lib Directory

section

variable {sky : Celestial} {memberRoot : BundledPlacementPlan → String}
  {plan : BundledPlacementPlan} {transition next : BundledPlacementTransition}
  {transferId root : String} {placements staged : Placements}

def BundledPlacementPlan.Names (plan : BundledPlacementPlan) (aggregateId : String) : Prop :=
  ∃ member ∈ plan.members, member.aggregateId = aggregateId

/-- Some member is held by the transfer. -/
def BundledPlacementPlan.HeldBy (plan : BundledPlacementPlan) (transferId : String)
    (placements : Placements) : Prop :=
  ∃ member ∈ plan.members, ∃ placement, placements.get? member.aggregateId = some placement
    ∧ placement.activeTransferId = some transferId

/-- The members are not in one state: one has no placement, or two of them are in different
    phases, in different cells or held by different transfers. -/
inductive BundledPlacementPlan.Diverged (plan : BundledPlacementPlan) (placements : Placements) :
    Prop where
  | missing (member : BundledPlacementMember) (hmember : member ∈ plan.members)
      (hnone : placements.get? member.aggregateId = none)
  | apart (first second : BundledPlacementMember) (found other : AggregatePlacementRecord)
      (hfirst : first ∈ plan.members) (hsecond : second ∈ plan.members)
      (hfound : placements.get? first.aggregateId = some found)
      (hother : placements.get? second.aggregateId = some other)
      (hne : (found.state, found.cellKey, found.activeTransferId)
        ≠ (other.state, other.cellKey, other.activeTransferId))

/-- Two plans for different things with one root: the hash of the members has collided. -/
def BundledPlacementPlan.Collide (memberRoot : BundledPlacementPlan → String)
    (plan other : BundledPlacementPlan) : Prop :=
  plan.calculateMemberRoot memberRoot = other.calculateMemberRoot memberRoot
    ∧ { plan with memberRoot := "" } ≠ { other with memberRoot := "" }

/-- What a finished move has done: every member is where the plan sends it, one generation on
    and otherwise as it was, and nothing else has changed. -/
structure BundledPlacementPlan.Moved (plan : BundledPlacementPlan)
    (placements moved : Placements) : Prop where
  members : ∀ member ∈ plan.members, ∃ placement,
    placements.get? member.aggregateId = some placement
      ∧ moved.get? member.aggregateId = some { placement with
        cellKey := plan.destinationCellKey
        cellId := plan.destinationCellId
        placementGeneration := placement.placementGeneration + 1 }
  others : ∀ aggregateId, ¬ plan.Names aggregateId →
    moved.get? aggregateId = placements.get? aggregateId

/-! ## One transition -/

variable {member : BundledPlacementMember}

theorem BundledPlacementTransition.advance_ne {placement}
    (h : transition.phaseValid plan transferId member placement) :
    transition.advance plan transferId member placement ≠ placement := by
  intro hsame
  have hstate := congrArg AggregatePlacementRecord.state hsame
  cases transition with
  | prepare =>
    obtain ⟨_, _, _, hresident, _⟩ := h
    simp [advance, hresident] at hstate
  | commit | abort =>
    obtain ⟨_, _, _, hpreparing, _⟩ := h
    simp [advance, hpreparing] at hstate
  | imported =>
    obtain ⟨_, _, _, htransit, _⟩ := h
    simp [advance, htransit] at hstate

variable {aggregateId : String}

theorem get?_advanceAll_of_not_names (hplan : plan.Ordered)
    (h : ¬ plan.Names aggregateId) :
    (transition.advanceAll plan transferId placements).get? aggregateId
      = placements.get? aggregateId :=
  get?_advanceAll_of_not_mem hplan fun member hmem hid => h ⟨member, hmem, hid⟩

namespace BundledPlacementTransition
namespace Applies

variable (h : transition.Applies plan transferId placements)

include h

theorem get?_advanceAll
    (hplan : plan.Ordered) (hmem : member ∈ plan.members) :
    ∃ placement, placements.get? member.aggregateId = some placement
      ∧ placement.aggregateId = member.aggregateId
      ∧ placement.aggregateKind = member.aggregateKind
      ∧ transition.phaseValid plan transferId member placement
      ∧ (transition.advanceAll plan transferId placements).get? member.aggregateId
        = some (transition.advance plan transferId member placement) := by
  obtain ⟨placement, hget, hid, hkind, hphase⟩ := h.found member hmem
  refine ⟨placement, hget, hid, hkind, hphase, ?_⟩
  rw [get?_advanceAll_of_mem hplan hmem, hget]
  rfl

theorem changes_iff (hplan : plan.Ordered) :
    (transition.advanceAll plan transferId placements).get? aggregateId
      ≠ placements.get? aggregateId ↔ plan.Names aggregateId := by
  constructor
  · intro hchanged
    by_contra hnone
    exact hchanged (get?_advanceAll_of_not_names hplan hnone)
  · intro hnames
    obtain ⟨member, hmem, rfl⟩ := hnames
    obtain ⟨placement, hget, _, _, hphase, hstaged⟩ := h.get?_advanceAll hplan hmem
    rw [hstaged, hget]
    intro hsame
    exact advance_ne hphase (Option.some.inj hsame)

/-- A transition applies to what another leaves where it applies to each member so left: the
    transfer is then still on no placement but the members'. -/
theorem followed (hplan : plan.Ordered)
    (hnext : ∀ member placement, member ∈ plan.members →
      transition.phaseValid plan transferId member placement →
        next.phaseValid plan transferId member
          (transition.advance plan transferId member placement)) :
    next.Applies plan transferId (transition.advanceAll plan transferId placements) where
  only_members aggregateId placement hget hactive := by
    by_contra hnone
    rw [get?_advanceAll_of_not_names hplan hnone] at hget
    exact hnone (h.only_members aggregateId placement hget hactive)
  found member hmem := by
    obtain ⟨placement, _, hid, hkind, hphase, hstaged⟩ := h.get?_advanceAll hplan hmem
    refine ⟨_, hstaged, ?_, ?_, hnext member placement hmem hphase⟩
    · cases transition <;> exact hid
    · cases transition <;> exact hkind

/-- All members are in the phase the transition takes up, so no two of them differ. -/
theorem not_diverged :
    ¬ plan.Diverged placements := by
  intro hdiverged
  cases hdiverged with
  | missing member hmem hnone =>
    obtain ⟨placement, hget, _⟩ := h.found member hmem
    rw [hnone] at hget
    exact absurd hget (by simp)
  | apart first second found other hfirst hsecond hfound hother hne =>
    obtain ⟨placement, hget, _, _, hphase⟩ := h.found first hfirst
    obtain ⟨placement', hget', _, _, hphase'⟩ := h.found second hsecond
    obtain rfl : found = placement := Option.mem_unique hfound hget
    obtain rfl : other = placement' := Option.mem_unique hother hget'
    apply hne
    cases transition with
    | prepare | commit | imported | abort =>
      obtain ⟨hkey, _, _, hstate, hactive⟩ := hphase
      obtain ⟨hkey', _, _, hstate', hactive'⟩ := hphase'
      rw [hkey, hkey', hstate, hstate', hactive, hactive']

theorem eq_of_heldBy {holder : String}
    (hheld : plan.HeldBy holder placements) : holder = transferId := by
  obtain ⟨member, hmem, placement, hget, hactive⟩ := hheld
  obtain ⟨found, hfound, _, _, hphase⟩ := h.found member hmem
  obtain rfl : placement = found := Option.mem_unique hget hfound
  cases transition with
  | prepare =>
    obtain ⟨_, _, _, _, hfree⟩ := hphase
    rw [hfree] at hactive
    exact absurd hactive (by simp)
  | commit | imported | abort =>
    obtain ⟨_, _, _, _, hholds⟩ := hphase
    exact Option.mem_unique hactive hholds

omit h

end Applies
end BundledPlacementTransition

/-! ## One move -/

theorem applies_abort (h : BundledPlacementTransition.Applies .prepare plan transferId placements)
    (hplan : plan.Ordered) : BundledPlacementTransition.Applies .abort plan transferId
      (BundledPlacementTransition.advanceAll .prepare plan transferId placements) := by
  apply h.followed hplan
  intro member placement _ hphase
  obtain ⟨hkey, hcell, hprior, _, _⟩ := hphase
  exact ⟨hkey, hcell, hprior, rfl, rfl⟩

theorem applies_commit (h : BundledPlacementTransition.Applies .prepare plan transferId placements)
    (hplan : plan.Ordered) : BundledPlacementTransition.Applies .commit plan transferId
      (BundledPlacementTransition.advanceAll .prepare plan transferId placements) := by
  apply h.followed hplan
  intro member placement _ hphase
  obtain ⟨hkey, hcell, hprior, _, _⟩ := hphase
  exact ⟨hkey, hcell, hprior, rfl, rfl⟩

theorem applies_imported (h : BundledPlacementTransition.Applies .commit plan transferId placements)
    (hplan : plan.Ordered) : BundledPlacementTransition.Applies .imported plan transferId
      (BundledPlacementTransition.advanceAll .commit plan transferId placements) := by
  apply h.followed hplan
  intro member placement _ hphase
  obtain ⟨_, _, _, _, hholds⟩ := hphase
  exact ⟨rfl, rfl, rfl, rfl, hholds⟩

/-- An abort takes back exactly what the preparation did: a member was resident and free. -/
theorem abort_advanceAll
    (h : BundledPlacementTransition.Applies .prepare plan transferId placements)
    (hplan : plan.Ordered) :
    BundledPlacementTransition.advanceAll .abort plan transferId
      (BundledPlacementTransition.advanceAll .prepare plan transferId placements)
        = placements := by
  apply OrdMap.ext
  intro aggregateId
  by_cases hnames : plan.Names aggregateId
  · obtain ⟨member, hmem, rfl⟩ := hnames
    obtain ⟨placement, hget, _, _, hphase, hprepared⟩ := h.get?_advanceAll hplan hmem
    obtain ⟨_, _, _, hresident, hfree⟩ := hphase
    rw [get?_advanceAll_of_mem hplan hmem, hprepared, hget]
    simp [BundledPlacementTransition.advance, ← hresident, ← hfree]
  · rw [get?_advanceAll_of_not_names hplan hnames, get?_advanceAll_of_not_names hplan hnames]

/-- The commitment sends the members off, and the import lets them go. -/
theorem moved_of_prepared
    (h : BundledPlacementTransition.Applies .prepare plan transferId placements)
    (hplan : plan.Ordered) :
    plan.Moved placements (BundledPlacementTransition.advanceAll .imported plan transferId
      (BundledPlacementTransition.advanceAll .commit plan transferId
        (BundledPlacementTransition.advanceAll .prepare plan transferId placements))) where
  members member hmem := by
    obtain ⟨placement, hget, _, _, hphase, hprepared⟩ := h.get?_advanceAll hplan hmem
    obtain ⟨_, _, hprior, hresident, hfree⟩ := hphase
    refine ⟨placement, hget, ?_⟩
    rw [get?_advanceAll_of_mem hplan hmem, get?_advanceAll_of_mem hplan hmem, hprepared]
    simp [BundledPlacementTransition.advance, hplan.advances_once member hmem, hprior,
      ← hresident, ← hfree]
  others aggregateId hnames := by
    rw [get?_advanceAll_of_not_names hplan hnames, get?_advanceAll_of_not_names hplan hnames,
      get?_advanceAll_of_not_names hplan hnames]

/-- A prepared bundle is held by its transfer, and so it is until it is taken in or let go. -/
theorem heldBy_of_applies (h : transition.Applies plan transferId placements)
    (hroot : ∃ member, member ∈ plan.members) (hprepare : transition ≠ .prepare) :
    plan.HeldBy transferId placements := by
  obtain ⟨member, hmem⟩ := hroot
  obtain ⟨placement, hget, _, _, hphase⟩ := h.found member hmem
  refine ⟨member, hmem, placement, hget, ?_⟩
  cases transition with
  | prepare => exact absurd rfl hprepare
  | commit | imported | abort => exact hphase.2.2.2.2

theorem memberRoot_of_validate (h : plan.validate sky memberRoot = .ok ()) :
    plan.memberRoot = plan.calculateMemberRoot memberRoot ∧ ∃ member, member ∈ plan.members := by
  simp only [BundledPlacementPlan.validate, bind_eq_ok, rejectIf_eq_ok, not_or, not_not] at h
  obtain ⟨_, _, _, _, _, _, _, ⟨_, _, _, _, _, _, hroot⟩, _, _, member, hmem, _⟩ := h
  exact ⟨hroot, member, hmem⟩

/-- Every transition takes all of the members or none, whatever the placements are. A preparation
    can be aborted, which restores the placements, and carried on, which moves every member one
    generation on and nothing else; and while it is under way no other transfer takes a step for
    a member of it. What is refused at any step: members that are not all in one state, a
    transfer that holds a placement the plan does not name, and another plan than the one whose
    root is on record, short of two plans with one root. -/
theorem bundles_move_whole :
    (∀ staged, stageBundledPlacementTransition sky memberRoot placements plan transferId root
        transition = .ok staged →
      ∀ aggregateId, staged.get? aggregateId ≠ placements.get? aggregateId
        ↔ plan.Names aggregateId)
    ∧ (∀ prepared, stageBundledPlacementTransition sky memberRoot placements plan transferId root
        .prepare = .ok prepared →
      stageBundledPlacementTransition sky memberRoot prepared plan transferId root .abort
          = .ok placements
        ∧ ∃ committed moved,
          stageBundledPlacementTransition sky memberRoot prepared plan transferId root .commit
              = .ok committed
            ∧ stageBundledPlacementTransition sky memberRoot committed plan transferId root
              .imported = .ok moved
            ∧ plan.Moved placements moved
            ∧ plan.HeldBy transferId prepared ∧ plan.HeldBy transferId committed)
    ∧ (∀ other, plan.HeldBy other placements → other ≠ transferId → ∀ staged,
      stageBundledPlacementTransition sky memberRoot placements plan transferId root transition
        ≠ .ok staged)
    ∧ (plan.Diverged placements → ∀ staged,
      stageBundledPlacementTransition sky memberRoot placements plan transferId root transition
        ≠ .ok staged)
    ∧ (∀ aggregateId placement, placements.get? aggregateId = some placement →
      placement.activeTransferId = some transferId → ¬ plan.Names aggregateId → ∀ staged,
      stageBundledPlacementTransition sky memberRoot placements plan transferId root transition
        ≠ .ok staged)
    ∧ ∀ recorded : BundledPlacementPlan, recorded.validate sky memberRoot = .ok () →
      root = recorded.memberRoot → plan ≠ recorded → ¬ plan.Collide memberRoot recorded →
      ∀ staged,
      stageBundledPlacementTransition sky memberRoot placements plan transferId root transition
        ≠ .ok staged := by
  simp only [ne_eq, stageBundledPlacementTransition_eq_ok]
  refine ⟨?_, ?_, ?_, ?_, ?_, ?_⟩
  · intro staged h aggregateId
    obtain ⟨hvalid, _, _, _, happlies, rfl⟩ := h
    exact happlies.changes_iff (BundledPlacementPlan.ordered_of_validate hvalid)
  · intro prepared h
    obtain ⟨hvalid, hid, hhex, hroot, happlies, rfl⟩ := h
    have hplan := BundledPlacementPlan.ordered_of_validate hvalid
    have hmember := (memberRoot_of_validate hvalid).2
    have habort := applies_abort happlies hplan
    have hcommit := applies_commit happlies hplan
    have himported := applies_imported hcommit hplan
    refine ⟨⟨hvalid, hid, hhex, hroot, habort, (abort_advanceAll happlies hplan).symm⟩, _, _,
      ⟨hvalid, hid, hhex, hroot, hcommit, rfl⟩, ⟨hvalid, hid, hhex, hroot, himported, rfl⟩,
      moved_of_prepared happlies hplan, ?_, ?_⟩
    · exact heldBy_of_applies hcommit hmember (by simp)
    · exact heldBy_of_applies himported hmember (by simp)
  · intro other hheld hother staged h
    obtain ⟨_, _, _, _, happlies, _⟩ := h
    exact hother (happlies.eq_of_heldBy hheld)
  · intro hdiverged staged h
    obtain ⟨_, _, _, _, happlies, _⟩ := h
    exact happlies.not_diverged hdiverged
  · intro aggregateId placement hget hactive hnames staged h
    obtain ⟨_, _, _, _, happlies, _⟩ := h
    exact hnames (happlies.only_members aggregateId placement hget hactive)
  · intro recorded hrecorded hon hne hcollision staged h
    obtain ⟨hvalid, _, _, hroot, _, _⟩ := h
    -- both plans commit to the root on record, so they are the same up to it and so the same
    have hsame : plan.memberRoot = recorded.memberRoot := hroot.symm.trans hon
    apply hcollision
    refine ⟨?_, fun hmaterial => hne ?_⟩
    · rw [← (memberRoot_of_validate hvalid).1, ← (memberRoot_of_validate hrecorded).1, hsame]
    · cases plan
      cases recorded
      simp_all

end

end Verse.DirectoryV3
