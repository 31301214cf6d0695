import Verse.LifecycleV2.Journal

/-!
# When a transition is accepted

A draft is validated when it is sealed, so a transition whose own requirements are met can still
be refused. Here each draft of a canonical record is found canonical again, with what the
transition read outside the record as hypotheses. The one draft for which that takes more than
its transition has asked is the renewed one: an occurrence that is armed after quanta have been
committed has to keep their cadence.

With that, each transition of a sound cell succeeds with its draft.
-/

namespace Verse.LifecycleV2

open Lib Directory DirectoryV3

variable {codec : LifecycleCodec} {record : LifecycleRecordV2}
  {assignment : ValidatedCurrentCellAssignmentV3} {frontier : LifecycleWorldFrontierV2} {now : Nat}
  {kind : LifecycleAuthorityOperationKindV2} {generation : Nat} {holderId : String}
  {operation : LifecycleAuthorityOperationV2} {pending : PendingProductionCommitV2}
  {occurrence : ProductionScheduleOccurrence}
  {nextOccurrence : Option ProductionScheduleOccurrence}

namespace LifecycleRecordV2

/-! ## The drafts of a canonical record -/

variable (h : record.Canonical codec) (htime : record.lastTrustedUnixMs ≤ now)

include h htime

theorem following_fields :
    CanonicalFields codec ((record.following now).sealed codec) :=
  { h.fields with
    revision := Nat.le_succ_of_le h.fields.revision
    trusted := Nat.ne_of_gt (Nat.lt_of_lt_of_le (Nat.pos_of_ne_zero h.fields.trusted) htime)
    renewed := fun renewed hrenewed =>
      ⟨(h.fields.renewed renewed hrenewed).1, (h.fields.renewed renewed hrenewed).2.trans htime⟩
    previous := h.fields.recordHash
    recordHash := codec.recordHash_hex _
    sealed_eq := rfl }

/-- The record is in the mode that an operation of this kind is asked for in. -/
def ReadyFor (record : LifecycleRecordV2) (kind : LifecycleAuthorityOperationKindV2)
    (holderId : String) : Prop :=
  match kind with
  | .claim => record.observedMode = .sleeping
  | .recovery => record.observedMode = .background
  | .release => record.observedMode = .background ∧ record.holderId = some holderId

theorem requested_canonical (hready : record.ReadyFor kind holderId)
    (hblank : isBlank holderId = false) :
    ((record.requested kind record.assignmentGeneration holderId now).sealed codec).Canonical
      codec := by
  have hfields := following_fields h htime
  have hlive : (record.requested kind record.assignmentGeneration holderId now).live
      ↔ record.live := by
    cases kind with
    | claim | recovery => rfl
    | release => simp [live, requested, following, hready.1]
  refine ⟨{ hfields with
    holder := hlive.trans h.fields.holder
    times := hlive.trans h.fields.times
    recordHash := codec.recordHash_hex _
    sealed_eq := rfl }, fun occurrence harmed => ?_, h.binds, ?_, ?_⟩
  · exact { h.armed occurrence harmed with }
  · cases kind with
    | claim | recovery =>
      simp only [ReadyFor] at hready
      simp [shapeIsValid, sealed, requested, following, hready]
    | release => simp [shapeIsValid, sealed, requested, following, hready.2]
  · intro operation hoperation
    obtain rfl := Option.some.inj hoperation
    simp [validateOperation, sealed, requested, following, hblank]

/-- An assignment that a record can name. -/
structure Nameable (assignment : ValidatedCurrentCellAssignmentV3) : Prop where
  revision : assignment.directoryRevision ≠ 0
  hash : validBlake3Hex assignment.directoryDocumentHash = true
  generation : assignment.assignment.assignmentGeneration ≠ 0
  fence : assignment.assignment.authorityFencingToken ≠ 0

theorem assigned_canonical (hoperation : record.authorityOperation = some operation)
    (hkind : operation.kind ≠ .release)
    (hnameable : Nameable assignment) (hholder : assignment.assignment.holderId.isSome) :
    ((record.assigned assignment now).sealed codec).Canonical codec := by
  have hlive : (record.assigned assignment now).live := by simp [live, assigned]
  have hdesired : record.desiredMode = .background := by
    have hshape := h.shape
    cases hmode : record.observedMode <;> simp_all [shapeIsValid]
  refine ⟨{ following_fields h htime with
    directoryRevision := hnameable.revision
    directoryHash := hnameable.hash
    generation := hnameable.generation
    fence := hnameable.fence
    holder := iff_of_true hlive hholder
    times := iff_of_true hlive ⟨rfl, rfl, rfl⟩
    expiry := fun expiry hexpiry => ?_
    renewed := fun renewed hrenewed => ?_
    recordHash := codec.recordHash_hex _
    sealed_eq := rfl }, fun occurrence harmed => ?_, h.binds, ?_, ?_⟩
  · obtain rfl := Option.some.inj hexpiry
    exact Nat.lt_add_of_pos_right (by decide)
  · obtain rfl := Option.some.inj hrenewed
    exact ⟨Nat.le_refl _, Nat.le_refl _⟩
  · exact { h.armed occurrence harmed with }
  · exact hdesired
  · intro operation hoperation
    cases hoperation

theorem Canonical.acquired_le (hlive : record.live) :
    record.authorityAcquiredAtUnixMs.getD now ≤ now := by
  obtain ⟨hacquired, hrenewed, -⟩ := h.fields.times.mp hlive
  obtain ⟨acquired, hacquired⟩ := Option.isSome_iff_exists.mp hacquired
  obtain ⟨renewed, hrenewed⟩ := Option.isSome_iff_exists.mp hrenewed
  obtain ⟨hle, hlast⟩ := h.fields.renewed renewed hrenewed
  rw [hacquired, Option.getD_some] at hle ⊢
  exact hle.trans (hlast.trans htime)

/-- The occurrence is on the cadence of the quanta that have been committed, if any have. -/
def OnCadence (record : LifecycleRecordV2) (occurrence : ProductionScheduleOccurrence) : Prop :=
  0 < record.acknowledgedProductionSequence →
    record.lastCommittedProductionScheduledForUnixMs + productionQuantumMillis ≤ u64Max
      ∧ occurrence.scheduledForUnixMs
          = record.lastCommittedProductionScheduledForUnixMs + productionQuantumMillis

/-- Before it is armed, an occurrence is the next cursor of its record at whatever time. An armed
    record has to have it on the cadence. -/
theorem renewed_canonical_iff (hlive : record.Live assignment now)
    (hnameable : Nameable assignment)
    (hkept : ∀ pending, record.pendingWorldCommit = some pending →
      nextOccurrence = some pending.occurrence)
    (hnext : ∀ occurrence, nextOccurrence = some occurrence →
      NextCursor occurrence record record.worldFrontier) :
    ((record.renewed assignment now nextOccurrence).sealed codec).Canonical codec ↔
      ∀ occurrence, nextOccurrence = some occurrence → record.OnCadence occurrence := by
  have hheld : record.live := by simp [live, hlive.background]
  constructor
  · intro hcanonical occurrence harmed hpast
    exact (hcanonical.armed occurrence harmed).cadence (Option.isSome_iff_exists.mpr ⟨_, harmed⟩)
      hpast
  · intro hcadence
    refine ⟨{ following_fields h htime with
      directoryRevision := hnameable.revision
      directoryHash := hnameable.hash
      times := iff_of_true hheld ⟨(h.fields.times.mp hheld).1, rfl, rfl⟩
      expiry := fun expiry hexpiry => ?_
      renewed := fun renewed hrenewed => ?_
      commit := fun hpending => ?_
      recordHash := codec.recordHash_hex _
      sealed_eq := rfl }, fun occurrence harmed => ?_, fun pending hpending => ?_, h.shape,
      fun operation hoperation => ?_⟩
    · obtain rfl := Option.some.inj hexpiry
      exact Nat.lt_add_of_pos_right (by decide)
    · obtain rfl := Option.some.inj hrenewed
      exact ⟨h.acquired_le htime hheld, Nat.le_refl _⟩
    · obtain ⟨pending, hpending⟩ := Option.isSome_iff_exists.mp hpending
      exact fun hnone => absurd ((hkept pending hpending).symm.trans hnone) nofun
    · exact { hnext occurrence harmed with cadence := fun _ hpast => hcadence occurrence harmed hpast }
    · exact ⟨hkept pending hpending, (h.binds pending hpending).2⟩
    · exact absurd (hlive.idle.symm.trans hoperation) nofun

theorem begun_canonical (hlive : record.Live assignment now)
    (harmed : record.nextProductionOccurrence = some occurrence) :
    ((record.begun occurrence now).sealed codec).Canonical codec := by
  refine ⟨{ following_fields h htime with
    commit := fun _ hnone => absurd (harmed.symm.trans hnone) nofun
    recordHash := codec.recordHash_hex _
    sealed_eq := rfl }, fun occurrence harmed => ?_, fun pending hpending => ?_, h.shape,
    fun operation hoperation => ?_⟩
  · exact { h.armed occurrence harmed with }
  · obtain rfl := Option.some.inj hpending
    exact ⟨harmed, rfl, rfl, rfl⟩
  · exact absurd (hlive.idle.symm.trans hoperation) nofun

/-- A frontier that a record can stand at. -/
structure Populated (frontier : LifecycleWorldFrontierV2) : Prop where
  event : 0 < frontier.eventSequence
  eventHash : validBlake3Hex frontier.eventHash = true
  stateHash : validBlake3Hex frontier.stateHash = true
  activeWorldHash : validBlake3Hex frontier.activeWorldHash = true
  generation : frontier.productionLifecycleGeneration ≠ 0
  committed : frontier.committedProductionSequence ≤ frontier.eventSequence

theorem acknowledged_canonical (hlive : record.Live assignment now)
    (hfrontier : Populated frontier)
    (hnext : ∀ occurrence, nextOccurrence = some occurrence →
      NextCursor occurrence ((record.acknowledged frontier now nextOccurrence).sealed codec)
        ((record.acknowledged frontier now nextOccurrence).sealed codec).worldFrontier) :
    ((record.acknowledged frontier now nextOccurrence).sealed codec).Canonical codec := by
  refine ⟨{ following_fields h htime with
    event := .inr ⟨hfrontier.event, hfrontier.eventHash⟩
    stateHash := hfrontier.stateHash
    activeWorldHash := hfrontier.activeWorldHash
    productionGeneration := hfrontier.generation
    acknowledged := hfrontier.committed
    commit := fun hpending => by cases hpending
    recordHash := codec.recordHash_hex _
    sealed_eq := rfl }, hnext, fun pending hpending => ?_, h.shape, fun operation hoperation => ?_⟩
  · cases hpending
  · exact absurd (hlive.idle.symm.trans hoperation) nofun

theorem slept_canonical (hoperation : record.authorityOperation = some operation)
    (hkind : operation.kind = .release)
    (hnameable : Nameable assignment) :
    ((record.slept assignment now).sealed codec).Canonical codec := by
  have hasleep : ¬ (record.slept assignment now).live := fun hlive => hlive rfl
  have hdesired : record.desiredMode = .sleeping := by
    have hshape := h.shape
    cases hmode : record.observedMode <;> simp_all [shapeIsValid]
  refine ⟨{ following_fields h htime with
    directoryRevision := hnameable.revision
    directoryHash := hnameable.hash
    generation := hnameable.generation
    fence := hnameable.fence
    holder := iff_of_false hasleep (by simp [sealed, slept])
    times := iff_of_false hasleep (by simp [authorityTimes, sealed, slept])
    expiry := fun expiry hexpiry => by cases hexpiry
    renewed := fun renewed hrenewed => by cases hrenewed
    commit := fun hpending => by cases hpending
    recordHash := codec.recordHash_hex _
    sealed_eq := rfl }, fun occurrence harmed => ?_, fun pending hpending => ?_, ?_,
    fun operation hoperation => ?_⟩
  · exact { h.armed occurrence harmed with }
  · cases hpending
  · exact hdesired
  · cases hoperation


end LifecycleRecordV2

/-! ## What a sound cell reads -/

open LifecycleRecordV2

variable {cell : LifecycleCell}

/-- The record has authority at this time, and no operation on it is under way. -/
structure LifecycleRecordV2.HasAuthority (record : LifecycleRecordV2) (now : Nat) : Prop where
  background : record.observedMode = .background
  idle : record.authorityOperation = none
  unexpired : ∃ expiry, record.authorityExpiresAtUnixMs = some expiry ∧ now < expiry

/-- The cell can take one more record at this time. -/
structure LifecycleCell.HasRoom (cell : LifecycleCell) (now : Nat) : Prop where
  time : cell.current.lastTrustedUnixMs ≤ now
  revision : cell.current.lifecycleRevision + 1 ≤ u64Max

theorem Sound.tipView (hsound : Sound codec cell) (hassignment : cell.assignment = .ok assignment) :
    TipView codec cell.current assignment := by
  obtain ⟨_, hassignment', htip⟩ := hsound.tip
  obtain rfl := ok_unique hassignment hassignment'
  exact htip

theorem Sound.live (hsound : Sound codec cell) (hassignment : cell.assignment = .ok assignment)
    (h : cell.current.HasAuthority now) : cell.current.Live assignment now := by
  have hbound := (hsound.tipView hassignment).boundTo h.idle
  have hheld := hbound.held (hsound.canonical.live_iff.mp (by rw [h.background]; decide))
  exact ⟨hheld.1, hbound.names, h.background, hheld.2.symm, h.idle, h.unexpired⟩

theorem Sound.nameable (hsound : Sound codec cell) (hassignment : cell.assignment = .ok assignment) :
    Nameable assignment := by
  have htip := hsound.tipView hassignment
  obtain ⟨-, hrevision, hhash, -, -⟩ :=
    assignmentFromDocument_eq_ok.mp (cellAssignment_eq_ok.mp hassignment)
  have hheader := hsound.filed.valid.header
  simp only [CellDirectoryDocumentV3.headerInvalid, not_or, not_not] at hheader
  obtain ⟨-, -, -, hpositive, -, -, -, -, hhex, -⟩ := hheader
  have hcounted : assignment.assignment.assignmentGeneration ≠ 0
      ∧ assignment.assignment.authorityFencingToken ≠ 0 := by
    rcases htip.rest.settled with ⟨hasleep, -⟩ | ⟨hheld, -⟩
    · rcases htip.stands with hbound | ⟨operation, hoperation, hanswered⟩
      · obtain ⟨-, -, -, -, hgeneration, hfence⟩ := hbound.names
        rw [hgeneration, hfence]
        exact ⟨hsound.canonical.fields.generation, hsound.canonical.fields.fence⟩
      · -- only a release is answered with a cell that sleeps
        have hshape := hsound.canonical.shape
        cases hkind : operation.kind with
        | claim | recovery =>
          simp only [answered, hkind, hasleep] at hanswered
          exact absurd hanswered.1 (by decide)
        | release =>
          simp only [answered, hkind] at hanswered
          cases hmode : cell.current.observedMode <;>
            simp only [shapeIsValid, hoperation, hmode, hkind, reduceCtorEq, false_and] at hshape
          rw [hanswered.2.1, hanswered.2.2.1, hshape.2.2.1]
          exact ⟨hsound.canonical.fields.generation, hsound.canonical.fields.fence⟩
    · exact htip.rest.counted hheld
  exact ⟨by rwa [hrevision], by rwa [hhash], hcounted.1, hcounted.2⟩

theorem transition_eq_ok {transition} :
    cell.transition codec now transition = .ok record ↔ ∃ assignment,
      cell.assignment = .ok assignment ∧ cell.current.apply codec assignment
        cell.world.lifecycleWorldFrontier now transition = .ok record := by
  rw [LifecycleCell.transition, bind_eq_ok]

/-! ## Each transition, accepted -/

variable (hsound : Sound codec cell) (hroom : cell.HasRoom now)

include hsound hroom

theorem Sound.requests (hworld : cell.world.lifecycleWorldFrontier = cell.current.worldFrontier)
    (hidle : cell.current.authorityOperation = none)
    (hpending : cell.current.pendingWorldCommit = none)
    (hready : cell.current.ReadyFor kind holderId) (hblank : isBlank holderId = false)
    (hstable : operationIdStable
      (lifecycleOperationId kind cell.current.assignmentGeneration holderId)) :
    cell.transition codec now (.requestAuthority kind holderId) = .ok
      ((cell.current.requested kind cell.current.assignmentGeneration holderId now).sealed
        codec) := by
  obtain ⟨assignment, hassignment, htip⟩ := hsound.tip
  have hbound := htip.boundTo hidle
  have hgeneration : assignment.assignment.assignmentGeneration
      = cell.current.assignmentGeneration := hbound.names.2.2.2.2.1
  have hcanonical := requested_canonical hsound.canonical hroom.time hready hblank
  refine transition_eq_ok.mpr ⟨assignment, hassignment, requestAuthority_eq_ok.mpr
    ⟨requireRequestFrontiers_eq_ok.mpr ⟨hbound.names, .inr ⟨.inr hpending, hworld⟩⟩, hidle, ?_,
      hbound.expectedState htip.rest hsound.canonical hcanonical.shape, hblank, ?_, ?_, ?_⟩⟩
  · rw [hpending]
    exact nofun
  · rintro rfl
    have hheld := hbound.held (by rw [hready.2]; rfl)
    exact hheld.2.trans hready.2
  · rwa [hgeneration]
  · rw [hgeneration]
    exact ⟨hroom.time, hroom.revision, hcanonical, rfl⟩

theorem Sound.finalizesAssigned (hassignment : cell.assignment = .ok assignment)
    (hoperation : cell.current.authorityOperation = some operation)
    (hkind : operation.kind ≠ .release)
    (hstate : assignment.assignment.state = .assigned)
    (hholder : assignment.assignment.holderId = some operation.holderId)
    (hbound : operation.expectedAssignmentGeneration + 1 ≤ u64Max)
    (hgeneration : assignment.assignment.assignmentGeneration
      = operation.expectedAssignmentGeneration + 1)
    (hexpiry : now + authorityDurationMillis ≤ u64Max) :
    cell.transition codec now .finalizeAssigned = .ok
      ((cell.current.assigned assignment now).sealed codec) := by
  have hcanonical := assigned_canonical hsound.canonical hroom.time hoperation hkind
    (hsound.nameable hassignment) (by rw [hholder]; rfl)
  exact transition_eq_ok.mpr ⟨assignment, hassignment, finalizeAssigned_eq_ok.mpr
    ⟨operation, hoperation, hkind, hstate, hholder, hbound, hgeneration,
      hsound.world.requireWorldOrPendingSuccessor, hexpiry, hroom.time, hroom.revision, hcanonical,
      rfl⟩⟩

/-- An occurrence is armed exactly if it is on the cadence. -/
theorem Sound.renews_iff (hassignment : cell.assignment = .ok assignment)
    (hworld : cell.world.lifecycleWorldFrontier = cell.current.worldFrontier)
    (hauthority : cell.current.HasAuthority now)
    (hkept : ∀ pending, cell.current.pendingWorldCommit = some pending →
      nextOccurrence = some pending.occurrence)
    (hnext : ∀ occurrence, nextOccurrence = some occurrence →
      NextCursor occurrence cell.current cell.current.worldFrontier)
    (hexpiry : now + authorityDurationMillis ≤ u64Max) :
    cell.transition codec now (.renewAndSetSchedule nextOccurrence) = .ok record ↔
      (∀ occurrence, nextOccurrence = some occurrence → cell.current.OnCadence occurrence)
        ∧ record = (cell.current.renewed assignment now nextOccurrence).sealed codec := by
  have hlive := hsound.live hassignment hauthority
  have hcanonical := renewed_canonical_iff hsound.canonical hroom.time hlive
    (hsound.nameable hassignment) hkept hnext
  rw [← hcanonical, transition_eq_ok]
  constructor
  · rintro ⟨_, hassignment', hmade⟩
    obtain rfl := ok_unique hassignment hassignment'
    obtain ⟨-, -, -, -, hfollows⟩ := renewAndSetSchedule_eq_ok.mp hmade
    exact ⟨hfollows.canonical, hfollows.next_eq⟩
  · rintro ⟨hdraft, rfl⟩
    exact ⟨assignment, hassignment, renewAndSetSchedule_eq_ok.mpr
      ⟨hlive, hworld, hnext, hexpiry, hroom.time, hroom.revision, hdraft, rfl⟩⟩

theorem Sound.arms_iff (hassignment : cell.assignment = .ok assignment)
    (hworld : cell.world.lifecycleWorldFrontier = cell.current.worldFrontier)
    (hauthority : cell.current.HasAuthority now)
    (hidle : cell.current.pendingWorldCommit = none)
    (hnext : NextCursor occurrence cell.current cell.current.worldFrontier)
    (hexpiry : now + authorityDurationMillis ≤ u64Max) :
    cell.transition codec now (.renewAndSetSchedule (some occurrence)) = .ok record ↔
      cell.current.OnCadence occurrence
        ∧ record = (cell.current.renewed assignment now (some occurrence)).sealed codec := by
  rw [hsound.renews_iff hroom hassignment hworld hauthority
    (fun pending hpending => absurd (hidle.symm.trans hpending) nofun)
    (fun _ harmed => Option.some.inj harmed ▸ hnext) hexpiry]
  simp only [Option.some.injEq, forall_eq']

theorem Sound.begins (hworld : cell.world.lifecycleWorldFrontier = cell.current.worldFrontier)
    (hauthority : cell.current.HasAuthority now)
    (hidle : cell.current.pendingWorldCommit = none)
    (harmed : cell.current.nextProductionOccurrence = some occurrence)
    (hdue : occurrence.scheduledForUnixMs ≤ now) :
    cell.transition codec now .beginWorldCommit = .ok
      ((cell.current.begun occurrence now).sealed codec) := by
  obtain ⟨assignment, hassignment, htip⟩ := hsound.tip
  have hlive := hsound.live hassignment hauthority
  exact transition_eq_ok.mpr ⟨assignment, hassignment, beginWorldCommit_eq_ok.mpr
    ⟨hlive, hworld, occurrence, harmed, hdue, hidle, hroom.time, hroom.revision,
      begun_canonical hsound.canonical hroom.time hlive harmed, rfl⟩⟩

theorem Sound.acknowledges (hauthority : cell.current.HasAuthority now)
    (hpending : cell.current.pendingWorldCommit = some pending)
    (hcommitted : pending.committedBy cell.world.lifecycleWorldFrontier)
    (hpopulated : Populated cell.world.lifecycleWorldFrontier)
    (hnext : ∀ occurrence, nextOccurrence = some occurrence →
      NextCursor occurrence cell.current cell.world.lifecycleWorldFrontier
        ∧ cell.world.lifecycleWorldFrontier.lastScheduledForUnixMs + productionQuantumMillis ≤ u64Max
        ∧ occurrence.scheduledForUnixMs
          = cell.world.lifecycleWorldFrontier.lastScheduledForUnixMs + productionQuantumMillis) :
    cell.transition codec now (.acknowledgeWorldCommit nextOccurrence) = .ok
      ((cell.current.acknowledged cell.world.lifecycleWorldFrontier now nextOccurrence).sealed
        codec) := by
  obtain ⟨assignment, hassignment, htip⟩ := hsound.tip
  have hlive := hsound.live hassignment hauthority
  have hcanonical : ((cell.current.acknowledged cell.world.lifecycleWorldFrontier now
      nextOccurrence).sealed codec).Canonical codec :=
    acknowledged_canonical hsound.canonical hroom.time hlive hpopulated fun occurrence harmed =>
      { (hnext occurrence harmed).1 with cadence := fun _ _ => (hnext occurrence harmed).2 }
  exact transition_eq_ok.mpr ⟨assignment, hassignment, acknowledgeWorldCommit_eq_ok.mpr
    ⟨hlive, pending, hpending, hcommitted.1, hcommitted.2.2.1, hcommitted.2.2.2, hroom.time,
      hroom.revision, hcanonical, rfl⟩⟩

theorem Sound.finalizesSleeping (hassignment : cell.assignment = .ok assignment)
    (hworld : cell.world.lifecycleWorldFrontier = cell.current.worldFrontier)
    (hoperation : cell.current.authorityOperation = some operation)
    (hkind : operation.kind = .release)
    (hstate : assignment.assignment.state = .sleeping)
    (hholder : assignment.assignment.holderId = none)
    (hgeneration : assignment.assignment.assignmentGeneration
      = operation.expectedAssignmentGeneration) :
    cell.transition codec now .finalizeSleeping = .ok
      ((cell.current.slept assignment now).sealed codec) := by
  have hcanonical := slept_canonical hsound.canonical hroom.time hoperation hkind
    (hsound.nameable hassignment)
  exact transition_eq_ok.mpr ⟨assignment, hassignment, finalizeSleeping_eq_ok.mpr
    ⟨operation, hoperation, hkind, hstate, hholder, hgeneration, hworld, hroom.time,
      hroom.revision, hcanonical, rfl⟩⟩

omit hsound hroom

end Verse.LifecycleV2
