import Verse.LifecycleV2.Sound

/-!
# The journal reads itself back

A record that a transition has just made is made again from the record before it, the
assignment at its own directory revision and the frontier the prior record kept. Each of the six
transitions has its reason: a request, a begun commit and an acknowledgement keep the document of
the prior record, and the shape of the record says that the assignment there was in the same state;
the other three name the tip, where the assignment they read is found again.

The exception is a renewal while a commit is pending. It makes a canonical record, and the
journal refuses it, because no transition is told by two records that are both pending.
-/

namespace Verse.LifecycleV2

open Lib Directory DirectoryV3

variable {codec : LifecycleCodec} {cell : LifecycleCell} {record prior : LifecycleRecordV2}
  {assignment bound : ValidatedCurrentCellAssignmentV3} {history : DirectoryHistory}
  {frontier : LifecycleWorldFrontierV2} {now : Nat} {kind : LifecycleAuthorityOperationKindV2}
  {operation : LifecycleAuthorityOperationV2} {pending : PendingProductionCommitV2}
  {holderId : String} {nextOccurrence : Option ProductionScheduleOccurrence}

namespace LifecycleRecordV2

/-! ## Which transition two records tell -/

theorem expectedSuccessor_requested (hprior : prior.authorityOperation = none)
    (hrecord : record.authorityOperation = some operation) :
    record.expectedSuccessor codec prior assignment =
      prior.requestAuthority codec assignment prior.worldFrontier operation.kind
        operation.holderId record.lastTrustedUnixMs := by
  simp [expectedSuccessor, hprior, hrecord]

theorem expectedSuccessor_assigned (hprior : prior.authorityOperation = some operation)
    (hkind : operation.kind ≠ .release) (hrecord : record.authorityOperation = none) :
    record.expectedSuccessor codec prior assignment =
      prior.finalizeAssigned codec assignment prior.worldFrontier record.lastTrustedUnixMs := by
  cases hcase : operation.kind with
  | claim | recovery => simp [expectedSuccessor, hprior, hrecord, hcase]
  | release => exact absurd hcase hkind

theorem expectedSuccessor_slept (hprior : prior.authorityOperation = some operation)
    (hkind : operation.kind = .release) (hrecord : record.authorityOperation = none) :
    record.expectedSuccessor codec prior assignment =
      prior.finalizeSleeping codec assignment prior.worldFrontier record.lastTrustedUnixMs := by
  simp [expectedSuccessor, hprior, hrecord, hkind]

theorem expectedSuccessor_begun (hprior : prior.authorityOperation = none)
    (hrecord : record.authorityOperation = none) (hidle : prior.pendingWorldCommit = none)
    (hpending : record.pendingWorldCommit = some pending) :
    record.expectedSuccessor codec prior assignment =
      prior.beginWorldCommit codec assignment prior.worldFrontier record.lastTrustedUnixMs := by
  simp [expectedSuccessor, hprior, hrecord, hidle, hpending]

theorem expectedSuccessor_acknowledged (hprior : prior.authorityOperation = none)
    (hrecord : record.authorityOperation = none) (hpending : prior.pendingWorldCommit = some pending)
    (hidle : record.pendingWorldCommit = none) :
    record.expectedSuccessor codec prior assignment =
      prior.acknowledgeWorldCommit codec assignment record.worldFrontier record.lastTrustedUnixMs
        record.nextProductionOccurrence := by
  simp [expectedSuccessor, hprior, hrecord, hidle, hpending]

theorem expectedSuccessor_renewed (hprior : prior.authorityOperation = none)
    (hrecord : record.authorityOperation = none) (hidle : prior.pendingWorldCommit = none)
    (hpending : record.pendingWorldCommit = none) :
    record.expectedSuccessor codec prior assignment =
      prior.renewAndSetSchedule codec assignment prior.worldFrontier record.lastTrustedUnixMs
        record.nextProductionOccurrence := by
  simp [expectedSuccessor, hprior, hrecord, hidle, hpending]

/-! ## What the shape of a request says of the record before it -/

variable {generation : Nat}

theorem observedMode_of_claim
    (h : ((record.requested .claim generation holderId now).sealed codec).shapeIsValid) :
    record.observedMode = .sleeping := by
  cases hmode : record.observedMode <;>
    simp_all [shapeIsValid, sealed, requested, following]

theorem observedMode_of_recovery
    (h : ((record.requested .recovery generation holderId now).sealed codec).shapeIsValid) :
    record.observedMode = .background := by
  cases hmode : record.observedMode <;>
    simp_all [shapeIsValid, sealed, requested, following]

theorem holderId_of_release
    (h : ((record.requested .release generation holderId now).sealed codec).shapeIsValid) :
    record.holderId = some holderId := by
  simp_all [shapeIsValid, sealed, requested, following]

theorem BoundTo.expectedState (h : record.BoundTo bound) {cellId : String}
    (hrest : AtRest codec.directory cellId bound.assignment) (hcanonical : record.Canonical codec)
    (hshape : ((record.requested kind generation holderId now).sealed codec).shapeIsValid) :
    bound.assignment.state = kind.expectedState := by
  cases kind with
  | claim =>
    refine h.asleep hrest ?_
    by_contra hsome
    exact hcanonical.live_iff.mpr (Option.isSome_iff_ne_none.mpr hsome)
      (observedMode_of_claim hshape)
  | recovery =>
    refine (h.held (hcanonical.live_iff.mp ?_)).1
    rw [observedMode_of_recovery hshape]
    decide
  | release =>
    refine (h.held ?_).1
    rw [holderId_of_release hshape]
    rfl

theorem Live.of_boundTo (h : record.Live assignment now) (hcanonical : record.Canonical codec)
    (hbound : record.BoundTo bound) : record.Live bound now := by
  have hheld := hbound.held (hcanonical.live_iff.mp (by rw [h.background]; decide))
  exact ⟨hheld.1, hbound.names, h.background, hheld.2.symm, h.idle, h.unexpired⟩

end LifecycleRecordV2

open LifecycleRecordV2

/-! ## Each transition, replayed -/

/-- The record is bound, and made again, from the history of the directory. -/
def Replays (codec : LifecycleCodec) (cell : LifecycleCell) (record : LifecycleRecordV2) : Prop :=
  ∃ bound, record.boundAssignment cell.history = .ok bound ∧ record.BoundTo bound
    ∧ record.expectedSuccessor codec cell.current bound = .ok record

variable (hsound : Sound codec cell)

include hsound

theorem replays_requestAuthority
    (h : cell.current.requestAuthority codec assignment frontier kind holderId now = .ok record) :
    Replays codec cell record := by
  obtain ⟨hfrontiers, hidle, hpending, -, hblank, -, hstable, hfollows⟩ :=
    requestAuthority_eq_ok.mp h
  obtain ⟨hnames, -⟩ := requireRequestFrontiers_eq_ok.mp hfrontiers
  obtain ⟨bound, hread, hbound⟩ := hsound.bound
  have hgeneration : assignment.assignment.assignmentGeneration
      = bound.assignment.assignmentGeneration :=
    hnames.2.2.2.2.1.trans hbound.names.2.2.2.2.1.symm
  rw [hgeneration] at hstable hfollows
  have hrest := boundAssignment_atRest hsound.filed hread
  have hstate := hbound.expectedState hrest hsound.canonical hfollows.canonical.shape
  have hrecord := hfollows.next_eq
  subst hrecord
  refine ⟨bound, hread, ⟨hbound.names, hbound.holder⟩, ?_⟩
  rw [expectedSuccessor_requested hidle rfl]
  refine requestAuthority_eq_ok.mpr
    ⟨requireRequestFrontiers_eq_ok.mpr ⟨hbound.names, ?_⟩, hidle, hpending, hstate, hblank, ?_,
      hstable, hfollows⟩
  · -- a recovery may have a commit pending, whose prior frontier the record still has
    cases hcommit : cell.current.pendingWorldCommit with
    | none => exact .inr ⟨.inr rfl, rfl⟩
    | some pending =>
      have hkind : kind = .recovery := hpending (by rw [hcommit]; rfl)
      refine .inl ⟨hkind, pending, rfl, ?_, .inl (hsound.canonical.precededBy hcommit)⟩
      rw [hstate, hkind]
      rfl
  · intro hkind
    subst hkind
    have hholder := holderId_of_release hfollows.canonical.shape
    rw [← hholder]
    exact (hbound.held (by rw [hholder]; rfl)).2

theorem replays_beginWorldCommit
    (h : cell.current.beginWorldCommit codec assignment frontier now = .ok record) :
    Replays codec cell record := by
  obtain ⟨hlive, -, occurrence, harmed, hdue, hidle, hfollows⟩ := beginWorldCommit_eq_ok.mp h
  obtain ⟨bound, hread, hbound⟩ := hsound.bound
  have hrecord := hfollows.next_eq
  subst hrecord
  refine ⟨bound, hread, ⟨hbound.names, hbound.holder⟩, ?_⟩
  refine Eq.trans (expectedSuccessor_begun hlive.idle hlive.idle hidle rfl) ?_
  exact beginWorldCommit_eq_ok.mpr ⟨hlive.of_boundTo hsound.canonical hbound, rfl, occurrence,
    harmed, hdue, hidle, hfollows⟩

theorem replays_acknowledgeWorldCommit
    (h : cell.current.acknowledgeWorldCommit codec assignment frontier now nextOccurrence
      = .ok record) : Replays codec cell record := by
  obtain ⟨hlive, pending, hpending, hsequence, hcommitted, hscheduled, hfollows⟩ :=
    acknowledgeWorldCommit_eq_ok.mp h
  obtain ⟨bound, hread, hbound⟩ := hsound.bound
  have hrecord := hfollows.next_eq
  subst hrecord
  refine ⟨bound, hread, ⟨hbound.names, hbound.holder⟩, ?_⟩
  refine Eq.trans (expectedSuccessor_acknowledged hlive.idle hlive.idle hpending rfl) ?_
  -- the frontier of the record is the world's, but for the registry, which is not installed
  exact acknowledgeWorldCommit_eq_ok.mpr ⟨hlive.of_boundTo hsound.canonical hbound, pending,
    hpending, hsequence, hcommitted, hscheduled, hfollows⟩

theorem replays_finalizeAssigned (hassignment : cell.assignment = .ok assignment)
    (htip : TipView codec cell.current assignment)
    (h : cell.current.finalizeAssigned codec assignment frontier now = .ok record) :
    Replays codec cell record := by
  obtain ⟨operation, hoperation, hkind, hstate, hholder, hroom, hgeneration, -, hexpiry,
    hfollows⟩ := finalizeAssigned_eq_ok.mp h
  have hrecord := hfollows.next_eq
  subst hrecord
  refine ⟨assignment, boundAssignment_of_tip hsound.filed hassignment rfl rfl rfl,
    ⟨⟨htip.universeId, htip.manifestHash, htip.cellKey, htip.cellId, rfl, rfl⟩,
      .inl ⟨hstate, rfl⟩⟩, ?_⟩
  rw [expectedSuccessor_assigned hoperation hkind rfl]
  exact finalizeAssigned_eq_ok.mpr ⟨operation, hoperation, hkind, hstate, hholder, hroom,
    hgeneration, requireWorldOrPendingSuccessor_eq_ok.mpr (.inl rfl), hexpiry, hfollows⟩

theorem replays_renewAndSetSchedule (hassignment : cell.assignment = .ok assignment)
    (hidle : cell.current.pendingWorldCommit = none)
    (h : cell.current.renewAndSetSchedule codec assignment frontier now nextOccurrence
      = .ok record) : Replays codec cell record := by
  obtain ⟨hlive, -, hnext, hexpiry, hfollows⟩ := renewAndSetSchedule_eq_ok.mp h
  have hrecord := hfollows.next_eq
  subst hrecord
  refine ⟨assignment, boundAssignment_of_tip hsound.filed hassignment rfl rfl rfl,
    ⟨hlive.names, .inl ⟨hlive.assigned, hlive.holder.symm⟩⟩, ?_⟩
  refine Eq.trans (expectedSuccessor_renewed hlive.idle hlive.idle hidle hidle) ?_
  exact renewAndSetSchedule_eq_ok.mpr ⟨hlive, rfl, hnext, hexpiry, hfollows⟩

theorem replays_finalizeSleeping (hassignment : cell.assignment = .ok assignment)
    (htip : TipView codec cell.current assignment)
    (h : cell.current.finalizeSleeping codec assignment frontier now = .ok record) :
    Replays codec cell record := by
  obtain ⟨operation, hoperation, hkind, hstate, hholder, hgeneration, -, hfollows⟩ :=
    finalizeSleeping_eq_ok.mp h
  have hrecord := hfollows.next_eq
  subst hrecord
  refine ⟨assignment, boundAssignment_of_tip hsound.filed hassignment rfl rfl rfl,
    ⟨⟨htip.universeId, htip.manifestHash, htip.cellKey, htip.cellId, rfl, rfl⟩,
      .inr ⟨hstate, hholder, rfl⟩⟩, ?_⟩
  rw [expectedSuccessor_slept hoperation hkind rfl]
  exact finalizeSleeping_eq_ok.mpr ⟨operation, hoperation, hkind, hstate, hholder, hgeneration,
    rfl, hfollows⟩

omit hsound

/-! ## What the journal takes -/

theorem validateExactSuccessor_eq_ok {u : Unit} :
    record.validateExactSuccessor codec prior history = .ok u ↔
      ∃ bound, record.boundAssignment history = .ok bound
        ∧ record.expectedSuccessor codec prior bound = .ok record := by
  simp only [validateExactSuccessor, bind_eq_ok, rejectIf_eq_ok, not_not]
  constructor
  · rintro ⟨bound, hread, expected, hexpected, rfl⟩
    exact ⟨bound, hread, hexpected⟩
  · rintro ⟨bound, hread, hexpected⟩
    exact ⟨bound, hread, record, hexpected, rfl⟩

theorem replays_iff : Replays codec cell record ↔
    record.validateDirectoryBinding cell.history = .ok ()
      ∧ record.validateExactSuccessor codec cell.current cell.history = .ok () := by
  rw [validateDirectoryBinding_eq_ok, validateExactSuccessor_eq_ok]
  constructor
  · rintro ⟨bound, hread, hbound, hexpected⟩
    exact ⟨⟨bound, hread, hbound⟩, bound, hread, hexpected⟩
  · rintro ⟨⟨bound, hread, hbound⟩, bound', hread', hexpected⟩
    obtain rfl := ok_unique hread hread'
    exact ⟨bound, hread, hbound, hexpected⟩

theorem prepareAppend_eq_ok {u : Unit} : cell.prepareAppend codec record = .ok u ↔
    record.Canonical codec ∧ Replays codec cell record
      ∧ record.previousRecordHash = cell.current.recordHash
      ∧ record.lifecycleRevision = (checkedAdd cell.current.lifecycleRevision 1).getD 0 := by
  simp only [LifecycleCell.prepareAppend, bind_eq_ok,
    LifecycleRecordV2.validate_eq_ok, rejectIf_eq_ok, not_or, not_not, replays_iff]
  constructor
  · rintro ⟨⟨⟩, hcanonical, ⟨⟩, hbinding, ⟨⟩, hexact, hhash, hrevision⟩
    exact ⟨hcanonical, ⟨hbinding, hexact⟩, hhash, hrevision⟩
  · rintro ⟨hcanonical, ⟨hbinding, hexact⟩, hhash, hrevision⟩
    exact ⟨(), hcanonical, (), hbinding, (), hexact, hhash, hrevision⟩

/-- What a record never changes. -/
structure LifecycleIdentity where
  universeId : String
  cellKey : CellKeyV1
  (cellId manifestHash celestialRegistryHash migrationAnchorHash lifecycleGenesisHash : String)
  activeHeadHash : String

def LifecycleRecordV2.identity (record : LifecycleRecordV2) : LifecycleIdentity where
  universeId := record.universeId
  cellKey := record.cellKey
  cellId := record.cellId
  manifestHash := record.manifestHash
  celestialRegistryHash := record.celestialRegistryHash
  migrationAnchorHash := record.migrationAnchorHash
  lifecycleGenesisHash := record.lifecycleGenesisHash
  activeHeadHash := record.activeHeadHash

/-- Whatever the transition, the record it makes is the next one of the journal. -/
structure NextRecord (codec : LifecycleCodec) (prior record : LifecycleRecordV2) (now : Nat) :
    Prop where
  canonical : record.Canonical codec
  time : prior.lastTrustedUnixMs ≤ now
  trusted : record.lastTrustedUnixMs = now
  previous : record.previousRecordHash = prior.recordHash
  room : prior.lifecycleRevision + 1 ≤ u64Max
  revision : record.lifecycleRevision = prior.lifecycleRevision + 1
  identity : record.identity = prior.identity

theorem LifecycleRecordV2.Follows.nextRecord {draft} (h : Follows codec prior now draft record)
    (htrusted : draft.lastTrustedUnixMs = now)
    (hprevious : draft.previousRecordHash = prior.recordHash)
    (hrevision : draft.lifecycleRevision = prior.lifecycleRevision + 1)
    (hidentity : draft.identity = prior.identity) : NextRecord codec prior record now := by
  have hrecord := h.next_eq
  subst hrecord
  exact ⟨h.canonical, h.time, htrusted, hprevious, h.room, hrevision, hidentity⟩

theorem NextRecord.cellId (h : NextRecord codec prior record now) :
    record.cellId = prior.cellId :=
  congrArg LifecycleIdentity.cellId h.identity

variable {transition : LifecycleTransitionV2}

theorem nextRecord_of_apply
    (h : prior.apply codec assignment frontier now transition = .ok record) :
    NextRecord codec prior record now := by
  cases transition with
  | requestAuthority kind holderId =>
    obtain ⟨-, -, -, -, -, -, -, hfollows⟩ := requestAuthority_eq_ok.mp h
    exact hfollows.nextRecord rfl rfl rfl rfl
  | finalizeAssigned =>
    obtain ⟨_, -, -, -, -, -, -, -, -, hfollows⟩ := finalizeAssigned_eq_ok.mp h
    exact hfollows.nextRecord rfl rfl rfl rfl
  | renewAndSetSchedule nextOccurrence =>
    obtain ⟨-, -, -, -, hfollows⟩ := renewAndSetSchedule_eq_ok.mp h
    exact hfollows.nextRecord rfl rfl rfl rfl
  | beginWorldCommit =>
    obtain ⟨-, -, _, -, -, -, hfollows⟩ := beginWorldCommit_eq_ok.mp h
    exact hfollows.nextRecord rfl rfl rfl rfl
  | acknowledgeWorldCommit nextOccurrence =>
    obtain ⟨-, _, -, -, -, -, hfollows⟩ := acknowledgeWorldCommit_eq_ok.mp h
    exact hfollows.nextRecord rfl rfl rfl rfl
  | finalizeSleeping =>
    obtain ⟨_, -, -, -, -, -, -, hfollows⟩ := finalizeSleeping_eq_ok.mp h
    exact hfollows.nextRecord rfl rfl rfl rfl

/-- The one transition that is not for a record with a pending commit. -/
def RenewsNothingPending (record : LifecycleRecordV2) : LifecycleTransitionV2 → Prop
  | .renewAndSetSchedule _ => record.pendingWorldCommit = none
  | _ => True

theorem prepareAppend_of_transition
    (hsound : Sound codec cell) (hidle : RenewsNothingPending cell.current transition)
    (h : cell.transition codec now transition = .ok record) :
    cell.prepareAppend codec record = .ok () := by
  rw [LifecycleCell.transition, bind_eq_ok] at h
  obtain ⟨assignment, hassignment, h⟩ := h
  obtain ⟨_, hassignment', htip⟩ := hsound.tip
  obtain rfl := ok_unique hassignment hassignment'
  have hnext := nextRecord_of_apply h
  have hrevision : record.lifecycleRevision =
      (checkedAdd cell.current.lifecycleRevision 1).getD 0 := by
    rw [hnext.revision, checkedAdd, if_pos hnext.room]
    rfl
  refine prepareAppend_eq_ok.mpr ⟨hnext.canonical, ?_, hnext.previous, hrevision⟩
  cases transition with
  | requestAuthority kind holderId => exact replays_requestAuthority hsound h
  | finalizeAssigned => exact replays_finalizeAssigned hsound hassignment htip h
  | renewAndSetSchedule nextOccurrence =>
    exact replays_renewAndSetSchedule hsound hassignment hidle h
  | beginWorldCommit => exact replays_beginWorldCommit hsound h
  | acknowledgeWorldCommit nextOccurrence => exact replays_acknowledgeWorldCommit hsound h
  | finalizeSleeping => exact replays_finalizeSleeping hsound hassignment htip h

/-! ## A record is appended -/

/-- An operation that is pending is finished before another is taken up, and a pending commit is
    kept until it is done with. -/
structure TakesTurns (prior record : LifecycleRecordV2) : Prop where
  operation : prior.authorityOperation.isSome → record.authorityOperation = none
  commit : ∀ pending, prior.pendingWorldCommit = some pending →
    record.pendingWorldCommit = some pending ∨ record.pendingWorldCommit = none

theorem TakesTurns.of_idle (hidle : prior.authorityOperation = none)
    (hcommit : ∀ pending, prior.pendingWorldCommit = some pending →
      record.pendingWorldCommit = some pending ∨ record.pendingWorldCommit = none) :
    TakesTurns prior record where
  operation hsome := by
    rw [hidle] at hsome
    cases hsome
  commit := hcommit

theorem takesTurns_of_apply
    (h : prior.apply codec assignment frontier now transition = .ok record) :
    TakesTurns prior record := by
  cases transition with
  | requestAuthority kind holderId =>
    obtain ⟨-, hidle, -, -, -, -, -, ⟨-, -, -, rfl⟩⟩ := requestAuthority_eq_ok.mp h
    exact .of_idle hidle fun _ hpending => .inl hpending
  | finalizeAssigned =>
    obtain ⟨_, -, -, -, -, -, -, -, -, ⟨-, -, -, rfl⟩⟩ := finalizeAssigned_eq_ok.mp h
    exact ⟨fun _ => rfl, fun _ hpending => .inl hpending⟩
  | renewAndSetSchedule nextOccurrence =>
    obtain ⟨hlive, -, -, -, ⟨-, -, -, rfl⟩⟩ := renewAndSetSchedule_eq_ok.mp h
    exact .of_idle hlive.idle fun _ hpending => .inl hpending
  | beginWorldCommit =>
    obtain ⟨hlive, -, _, -, -, hidle, ⟨-, -, -, rfl⟩⟩ := beginWorldCommit_eq_ok.mp h
    refine .of_idle hlive.idle fun _ hpending => ?_
    rw [hidle] at hpending
    cases hpending
  | acknowledgeWorldCommit nextOccurrence =>
    obtain ⟨hlive, _, -, -, -, -, ⟨-, -, -, rfl⟩⟩ := acknowledgeWorldCommit_eq_ok.mp h
    exact .of_idle hlive.idle fun _ _ => .inr rfl
  | finalizeSleeping =>
    obtain ⟨_, -, -, -, -, -, -, ⟨-, -, -, rfl⟩⟩ := finalizeSleeping_eq_ok.mp h
    exact ⟨fun _ => rfl, fun _ _ => .inr rfl⟩

theorem tipView_of_apply (htip : TipView codec prior assignment)
    (h : prior.apply codec assignment frontier now transition = .ok record) :
    TipView codec record assignment := by
  cases transition with
  | requestAuthority kind holderId =>
    obtain ⟨-, hidle, -, -, -, -, -, ⟨-, -, -, rfl⟩⟩ := requestAuthority_eq_ok.mp h
    have hbound := htip.boundTo hidle
    exact htip.of_boundTo rfl ⟨hbound.names, hbound.holder⟩
  | finalizeAssigned =>
    obtain ⟨_, -, -, hstate, -, -, -, -, -, ⟨-, -, -, rfl⟩⟩ := finalizeAssigned_eq_ok.mp h
    exact htip.of_boundTo rfl
      ⟨⟨htip.universeId, htip.manifestHash, htip.cellKey, htip.cellId, rfl, rfl⟩, .inl ⟨hstate, rfl⟩⟩
  | renewAndSetSchedule nextOccurrence =>
    obtain ⟨hlive, -, -, -, ⟨-, -, -, rfl⟩⟩ := renewAndSetSchedule_eq_ok.mp h
    exact htip.of_boundTo rfl ⟨hlive.names, .inl ⟨hlive.assigned, hlive.holder.symm⟩⟩
  | beginWorldCommit =>
    obtain ⟨hlive, -, _, -, -, -, ⟨-, -, -, rfl⟩⟩ := beginWorldCommit_eq_ok.mp h
    exact htip.of_boundTo rfl ⟨hlive.names, .inl ⟨hlive.assigned, hlive.holder.symm⟩⟩
  | acknowledgeWorldCommit nextOccurrence =>
    obtain ⟨hlive, _, -, -, -, -, ⟨-, -, -, rfl⟩⟩ := acknowledgeWorldCommit_eq_ok.mp h
    exact htip.of_boundTo rfl ⟨hlive.names, .inl ⟨hlive.assigned, hlive.holder.symm⟩⟩
  | finalizeSleeping =>
    obtain ⟨_, -, -, hstate, hholder, -, -, ⟨-, -, -, rfl⟩⟩ := finalizeSleeping_eq_ok.mp h
    exact htip.of_boundTo rfl
      ⟨⟨htip.universeId, htip.manifestHash, htip.cellKey, htip.cellId, rfl, rfl⟩,
        .inr ⟨hstate, hholder, rfl⟩⟩

theorem worldView_of_apply (hworld : WorldView prior frontier)
    (h : prior.apply codec assignment frontier now transition = .ok record) :
    WorldView record frontier := by
  cases transition with
  | requestAuthority kind holderId =>
    obtain ⟨-, -, -, -, -, -, -, ⟨-, -, -, rfl⟩⟩ := requestAuthority_eq_ok.mp h
    exact hworld.of_same rfl rfl
  | finalizeAssigned =>
    obtain ⟨_, -, -, -, -, -, -, -, -, ⟨-, -, -, rfl⟩⟩ := finalizeAssigned_eq_ok.mp h
    exact hworld.of_same rfl rfl
  | renewAndSetSchedule nextOccurrence =>
    obtain ⟨-, -, -, -, ⟨-, -, -, rfl⟩⟩ := renewAndSetSchedule_eq_ok.mp h
    exact hworld.of_same rfl rfl
  | beginWorldCommit =>
    obtain ⟨-, hsame, _, -, -, -, ⟨-, -, -, rfl⟩⟩ := beginWorldCommit_eq_ok.mp h
    exact .of_eq hsame
  | acknowledgeWorldCommit nextOccurrence =>
    obtain ⟨-, _, -, -, -, -, ⟨-, -, -, rfl⟩⟩ := acknowledgeWorldCommit_eq_ok.mp h
    refine .of_eq ?_
    have hregistry := hworld.registry
    cases frontier
    cases hregistry
    rfl
  | finalizeSleeping =>
    obtain ⟨_, -, -, -, -, -, hsame, ⟨-, -, -, rfl⟩⟩ := finalizeSleeping_eq_ok.mp h
    exact .of_eq hsame

theorem Sound.appended (hsound : Sound codec cell)
    (hmade : cell.transition codec now transition = .ok record)
    (haccepted : cell.prepareAppend codec record = .ok ()) : Sound codec (cell.append record) := by
  rw [LifecycleCell.transition, bind_eq_ok] at hmade
  obtain ⟨assignment, hassignment, hmade⟩ := hmade
  obtain ⟨_, hassignment', htip⟩ := hsound.tip
  obtain rfl := ok_unique hassignment hassignment'
  obtain ⟨hcanonical, ⟨bound, hread, hbound, -⟩, -, -⟩ := prepareAppend_eq_ok.mp haccepted
  refine ⟨hsound.filed, hcanonical, ⟨bound, hread, hbound⟩, ⟨assignment, ?_,
    tipView_of_apply htip hmade⟩, worldView_of_apply hsound.world hmade⟩
  rw [cellAssignment_eq_ok] at hassignment ⊢
  exact (nextRecord_of_apply hmade).cellId ▸ hassignment

end Verse.LifecycleV2
