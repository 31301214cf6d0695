import Verse.LifecycleV2.Cell

/-!
# What each transition makes

A transition succeeds with one record only: the draft it writes, sealed. For each of the six
there is the draft and an equation that says when the transition returns it; everything later
is proved from these.

No draft but the acknowledged one moves the world frontier. The transitions that install a
frontier have checked that it is the one the record already has.
-/

namespace Verse.LifecycleV2

open Lib Directory DirectoryV3

namespace LifecycleRecordV2

variable {codec : LifecycleCodec} {record next : LifecycleRecordV2}
  {assignment : ValidatedCurrentCellAssignmentV3} {frontier : LifecycleWorldFrontierV2} {now : Nat}

/-! ## Canonical records -/

/-- The occurrence is the next one of the frontier, on the cadence if the record is armed. -/
structure NextCursor (occurrence : ProductionScheduleOccurrence) (lifecycle : LifecycleRecordV2)
    (frontier : LifecycleWorldFrontierV2) : Prop where
  schema : occurrence.schemaVersion = productionScheduleOccurrenceSchemaVersion
  universeId : occurrence.universeId = lifecycle.universeId
  cellId : occurrence.cellId = lifecycle.cellId
  generation : occurrence.lifecycleGeneration = frontier.productionLifecycleGeneration
  room : frontier.committedProductionSequence + 1 ≤ u64Max
  sequence : occurrence.productionQuantumSequence = frontier.committedProductionSequence + 1
  scheduled : occurrence.scheduledForUnixMs ≠ 0
  manifest : occurrence.universeManifestHash = lifecycle.manifestHash
  registry : occurrence.celestialRegistryHash = lifecycle.celestialRegistryHash
  cadence : lifecycle.nextProductionOccurrence.isSome →
    0 < frontier.committedProductionSequence →
      frontier.lastScheduledForUnixMs + productionQuantumMillis ≤ u64Max
        ∧ occurrence.scheduledForUnixMs
            = frontier.lastScheduledForUnixMs + productionQuantumMillis

variable {u : Unit}

theorem validateOccurrence_eq_ok {occurrence lifecycle} :
    validateOccurrence occurrence lifecycle frontier = .ok u ↔
      NextCursor occurrence lifecycle frontier := by
  simp only [validateOccurrence, bind_eq_ok, rejectIf_eq_ok, demand_eq_ok, checkedAdd_eq_some,
    ite_eq_ok, pure_eq_ok, not_or, not_not]
  constructor
  · rintro ⟨-, ⟨hschema, huniverse, hcell, hgeneration⟩, _, ⟨hroom, rfl⟩, -,
      ⟨hsequence, hscheduled, hmanifest, hregistry⟩, hcadence⟩
    refine ⟨hschema, huniverse, hcell, hgeneration, hroom, hsequence, hscheduled, hmanifest,
      hregistry, fun harmed hpast => ?_⟩
    rcases hcadence with ⟨-, _, ⟨hfits, rfl⟩, hsame⟩ | ⟨hnot, -⟩
    · exact ⟨hfits, hsame⟩
    · exact absurd ⟨harmed, hpast⟩ hnot
  · intro h
    refine ⟨(), ⟨h.schema, h.universeId, h.cellId, h.generation⟩, _, ⟨h.room, rfl⟩, (),
      ⟨h.sequence, h.scheduled, h.manifest, h.registry⟩, ?_⟩
    by_cases hcadence : lifecycle.nextProductionOccurrence.isSome = true
        ∧ frontier.committedProductionSequence > 0
    · obtain ⟨hfits, hsame⟩ := h.cadence hcadence.1 hcadence.2
      exact .inl ⟨hcadence, _, ⟨hfits, rfl⟩, hsame⟩
    · exact .inr ⟨hcadence, trivial⟩

/-- The fields that are checked one by one, read forwards. -/
structure CanonicalFields (codec : LifecycleCodec) (record : LifecycleRecordV2) : Prop where
  schema : record.schemaVersion = lifecycleRecordSchemaVersion
  compatibility : record.compatibility = .canonical
  universeId : isBlank record.universeId = false
  cellKey : record.cellKey.universeId = record.universeId
  cellId : validBlake3Hex record.cellId = true
  manifest : validBlake3Hex record.manifestHash = true
  registry : validBlake3Hex record.celestialRegistryHash = true
  anchor : validBlake3Hex record.migrationAnchorHash = true
  genesis : validBlake3Hex record.lifecycleGenesisHash = true
  activeHead : validBlake3Hex record.activeHeadHash = true
  revision : 2 ≤ record.lifecycleRevision
  directoryRevision : record.directoryRevision ≠ 0
  directoryHash : validBlake3Hex record.directoryDocumentHash = true
  generation : record.assignmentGeneration ≠ 0
  fence : record.authorityFencingToken ≠ 0
  trusted : record.lastTrustedUnixMs ≠ 0
  event : record.emptyEvent ∨ record.populatedEvent
  stateHash : validBlake3Hex record.lastWorldStateHash = true
  activeWorldHash : validBlake3Hex record.lastActiveWorldHash = true
  productionGeneration : record.productionLifecycleGeneration ≠ 0
  acknowledged : record.acknowledgedProductionSequence ≤ record.lastWorldEventSequence
  previous : validBlake3Hex record.previousRecordHash = true
  recordHash : validBlake3Hex record.recordHash = true
  holder : record.live ↔ record.holderId.isSome
  times : record.live ↔ record.authorityTimes
  expiry : ∀ expiry, record.authorityExpiresAtUnixMs = some expiry →
    record.authorityRenewedAtUnixMs.getD u64Max < expiry
  renewed : ∀ renewed, record.authorityRenewedAtUnixMs = some renewed →
    record.authorityAcquiredAtUnixMs.getD renewed ≤ renewed ∧ renewed ≤ record.lastTrustedUnixMs
  commit : record.pendingWorldCommit.isSome → record.nextProductionOccurrence ≠ none
  sealed_eq : record.recordHash = record.calculateHash codec

theorem not_notCanonical : ¬ record.notCanonical codec ↔ CanonicalFields codec record := by
  simp only [notCanonical, not_or, not_not, not_lt, gt_iff_lt, not_exists, not_and, not_le,
    Option.mem_def, Bool.not_eq_true, Bool.not_eq_false]
  constructor
  · rintro ⟨h1, h2, h3, h4, h5, h6, h7, h8, h9, h10, h11, h12, h13, h14, h15, h16, h17, h18, h19,
      h20, h21, h22, h23, h24, h25, h26, h27, h28, h29⟩
    exact ⟨h1, h2, h3, h4, h5, h6, h7, h8, h9, h10, h11, h12, h13, h14, h15, h16,
      or_iff_not_imp_left.mpr h17, h18, h19, h20, h21, h22, h23, h24, h25, h26, h27, h28, h29⟩
  · rintro ⟨h1, h2, h3, h4, h5, h6, h7, h8, h9, h10, h11, h12, h13, h14, h15, h16, h17, h18, h19,
      h20, h21, h22, h23, h24, h25, h26, h27, h28, h29⟩
    exact ⟨h1, h2, h3, h4, h5, h6, h7, h8, h9, h10, h11, h12, h13, h14, h15, h16,
      or_iff_not_imp_left.mp h17, h18, h19, h20, h21, h22, h23, h24, h25, h26, h27, h28, h29⟩

/-- What `validate` establishes. -/
structure Canonical (codec : LifecycleCodec) (record : LifecycleRecordV2) : Prop where
  fields : CanonicalFields codec record
  armed : ∀ occurrence, record.nextProductionOccurrence = some occurrence →
    NextCursor occurrence record record.worldFrontier
  binds : ∀ pending, record.pendingWorldCommit = some pending → record.pendingBinds pending
  shape : record.shapeIsValid
  operation : ∀ operation, record.authorityOperation = some operation →
    record.validateOperation operation = .ok ()

theorem validate_eq_ok : record.validate codec = .ok u ↔ record.Canonical codec := by
  simp only [validate, bind_eq_ok, rejectIf_eq_ok, checkAll_eq_ok, validateOccurrence_eq_ok,
    Option.mem_toList, Option.mem_def, not_exists, not_and, not_not, not_notCanonical]
  constructor
  · rintro ⟨-, hfields, -, harmed, -, hbinds, -, hshape, hoperation⟩
    exact ⟨hfields, harmed, hbinds, hshape, hoperation⟩
  · rintro ⟨hfields, harmed, hbinds, hshape, hoperation⟩
    exact ⟨(), hfields, (), harmed, (), hbinds, (), hshape, hoperation⟩

theorem Canonical.live_iff (h : record.Canonical codec) :
    record.observedMode ≠ .sleeping ↔ record.holderId.isSome := h.fields.holder

variable {pending : PendingProductionCommitV2}

theorem Canonical.armed_of_pending (h : record.Canonical codec)
    (hpending : record.pendingWorldCommit = some pending) :
    record.nextProductionOccurrence = some pending.occurrence :=
  (h.binds pending hpending).1

theorem Canonical.precededBy (h : record.Canonical codec)
    (hpending : record.pendingWorldCommit = some pending) :
    pending.precededBy record.worldFrontier := by
  obtain ⟨-, hsequence, hevent, hstate⟩ := h.binds pending hpending
  exact ⟨hsequence.symm, hevent.symm, hstate.symm⟩

/-! ## Successors -/

/-- The draft every transition begins with. -/
def following (record : LifecycleRecordV2) (now : Nat) : LifecycleRecordV2 :=
  { record with
    lifecycleRevision := record.lifecycleRevision + 1
    lastTrustedUnixMs := now
    previousRecordHash := record.recordHash
    recordHash := "" }

theorem successor_eq_ok : record.successor now = .ok next ↔
    record.lastTrustedUnixMs ≤ now ∧ record.lifecycleRevision + 1 ≤ u64Max
      ∧ next = record.following now := by
  simp only [successor, requireMonotonicTrustedTime, bind_eq_ok, rejectIf_eq_ok, demand_eq_ok,
    checkedAdd_eq_some, pure_eq_ok, not_lt]
  constructor
  · rintro ⟨-, htime, _, ⟨hroom, rfl⟩, rfl⟩
    exact ⟨htime, hroom, rfl⟩
  · rintro ⟨htime, hroom, rfl⟩
    exact ⟨(), htime, _, ⟨hroom, rfl⟩, rfl⟩

/-- `next` is the draft, sealed, at a time that has not gone back. -/
structure Follows (codec : LifecycleCodec) (record : LifecycleRecordV2) (now : Nat)
    (draft next : LifecycleRecordV2) : Prop where
  time : record.lastTrustedUnixMs ≤ now
  room : record.lifecycleRevision + 1 ≤ u64Max
  canonical : (draft.sealed codec).Canonical codec
  next_eq : next = draft.sealed codec

theorem sealRecord_eq_ok {draft} : sealRecord codec draft = .ok next ↔
    (draft.sealed codec).Canonical codec ∧ next = draft.sealed codec := by
  simp only [sealRecord, bind_eq_ok, validate_eq_ok, pure_eq_ok]
  constructor
  · rintro ⟨-, hcanonical, rfl⟩
    exact ⟨hcanonical, rfl⟩
  · rintro ⟨hcanonical, rfl⟩
    exact ⟨(), hcanonical, rfl⟩

theorem successor_seal_eq_ok {edit : LifecycleRecordV2 → LifecycleRecordV2} :
    (record.successor now >>= fun draft => sealRecord codec (edit draft)) = .ok next ↔
      Follows codec record now (edit (record.following now)) next := by
  simp only [bind_eq_ok, successor_eq_ok, sealRecord_eq_ok]
  constructor
  · rintro ⟨_, ⟨htime, hroom, rfl⟩, hcanonical, hnext⟩
    exact ⟨htime, hroom, hcanonical, hnext⟩
  · rintro ⟨htime, hroom, hcanonical, hnext⟩
    exact ⟨_, ⟨htime, hroom, rfl⟩, hcanonical, hnext⟩

theorem authorityExpiry_eq_ok {expiry : Nat} : authorityExpiry now = .ok expiry ↔
    now + authorityDurationMillis ≤ u64Max ∧ expiry = now + authorityDurationMillis := by
  simp only [authorityExpiry, demand_eq_ok, checkedAdd_eq_some]
  exact and_congr_right fun _ => eq_comm

/-! ## What the transitions require -/

theorem requireWorldFrontier_eq_ok :
    record.requireWorldFrontier frontier = .ok u ↔ frontier = record.worldFrontier := by
  simp [requireWorldFrontier]

theorem requireAssignmentIdentity_eq_ok :
    record.requireAssignmentIdentity assignment = .ok u ↔
      assignment.assignment.state = .assigned ∧ record.namesAssignment assignment := by
  simp only [requireAssignmentIdentity, rejectIf_eq_ok, not_or, not_not]

/-- The record holds the cell under this assignment, at this time. -/
structure Live (record : LifecycleRecordV2) (assignment : ValidatedCurrentCellAssignmentV3)
    (now : Nat) : Prop where
  assigned : assignment.assignment.state = .assigned
  names : record.namesAssignment assignment
  background : record.observedMode = .background
  holder : record.holderId = assignment.assignment.holderId
  idle : record.authorityOperation = none
  unexpired : ∃ expiry, record.authorityExpiresAtUnixMs = some expiry ∧ now < expiry

theorem requireLiveAuthority_eq_ok :
    record.requireLiveAuthority assignment now = .ok u ↔ record.Live assignment now := by
  simp only [requireLiveAuthority, requireAssignmentIdentity_eq_ok, bind_eq_ok, rejectIf_eq_ok, not_or,
    not_not, Option.mem_def, not_forall, ge_iff_le, not_le, Bool.not_eq_true,
    Option.isSome_eq_false_iff, Option.isNone_iff_eq_none, exists_prop]
  constructor
  · rintro ⟨-, ⟨hassigned, hnames⟩, hmode, hholder, hidle, hexpiry⟩
    exact ⟨hassigned, hnames, hmode, hholder, hidle, hexpiry⟩
  · rintro ⟨hassigned, hnames, hmode, hholder, hidle, hexpiry⟩
    exact ⟨(), ⟨hassigned, hnames⟩, hmode, hholder, hidle, hexpiry⟩

theorem requireWorldOrPendingSuccessor_eq_ok :
    record.requireWorldOrPendingSuccessor frontier = .ok u ↔
      frontier = record.worldFrontier ∨ ∃ pending, record.pendingWorldCommit = some pending
        ∧ pending.committedBy frontier
        ∧ frontier.celestialRegistryHash = record.celestialRegistryHash := by
  simp only [requireWorldOrPendingSuccessor, ite_eq_ok, pure_eq_ok, bind_eq_ok, demand_eq_ok,
    rejectIf_eq_ok, not_or, not_not, and_true]
  constructor
  · rintro (hsame | ⟨-, hpending⟩)
    · exact .inl hsame
    · exact .inr hpending
  · intro h
    by_cases hsame : frontier = record.worldFrontier
    · exact .inl hsame
    · exact .inr ⟨hsame, h.resolve_left hsame⟩

variable {kind : LifecycleAuthorityOperationKindV2}

theorem requireRequestFrontiers_eq_ok :
    record.requireRequestFrontiers assignment frontier kind = .ok u ↔
      record.namesAssignment assignment
        ∧ ((kind = .recovery ∧ ∃ pending, record.pendingWorldCommit = some pending
            ∧ assignment.assignment.state = .assigned
            ∧ (pending.precededBy frontier ∨ pending.committedBy frontier))
          ∨ ((kind ≠ .recovery ∨ record.pendingWorldCommit = none)
            ∧ frontier = record.worldFrontier)) := by
  cases hpending : record.pendingWorldCommit with
  | none =>
    have hcase : record.requireRequestFrontiers assignment frontier kind
        = record.requireExactFrontiers assignment frontier := by
      unfold requireRequestFrontiers
      split <;> simp_all
    simp only [hcase, requireExactFrontiers, bind_eq_ok, requireWorldFrontier_eq_ok,
      rejectIf_eq_ok, not_not]
    constructor
    · rintro ⟨-, hfrontier, hnames⟩
      exact ⟨hnames, .inr ⟨.inr trivial, hfrontier⟩⟩
    · rintro ⟨hnames, ⟨-, pending, hsome, -⟩ | ⟨-, hfrontier⟩⟩
      · cases hsome
      · exact ⟨(), hfrontier, hnames⟩
  | some pending =>
    by_cases hkind : kind = .recovery
    · subst hkind
      simp only [requireRequestFrontiers, hpending, bind_eq_ok, requireAssignmentIdentity_eq_ok,
        rejectIf_eq_ok, not_not]
      constructor
      · rintro ⟨-, ⟨hstate, hnames⟩, hworld⟩
        exact ⟨hnames, .inl ⟨trivial, pending, rfl, hstate, hworld⟩⟩
      · rintro ⟨hnames, ⟨-, _, ⟨⟩, hstate, hworld⟩ | ⟨hneither, -⟩⟩
        · exact ⟨(), ⟨hstate, hnames⟩, hworld⟩
        · simp at hneither
    · have hcase : record.requireRequestFrontiers assignment frontier kind
          = record.requireExactFrontiers assignment frontier := by
        unfold requireRequestFrontiers
        split <;> simp_all
      simp only [hcase, requireExactFrontiers, bind_eq_ok, requireWorldFrontier_eq_ok,
        rejectIf_eq_ok, not_not]
      constructor
      · rintro ⟨-, hfrontier, hnames⟩
        exact ⟨hnames, .inr ⟨.inl hkind, hfrontier⟩⟩
      · rintro ⟨hnames, ⟨hrecovery, -⟩ | ⟨-, hfrontier⟩⟩
        · exact absurd hrecovery hkind
        · exact ⟨(), hfrontier, hnames⟩

/-! ## The drafts -/

def requested (record : LifecycleRecordV2) (kind : LifecycleAuthorityOperationKindV2)
    (assignmentGeneration : Nat) (holderId : String) (now : Nat) : LifecycleRecordV2 :=
  { record.following now with
    desiredMode := if kind = .release then .sleeping else .background
    observedMode := if kind = .release then .draining else record.observedMode
    authorityOperation := some {
      kind
      operationId := lifecycleOperationId kind assignmentGeneration holderId
      expectedAssignmentGeneration := assignmentGeneration
      holderId
      requestedAtUnixMs := now } }

def assigned (record : LifecycleRecordV2) (assignment : ValidatedCurrentCellAssignmentV3)
    (now : Nat) : LifecycleRecordV2 :=
  { record.following now with
    observedMode := .background
    directoryRevision := assignment.directoryRevision
    directoryDocumentHash := assignment.directoryDocumentHash
    assignmentGeneration := assignment.assignment.assignmentGeneration
    authorityFencingToken := assignment.assignment.authorityFencingToken
    holderId := assignment.assignment.holderId
    authorityAcquiredAtUnixMs := some now
    authorityRenewedAtUnixMs := some now
    authorityExpiresAtUnixMs := some (now + authorityDurationMillis)
    authorityOperation := none }

def renewed (record : LifecycleRecordV2) (assignment : ValidatedCurrentCellAssignmentV3)
    (now : Nat) (nextOccurrence : Option ProductionScheduleOccurrence) : LifecycleRecordV2 :=
  { record.following now with
    directoryRevision := assignment.directoryRevision
    directoryDocumentHash := assignment.directoryDocumentHash
    authorityRenewedAtUnixMs := some now
    authorityExpiresAtUnixMs := some (now + authorityDurationMillis)
    nextProductionOccurrence := nextOccurrence }

def begun (record : LifecycleRecordV2) (occurrence : ProductionScheduleOccurrence) (now : Nat) :
    LifecycleRecordV2 :=
  { record.following now with
    pendingWorldCommit := some {
      occurrence
      priorEventSequence := record.lastWorldEventSequence
      priorEventHash := record.lastWorldEventHash
      priorStateHash := record.lastWorldStateHash } }

def acknowledged (record : LifecycleRecordV2) (frontier : LifecycleWorldFrontierV2) (now : Nat)
    (nextOccurrence : Option ProductionScheduleOccurrence) : LifecycleRecordV2 :=
  installFrontier { record.following now with
    pendingWorldCommit := none
    acknowledgedProductionSequence := frontier.committedProductionSequence
    nextProductionOccurrence := nextOccurrence } frontier

def slept (record : LifecycleRecordV2) (assignment : ValidatedCurrentCellAssignmentV3)
    (now : Nat) : LifecycleRecordV2 :=
  { record.following now with
    observedMode := .sleeping
    directoryRevision := assignment.directoryRevision
    directoryDocumentHash := assignment.directoryDocumentHash
    assignmentGeneration := assignment.assignment.assignmentGeneration
    authorityFencingToken := assignment.assignment.authorityFencingToken
    holderId := none
    authorityAcquiredAtUnixMs := none
    authorityRenewedAtUnixMs := none
    authorityExpiresAtUnixMs := none
    authorityOperation := none
    pendingWorldCommit := none }

/-! ## The transitions -/

theorem requestAuthority_eq_ok {holderId : String} :
    record.requestAuthority codec assignment frontier kind holderId now = .ok next ↔
      record.requireRequestFrontiers assignment frontier kind = .ok ()
        ∧ record.authorityOperation = none
        ∧ (record.pendingWorldCommit.isSome → kind = .recovery)
        ∧ assignment.assignment.state = kind.expectedState
        ∧ isBlank holderId = false
        ∧ (kind = .release → assignment.assignment.holderId = some holderId)
        ∧ operationIdStable
            (lifecycleOperationId kind assignment.assignment.assignmentGeneration holderId)
        ∧ Follows codec record now
            (record.requested kind assignment.assignment.assignmentGeneration holderId now) next := by
  simp only [requestAuthority]
  simp only [bind_eq_ok (α := Unit), rejectIf_eq_ok, not_or, not_not, not_and, Bool.not_eq_true,
    Option.isSome_eq_false_iff, Option.isNone_iff_eq_none, ne_eq]
  constructor
  · rintro ⟨⟨⟩, hfrontiers, -, ⟨hidle, hpending⟩, -, ⟨hstate, hblank⟩, -, hholder, -, hstable, h⟩
    exact ⟨hfrontiers, hidle, hpending, hstate, hblank, hholder, hstable, successor_seal_eq_ok.mp h⟩
  · rintro ⟨hfrontiers, hidle, hpending, hstate, hblank, hholder, hstable, hfollows⟩
    exact ⟨(), hfrontiers, (), ⟨hidle, hpending⟩, (), ⟨hstate, hblank⟩, (), hholder, (), hstable,
      successor_seal_eq_ok.mpr hfollows⟩

theorem finalizeAssigned_eq_ok :
    record.finalizeAssigned codec assignment frontier now = .ok next ↔
      ∃ operation, record.authorityOperation = some operation
        ∧ operation.kind ≠ .release
        ∧ assignment.assignment.state = .assigned
        ∧ assignment.assignment.holderId = some operation.holderId
        ∧ operation.expectedAssignmentGeneration + 1 ≤ u64Max
        ∧ assignment.assignment.assignmentGeneration
            = operation.expectedAssignmentGeneration + 1
        ∧ record.requireWorldOrPendingSuccessor frontier = .ok ()
        ∧ now + authorityDurationMillis ≤ u64Max
        ∧ Follows codec record now (record.assigned assignment now) next := by
  simp only [finalizeAssigned, bind_eq_ok, demand_eq_ok, rejectIf_eq_ok, not_or, not_not,
    checkedAdd_eq_some, successor_eq_ok, authorityExpiry_eq_ok, sealRecord_eq_ok]
  constructor
  · rintro ⟨operation, hoperation, -, ⟨hkind, hstate, hholder⟩, _, ⟨hroom, rfl⟩, -, hgeneration,
      ⟨⟩, hworld, _, ⟨htime, hrevision, rfl⟩, _, ⟨hexpiry, rfl⟩, h⟩
    refine ⟨operation, hoperation, hkind, hstate, hholder, hroom, hgeneration, hworld, hexpiry, ?_⟩
    by_cases hsame : frontier = record.worldFrontier
    · subst hsame
      rw [if_pos rfl] at h
      exact ⟨htime, hrevision, h.1, h.2⟩
    · rw [if_neg hsame] at h
      exact ⟨htime, hrevision, h.1, h.2⟩
  · rintro ⟨operation, hoperation, hkind, hstate, hholder, hroom, hgeneration, hworld, hexpiry, h⟩
    refine ⟨operation, hoperation, (), ⟨hkind, hstate, hholder⟩, _, ⟨hroom, rfl⟩, (), hgeneration,
      (), hworld, _, ⟨h.time, h.room, rfl⟩, _, ⟨hexpiry, rfl⟩, ?_⟩
    by_cases hsame : frontier = record.worldFrontier
    · subst hsame
      rw [if_pos rfl]
      exact ⟨h.canonical, h.next_eq⟩
    · rw [if_neg hsame]
      exact ⟨h.canonical, h.next_eq⟩

variable {nextOccurrence : Option ProductionScheduleOccurrence}

theorem renewAndSetSchedule_eq_ok :
    record.renewAndSetSchedule codec assignment frontier now nextOccurrence = .ok next ↔
      record.Live assignment now
        ∧ frontier = record.worldFrontier
        ∧ (∀ occurrence, nextOccurrence = some occurrence →
            NextCursor occurrence record record.worldFrontier)
        ∧ now + authorityDurationMillis ≤ u64Max
        ∧ Follows codec record now (record.renewed assignment now nextOccurrence) next := by
  simp only [renewAndSetSchedule, bind_eq_ok, requireLiveAuthority_eq_ok,
    requireWorldFrontier_eq_ok, checkAll_eq_ok, validateOccurrence_eq_ok, Option.mem_toList,
    successor_eq_ok, authorityExpiry_eq_ok, sealRecord_eq_ok]
  constructor
  · rintro ⟨-, hlive, -, rfl, -, hnext, _, ⟨htime, hrevision, rfl⟩, _, ⟨hexpiry, rfl⟩, h⟩
    exact ⟨hlive, rfl, hnext, hexpiry, htime, hrevision, h.1, h.2⟩
  · rintro ⟨hlive, rfl, hnext, hexpiry, h⟩
    exact ⟨(), hlive, (), rfl, (), hnext, _, ⟨h.time, h.room, rfl⟩, _, ⟨hexpiry, rfl⟩,
      h.canonical, h.next_eq⟩

theorem beginWorldCommit_eq_ok :
    record.beginWorldCommit codec assignment frontier now = .ok next ↔
      record.Live assignment now
        ∧ frontier = record.worldFrontier
        ∧ ∃ occurrence, record.nextProductionOccurrence = some occurrence
          ∧ occurrence.scheduledForUnixMs ≤ now
          ∧ record.pendingWorldCommit = none
          ∧ Follows codec record now (record.begun occurrence now) next := by
  simp only [beginWorldCommit]
  simp only [bind_eq_ok (α := Unit), bind_eq_ok (α := ProductionScheduleOccurrence),
    requireLiveAuthority_eq_ok, requireWorldFrontier_eq_ok, demand_eq_ok, rejectIf_eq_ok, not_lt,
    gt_iff_lt, Bool.not_eq_true, Option.isSome_eq_false_iff, Option.isNone_iff_eq_none]
  constructor
  · rintro ⟨-, hlive, -, rfl, occurrence, harmed, -, hdue, -, hidle, h⟩
    exact ⟨hlive, rfl, occurrence, harmed, hdue, hidle, successor_seal_eq_ok.mp h⟩
  · rintro ⟨hlive, rfl, occurrence, harmed, hdue, hidle, h⟩
    exact ⟨(), hlive, (), rfl, occurrence, harmed, (), hdue, (), hidle, successor_seal_eq_ok.mpr h⟩

theorem acknowledgeWorldCommit_eq_ok :
    record.acknowledgeWorldCommit codec assignment frontier now nextOccurrence = .ok next ↔
      record.Live assignment now
        ∧ ∃ pending, record.pendingWorldCommit = some pending
          ∧ frontier.eventSequence = (checkedAdd pending.priorEventSequence 1).getD 0
          ∧ frontier.committedProductionSequence = pending.occurrence.productionQuantumSequence
          ∧ frontier.lastScheduledForUnixMs = pending.occurrence.scheduledForUnixMs
          ∧ Follows codec record now (record.acknowledged frontier now nextOccurrence) next := by
  simp only [acknowledgeWorldCommit]
  simp only [bind_eq_ok (α := Unit), bind_eq_ok (α := PendingProductionCommitV2),
    requireLiveAuthority_eq_ok, demand_eq_ok, rejectIf_eq_ok, not_or, not_not]
  constructor
  · rintro ⟨-, hlive, pending, hpending, -, ⟨hsequence, hcommitted, hscheduled⟩, h⟩
    exact ⟨hlive, pending, hpending, hsequence, hcommitted, hscheduled, successor_seal_eq_ok.mp h⟩
  · rintro ⟨hlive, pending, hpending, hsequence, hcommitted, hscheduled, h⟩
    exact ⟨(), hlive, pending, hpending, (), ⟨hsequence, hcommitted, hscheduled⟩,
      successor_seal_eq_ok.mpr h⟩

theorem finalizeSleeping_eq_ok :
    record.finalizeSleeping codec assignment frontier now = .ok next ↔
      ∃ operation, record.authorityOperation = some operation
        ∧ operation.kind = .release
        ∧ assignment.assignment.state = .sleeping
        ∧ assignment.assignment.holderId = none
        ∧ assignment.assignment.assignmentGeneration = operation.expectedAssignmentGeneration
        ∧ frontier = record.worldFrontier
        ∧ Follows codec record now (record.slept assignment now) next := by
  simp only [finalizeSleeping]
  simp only [bind_eq_ok (α := Unit), bind_eq_ok (α := LifecycleAuthorityOperationV2),
    demand_eq_ok, rejectIf_eq_ok, not_or, not_not, requireWorldFrontier_eq_ok, Bool.not_eq_true,
    Option.isSome_eq_false_iff, Option.isNone_iff_eq_none]
  constructor
  · rintro ⟨operation, hoperation, -, ⟨hkind, hstate, hholder, hgeneration⟩, -, rfl, h⟩
    exact ⟨operation, hoperation, hkind, hstate, hholder, hgeneration, rfl,
      successor_seal_eq_ok.mp h⟩
  · rintro ⟨operation, hoperation, hkind, hstate, hholder, hgeneration, rfl, h⟩
    exact ⟨operation, hoperation, (), ⟨hkind, hstate, hholder, hgeneration⟩, (), rfl,
      successor_seal_eq_ok.mpr h⟩

end LifecycleRecordV2

end Verse.LifecycleV2
