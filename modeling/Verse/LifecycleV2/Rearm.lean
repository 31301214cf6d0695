import Verse.LifecycleV2.Named

/-!
# What a cell can always do

A cell whose world stands where its record has it can be claimed when it sleeps, can commit and
acknowledge what it has armed, and can be drained when it has armed nothing. It cannot always be
armed. The dispatcher arms an idle cell one quantum from now; a record that is armed has to keep
the cadence of the quanta it has committed; so once a quantum has been acknowledged, an idle cell
is armed at the very time of that quantum or not at all.
-/

namespace Verse.LifecycleV2

open Lib Directory DirectoryV3 LifecycleRecordV2

variable {codec : LifecycleCodec} {installation : Installation codec} {cell after : LifecycleCell}
  {record : LifecycleRecordV2} {assignment : ValidatedCurrentCellAssignmentV3}
  {now later : Nat} {holderId : String} {occurrence : ProductionScheduleOccurrence}

/-! ## What is asked of a cell -/

/-- No counter that the cell moves, and no time it works out, is at its end. -/
structure LifecycleRecordV2.BelowLimits (record : LifecycleRecordV2) (now : Nat) : Prop where
  time : now + authorityDurationMillis ≤ u64Max
  revision : record.lifecycleRevision + 2 ≤ u64Max
  generation : record.assignmentGeneration + 1 ≤ u64Max
  sequence : record.acknowledgedProductionSequence + 2 ≤ u64Max
  scheduled : record.lastCommittedProductionScheduledForUnixMs + productionQuantumMillis ≤ u64Max

/-- The transition makes the record, and the journal takes it. -/
def LifecycleCell.Makes (codec : LifecycleCodec) (cell : LifecycleCell) (now : Nat)
    (transition : LifecycleTransitionV2) (record : LifecycleRecordV2) : Prop :=
  cell.transition codec now transition = .ok record ∧ cell.prepareAppend codec record = .ok ()

/-- What a cell has come to while its record has stayed the same. -/
def LifecycleCell.Waits (codec : LifecycleCodec) (cell after : LifecycleCell) : Prop :=
  Relation.ReflTransGen (LifecycleCell.Step codec) cell after ∧ after.current = cell.current

variable (codec cell now)

/-- A sleeping cell asks for a holder, and takes its authority once the directory has granted
    it. -/
def Claims : Prop :=
  cell.current.observedMode = .sleeping → cell.current.authorityOperation = none →
    ∀ holderId, validPlayerId holderId = true → ∃ requested,
      cell.Makes codec now (.requestAuthority .claim holderId) requested
        ∧ ∀ after assignment, (cell.append requested).Waits codec after →
          after.assignment = .ok assignment → assignment.assignment.state = .assigned →
            ∀ later, now ≤ later → later + authorityDurationMillis ≤ u64Max → ∃ assigned,
              after.Makes codec later .finalizeAssigned assigned
                ∧ assigned.observedMode = .background ∧ assigned.holderId = some holderId

/-- The occurrence that `dispatch_background_production` builds for an idle cell is armed. -/
def Arms : Prop :=
  cell.current.HasAuthority now → cell.current.nextProductionOccurrence = none →
    cell.current.pendingWorldCommit = none → ∃ occurrence armed,
      cell.world.base.nextProductionOccurrenceAt (now + productionQuantumMillis) = .ok occurrence
        ∧ cell.Makes codec now (.renewAndSetSchedule (some occurrence)) armed

/-- A due occurrence is begun. Once the world has committed it, it is acknowledged with no next
    occurrence, and with the one that follows it by a quantum. -/
def Runs : Prop :=
  ∀ occurrence, cell.current.HasAuthority now →
    cell.current.nextProductionOccurrence = some occurrence →
    cell.current.pendingWorldCommit = none → occurrence.scheduledForUnixMs ≤ now → ∃ begun,
      cell.Makes codec now .beginWorldCommit begun
        ∧ ∀ after, (cell.append begun).Waits codec after →
          after.world.base.productionClock.lastCommittedQuantumSequence
              = occurrence.productionQuantumSequence →
            ∀ later, now ≤ later → begun.HasAuthority later →
              (∃ acknowledged,
                after.Makes codec later (.acknowledgeWorldCommit none) acknowledged)
              ∧ ∃ following acknowledged, after.world.base.nextProductionOccurrenceAt
                  (occurrence.scheduledForUnixMs + productionQuantumMillis) = .ok following
                ∧ after.Makes codec later (.acknowledgeWorldCommit (some following)) acknowledged

/-- A cell that has armed nothing asks to be released, and sleeps once the directory has let it
    go. -/
def Drains : Prop :=
  cell.current.observedMode = .background → cell.current.authorityOperation = none →
    cell.current.nextProductionOccurrence = none → ∃ holderId requested,
      cell.Makes codec now (.requestAuthority .release holderId) requested
        ∧ ∀ after assignment, (cell.append requested).Waits codec after →
          after.assignment = .ok assignment → assignment.assignment.state = .sleeping →
            ∀ later, now ≤ later → ∃ slept,
              after.Makes codec later .finalizeSleeping slept ∧ slept.observedMode = .sleeping

/-- The cell can be claimed, armed, run and drained. -/
structure Rearms : Prop where
  claims : Claims codec cell now
  arms : Arms codec cell now
  runs : Runs codec cell now
  drains : Drains codec cell now

/-- An idle cell with authority has acknowledged no quantum, or it is the time of the last. -/
def OnTime : Prop :=
  cell.current.HasAuthority now → cell.current.nextProductionOccurrence = none →
    cell.current.pendingWorldCommit = none →
      cell.current.acknowledgedProductionSequence = 0
        ∨ cell.current.lastCommittedProductionScheduledForUnixMs = now

variable {codec cell now}

/-! ## Waiting -/

theorem Reached.makes {transition} (h : Reached installation cell)
    (hmade : cell.transition codec now transition = .ok record)
    (hidle : RenewsNothingPending cell.current transition) :
    cell.Makes codec now transition record :=
  ⟨hmade, prepareAppend_of_transition h.sound hidle hmade⟩

/-- A record without a pending commit sees the world where it left it. -/
theorem Sound.worldFrontier (hsound : Sound codec cell)
    (hidle : cell.current.pendingWorldCommit = none) :
    cell.world.lifecycleWorldFrontier = cell.current.worldFrontier := by
  rcases hsound.world.stands with hsame | ⟨pending, hpending, -⟩
  · exact hsame
  · exact absurd (hidle.symm.trans hpending) nofun

/-- The operation of a record that waits has been answered when the directory has the cell in
    another state. -/
theorem Sound.answered (hsound : Sound codec cell) (hassignment : cell.assignment = .ok assignment)
    {operation} (hoperation : cell.current.authorityOperation = some operation)
    (hmoved : assignment.assignment.state ≠ operation.kind.expectedState) :
    cell.current.answered assignment.assignment operation := by
  have htip := hsound.tipView hassignment
  rcases htip.stands with hbound | ⟨_, hoperation', hanswered⟩
  · exact absurd (hsound.canonical.awaits hoperation hbound htip.rest).1 hmoved
  · obtain rfl := Option.mem_unique hoperation hoperation'
    exact hanswered

/-! ## Claimed and drained -/

/-- The next occurrence of a world, at a time. -/
def nextOccurrenceAt (world : WorldState) (scheduledForUnixMs : Nat) :
    ProductionScheduleOccurrence where
  schemaVersion := productionScheduleOccurrenceSchemaVersion
  universeId := world.universeId
  cellId := world.cellId
  lifecycleGeneration := world.productionClock.lifecycleGeneration
  productionQuantumSequence := world.productionClock.lastCommittedQuantumSequence + 1
  scheduledForUnixMs := scheduledForUnixMs
  universeManifestHash := world.universeManifestHash
  celestialRegistryHash := world.celestialRegistryHash

theorem nextProductionOccurrenceAt_eq_ok {world : WorldState} {scheduled : Nat}
    (hsequence : world.productionClock.lastCommittedQuantumSequence + 1 ≤ u64Max)
    (hscheduled : world.productionClock.lastScheduledForUnixMs + 1000 ≤ u64Max) :
    world.nextProductionOccurrenceAt scheduled = .ok occurrence ↔
      occurrence = nextOccurrenceAt world scheduled := by
  simp only [WorldState.nextProductionOccurrenceAt, checkedAdd, if_pos hsequence,
    if_pos hscheduled, demand_some, bind_eq_ok, rejectIf_eq_ok, pure_eq_ok]
  constructor
  · rintro ⟨_, hsome, -, -, rfl⟩
    obtain rfl := Except.ok.inj hsome
    rfl
  · rintro rfl
    exact ⟨_, rfl, (), fun hboth => Option.some_ne_none _ hboth.2, rfl⟩

/-- What the world says comes next is the next cursor of a record that the world belongs to. -/
theorem nextCursor_nextOccurrenceAt (horderly : Orderly cell)
    (hregistry : cell.world.base.celestialRegistryHash = cell.current.celestialRegistryHash)
    (hroom : cell.world.base.productionClock.lastCommittedQuantumSequence + 1 ≤ u64Max)
    {scheduled : Nat} (hscheduled : scheduled ≠ 0)
    (hcadence : cell.current.nextProductionOccurrence.isSome →
      cell.world.base.productionClock.lastScheduledForUnixMs + productionQuantumMillis ≤ u64Max
        ∧ scheduled
          = cell.world.base.productionClock.lastScheduledForUnixMs + productionQuantumMillis) :
    NextCursor (nextOccurrenceAt cell.world.base scheduled) cell.current
      cell.world.lifecycleWorldFrontier where
  schema := rfl
  universeId := horderly.universeId
  cellId := horderly.cellId
  generation := rfl
  room := hroom
  sequence := rfl
  scheduled := hscheduled
  manifest := horderly.manifestHash
  registry := hregistry
  cadence harmed _ := hcadence harmed

section

variable (h : Reached installation cell)
  (hworld : cell.world.lifecycleWorldFrontier = cell.current.worldFrontier)
  (htime : cell.current.lastTrustedUnixMs ≤ now) (hlimits : cell.current.BelowLimits now)

include h hworld htime hlimits

theorem Reached.claims :
    Claims codec cell now := by
  intro hasleep hidle holderId hholder
  have hpending : cell.current.pendingWorldCommit = none := by
    by_contra hsome
    exact absurd (hasleep.symm.trans (h.orderly.record.commit hsome)) (by decide)
  have hrevision := hlimits.revision
  have hgeneration := hlimits.generation
  have hready : cell.current.ReadyFor .claim holderId := hasleep
  have hmade := h.sound.requests ⟨htime, by omega⟩ hworld hidle hpending hready
    (isBlank_of_validPlayerId hholder)
    (operationIdStable_of_validPlayerId (by omega) hholder)
  refine ⟨_, h.makes hmade trivial, fun after assignment hwaits hassignment hstate later hlater
    hexpiry => ?_⟩
  have hafter := (h.append hmade trivial).later hwaits.1
  have hoperation : after.current.authorityOperation = some
      ⟨.claim, lifecycleOperationId .claim cell.current.assignmentGeneration holderId,
        cell.current.assignmentGeneration, holderId, now⟩ := by rw [hwaits.2]; rfl
  obtain ⟨-, hnext, -, hheld⟩ := hafter.sound.answered hassignment hoperation (by
    rw [hstate]
    rintro ⟨⟩)
  rw [checkedAdd, if_pos hgeneration, Option.getD_some] at hnext
  have hroom : after.HasRoom later := by
    constructor <;> rw [hwaits.2]
    · exact hlater
    · exact hrevision
  have hfinal := hafter.sound.finalizesAssigned hroom hassignment hoperation (by rintro ⟨⟩) hstate
    hheld hgeneration hnext hexpiry
  exact ⟨_, hafter.makes hfinal trivial, rfl, hheld⟩

theorem Reached.drains :
    Drains codec cell now := by
  intro hbackground hidle hunarmed
  have hpending : cell.current.pendingWorldCommit = none := by
    by_contra hsome
    exact h.sound.canonical.fields.commit (Option.isSome_iff_ne_none.mpr hsome) hunarmed
  have hrevision := hlimits.revision
  have hgeneration := hlimits.generation
  obtain ⟨holderId, hholder⟩ := Option.isSome_iff_exists.mp
    (h.sound.canonical.live_iff.mp (by rw [hbackground]; decide))
  obtain ⟨assignment, hassignment, htip⟩ := h.sound.tip
  have hheld := (htip.boundTo hidle).held (by rw [hholder]; rfl)
  have hvalid := validPlayerId_of_validStableId (htip.stable holderId (hheld.2.trans hholder))
    (h.orderly.record.holder holderId hholder)
  have hready : cell.current.ReadyFor .release holderId := ⟨hbackground, hholder⟩
  have hmade := h.sound.requests ⟨htime, by omega⟩ hworld hidle hpending hready
    (isBlank_of_validPlayerId hvalid)
    (operationIdStable_of_validPlayerId (by omega) hvalid)
  refine ⟨holderId, _, h.makes hmade trivial, fun after assignment hwaits hassignment hstate later
    hlater => ?_⟩
  have hafter := (h.append hmade trivial).later hwaits.1
  have hoperation : after.current.authorityOperation = some
      ⟨.release, lifecycleOperationId .release cell.current.assignmentGeneration holderId,
        cell.current.assignmentGeneration, holderId, now⟩ := by rw [hwaits.2]; rfl
  obtain ⟨-, hsame, -, hunheld⟩ := hafter.sound.answered hassignment hoperation (by
    rw [hstate]
    nofun)
  have hroom : after.HasRoom later := by
    constructor <;> rw [hwaits.2]
    · exact hlater
    · exact hrevision
  have hstill : after.current.pendingWorldCommit = none := by
    rw [hwaits.2]
    exact hpending
  have hfinal := hafter.sound.finalizesSleeping hroom hassignment
    (hafter.sound.worldFrontier hstill) hoperation rfl hstate hunheld hsame
  exact ⟨_, hafter.makes hfinal trivial, rfl⟩

/-! ## Armed -/

/-- An idle cell is armed one quantum from now exactly if that is on its cadence. -/
theorem Reached.arms_iff :
    Arms codec cell now ↔ OnTime cell now := by
  refine forall_congr' fun hauthority => forall_congr' fun hunarmed => forall_congr' fun hidle => ?_
  have hrevision := hlimits.revision
  have hsequence := hlimits.sequence
  have hcommitted : cell.world.base.productionClock.lastCommittedQuantumSequence
      = cell.current.acknowledgedProductionSequence :=
    congrArg (·.committedProductionSequence) hworld
  have hlast : cell.world.base.productionClock.lastScheduledForUnixMs
      = cell.current.lastCommittedProductionScheduledForUnixMs :=
    congrArg (·.lastScheduledForUnixMs) hworld
  have hbuilt : cell.world.base.nextProductionOccurrenceAt (now + productionQuantumMillis)
      = .ok (nextOccurrenceAt cell.world.base (now + productionQuantumMillis)) :=
    (nextProductionOccurrenceAt_eq_ok (by omega) (hlast ▸ hlimits.scheduled)).mpr rfl
  have hcursor : NextCursor (nextOccurrenceAt cell.world.base (now + productionQuantumMillis))
      cell.current cell.current.worldFrontier :=
    hworld ▸ nextCursor_nextOccurrenceAt h.orderly (congrArg (·.celestialRegistryHash) hworld)
      (by omega) (Nat.succ_ne_zero _) (by simp [hunarmed])
  obtain ⟨assignment, hassignment, -⟩ := h.sound.tip
  constructor
  · rintro ⟨occurrence, armed, hoccurrence, hmade, -⟩
    obtain rfl := ok_unique hbuilt hoccurrence
    have hcadence := ((h.sound.arms_iff ⟨htime, by omega⟩ hassignment hworld hauthority hidle
      hcursor hlimits.time).mp hmade).1
    rcases Nat.eq_zero_or_pos cell.current.acknowledgedProductionSequence with hzero | hpast
    · exact .inl hzero
    · have hsame : now + productionQuantumMillis
          = cell.current.lastCommittedProductionScheduledForUnixMs + productionQuantumMillis :=
        (hcadence hpast).2
      exact .inr (Nat.add_right_cancel hsame).symm
  · intro hontime
    have hcadence : cell.current.OnCadence
        (nextOccurrenceAt cell.world.base (now + productionQuantumMillis)) := by
      intro hpast
      rcases hontime with hzero | hsame
      · exact absurd hzero (Nat.ne_of_gt hpast)
      · rw [hsame]
        exact ⟨hsame ▸ hlimits.scheduled, rfl⟩
    have hmade := (h.sound.arms_iff ⟨htime, by omega⟩ hassignment hworld hauthority hidle hcursor
      hlimits.time).mpr ⟨hcadence, rfl⟩
    exact ⟨_, _, hbuilt, h.makes hmade hidle⟩

/-! ## Run -/

theorem Reached.runs :
    Runs codec cell now := by
  intro occurrence hauthority harmed hidle hdue
  have hrevision := hlimits.revision
  have hsequence := hlimits.sequence
  have htimely := hlimits.time
  have hmade := h.sound.begins ⟨htime, by omega⟩ hworld hauthority hidle harmed hdue
  refine ⟨_, h.makes hmade trivial, fun after hwaits hquantum later hlater hstill => ?_⟩
  have hafter := (h.append hmade trivial).later hwaits.1
  have hcursor := h.sound.canonical.armed occurrence harmed
  have hcurrent := hwaits.2
  have hpending : after.current.pendingWorldCommit = some
      ⟨occurrence, cell.current.lastWorldEventSequence, cell.current.lastWorldEventHash,
        cell.current.lastWorldStateHash⟩ := by
    rw [hcurrent]
    rfl
  have hacknowledged : after.current.acknowledgedProductionSequence
      = cell.current.acknowledgedProductionSequence := by
    rw [hcurrent]
    rfl
  have hmoved : after.world.lifecycleWorldFrontier ≠ after.current.worldFrontier := by
    intro hsame
    have hold : after.world.base.productionClock.lastCommittedQuantumSequence
        = after.current.acknowledgedProductionSequence :=
      congrArg (·.committedProductionSequence) hsame
    rw [hquantum, hacknowledged, hcursor.sequence] at hold
    exact absurd hold (Nat.succ_ne_self _)
  have hcommitted : PendingProductionCommitV2.committedBy
      ⟨occurrence, cell.current.lastWorldEventSequence, cell.current.lastWorldEventHash,
        cell.current.lastWorldStateHash⟩ after.world.lifecycleWorldFrontier := by
    rcases hafter.sound.world.stands with hsame | ⟨_, hpending', hcommitted⟩
    · exact absurd hsame hmoved
    · rwa [← Option.mem_unique hpending hpending'] at hcommitted
  have hroom : after.HasRoom later := by
    constructor <;> rw [hcurrent]
    · exact hlater
    · exact hrevision
  have hheld : after.current.HasAuthority later := hcurrent ▸ hstill
  have hpopulated := hafter.orderly.populated hmoved
  have hlast : after.world.base.productionClock.lastScheduledForUnixMs
      = occurrence.scheduledForUnixMs := hcommitted.2.2.2
  have hnext : after.world.base.productionClock.lastCommittedQuantumSequence + 1 ≤ u64Max := by
    rw [hquantum, hcursor.sequence]
    exact hsequence
  have hfits : occurrence.scheduledForUnixMs + productionQuantumMillis ≤ u64Max := by
    simp only [productionQuantumMillis, authorityDurationMillis] at htimely ⊢
    omega
  refine ⟨⟨_, hafter.makes (hafter.sound.acknowledges hroom hheld hpending hcommitted hpopulated
    nofun) trivial⟩, nextOccurrenceAt after.world.base
      (occurrence.scheduledForUnixMs + productionQuantumMillis), _,
    (nextProductionOccurrenceAt_eq_ok hnext (hlast ▸ hfits)).mpr rfl,
    hafter.makes (hafter.sound.acknowledges hroom hheld hpending hcommitted hpopulated
      fun following hfollowing => ?_) trivial⟩
  obtain rfl := Option.some.inj hfollowing
  have hcadence : after.world.base.productionClock.lastScheduledForUnixMs + productionQuantumMillis
        ≤ u64Max
      ∧ occurrence.scheduledForUnixMs + productionQuantumMillis
        = after.world.base.productionClock.lastScheduledForUnixMs + productionQuantumMillis := by
    rw [hlast]
    exact ⟨hfits, rfl⟩
  exact ⟨nextCursor_nextOccurrenceAt hafter.orderly hafter.sound.world.registry hnext
    (Nat.succ_ne_zero _) fun _ => hcadence, hcadence⟩

/-! ## Rearmed -/

end

/-- A reached cell whose world stands where its record has it can be claimed, armed, run and
    drained exactly if it is not idle with authority, or has acknowledged no quantum yet, or it is
    the scheduled time of the last one it has. -/
theorem rearms_iff (h : Reached installation cell)
    (hworld : cell.world.lifecycleWorldFrontier = cell.current.worldFrontier)
    (htime : cell.current.lastTrustedUnixMs ≤ now) (hlimits : cell.current.BelowLimits now) :
    Rearms codec cell now ↔ OnTime cell now := by
  rw [← h.arms_iff hworld htime hlimits]
  constructor
  · exact fun hrearms => hrearms.arms
  · intro harms
    exact ⟨h.claims hworld htime hlimits, harms, h.runs hworld htime hlimits,
      h.drains hworld htime hlimits⟩

/-- A cell that has just been claimed has acknowledged no quantum. -/
theorem rearms_claimed : Rearms proofLifecycleCodec claimedCell 2000 :=
  (rearms_iff claimedCell_reached rfl (by decide)
    ⟨by decide, by decide, by decide, by decide, by decide⟩).mpr fun _ _ _ => .inl rfl

/-! ## An idle cell that cannot be armed -/

/-- The machines have nothing to show for the quantum. -/
def idleQuantum : CommittedQuantum where
  planned := Verse.proofCell
  eventHash := zeroHash
  stateHash := zeroHash
  activeWorldHash := zeroHash
  eventHash_hex := zeroHash_hex
  stateHash_hex := zeroHash_hex
  activeWorldHash_hex := zeroHash_hex

/-- The world has committed the first quantum. -/
def committedCell : LifecycleCell :=
  { pendingCell with
    world :=
      { pendingCell.world with
        base := { Verse.proofCell with
          productionClock := ⟨1, 1, 3000⟩
          eventSequence := 2
          lastEventHash := zeroHash } } }

theorem committedCell_reached : Reached activatedCell committedCell := by
  have hauthority : pendingCell.current.requireEventAppendAuthority claimedAssignment
      pendingCell.world.lifecycleWorldFrontier 3000 = .ok () := by decide
  have hnext : pendingCell.world.base.validateNextProductionOccurrence (occurrenceAt 1 3000)
      = .ok () := by decide
  have hcommitted : pendingCell.world.appendProductionOccurrence (occurrenceAt 1 3000) 3000
      idleQuantum = some committedCell.world := by
    rw [ActivatedWorld.appendProductionOccurrence, if_neg (by decide), if_pos hnext]
    rfl
  exact pendingCell_reached.step (.world awardedCell_assignment hauthority rfl hcommitted)

/-- It is acknowledged, and nothing is armed after it. -/
def idleCell : LifecycleCell :=
  committedCell.append ((committedCell.current.acknowledged
    committedCell.world.lifecycleWorldFrontier 3000 none).sealed proofLifecycleCodec)

theorem idleCell_reached : Reached activatedCell idleCell := by
  have hmoved : committedCell.world.lifecycleWorldFrontier ≠ committedCell.current.worldFrontier :=
    fun hsame => absurd (congrArg (·.eventSequence) hsame) (by decide)
  exact committedCell_reached.append (committedCell_reached.sound.acknowledges
    ⟨by decide, by decide⟩ ⟨rfl, rfl, 17000, rfl, by decide⟩ rfl ⟨rfl, rfl, rfl, rfl⟩
    (committedCell_reached.orderly.populated hmoved) nofun) trivial

/-- Seven seconds later the cell still has authority, and it is not armed. -/
theorem not_rearms_idle : Reached activatedCell idleCell
    ∧ idleCell.world.lifecycleWorldFrontier = idleCell.current.worldFrontier
    ∧ idleCell.current.lastTrustedUnixMs ≤ 10000
    ∧ idleCell.current.BelowLimits 10000
    ∧ ¬ Rearms proofLifecycleCodec idleCell 10000 := by
  have hlimits : idleCell.current.BelowLimits 10000 :=
    ⟨by decide, by decide, by decide, by decide, by decide⟩
  refine ⟨idleCell_reached, rfl, by decide, hlimits, fun hrearms => ?_⟩
  have hontime := (idleCell_reached.arms_iff rfl (by decide) hlimits).mp hrearms.arms
  rcases hontime ⟨rfl, rfl, 17000, rfl, by decide⟩ rfl rfl with hnone | hsame
  · exact absurd hnone (by decide)
  · exact absurd hsame (by decide)

end Verse.LifecycleV2
