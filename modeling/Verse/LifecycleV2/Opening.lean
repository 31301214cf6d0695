import Mathlib.Logic.Relation
import Verse.Engine.Frame
import Verse.LifecycleV2.Accepts

/-!
# The journal of a reached cell

From its activation on, a cell can be opened at every moment: the whole journal is read back
with the history of the directory alone, and its last record agrees with the directory and the
world as they then are. `lifecycle_replays` puts this beside what is true of the records one by
one: their trusted time, their holders, and that they take turns.
-/

namespace Verse.LifecycleV2

open Lib Directory DirectoryV3 LifecycleRecordV2

variable {codec : LifecycleCodec} {installation : Installation codec}
  {cell : LifecycleCell} {record : LifecycleRecordV2}
  {assignment : ValidatedCurrentCellAssignmentV3} {frontier : LifecycleWorldFrontierV2} {now : Nat}

/-! ## The activation -/

variable {genesis : Protocol19TargetLifecycleGenesisV2}

theorem initial_eq_ok {activeHeadHash : String} :
    LifecycleRecordV2.initial codec assignment frontier genesis activeHeadHash = .ok record ↔
      ¬ genesisDiffers genesis assignment frontier
        ∧ ((genesisRecord assignment frontier genesis activeHeadHash).sealed codec).Canonical codec
        ∧ record = (genesisRecord assignment frontier genesis activeHeadHash).sealed codec := by
  simp only [LifecycleRecordV2.initial, bind_eq_ok, rejectIf_eq_ok, sealRecord_eq_ok]
  exact exists_const Unit

/-- The assignment the first record is made from, and the genesis that pinned it. -/
structure Pinned (assignment : ValidatedCurrentCellAssignmentV3)
    (genesis : Protocol19TargetLifecycleGenesisV2) : Prop where
  asleep : assignment.assignment.state = .sleeping
  unheld : assignment.assignment.holderId = none
  revision : assignment.directoryRevision = genesis.targetDirectoryRevision
  hash : assignment.directoryDocumentHash = genesis.targetDirectoryDocumentHash
  cellKey : assignment.assignment.cellKey = genesis.cellKey
  cellId : assignment.assignment.cellId = genesis.cellId
  manifestHash : assignment.universeManifestHash = genesis.manifestHash

theorem pinned_of_not_differs
    (h : ¬ genesisDiffers genesis assignment frontier) : Pinned assignment genesis := by
  simp only [genesisDiffers, not_or, not_not, Bool.not_eq_true, Option.isSome_eq_false_iff,
    Option.isNone_iff_eq_none] at h
  obtain ⟨hasleep, hunheld, hrevision, hhash, -, -, hkey, hid, hmanifest, -⟩ := h
  exact ⟨hasleep, hunheld, hrevision, hhash, hkey, hid, hmanifest⟩

variable (installation)

theorem Installation.pinned : Pinned installation.assignment installation.genesis :=
  pinned_of_not_differs (initial_eq_ok.mp installation.record_initial).1

theorem Installation.record_eq : installation.record = (genesisRecord installation.assignment
      installation.world.lifecycleWorldFrontier installation.genesis
      installation.activeHeadHash).sealed codec :=
  (initial_eq_ok.mp installation.record_initial).2.2

theorem Installation.record_canonical : installation.record.Canonical codec := by
  rw [installation.record_eq]
  exact (initial_eq_ok.mp installation.record_initial).2.1

theorem Installation.filed : Filed codec.directory installation.history :=
  (filed_of_isGenesis installation.document_genesis).run installation.history_reached

theorem Installation.boundTo : installation.record.BoundTo installation.assignment := by
  rw [installation.record_eq]
  exact ⟨⟨rfl, rfl, rfl, rfl, rfl, rfl⟩,
    .inr ⟨installation.pinned.asleep, installation.pinned.unheld, rfl⟩⟩

theorem Installation.cellId_eq : installation.record.cellId = installation.genesis.cellId := by
  rw [installation.record_eq]
  exact installation.pinned.cellId

theorem Installation.boundAssignment :
    installation.record.boundAssignment installation.history = .ok installation.assignment := by
  rw [boundAssignment_eq_ok, installation.cellId_eq]
  have hread := installation.filed.historical installation.assignment_current
  rw [installation.record_eq]
  exact hread

theorem Installation.sound : Sound codec installation.start := by
  have hget := (assignmentFromDocument_eq_ok.mp installation.assignment_current).1
  have hrest := atRest_of_valid installation.filed.valid hget
  refine ⟨installation.filed, installation.record_canonical,
    ⟨_, installation.boundAssignment, installation.boundTo⟩, ⟨installation.assignment, ?_, ?_⟩, ?_⟩
  · rw [cellAssignment_eq_ok]
    show currentCellAssignment installation.history installation.record.cellId = _
    rw [installation.cellId_eq]
    exact installation.assignment_current
  · have hnames := installation.boundTo.names
    refine ⟨hnames.1, hnames.2.1, hnames.2.2.1, hnames.2.2.2.1, ?_, ?_, .inl installation.boundTo⟩
    · show AtRest codec.directory installation.record.cellId _
      rw [installation.cellId_eq]
      exact hrest
    · intro holderId hholder
      rw [installation.pinned.unheld] at hholder
      cases hholder
  · refine .of_eq ?_
    show _ = installation.record.worldFrontier
    rw [installation.record_eq]
    rfl

theorem Installation.journaled : Journaled installation installation.start where
  genesis := by
    have hpinned := installation.pinned
    rw [← hpinned.revision, ← hpinned.hash]
    exact installation.filed.historical installation.assignment_current
  links := by
    refine checkEach_concat.mpr ⟨rfl, ?_⟩
    simp only [recoverLink, bind_eq_ok, LifecycleRecordV2.validate_eq_ok, demand_eq_ok,
      rejectIf_eq_ok, not_or, not_not]
    refine ⟨(), installation.record_canonical, 2, rfl, ?_⟩
    show installation.record.previousRecordHash = _ ∧ installation.record.lifecycleRevision = 2
    rw [installation.record_eq]
    exact ⟨rfl, rfl⟩
  head := rfl
  identity := rfl
  revision := by
    show installation.record.lifecycleRevision = 2
    rw [installation.record_eq]
    rfl
  bound := validateDirectoryBinding_eq_ok.mpr
    ⟨_, installation.boundAssignment, installation.boundTo⟩
  replayed := List.isChain_singleton _
  turns := List.isChain_singleton _

variable {installation}

/-! ## Every moment -/

theorem Reached.sound (h : Reached installation cell) : Sound codec cell := by
  induction h with
  | start => exact installation.sound
  | step before moved ih => exact ih.step moved

theorem Reached.journaled (h : Reached installation cell) : Journaled installation cell := by
  induction h with
  | start => exact installation.journaled
  | step before moved ih => exact ih.step before.sound moved

theorem Reached.append {transition} (h : Reached installation cell)
    (hmade : cell.transition codec now transition = .ok record)
    (hidle : RenewsNothingPending cell.current transition) :
    Reached installation (cell.append record) :=
  h.step (.appended hmade (prepareAppend_of_transition h.sound hidle hmade))

/-! ## Opening -/

/-- A request that stands as it was made finds the directory waiting. -/
theorem LifecycleRecordV2.Canonical.awaits (hcanonical : record.Canonical codec) {operation}
    (hoperation : record.authorityOperation = some operation) (hbound : record.BoundTo assignment)
    (hrest : AtRest codec.directory record.cellId assignment.assignment) :
    record.awaits assignment.assignment operation := by
  obtain ⟨-, -, -, -, hgeneration, hfence⟩ := hbound.names
  have hlive := hcanonical.live_iff
  have hshape := hcanonical.shape
  cases hmode : record.observedMode with
  | sleeping =>
    simp only [shapeIsValid, hoperation, hmode] at hshape
    obtain ⟨hkind, -, hexpected⟩ := hshape
    have hnone : record.holderId = none := by
      by_contra hsome
      exact hlive.mpr (Option.isSome_iff_ne_none.mpr hsome) hmode
    refine ⟨?_, hgeneration.trans hexpected.symm, hfence, fun hrelease => ?_⟩
    · rw [hkind]
      exact hbound.asleep hrest hnone
    · rw [hkind] at hrelease
      cases hrelease
  | background =>
    simp only [shapeIsValid, hoperation, hmode] at hshape
    obtain ⟨hkind, -, hexpected⟩ := hshape
    refine ⟨?_, hgeneration.trans hexpected.symm, hfence, fun hrelease => ?_⟩
    · rw [hkind]
      exact (hbound.held (hlive.mp (by rw [hmode]; decide))).1
    · rw [hkind] at hrelease
      cases hrelease
  | draining =>
    simp only [shapeIsValid, hoperation, hmode] at hshape
    obtain ⟨hkind, -, hexpected, hholder⟩ := hshape
    have hheld := hbound.held (hlive.mp (by rw [hmode]; decide))
    refine ⟨?_, hgeneration.trans hexpected.symm, hfence, fun _ => hheld.2.trans hholder⟩
    rw [hkind]
    exact hheld.1
  | activating => simp only [shapeIsValid, hoperation, hmode] at hshape

theorem validateRecoveryView_of_views (hcanonical : record.Canonical codec)
    (htip : TipView codec record assignment) (hworld : WorldView record frontier) :
    record.validateRecoveryView assignment frontier = .ok () := by
  simp only [validateRecoveryView, bind_eq_ok, rejectIf_eq_ok, not_or, not_not]
  refine ⟨(), ⟨htip.universeId, htip.manifestHash, htip.cellKey, htip.cellId⟩, (),
    hworld.requireWorldOrPendingSuccessor, ?_⟩
  cases hoperation : record.authorityOperation with
  | none =>
    have hbound := htip.boundTo hoperation
    obtain ⟨-, -, -, -, hgeneration, hfence⟩ := hbound.names
    by_cases hmode : record.observedMode = .sleeping
    · have hnone : record.holderId = none := by
        by_contra hsome
        exact hcanonical.live_iff.mpr (Option.isSome_iff_ne_none.mpr hsome) hmode
      have hstate := hbound.asleep htip.rest hnone
      have hunheld : assignment.assignment.holderId = none := by
        rcases hbound.holder with ⟨-, hholder⟩ | ⟨-, hholder, -⟩
        · exact hholder.trans hnone
        · exact hholder
      simp [hmode, hstate, hunheld, hgeneration, hfence]
    · have hheld := hbound.held (hcanonical.live_iff.mp hmode)
      simp only [if_neg hmode, bind_eq_ok, requireAssignmentIdentity_eq_ok, rejectIf_eq_ok, not_not]
      exact ⟨(), ⟨hheld.1, hbound.names⟩, hheld.2⟩
  | some operation =>
    rw [rejectIf_eq_ok]
    rintro ⟨hwaits, hneither⟩
    rcases htip.stands with hbound | ⟨_, hoperation', hanswered⟩
    · exact hwaits (hcanonical.awaits hoperation hbound htip.rest)
    · obtain rfl := Option.mem_unique hoperation hoperation'
      exact hneither hanswered

theorem validateIdentity_of_journaled (h : Journaled installation cell) :
    validateIdentity installation.genesis installation.activeHeadHash cell.current = .ok () := by
  have hidentity := h.identity
  rw [installation.record_eq] at hidentity
  have hpinned := installation.pinned
  simp only [validateIdentity, rejectIf_eq_ok, not_or, not_not]
  exact ⟨congrArg LifecycleIdentity.lifecycleGenesisHash hidentity,
    congrArg LifecycleIdentity.activeHeadHash hidentity,
    (congrArg LifecycleIdentity.cellKey hidentity).trans hpinned.cellKey,
    (congrArg LifecycleIdentity.cellId hidentity).trans hpinned.cellId,
    (congrArg LifecycleIdentity.manifestHash hidentity).trans hpinned.manifestHash,
    congrArg LifecycleIdentity.migrationAnchorHash hidentity⟩

theorem recover_of_journaled (h : Journaled installation cell) :
    recover codec installation.genesis installation.activeHeadHash
      installation.world.lifecycleWorldFrontier cell.history cell.records = .ok () := by
  obtain ⟨rest, hrecords⟩ : ∃ rest, cell.records = installation.record :: rest :=
    List.head?_eq_some_iff.mp h.head
  have hlinks := h.links
  have hreplayed := h.replayed
  rw [hrecords] at hlinks hreplayed ⊢
  simp only [recover, bind_eq_ok, mapError_eq_ok, rejectIf_eq_ok, not_not, checkWindows_eq_ok]
  exact ⟨(), hlinks, _, h.genesis, _, installation.record_initial, (), rfl, (), h.bound, hreplayed⟩

theorem Reached.opens (h : Reached installation cell) : installation.opens cell := by
  obtain ⟨assignment, hassignment, htip⟩ := h.sound.tip
  simp only [Installation.opens, LifecycleCell.openOrInitialize, bind_eq_ok, mapError_eq_ok]
  refine ⟨(), recover_of_journaled h.journaled, (), validateIdentity_of_journaled h.journaled,
    assignment, ?_, validateRecoveryView_of_views h.sound.canonical htip h.sound.world⟩
  have hcell : cell.current.cellId = installation.genesis.cellId :=
    (congrArg LifecycleIdentity.cellId h.journaled.identity).trans installation.cellId_eq
  rw [← hcell]
  exact cellAssignment_eq_ok.mp hassignment

/-! ## The records -/

theorem Journaled.trusted (h : Journaled installation cell) :
    (cell.records.map lastTrustedUnixMs).Pairwise (· ≤ ·) := by
  rw [← List.isChain_iff_pairwise, List.isChain_map]
  exact h.turns.imp fun _ _ hturn => hturn.1

theorem Journaled.canonical (h : Journaled installation cell) (hmem : record ∈ cell.records) :
    record.Canonical codec := by
  obtain ⟨before, after, hrecords⟩ := List.append_of_mem hmem
  have hlink := checkEach_eq_ok_iff_split.mp h.links before record after hrecords
  simp only [recoverLink, bind_eq_ok] at hlink
  obtain ⟨⟨⟩, hcanonical, -⟩ := hlink
  exact LifecycleRecordV2.validate_eq_ok.mp hcanonical

/-- What a reached cell comes to later is reached. -/
theorem Reached.later {later} (h : Reached installation cell)
    (hlater : Relation.ReflTransGen (LifecycleCell.Step codec) cell later) :
    Reached installation later := by
  induction hlater with
  | refl => exact h
  | tail _ moved ih => exact ih.step moved

/-- Whatever a transition makes of the last record of a reached cell the journal takes, unless it
    renews while a commit is pending, and whatever happens to the cell afterwards it opens. Along
    its journal trusted time does not go back and nothing that is pending is replaced. -/
theorem lifecycle_replays (h : Reached installation cell) :
    (∀ now transition record, cell.transition codec now transition = .ok record →
        RenewsNothingPending cell.current transition →
          cell.prepareAppend codec record = .ok ()
            ∧ ∀ later, Relation.ReflTransGen (LifecycleCell.Step codec) (cell.append record) later →
              installation.opens later)
      ∧ installation.opens cell
      ∧ (cell.records.map lastTrustedUnixMs).Pairwise (· ≤ ·)
      ∧ cell.records.IsChain TakesTurns
      ∧ ∀ record ∈ cell.records, record.observedMode ≠ .sleeping ↔ record.holderId.isSome := by
  refine ⟨fun now transition record hmade hidle => ?_, h.opens, h.journaled.trusted,
    h.journaled.turns.imp fun _ _ hturn => hturn.2, fun record hmem =>
      (h.journaled.canonical hmem).live_iff⟩
  exact ⟨prepareAppend_of_transition h.sound hidle hmade,
    fun later hlater => ((h.append hmade hidle).later hlater).opens⟩

/-! ## A cell that has begun a commit -/

/-- The directory commits an operation, or refuses it. -/
def LifecycleCell.directed (codec : LifecycleCodec) (cell : LifecycleCell) (op : DirectoryV3Op) :
    LifecycleCell :=
  { cell with history := (cell.history.step codec.directory op).toOption.getD cell.history }

theorem Reached.directed (h : Reached installation cell) (op : DirectoryV3Op)
    (hdriven : cell.current.Drives codec op) : Reached installation (cell.directed codec op) := by
  rw [LifecycleCell.directed]
  cases hcase : cell.history.step codec.directory op with
  | error e => exact h
  | ok history => exact h.step (.directory hdriven hcase)

def proofLifecycleCodec : LifecycleCodec where
  directory := proofCodec
  recordHash _ := zeroHash
  recordHash_hex _ := by decide

def sleepingCell (east : Bool) : String × CellAssignmentRecord :=
  ((DirectoryV3.proofCell east).2,
    { (heldCell east "holder-1").2 with state := .sleeping, holderId := none })

/-- Both cells asleep, and nothing in either. -/
def sleepingDirectory : CellDirectoryDocumentV3 :=
  { proofGenesis with
    assignments := OrdMap.ofList [sleepingCell false, sleepingCell true]
    placements := OrdMap.empty }

/-- What the migration pinned of the first cell. -/
def sleepingLifecycle : Protocol19TargetLifecycleGenesisV2 where
  cellKey := (DirectoryV3.proofCell false).1
  cellId := (DirectoryV3.proofCell false).2
  manifestHash := zeroHash
  migrationAnchorHash := zeroHash
  targetDirectoryRevision := 1
  targetDirectoryDocumentHash := zeroHash
  assignmentGeneration := 1
  authorityFencingToken := 1
  trustedCutoffUnixMs := 1000
  snapshotStateHash := zeroHash
  activeWorldHash := zeroHash
  legacyEventSequence := 1
  legacyEventHeadHash := zeroHash
  acknowledgedProductionSequence := 0
  recordHash := zeroHash

def sleepingAssignment : ValidatedCurrentCellAssignmentV3 where
  directoryRevision := 1
  directoryDocumentHash := zeroHash
  universeId := "the-verse-local"
  universeManifestHash := zeroHash
  assignment := (sleepingCell false).2

/-- The first cell, just activated. -/
def activatedCell : Installation proofLifecycleCodec where
  document := sleepingDirectory
  operations := []
  history := genesisHistory sleepingDirectory
  world := { base := Verse.proofCell, stateHash := zeroHash, activeWorldHash := zeroHash }
  genesis := sleepingLifecycle
  activeHeadHash := zeroHash
  assignment := sleepingAssignment
  record := (genesisRecord sleepingAssignment (.fromWorld Verse.proofCell zeroHash zeroHash)
    sleepingLifecycle zeroHash).sealed proofLifecycleCodec
  document_genesis := ⟨by decide, by decide⟩
  history_reached := rfl
  world_universe := rfl
  world_cell := rfl
  world_manifest := rfl
  assignment_current := by decide
  record_initial := by decide

/-- The sleeping cell asks for a holder. -/
def requestedCell : LifecycleCell :=
  activatedCell.start.append
    ((activatedCell.record.requested .claim 1 "holder-1" 2000).sealed proofLifecycleCodec)

theorem requestedCell_reached : Reached activatedCell requestedCell :=
  Reached.start.append (activatedCell.sound.requests ⟨by decide, by decide⟩ rfl rfl rfl rfl
    (by decide) (by decide)) trivial

/-- The directory has claimed it. -/
def awardedCell : LifecycleCell :=
  requestedCell.directed proofLifecycleCodec (.claim cellOriginKey 1 "holder-1")

def claimedAssignment : ValidatedCurrentCellAssignmentV3 :=
  { sleepingAssignment with
    directoryRevision := 2
    assignment := CellAssignmentRecord.claimedBy sleepingAssignment.assignment "holder-1" }

theorem awardedCell_assignment : awardedCell.assignment = .ok claimedAssignment := by
  decide

theorem awardedCell_reached : Reached activatedCell awardedCell := by
  refine requestedCell_reached.directed (.claim cellOriginKey 1 "holder-1") ?_
  exact fun _ => ⟨_, rfl, rfl, rfl, rfl⟩

def claimedCell : LifecycleCell :=
  awardedCell.append
    ((awardedCell.current.assigned claimedAssignment 2000).sealed proofLifecycleCodec)

theorem claimedCell_reached : Reached activatedCell claimedCell :=
  awardedCell_reached.append (awardedCell_reached.sound.finalizesAssigned ⟨by decide, by decide⟩
    awardedCell_assignment rfl nofun rfl rfl (by decide) rfl (by decide)) trivial

theorem claimedCell_assignment : claimedCell.assignment = .ok claimedAssignment :=
  awardedCell_assignment

/-- The quantum of the cell that follows so many, at a time. -/
def occurrenceAt (productionQuantumSequence scheduledForUnixMs : Nat) :
    ProductionScheduleOccurrence :=
  { firstOccurrence Verse.proofCell with productionQuantumSequence, scheduledForUnixMs }

/-- The first occurrence is armed. -/
def armedCell : LifecycleCell :=
  claimedCell.append ((claimedCell.current.renewed claimedAssignment 2000
    (some (occurrenceAt 1 3000))).sealed proofLifecycleCodec)

theorem claimedCell_next : NextCursor (occurrenceAt 1 3000) claimedCell.current
    claimedCell.current.worldFrontier where
  schema := rfl
  universeId := rfl
  cellId := by decide
  generation := rfl
  room := by decide
  sequence := rfl
  scheduled := by decide
  manifest := rfl
  registry := rfl
  cadence _ hpast := absurd hpast (by decide)

theorem armedCell_reached : Reached activatedCell armedCell := by
  have hroom : claimedCell.HasRoom 2000 := ⟨by decide, by decide⟩
  have hauthority : claimedCell.current.HasAuthority 2000 := ⟨rfl, rfl, 17000, rfl, by decide⟩
  have hmade := (claimedCell_reached.sound.arms_iff hroom claimedCell_assignment rfl hauthority rfl
    claimedCell_next (by decide)).mpr ⟨fun hpast => absurd hpast (by decide), rfl⟩
  exact claimedCell_reached.append hmade rfl

/-- Its commit is begun. -/
def pendingCell : LifecycleCell :=
  armedCell.append
    ((armedCell.current.begun (occurrenceAt 1 3000) 3000).sealed proofLifecycleCodec)

theorem pendingCell_reached : Reached activatedCell pendingCell :=
  armedCell_reached.append (armedCell_reached.sound.begins ⟨by decide, by decide⟩ rfl
    ⟨rfl, rfl, 17000, rfl, by decide⟩ rfl rfl (by decide)) trivial

/-- The cell with a pending commit opens, and so does whatever follows. -/
theorem lifecycle_replays_pending : activatedCell.opens pendingCell
    ∧ (pendingCell.records.map lastTrustedUnixMs).Pairwise (· ≤ ·) :=
  have h := lifecycle_replays pendingCell_reached
  ⟨h.2.1, h.2.2.1⟩

/-- The renewal of a record with a pending commit, which keeps its occurrence armed. -/
theorem pendingCell_renews : ∃ record,
    pendingCell.transition proofLifecycleCodec 3000
        (.renewAndSetSchedule (some (occurrenceAt 1 3000))) = .ok record
      ∧ record.pendingWorldCommit = pendingCell.current.pendingWorldCommit
      ∧ record.authorityOperation = none
      ∧ record.boundAssignment pendingCell.history = .ok claimedAssignment := by
  have hroom : pendingCell.HasRoom 3000 := ⟨by decide, by decide⟩
  have hauthority : pendingCell.current.HasAuthority 3000 := ⟨rfl, rfl, 17000, rfl, by decide⟩
  have hassignment : pendingCell.assignment = .ok claimedAssignment := awardedCell_assignment
  have hnext : NextCursor (occurrenceAt 1 3000) pendingCell.current
      pendingCell.current.worldFrontier :=
    { claimedCell_next with cadence := fun _ hpast => absurd hpast (by decide) }
  have hmade := (pendingCell_reached.sound.renews_iff hroom hassignment rfl hauthority
    (fun _ hpending => Option.some.inj hpending ▸ rfl)
    (fun _ harmed => Option.some.inj harmed ▸ hnext) (by decide)).mpr
    ⟨fun _ _ hpast => absurd hpast (by decide), rfl⟩
  exact ⟨_, hmade, rfl, rfl,
    boundAssignment_of_tip pendingCell_reached.sound.filed hassignment rfl rfl rfl⟩

/-- Renewed while the commit is pending, the cell has made a record that its journal refuses. -/
theorem pending_renewal_does_not_replay :
    ∃ record, Reached activatedCell pendingCell
      ∧ pendingCell.transition proofLifecycleCodec 3000
          (.renewAndSetSchedule (some (occurrenceAt 1 3000))) = .ok record
      ∧ record.validateExactSuccessor proofLifecycleCodec pendingCell.current pendingCell.history
          = .error (.invalid
            "pending production transaction cannot change without acknowledgement") := by
  obtain ⟨record, hmade, hpending, hidle, hbound⟩ := pendingCell_renews
  refine ⟨record, pendingCell_reached, hmade, ?_⟩
  have hprior : pendingCell.current.authorityOperation = none := rfl
  have hcommit : pendingCell.current.pendingWorldCommit = some
      ⟨occurrenceAt 1 3000, pendingCell.current.lastWorldEventSequence,
        pendingCell.current.lastWorldEventHash, pendingCell.current.lastWorldStateHash⟩ := rfl
  rw [hcommit] at hpending
  simp only [validateExactSuccessor, hbound, expectedSuccessor, hprior, hidle, hcommit, hpending]
  rfl

end Verse.LifecycleV2
