import Mathlib.Data.List.Chain
import Verse.LifecycleV2.Replay

/-!
# A cell opens whatever has happened to it

The three kinds of step, and what each preserves. The directory answers the operation that is
pending or leaves the assignment alone; the world commits the quantum that is pending; a record
that is appended was made again by the journal before it was taken.

What the journal once read it reads for good: the documents that its records name are never
taken back.
-/

namespace Verse.LifecycleV2

open Lib Directory DirectoryV3 LifecycleRecordV2

variable {codec : LifecycleCodec} {installation : Installation codec}
  {cell next : LifecycleCell} {record prior : LifecycleRecordV2}
  {assignment : ValidatedCurrentCellAssignmentV3} {history result : DirectoryHistory}
  {frontier : LifecycleWorldFrontierV2} {now : Nat} {op : DirectoryV3Op}

/-! ## The directory moves -/

variable {after : CellAssignmentRecord}

theorem answered_of_reassigned
    (htip : TipView codec record assignment) (hdriven : record.Drives codec op)
    (hreassigned : Reassigned codec.directory record.cellId op assignment.assignment after) :
    ∃ operation, record.authorityOperation = some operation
      ∧ record.answered after operation := by
  obtain ⟨before, hbefore⟩ : ∃ before, before = assignment.assignment := ⟨_, rfl⟩
  have hstands := htip.stands
  rw [← hbefore] at hreassigned
  cases hreassigned with
  | claimed named stable asleep room fenceRoom =>
    obtain ⟨operation, hoperation, hkind, hgeneration, hholder⟩ := hdriven named
    refine ⟨operation, hoperation, ?_⟩
    rcases hstands with hbound | ⟨_, hoperation', hanswered⟩
    · have hfence := hbound.names.2.2.2.2.2
      rw [← hbefore] at hfence
      simp only [answered, hkind, hgeneration, hholder, ← hfence, checkedAdd, if_pos room,
        if_pos fenceRoom]
      exact ⟨rfl, rfl, rfl, rfl⟩
    · obtain rfl := Option.mem_unique hoperation hoperation'
      simp only [answered, hkind, ← hbefore] at hanswered
      rw [asleep] at hanswered
      exact absurd hanswered.1 (by decide)
  | recovered named stable held room fenceRoom =>
    obtain ⟨operation, hoperation, hkind, hgeneration, hholder⟩ := hdriven named
    refine ⟨operation, hoperation, ?_⟩
    rcases hstands with hbound | ⟨_, hoperation', hanswered⟩
    · have hfence := hbound.names.2.2.2.2.2
      rw [← hbefore] at hfence
      simp only [answered, hkind, hgeneration, hholder, ← hfence, checkedAdd, if_pos room,
        if_pos fenceRoom]
      exact ⟨rfl, rfl, rfl, rfl⟩
    · -- it has been answered, and then the generation has moved on
      obtain rfl := Option.mem_unique hoperation hoperation'
      simp only [answered, hkind, ← hbefore, hgeneration, checkedAdd, if_pos room,
        Option.getD_some] at hanswered
      exact absurd hanswered.2.1 (by omega)
  | released named held holder =>
    obtain ⟨operation, hoperation, hkind, hgeneration, hholder⟩ := hdriven named
    refine ⟨operation, hoperation, ?_⟩
    rcases hstands with hbound | ⟨_, hoperation', hanswered⟩
    · have hfence := hbound.names.2.2.2.2.2
      rw [← hbefore] at hfence
      simp only [answered, hkind, hgeneration]
      exact ⟨trivial, trivial, hfence, trivial⟩
    · obtain rfl := Option.mem_unique hoperation hoperation'
      simp only [answered, hkind, ← hbefore] at hanswered
      rw [held] at hanswered
      exact absurd hanswered.1 (by decide)

variable {before : CellAssignmentRecord} {cellId : String}

theorem stableHolder_of_reassigned
    (hreassigned : Reassigned codec.directory cellId op before after) :
    ∀ holderId, after.holderId = some holderId → validStableId holderId = true := by
  cases hreassigned with
  | claimed named stable asleep room fenceRoom | recovered named stable held room fenceRoom =>
    intro holderId hholder
    exact Option.some.inj hholder ▸ stable
  | released named held holder =>
    intro holderId hholder
    cases hholder

theorem cellKey_of_reassigned
    (hreassigned : Reassigned codec.directory cellId op before after) :
    after.cellKey = before.cellKey ∧ after.cellId = before.cellId := by
  cases hreassigned with
  | claimed | recovered | released => exact ⟨rfl, rfl⟩

theorem tipView_of_step (hfiled : Filed codec.directory history)
    (hcurrent : currentCellAssignment history record.cellId = .ok assignment)
    (htip : TipView codec record assignment) (hdriven : record.Drives codec op)
    (hstep : history.step codec.directory op = .ok result) :
    ∃ after, currentCellAssignment result record.cellId = .ok after
      ∧ TipView codec record after := by
  obtain ⟨hget, hrevision, hhash, huniverse, hmanifest⟩ := assignmentFromDocument_eq_ok.mp hcurrent
  cases tipStep_of_step hfiled.valid hget hstep with
  | unchanged => exact ⟨assignment, hcurrent, htip⟩
  | @appended next after valid revision universeId manifestHash found reassigned =>
    refine ⟨⟨next.directoryRevision, next.documentHash, next.universeId,
      next.universeManifestHash, after⟩,
      assignmentFromDocument_eq_ok.mpr ⟨found, rfl, rfl, rfl, rfl⟩, ?_⟩
    have huniverse' : next.universeId = record.universeId :=
      (universeId.trans huniverse.symm).trans htip.universeId
    have hmanifest' : next.universeManifestHash = record.manifestHash :=
      (manifestHash.trans hmanifest.symm).trans htip.manifestHash
    rcases reassigned with rfl | hreassigned
    · refine ⟨huniverse', hmanifest', htip.cellKey, htip.cellId, htip.rest, htip.stable, ?_⟩
      rcases htip.stands with hbound | hanswered
      · obtain ⟨-, -, hkey, hid, hgeneration, hfence⟩ := hbound.names
        exact .inl ⟨⟨huniverse', hmanifest', hkey, hid, hgeneration, hfence⟩, hbound.holder⟩
      · exact .inr hanswered
    · obtain ⟨hkey, hid⟩ := cellKey_of_reassigned hreassigned
      exact ⟨huniverse', hmanifest', hkey.trans htip.cellKey, hid.trans htip.cellId,
        atRest_of_valid valid found, stableHolder_of_reassigned hreassigned,
        .inr (answered_of_reassigned htip hdriven hreassigned)⟩

theorem Sound.tipStep (hsound : Sound codec cell)
    (hstep : cell.history.step codec.directory op = .ok result) : ∃ assignment,
      TipStep codec.directory cell.history cell.current.cellId assignment op result := by
  obtain ⟨assignment, hassignment, -⟩ := hsound.tip
  have hget := (assignmentFromDocument_eq_ok.mp (cellAssignment_eq_ok.mp hassignment)).1
  exact ⟨assignment.assignment, tipStep_of_step hsound.filed.valid hget hstep⟩

theorem Sound.boundAssignment_mono (hsound : Sound codec cell)
    (hstep : cell.history.step codec.directory op = .ok result) {bound}
    (h : record.boundAssignment cell.history = .ok bound) :
    record.boundAssignment result = .ok bound := by
  obtain ⟨assignment, htip⟩ := hsound.tipStep hstep
  rw [boundAssignment_eq_ok] at h ⊢
  exact historicalCellAssignment_mono htip h

/-! ## The world moves -/

variable {world : ActivatedWorld} {quantum : CommittedQuantum}

/-- What a committed quantum changes of the frontier. -/
theorem appendProductionOccurrence_eq_some {after occurrence}
    (h : world.appendProductionOccurrence occurrence now quantum = some after) :
    occurrence.scheduledForUnixMs ≤ now
      ∧ world.base.eventSequence + 1 ≤ u64Max
      ∧ after.base.universeId = world.base.universeId
      ∧ after.base.cellId = world.base.cellId
      ∧ after.base.universeManifestHash = world.base.universeManifestHash
      ∧ after.lifecycleWorldFrontier =
        { eventSequence := world.base.eventSequence + 1
          eventHash := quantum.eventHash
          stateHash := quantum.stateHash
          activeWorldHash := quantum.activeWorldHash
          celestialRegistryHash := world.base.celestialRegistryHash
          productionLifecycleGeneration := world.base.productionClock.lifecycleGeneration
          committedProductionSequence := occurrence.productionQuantumSequence
          lastScheduledForUnixMs := occurrence.scheduledForUnixMs } := by
  simp only [ActivatedWorld.appendProductionOccurrence] at h
  split_ifs at h with hearly hvalid
  obtain ⟨sequence, hsequence, rfl⟩ := Option.map_eq_some_iff.mp h
  obtain ⟨hroom, rfl⟩ := checkedAdd_eq_some.mp hsequence
  exact ⟨Nat.le_of_not_lt hearly, hroom, rfl, rfl, rfl, rfl⟩

theorem requireEventAppendAuthority_frontier
    (h : record.requireEventAppendAuthority assignment frontier now = .ok ()) :
    frontier = record.worldFrontier := by
  simp only [requireEventAppendAuthority, bind_eq_ok, requireWorldFrontier_eq_ok] at h
  obtain ⟨-, -, -, -, -, -, -, hfrontier, -⟩ := h
  exact hfrontier

theorem worldView_of_quantum {after pending} (hcanonical : record.Canonical codec)
    (hpending : record.pendingWorldCommit = some pending)
    (hfrontier : world.lifecycleWorldFrontier = record.worldFrontier)
    (h : world.appendProductionOccurrence pending.occurrence now quantum = some after) :
    WorldView record after.lifecycleWorldFrontier := by
  obtain ⟨-, hroom, -, -, -, hafter⟩ := appendProductionOccurrence_eq_some h
  have hcursor := hcanonical.armed _ (hcanonical.armed_of_pending hpending)
  have hsequence : world.base.eventSequence = pending.priorEventSequence :=
    (congrArg (·.eventSequence) hfrontier).trans (hcanonical.precededBy hpending).1
  have hgeneration : world.base.productionClock.lifecycleGeneration
      = pending.occurrence.lifecycleGeneration :=
    (congrArg (·.productionLifecycleGeneration) hfrontier).trans hcursor.generation.symm
  rw [hafter]
  refine ⟨congrArg (·.celestialRegistryHash) hfrontier, .inr ⟨pending, hpending, ?_⟩⟩
  refine ⟨?_, hgeneration, rfl, rfl⟩
  rw [← hsequence, checkedAdd, if_pos hroom]
  rfl

/-! ## A step of the cell -/

theorem Sound.step (hsound : Sound codec cell) (hstep : cell.Step codec next) :
    Sound codec next := by
  cases hstep with
  | appended made accepted => exact hsound.appended made accepted
  | directory driven committed =>
    obtain ⟨assignment, hassignment, htip⟩ := hsound.tip
    rw [cellAssignment_eq_ok] at hassignment
    obtain ⟨bound, hread, hbound⟩ := hsound.bound
    obtain ⟨after, hafter, hview⟩ :=
      tipView_of_step hsound.filed hassignment htip driven committed
    exact ⟨hsound.filed.step committed, hsound.canonical,
      ⟨bound, hsound.boundAssignment_mono committed hread, hbound⟩,
      ⟨after, cellAssignment_eq_ok.mpr hafter, hview⟩, hsound.world⟩
  | world found authority awaited committed =>
    obtain ⟨assignment, hassignment, htip⟩ := hsound.tip
    exact ⟨hsound.filed, hsound.canonical, hsound.bound, ⟨assignment, hassignment, htip⟩,
      worldView_of_quantum hsound.canonical awaited
        (requireEventAppendAuthority_frontier authority) committed⟩

/-! ## The journal, record by record -/

theorem recoverSuccessor_eq_ok {u : Unit} : recoverSuccessor codec history prior record = .ok u ↔
    record.validateDirectoryBinding history = .ok ()
      ∧ record.validateExactSuccessor codec prior history = .ok () := by
  simp only [recoverSuccessor, bind_eq_ok]
  constructor
  · rintro ⟨⟨⟩, hbinding, hexact⟩
    exact ⟨hbinding, hexact⟩
  · rintro ⟨hbinding, hexact⟩
    exact ⟨(), hbinding, hexact⟩

/-- What the journal of a cell has been found to say. -/
structure Journaled (installation : Installation codec) (cell : LifecycleCell) : Prop where
  genesis : historicalCellAssignment cell.history installation.genesis.targetDirectoryRevision
    installation.genesis.targetDirectoryDocumentHash installation.genesis.cellId
      = .ok installation.assignment
  links : checkEach (recoverLink codec installation.genesis) [] cell.records = .ok ()
  head : cell.records.head? = some installation.record
  identity : cell.current.identity = installation.record.identity
  revision : cell.current.lifecycleRevision = cell.records.length + 1
  bound : installation.record.validateDirectoryBinding cell.history = .ok ()
  replayed : cell.records.IsChain fun prior record =>
    recoverSuccessor codec cell.history prior record = .ok ()
  turns : cell.records.IsChain fun prior record =>
    prior.lastTrustedUnixMs ≤ record.lastTrustedUnixMs ∧ TakesTurns prior record

theorem LifecycleCell.records_append (cell : LifecycleCell) (record : LifecycleRecordV2) :
    (cell.append record).records = cell.records ++ [record] := rfl

theorem LifecycleCell.getLast?_records (cell : LifecycleCell) :
    cell.records.getLast? = some cell.current := List.getLast?_concat

theorem isChain_records_append {R : LifecycleRecordV2 → LifecycleRecordV2 → Prop}
    (h : cell.records.IsChain R) (hlast : R cell.current record) :
    (cell.append record).records.IsChain R := by
  rw [cell.records_append, List.isChain_append]
  refine ⟨h, List.isChain_singleton _, ?_⟩
  intro last hlastMem first hfirst
  rw [cell.getLast?_records] at hlastMem
  obtain rfl := Option.some.inj hlastMem
  obtain rfl := Option.some.inj hfirst
  exact hlast

theorem Journaled.appended {transition} (hjournaled : Journaled installation cell)
    (hmade : cell.transition codec now transition = .ok record)
    (haccepted : cell.prepareAppend codec record = .ok ()) :
    Journaled installation (cell.append record) := by
  rw [LifecycleCell.transition, bind_eq_ok] at hmade
  obtain ⟨assignment, -, hmade⟩ := hmade
  have hnext := nextRecord_of_apply hmade
  obtain ⟨-, hreplays, -, -⟩ := prepareAppend_eq_ok.mp haccepted
  obtain ⟨hbinding, hexact⟩ := replays_iff.mp hreplays
  have hlength : (cell.records ++ [record]).length = cell.records.length + 1 := by simp
  have hroom := hnext.room
  rw [hjournaled.revision] at hroom
  refine ⟨hjournaled.genesis, ?_, ?_, hnext.identity.trans hjournaled.identity, ?_,
    hjournaled.bound,
    isChain_records_append hjournaled.replayed (recoverSuccessor_eq_ok.mpr ⟨hbinding, hexact⟩),
    isChain_records_append hjournaled.turns ⟨hnext.trusted ▸ hnext.time, takesTurns_of_apply hmade⟩⟩
  · have hlink : recoverLink codec installation.genesis cell.records record = .ok () := by
      simp only [recoverLink, bind_eq_ok, LifecycleRecordV2.validate_eq_ok, demand_eq_ok,
        checkedAdd_eq_some, rejectIf_eq_ok, not_or, not_not, cell.getLast?_records]
      refine ⟨(), hnext.canonical, _, ⟨hroom, rfl⟩, hnext.previous, ?_⟩
      rw [hnext.revision, hjournaled.revision]
    exact checkEach_concat.mpr ⟨hjournaled.links, hlink⟩
  · have hhead := hjournaled.head
    rw [cell.records_append, List.head?_append, hhead]
    rfl
  · show record.lifecycleRevision = (cell.append record).records.length + 1
    rw [cell.records_append, hlength, hnext.revision, hjournaled.revision]

theorem validateDirectoryBinding_mono (hsound : Sound codec cell)
    (hstep : cell.history.step codec.directory op = .ok result)
    (h : record.validateDirectoryBinding cell.history = .ok ()) :
    record.validateDirectoryBinding result = .ok () := by
  obtain ⟨bound, hread, hbound⟩ := validateDirectoryBinding_eq_ok.mp h
  exact validateDirectoryBinding_eq_ok.mpr ⟨bound, hsound.boundAssignment_mono hstep hread, hbound⟩

theorem Journaled.directory (hsound : Sound codec cell) (hjournaled : Journaled installation cell)
    (hstep : cell.history.step codec.directory op = .ok result) :
    Journaled installation { cell with history := result } := by
  refine ⟨historicalCellAssignment_mono (hsound.tipStep hstep).choose_spec hjournaled.genesis,
    hjournaled.links, hjournaled.head, hjournaled.identity, hjournaled.revision,
    validateDirectoryBinding_mono hsound hstep hjournaled.bound, ?_, hjournaled.turns⟩
  refine hjournaled.replayed.imp fun prior record hsuccessor => ?_
  obtain ⟨hbinding, hexact⟩ := recoverSuccessor_eq_ok.mp hsuccessor
  obtain ⟨bound, hread, hexpected⟩ := validateExactSuccessor_eq_ok.mp hexact
  exact recoverSuccessor_eq_ok.mpr ⟨validateDirectoryBinding_mono hsound hstep hbinding,
    validateExactSuccessor_eq_ok.mpr ⟨bound, hsound.boundAssignment_mono hstep hread, hexpected⟩⟩

theorem Journaled.step (hsound : Sound codec cell) (hjournaled : Journaled installation cell)
    (hstep : cell.Step codec next) : Journaled installation next := by
  cases hstep with
  | appended made accepted => exact hjournaled.appended made accepted
  | directory driven committed => exact Journaled.directory hsound hjournaled committed
  | world found authority awaited committed =>
    exact { hjournaled with }

end Verse.LifecycleV2
