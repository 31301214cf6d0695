import Verse.Persistence.Tended

/-!
# What is written under a fence

The fence of a cell is in its lifecycle record, and every event and every snapshot carries the
fence of the process that wrote it. A disk is in order when the journal ascends and neither it
nor the snapshot is past the record; a store keeps it so because it writes nothing but its own
fence, and taking a cell issues a fence that is past everything there was.

`Under fence store` is what an open store keeps, operation by operation; putting the cell to
sleep ends it with `LetGo`.
-/

namespace Verse.Persistence

open Lib Lib.Program

/-- The fences on record: those of the journal, of the snapshot and of the lifecycle record. -/
def Disk.fences (disk : Disk) : List Nat :=
  disk.journal.map CanonicalEvent.authorityFencingToken
    ++ (disk.snapshot.map fun snapshot => snapshot.state.fencingToken).toList
    ++ (disk.lifecycle.map CellLifecycleRecord.fencingToken).toList

/-- The fence of the lifecycle record. -/
def Disk.fence (disk : Disk) : Nat := disk.lifecycle.elim 0 CellLifecycleRecord.fencingToken

/-- The journal ascends. -/
def Disk.Ascends (disk : Disk) : Prop :=
  (disk.journal.map CanonicalEvent.authorityFencingToken).Pairwise (· ≤ ·)

/-- The journal ascends, and nothing is past the lifecycle record. -/
structure InOrder (disk : Disk) : Prop where
  ascends : disk.Ascends
  journal : ∀ event ∈ disk.journal, event.authorityFencingToken ≤ disk.fence
  snapshot : ∀ snapshot ∈ disk.snapshot, snapshot.state.fencingToken ≤ disk.fence

theorem inOrder_empty : InOrder .empty := ⟨.nil, by simp [Disk.empty], by simp [Disk.empty]⟩

/-- A fence past everything on record. -/
def Issued (disk : Disk) (fence : Nat) : Prop := ∀ recorded ∈ disk.fences, recorded < fence

/-- In order, under this fence. -/
def Headed (fence : Nat) (disk : Disk) : Prop := InOrder disk ∧ disk.fence = fence

variable {lifecycle : CellLifecycleRecord} {event : CanonicalEvent}

section

variable {fence : Nat} {disk : Disk}

theorem Issued.le (h : Issued disk fence) : disk.fence ≤ fence := by
  cases hlifecycle : disk.lifecycle with
  | none => simp [Disk.fence, hlifecycle]
  | some lifecycle =>
    rw [Disk.fence, hlifecycle]
    exact Nat.le_of_lt (h lifecycle.fencingToken (by simp [Disk.fences, hlifecycle]))

theorem Headed.of_files {changed : Disk} (h : Headed fence disk)
    (hjournal : changed.journal = disk.journal) (hsnapshot : changed.snapshot = disk.snapshot)
    (hlifecycle : changed.lifecycle = disk.lifecycle) : Headed fence changed := by
  obtain ⟨hin, rfl⟩ := h
  have hfence : changed.fence = disk.fence := by rw [Disk.fence, hlifecycle, Disk.fence]
  refine ⟨⟨?_, ?_, ?_⟩, hfence⟩
  · rw [Disk.Ascends, hjournal]
    exact hin.ascends
  · rw [hjournal, hfence]
    exact hin.journal
  · rw [hsnapshot, hfence]
    exact hin.snapshot

theorem Headed.recorded (h : Headed fence disk)
    (hlifecycle : lifecycle.fencingToken = fence) :
    Headed fence { disk with lifecycle := some lifecycle } := by
  obtain ⟨hin, rfl⟩ := h
  have hfence : Disk.fence { disk with lifecycle := some lifecycle } = disk.fence := hlifecycle
  refine ⟨⟨hin.ascends, ?_, ?_⟩, hfence⟩
  · rw [hfence]
    exact hin.journal
  · rw [hfence]
    exact hin.snapshot

theorem Issued.headed (h : Issued disk lifecycle.fencingToken)
    (hin : InOrder disk) :
    Headed lifecycle.fencingToken { disk with lifecycle := some lifecycle } := by
  refine ⟨⟨hin.ascends, fun event hevent => ?_, fun snapshot hsnapshot => ?_⟩, rfl⟩
  · apply Nat.le_of_lt
    apply h
    simp only [Disk.fences, List.mem_append, List.mem_map]
    exact .inl (.inl ⟨event, hevent, rfl⟩)
  · apply Nat.le_of_lt
    apply h
    have : disk.snapshot = some snapshot := hsnapshot
    simp [Disk.fences, this]

theorem Headed.appended (h : Headed fence disk)
    (hevent : event.authorityFencingToken = fence) :
    Headed fence { disk with journal := disk.journal ++ [event], journalTorn := false } := by
  obtain ⟨hin, rfl⟩ := h
  refine ⟨⟨?_, ?_, hin.snapshot⟩, rfl⟩
  · rw [Disk.Ascends, List.map_append, List.pairwise_append]
    refine ⟨hin.ascends, by simp, ?_⟩
    intro before hbefore after hafter
    obtain ⟨earlier, hearlier, rfl⟩ := List.mem_map.mp hbefore
    obtain rfl : after = event.authorityFencingToken := by simpa using hafter
    rw [hevent]
    exact hin.journal earlier hearlier
  · intro written hwritten
    rcases List.mem_append.mp hwritten with hold | hnew
    · exact hin.journal written hold
    · obtain rfl : written = event := by simpa using hnew
      exact Nat.le_of_eq hevent

theorem Headed.saved {snapshot : SnapshotDocument} (h : Headed fence disk)
    (hsnapshot : snapshot.state.fencingToken = fence) :
    Headed fence { disk with snapshot := some snapshot } := by
  obtain ⟨hin, rfl⟩ := h
  refine ⟨⟨hin.ascends, hin.journal, ?_⟩, rfl⟩
  intro found hfound
  obtain rfl : snapshot = found := by simpa using hfound
  exact Nat.le_of_eq hsnapshot

end

/-! ## A medium and a store under a fence -/

/-- Everything written so far, and what is there, is in order under this fence. -/
structure WrittenUnder (fence : Nat) (medium : Medium) : Prop where
  written : ∀ disk ∈ medium.written, Headed fence disk
  disk : Headed fence medium.disk

/-- The store may write, and has written under its own fence. -/
structure Under (fence : Nat) (store : Store) : Prop where
  medium : WrittenUnder fence store.toMedium
  token : store.fencingToken = fence
  held : store.lifecycle.fencingToken = fence
  enabled : store.writeEnabled = true

/-- The store has put its cell to sleep. -/
structure LetGo (fence : Nat) (store : Store) : Prop where
  medium : WrittenUnder fence store.toMedium
  token : store.fencingToken = fence
  disabled : store.writeEnabled = false
  expires : store.lifecycle.expiresAtUnixMs = none

def UnderOrLetGo (fence : Nat) (store : Store) : Prop := Under fence store ∨ LetGo fence store

variable {boundary : DurableTransferBoundary}

section

variable {fence : Nat}

variable {change : Disk → Disk}

theorem write_under (hchange : ∀ disk, Headed fence disk → Headed fence (change disk)) :
    Keeps (WrittenUnder fence) (write change) :=
  .modify fun _ h => ⟨List.forall_mem_cons.mpr ⟨hchange _ h.disk, h.written⟩, hchange _ h.disk⟩

theorem write_beside (hjournal : ∀ disk, (change disk).journal = disk.journal)
    (hsnapshot : ∀ disk, (change disk).snapshot = disk.snapshot)
    (hlifecycle : ∀ disk, (change disk).lifecycle = disk.lifecycle) :
    Keeps (WrittenUnder fence) (write change) :=
  write_under fun disk h => h.of_files (hjournal disk) (hsnapshot disk) (hlifecycle disk)

theorem writeLifecycle_under (h : lifecycle.fencingToken = fence) :
    Keeps (WrittenUnder fence) (writeLifecycle lifecycle) :=
  write_under fun _ hdisk => hdisk.recorded h

theorem appendJournal_under (h : event.authorityFencingToken = fence) :
    Keeps (WrittenUnder fence) (appendJournal event) := by
  refine Keeps.bind (write_beside ?_ ?_ ?_) fun _ => write_under fun _ hdisk => hdisk.appended h
  all_goals exact fun _ => rfl

theorem appendBoundary_under :
    Keeps (WrittenUnder fence) (appendBoundary boundary) := by
  refine Keeps.bind (write_beside ?_ ?_ ?_) fun _ => write_beside ?_ ?_ ?_
  all_goals exact fun _ => rfl

theorem nowUnixMs_reads {P : Disk → List Disk → Prop} :
    Keeps (fun medium => P medium.disk medium.written) nowUnixMs := by
  intro medium h
  unfold nowUnixMs
  simp only [run_bind, run_get]
  rcases medium.samples with - | ⟨sample | sample, rest⟩
  all_goals exact h

theorem nowUnixMs_under : Keeps (WrittenUnder fence) nowUnixMs :=
  (nowUnixMs_reads (P := fun disk written => (∀ disk ∈ written, Headed fence disk)
    ∧ Headed fence disk)).weaken (fun _ h => ⟨h.written, h.disk⟩) (fun _ _ h => ⟨h.1, h.2⟩)
    fun _ _ h => ⟨h.1, h.2⟩

end

namespace Store

section

variable {fence : Nat} {site : Site} {α : Type}

theorem onMedium_under {x : Program PersistenceError Medium α} (h : Keeps (WrittenUnder fence) x) :
    Keeps (Under fence) (onMedium x) := by
  refine Triple.zoom fun store hstore => h.weaken ?_ ?_ ?_
  · rintro medium rfl
    exact hstore.medium
  · exact fun _ medium hmedium => ⟨hmedium, hstore.token, hstore.held, hstore.enabled⟩
  · exact fun _ medium hmedium => ⟨hmedium, hstore.token, hstore.held, hstore.enabled⟩

variable {Q : α → Store → Prop}

theorem read_under {k : Store → Program PersistenceError Store α}
    (hk : ∀ store : Store, store.fencingToken = fence → store.lifecycle.fencingToken = fence →
      Triple (Under fence) (k store) Q fun _ => Under fence) :
    Triple (Under fence) (get >>= k) Q fun _ => Under fence :=
  Triple.bind_get fun read h => hk read h.token h.held

theorem trustedUnixMillis_under : Keeps (Under fence) trustedUnixMillis :=
  (onMedium_under nowUnixMs_under).bind fun _ => Keeps.get.bind fun _ => Keeps.lift.bind fun _ =>
    .bind (.modify fun _ h => ⟨⟨h.medium.written, h.medium.disk⟩, h.token, h.held, h.enabled⟩)
      fun _ => .pure

theorem adopt_under (h : lifecycle.fencingToken = fence) :
    Keeps (Under fence) (adopt lifecycle) :=
  (onMedium_under (writeLifecycle_under h)).bind fun _ =>
    .modify fun _ hstore => ⟨hstore.medium, hstore.token, h, hstore.enabled⟩

theorem readCurrentLease_under : Keeps (Under fence) readCurrentLease :=
  Keeps.get.bind fun _ => .lift

variable {found : CellLifecycleRecord} {nowUnixMs : Nat}

theorem fence_of_validateLiveLeaseRecord {expected}
    (h : validateLiveLeaseRecord expected fence found nowUnixMs = .ok ()) :
    found.fencingToken = fence := by
  simp only [validateLiveLeaseRecord, bind_eq_ok, rejectIf_eq_ok, not_not] at h
  obtain ⟨_, hfence, -⟩ := h
  exact hfence

variable {state : WorldState}

theorem fence_of_reconciled {reconciled} {host : Host}
    (h : found.reconciled host state nowUnixMs = .ok reconciled) :
    reconciled.fencingToken = found.fencingToken := by
  simp only [CellLifecycleRecord.reconciled, bind_eq_ok, pure_eq_ok] at h
  obtain ⟨settled, hsettled, _, -, _, -, _, -, rfl⟩ := h
  show settled.fencingToken = _
  unfold CellLifecycleRecord.settlePending at hsettled
  split at hsettled
  · rw [← Except.ok.inj hsettled]
  · split_ifs at hsettled <;> rw [← Except.ok.inj hsettled]

theorem renewLease_under : Keeps (Under fence) renewLease := by
  refine Keeps.bind readCurrentLease_under fun found => (onMedium_under nowUnixMs_under).bind fun _ =>
    read_under fun store hfence _ => Triple.bind Keeps.lift fun now => ?_
  refine Triple.bind_lift (fun _ _ _ h => h) fun _ hlive =>
    Keeps.lift.bind fun _ => Keeps.lift.bind fun _ => ?_
  have hfound : found.fencingToken = fence := hfence ▸ fence_of_validateLiveLeaseRecord hlive
  have hclock : Keeps (Under fence)
      (modify fun store => { store with lastTrustedUnixMs := now } :
        Program PersistenceError Store Unit) :=
    .modify fun _ h => ⟨⟨h.medium.written, h.medium.disk⟩, h.token, h.held, h.enabled⟩
  exact .ite (Keeps.lift.bind fun _ => Keeps.bind (adopt_under hfound) fun _ => hclock) hclock

theorem remainingLease_under : Keeps (Under fence) remainingLease :=
  Keeps.bind renewLease_under fun _ => Keeps.bind trustedUnixMillis_under fun _ =>
    Keeps.bind readCurrentLease_under fun _ => Keeps.get.bind fun _ => Keeps.lift.bind fun _ =>
    Keeps.lift.bind fun _ => .pure

theorem verifyLiveLeaseForWrite_under : Keeps (Under fence) verifyLiveLeaseForWrite := by
  have hattempts : Keeps (Under fence) leaseAttempts :=
    Keeps.bind remainingLease_under fun _ => .ite .pure
      (Keeps.bind remainingLease_under fun _ => .ite .pure .throw)
  exact Keeps.get.bind fun _ => .unless hattempts

theorem persistLifecycle_under (h : lifecycle.fencingToken = fence) :
    Keeps (Under fence) (persistLifecycle lifecycle) :=
  Keeps.bind trustedUnixMillis_under fun _ => Keeps.get.bind fun _ => Keeps.lift.bind fun _ =>
    .unless (adopt_under h)

theorem guard_under {c : Prop} [Decidable c] {e : PersistenceError}
    {f : Unit → Program PersistenceError Store α}
    (h : ¬ c → Triple (Under fence) (f ()) Q fun _ => Under fence) :
    Triple (Under fence) (if c then throw e >>= f else f ()) Q fun _ => Under fence :=
  .ite (fun _ => .bind_throw fun _ hstore => hstore) h

theorem appendEvent_under :
    Keeps (Under fence) (appendEvent site event) := by
  refine Keeps.bind verifyLiveLeaseForWrite_under fun _ => read_under fun store hfence _ => ?_
  refine guard_under fun hevent => Keeps.unless (onMedium_under (appendJournal_under ?_))
  exact (not_not.mp hevent).trans hfence

theorem commitBoundary_under :
    Keeps (Under fence) (commitBoundary boundary) :=
  (onMedium_under appendBoundary_under).bind fun _ =>
    .modify fun _ h => { h with }

theorem commitWorldEvent_under {next : Option ProductionScheduleOccurrence} :
    Keeps (Under fence) (commitWorldEvent site event state next) := by
  have hconcluded : Keeps (Under fence) (do
      let now ← trustedUnixMillis
      let store ← get
      persistLifecycle (({ store.lifecycle with
        nextProductionOccurrence := next
        pendingWorldCommit := none }.atFrontier site.host state).stamped now)) :=
    Keeps.bind trustedUnixMillis_under fun _ => read_under fun _ _ hheld => persistLifecycle_under hheld
  refine Keeps.bind verifyLiveLeaseForWrite_under fun _ => Keeps.get.bind fun _ => .unless (.unless ?_)
  refine Keeps.lift.bind fun _ => Keeps.bind trustedUnixMillis_under fun now =>
    read_under fun store _ hheld => Keeps.bind (persistLifecycle_under hheld) fun _ => ?_
  refine Keeps.lift.bind fun unlinked => Keeps.get.bind fun _ => ?_
  cases unlinked with
  | none => exact Keeps.bind appendEvent_under fun _ => hconcluded
  | some boundary =>
    exact .unless (Keeps.bind appendEvent_under fun _ => Keeps.bind commitBoundary_under fun _ => hconcluded)

theorem acknowledgeProductionSequence_under :
    Keeps (Under fence) (acknowledgeProductionSequence site state) := by
  have hwritten : Keeps (Under fence) (do
      let now ← trustedUnixMillis
      let store ← get
      persistLifecycle ({ store.lifecycle with
        acknowledgedProductionSequence :=
          state.productionClock.lastCommittedQuantumSequence }.stamped now)) :=
    Keeps.bind trustedUnixMillis_under fun _ => read_under fun _ _ hheld => persistLifecycle_under hheld
  exact Keeps.bind verifyLiveLeaseForWrite_under fun _ => Keeps.get.bind fun _ => .ite .pure
    (.unless hwritten)

theorem saveSnapshot_under :
    Keeps (Under fence) (saveSnapshot site state) := by
  refine Keeps.bind verifyLiveLeaseForWrite_under fun _ => read_under fun store hfence _ => ?_
  refine guard_under fun hstate => Keeps.unless (Keeps.lift.bind fun _ => ?_)
  refine Keeps.bind (onMedium_under (write_under fun disk hdisk => hdisk.saved ?_)) fun _ =>
    Keeps.bind trustedUnixMillis_under fun _ => read_under fun _ _ hheld => persistLifecycle_under hheld
  exact (not_not.mp hstate).trans hfence

/-! ## Modes -/

theorem revised_under {k : CellLifecycleRecord → Program PersistenceError Store α}
    (hk : ∀ lifecycle : CellLifecycleRecord, lifecycle.fencingToken = fence →
      Triple (Under fence) (k lifecycle) Q fun _ => Under fence) :
    Triple (Under fence) (do
      let store ← get
      let revised ← lift id store.lifecycle.revise
      k revised) Q fun _ => Under fence := by
  refine read_under fun store _ hheld => Triple.bind_lift (fun _ _ _ h => h)
    fun revised hrevised => hk revised ?_
  obtain ⟨_, rfl⟩ := revise_eq_ok hrevised
  exact hheld

variable {desiredMode observedMode : LifecycleMode}

theorem enterMode_under
    {activationCutoff : Nat → Option Nat} :
    Keeps (Under fence) (enterMode site desiredMode observedMode activationCutoff state) :=
  Keeps.bind trustedUnixMillis_under fun _ => revised_under fun _ h => persistLifecycle_under h

theorem publishActive_under :
    Keeps (Under fence) (publishActive site state) :=
  Keeps.bind verifyLiveLeaseForWrite_under fun _ => Keeps.get.bind fun _ => .ite .pure enterMode_under

theorem transitionMode_under :
    Keeps (Under fence) (transitionMode site desiredMode observedMode state) :=
  Keeps.bind verifyLiveLeaseForWrite_under fun _ => Keeps.get.bind fun _ => .ite .pure
    (.unless enterMode_under)

theorem restoreBackground_under :
    Keeps (Under fence) (restoreBackground site state) :=
  Keeps.bind verifyLiveLeaseForWrite_under fun _ => Keeps.bind enterMode_under fun _ => .pure

theorem fallAsleep_under :
    Triple (Under fence) (fallAsleep site state) (fun _ => LetGo fence)
      fun _ => Under fence := by
  refine Triple.bind saveSnapshot_under fun _ => Triple.bind trustedUnixMillis_under fun now =>
    revised_under fun lifecycle h => ?_
  refine Triple.bind (R := fun _ store => Under fence store
      ∧ store.lifecycle.expiresAtUnixMs = none) ?_ fun _ =>
    .modify fun _ hstore => ⟨hstore.1.medium, hstore.1.token, rfl, hstore.2⟩
  have hadopt : Keeps (Under fence)
      (adopt ((lifecycle.asleep.atFrontier site.host state).stamped now)) := adopt_under h
  intro store hstore
  exact ⟨hadopt store hstore, rfl⟩

theorem releaseToSleeping_under :
    Triple (Under fence) (releaseToSleeping site state) (fun _ => LetGo fence)
      fun _ => Under fence :=
  Triple.bind Keeps.get fun _ => guard_under fun _ => fallAsleep_under

theorem restoreSleeping_under :
    Triple (Under fence) (restoreSleeping site state) (fun _ => LetGo fence)
      fun _ => Under fence :=
  Triple.bind Keeps.get fun _ => guard_under fun _ => Triple.bind fallAsleep_under fun _ =>
    .pure fun _ h => h

theorem restoreRecoveredHostMode_under :
    Triple (Under fence) (restoreRecoveredHostMode site state) (fun _ => UnderOrLetGo fence)
      fun _ => Under fence := by
  have hasleep : Triple (Under fence) (restoreSleeping site state) (fun _ => UnderOrLetGo fence)
      fun _ => Under fence :=
    Triple.post restoreSleeping_under fun _ _ h => .inr h
  have hbackground : Triple (Under fence) (restoreBackground site state)
      (fun _ => UnderOrLetGo fence) fun _ => Under fence :=
    Triple.post restoreBackground_under fun _ _ h => .inl h
  refine Triple.bind Keeps.get fun store => ?_
  cases store.recoveredObservedMode with
  | none => exact .pure fun _ h => .inl h
  | some mode =>
    cases mode with
    | sleeping => exact hasleep
    | background => exact hbackground
    | activating | active => exact .pure fun _ h => .inl h
    | draining =>
      exact Triple.bind Keeps.lift fun _ => Triple.bind
        (.modify fun _ h => { h with }) fun _ =>
        .ite (fun _ => hbackground) fun _ => hasleep

/-! ## Loading -/

theorem loadWorldBeforeLifecycleReconciliation_under :
    Keeps (Under fence) (loadWorldBeforeLifecycleReconciliation site) := by
  have hcut : Keeps (WrittenUnder fence) (write fun disk => { disk with journalTorn := false }) :=
    write_beside (fun _ => rfl) (fun _ => rfl) fun _ => rfl
  exact Keeps.get.bind fun _ => Keeps.lift.bind fun _ =>
    .ite ((onMedium_under hcut).bind fun _ => .lift) .lift

theorem reconcileLifecycleWithWorld_under :
    Keeps (Under fence) (reconcileLifecycleWithWorld site state) := by
  refine Keeps.bind readCurrentLease_under fun found => Keeps.bind trustedUnixMillis_under fun now =>
    read_under fun store hfence _ => ?_
  refine Triple.bind_lift (fun _ _ _ h => h) fun _ hlive => Triple.bind_lift (fun _ _ _ h => h)
    fun reconciled hreconciled => persistLifecycle_under ?_
  rw [fence_of_reconciled hreconciled, ← hfence]
  exact fence_of_validateLiveLeaseRecord hlive

theorem loadWorld_under {heartbeats : Nat} : Keeps (Under fence) (loadWorld site heartbeats) := by
  refine (Keeps.times renewLease_under heartbeats).bind fun _ => ?_
  refine Triple.bind (R := fun _ => Under fence)
    (loadWorldBeforeLifecycleReconciliation_under.attempt.weaken (fun _ h => h) ?_
      fun _ _ h => h.elim) fun loaded => Keeps.bind renewLease_under fun _ => Keeps.lift.bind fun _ =>
    Keeps.bind reconcileLifecycleWithWorld_under fun _ => .pure
  intro loaded store h
  cases loaded with
  | ok state | error e => exact h

end
end Store

/-! ## Taking a cell -/

section

variable {site : Site} {disk : Disk}

variable {fence : Nat}

theorem le_historicalFence {snapshotSequence snapshotFence line previous : Nat} {journal}
    (h : historicalFence snapshotSequence snapshotFence line previous journal = .ok fence) :
    previous ≤ fence ∧ ∀ event ∈ journal, event.authorityFencingToken ≤ fence := by
  induction journal generalizing line previous with
  | nil =>
    obtain rfl : previous = fence := by simpa [historicalFence, pure_eq_ok] using h
    exact ⟨Nat.le_refl _, by simp⟩
  | cons event rest ih =>
    simp only [historicalFence, validateHistoricalFence, bind_eq_ok, rejectIf_eq_ok] at h
    obtain ⟨_, ⟨_, hafter, -⟩, hrest⟩ := h
    obtain ⟨hevent, hjournal⟩ := ih hrest
    refine ⟨by omega, ?_⟩
    intro written hwritten
    rcases List.mem_cons.mp hwritten with rfl | hlater
    · exact hevent
    · exact hjournal written hlater

theorem le_recoverPersistedFencingFrontier
    (h : recoverPersistedFencingFrontier disk = .ok fence) :
    (∀ event ∈ disk.journal, event.authorityFencingToken ≤ fence)
      ∧ ∀ snapshot ∈ disk.snapshot, snapshot.state.fencingToken ≤ fence := by
  cases hsnapshot : disk.snapshot with
  | none =>
    simp only [recoverPersistedFencingFrontier, hsnapshot, bind_eq_ok, pure_eq_ok] at h
    obtain ⟨_, rfl, historical, hhistorical, rfl⟩ := h
    refine ⟨fun event hevent => ?_, by simp⟩
    exact ((le_historicalFence hhistorical).2 event hevent).trans (Nat.le_max_right _ _)
  | some snapshot =>
    simp only [recoverPersistedFencingFrontier, hsnapshot, bind_eq_ok, pure_eq_ok] at h
    obtain ⟨_, _, _, rfl, historical, hhistorical, rfl⟩ := h
    refine ⟨fun event hevent => ?_, ?_⟩
    · exact ((le_historicalFence hhistorical).2 event hevent).trans (Nat.le_max_right _ _)
    · intro found hfound
      obtain rfl : snapshot = found := by simpa using hfound
      exact Nat.le_max_left _ _

/-- The fence a process takes a cell with is past every fence on record. -/
theorem issued_of_recovered {previous} {recoveredFence : Nat}
    (hprevious : previousLifecycle site disk = .ok previous)
    (hrecovered : recoverPersistedFencingFrontier disk = .ok recoveredFence)
    (hfence : fence = previous.elim recoveredFence (fun lifecycle =>
      max lifecycle.fencingToken recoveredFence) + 1) : Issued disk fence := by
  obtain ⟨hjournal, hsnapshot⟩ := le_recoverPersistedFencingFrontier hrecovered
  have hreached : recoveredFence < fence
      ∧ ∀ lifecycle ∈ previous, lifecycle.fencingToken < fence := by
    cases previous with
    | none => simp [hfence]
    | some lifecycle =>
      simp only [Option.elim_some] at hfence
      have hfirst := Nat.le_max_left lifecycle.fencingToken recoveredFence
      have hsecond := Nat.le_max_right lifecycle.fencingToken recoveredFence
      refine ⟨by omega, fun held hheld => ?_⟩
      obtain rfl : lifecycle = held := by simpa using hheld
      omega
  have hheld : disk.lifecycle = previous := by
    unfold previousLifecycle at hprevious
    split at hprevious
    · simp only [bind_eq_ok, pure_eq_ok] at hprevious
      obtain ⟨_, -, rfl⟩ := hprevious
      assumption
    · simp only [bind_eq_ok, pure_eq_ok] at hprevious
      obtain ⟨_, -, rfl⟩ := hprevious
      assumption
  intro recorded hrecorded
  simp only [Disk.fences, List.mem_append, List.mem_map, Option.mem_toList,
    Option.map_eq_some_iff] at hrecorded
  rcases hrecorded with (⟨event, hevent, rfl⟩ | ⟨snapshot, hfound, rfl⟩) | ⟨lifecycle, hfound, rfl⟩
  · exact (hjournal event hevent).trans_lt hreached.1
  · exact (hsnapshot snapshot hfound).trans_lt hreached.1
  · rw [hheld] at hfound
    exact hreached.2 lifecycle hfound

/-- A medium that is still as it was, or has been taken under a new fence. -/
def TakenOrNot (disk : Disk) (medium : Medium) : Prop :=
  (medium.disk = disk ∧ medium.written = [])
    ∨ ∃ fence, Issued disk fence ∧ WrittenUnder fence medium

/-- Taking a cell issues a new fence, and writes nothing but under it. -/
theorem openForCell_under {holderId : String} (hin : InOrder disk) :
    Triple (fun medium => medium.disk = disk ∧ medium.written = []) (openForCell site holderId)
      (fun writer medium => Issued disk writer.fencingToken
        ∧ Under writer.fencingToken { toMedium := medium, toWriter := writer })
      fun _ => TakenOrNot disk := by
  have hread : ∀ {α : Type} {y : Persisted α},
      Triple (fun medium => medium.disk = disk ∧ medium.written = [])
        (lift id y : Program PersistenceError Medium α)
        (fun a medium => y = .ok a ∧ medium.disk = disk ∧ medium.written = [])
        fun _ => TakenOrNot disk :=
    .lift (fun _ hy _ h => ⟨hy, h⟩) fun _ _ _ h => .inl h
  refine Triple.bind (R := fun (read : Medium) medium => read.disk = disk ∧ medium.disk = disk
    ∧ medium.written = []) (.get fun _ h => ⟨h.1, h⟩) fun read => .given fun hdisk => ?_
  rw [hdisk]
  refine Triple.bind hread fun previous => .given fun hprevious => Triple.bind hread
    fun recoveredFence => .given fun hrecovered => Triple.bind hread fun lifecycleRevision =>
    .given fun _ => Triple.bind hread fun fencingToken => .given fun hfence => ?_
  obtain ⟨-, hfence⟩ := checkedAdd_eq_some.mp (demand_eq_ok.mp hfence)
  have hissued : Issued disk fencingToken := issued_of_recovered hprevious hrecovered hfence.symm
  refine Triple.bind (R := fun _ medium => medium.disk = disk ∧ medium.written = [])
    ((nowUnixMs_reads (P := fun found written => found = disk ∧ written = [])).fail
      fun _ _ h => .inl h) fun sample =>
    Triple.bind hread fun acquiredAtUnixMs => .given fun _ => Triple.bind hread
    fun expiresAtUnixMs => .given fun _ => ?_
  generalize hlifecycle : CellLifecycleRecord.acquired previous site.manifest site.cellId holderId
    lifecycleRevision fencingToken acquiredAtUnixMs expiresAtUnixMs = lifecycle
  have htoken : lifecycle.fencingToken = fencingToken := by rw [← hlifecycle]; rfl
  have htaken : ∀ {α : Type} {x : Program PersistenceError Medium α},
      Keeps (WrittenUnder fencingToken) x →
      Triple (WrittenUnder fencingToken) x (fun _ => WrittenUnder fencingToken)
        fun _ => TakenOrNot disk :=
    fun h => h.fail fun _ _ h => .inr ⟨fencingToken, hissued, h⟩
  refine Triple.bind (R := fun _ => WrittenUnder fencingToken) ?_ fun _ => ?_
  · rintro medium ⟨rfl, hwritten⟩
    have hheaded := htoken ▸ (htoken ▸ hissued : Issued _ lifecycle.fencingToken).headed hin
    exact ⟨by simpa [hwritten] using hheaded, hheaded⟩
  have hmended : Keeps (WrittenUnder fencingToken)
      (write fun disk => { disk with boundariesTorn := false }) :=
    write_beside (fun _ => rfl) (fun _ => rfl) fun _ => rfl
  exact .only (fun _ => htaken hmended) (fun _ _ h => h) (boundaries_triple (htaken .lift)
    (fun _ => htaken appendBoundary_under) (fun _ => htaken (writeLifecycle_under htoken))
    (fun _ _ h => h) fun _ _ h => ⟨hissued, h, rfl, htoken, rfl⟩)

end
end Verse.Persistence
