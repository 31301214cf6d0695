import Verse.Persistence.History

/-!
# A store that keeps the history

Every content a disk has had tells a history, and its record stands to it. The store sees to
that one write at a time: an announced event is appended only after the announcement, and the
record goes on only after the event. So whatever write was the last before a crash, what is
left is sound.

`Holds s q` is what a store keeps while the world in memory is `s`. The condition `q` is about
the parts of the journal and the record that only a commit changes, so that whatever is known
of them survives everything else: one proof for each operation, and as many uses as conditions.
-/

namespace Verse.Persistence

open Lib Lib.Program

/-- A record beside a disk whose history has come to this world. -/
structure Kept (site : Site) (first : WorldState) (disk : Disk) (lifecycle : CellLifecycleRecord)
    (w : WorldState) : Prop where
  lived : Lived site first disk.journal w
  snapshot : SnapshotLived site first disk
  stands : Stands site first disk.journal w lifecycle

/-- A disk that was never taken, or whose record stands to its history. -/
def Sound (site : Site) (first : WorldState) (disk : Disk) : Prop :=
  match disk.lifecycle with
  | none => disk.snapshot = none ∧ disk.journal = []
  | some lifecycle => ∃ w, Kept site first disk lifecycle w

/-- What may be known of the parts of a store that only a commit changes: its fence, the journal,
    and of the record the announcement and the schedule. -/
abbrev Known := (fencingToken : Nat) → (journal : List CanonicalEvent) →
  (pending : Option PendingWorldCommit) → (schedule : Option ProductionScheduleOccurrence) → Prop

/-- What a store keeps while the world in memory, one of the history's, is `s`. -/
structure Holds (site : Site) (first s : WorldState)
    (q : Known) (store : Store) : Prop where
  written : ∀ disk ∈ store.written, Sound site first disk
  /-- The record in memory is the one on disk, but for a boundary it has gone past. -/
  onDisk : ∃ head,
    store.disk.lifecycle = some { store.lifecycle with transferBoundaryHeadHash := head }
  kept : ∃ w, Kept site first store.disk store.lifecycle w
  memory : ∃ earlier later, store.disk.journal = earlier ++ later ∧ Lived site first earlier s
  also : q store.fencingToken store.disk.journal store.lifecycle.pendingWorldCommit
    store.lifecycle.nextProductionOccurrence

/-- A record that says of the history what another one says, or says it of a world in memory. -/
structure Follows (site : Site) (s : WorldState) (lifecycle next : CellLifecycleRecord) :
    Prop where
  pending : next.pendingWorldCommit = lifecycle.pendingWorldCommit
  schedule : next.nextProductionOccurrence = lifecycle.nextProductionOccurrence
  frontier : next.frontier = lifecycle.frontier
    ∨ next.frontier = { lifecycle.frontier with
        eventSequence := s.eventSequence
        eventHash := s.lastEventHash
        stateHash := s.stateHash site.host }
    ∨ next.frontier = { lifecycle.frontier with
        acknowledged := s.productionClock.lastCommittedQuantumSequence }

variable {site : Site} {first s : WorldState}
  {q : Known}

/-! ## Records that follow one another -/

section Following

variable {journal earlier later : List CanonicalEvent} {w : WorldState} {frontier : Frontier}
  {next : Option ProductionScheduleOccurrence} {lifecycle lifecycle' : CellLifecycleRecord}

theorem Agrees.atFrontier (h : Agrees site first journal w frontier next)
    (hsplit : journal = earlier ++ later) (hw : Lived site first journal w)
    (hs : Lived site first earlier s) :
    Agrees site first journal w { frontier with
      eventSequence := s.eventSequence
      eventHash := s.lastEventHash
      stateHash := s.stateHash site.host } next := by
  subst hsplit
  have hcounted := hs.eventSequence
  have hreached := hw.eventSequence
  rw [List.length_append] at hreached
  refine { h with behind := ?_, level := ?_ }
  · show s.eventSequence ≤ w.eventSequence
    omega
  · intro hlevel
    have hnone : later = [] := by
      have : s.eventSequence = w.eventSequence := hlevel
      exact List.eq_nil_of_length_eq_zero (by omega)
    subst hnone
    rw [List.append_nil] at hw
    have hsame := hs.unique hw
    exact ⟨.inr (congrArg WorldState.lastEventHash hsame :),
      .inr (congrArg site.host.stateHash hsame)⟩

theorem Agrees.acknowledge (h : Agrees site first (earlier ++ later) w frontier next)
    (hw : Lived site first (earlier ++ later) w) (hs : Lived site first earlier s) :
    Agrees site first (earlier ++ later) w { frontier with
      acknowledged := s.productionClock.lastCommittedQuantumSequence } next :=
  { h with acknowledged := hs.committed_le hw }

theorem Follows.agrees (h : Follows site s lifecycle lifecycle')
    (hw : Lived site first (earlier ++ later) w) (hs : Lived site first earlier s)
    (hagrees : Agrees site first (earlier ++ later) w lifecycle.frontier next) :
    Agrees site first (earlier ++ later) w lifecycle'.frontier next := by
  rcases h.frontier with hsame | hlevel | hacknowledged
  · rw [hsame]
    exact hagrees
  · rw [hlevel]
    exact hagrees.atFrontier rfl hw hs
  · rw [hacknowledged]
    exact hagrees.acknowledge hw hs

theorem Follows.stands (h : Follows site s lifecycle lifecycle')
    (hw : Lived site first (earlier ++ later) w) (hs : Lived site first earlier s)
    (hstands : Stands site first (earlier ++ later) w lifecycle) :
    Stands site first (earlier ++ later) w lifecycle' := by
  unfold Stands at hstands ⊢
  rw [h.pending, h.schedule]
  cases hpending : lifecycle.pendingWorldCommit with
  | none =>
    rw [hpending] at hstands
    exact h.agrees hw hs hstands
  | some pending =>
    rw [hpending] at hstands
    rcases hstands with ⟨hbefore, hagrees⟩ | ⟨hat, hhash, hagrees⟩
    · exact .inl ⟨hbefore, h.agrees hw hs hagrees⟩
    · exact .inr ⟨hat, hhash, h.agrees hw hs hagrees⟩

/-- A record changed only in its mode, its holder or its times. -/
theorem Follows.of_eq (hpending : lifecycle'.pendingWorldCommit = lifecycle.pendingWorldCommit)
    (hschedule : lifecycle'.nextProductionOccurrence = lifecycle.nextProductionOccurrence)
    (hfrontier : lifecycle'.frontier = lifecycle.frontier) :
    Follows site s lifecycle lifecycle' :=
  ⟨hpending, hschedule, .inl hfrontier⟩

theorem Follows.level_of_eq {changed : CellLifecycleRecord}
    (hpending : changed.pendingWorldCommit = lifecycle.pendingWorldCommit)
    (hschedule : changed.nextProductionOccurrence = lifecycle.nextProductionOccurrence)
    (hacknowledged : changed.acknowledgedProductionSequence
      = lifecycle.acknowledgedProductionSequence) (nowUnixMs : Nat) :
    Follows site s lifecycle ((changed.atFrontier site.host s).stamped nowUnixMs) := by
  refine ⟨hpending, hschedule, .inr (.inl ?_)⟩
  show Frontier.mk _ _ _ changed.acknowledgedProductionSequence = _
  rw [hacknowledged]
  rfl

theorem Follows.acknowledged (lifecycle : CellLifecycleRecord) (nowUnixMs : Nat) :
    Follows site s lifecycle ({ lifecycle with acknowledgedProductionSequence :=
      s.productionClock.lastCommittedQuantumSequence }.stamped nowUnixMs) :=
  ⟨rfl, rfl, .inr (.inr rfl)⟩

end Following

variable {lifecycle : CellLifecycleRecord}

/-- The end of taking a cell: its boundaries are loaded, and the record is written again if their
    head is another. -/
theorem boundaries_triple {P : Medium → Prop} {P' : String → Medium → Prop}
    {Q : Writer → Medium → Prop} {E : PersistenceError → Medium → Prop} {disk : Disk}
    {writer : LoadedTransferBoundaries → Writer}
    (hload : Triple P (lift id (loadTransferBoundaries site disk lifecycle)) (fun _ => P) E)
    (happend : ∀ boundary, Triple P (appendBoundary boundary) (fun _ => P) E)
    (hwrite : ∀ head, Triple P
      (writeLifecycle { lifecycle with transferBoundaryHeadHash := head }) (fun _ => P' head) E)
    (hsame : ∀ head medium, P medium → P' head medium)
    (hdone : ∀ loaded medium, P' loaded.head medium → Q (writer loaded) medium) :
    Triple P (do
      let loaded ← lift id (loadTransferBoundaries site disk lifecycle)
      match loaded.backfill with
      | some boundary => appendBoundary boundary
      | none => pure ()
      let headed := { lifecycle with transferBoundaryHeadHash := loaded.head }
      if loaded.head ≠ lifecycle.transferBoundaryHeadHash then writeLifecycle headed
      return writer loaded) Q E := by
  refine Triple.bind hload fun loaded => ?_
  have hheaded : Triple P (do
      let headed := { lifecycle with transferBoundaryHeadHash := loaded.head }
      if loaded.head ≠ lifecycle.transferBoundaryHeadHash then writeLifecycle headed
      return writer loaded) Q E :=
    .only (fun _ => hwrite loaded.head) (fun _ => hsame loaded.head) (.pure (hdone loaded))
  cases loaded.backfill with
  | none => exact hheaded
  | some boundary => exact Triple.bind (happend boundary) fun _ => hheaded

/-! ## One write -/

/-- A condition that does not look at the clock. -/
structure Timeless (P : Store → Prop) : Prop where
  samples : ∀ store samples, P store → P { store with samples }
  trusted : ∀ store lastTrustedUnixMs, P store → P { store with lastTrustedUnixMs }

theorem Holds.timeless : Timeless (Holds site first s q) where
  samples _ _ h := { h with }
  trusted _ _ h := { h with }

variable {R : Store → Prop}

theorem Timeless.and {P : Store → Prop} (hP : Timeless P) (hR : Timeless R) :
    Timeless fun store => P store ∧ R store where
  samples store samples h := ⟨hP.samples store samples h.1, hR.samples store samples h.2⟩
  trusted store unixMs h := ⟨hP.trusted store unixMs h.1, hR.trusted store unixMs h.2⟩

/-- A condition on the journal and the record on disk and the record in memory. -/
theorem Timeless.of_files {R : Disk → CellLifecycleRecord → Prop} :
    Timeless fun store => R store.disk store.lifecycle where
  samples _ _ h := h
  trusted _ _ h := h

variable {store : Store}

theorem Holds.sound (h : Holds site first s q store) :
    Sound site first store.disk := by
  obtain ⟨head, hdisk⟩ := h.onDisk
  obtain ⟨w, hkept⟩ := h.kept
  rw [Sound, hdisk]
  exact ⟨w, hkept.lived, hkept.snapshot, hkept.stands⟩

/-- A record written and held. -/
def Store.adopting (store : Store) (lifecycle : CellLifecycleRecord) : Store :=
  { store with
    disk := { store.disk with lifecycle := some lifecycle }
    written := { store.disk with lifecycle := some lifecycle } :: store.written
    lifecycle }

theorem Holds.adopting
    {q' : Known} (h : Holds site first s q store)
    (hstands : ∀ w, Lived site first store.disk.journal w →
      Stands site first store.disk.journal w store.lifecycle →
      Stands site first store.disk.journal w lifecycle)
    (halso : q' store.fencingToken store.disk.journal lifecycle.pendingWorldCommit
      lifecycle.nextProductionOccurrence) :
    Holds site first s q' (store.adopting lifecycle) := by
  obtain ⟨w, hkept⟩ := h.kept
  have hadopted : Kept site first { store.disk with lifecycle := some lifecycle } lifecycle w :=
    ⟨hkept.lived, hkept.snapshot, hstands w hkept.lived hkept.stands⟩
  exact {
    written := List.forall_mem_cons.mpr ⟨⟨w, hadopted⟩, h.written⟩
    onDisk := ⟨lifecycle.transferBoundaryHeadHash, rfl⟩
    kept := ⟨w, hadopted⟩
    memory := h.memory
    also := halso }

theorem Holds.follow
    (h : Holds site first s q store) (hfollows : Follows site s store.lifecycle lifecycle) :
    Holds site first s q (store.adopting lifecycle) := by
  obtain ⟨earlier, later, hjournal, hs⟩ := h.memory
  refine h.adopting (fun w hlived hstands => ?_) ?_
  · rw [hjournal] at hlived hstands ⊢
    exact hfollows.stands hlived hs hstands
  · rw [hfollows.pending, hfollows.schedule]
    exact h.also

namespace Store

theorem adopt_holds
    {E : PersistenceError → Store → Prop} :
    Triple (fun store => Holds site first s q store ∧ Follows site s store.lifecycle lifecycle)
      (adopt lifecycle) (fun _ => Holds site first s q) E :=
  fun _ h => h.1.follow h.2

variable {P : Store → Prop}

theorem nowUnixMs_keeps (hP : Timeless P) : Keeps P (onMedium nowUnixMs) := by
  refine Triple.zoom fun store hstore medium hmedium => ?_
  obtain rfl : medium = store.toMedium := hmedium
  unfold nowUnixMs
  simp only [run_bind, run_get]
  rcases hsamples : store.samples with - | ⟨sample | sample, rest⟩
  · exact hstore
  · exact hP.samples store rest hstore
  · exact hP.samples store rest hstore

theorem trustedUnixMillis_keeps (hP : Timeless P) :
    Keeps P trustedUnixMillis := by
  refine (nowUnixMs_keeps hP).bind fun sample => Keeps.get.bind fun store =>
    Keeps.lift.bind fun accepted => ?_
  exact .bind (.modify fun store hstore => hP.trusted store accepted hstore) fun _ => .pure

/-! ## The lease -/

theorem keeps_left {α : Type} {x : Program PersistenceError Store α}
    (h : Keeps (fun store => P store ∧ R store) x) :
    Triple (fun store => P store ∧ R store) x (fun _ store => P store ∧ R store) fun _ => P :=
  h.fail fun _ _ h => h.1

theorem persistLifecycle_spec {Q : Store → Prop}
    (hP : Timeless P) (hadopted : ∀ store, P store → Q (store.adopting lifecycle)) :
    Triple P (persistLifecycle lifecycle) (fun _ => Q) fun _ => P := by
  have hadopt : Triple P (adopt lifecycle) (fun _ => Q) fun _ => P := hadopted
  refine Triple.bind (trustedUnixMillis_keeps hP) fun now => Triple.bind Keeps.get
    fun store => Triple.bind Keeps.lift fun expires => ?_
  exact .ite (fun _ => .bind (.throw fun _ h => h) fun _ => hadopt) fun _ => hadopt

theorem persistLifecycle_holds :
    Triple (fun store => Holds site first s q store ∧ Follows site s store.lifecycle lifecycle)
      (persistLifecycle lifecycle) (fun _ => Holds site first s q)
      fun _ => Holds site first s q :=
  (persistLifecycle_spec (Holds.timeless.and
      (Timeless.of_files (R := fun _ held => Follows site s held lifecycle)))
    fun _ h => h.1.follow h.2).fail fun _ _ h => h.1

theorem readCurrentLease_spec :
    Triple P readCurrentLease (fun found store => P store ∧ store.disk.lifecycle = some found)
      fun _ => P := by
  refine Triple.bind_part (·.disk) fun read => .lift ?_ fun _ _ _ h => h.1
  intro found hfound store h
  exact ⟨h.1, h.2 ▸ (by simpa using hfound)⟩

theorem eq_of_validateLiveLeaseRecord {expected found} {fencingToken nowUnixMs : Nat}
    (h : validateLiveLeaseRecord expected fencingToken found nowUnixMs = .ok ()) :
    found = expected := by
  simp only [validateLiveLeaseRecord, bind_eq_ok, rejectIf_eq_ok, not_or, not_not] at h
  obtain ⟨-, -, -, ⟨-, heq⟩, -⟩ := h
  exact heq

theorem renewLease_keeps : Keeps (Holds site first s q) renewLease := by
  refine Triple.bind readCurrentLease_spec fun found => Triple.bind
    (keeps_left (nowUnixMs_keeps (Holds.timeless.and
      (Timeless.of_files (R := fun disk _ => disk.lifecycle = some found))))) fun sample => ?_
  refine Triple.bind (R := fun (read : Store) store =>
    Holds site first s q store ∧ store.lifecycle = read.lifecycle) (.get fun _ h => ⟨h.1, rfl⟩)
    fun read => Triple.bind (keeps_left .lift) fun now => ?_
  refine Triple.bind (R := fun _ store => Holds site first s q store ∧ store.lifecycle = found)
    (.lift ?_ fun _ _ _ h => h.1) fun _ => Triple.bind (keeps_left .lift) fun renewed =>
    Triple.bind (keeps_left .lift) fun expires => ?_
  · intro _ hlive store h
    exact ⟨h.1, h.2.trans (eq_of_validateLiveLeaseRecord hlive).symm⟩
  have hclock : Triple (Holds site first s q)
      (modify fun store => { store with lastTrustedUnixMs := now })
      (fun _ => Holds site first s q) fun (_ : PersistenceError) => Holds site first s q :=
    .modify fun store h => Holds.timeless.trusted store now h
  refine .ite (fun _ => Triple.bind (keeps_left .lift) fun extended => Triple.bind ?_ fun _ => hclock)
    fun _ => hclock.pre fun _ h => h.1
  refine Triple.pre adopt_holds fun store h => ⟨h.1, ?_⟩
  exact h.2 ▸ Follows.of_eq rfl rfl rfl

theorem remainingLease_keeps : Keeps (Holds site first s q) remainingLease :=
  Keeps.bind renewLease_keeps fun _ => (trustedUnixMillis_keeps Holds.timeless).bind fun _ =>
    (Triple.post readCurrentLease_spec fun _ _ h => h.1).bind fun _ =>
    Keeps.get.bind fun _ => Keeps.lift.bind fun _ => Keeps.lift.bind fun _ => .pure

theorem verifyLiveLeaseForWrite_keeps : Keeps (Holds site first s q) verifyLiveLeaseForWrite := by
  have hattempts : Keeps (Holds site first s q) leaseAttempts :=
    Keeps.bind remainingLease_keeps fun _ => .ite .pure
      (Keeps.bind remainingLease_keeps fun _ => .ite .pure .throw)
  exact Keeps.get.bind fun _ => .unless hattempts

/-! ## Saving, acknowledging and changing mode

None of these touches the journal or the schedule. -/

theorem persistFrom_holds {g : Store → CellLifecycleRecord}
    (hfollows : ∀ store, Follows site s store.lifecycle (g store)) :
    Keeps (Holds site first s q) (do
      let store ← get
      persistLifecycle (g store)) := by
  refine Triple.bind_part (·.lifecycle) fun read =>
    Triple.pre persistLifecycle_holds fun store h => ⟨h.1, ?_⟩
  rw [h.2]
  exact hfollows read

theorem writeSnapshot_holds {snapshot : SnapshotDocument} (hstate : snapshot.state = s) :
    Keeps (Holds site first s q)
      (onMedium (write fun disk => { disk with snapshot := some snapshot })) := by
  refine Triple.zoom fun store h medium hmedium => ?_
  obtain rfl : medium = store.toMedium := hmedium
  obtain ⟨w, hkept⟩ := h.kept
  have hsnapshot : SnapshotLived site first { store.disk with snapshot := some snapshot } := by
    intro found hfound
    obtain rfl : snapshot = found := by simpa using hfound
    rw [hstate]
    exact h.memory
  have hsaved : Kept site first { store.disk with snapshot := some snapshot } store.lifecycle w :=
    ⟨hkept.lived, hsnapshot, hkept.stands⟩
  obtain ⟨head, hdisk⟩ := h.onDisk
  refine ⟨List.forall_mem_cons.mpr ⟨?_, h.written⟩, ⟨head, hdisk⟩, ⟨w, hsaved⟩, h.memory, h.also⟩
  show Sound site first { store.disk with snapshot := some snapshot }
  rw [Sound, hdisk]
  exact ⟨w, hsaved.lived, hsaved.snapshot, hsaved.stands⟩

theorem saveSnapshot_keeps : Keeps (Holds site first s q) (saveSnapshot site s) := by
  have hlevel : ∀ now (store : Store), Follows site s store.lifecycle
      ((store.lifecycle.atFrontier site.host s).stamped now) := by
    intro now store
    apply Follows.level_of_eq <;> rfl
  have hsaved : Keeps (Holds site first s q) (do
      lift .invalidPlayerRoster (s.validatePlayerRoster site.host)
      onMedium (write fun disk => { disk with snapshot := some {
        schemaVersion := worldSchemaVersion
        stateHash := s.stateHash site.host
        eventSequence := s.eventSequence
        lastEventHash := s.lastEventHash
        state := s } })
      let now ← trustedUnixMillis
      let store ← get
      persistLifecycle ((store.lifecycle.atFrontier site.host s).stamped now)) :=
    Keeps.lift.bind fun _ => (writeSnapshot_holds (s := s) rfl).bind fun _ =>
      (trustedUnixMillis_keeps Holds.timeless).bind fun now =>
      persistFrom_holds (hlevel now)
  exact Keeps.bind verifyLiveLeaseForWrite_keeps fun _ => Keeps.get.bind fun _ =>
    .unless (.unless hsaved)

theorem acknowledgeProductionSequence_keeps :
    Keeps (Holds site first s q) (acknowledgeProductionSequence site s) := by
  have hwritten : Keeps (Holds site first s q) (do
      let now ← trustedUnixMillis
      let store ← get
      persistLifecycle ({ store.lifecycle with
        acknowledgedProductionSequence :=
          s.productionClock.lastCommittedQuantumSequence }.stamped now)) :=
    (trustedUnixMillis_keeps Holds.timeless).bind fun now =>
      persistFrom_holds fun store => .acknowledged store.lifecycle now
  exact Keeps.bind verifyLiveLeaseForWrite_keeps fun _ => Keeps.get.bind fun _ => .ite .pure
    (.unless hwritten)

theorem revise_eq_ok {revised} (h : lifecycle.revise = .ok revised) :
    ∃ lifecycleRevision, revised = { lifecycle with lifecycleRevision } := by
  simp only [CellLifecycleRecord.revise, bind_eq_ok, pure_eq_ok] at h
  obtain ⟨lifecycleRevision, -, rfl⟩ := h
  exact ⟨lifecycleRevision, rfl⟩

theorem revised_holds {α : Type} {k : CellLifecycleRecord → Program PersistenceError Store α}
    (hk : ∀ lifecycle lifecycleRevision, Triple
      (fun store => Holds site first s q store ∧ store.lifecycle = lifecycle)
      (k { lifecycle with lifecycleRevision }) (fun _ => Holds site first s q)
      fun _ => Holds site first s q) :
    Keeps (Holds site first s q) (do
      let store ← get
      let revised ← lift id store.lifecycle.revise
      k revised) := by
  refine Triple.bind_part (·.lifecycle) fun read => Triple.bind (R := fun revised store =>
      (∃ lifecycleRevision, revised = { read.lifecycle with lifecycleRevision })
        ∧ Holds site first s q store ∧ store.lifecycle = read.lifecycle)
      (.lift ?_ fun _ _ _ h => h.1) fun revised => .given ?_
  · intro revised hrevised store h
    exact ⟨revise_eq_ok hrevised, h⟩
  · rintro ⟨lifecycleRevision, rfl⟩
    exact hk read.lifecycle lifecycleRevision

variable {desiredMode observedMode : LifecycleMode}

theorem enterMode_keeps
    {activationCutoff : Nat → Option Nat} :
    Keeps (Holds site first s q) (enterMode site desiredMode observedMode activationCutoff s) := by
  unfold enterMode
  refine (trustedUnixMillis_keeps Holds.timeless).bind fun now => revised_holds fun lifecycle _ =>
    Triple.pre persistLifecycle_holds fun store h => ⟨h.1, ?_⟩
  rw [h.2]
  apply Follows.level_of_eq <;> rfl

theorem publishActive_keeps : Keeps (Holds site first s q) (publishActive site s) :=
  Keeps.bind verifyLiveLeaseForWrite_keeps fun _ => Keeps.get.bind fun _ => .ite .pure enterMode_keeps

theorem transitionMode_keeps :
    Keeps (Holds site first s q) (transitionMode site desiredMode observedMode s) :=
  Keeps.bind verifyLiveLeaseForWrite_keeps fun _ => Keeps.get.bind fun _ => .ite .pure
    (.unless enterMode_keeps)

theorem fallAsleep_keeps : Keeps (Holds site first s q) (fallAsleep site s) := by
  refine Keeps.bind saveSnapshot_keeps fun _ => (trustedUnixMillis_keeps Holds.timeless).bind fun now =>
    revised_holds fun lifecycle _ => Triple.bind (Triple.pre adopt_holds fun store h => ⟨h.1, ?_⟩)
      fun _ => ?_
  · rw [h.2]
    apply Follows.level_of_eq <;> rfl
  · exact .modify fun store h => { h with }

theorem releaseToSleeping_keeps : Keeps (Holds site first s q) (releaseToSleeping site s) :=
  Keeps.get.bind fun _ => .unless fallAsleep_keeps

theorem restoreSleeping_keeps : Keeps (Holds site first s q) (restoreSleeping site s) :=
  Keeps.get.bind fun _ => .unless (Keeps.bind fallAsleep_keeps fun _ => .pure)

theorem restoreBackground_keeps : Keeps (Holds site first s q) (restoreBackground site s) :=
  Keeps.bind verifyLiveLeaseForWrite_keeps fun _ => Keeps.bind enterMode_keeps fun _ => .pure

theorem restoreRecoveredHostMode_keeps :
    Keeps (Holds site first s q) (restoreRecoveredHostMode site s) := by
  refine Keeps.get.bind fun store => ?_
  rcases store.recoveredObservedMode with - | - | - | - | - | -
  · exact .pure
  · exact restoreSleeping_keeps
  · exact .pure
  · exact restoreBackground_keeps
  · exact .pure
  · exact Keeps.lift.bind fun _ => .bind
      (.modify fun store h => { h with }) fun _ =>
      .ite restoreBackground_keeps restoreSleeping_keeps

end Store
end Verse.Persistence
