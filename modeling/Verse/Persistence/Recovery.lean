import Verse.Persistence.Tended

/-!
# Committing an event, and opening what was left

A commit makes four writes that a crash may come between: the announcement, the line of the
journal, the line of the boundary journal if there is one, and the record of how far the world
has come. Each leaves the disk sound, and once the last is made the store is level with the
world the event led to.

Opening a disk goes the same way. The record of the new holder says of the world what the old
one said, loading finds the last world of the history, and reconciling makes the record level
with it.
-/

namespace Verse.Persistence

open Lib Lib.Program
open WorldState (applyEvent)

variable {site : Site} {first s next : WorldState} {event : CanonicalEvent}
  {durable nextOccurrence : Option ProductionScheduleOccurrence} {priorRunnable : Bool}

/-- Nothing is announced, and the history has come to this world. -/
def Level (site : Site) (first s : WorldState) : Known := fun _ journal pending _ =>
  pending = none ∧ Lived site first journal s

/-- Nothing more is known. -/
def Tended : Known := fun _ _ _ _ => True

variable {q : Known} {store : Store}

theorem Holds.tended
    (h : Holds site first s q store) : Holds site first s Tended store :=
  { h with also := trivial }

theorem sealed_of_applyEvent {host : Host} (h : s.applyEvent host event = .ok next) :
    event.eventSequence = s.eventSequence + 1 ∧ next.eventSequence = event.eventSequence
      ∧ next.lastEventHash = event.eventHash := by
  cases WorldState.accepted_of_applyEvent h with
  | intro hydrated admitted effect paid recorded weighed =>
    rw [WorldState.recordOperation_frame recorded]
    exact ⟨admitted.next, rfl, rfl⟩

variable {journal : List CanonicalEvent}

theorem Punctual.last
    (h : Punctual site.host first (journal ++ [event])) (hs : Lived site first journal s)
    (happlied : s.applyEvent site.host event = .ok next) :
    ¬ WakesLate site.host s next event := by
  obtain ⟨v, hrun, hv, hle⟩ := hs
  have hfence := fence_le_of_applyEvent happlied
  have hstep : v.applyEvent site.host event = .ok next := by
    rw [refence_eq hv, WorldState.applyEvent_fenced (hle.trans hfence) hfence, happlied]
  rintro ⟨hnone, hasleep, hawake, hworked, hlate⟩
  have hclock : v.productionClock = s.productionClock :=
    (congrArg WorldState.productionClock hv :)
  have hidle : v.backgroundProductionIsRunnable site.host = .ok false := by
    rw [refence_eq hv, WorldState.backgroundProductionIsRunnable_fenced, hasleep]
  exact h journal event [] v next rfl hrun hstep
    ⟨hnone, hidle, hawake, hclock ▸ hworked, hclock ▸ hlate⟩

theorem Agrees.appended {frontier : Frontier}
    (h : Agrees site first journal s frontier durable) (hs : Lived site first journal s)
    (happlied : s.applyEvent site.host event = .ok next)
    (hprior : s.backgroundProductionIsRunnable site.host = .ok priorRunnable)
    (hresulting : WorldState.resultingNextProductionOccurrence site.host durable priorRunnable
      next event = .ok nextOccurrence) :
    Agrees site first (journal ++ [event]) next frontier nextOccurrence := by
  obtain ⟨hnumber, hsequence, -⟩ := sealed_of_applyEvent happlied
  have hbehind := h.behind
  have hnext := hs.append happlied
  refine {
    behind := by omega
    level := fun hlevel => by omega
    acknowledged := h.acknowledged.trans (hs.committed_le hnext)
    scheduled := scheduled_of_resulting hresulting
    timely := fun hpunctual => ?_ }
  exact timely_of_resulting happlied hprior (h.timely hpunctual.before) hresulting
    (hpunctual.last hs happlied)

/-! ## A commit -/

/-- The announcement of an event. -/
def announcement (event : CanonicalEvent)
    (durable nextOccurrence : Option ProductionScheduleOccurrence) : PendingWorldCommit where
  eventSequence := event.eventSequence
  eventHash := event.eventHash
  occurredAtUnixMs := event.occurredAtUnixMs
  priorNextOccurrence := durable
  resultingNextOccurrence := nextOccurrence

/-- What is known before the announcement. -/
def Ready (site : Site) (first s : WorldState) (durable : Option ProductionScheduleOccurrence) :
    Known := fun _ journal pending schedule =>
  pending = none ∧ Lived site first journal s ∧ schedule = durable

/-- The event is announced. -/
def Announced (site : Site) (first s : WorldState) (pendingCommit : PendingWorldCommit) :
    Known := fun _ journal pending _ =>
  pending = some pendingCommit ∧ Lived site first journal s

variable {w : WorldState}

theorem Holds.remember
    (h : Holds site first s q store) (hw : Lived site first store.disk.journal w) :
    Holds site first w q store :=
  ⟨h.written, h.onDisk, h.kept, ⟨store.disk.journal, [], by simp, hw⟩, h.also⟩

/-- While an event is announced that the history has not come to, the record agrees with the
    history and the old schedule. -/
theorem agrees_of_announced {lifecycle} (hw : Lived site first journal w)
    (hstands : Stands site first journal w lifecycle)
    (hpending : lifecycle.pendingWorldCommit = some (announcement event durable nextOccurrence))
    (hs : Lived site first journal s) (hsequence : s.eventSequence < event.eventSequence) :
    Agrees site first journal s lifecycle.frontier durable := by
  have hsame := hs.unique hw
  have hcounted : w.eventSequence = s.eventSequence := (congrArg WorldState.eventSequence hsame :).symm
  rw [Stands, hpending] at hstands
  rcases hstands with ⟨-, hagrees⟩ | ⟨hat, -, -⟩
  · exact hagrees.refenced hsame
  · have : w.eventSequence = event.eventSequence := hat
    omega

variable {boundary : DurableTransferBoundary}

namespace Store

section

variable {q : Known}

theorem write_keeps (change : Disk → Disk) (hjournal : ∀ disk, (change disk).journal = disk.journal)
    (hsnapshot : ∀ disk, (change disk).snapshot = disk.snapshot)
    (hlifecycle : ∀ disk, (change disk).lifecycle = disk.lifecycle) :
    Keeps (Holds site first s q) (onMedium (write change)) := by
  refine Triple.zoom fun store h medium hmedium => ?_
  obtain rfl : medium = store.toMedium := hmedium
  obtain ⟨w, hkept⟩ := h.kept
  obtain ⟨head, hdisk⟩ := h.onDisk
  have hchanged : ∀ lifecycle, Stands site first store.disk.journal w lifecycle →
      Kept site first (change store.disk) lifecycle w := by
    intro lifecycle hstands
    refine ⟨?_, ?_, ?_⟩
    · rw [hjournal]
      exact hkept.lived
    · rw [SnapshotLived, hsnapshot, hjournal]
      exact hkept.snapshot
    · rw [hjournal]
      exact hstands
  have hfound := (hlifecycle store.disk).trans hdisk
  refine ⟨List.forall_mem_cons.mpr ⟨?_, h.written⟩, ⟨head, hfound⟩,
    ⟨w, hchanged _ hkept.stands⟩, ?_, ?_⟩
  · show Sound site first (change store.disk)
    rw [Sound, hfound]
    exact ⟨w, hchanged _ hkept.stands⟩
  · show ∃ earlier later, (change store.disk).journal = earlier ++ later ∧ _
    rw [hjournal]
    exact h.memory
  · show q _ (change store.disk).journal _ _
    rw [hjournal]
    exact h.also

theorem commitBoundary_keeps :
    Keeps (Holds site first s q) (commitBoundary boundary) := by
  have hwrites : Keeps (Holds site first s q) (onMedium (appendBoundary boundary)) := by
    refine Triple.zoom fun store h medium hmedium => ?_
    obtain rfl : medium = store.toMedium := hmedium
    have htorn : Keeps (Holds site first s q) _ := write_keeps
      (fun disk => { disk with boundariesTorn := true }) (fun _ => rfl) (fun _ => rfl) fun _ => rfl
    have hwhole : Keeps (Holds site first s q) _ := write_keeps
      (fun disk => { disk with
        boundaries := disk.boundaries ++ [boundary], boundariesTorn := false })
      (fun _ => rfl) (fun _ => rfl) fun _ => rfl
    exact hwhole _ (htorn store h)
  refine hwrites.bind fun _ => .modify fun store h => ?_
  obtain ⟨head, hdisk⟩ := h.onDisk
  obtain ⟨w, hkept⟩ := h.kept
  exact ⟨h.written, ⟨head, hdisk⟩, ⟨w, hkept.lived, hkept.snapshot, hkept.stands⟩, h.memory, h.also⟩

end

/-- The announcement: the history has not come to the event yet. -/
theorem announce_spec {x} {Q : Unit → Store → Prop}
    (hsequence : s.eventSequence < event.eventSequence) (hx : Triple (Holds site first s
        (Announced site first s (announcement event durable nextOccurrence))) x Q
      fun _ => Holds site first s Tended) :
    Triple (Holds site first s (Ready site first s durable)) (do
        let now ← trustedUnixMillis
        let store ← get
        persistLifecycle ({ store.lifecycle with
          pendingWorldCommit := some {
            eventSequence := event.eventSequence
            eventHash := event.eventHash
            occurredAtUnixMs := event.occurredAtUnixMs
            priorNextOccurrence := store.lifecycle.nextProductionOccurrence
            resultingNextOccurrence := nextOccurrence } }.stamped now)
        x)
      Q fun _ => Holds site first s Tended := by
  refine Triple.bind ((trustedUnixMillis_keeps Holds.timeless).fail fun _ _ h => h.tended)
    fun now => ?_
  refine Triple.bind_part (·.lifecycle) fun read => ?_
  refine Triple.bind ((persistLifecycle_spec (Holds.timeless.and
    (Timeless.of_files (R := fun _ held => held = read.lifecycle))) ?_).fail
      fun _ _ h => h.1.tended) fun _ => hx
  rintro store ⟨h, hread⟩
  obtain ⟨hpending, hlived, hdurable⟩ := h.also
  rw [← hread, hdurable]
  refine h.adopting (fun w hw hstands => ?_) ⟨rfl, hlived⟩
  rw [Stands, hpending, hdurable] at hstands
  have hcounted : w.eventSequence = s.eventSequence :=
    (congrArg WorldState.eventSequence (hw.unique hlived) :)
  exact .inl ⟨hcounted ▸ hsequence, hstands⟩

theorem conclude_spec (hsequence : next.eventSequence = event.eventSequence) :
    Triple (Holds site first s
        (Announced site first next (announcement event durable nextOccurrence))) (do
        let now ← trustedUnixMillis
        let store ← get
        persistLifecycle (({ store.lifecycle with
          nextProductionOccurrence := nextOccurrence
          pendingWorldCommit := none }.atFrontier site.host next).stamped now))
      (fun _ => Holds site first next (Level site first next))
      fun _ => Holds site first s Tended := by
  refine Triple.bind ((trustedUnixMillis_keeps Holds.timeless).fail fun _ _ h => h.tended)
    fun now => ?_
  refine Triple.bind_part (·.lifecycle) fun read => ?_
  refine (persistLifecycle_spec (Holds.timeless.and
    (Timeless.of_files (R := fun _ held => held = read.lifecycle))) ?_).fail fun _ _ h => h.1.tended
  rintro store ⟨h, hread⟩
  obtain ⟨hpending, hlived⟩ := h.also
  rw [← hread]
  refine (h.remember hlived).adopting (fun w hw hstands => ?_) ⟨rfl, hlived⟩
  have hsame := hw.unique hlived
  have hcounted : w.eventSequence = next.eventSequence := (congrArg WorldState.eventSequence hsame :)
  rw [Stands, hpending] at hstands
  rcases hstands with ⟨hbefore, -⟩ | ⟨-, -, hagrees⟩
  · have : w.eventSequence < event.eventSequence := hbefore
    omega
  · exact hagrees.atFrontier (List.append_nil _).symm hw hlived

section

variable (happlied : s.applyEvent site.host event = .ok next)
  (hprior : s.backgroundProductionIsRunnable site.host = .ok priorRunnable)
  (hresulting : WorldState.resultingNextProductionOccurrence site.host durable priorRunnable next
    event = .ok nextOccurrence)

include happlied hprior hresulting

/-- The line of the journal: now the history has come to the event. -/
theorem appendJournal_spec :
    Triple (Holds site first s (Announced site first s (announcement event durable nextOccurrence)))
      (onMedium (appendJournal event))
      (fun _ => Holds site first s
        (Announced site first next (announcement event durable nextOccurrence)))
      fun _ => Holds site first s Tended := by
  refine Triple.zoom fun store h medium hmedium => ?_
  obtain rfl : medium = store.toMedium := hmedium
  obtain ⟨hpending, hlived⟩ := h.also
  obtain ⟨w, hkept⟩ := h.kept
  obtain ⟨head, hdisk⟩ := h.onDisk
  obtain ⟨earlier, later, hjournal, hs⟩ := h.memory
  obtain ⟨hnumber, hsequence, hhash⟩ := sealed_of_applyEvent happlied
  have hagrees := (agrees_of_announced hkept.lived hkept.stands hpending hlived (by omega)).appended
    hlived happlied hprior hresulting
  have hnext := hlived.append happlied
  -- The same record stands to the longer journal: its announcement has come true.
  have hstands : ∀ lifecycle : CellLifecycleRecord,
      lifecycle.pendingWorldCommit = store.lifecycle.pendingWorldCommit →
      lifecycle.frontier = store.lifecycle.frontier →
      Stands site first (store.disk.journal ++ [event]) next lifecycle := by
    intro lifecycle hsame hfrontier
    rw [Stands, hsame, hpending]
    exact .inr ⟨hsequence, hhash, hfrontier ▸ hagrees⟩
  have hsnapshot : SnapshotLived site first
      { store.disk with journal := store.disk.journal ++ [event], journalTorn := false } := by
    intro snapshot hfound
    obtain ⟨before, after, hsplit, hsaved⟩ := hkept.snapshot snapshot hfound
    exact ⟨before, after ++ [event], by rw [← List.append_assoc, ← hsplit], hsaved⟩
  have htorn := write_keeps (fun disk => { disk with journalTorn := true })
    (fun _ => rfl) (fun _ => rfl) (fun _ => rfl) store h
  have happended : ∀ lifecycle : CellLifecycleRecord,
      lifecycle.pendingWorldCommit = store.lifecycle.pendingWorldCommit →
      lifecycle.frontier = store.lifecycle.frontier →
      Kept site first { store.disk with
        journal := store.disk.journal ++ [event], journalTorn := false } lifecycle next :=
    fun lifecycle hsame hfrontier => ⟨hnext, hsnapshot, hstands lifecycle hsame hfrontier⟩
  refine ⟨List.forall_mem_cons.mpr ⟨?_, htorn.written⟩, ⟨head, hdisk⟩, ⟨next, happended _ rfl rfl⟩,
    ⟨earlier, later ++ [event], ?_, hs⟩, ⟨hpending, hnext⟩⟩
  · show Sound site first { store.disk with
      journal := store.disk.journal ++ [event], journalTorn := false }
    rw [Sound, hdisk]
    exact ⟨next, happended _ rfl rfl⟩
  · show store.disk.journal ++ [event] = _
    rw [hjournal, List.append_assoc]

theorem appendEvent_spec :
    Triple (Holds site first s (Announced site first s (announcement event durable nextOccurrence)))
      (appendEvent site event)
      (fun _ => Holds site first s
        (Announced site first next (announcement event durable nextOccurrence)))
      fun _ => Holds site first s Tended := by
  have happend : Triple (Holds site first s _) _ _ _ :=
    appendJournal_spec happlied hprior hresulting
  have hfailed : ∀ (e : PersistenceError) (x : Unit → Program PersistenceError Store Unit),
      Triple (Holds site first s (Announced site first s (announcement event durable nextOccurrence)))
        (throw e >>= x) (fun _ => Holds site first s
          (Announced site first next (announcement event durable nextOccurrence)))
        fun _ => Holds site first s Tended :=
    fun e x => .bind_throw fun _ h => h.tended
  refine Triple.bind (verifyLiveLeaseForWrite_keeps.fail fun _ _ h => h.tended) fun _ =>
    Triple.bind (Keeps.get.fail fun _ _ h => h.tended) fun store => ?_
  exact .ite (fun _ => hfailed _ _) fun _ => .ite (fun _ => hfailed _ _) fun _ => happend

/-- A commit leaves the store level with the world its event leads to, and one that fails leaves
    it keeping the history it had or the one with the event. -/
theorem commitWorldEvent_spec :
    Triple (Holds site first s (Ready site first s durable))
      (commitWorldEvent site event next nextOccurrence)
      (fun _ => Holds site first next (Level site first next))
      fun _ => Holds site first s Tended := by
  obtain ⟨hnumber, hsequence, -⟩ := sealed_of_applyEvent happlied
  have hstart : s.eventSequence < event.eventSequence := by omega
  have hkeeps : ∀ {q} {α : Type} {x : Program PersistenceError Store α},
      Keeps (Holds site first s q) x →
      Triple (Holds site first s q) x (fun _ => Holds site first s q)
        fun _ => Holds site first s Tended :=
    fun h => h.fail fun _ _ h => h.tended
  have hfailed : ∀ {q} (e : PersistenceError) (x : Unit → Program PersistenceError Store Unit),
      Triple (Holds site first s q) (throw e >>= x)
        (fun _ => Holds site first next (Level site first next))
        fun _ => Holds site first s Tended :=
    fun e x => .bind_throw fun _ h => h.tended
  unfold commitWorldEvent
  refine Triple.bind (hkeeps verifyLiveLeaseForWrite_keeps) fun _ => Triple.bind (hkeeps .get)
    fun store => .ite (fun _ => hfailed _ _) fun _ => .ite (fun _ => hfailed _ _) fun _ => ?_
  refine Triple.bind (hkeeps .lift) fun _ => announce_spec hstart ?_
  refine Triple.bind (hkeeps .lift) fun unlinked => Triple.bind (hkeeps .get) fun store => ?_
  have happended : Triple (Holds site first s _) _ _ _ :=
    appendEvent_spec happlied hprior hresulting
  have hconcluded : Triple (Holds site first s (Announced site first next
      (announcement event durable nextOccurrence))) _ _ _ := conclude_spec hsequence
  cases unlinked with
  | none => exact Triple.bind happended fun _ => hconcluded
  | some boundary =>
    exact .ite (fun _ => hfailed _ _) fun _ => Triple.bind happended fun _ =>
      Triple.bind (hkeeps commitBoundary_keeps) fun _ => hconcluded

end

/-! ## Loading -/

/-- A world the history has come to, under a fence below that of the process. -/
def Found (site : Site) (first state : WorldState) : Known := fun fencingToken journal _ _ =>
  Lived site first journal state ∧ state.fencingToken < fencingToken

/-- The same, and nothing is announced. -/
def Reconciled (site : Site) (first state : WorldState) : Known :=
  fun fencingToken journal pending _ =>
    pending = none ∧ Lived site first journal state ∧ state.fencingToken < fencingToken

theorem loadWorldBeforeLifecycleReconciliation_spec (hgenesis : site.genesis = .ok first) :
    Triple (Holds site first first Tended) (loadWorldBeforeLifecycleReconciliation site)
      (fun state => Holds site first first (Found site first state))
      fun _ => Holds site first first Tended := by
  have hload : ∀ read : Store, Triple (fun store => Holds site first first Tended store
        ∧ store.fencingToken = read.fencingToken ∧ store.disk.journal = read.disk.journal
        ∧ SnapshotLived site first read.disk)
      (lift id (loadedWorld site read.disk read.fencingToken))
      (fun state => Holds site first first (Found site first state))
      fun _ => Holds site first first Tended := by
    intro read
    refine .lift ?_ fun _ _ _ h => h.1
    rintro state hstate store ⟨h, hfence, hjournal, hsnapshot⟩
    obtain ⟨w, hkept⟩ := h.kept
    have hlived := hkept.lived
    rw [hjournal] at hlived
    have hfound := lived_of_loadedWorld hgenesis hsnapshot hlived hstate
    refine { h with also := ?_ }
    rw [Found, hjournal, hfence]
    exact hfound
  refine Triple.bind_part id fun read => Triple.bind (keeps_left .lift) fun base => ?_
  refine .ite (fun _ => Triple.bind (R := fun _ store => Holds site first first Tended store
      ∧ store.fencingToken = read.fencingToken ∧ store.disk.journal = read.disk.journal
      ∧ SnapshotLived site first read.disk) ?_ fun _ => hload read)
    fun _ => (hload read).pre ?_
  · refine Triple.zoom fun store h medium hmedium => ?_
    obtain rfl : medium = store.toMedium := hmedium
    obtain ⟨h, rfl⟩ := h
    obtain ⟨w, hkept⟩ := h.kept
    exact ⟨write_keeps (fun disk => { disk with journalTorn := false }) (fun _ => rfl)
      (fun _ => rfl) (fun _ => rfl) store h, rfl, rfl, hkept.snapshot⟩
  · rintro store ⟨h, rfl⟩
    obtain ⟨w, hkept⟩ := h.kept
    exact ⟨h, rfl, rfl, hkept.snapshot⟩

/-- Reconciling makes the record level with the world found. -/
theorem reconcileLifecycleWithWorld_spec {state} :
    Triple (Holds site first first (Found site first state))
      (reconcileLifecycleWithWorld site state)
      (fun _ => Holds site first state (Reconciled site first state))
      fun _ => Holds site first first Tended := by
  refine Triple.bind (readCurrentLease_spec.fail fun _ _ h => h.tended) fun found => ?_
  refine Triple.bind ((trustedUnixMillis_keeps (Holds.timeless.and
    (Timeless.of_files (R := fun disk _ => disk.lifecycle = some found)))).fail
      fun _ _ h => h.1.tended) fun now => ?_
  refine Triple.bind (R := fun (read : Store) store =>
    Holds site first first (Found site first state) store ∧ store.lifecycle = read.lifecycle)
    (.get fun _ h => ⟨h.1, rfl⟩) fun read => ?_
  refine Triple.bind (R := fun _ store =>
      Holds site first first (Found site first state) store ∧ store.lifecycle = found)
    (.lift ?_ fun _ _ _ h => h.1.tended) fun _ => ?_
  · intro _ hlive store h
    exact ⟨h.1, h.2.trans (eq_of_validateLiveLeaseRecord hlive).symm⟩
  refine Triple.bind_lift (fun _ _ _ h => h.1.tended) fun reconciled hreconciled => ?_
  refine (persistLifecycle_spec (Holds.timeless.and
    (Timeless.of_files (R := fun _ held => held = found))) ?_).fail fun _ _ h => h.1.tended
  rintro store ⟨h, rfl⟩
  obtain ⟨hlived, hfence⟩ := h.also
  obtain ⟨w, hkept⟩ := h.kept
  have hstood := hkept.stands.refenced (hlived.unique hkept.lived)
  obtain ⟨hpending, hstands⟩ := hstood.of_reconciled hreconciled
  exact (h.remember hlived).adopting (fun v hv _ => hstands.refenced (hv.unique hlived))
    ⟨hpending, hlived, hfence⟩

theorem loadWorld_spec (hgenesis : site.genesis = .ok first) {heartbeats : Nat} :
    Triple (Holds site first first Tended) (loadWorld site heartbeats)
      (fun state => Holds site first state (Reconciled site first state))
      fun _ => Holds site first first Tended := by
  refine Triple.bind (Keeps.times renewLease_keeps heartbeats) fun _ => ?_
  refine Triple.bind ((loadWorldBeforeLifecycleReconciliation_spec hgenesis).attempt.fail
    fun _ _ h => h.elim) fun loaded => ?_
  cases loaded with
  | error e =>
    refine Triple.bind renewLease_keeps fun _ => ?_
    exact .bind_lift (fun _ _ _ h => h) fun _ hok => nomatch hok
  | ok found =>
    refine Triple.bind (renewLease_keeps.fail fun _ _ h => h.tended) fun _ => ?_
    refine Triple.bind (R := fun state => Holds site first first (Found site first state))
      (.lift ?_ fun _ herror => nomatch herror) fun state => ?_
    · intro state hstate store h
      obtain rfl : found = state := by simpa using hstate
      exact h
    · exact Triple.bind reconcileLifecycleWithWorld_spec fun _ => .pure fun _ h => h

end Store

/-! ## Taking a cell -/

/-- The contents written so far and the one there is are sound. -/
def Safe (site : Site) (first : WorldState) (medium : Medium) : Prop :=
  (∀ disk ∈ medium.written, Sound site first disk) ∧ Sound site first medium.disk

/-- A medium whose record is this one, for whatever process holds it. -/
def Taken (site : Site) (first : WorldState) (lifecycle : CellLifecycleRecord) (medium : Medium) :
    Prop :=
  ∀ writer : Writer, writer.lifecycle = lifecycle →
    Holds site first first Tended { toMedium := medium, toWriter := writer }

section Taking

variable {lifecycle : CellLifecycleRecord} {medium : Medium}

/-- A process that has only taken the record. -/
def Writer.holding (lifecycle : CellLifecycleRecord) : Writer where
  transferBoundaries := .empty
  fencingToken := lifecycle.fencingToken
  lifecycle := lifecycle
  lastTrustedUnixMs := lifecycle.lastTrustedUnixMs
  writeEnabled := true
  recoveredObservedMode := none

theorem Taken.safe (h : Taken site first lifecycle medium) : Safe site first medium :=
  have hholds := h (.holding lifecycle) rfl
  ⟨hholds.written, hholds.sound⟩

/-- What a medium becomes when a record is written. -/
def recorded (medium : Medium) (lifecycle : CellLifecycleRecord) : Medium :=
  { medium with
    disk := { medium.disk with lifecycle := some lifecycle }
    written := { medium.disk with lifecycle := some lifecycle } :: medium.written }

theorem Taken.of_kept (hwritten : ∀ disk ∈ medium.written, Sound site first disk)
    (hkept : ∃ w, Kept site first medium.disk lifecycle w) :
    Taken site first lifecycle (recorded medium lifecycle) := by
  rintro writer rfl
  obtain ⟨w, hkept⟩ := hkept
  have hrecorded : Kept site first { medium.disk with lifecycle := some writer.lifecycle }
    writer.lifecycle w := ⟨hkept.lived, hkept.snapshot, hkept.stands⟩
  exact ⟨List.forall_mem_cons.mpr ⟨⟨w, hrecorded⟩, hwritten⟩,
    ⟨writer.lifecycle.transferBoundaryHeadHash, rfl⟩, ⟨w, hrecorded⟩,
    ⟨[], medium.disk.journal, rfl, Lived.nil⟩, trivial⟩

variable {disk : Disk}

theorem kept_acquired (hidle : first.backgroundProductionIsRunnable site.host = .ok false)
    (hsound : Sound site first disk) {previous}
    (hprevious : previousLifecycle site disk = .ok previous) (manifest : RuntimeManifest)
    (cellId holderId : String)
    (lifecycleRevision fencingToken acquiredAtUnixMs expiresAtUnixMs : Nat) :
    ∃ w, Kept site first disk (.acquired previous manifest cellId holderId lifecycleRevision
      fencingToken acquiredAtUnixMs expiresAtUnixMs) w := by
  rw [Sound] at hsound
  cases hdisk : disk.lifecycle with
  | none =>
    simp only [hdisk] at hsound
    simp only [previousLifecycle, hdisk, bind_eq_ok, pure_eq_ok] at hprevious
    obtain ⟨-, -, rfl⟩ := hprevious
    refine ⟨first, ?_, ?_, ?_⟩
    · rw [hsound.2]
      exact Lived.nil
    · simp [SnapshotLived, hsound.1]
    · exact {
        behind := Nat.zero_le _
        level := fun _ => ⟨.inl rfl, .inl rfl⟩
        acknowledged := Nat.zero_le _
        scheduled := hidle
        timely := fun _ _ hnone => nomatch hnone }
  | some record =>
    simp only [hdisk] at hsound
    simp only [previousLifecycle, hdisk, bind_eq_ok, pure_eq_ok] at hprevious
    obtain ⟨-, -, rfl⟩ := hprevious
    obtain ⟨w, hkept⟩ := hsound
    exact ⟨w, hkept.lived, hkept.snapshot, hkept.stands⟩

theorem Taken.headed (h : Taken site first lifecycle medium) (head : String) :
    Taken site first { lifecycle with transferBoundaryHeadHash := head } medium := by
  intro writer hwriter
  have hholds := h { writer with lifecycle } rfl
  obtain ⟨found, hdisk⟩ := hholds.onDisk
  obtain ⟨w, hkept⟩ := hholds.kept
  refine ⟨hholds.written, ⟨found, ?_⟩, ⟨w, hkept.lived, hkept.snapshot, ?_⟩, hholds.memory, trivial⟩
  · show medium.disk.lifecycle = some { writer.lifecycle with transferBoundaryHeadHash := found }
    rw [hwriter]
    exact hdisk
  · show Stands site first medium.disk.journal w writer.lifecycle
    rw [hwriter]
    exact hkept.stands

theorem write_taken {change} (hjournal : ∀ disk, (change disk).journal = disk.journal)
    (hsnapshot : ∀ disk, (change disk).snapshot = disk.snapshot)
    (hlifecycle : ∀ disk, (change disk).lifecycle = disk.lifecycle) :
    Keeps (Taken site first lifecycle) (write change) :=
  fun medium h writer hwriter => Store.write_keeps change hjournal hsnapshot hlifecycle
    { toMedium := medium, toWriter := writer } (h writer hwriter)

theorem Taken.recorded (h : Taken site first lifecycle medium) :
    Taken site first lifecycle (recorded medium lifecycle) :=
  have hholds := h (.holding lifecycle) rfl
  .of_kept hholds.written hholds.kept

theorem appendBoundary_taken :
    Keeps (Taken site first lifecycle) (appendBoundary boundary) := by
  refine Keeps.bind (write_taken ?_ ?_ ?_) fun _ => write_taken ?_ ?_ ?_
  all_goals exact fun _ => rfl

theorem nowUnixMs_safe :
    Triple (fun medium => Safe site first medium ∧ medium.disk = disk) nowUnixMs
      (fun _ medium => Safe site first medium ∧ medium.disk = disk) fun _ => Safe site first := by
  intro medium h
  unfold nowUnixMs
  simp only [run_bind, run_get]
  rcases medium.samples with - | ⟨sample | sample, rest⟩
  · exact h.1
  · exact h.1
  · exact h

/-- Taking a cell keeps its history, and where it fails it has written nothing unsound. -/
theorem openForCell_spec (hidle : first.backgroundProductionIsRunnable site.host = .ok false)
    {holderId : String} :
    Triple (Safe site first) (openForCell site holderId)
      (fun writer medium => Holds site first first Tended { toMedium := medium, toWriter := writer })
      fun _ => Safe site first := by
  have hkeeps : ∀ {L : CellLifecycleRecord} {α : Type} {x : Program PersistenceError Medium α},
      Keeps (Taken site first L) x →
      Triple (Taken site first L) x (fun _ => Taken site first L) fun _ => Safe site first :=
    fun h => h.fail fun _ _ h => h.safe
  refine Triple.bind_part (·.disk) fun read => ?_
  refine Triple.bind_lift (fun _ _ _ h => h.1) fun previous hprevious => ?_
  have hpure : ∀ {α : Type} {y : Persisted α},
      Triple (fun medium => Safe site first medium ∧ medium.disk = read.disk)
        (lift id y : Program PersistenceError Medium α)
        (fun _ medium => Safe site first medium ∧ medium.disk = read.disk)
        fun _ => Safe site first :=
    .lift (fun _ _ _ h => h) fun _ _ _ h => h.1
  refine Triple.bind hpure fun recoveredFence => Triple.bind hpure fun lifecycleRevision =>
    Triple.bind hpure fun fencingToken => Triple.bind nowUnixMs_safe fun sample =>
    Triple.bind hpure fun acquiredAtUnixMs => Triple.bind hpure fun expiresAtUnixMs => ?_
  generalize hlifecycle : CellLifecycleRecord.acquired previous site.manifest site.cellId holderId
    lifecycleRevision fencingToken acquiredAtUnixMs expiresAtUnixMs = lifecycle
  refine Triple.bind (R := fun _ => Taken site first lifecycle) ?_ fun _ => ?_
  · rintro medium ⟨hsafe, hdisk⟩
    refine Taken.of_kept hsafe.1 ?_
    rw [← hlifecycle]
    rw [← hdisk] at hprevious
    exact kept_acquired hidle hsafe.2 hprevious _ _ _ _ _ _ _
  exact .only (fun _ => hkeeps (write_taken (fun _ => rfl) (fun _ => rfl) fun _ => rfl))
    (fun _ _ h => h) (boundaries_triple (hkeeps .lift) (fun _ => hkeeps appendBoundary_taken)
      (fun head _ h => (h.headed head).recorded) (fun head _ h => h.headed head)
      fun _ _ h => h _ rfl)

end Taking
end Verse.Persistence
