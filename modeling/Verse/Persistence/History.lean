import Verse.Engine.Clock
import Verse.Engine.Refence
import Verse.Persistence.Disk

/-!
# What a record may say of a world

The journal of a cell tells which world it has come to: the one its events lead to from the
world the cell was founded with. Everything else on disk is a statement about that history. The
snapshot is a world of the history, and the lifecycle record stands to its last world in one of
two ways: it is level with it or behind it, or it has announced one more event that may or may
not be there.

Reopening a cell checks the record against the world found. What it checks is a rule about the
next production occurrence that is written down a second time here, and differs from the rule
of the engine in one case: a cell that had worked before and comes awake late.
-/

namespace Verse.Persistence

open Lib
open WorldState (applyEvent)
open Store (loadBase replayJournal loadedWorld)

variable {site : Site} {first : WorldState}

/-! ## The history of a cell -/

/-- The events of a journal lead from the founding world to this one, whose fence may have been
    raised since. -/
def Lived (site : Site) (first : WorldState) (journal : List CanonicalEvent) (w : WorldState) :
    Prop :=
  ∃ v, runAll (applyEvent site.host) first journal = .ok v ∧ v.unfenced = w.unfenced
    ∧ v.fencingToken ≤ w.fencingToken

variable {v w : WorldState}

theorem refence_eq (h : v.unfenced = w.unfenced) :
    v = w.fenced v.fencingToken :=
  show v.unfenced.fenced v.fencingToken = w.unfenced.fenced v.fencingToken from h ▸ rfl

variable {host : Host} {w' : WorldState} {event : CanonicalEvent}

theorem fence_le_of_applyEvent
    (h : w.applyEvent host event = .ok w') : w.fencingToken ≤ event.authorityFencingToken := by
  cases WorldState.accepted_of_applyEvent h with
  | intro hydrated admitted => exact admitted.fence.2

theorem applied_unique {v'} (hfence : v.unfenced = w.unfenced)
    (h : v.applyEvent host event = .ok v') (h' : w.applyEvent host event = .ok w') : v' = w' := by
  have hle := fence_le_of_applyEvent h
  rw [refence_eq hfence, WorldState.applyEvent_fenced hle (fence_le_of_applyEvent h'), h'] at h
  exact (Except.ok.inj h).symm

namespace Lived

variable {journal later : List CanonicalEvent} {event : CanonicalEvent} {w w' : WorldState}

theorem nil : Lived site first [] first := ⟨first, rfl, rfl, le_rfl⟩

variable (h : Lived site first journal w)

include h

theorem raised (hfence : w.unfenced = w'.unfenced)
    (hle : w.fencingToken ≤ w'.fencingToken) : Lived site first journal w' := by
  obtain ⟨v, hrun, hv, hvle⟩ := h
  exact ⟨v, hrun, hv.trans hfence, hvle.trans hle⟩

theorem unique (h' : Lived site first journal w') :
    w.unfenced = w'.unfenced := by
  obtain ⟨v, hrun, hv, -⟩ := h
  obtain ⟨v', hrun', hv', -⟩ := h'
  obtain rfl : v = v' := ok_unique hrun hrun'
  exact hv.symm.trans hv'

theorem append (happlied : w.applyEvent site.host event = .ok w') :
    Lived site first (journal ++ [event]) w' := by
  obtain ⟨v, hrun, hv, hle⟩ := h
  have hw := fence_le_of_applyEvent happlied
  have hstep : v.applyEvent site.host event = .ok w' := by
    rw [refence_eq hv, WorldState.applyEvent_fenced (hle.trans hw) hw, happlied]
  exact ⟨w', runAll_append_eq_ok.mpr ⟨v, hrun, runAll_cons_eq_ok.mpr ⟨w', hstep, runAll_nil⟩⟩,
    rfl, le_rfl⟩

theorem eventSequence :
    w.eventSequence = first.eventSequence + journal.length := by
  obtain ⟨v, hrun, hv, -⟩ := h
  have hcount : v.eventSequence = first.eventSequence + journal.length := by
    clear hv
    induction journal generalizing first with
    | nil =>
      obtain rfl : first = v := by simpa using hrun
      rfl
    | cons event rest ih =>
      obtain ⟨middle, hfirst, hrest⟩ := runAll_cons_eq_ok.mp hrun
      have := (WorldState.accepted_of_applyEvent hfirst).frontier.1
      rw [ih hrest, this, List.length_cons]
      omega
  exact (congrArg WorldState.eventSequence hv).symm.trans hcount

theorem onward (h' : Lived site first (journal ++ later) w') :
    ∃ v v', v.unfenced = w.unfenced ∧ runAll (applyEvent site.host) v later = .ok v'
      ∧ v'.unfenced = w'.unfenced ∧ v'.fencingToken ≤ w'.fencingToken := by
  obtain ⟨v, hrun, hv, -⟩ := h
  obtain ⟨v', hrun', hv', hle⟩ := h'
  obtain ⟨middle, hmiddle, hlater⟩ := runAll_append_eq_ok.mp hrun'
  obtain rfl : v = middle := ok_unique hrun hmiddle
  exact ⟨v, v', hv, hlater, hv', hle⟩

theorem committed_le (h' : Lived site first (journal ++ later) w') :
    w.productionClock.lastCommittedQuantumSequence
      ≤ w'.productionClock.lastCommittedQuantumSequence := by
  obtain ⟨v, v', hv, hrun, hv', -⟩ := h.onward h'
  obtain ⟨hcounts, hclock⟩ := WorldState.quanta_of_run hrun
  have hle := hcounts.sequence_le.1
  rw [← hclock] at hle
  have hw : v.productionClock = w.productionClock :=
    show v.unfenced.productionClock = w.unfenced.productionClock from hv ▸ rfl
  have hw' : v'.productionClock = w'.productionClock :=
    show v'.unfenced.productionClock = w'.unfenced.productionClock from hv' ▸ rfl
  rwa [hw, hw'] at hle

omit h

end Lived

/-! ## The schedule of a world -/

/-- A next occurrence that is there exactly when something would happen. -/
def Scheduled (host : Host) (w : WorldState) (next : Option ProductionScheduleOccurrence) : Prop :=
  w.backgroundProductionIsRunnable host = .ok next.isSome

/-- An occurrence that follows the clock as a reopened cell wants it to: one number and, but for
    the first, exactly one second on. -/
def Timely (w : WorldState) (occurrence : ProductionScheduleOccurrence) : Prop :=
  occurrence.lifecycleGeneration = w.productionClock.lifecycleGeneration
    ∧ checkedAdd w.productionClock.lastCommittedQuantumSequence 1
        = some occurrence.productionQuantumSequence
    ∧ (w.productionClock.lastCommittedQuantumSequence ≠ 0 →
        checkedAdd w.productionClock.lastScheduledForUnixMs 1000
          = some occurrence.scheduledForUnixMs)

/-- An event other than a quantum that gives a cell with nothing to do something to do, later
    than the last quantum it committed. -/
def WakesLate (host : Host) (w w' : WorldState) (event : CanonicalEvent) : Prop :=
  event.payload.occurrence? = none
    ∧ w.backgroundProductionIsRunnable host = .ok false
    ∧ w'.backgroundProductionIsRunnable host = .ok true
    ∧ w.productionClock.lastCommittedQuantumSequence ≠ 0
    ∧ w.productionClock.lastScheduledForUnixMs < event.occurredAtUnixMs

/-- No event of a journal wakes the cell late. -/
def Punctual (host : Host) (first : WorldState) (journal : List CanonicalEvent) : Prop :=
  ∀ before event after w w', journal = before ++ event :: after →
    runAll (applyEvent host) first before = .ok w → w.applyEvent host event = .ok w' →
    ¬ WakesLate host w w' event

variable {later : List CanonicalEvent}

theorem Punctual.before {journal} (h : Punctual host first (journal ++ later)) :
    Punctual host first journal := by
  intro before event after w w' heq
  exact h before event (after ++ later) w w' (by rw [heq]; simp)

section Schedule

variable {host : Host} {w w' : WorldState} {event : CanonicalEvent}
  {durable next : Option ProductionScheduleOccurrence} {priorRunnable : Bool}

variable {unixMs : Nat}

theorem nextProductionOccurrenceAt_eq_ok {occurrence}
    (h : w.nextProductionOccurrenceAt unixMs = .ok occurrence) :
    occurrence.lifecycleGeneration = w.productionClock.lifecycleGeneration
      ∧ checkedAdd w.productionClock.lastCommittedQuantumSequence 1
          = some occurrence.productionQuantumSequence
      ∧ occurrence.scheduledForUnixMs = unixMs := by
  simp only [WorldState.nextProductionOccurrenceAt, bind_eq_ok, demand_eq_ok, pure_eq_ok] at h
  obtain ⟨productionQuantumSequence, hnumber, -, -, rfl⟩ := h
  exact ⟨rfl, hnumber, rfl⟩

theorem oneSecondAfter_eq_ok {after : Nat} (h : WorldState.oneSecondAfter unixMs = .ok after) :
    checkedAdd unixMs 1000 = some after := by
  simpa [WorldState.oneSecondAfter] using h

/-- What the engine makes of the schedule, case by case: nothing for a world without work; one
    second after a quantum; what it was, for a world that had work already; and for one that
    wakes, a second after the later of now and the last quantum. -/
theorem resulting_eq_ok
    (h : WorldState.resultingNextProductionOccurrence host durable priorRunnable w' event
      = .ok next) :
    (w'.backgroundProductionIsRunnable host = .ok false ∧ next = none)
      ∨ w'.backgroundProductionIsRunnable host = .ok true ∧ ∃ occurrence, next = some occurrence ∧
        ((∃ quantum scheduled, event.payload.occurrence? = some quantum
            ∧ checkedAdd quantum.scheduledForUnixMs 1000 = some scheduled
            ∧ w'.nextProductionOccurrenceAt scheduled = .ok occurrence)
          ∨ (event.payload.occurrence? = none ∧ priorRunnable = true ∧ durable = some occurrence)
          ∨ event.payload.occurrence? = none ∧ priorRunnable = false ∧ ∃ boundary cursor,
            checkedAdd event.occurredAtUnixMs 1000 = some boundary
              ∧ checkedAdd w'.productionClock.lastScheduledForUnixMs 1000 = some cursor
              ∧ w'.nextProductionOccurrenceAt (max boundary cursor) = .ok occurrence) := by
  simp only [WorldState.resultingNextProductionOccurrence, bind_eq_ok] at h
  obtain ⟨runnable, hrunnable, h⟩ := h
  cases runnable with
  | false =>
    obtain rfl : none = next := by simpa using h
    exact .inl ⟨hrunnable, rfl⟩
  | true =>
    refine .inr ⟨hrunnable, ?_⟩
    rw [if_neg (by simp)] at h
    cases hpayload : event.payload with
    | productionQuantumCommitted quantum elapsed outcomes =>
      rw [hpayload] at h
      simp only [bind_eq_ok, map_eq_ok] at h
      obtain ⟨scheduled, hscheduled, occurrence, hnext, rfl⟩ := h
      exact ⟨occurrence, rfl, .inl ⟨quantum, scheduled, rfl, oneSecondAfter_eq_ok hscheduled, hnext⟩⟩
    | _ =>
      rw [hpayload] at h
      cases priorRunnable with
      | true =>
        obtain ⟨occurrence, hdurable, rfl⟩ := map_eq_ok.mp h
        exact ⟨occurrence, rfl, .inr (.inl ⟨rfl, rfl, by simpa using hdurable⟩)⟩
      | false =>
        simp only [Bool.false_eq_true, if_false, bind_eq_ok, map_eq_ok] at h
        obtain ⟨boundary, hboundary, cursor, hcursor, occurrence, hnext, rfl⟩ := h
        exact ⟨occurrence, rfl, .inr (.inr ⟨rfl, rfl, boundary, cursor,
          oneSecondAfter_eq_ok hboundary, oneSecondAfter_eq_ok hcursor, hnext⟩)⟩

theorem scheduled_of_resulting
    (h : WorldState.resultingNextProductionOccurrence host durable priorRunnable w' event
      = .ok next) : Scheduled host w' next := by
  rcases resulting_eq_ok h with ⟨hrunnable, rfl⟩ | ⟨hrunnable, occurrence, rfl, -⟩
  · exact hrunnable
  · exact hrunnable

theorem timely_of_resulting (happlied : w.applyEvent host event = .ok w')
    (hprior : w.backgroundProductionIsRunnable host = .ok priorRunnable)
    (hdurable : ∀ occurrence ∈ durable, Timely w occurrence)
    (h : WorldState.resultingNextProductionOccurrence host durable priorRunnable w' event
      = .ok next) (hpunctual : ¬ WakesLate host w w' event) :
    ∀ occurrence ∈ next, Timely w' occurrence := by
  obtain ⟨hclock, hnext⟩ := WorldState.clock_of_applyEvent happlied
  rcases resulting_eq_ok h with ⟨-, rfl⟩ | ⟨hrunnable, occurrence, rfl, hcases⟩
  · simp
  intro found hfound
  obtain rfl : occurrence = found := by simpa using hfound
  rcases hcases with ⟨quantum, scheduled, hquantum, hscheduled, hat⟩
      | ⟨hnone, -, rfl⟩ | ⟨hnone, rfl, boundary, cursor, hboundary, hcursor, hat⟩
  · obtain ⟨hgeneration, hsequence, htime⟩ := nextProductionOccurrenceAt_eq_ok hat
    refine ⟨hgeneration, hsequence, fun _ => ?_⟩
    rw [hclock, hquantum, htime]
    exact hscheduled
  · rw [hnone] at hclock
    have hkept : w'.productionClock = w.productionClock := hclock
    rw [Timely, hkept]
    exact hdurable occurrence rfl
  · obtain ⟨hgeneration, hsequence, htime⟩ := nextProductionOccurrenceAt_eq_ok hat
    refine ⟨hgeneration, hsequence, fun hworked => ?_⟩
    rw [hnone] at hclock
    have hkept : w'.productionClock = w.productionClock := hclock
    -- Not late: the event is no later than the last quantum, so the cursor decides.
    have hearly : event.occurredAtUnixMs ≤ w'.productionClock.lastScheduledForUnixMs := by
      by_contra hlate
      exact hpunctual ⟨hnone, hprior, hrunnable, hkept ▸ hworked, by rw [← hkept]; omega⟩
    obtain ⟨-, rfl⟩ := checkedAdd_eq_some.mp hboundary
    obtain ⟨-, hcursorEq⟩ := checkedAdd_eq_some.mp hcursor
    rw [htime, hcursor, max_eq_right (by omega)]

end Schedule

/-! ## The record beside the world -/

/-- How far a record says a world has come, and how much of its production is acknowledged. -/
structure Frontier where
  eventSequence : Nat
  (eventHash stateHash : String)
  acknowledged : Nat

def CellLifecycleRecord.frontier (lifecycle : CellLifecycleRecord) : Frontier where
  eventSequence := lifecycle.lastWorldEventSequence
  eventHash := lifecycle.lastWorldEventHash
  stateHash := lifecycle.lastWorldStateHash
  acknowledged := lifecycle.acknowledgedProductionSequence

/-- A record level with the last world of a history, or behind it, whose next occurrence is
    there exactly when that world has work, and is timely if nothing ever woke late. -/
structure Agrees (site : Site) (first : WorldState) (journal : List CanonicalEvent)
    (w : WorldState) (frontier : Frontier) (next : Option ProductionScheduleOccurrence) : Prop where
  behind : frontier.eventSequence ≤ w.eventSequence
  level : frontier.eventSequence = w.eventSequence →
    (frontier.eventHash = "" ∨ frontier.eventHash = w.lastEventHash)
      ∧ (frontier.stateHash = "" ∨ frontier.stateHash = w.stateHash site.host)
  acknowledged : frontier.acknowledged ≤ w.productionClock.lastCommittedQuantumSequence
  scheduled : Scheduled site.host w next
  timely : Punctual site.host first journal → ∀ occurrence ∈ next, Timely w occurrence

/-- How a record stands to a history: settled, or with an event announced that has not been
    appended, or that has. -/
def Stands (site : Site) (first : WorldState) (journal : List CanonicalEvent) (w : WorldState)
    (lifecycle : CellLifecycleRecord) : Prop :=
  match lifecycle.pendingWorldCommit with
  | none => Agrees site first journal w lifecycle.frontier lifecycle.nextProductionOccurrence
  | some pending =>
    (w.eventSequence < pending.eventSequence
        ∧ Agrees site first journal w lifecycle.frontier pending.priorNextOccurrence)
      ∨ (w.eventSequence = pending.eventSequence ∧ w.lastEventHash = pending.eventHash
        ∧ Agrees site first journal w lifecycle.frontier pending.resultingNextOccurrence)

section Standing

variable {journal : List CanonicalEvent} {w w' : WorldState} {frontier : Frontier}
  {next : Option ProductionScheduleOccurrence} {lifecycle reconciled : CellLifecycleRecord}

theorem Agrees.refenced (h : Agrees site first journal w frontier next)
    (hfence : w'.unfenced = w.unfenced) : Agrees site first journal w' frontier next := by
  rw [refence_eq hfence]
  exact {
    behind := h.behind
    level := h.level
    acknowledged := h.acknowledged
    scheduled := WorldState.backgroundProductionIsRunnable_fenced.trans h.scheduled
    timely := h.timely }

theorem Stands.refenced (h : Stands site first journal w lifecycle)
    (hfence : w'.unfenced = w.unfenced) : Stands site first journal w' lifecycle := by
  have hsequence : w'.eventSequence = w.eventSequence := (congrArg WorldState.eventSequence hfence :)
  have hlast : w'.lastEventHash = w.lastEventHash := (congrArg WorldState.lastEventHash hfence :)
  unfold Stands at h ⊢
  cases hpending : lifecycle.pendingWorldCommit with
  | none =>
    rw [hpending] at h
    exact Agrees.refenced h hfence
  | some pending =>
    rw [hpending] at h
    dsimp only at h ⊢
    rw [hsequence, hlast]
    rcases h with ⟨hbefore, h⟩ | ⟨hat, hhash, h⟩
    · exact .inl ⟨hbefore, h.refenced hfence⟩
    · exact .inr ⟨hat, hhash, h.refenced hfence⟩

/-- A record that stands to a history settles, into one that agrees with it. -/
theorem Stands.settles (h : Stands site first journal w lifecycle) :
    ∃ settled, lifecycle.settlePending w = .ok settled
      ∧ settled.pendingWorldCommit = none
      ∧ settled.frontier = lifecycle.frontier
      ∧ Agrees site first journal w settled.frontier settled.nextProductionOccurrence := by
  unfold Stands at h
  unfold CellLifecycleRecord.settlePending
  cases hpending : lifecycle.pendingWorldCommit with
  | none =>
    rw [hpending] at h
    exact ⟨lifecycle, rfl, hpending, rfl, h⟩
  | some pending =>
    rw [hpending] at h
    rcases h with ⟨hbefore, h⟩ | ⟨hat, hhash, h⟩
    · exact ⟨{ lifecycle with
        pendingWorldCommit := none
        nextProductionOccurrence := pending.priorNextOccurrence }, if_pos hbefore, rfl, rfl, h⟩
    · refine ⟨{ lifecycle with
        pendingWorldCommit := none
        nextProductionOccurrence := pending.resultingNextOccurrence }, ?_, rfl, rfl, h⟩
      dsimp only
      rw [if_neg (by omega), if_pos ⟨hat, hhash⟩]
      rfl

theorem Agrees.validFrontier
    (h : Agrees site first journal w lifecycle.frontier next) (hhost : site.host = host) :
    lifecycle.validateFrontier host w = .ok () := by
  subst hhost
  simp only [CellLifecycleRecord.validateFrontier, bind_eq_ok, rejectIf_eq_ok]
  refine ⟨(), not_lt.mpr h.behind, ?_⟩
  rintro ⟨hlevel, hdiffers⟩
  obtain ⟨hevent, hstate⟩ := h.level hlevel
  rcases hdiffers with ⟨hne, hdiffers⟩ | ⟨hne, hdiffers⟩
  · exact hevent.elim hne hdiffers
  · exact hstate.elim hne hdiffers

variable {nowUnixMs : Nat}

/-- The schedule of a record that agrees with a punctual history is kept as it is. -/
theorem Agrees.reconcileNext
    (h : Agrees site first journal w lifecycle.frontier lifecycle.nextProductionOccurrence)
    (hpunctual : Punctual site.host first journal) :
    lifecycle.reconcileNext site.host w nowUnixMs = .ok lifecycle.nextProductionOccurrence := by
  have hscheduled : w.backgroundProductionIsRunnable site.host = _ := h.scheduled
  have htimely := h.timely hpunctual
  rw [CellLifecycleRecord.reconcileNext, hscheduled]
  cases hnext : lifecycle.nextProductionOccurrence with
  | none => rfl
  | some occurrence =>
    obtain ⟨hgeneration, hsequence, htime⟩ := htimely occurrence hnext
    have hvalid : CellLifecycleRecord.validateNextOccurrence w true occurrence = .ok () := by
      simp only [CellLifecycleRecord.validateNextOccurrence, hsequence, demand_some, bind_eq_ok]
      refine ⟨_, rfl, ?_⟩
      by_cases hworked : w.productionClock.lastCommittedQuantumSequence = 0
      · simp [hworked, hgeneration]
      · simp [hworked, htime hworked, hgeneration]
    show (CellLifecycleRecord.validateNextOccurrence w true occurrence >>= _) = _
    rw [hvalid]
    rfl

/-- A cell is reopened with a record that stands to a punctual history, and keeps the schedule
    the record settles into. -/
theorem Stands.reconciles (h : Stands site first journal w lifecycle)
    (hpunctual : Punctual site.host first journal) :
    ∃ reconciled, lifecycle.reconciled site.host w nowUnixMs = .ok reconciled
      ∧ w.backgroundProductionIsRunnable site.host
          = .ok reconciled.nextProductionOccurrence.isSome := by
  obtain ⟨settled, hsettled, -, -, hagrees⟩ := h.settles
  have hacknowledged : ¬ settled.acknowledgedProductionSequence
      > w.productionClock.lastCommittedQuantumSequence := not_lt.mpr hagrees.acknowledged
  have hnext : settled.reconcileNext site.host w nowUnixMs = _ := hagrees.reconcileNext hpunctual
  let acknowledged : CellLifecycleRecord := { settled with
    acknowledgedProductionSequence := w.productionClock.lastCommittedQuantumSequence }
  refine ⟨(acknowledged.atFrontier site.host w).stamped nowUnixMs, ?_, hagrees.scheduled⟩
  simp only [CellLifecycleRecord.reconciled, bind_eq_ok, rejectIf_eq_ok, pure_eq_ok]
  exact ⟨settled, hsettled, (), hagrees.validFrontier rfl, (), hacknowledged,
    settled.nextProductionOccurrence, hnext, rfl⟩

theorem Stands.of_reconciled (h : Stands site first journal w lifecycle)
    (hreconciled : lifecycle.reconciled site.host w nowUnixMs = .ok reconciled) :
    reconciled.pendingWorldCommit = none ∧ Stands site first journal w reconciled := by
  obtain ⟨settled, hsettled, hpending, -, hagrees⟩ := h.settles
  simp only [CellLifecycleRecord.reconciled, hsettled, bind_eq_ok, Except.ok.injEq,
    exists_eq_left', pure_eq_ok] at hreconciled
  obtain ⟨-, -, -, -, next, hnext, rfl⟩ := hreconciled
  have hkept : next = settled.nextProductionOccurrence := by
    have hscheduled : w.backgroundProductionIsRunnable site.host = _ := hagrees.scheduled
    rw [CellLifecycleRecord.reconcileNext, hscheduled] at hnext
    cases hfound : settled.nextProductionOccurrence with
    | none =>
      rw [hfound] at hnext
      exact (by simpa using hnext : none = next).symm
    | some occurrence =>
      rw [hfound] at hnext
      simp only [Except.mapError, bind_eq_ok, pure_eq_ok] at hnext
      obtain ⟨-, -, -, -, rfl⟩ := hnext
      rfl
  subst hkept
  refine ⟨hpending, ?_⟩
  show Stands site first journal w ((_ : CellLifecycleRecord).stamped nowUnixMs)
  unfold Stands
  show match settled.pendingWorldCommit with | none => _ | some pending => _
  rw [hpending]
  exact {
    behind := le_rfl
    level := fun _ => ⟨.inr rfl, .inr rfl⟩
    acknowledged := le_rfl
    scheduled := hagrees.scheduled
    timely := hagrees.timely }

end Standing

/-! ## What loading finds -/

/-- The snapshot on disk, if there is one, is a world of the history. -/
def SnapshotLived (site : Site) (first : WorldState) (disk : Disk) : Prop :=
  ∀ snapshot ∈ disk.snapshot, ∃ earlier later, disk.journal = earlier ++ later
    ∧ Lived site first earlier snapshot.state

section Loading

variable {journal : List CanonicalEvent} {v v' w w' : WorldState}
  {snapshotEventSequence snapshotFence line previous : Nat}

theorem sequence_le_of_run (h : runAll (applyEvent host) w journal = .ok w') :
    w.eventSequence ≤ w'.eventSequence ∧ ∀ event ∈ journal, event.eventSequence ≤ w'.eventSequence := by
  induction journal generalizing w with
  | nil =>
    obtain rfl : w = w' := by simpa using h
    exact ⟨le_rfl, by simp⟩
  | cons event rest ih =>
    obtain ⟨middle, hfirst, hrest⟩ := runAll_cons_eq_ok.mp h
    have accepted := WorldState.accepted_of_applyEvent hfirst
    have hmiddle := accepted.frontier.1
    obtain ⟨hle, hall⟩ := ih hrest
    refine ⟨by omega, List.forall_mem_cons.mpr ⟨?_, hall⟩⟩
    cases accepted with
    | intro hydrated admitted =>
      have hevent : event.eventSequence = w.eventSequence + 1 := admitted.next
      omega

variable {r : WorldState × Nat}

theorem replay_covered {earlier}
    (hcovered : ∀ event ∈ earlier, event.eventSequence ≤ w.eventSequence)
    (h : replayJournal site snapshotEventSequence snapshotFence line previous w (earlier ++ later)
      = .ok r) :
    ∃ line previous,
      replayJournal site snapshotEventSequence snapshotFence line previous w later = .ok r := by
  induction earlier generalizing line previous with
  | nil => exact ⟨line, previous, h⟩
  | cons event rest ih =>
    rw [List.forall_mem_cons] at hcovered
    simp only [List.cons_append, replayJournal, bind_eq_ok, if_pos hcovered.1, pure_eq_ok,
      exists_eq_left'] at h
    obtain ⟨-, -, -, -, -, -, h⟩ := h
    exact ih hcovered.2 h

theorem replay_beyond (hbase : w.unfenced = v.unfenced)
    (hfence : v.fencingToken ≤ w.fencingToken)
    (hrun : runAll (applyEvent site.host) v journal = .ok v')
    (h : replayJournal site snapshotEventSequence snapshotFence line previous w journal = .ok r) :
    r.1.unfenced = v'.unfenced ∧ v'.fencingToken ≤ r.1.fencingToken := by
  induction journal generalizing v w line previous with
  | nil =>
    obtain rfl : v = v' := by simpa using hrun
    obtain rfl : (w, previous) = r := by simpa [replayJournal] using h
    exact ⟨hbase, hfence⟩
  | cons event rest ih =>
    obtain ⟨middle, hfirst, hrest⟩ := runAll_cons_eq_ok.mp hrun
    have hsequence : event.eventSequence = w.eventSequence + 1 := by
      have hv : w.eventSequence = v.eventSequence := (congrArg WorldState.eventSequence hbase :)
      cases WorldState.accepted_of_applyEvent hfirst with
      | intro hydrated admitted => exact hv ▸ admitted.next
    have hbeyond : ¬ event.eventSequence ≤ w.eventSequence := by omega
    simp only [replayJournal, bind_eq_ok, if_neg hbeyond, mapError_eq_ok] at h
    obtain ⟨-, -, -, -, -, -, next, hnext, h⟩ := h
    obtain rfl := applied_unique hbase hnext hfirst
    exact ih rfl le_rfl hrest h

theorem lived_of_loadedWorld {disk : Disk} {fencingToken : Nat} (hgenesis : site.genesis = .ok first)
    (hsnapshot : SnapshotLived site first disk) (hlived : Lived site first disk.journal w)
    (h : loadedWorld site disk fencingToken = .ok w') :
    Lived site first disk.journal w' ∧ w'.fencingToken < fencingToken := by
  simp only [loadedWorld, bind_eq_ok, mapError_eq_ok, rejectIf_eq_ok, pure_eq_ok] at h
  obtain ⟨base, hbase, r, hreplay, -, -, -, -, -, hfence, rfl⟩ := h
  have hstart : ∃ earlier later, disk.journal = earlier ++ later ∧ Lived site first earlier base := by
    cases hdisk : disk.snapshot with
    | none =>
      simp only [loadBase, hdisk, genesisWorld, hgenesis, bind_eq_ok, pure_eq_ok] at hbase
      obtain ⟨genesis, hfirst, -, -, rfl⟩ := hbase
      obtain rfl : first = genesis := by simpa [Except.mapError] using hfirst
      exact ⟨[], disk.journal, rfl, Lived.nil⟩
    | some snapshot =>
      simp only [loadBase, hdisk, bind_eq_ok, pure_eq_ok] at hbase
      obtain ⟨-, -, -, -, -, -, -, -, rfl⟩ := hbase
      exact hsnapshot snapshot hdisk
  obtain ⟨earlier, later, hjournal, v, hrun, hv, hle⟩ := hstart
  rw [hjournal] at hreplay hlived ⊢
  have hcovered : ∀ event ∈ earlier, event.eventSequence ≤ base.eventSequence := by
    have hsequence : v.eventSequence = base.eventSequence := (congrArg WorldState.eventSequence hv :)
    exact hsequence ▸ (sequence_le_of_run hrun).2
  obtain ⟨line, previous, hlater⟩ := replay_covered hcovered hreplay
  obtain ⟨last, hwhole, hlast, -⟩ := hlived
  obtain ⟨middle, hmiddle, hbeyond⟩ := runAll_append_eq_ok.mp hwhole
  obtain rfl : v = middle := ok_unique hrun hmiddle
  obtain ⟨hfound, hraised⟩ := replay_beyond hv.symm hle hbeyond hlater
  exact ⟨⟨last, hwhole, hfound.symm, hraised⟩, by omega⟩

end Loading
end Verse.Persistence
