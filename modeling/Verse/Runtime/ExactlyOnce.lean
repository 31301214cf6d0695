import Verse.Engine.Clock
import Verse.Runtime.Cell

/-!
# Production occurrences commit exactly once

Whatever is asked of a cell, its world moves only by events that `applyEvent` accepts, one after
the other: store failures and refusals leave it where it was. The quanta among those events
count on from the clock the cell began with, which is all that exactly-once needs. A delivery
that is not the durable next occurrence changes nothing, and one that is changes the world only
by committing a quantum the clock has not reached before.
-/

namespace Verse.Runtime

open Lib Lib.Program
open Persistence

variable {site : Site}

/-! ## What a call does to the world -/

/-- A condition on a cell that looks only at its world. -/
def At (p : WorldState → Prop) (cell : Cell) : Prop := p cell.state

namespace Cell

variable {p : WorldState → Prop}

theorem onStore_keeps {α : Type} (x : Program PersistenceError Store α) :
    Keeps (At p) (onStore x) :=
  Triple.zoom fun cell hcell store _ => by
    cases x store with
    | ok a store' | error e store' => exact hcell

theorem orHalt_keeps {α : Type} {x : Act α} (h : Keeps (At p) x) : Keeps (At p) (orHalt x) :=
  h.onError fun _ hcell => hcell

theorem haltedStore_keeps {α : Type} (x : Program PersistenceError Store α) :
    Keeps (At p) (orHalt (onStore x)) :=
  orHalt_keeps (onStore_keeps x)

variable {P : Cell → Prop}

theorem ensureRunning_keeps : Keeps P ensureRunning :=
  Keeps.get.bind fun _ => .ite .throw .pure

theorem unavailable_keeps {α : Type} : Keeps P (unavailable : Act α) :=
  Keeps.get.bind fun _ => .throw

theorem ensureMode_keeps {allowed} :
    Keeps P (ensureMode allowed) :=
  Keeps.get.bind fun _ => .ite unavailable_keeps .pure

theorem ensureScene_keeps : Keeps P ensureScene :=
  Keeps.get.bind fun _ => .ite unavailable_keeps .pure

theorem persistSnapshot_keeps : Keeps (At p) (persistSnapshot site) :=
  Keeps.bind ensureRunning_keeps fun _ => Keeps.get.bind fun _ =>
    (haltedStore_keeps _).bind fun _ => .modify fun _ hcell => hcell

theorem afterEvent_keeps : Keeps (At p) (afterEvent site) :=
  .bind (.modify fun _ hcell => hcell) fun _ => Keeps.get.bind fun _ =>
    .ite persistSnapshot_keeps .pure

variable {event : CanonicalEvent}

theorem staged_spec :
    Triple (At p) (staged site event)
      (fun r => At fun w => p w ∧ w.applyEvent site.host event = .ok r.1) fun _ => At p := by
  refine .bind_read fun cell hcell => ?_
  have hleft : ∀ now, now = cell → At p now := fun _ h => h ▸ hcell
  refine .bind_lift (fun _ _ => hleft) fun priorRunnable _ => ?_
  refine .bind_lift (fun _ _ => hleft) fun next hnext => ?_
  refine .bind_lift (fun _ _ => hleft) fun nextOccurrence _ => .pure ?_
  rintro _ rfl
  exact ⟨hcell, hnext⟩

theorem install_keeps {next nextOccurrence}
    (hclosed : ∀ {w w'}, p w → w.applyEvent site.host event = .ok w' → p w') :
    Triple (At fun w => p w ∧ w.applyEvent site.host event = .ok next)
      (install site event next nextOccurrence) (fun _ => At p) fun _ => At p :=
  .bind ((haltedStore_keeps _).fail fun _ _ h => h.1)
    fun _ => .modify fun _ h => hclosed h.1 h.2

/-- A condition on the world that no event of the system breaks is kept by committing one. -/
theorem commitPreparedSystemEvent_keeps
    (hclosed : ∀ {w w'}, p w → w.applyEvent site.host event = .ok w' → p w') :
    Keeps (At p) (commitPreparedSystemEvent site event) := by
  refine Triple.bind staged_spec fun r => ?_
  have hinstalled : Triple (At fun w => p w ∧ w.applyEvent site.host event = .ok r.1)
      (install site event r.1 r.2 >>= fun _ => do
        if isProductionQuantum event.payload then do
          let cell ← get
          orHalt (onStore (Store.acknowledgeProductionSequence site cell.state))
        afterEvent site) (fun _ => At p) fun _ => At p :=
    .bind (install_keeps hclosed) fun _ =>
      Keeps.ite (Keeps.get.bind fun _ => (haltedStore_keeps _).bind fun _ => afterEvent_keeps)
        afterEvent_keeps
  refine Triple.ite (fun _ => ?_) fun _ => hinstalled
  refine Triple.bind (Triple.fail ensureScene_keeps fun _ _ h => h.1)
    fun _ => Triple.bind (.lift (fun _ _ _ h => h) fun _ _ _ h => h.1) fun _ => hinstalled

variable {q : WorldState → Prop}

/-- Where the event is committed, the world it leads to is what the cell goes on with. -/
theorem commitPreparedSystemEvent_done
    (hstep : ∀ {w w'}, p w → w.applyEvent site.host event = .ok w' → q w') :
    Triple (At p) (commitPreparedSystemEvent site event) (fun _ => At q) fun _ _ => True := by
  refine Triple.bind (staged_spec.fail fun _ _ _ => trivial)
    fun r => ?_
  have hafter : Triple (At q) (afterEvent site) (fun _ => At q) fun _ _ => True :=
    Triple.fail afterEvent_keeps fun _ _ _ => trivial
  have hinstalled : Triple (At fun w => p w ∧ w.applyEvent site.host event = .ok r.1)
      (install site event r.1 r.2 >>= fun _ => do
        if isProductionQuantum event.payload then do
          let cell ← get
          orHalt (onStore (Store.acknowledgeProductionSequence site cell.state))
        afterEvent site) (fun _ => At q) fun _ _ => True :=
    .bind (.bind ((haltedStore_keeps _).fail fun _ _ _ => trivial)
        fun _ => .modify fun _ h => hstep h.1 h.2) fun _ =>
      .ite (fun _ => .bind (R := fun _ => At q) (.get fun _ h => h) fun _ =>
        .bind ((haltedStore_keeps _).fail fun _ _ _ => trivial)
          fun _ => hafter) fun _ => hafter
  refine Triple.ite (fun _ => ?_) fun _ => hinstalled
  refine Triple.bind (Triple.fail ensureScene_keeps fun _ _ _ => trivial) fun _ =>
    Triple.bind (.lift (fun _ _ _ h => h) fun _ _ _ _ => trivial)
      fun _ => hinstalled

theorem timed_spec :
    Triple (At p) (timed site event)
      (fun timed cell => (timed.payload = event.payload
        ∧ timed.actorPlayerId = event.actorPlayerId) ∧ At p cell) fun _ => At p :=
  Triple.bind (haltedStore_keeps _) fun _ => Triple.pure fun _ h => ⟨⟨rfl, rfl⟩, h⟩

theorem timed_keeps : Keeps (At p) (timed site event) :=
  timed_spec.post fun _ _ h => h.2

variable {payload : EventPayload}

variable {w : WorldState}

/-- An event that nobody asked for carries the payload it was made of. -/
theorem newEvent_system {host : Host} {stamp} (h : w.newEvent host stamp none payload = .ok event) :
    event.payload = payload ∧ event.actorPlayerId = none := by
  simp only [WorldState.newEvent, bind_eq_ok, pure_eq_ok] at h
  obtain ⟨_, -, rfl⟩ := h
  exact ⟨rfl, rfl⟩

variable {eventId : String}

theorem commitSystemEventRecorded_spec
    {Q E : Cell → Prop} (hcommit : ∀ event : CanonicalEvent, event.payload = payload →
      event.actorPlayerId = none →
        Triple (At p) (commitPreparedSystemEvent site event) (fun _ => Q) fun _ => E)
    (hfails : ∀ cell, At p cell → E cell) :
    Triple (At p) (commitSystemEventRecorded site eventId payload) (fun _ => Q) fun _ => E := by
  refine Triple.bind (R := fun _ => At p) (.get fun _ h => h) fun cell => ?_
  refine Triple.bind_lift (fun _ _ => hfails) fun prepared hprepared => ?_
  replace hprepared := newEvent_system hprepared
  refine Triple.bind (timed_spec.fail fun _ cell h =>
    hfails cell h) fun event => Triple.given fun hevent => ?_
  exact (hcommit event (hevent.1.trans hprepared.1) (hevent.2.trans hprepared.2)).bind
    fun _ => .pure fun _ h => h

theorem commitSystemEventRecorded_keeps
    (hclosed : ∀ {event w w'}, event.payload = payload → event.actorPlayerId = none → p w →
      w.applyEvent site.host event = .ok w' → p w') :
    Keeps (At p) (commitSystemEventRecorded site eventId payload) :=
  commitSystemEventRecorded_spec (fun _ hpayload hsystem =>
    commitPreparedSystemEvent_keeps fun h happlied => hclosed hpayload hsystem h happlied)
    fun _ h => h

theorem commitSystemEventRecorded_done
    (hstep : ∀ {event w w'}, event.payload = payload → event.actorPlayerId = none → p w →
      w.applyEvent site.host event = .ok w' → q w') :
    Triple (At p) (commitSystemEventRecorded site eventId payload) (fun _ => At q)
      fun _ _ => True :=
  commitSystemEventRecorded_spec (fun _ hpayload hsystem =>
    commitPreparedSystemEvent_done fun h happlied => hstep hpayload hsystem h happlied)
    fun _ _ => trivial

theorem initializePhysics_keeps : Keeps (At p) (initializePhysics site) :=
  Keeps.get.bind fun _ => .ite .pure (Keeps.lift.bind fun _ => .modify fun _ hcell => hcell)

theorem drainToBackgroundOrSleeping_keeps : Keeps (At p) (drainToBackgroundOrSleeping site) :=
  Keeps.bind ensureRunning_keeps fun _ => Keeps.bind ensureMode_keeps fun _ => Keeps.get.bind fun _ =>
    Keeps.lift.bind fun _ => (onStore_keeps _).bind fun _ => Keeps.bind persistSnapshot_keeps fun _ =>
    Keeps.get.bind fun _ => .ite
      ((onStore_keeps _).bind fun _ => .bind (.modify fun _ hcell => hcell) fun _ => .pure)
      ((onStore_keeps _).bind fun _ => .bind (.modify fun _ hcell => hcell) fun _ => .pure)

theorem restoreHostMode_keeps : Keeps (At p) (restoreHostMode site) :=
  Keeps.get.bind fun _ => onStore_keeps _

theorem renewLease_keeps : Keeps (At p) renewLease :=
  Keeps.bind ensureRunning_keeps fun _ => haltedStore_keeps _

/-- What production commits is a quantum that nobody asked for. -/
theorem prepareProductionQuantumEvent_quantum
    (h : prepareProductionQuantumEvent site w payload = .ok event) :
    isProductionQuantum event.payload = true ∧ event.actorPlayerId = none := by
  unfold prepareProductionQuantumEvent at h
  split at h
  · simp only [bind_eq_ok, pure_eq_ok] at h
    obtain ⟨⟨⟩, -, prepared, hprepared, rfl⟩ := h
    obtain ⟨hpayload, hsystem⟩ := newEvent_system hprepared
    exact ⟨hpayload ▸ rfl, hsystem⟩
  · cases h

variable {turns : Nat}

section

variable (hquantum : ∀ {event w w'}, isProductionQuantum event.payload = true →
  event.actorPlayerId = none → p w → w.applyEvent site.host event = .ok w' → p w')

include hquantum

theorem commitProductionQuantum_keeps :
    Keeps (At p) (commitProductionQuantum site payload) := by
  refine Keeps.get.bind fun cell => ?_
  refine Triple.bind_lift (fun _ _ _ h => h) fun event hevent => ?_
  replace hevent := prepareProductionQuantumEvent_quantum hevent
  exact commitPreparedSystemEvent_keeps fun h happlied => hquantum hevent.1 hevent.2 h happlied

theorem advanceBackgroundProductionOccurrence_keeps {occurrence} :
    Keeps (At p) (advanceBackgroundProductionOccurrence site occurrence) :=
  Keeps.bind ensureRunning_keeps fun _ => Keeps.bind ensureMode_keeps fun _ =>
    Keeps.get.bind fun _ => .ite ((haltedStore_keeps _).bind fun _ => .pure)
      (.ite .throw (Keeps.lift.bind fun _ =>
        (commitProductionQuantum_keeps hquantum).bind fun _ => .pure))

theorem advanceDueProductionThrough_keeps {cutoffUnixMs committedQuanta : Nat} :
    Keeps (At p) (advanceDueProductionThrough site cutoffUnixMs turns committedQuanta) := by
  induction turns generalizing committedQuanta with
  | zero => exact Keeps.get.bind fun _ => .pure
  | succ turns ih =>
    refine Keeps.get.bind fun cell => ?_
    cases cell.store.lifecycle.nextProductionOccurrence with
    | none => exact .pure
    | some occurrence =>
      exact .ite .pure (.ite .pure
        ((advanceBackgroundProductionOccurrence_keeps hquantum).bind fun _ => ih))

theorem advanceDueProduction_keeps :
    Keeps (At p) (advanceDueProduction site turns) :=
  Keeps.bind ensureRunning_keeps fun _ => (haltedStore_keeps _).bind fun _ =>
    advanceDueProductionThrough_keeps hquantum

end

section

variable (hclosed : ∀ {event w w'}, p w → w.applyEvent site.host event = .ok w' → p w')

include hclosed

theorem executeAs_keeps {actorId : String} {message} :
    Keeps (At p) (executeAs site eventId actorId message) := by
  refine Keeps.bind ensureRunning_keeps fun _ => Keeps.bind ensureMode_keeps fun _ => Keeps.get.bind fun _ =>
    (orHalt_keeps .lift).bind fun _ => Keeps.lift.bind fun _ => Keeps.lift.bind fun _ =>
    Keeps.lift.bind fun (operationSequence, operationId) => Keeps.lift.bind fun _ =>
    Keeps.lift.bind fun _ => Keeps.lift.bind fun committed => ?_
  cases committed with
  | some receipt => exact .pure
  | none =>
    refine Keeps.lift.bind fun _ => Keeps.bind timed_keeps fun event => ?_
    refine Triple.bind staged_spec fun r => ?_
    refine Triple.bind (Triple.fail ensureScene_keeps fun _ _ h => h.1)
      fun _ => Triple.bind (.lift (fun _ _ _ h => h) fun _ _ _ h => h.1) fun _ =>
      Triple.bind (install_keeps hclosed) fun _ => ?_
    exact Keeps.bind afterEvent_keeps fun _ => Keeps.get.bind fun _ => Keeps.lift.bind fun _ => .pure

theorem backgroundDispatchStep_keeps :
    Keeps (At p) (backgroundDispatchStep site turns) :=
  Keeps.bind ensureMode_keeps fun _ => (advanceDueProduction_keeps fun _ _ => hclosed).bind fun _ =>
    Keeps.get.bind fun _ => .ite ((onStore_keeps _).bind fun _ => .pure) .pure

theorem activationStep_keeps : Keeps (At p) (activationStep site turns) := by
  have hlive : Keeps (At p) (activationStep.goLive site turns) :=
    Keeps.get.bind fun _ => Keeps.lift.bind fun _ =>
      (advanceDueProductionThrough_keeps fun _ _ => hclosed).bind fun _ =>
      .ite .pure (Keeps.bind persistSnapshot_keeps fun _ => Keeps.bind initializePhysics_keeps fun _ =>
        Keeps.get.bind fun _ => (onStore_keeps _).bind fun _ => .pure)
  have hcatchUp : Keeps (At p) (activationStep.catchUp site turns) :=
    Keeps.get.bind fun _ => .ite ((onStore_keeps _).bind fun _ => hlive) hlive
  refine Keeps.bind ensureRunning_keeps fun _ => Keeps.get.bind fun cell => ?_
  cases cell.store.lifecycle.observedMode with
  | active => exact .pure
  | background | activating => exact hcatchUp
  | sleeping | draining => exact unavailable_keeps

theorem perform_keeps (call : Call) : Keeps (At p) (call.perform site) := by
  cases call with
  | execute => exact (executeAs_keeps hclosed).forget
  | systemEvent =>
    exact Keeps.bind ensureRunning_keeps fun _ => (commitSystemEventRecorded_keeps fun _ _ => hclosed).forget
  | deliver => exact (advanceBackgroundProductionOccurrence_keeps fun _ _ => hclosed).forget
  | advanceDueProduction => exact (advanceDueProduction_keeps fun _ _ => hclosed).forget
  | backgroundDispatch => exact (backgroundDispatchStep_keeps hclosed).forget
  | drain => exact Keeps.forget drainToBackgroundOrSleeping_keeps
  | activate => exact (activationStep_keeps hclosed).forget
  | restoreHostMode => exact Keeps.forget restoreHostMode_keeps
  | persistSnapshot => exact persistSnapshot_keeps
  | renewLease => exact renewLease_keeps

theorem afterCalls_keeps {cell : Cell} (h : At p cell) (calls : List Call) :
    At p (afterCalls site cell calls) := by
  induction calls generalizing cell with
  | nil => exact h
  | cons call rest ih => exact ih ((perform_keeps hclosed call).final h)

end

/-! ## Deliveries -/

variable {cell : Cell} {occurrence : ProductionScheduleOccurrence}

/-- A delivery the clock does not accept next leaves the world alone. -/
theorem delivered_of_invalid (h : cell.state.validateNextProductionOccurrence occurrence ≠ .ok ()) :
    ((advanceBackgroundProductionOccurrence site occurrence).final cell).state = cell.state := by
  have hkeeps : Keeps (At (· = cell.state)) (advanceBackgroundProductionOccurrence site occurrence) := by
    refine Keeps.bind ensureRunning_keeps fun _ => Keeps.bind ensureMode_keeps fun _ => ?_
    refine Triple.bind (R := fun (found now : Cell) => found.state = cell.state ∧ now.state = cell.state)
      (.get fun _ hnow => ⟨hnow, hnow⟩) fun found => ?_
    intro now hfound
    obtain ⟨hfound, hnow⟩ := hfound
    have hpayload : ∀ payload,
        found.state.productionQuantumPayload site.host occurrence ≠ .ok payload := by
      intro payload hpayload
      simp only [WorldState.productionQuantumPayload, bind_eq_ok] at hpayload
      rw [hfound] at hpayload
      exact h hpayload.choose_spec.1
    -- Every branch but the commit keeps the world, and the commit is not reached.
    refine Keeps.ite ((haltedStore_keeps _).bind fun _ => .pure) (.ite .throw ?_) now hnow
    exact Triple.bind_lift (fun _ _ _ hnow => hnow) fun payload hok =>
      absurd hok (hpayload payload)
  exact hkeeps.final (P := At (· = cell.state)) rfl

/-- A delivery that is neither the frontier of the clock nor the durable next occurrence is
    refused, and the cell is as it was. -/
theorem delivered_of_conflict
    (hcommitted : cell.state.productionOccurrenceIsCommitted occurrence = false)
    (hnext : cell.store.lifecycle.nextProductionOccurrence ≠ some occurrence) :
    ∃ e, advanceBackgroundProductionOccurrence site occurrence cell = .error e cell := by
  simp only [advanceBackgroundProductionOccurrence, ensureRunning, ensureMode, unavailable,
    run_bind, run_get, run_ite, run_throw, run_pure]
  cases hhalted : cell.halted with
  | true => simp
  | false =>
    cases hmode : worksWhileAway cell.store.lifecycle.observedMode with
    | false => simp [hmode]
    | true => simp [hmode, hcommitted, hnext]

/-- An occurrence that is numbered no higher than the last quantum is never the next. -/
theorem invalid_of_le (h : occurrence.productionQuantumSequence
      ≤ cell.state.productionClock.lastCommittedQuantumSequence) :
    cell.state.validateNextProductionOccurrence occurrence ≠ .ok () := by
  intro hvalid
  have hnext := (WorldState.validateNextProductionOccurrence_eq_ok hvalid).1.1
  omega

theorem sequence_of_committed (h : cell.state.productionOccurrenceIsCommitted occurrence = true) :
    occurrence.productionQuantumSequence
      = cell.state.productionClock.lastCommittedQuantumSequence := by
  simp only [WorldState.productionOccurrenceIsCommitted, Bool.and_eq_true, beq_iff_eq] at h
  exact h.1.1.1.2

/-- Exactly once. Whatever a cell has been asked, its world has come by accepted events, and
    their quanta are numbered on from its clock without a gap and stand at least a second apart.
    A quantum that was committed changes nothing when it is delivered again, nor does the
    frontier of the clock; anything else that is not the durable next occurrence is refused with
    the cell as it was; and what does change the world is numbered next. -/
theorem exactly_once (site : Site) (cell : Cell) (calls : List Call) :
    ∃ events,
      runAll (WorldState.applyEvent site.host) cell.state events
          = .ok (afterCalls site cell calls).state
        ∧ (quanta events).map (·.productionQuantumSequence)
          = List.range' (cell.state.productionClock.lastCommittedQuantumSequence + 1)
              (quanta events).length
        ∧ ((quanta events).IsChain fun earlier later =>
            earlier.scheduledForUnixMs + 1000 ≤ later.scheduledForUnixMs)
        ∧ (∀ first ∈ (quanta events).head?,
            cell.state.productionClock.lastCommittedQuantumSequence ≠ 0 →
              cell.state.productionClock.lastScheduledForUnixMs + 1000 ≤ first.scheduledForUnixMs)
        ∧ (∀ occurrence, occurrence ∈ quanta events
              ∨ (afterCalls site cell calls).state.productionOccurrenceIsCommitted occurrence →
            ((advanceBackgroundProductionOccurrence site occurrence).final
                (afterCalls site cell calls)).state = (afterCalls site cell calls).state)
        ∧ (∀ occurrence,
            (afterCalls site cell calls).state.productionOccurrenceIsCommitted occurrence = false →
            (afterCalls site cell calls).store.lifecycle.nextProductionOccurrence
                ≠ some occurrence →
            ∃ e, advanceBackgroundProductionOccurrence site occurrence
                (afterCalls site cell calls) = .error e (afterCalls site cell calls))
        ∧ ∀ occurrence,
            ((advanceBackgroundProductionOccurrence site occurrence).final
                (afterCalls site cell calls)).state
              ≠ (afterCalls site cell calls).state →
            (afterCalls site cell calls).state.productionClock.Precedes occurrence := by
  have hlived : At (fun w => ∃ events,
      runAll (WorldState.applyEvent site.host) cell.state events = .ok w)
        (afterCalls site cell calls) := by
    apply afterCalls_keeps
    · intro event w w' hw happlied
      obtain ⟨events, hevents⟩ := hw
      exact ⟨events ++ [event], runAll_append_eq_ok.mpr ⟨w, hevents,
        runAll_cons_eq_ok.mpr ⟨w', happlied, runAll_nil⟩⟩⟩
    · exact ⟨[], runAll_nil⟩
  obtain ⟨events, hevents⟩ := hlived
  obtain ⟨hcounts, hclock⟩ := WorldState.quanta_of_run hevents
  refine ⟨events, hevents, hcounts.numbered, hcounts.spaced, ?_, ?_, ?_, ?_⟩
  · intro first hfirst
    cases hquanta : quanta events with
    | nil => simp [hquanta] at hfirst
    | cons head rest =>
      rw [hquanta] at hcounts hfirst
      obtain rfl : head = first := by simpa using hfirst
      exact hcounts.1.2
  · intro occurrence hagain
    apply delivered_of_invalid
    apply invalid_of_le
    rcases hagain with hmem | hcommitted
    · rw [hclock]
      exact hcounts.sequence_le.2 occurrence hmem
    · exact (sequence_of_committed hcommitted).le
  · intro occurrence hcommitted hnext
    exact delivered_of_conflict hcommitted hnext
  · intro occurrence hchanged
    by_cases hvalid : (afterCalls site cell calls).state.validateNextProductionOccurrence
        occurrence = .ok ()
    · exact (WorldState.validateNextProductionOccurrence_eq_ok hvalid).1
    · exact absurd (delivered_of_invalid hvalid) hchanged

end Cell

/-! ## A small cell, opened

The refinery of the small cell on an empty directory: a cargo of four ore and nothing queued. -/

def proofGenesis : WorldState :=
  { proofCell with
    eventSequence := 0
    fencingToken := 0
    lastEventHash := ""
    inventories := .ofList [
      ("inventory-cargo", ⟨"inventory-cargo", .cargo "block-cargo", ⟨4, 0, 0⟩, 8000⟩),
      ("inventory-player-1", ⟨"inventory-player-1", .player "player-1", .empty, 1200⟩)]
    productionQueues := .empty
    ledger := { proofCell.ledger with genesisOre := 4 } }

def proofSite : Site where
  host := proofHost
  worldSeed := 0
  cellKey := Directory.cellOriginKey
  cellId := proofCell.cellId
  manifest := {
    universeId := "the-verse-local"
    manifestHash := proofHash
    celestialRegistryHash := proofHash
    contentManifestVersion := Content.manifestVersion }
  genesis := .ok proofGenesis
  boundaryHash := fun _ => proofHash
  sceneFollows := fun _ _ => .ok ()
  sceneBuilds := fun _ => .ok ()
  snapshotEvery := 100

/-- What opening a directory leads to, with a clock that stands still at one moment for a while. -/
def openedAt (disk : Disk) (unixMs : Nat) : Except PersistenceError Cell :=
  (openForActivation proofSite "holder-1" 0).result
    { disk, written := [], samples := List.replicate 200 (some unixMs) }

/-- The frontier of a cell that has committed nothing: number nought at time nought. -/
def emptyFrontier : ProductionScheduleOccurrence :=
  { firstOccurrence proofGenesis with productionQuantumSequence := 0, scheduledForUnixMs := 0 }

/-- It was never scheduled and never committed, and is not refused. -/
theorem Cell.not_refused_emptyFrontier :
    ∃ cell, openedAt Disk.empty 50000 = .ok cell
      ∧ cell.state.productionClock.lastCommittedQuantumSequence = 0
      ∧ cell.store.lifecycle.nextProductionOccurrence ≠ some emptyFrontier
      ∧ (advanceBackgroundProductionOccurrence proofSite emptyFrontier).result cell = .ok false := by
  have hrun : (openedAt Disk.empty 50000).toOption.any fun cell => decide (
      cell.state.productionClock.lastCommittedQuantumSequence = 0
        ∧ cell.store.lifecycle.nextProductionOccurrence ≠ some emptyFrontier
        ∧ (advanceBackgroundProductionOccurrence proofSite emptyFrontier).result cell
          = .ok false) := by decide +kernel
  cases hopened : openedAt Disk.empty 50000 with
  | error e => simp [hopened, Except.toOption] at hrun
  | ok cell =>
    rw [hopened] at hrun
    exact ⟨cell, rfl, of_decide_eq_true hrun⟩

end Verse.Runtime
