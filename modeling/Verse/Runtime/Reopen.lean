import Verse.Persistence.Recovery
import Verse.Runtime.ExactlyOnce

/-!
# A world always reopens on its own schedule

A running cell keeps its store level with its world; one whose store has failed keeps at least
the history, and asks nothing more of it. So every content its disk has ever had is sound, and
whatever a crash leaves can be taken again by the next process, which begins where this one may
have left off.

The record such a process finds agrees with the world it loads, and its schedule is one the
second rule accepts, unless the cell had at some moment come awake late.
-/

namespace Verse.Runtime

open Lib Lib.Program
open Persistence

variable {site : Site} {first : WorldState}

/-- A cell that keeps the history of its store, level with its world while it runs. -/
structure Good (site : Site) (first : WorldState) (cell : Cell) : Prop where
  tended : Holds site first cell.state Tended cell.store
  level : cell.halted = false → Holds site first cell.state (Level site first cell.state) cell.store

/-- A good cell in the state it was read in. -/
def Seen (site : Site) (first : WorldState) (read cell : Cell) : Prop :=
  cell.state = read.state ∧ Good site first cell

def Running (site : Site) (first : WorldState) (cell : Cell) : Prop :=
  cell.halted = false ∧ Good site first cell

variable {event : CanonicalEvent}

namespace Cell

/-! ## Steps that leave the world alone -/

variable {α : Type}

theorem orHalt_good {x : Act α} {P : Cell → Prop} {Q : α → Cell → Prop}
    (h : Triple P x Q fun _ cell => Holds site first cell.state Tended cell.store) :
    Triple P (orHalt x) Q fun _ => Good site first :=
  .onError (h.fail fun _ _ h =>
    ⟨h, fun hrunning => nomatch hrunning⟩)

variable {x : Program PersistenceError Store α}

variable {read : Cell}

theorem onStore_seen
    (h : ∀ q, Keeps (Holds site first read.state q) x) : Keeps (Seen site first read) (onStore x) := by
  refine Triple.zoom fun cell hcell store hstore => ?_
  obtain rfl : store = cell.store := hstore
  obtain ⟨hstate, hgood⟩ := hcell
  have htended := h Tended cell.store (hstate ▸ hgood.tended)
  cases hhalted : cell.halted with
  | true =>
    cases hrun : x cell.store with
    | ok a store | error e store =>
      rw [hrun] at htended
      exact ⟨hstate, hstate ▸ htended, fun hrunning => nomatch hrunning⟩
  | false =>
    have hlevel := h (Level site first read.state) cell.store (hstate ▸ hgood.level hhalted)
    cases hrun : x cell.store with
    | ok a store | error e store =>
      rw [hrun] at htended hlevel
      exact ⟨hstate, hstate ▸ htended, fun _ => hstate ▸ hlevel⟩

theorem get_seen : Triple (Good site first) (get : Act Cell) (Seen site first)
    fun _ => Good site first :=
  .get fun _ h => ⟨rfl, h⟩

theorem onStore_good
    (h : ∀ q, Keeps (Holds site first read.state q) x) :
    Triple (Seen site first read) (onStore x) (fun _ => Seen site first read)
      fun _ => Good site first :=
  (onStore_seen h).fail fun _ _ h => h.2

theorem haltedStore_good (read : Cell)
    (h : ∀ q, Keeps (Holds site first read.state q) x) :
    Triple (Seen site first read) (orHalt (onStore x)) (fun _ => Seen site first read)
      fun _ => Good site first :=
  orHalt_good ((onStore_seen h).fail fun _ _ h => h.2.tended)

theorem ensureRunning_good :
    Triple (Good site first) ensureRunning (fun _ => Running site first)
      fun _ => Good site first := by
  refine Triple.bind (R := fun (read : Cell) cell => Good site first cell ∧ cell = read)
    (.get fun _ h => ⟨h, rfl⟩) fun read => .ite (fun _ => .throw fun _ h => h.1) fun hrunning => ?_
  refine .pure fun cell h => ⟨?_, h.1⟩
  rw [h.2]
  simpa using hrunning

theorem persistSnapshot_good : Keeps (Good site first) (persistSnapshot site) :=
  Triple.bind (ensureRunning_keeps) fun _ => Triple.bind get_seen fun _ =>
    Triple.bind (haltedStore_good _ fun _ => Store.saveSnapshot_keeps) fun _ =>
      .modify fun _ h => ⟨h.2.tended, h.2.level⟩

theorem afterEvent_good : Keeps (Good site first) (afterEvent site) :=
  .bind (.modify fun _ h => ⟨h.tended, h.level⟩) fun _ => Keeps.get.bind fun _ =>
    .ite persistSnapshot_good .pure

/-! ## Committing -/

/-- An event whose outcome has been worked out on a copy, in a running cell. -/
def Prepared (site : Site) (first : WorldState) (event : CanonicalEvent) (next : WorldState)
    (nextOccurrence : Option ProductionScheduleOccurrence) (cell : Cell) : Prop :=
  (cell.state.applyEvent site.host event = .ok next
    ∧ ∃ priorRunnable, cell.state.backgroundProductionIsRunnable site.host = .ok priorRunnable
      ∧ WorldState.resultingNextProductionOccurrence site.host
        cell.store.lifecycle.nextProductionOccurrence priorRunnable next event = .ok nextOccurrence)
  ∧ Running site first cell

theorem staged_good :
    Triple (Running site first) (staged site event)
      (fun r => Prepared site first event r.1 r.2) fun _ => Good site first := by
  refine Triple.bind_read fun read hrunning => ?_
  have hgood : ∀ cell, cell = read → Good site first cell := fun _ h => h ▸ hrunning.2
  refine Triple.bind_lift (fun _ _ => hgood) fun priorRunnable hprior => ?_
  refine Triple.bind_lift (fun _ _ => hgood) fun next happlied => ?_
  refine Triple.bind_lift (fun _ _ => hgood) fun nextOccurrence hresulting => .pure ?_
  rintro _ rfl
  exact ⟨⟨happlied, priorRunnable, hprior, hresulting⟩, hrunning⟩

variable {next : WorldState} {nextOccurrence : Option ProductionScheduleOccurrence}

theorem install_good :
    Triple (Prepared site first event next nextOccurrence) (install site event next nextOccurrence)
      (fun _ => Running site first) fun _ => Good site first := by
  refine Triple.bind (R := fun _ cell => cell.halted = false
    ∧ Holds site first next (Level site first next) cell.store) (orHalt_good ?_) fun _ => ?_
  · refine Triple.zoom fun cell hcell store hstore => ?_
    obtain rfl : store = cell.store := hstore
    obtain ⟨⟨happlied, priorRunnable, hprior, hresulting⟩, hrunning, hgood⟩ := hcell
    have hlevel := hgood.level hrunning
    have hready : Holds site first cell.state
        (Ready site first cell.state cell.store.lifecycle.nextProductionOccurrence) cell.store :=
      ⟨hlevel.written, hlevel.onDisk, hlevel.kept, hlevel.memory, hlevel.also.1, hlevel.also.2, rfl⟩
    have hcommitted := Store.commitWorldEvent_spec happlied hprior hresulting cell.store hready
    cases hrun : Store.commitWorldEvent site event next nextOccurrence cell.store with
    | ok u store =>
      rw [hrun] at hcommitted
      exact ⟨hrunning, hcommitted⟩
    | error e store =>
      rw [hrun] at hcommitted
      exact hcommitted
  · exact .modify fun cell h => ⟨h.1, h.2.tended, fun _ => h.2⟩

theorem prepared_of_keeps
    {x : Act α}
    (h : Keeps (Prepared site first event next nextOccurrence) x) :
    Triple (Prepared site first event next nextOccurrence) x
      (fun _ => Prepared site first event next nextOccurrence) fun _ => Good site first :=
  h.fail fun _ _ h => h.2.2

theorem running_of_keeps {x : Act α} (h : Keeps (Running site first) x) :
    Triple (Running site first) x (fun _ => Running site first) fun _ => Good site first :=
  h.fail fun _ _ h => h.2

theorem commitPreparedSystemEvent_good :
    Triple (Running site first) (commitPreparedSystemEvent site event) (fun _ => Good site first)
      fun _ => Good site first := by
  refine Triple.bind staged_good fun r => ?_
  have hinstalled : Triple (Prepared site first event r.1 r.2)
      (install site event r.1 r.2 >>= fun _ => do
        if isProductionQuantum event.payload then do
          let cell ← get
          orHalt (onStore (Store.acknowledgeProductionSequence site cell.state))
        afterEvent site) (fun _ => Good site first) fun _ => Good site first :=
    .bind (Triple.post install_good fun _ _ h => h.2) fun _ =>
      Keeps.ite (Triple.bind get_seen fun _ => Triple.bind
        ((haltedStore_good _ fun _ => Store.acknowledgeProductionSequence_keeps).post
          fun _ _ h => h.2) fun _ => afterEvent_good)
        afterEvent_good
  exact Triple.ite (fun _ => Triple.bind (prepared_of_keeps ensureScene_keeps) fun _ =>
    Triple.bind (prepared_of_keeps .lift) fun _ => hinstalled) fun _ => hinstalled

theorem trustedUnixMillis_running :
    Triple (Running site first) (orHalt (onStore Store.trustedUnixMillis))
      (fun _ => Running site first) fun _ => Good site first := by
  refine orHalt_good (Triple.zoom fun cell hcell store hstore => ?_)
  obtain rfl : store = cell.store := hstore
  obtain ⟨hrunning, hgood⟩ := hcell
  have hlevel := Store.trustedUnixMillis_keeps Holds.timeless cell.store (hgood.level hrunning)
  cases hrun : Store.trustedUnixMillis cell.store with
  | ok a store =>
    rw [hrun] at hlevel
    exact ⟨hrunning, hlevel.tended, fun _ => hlevel⟩
  | error e store =>
    rw [hrun] at hlevel
    exact hlevel.tended

theorem timed_running :
    Triple (Running site first) (timed site event) (fun _ => Running site first)
      fun _ => Good site first :=
  .bind trustedUnixMillis_running fun _ => .pure fun _ h => h

/-! ## Calls -/

theorem advanceBackgroundProductionOccurrence_good {occurrence} :
    Keeps (Good site first) (advanceBackgroundProductionOccurrence site occurrence) := by
  refine Triple.bind ensureRunning_good fun _ => Triple.bind (running_of_keeps ensureMode_keeps)
    fun _ => ?_
  refine Triple.bind (R := fun read cell => Running site first cell ∧ cell.state = read.state)
    (.get fun _ h => ⟨h, rfl⟩) fun read => ?_
  refine .ite (fun _ => Triple.bind ((haltedStore_good read fun _ =>
      Store.acknowledgeProductionSequence_keeps).weaken (fun _ h => ⟨h.2, h.1.2⟩)
      (fun _ _ h => h.2) fun _ _ h => h) fun _ => .pure fun _ h => h)
    fun _ => .ite (fun _ => .throw fun _ h => h.1.2) fun _ => ?_
  refine Triple.bind (R := fun _ => Running site first)
    (.lift (fun _ _ _ h => h.1) fun _ _ _ h => h.1.2) fun payload => ?_
  exact Triple.bind (Triple.bind (running_of_keeps .get) fun _ =>
    Triple.bind (running_of_keeps .lift) fun _ => commitPreparedSystemEvent_good)
    fun _ => .pure fun _ h => h

variable {turns : Nat}

theorem advanceDueProductionThrough_good {cutoffUnixMs committedQuanta : Nat} :
    Keeps (Good site first) (advanceDueProductionThrough site cutoffUnixMs turns committedQuanta) := by
  induction turns generalizing committedQuanta with
  | zero => exact Keeps.get.bind fun _ => .pure
  | succ turns ih =>
    refine Keeps.get.bind fun cell => ?_
    cases cell.store.lifecycle.nextProductionOccurrence with
    | none => exact .pure
    | some occurrence =>
      exact .ite .pure (.ite .pure
        (Keeps.bind advanceBackgroundProductionOccurrence_good fun _ => ih))

theorem advanceDueProduction_good :
    Keeps (Good site first) (advanceDueProduction site turns) :=
  Triple.bind ensureRunning_good fun _ => Triple.bind trustedUnixMillis_running fun _ =>
    Triple.pre advanceDueProductionThrough_good fun _ h => h.2

variable {eventId : String}

theorem commitSystemEventRecorded_good {payload} :
    Triple (Running site first) (commitSystemEventRecorded site eventId payload)
      (fun _ => Good site first) fun _ => Good site first :=
  Triple.bind (running_of_keeps .get) fun _ => Triple.bind (running_of_keeps .lift) fun _ =>
    Triple.bind timed_running fun _ => Triple.bind commitPreparedSystemEvent_good fun _ =>
    .pure fun _ h => h

theorem initializePhysics_good : Keeps (Good site first) (initializePhysics site) :=
  Keeps.get.bind fun _ => .ite .pure (Keeps.lift.bind fun _ => .modify fun _ h =>
    ⟨h.tended, h.level⟩)

theorem onState_good {x : WorldState → Program PersistenceError Store α}
    (h : ∀ s q, Keeps (Holds site first s q) (x s)) (read : Cell) :
    Triple (Seen site first read) (onStore (x read.state)) (fun _ => Good site first)
      fun _ => Good site first :=
  (onStore_good fun q => h read.state q).post fun _ _ h => h.2

theorem drainToBackgroundOrSleeping_good :
    Keeps (Good site first) (drainToBackgroundOrSleeping site) := by
  have hdrained : ∀ mode, Keeps (Good site first) (do
      modify fun cell => { cell with sceneReady := false }
      return mode : Act LifecycleMode) :=
    fun _ => .bind (.modify fun _ h => ⟨h.tended, h.level⟩) fun _ => .pure
  refine Keeps.bind ensureRunning_keeps fun _ => Keeps.bind ensureMode_keeps fun _ =>
    Triple.bind get_seen fun read => Triple.bind (R := fun _ => Seen site first read)
      (.lift (fun _ _ _ h => h) fun _ _ _ h => h.2) fun runnable => ?_
  refine Triple.bind (onState_good (fun _ _ => Store.transitionMode_keeps) read) fun _ =>
    Triple.bind persistSnapshot_good fun _ => Triple.bind get_seen fun read => ?_
  exact .ite
    (fun _ => Triple.bind (onState_good (fun _ _ => Store.transitionMode_keeps) read)
      fun _ => hdrained _)
    fun _ => Triple.bind (onState_good (fun _ _ => Store.releaseToSleeping_keeps) read)
      fun _ => hdrained _

theorem backgroundDispatchStep_good :
    Keeps (Good site first) (backgroundDispatchStep site turns) := by
  refine Keeps.bind ensureMode_keeps fun _ => Keeps.bind advanceDueProduction_good fun _ =>
    Triple.bind get_seen fun read => .ite (fun _ => ?_) fun _ => .pure fun _ h => h.2
  exact Triple.bind (onState_good (fun _ _ => Store.releaseToSleeping_keeps) read)
    fun _ => .pure fun _ h => h

theorem restoreHostMode_good : Keeps (Good site first) (restoreHostMode site) :=
  Triple.bind get_seen fun read =>
    onState_good (fun _ _ => Store.restoreRecoveredHostMode_keeps) read

theorem renewLease_good : Keeps (Good site first) renewLease := by
  refine Keeps.bind ensureRunning_keeps fun _ => ?_
  intro cell hgood
  exact ((haltedStore_good cell fun _ => Store.renewLease_keeps).post fun _ _ h => h.2) cell
    ⟨rfl, hgood⟩

theorem activationStep_good : Keeps (Good site first) (activationStep site turns) := by
  have hlive : Keeps (Good site first) (activationStep.goLive site turns) :=
    Keeps.get.bind fun _ => Keeps.lift.bind fun _ =>
      Keeps.bind advanceDueProductionThrough_good fun _ =>
      .ite .pure (Keeps.bind persistSnapshot_good fun _ => Keeps.bind initializePhysics_good fun _ =>
        Triple.bind get_seen fun read =>
          Triple.bind (onState_good (fun _ _ => Store.publishActive_keeps) read) fun _ =>
          .pure fun _ h => h)
  have hcatchUp : Keeps (Good site first) (activationStep.catchUp site turns) :=
    Triple.bind get_seen fun read => .ite
      (fun _ => Triple.bind (onState_good (fun _ _ => Store.transitionMode_keeps) read)
        fun _ => hlive)
      fun _ => hlive.pre fun _ h => h.2
  refine Keeps.bind ensureRunning_keeps fun _ => Keeps.get.bind fun cell => ?_
  cases cell.store.lifecycle.observedMode with
  | active => exact .pure
  | background | activating => exact hcatchUp
  | sleeping | draining => exact unavailable_keeps

theorem executeAs_good {actorId : String} {message} :
    Keeps (Good site first) (executeAs site eventId actorId message) := by
  have hpure : ∀ {ε : Type} {α : Type} {wrap : ε → RuntimeError} {y : Except ε α},
      Triple (Running site first) (lift wrap y : Act α) (fun _ => Running site first)
        fun _ => Good site first :=
    running_of_keeps .lift
  have hroster : ∀ {α : Type} {y : Except String α},
      Triple (Running site first) (orHalt (lift .canonicalInvariant y) : Act α)
        (fun _ => Running site first) fun _ => Good site first :=
    orHalt_good (.lift (fun _ _ _ h => h) fun _ _ _ h => h.2.tended)
  refine Triple.bind ensureRunning_good fun _ => Triple.bind (running_of_keeps ensureMode_keeps)
    fun _ => Triple.bind (running_of_keeps .get) fun _ => Triple.bind hroster fun _ =>
    Triple.bind hpure fun _ => Triple.bind hpure fun _ =>
    Triple.bind hpure fun (operationSequence, operationId) => Triple.bind hpure fun _ =>
    Triple.bind hpure fun _ => Triple.bind hpure fun committed => ?_
  cases committed with
  | some receipt => exact .pure fun _ h => h.2
  | none =>
    refine Triple.bind hpure fun _ => Triple.bind timed_running fun event =>
      Triple.bind staged_good fun r => ?_
    refine Triple.bind (prepared_of_keeps ensureScene_keeps) fun _ =>
      Triple.bind (prepared_of_keeps .lift) fun _ =>
      Triple.bind (Triple.post install_good fun _ _ h => h.2) fun _ => ?_
    exact Keeps.bind afterEvent_good fun _ => Keeps.get.bind fun _ => Keeps.lift.bind fun _ => .pure

theorem perform_good (call : Call) : Keeps (Good site first) (call.perform site) := by
  cases call with
  | execute => exact Keeps.forget executeAs_good
  | systemEvent =>
    exact Triple.bind ensureRunning_good fun _ =>
      Triple.bind commitSystemEventRecorded_good fun _ => .pure fun _ h => h
  | deliver => exact Keeps.forget advanceBackgroundProductionOccurrence_good
  | advanceDueProduction => exact Keeps.forget advanceDueProduction_good
  | backgroundDispatch => exact Keeps.forget backgroundDispatchStep_good
  | drain => exact Keeps.forget drainToBackgroundOrSleeping_good
  | activate => exact Keeps.forget activationStep_good
  | restoreHostMode => exact Keeps.forget restoreHostMode_good
  | persistSnapshot => exact persistSnapshot_good
  | renewLease => exact renewLease_good

theorem afterCalls_good {cell : Cell} (h : Good site first cell) (calls : List Call) :
    Good site first (afterCalls site cell calls) := by
  induction calls generalizing cell with
  | nil => exact h
  | cons call rest ih => exact ih ((perform_good call).final h)

end Cell

/-! ## Opening -/

theorem loaded_good {load} (hload : Triple (Holds site first first Tended) load
      (fun state => Holds site first state (Level site first state))
      fun _ store => Safe site first store.toMedium) {store : Store}
    (hstore : Holds site first first Tended store) {P : Medium → Prop} :
    Triple P (match load store with
        | .ok state store => do
          set store.toMedium
          return {
            store, state, eventsSinceSnapshot := 0, sceneReady := false, halted := false : Cell }
        | .error e store => do
          set store.toMedium
          throw e : Program PersistenceError Medium Cell)
      (fun cell medium => Good site first cell ∧ Safe site first medium)
      fun _ => Safe site first := by
  have hran := hload store hstore
  cases hrun : load store with
  | ok state store =>
    rw [hrun] at hran
    have hlevel : Holds site first state (Level site first state) store := hran
    exact Triple.bind (R := fun _ medium => medium = store.toMedium) (fun _ _ => rfl) fun _ =>
      .pure fun medium h => ⟨⟨hlevel.tended, fun _ => hlevel⟩, h ▸ ⟨hlevel.written, hlevel.sound⟩⟩
  | error e store =>
    rw [hrun] at hran
    have hsafe : Safe site first store.toMedium := hran
    exact Triple.bind (R := fun _ medium => medium = store.toMedium) (fun _ _ => rfl) fun _ =>
      .throw fun medium h => h ▸ hsafe

variable {holderId : String} {heartbeats : Nat}

theorem openForActivation_good (hgenesis : site.genesis = .ok first)
    (hidle : first.backgroundProductionIsRunnable site.host = .ok false) :
    Triple (Safe site first) (openForActivation site holderId heartbeats)
      (fun cell medium => Good site first cell ∧ Safe site first medium)
      fun _ => Safe site first := by
  have hload : Triple (Holds site first first Tended) (do
      let state ← Store.loadWorld site heartbeats
      let store ← get
      let state := { state with fencingToken := store.fencingToken }
      if state.eventSequence = 0 then Store.saveSnapshot site state
      return state : Program PersistenceError Store WorldState)
      (fun state => Holds site first state (Level site first state))
      fun _ store => Safe site first store.toMedium := by
    have hsafe : ∀ {s q store}, Holds site first s q store → Safe site first store.toMedium :=
      fun h => ⟨h.written, h.sound⟩
    refine Triple.bind ((Store.loadWorld_spec hgenesis).fail fun _ _ h => hsafe h) fun state => ?_
    refine Triple.bind (R := fun (read : Store) store =>
        Holds site first { state with fencingToken := read.fencingToken }
          (Level site first { state with fencingToken := read.fencingToken }) store)
      (.get ?_) fun read => ?_
    · intro store h
      obtain ⟨hpending, hlived, hfence⟩ := h.also
      have hraised : Lived site first store.disk.journal
          { state with fencingToken := store.fencingToken } := hlived.raised rfl hfence.le
      have hremembered := h.remember hraised
      exact ⟨h.written, h.onDisk, h.kept, hremembered.memory, hpending, hraised⟩
    · exact .ite (fun _ => Triple.bind (Store.saveSnapshot_keeps.fail fun _ _ h => hsafe h)
        fun _ => .pure fun _ h => h) fun _ => .pure fun _ h => h
  refine Triple.bind (openForCell_spec hidle) fun writer => Triple.bind
    (R := fun (read : Medium) medium =>
      Holds site first first Tended { toMedium := read, toWriter := writer } ∧ medium = read)
    (.get fun _ h => ⟨h, rfl⟩) fun read => .given fun hheld => ?_
  exact loaded_good hload hheld

theorem openForActivation_safe (hgenesis : site.genesis = .ok first)
    (hidle : first.backgroundProductionIsRunnable site.host = .ok false) :
    Keeps (Safe site first) (openForActivation site holderId heartbeats) :=
  (openForActivation_good hgenesis hidle).post fun _ _ h => h.2

/-! ## Crashes and processes, one after another -/

/-- What may be on a disk: each process opens what the last one left, is asked for so many
    things, and is gone after any of its writes. -/
inductive Reached (site : Site) : Disk → Prop
  | empty : Reached site .empty
  /-- Gone while it was opening, or after it failed to. -/
  | opening {disk left : Disk} {samples : List (Option Nat)} (holderId : String)
      (heartbeats : Nat) :
      Reached site disk →
      left ∈ ((openForActivation site holderId heartbeats).final
        { disk, written := [], samples }).written →
      Reached site left
  /-- Gone while it was running. -/
  | running {disk left : Disk} {samples : List (Option Nat)} {cell : Cell} {medium : Medium}
      (holderId : String) (heartbeats : Nat) (calls : List Call) :
      Reached site disk →
      openForActivation site holderId heartbeats { disk, written := [], samples }
        = .ok cell medium →
      left ∈ (afterCalls site cell calls).store.written →
      Reached site left

section Reaching

variable {disk : Disk} {samples : List (Option Nat)}
  {holderId : String} {heartbeats : Nat}

theorem sound_empty : Sound site first Disk.empty := ⟨rfl, rfl⟩

theorem safe_of_sound (h : Sound site first disk) :
    Safe site first { disk, written := [], samples } :=
  ⟨List.forall_mem_nil _, h⟩

theorem Reached.sound (hgenesis : site.genesis = .ok first)
    (hidle : first.backgroundProductionIsRunnable site.host = .ok false)
    (h : Reached site disk) : Sound site first disk := by
  induction h with
  | empty => exact sound_empty
  | opening holderId heartbeats _ hleft ih =>
    exact ((openForActivation_safe hgenesis hidle).final (safe_of_sound ih)).1 _ hleft
  | running holderId heartbeats calls _ hopened hleft ih =>
    have hgood := ((openForActivation_good hgenesis hidle).ok (safe_of_sound ih) hopened).1
    exact (Cell.afterCalls_good hgood calls).tended.written _ hleft

end Reaching

/-- A record that a process may hold by the time it reconciles what it took: the one it acquired,
    with its lease renewed since and the boundary head it found. -/
inductive Held (site : Site) (disk : Disk) (fencingToken : Nat) : CellLifecycleRecord → Prop
  | intro {previous : Option CellLifecycleRecord} (holderId : String)
      (lifecycleRevision acquiredAtUnixMs lastTrustedUnixMs updatedAtUnixMs : Nat)
      (renewedAtUnixMs expiresAtUnixMs : Option Nat) (transferBoundaryHeadHash : String) :
      previousLifecycle site disk = .ok previous →
      Held site disk fencingToken { CellLifecycleRecord.acquired previous site.manifest site.cellId
          holderId lifecycleRevision fencingToken acquiredAtUnixMs 0 with
        renewedAtUnixMs, expiresAtUnixMs, lastTrustedUnixMs, updatedAtUnixMs
        transferBoundaryHeadHash }

variable {disk : Disk} {lifecycle : CellLifecycleRecord} {w : WorldState}

theorem Held.stands (hgenesis : site.genesis = .ok first)
    (hidle : first.backgroundProductionIsRunnable site.host = .ok false)
    (hreached : Reached site disk) {fencingToken : Nat}
    (hheld : Held site disk fencingToken lifecycle)
    (hloaded : Store.loadedWorld site disk fencingToken = .ok w) :
    Stands site first disk.journal w lifecycle := by
  cases hheld with
  | intro holderId lifecycleRevision acquiredAtUnixMs _ _ _ _ _ hprevious =>
    obtain ⟨v, hkept⟩ := kept_acquired hidle (hreached.sound hgenesis hidle) hprevious
      site.manifest site.cellId holderId lifecycleRevision fencingToken acquiredAtUnixMs 0
    have hlived := (lived_of_loadedWorld hgenesis hkept.snapshot hkept.lived hloaded).1
    exact hkept.stands.refenced (hlived.unique hkept.lived)

/-- A world always reopens on its own schedule, unless it came awake late. Whatever processes
    have done to a cell that was founded with nothing queued, and wherever they stopped, the
    schedule the next one's record settles into is there exactly when the world it loads has
    work, and reconciling accepts the two and keeps it so, provided no event of the journal
    woke the cell late. In a cell that runs the two never come apart. -/
theorem reopens_on_schedule (hgenesis : site.genesis = .ok first)
    (hunqueued : first.productionQueues = .empty) {disk : Disk} (hreached : Reached site disk) :
    (∀ fencingToken lifecycle w, Held site disk fencingToken lifecycle →
        Store.loadedWorld site disk fencingToken = .ok w →
        (∃ settled, lifecycle.settlePending w = .ok settled
            ∧ w.backgroundProductionIsRunnable site.host
                = .ok settled.nextProductionOccurrence.isSome)
          ∧ (Punctual site.host first disk.journal → ∀ nowUnixMs, ∃ reconciled,
              lifecycle.reconciled site.host w nowUnixMs = .ok reconciled
                ∧ w.backgroundProductionIsRunnable site.host
                    = .ok reconciled.nextProductionOccurrence.isSome))
      ∧ ∀ holderId heartbeats samples calls cell medium,
          openForActivation site holderId heartbeats { disk, written := [], samples }
              = .ok cell medium →
          (afterCalls site cell calls).halted = false →
          (afterCalls site cell calls).state.backgroundProductionIsRunnable site.host
            = .ok (afterCalls site cell calls).store.lifecycle.nextProductionOccurrence.isSome := by
  have hidle := WorldState.idle_of_unqueued site.host hunqueued
  constructor
  · intro fencingToken lifecycle w hheld hloaded
    have hstands := hheld.stands hgenesis hidle hreached hloaded
    refine ⟨?_, fun hpunctual nowUnixMs => hstands.reconciles hpunctual⟩
    obtain ⟨settled, hsettled, -, -, hagrees⟩ := hstands.settles
    exact ⟨settled, hsettled, hagrees.scheduled⟩
  · intro holderId heartbeats samples calls cell medium hopened hrunning
    have hsound := hreached.sound hgenesis hidle
    have hgood := ((openForActivation_good hgenesis hidle).ok (safe_of_sound hsound) hopened).1
    have hlevel := (Cell.afterCalls_good hgood calls).level hrunning
    obtain ⟨hpending, hlived⟩ := hlevel.also
    obtain ⟨w, hkept⟩ := hlevel.kept
    have hstands := hkept.stands
    rw [Stands, hpending] at hstands
    exact (hstands.refenced (hlived.unique hkept.lived)).scheduled

/-! The refinery of the small cell works for two seconds and stops. Given more to do a good while
later, it is scheduled from then on; a process that opens the cell next asks for the second
after the last quantum, and so does every process after it. -/

/-- What a process leaves that opens a disk at one moment and is asked for so many things. -/
def leftBy (disk : Disk) (unixMs : Nat) (calls : List Call) : Option Disk :=
  match openForActivation proofSite "holder-1" 0
    { disk, written := [], samples := List.replicate 200 (some unixMs) } with
  | .ok cell _ => (afterCalls proofSite cell calls).store.written.head?
  | .error _ _ => none

theorem reached_leftBy {left : Disk} {unixMs : Nat} {calls : List Call}
    (h : Reached proofSite disk) (hleft : leftBy disk unixMs calls = some left) :
    Reached proofSite left := by
  unfold leftBy at hleft
  cases hopened : openForActivation proofSite "holder-1" 0
    { disk, written := [], samples := List.replicate 200 (some unixMs) } with
  | ok cell medium =>
    rw [hopened] at hleft
    exact .running "holder-1" 0 calls h hopened (List.mem_of_mem_head? hleft)
  | error e medium =>
    rw [hopened] at hleft
    exact nomatch hleft

def refineOnce (operationSequence : Nat) (eventId : String) : Call :=
  .execute eventId "player-1" (.queueProduction operationSequence eventId "block-refinery"
    .refining 1 "inventory-cargo" "inventory-cargo")

def quantumAt (productionQuantumSequence scheduledForUnixMs : Nat) : Call :=
  .deliver { emptyFrontier with productionQuantumSequence, scheduledForUnixMs }

/-- The refinery has been given its first batch. -/
def queued : Option Disk :=
  leftBy .empty 50000 [.activate 10, refineOnce 1 "refine-1"]

/-- It has worked the batch off, and is given another one 48 seconds later. -/
def overslept : Option Disk := do
  let worked ← leftBy .empty 50000
    [.activate 10, refineOnce 1 "refine-1", quantumAt 1 51000, quantumAt 2 52000]
  leftBy worked 100000 [.activate 10, refineOnce 2 "refine-2"]

/-- The record the next process takes a disk with, and the world it loads. -/
def taken (disk : Disk) : Option (CellLifecycleRecord × WorldState) := do
  let previous ← (previousLifecycle proofSite disk).toOption
  let w ← (Store.loadedWorld proofSite disk 3).toOption
  return (.acquired previous proofSite.manifest proofSite.cellId "holder-2" 3 3 150000 0, w)

/-- A clock that has committed nothing cannot be late. -/
theorem punctual_singleton {host : Host}
    (hfresh : first.productionClock.lastCommittedQuantumSequence = 0) :
    Punctual host first [event] := by
  rintro before late after w w' hsplit hrun - ⟨-, -, -, hworked, -⟩
  cases before with
  | nil =>
    obtain rfl : first = w := by simpa using hrun
    exact hworked hfresh
  | cons head rest =>
    simp at hsplit

theorem held_taken
    (h : taken disk = some (lifecycle, w)) :
    Held proofSite disk 3 lifecycle ∧ Store.loadedWorld proofSite disk 3 = .ok w := by
  unfold taken at h
  cases hprevious : previousLifecycle proofSite disk with
  | error e => simp [hprevious, Except.toOption] at h
  | ok previous =>
    cases hloaded : Store.loadedWorld proofSite disk 3 with
    | error e => simp [hprevious, hloaded, Except.toOption] at h
    | ok found =>
      rw [hprevious, hloaded] at h
      cases h
      exact ⟨.intro "holder-2" 3 150000 150000 150000 (some 150000) (some 0)
        (previous.elim "" CellLifecycleRecord.transferBoundaryHeadHash) hprevious, rfl⟩

theorem reached_queued (h : queued = some disk) : Reached proofSite disk :=
  reached_leftBy .empty h

theorem reached_overslept (h : overslept = some disk) : Reached proofSite disk := by
  unfold overslept at h
  cases hworked : leftBy .empty 50000
    [.activate 10, refineOnce 1 "refine-1", quantumAt 1 51000, quantumAt 2 52000] with
  | none => simp [hworked] at h
  | some worked =>
    rw [hworked] at h
    exact reached_leftBy (reached_leftBy .empty hworked) h

/-- Its first batch keeps the refinery on its schedule. -/
theorem reopens_on_schedule_queued : ∃ disk lifecycle w reconciled, Reached proofSite disk
    ∧ Held proofSite disk 3 lifecycle ∧ Store.loadedWorld proofSite disk 3 = .ok w
    ∧ lifecycle.reconciled proofHost w 150000 = .ok reconciled
    ∧ w.backgroundProductionIsRunnable proofHost
        = .ok reconciled.nextProductionOccurrence.isSome := by
  have hrun : queued.any fun disk =>
      disk.journal.length == 1 && (taken disk).isSome := by decide +kernel
  obtain ⟨disk, hqueued, hfound⟩ := (Option.any_eq_true _ _).mp hrun
  rw [Bool.and_eq_true, beq_iff_eq] at hfound
  obtain ⟨⟨lifecycle, w⟩, htaken⟩ := Option.isSome_iff_exists.mp hfound.2
  obtain ⟨event, hjournal⟩ := List.length_eq_one_iff.mp hfound.1
  obtain ⟨hheld, hloaded⟩ := held_taken htaken
  have hreached := reached_queued hqueued
  have hpunctual : Punctual proofSite.host proofGenesis disk.journal :=
    hjournal ▸ punctual_singleton rfl
  obtain ⟨reconciled, hreconciled, hscheduled⟩ :=
    ((reopens_on_schedule rfl rfl hreached).1 3 lifecycle w hheld hloaded).2 hpunctual 150000
  exact ⟨disk, lifecycle, w, reconciled, hreached, hheld, hloaded, hreconciled, hscheduled⟩

/-- The cell woke late and worked a second. Its next occurrence is a second after that one, and its
    record does not reconcile with the world that it holds. -/
theorem not_reopens_overslept : ∃ disk lifecycle w, Reached proofSite disk
    ∧ Held proofSite disk 3 lifecycle ∧ Store.loadedWorld proofSite disk 3 = .ok w
    ∧ lifecycle.reconciled proofHost w 150000 = .error
        (.invalidLifecycleControl "next occurrence does not match canonical production state") := by
  have hrun : overslept.any fun disk => (taken disk).any fun r => decide
      (r.1.reconciled proofHost r.2 150000 = .error (.invalidLifecycleControl
        "next occurrence does not match canonical production state")) := by decide +kernel
  obtain ⟨disk, hoverslept, hfound⟩ := (Option.any_eq_true _ _).mp hrun
  obtain ⟨⟨lifecycle, w⟩, htaken, hrefused⟩ := (Option.any_eq_true _ _).mp hfound
  obtain ⟨hheld, hloaded⟩ := held_taken htaken
  exact ⟨disk, lifecycle, w, reached_overslept hoverslept, hheld, hloaded,
    of_decide_eq_true hrefused⟩

end Verse.Runtime
