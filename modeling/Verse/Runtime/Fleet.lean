import Verse.Persistence.Fenced
import Verse.Persistence.Lease
import Verse.Runtime.ExactlyOnce

/-!
# Many processes on one root

Any number of processes open the same root, work on it, let go of it and end, in any order; one
that still holds the writer lock keeps the others from taking the cell. A process may be cut off
after any of its writes, and its clock says whatever it says.

What such a fleet keeps (`Guarded`) is that the disk is in order and that only a store under the
fence on record may write. The fencing of a step says three things of it: a fence newly issued
is past all there was, a store that let go or was overtaken changes nothing on record, and a
store that comes to read a clock past its lease writes nothing more. The last fails in one case,
which `SleepsLate` names: going to sleep, the record is written without the check that every
other record is written under.
-/

namespace Verse.Runtime

open Lib Lib.Program
open Persistence

/-- What may be asked of an open store. -/
inductive StoreOp where
  | acceptedTrustedTime
  | renewLease
  | loadWorld (heartbeats : Nat)
  | publishActive (state : WorldState)
  | transitionMode (desiredMode observedMode : LifecycleMode) (state : WorldState)
  | releaseToSleeping (state : WorldState)
  | restoreRecoveredHostMode (state : WorldState)
  | commitWorldEvent (event : CanonicalEvent) (resultingState : WorldState)
      (resultingNextOccurrence : Option ProductionScheduleOccurrence)
  | acknowledgeProductionSequence (state : WorldState)
  | appendEvent (event : CanonicalEvent)
  | saveSnapshot (state : WorldState)

/-- One root, and the stores that processes have open on it. -/
structure Fleet where
  disk : Disk
  /-- The stores that are open. -/
  writers : List Writer

/-- What happens on a root: a process opens it, or asks something of its store, or ends. One that
    is cut off makes only so many of its writes. -/
inductive FleetEvent where
  | takeOver (holderId : String) (samples : List (Option Nat)) (cut : Option Nat)
  | act (index : Nat) (op : StoreOp) (samples : List (Option Nat)) (cut : Option Nat)
  | quit (index : Nat)

variable (site : Site)

open Store in
def StoreOp.run : StoreOp → Program PersistenceError Store Unit
  | .acceptedTrustedTime => forget trustedUnixMillis
  | .renewLease => Store.renewLease
  | .loadWorld heartbeats => forget (Store.loadWorld site heartbeats)
  | .publishActive state => Store.publishActive site state
  | .transitionMode desiredMode observedMode state =>
    Store.transitionMode site desiredMode observedMode state
  | .releaseToSleeping state => Store.releaseToSleeping site state
  | .restoreRecoveredHostMode state => forget (Store.restoreRecoveredHostMode site state)
  | .commitWorldEvent event resultingState resultingNextOccurrence =>
    Store.commitWorldEvent site event resultingState resultingNextOccurrence
  | .acknowledgeProductionSequence state => Store.acknowledgeProductionSequence site state
  | .appendEvent event => Store.appendEvent site event
  | .saveSnapshot state => Store.saveSnapshot site state

/-- The disk after so many of these writes, the latest of which comes first; `none` if that is not
    fewer than there are. -/
def cutOff (disk : Disk) (written : List Disk) : Option Nat → Option Disk
  | none => none
  | some writes => (disk :: written.reverse).dropLast[writes]?

namespace Fleet

/-- A root nobody has opened. -/
def empty : Fleet := ⟨.empty, []⟩

/-- Some process holds the writer lock. -/
def locked (fleet : Fleet) : Bool := fleet.writers.any Writer.writeEnabled

/-- A store as its process begins to work with it. -/
def storeOf (fleet : Fleet) (writer : Writer) (samples : List (Option Nat)) : Store :=
  { disk := fleet.disk, written := [], samples, toWriter := writer }

def step (fleet : Fleet) : FleetEvent → Fleet
  | .takeOver holderId samples cut =>
    -- The lock file is locked before anything else is looked at.
    if fleet.locked then fleet
    else match openForCell site holderId { disk := fleet.disk, written := [], samples } with
      | .ok writer medium =>
        match cutOff fleet.disk medium.written cut with
        | some disk => { fleet with disk }
        | none => { disk := medium.disk, writers := fleet.writers ++ [writer] }
      | .error _ medium =>
        { fleet with disk := (cutOff fleet.disk medium.written cut).getD medium.disk }
  | .act index op samples cut =>
    match fleet.writers[index]? with
    | none => fleet
    | some writer =>
      let store := (op.run site).final (fleet.storeOf writer samples)
      match cutOff fleet.disk store.written cut with
      | some disk => { disk, writers := fleet.writers.eraseIdx index }
      | none => { disk := store.disk, writers := fleet.writers.set index store.toWriter }
  | .quit index => { fleet with writers := fleet.writers.eraseIdx index }

/-- The fleet after so many events on a root nobody had opened. -/
def run (events : List FleetEvent) : Fleet := events.foldl (step site) empty

end Fleet

/-! ## What is asked of a store -/

/-- The journal, the snapshot and the lifecycle record are the same. -/
structure SameRecords (disk changed : Disk) : Prop where
  journal : changed.journal = disk.journal
  snapshot : changed.snapshot = disk.snapshot
  lifecycle : changed.lifecycle = disk.lifecycle

/-- A store that has let go, and has left the records of a disk alone since. -/
structure Dormant (fence : Nat) (disk : Disk) (store : Store) : Prop where
  disabled : store.writeEnabled = false
  token : store.fencingToken = fence
  expires : store.lifecycle.expiresAtUnixMs = none
  onDisk : SameRecords disk store.disk
  written : ∀ left ∈ store.written, SameRecords disk left

variable {left : Disk}

section

variable {site : Site} {fence : Nat} {disk : Disk}

open Store

theorem Dormant.idle : Idle (Dormant fence disk) where
  spent store h := by simp [Spent, LateAt, h.expires]
  samples _ _ h := { h with }
  trusted _ _ _ h := { h with }

/-- An open store works under its fence, and the last it does may be to let go. -/
theorem StoreOp.run_under (op : StoreOp) :
    Triple (Under fence) (op.run site) (fun _ => UnderOrLetGo fence) fun _ => Under fence := by
  have hkeeps : ∀ {x : Program PersistenceError Store Unit}, Keeps (Under fence) x →
      Triple (Under fence) x (fun _ => UnderOrLetGo fence) fun _ => Under fence :=
    fun h => h.post fun _ _ h => .inl h
  cases op with
  | acceptedTrustedTime => exact hkeeps (Keeps.forget trustedUnixMillis_under)
  | renewLease => exact hkeeps renewLease_under
  | loadWorld heartbeats => exact hkeeps (Keeps.forget loadWorld_under)
  | publishActive state => exact hkeeps publishActive_under
  | transitionMode desiredMode observedMode state => exact hkeeps transitionMode_under
  | releaseToSleeping state =>
    exact Triple.post releaseToSleeping_under fun _ _ h => .inr h
  | restoreRecoveredHostMode state =>
    exact Triple.bind restoreRecoveredHostMode_under fun _ => .pure fun _ h => h
  | commitWorldEvent event state next => exact hkeeps commitWorldEvent_under
  | acknowledgeProductionSequence state => exact hkeeps acknowledgeProductionSequence_under
  | appendEvent event => exact hkeeps appendEvent_under
  | saveSnapshot state => exact hkeeps saveSnapshot_under

/-- A store that cannot renew its lease does nothing but cut off an unfinished line. -/
theorem StoreOp.run_keeps {P : Store → Prop} (hstops : Stops P Store.renewLease)
    (htrusted : Keeps P trustedUnixMillis)
    (hcut : Keeps P (onMedium (write fun disk => { disk with journalTorn := false })))
    (hmode : ∀ store recoveredObservedMode, P store → P { store with recoveredObservedMode })
    (op : StoreOp) : Keeps P (op.run site) := by
  have hkeeps : ∀ {x : Program PersistenceError Store Unit}, Stops P x → Keeps P x :=
    fun h => h.post fun _ _ hfalse => hfalse.elim
  cases op with
  | acceptedTrustedTime => exact htrusted.forget
  | renewLease => exact hkeeps hstops
  | loadWorld heartbeats => exact hkeeps (Stops.bind (loadWorld_stops hstops hcut))
  | publishActive state => exact hkeeps (publishActive_stops hstops)
  | transitionMode desiredMode observedMode state => exact hkeeps (transitionMode_stops hstops)
  | releaseToSleeping state => exact hkeeps (releaseToSleeping_stops hstops)
  | restoreRecoveredHostMode state => exact (restoreRecoveredHostMode_idle hstops hmode).forget
  | commitWorldEvent event state next => exact hkeeps (commitWorldEvent_stops hstops)
  | acknowledgeProductionSequence state =>
    exact hkeeps (acknowledgeProductionSequence_stops hstops)
  | appendEvent event => exact hkeeps (appendEvent_stops hstops)
  | saveSnapshot state => exact hkeeps (saveSnapshot_stops hstops)

theorem SameRecords.cut (h : SameRecords disk left) :
    SameRecords disk { left with journalTorn := false } := ⟨h.journal, h.snapshot, h.lifecycle⟩

theorem StoreOp.run_dormant (op : StoreOp) : Keeps (Dormant fence disk) (op.run site) := by
  have hidle : Idle (Dormant fence disk) := Dormant.idle
  refine op.run_keeps (renewLease_stops hidle) ?_ ?_ ?_
  · exact (trustedUnixMillis_idle hidle).post fun _ _ h => h.1
  · exact fun store h => { h with
      onDisk := h.onDisk.cut, written := List.forall_mem_cons.mpr ⟨h.onDisk.cut, h.written⟩ }
  · exact fun _ _ h => { h with }

/-- A store whose clock has stopped, and the records of a disk as they were. -/
structure Clockless (disk : Disk) (store : Store) : Prop where
  samples : store.samples = []
  onDisk : SameRecords disk store.disk
  written : ∀ left ∈ store.written, SameRecords disk left

/-- Nothing on record is changed without a look at the clock. -/
theorem StoreOp.run_clockless (op : StoreOp) : Keeps (Clockless disk) (op.run site) := by
  have hstops : Stops (Clockless disk) (onMedium nowUnixMs) := by
    intro store h
    rw [onMedium_nowUnixMs, h.samples]
    exact h
  refine op.run_keeps (Triple.bind readCurrentLease_idle fun _ => Stops.bind hstops)
    (Stops.bind hstops) ?_ ?_
  · exact fun store h => ⟨h.samples, h.onDisk.cut,
      List.forall_mem_cons.mpr ⟨h.onDisk.cut, h.written⟩⟩
  · exact fun _ _ h => ⟨h.samples, h.onDisk, h.written⟩

end

/-! ## Going to sleep -/

/-- Where this puts the cell to sleep: the world it is saved with, and the store that saves it. -/
def StoreOp.fallsAsleep (site : Site) (store : Store) : StoreOp → Option (WorldState × Store)
  | .releaseToSleeping state =>
    if store.lifecycle.observedMode = .draining ∨ store.lifecycle.observedMode = .background then
      some (state, store)
    else none
  | .restoreRecoveredHostMode state =>
    if store.lifecycle.observedMode ≠ .activating then none
    else match store.recoveredObservedMode with
      | some .sleeping => some (state, store)
      | some .draining =>
        if state.backgroundProductionIsRunnable site.host = .ok false then
          some (state, { store with recoveredObservedMode := some .sleeping })
        else none
      | _ => none
  | _ => none

/-- The snapshot has been saved, and then the clock says that the lease has run out. -/
def SavedLate (site : Site) (late : Nat) (state : WorldState) (store : Store) : Prop :=
  ∃ saved, Store.saveSnapshot site state store = .ok () saved ∧ saved.samples = []
    ∧ saved.LateAt late ∧ (acceptTrustedTime late saved.lastTrustedUnixMs).isOk = true
    ∧ saved.lifecycle.revise.isOk = true

/-- An open store is put to sleep, and after the snapshot has been saved its clock says that the
    lease has run out. -/
def SleepsLate (site : Site) (fleet : Fleet) : FleetEvent → Prop
  | .act index op samples _ => ∃ writer earlier late rest state store,
    fleet.writers[index]? = some writer ∧ samples = earlier ++ some late :: rest
      ∧ op.fallsAsleep site (fleet.storeOf writer earlier) = some (state, store)
      ∧ SavedLate site late state store
  | _ => False

section

variable {site : Site}

open Store

variable {α : Type} {late : Nat} {rest : List (Option Nat)} {store : Store}

/-- Had the clock gone on to a time past the lease, the program would have written no more than it
    does where the clock stops. -/
def WritesNoMore (x : Program PersistenceError Store α) (store : Store) (late : Nat)
    (rest : List (Option Nat)) : Prop :=
  (x.final store).LateAt late →
    (x.final (store.before late rest)).disk = (x.final store).disk
      ∧ (x.final (store.before late rest)).written = (x.final store).written

variable {x : Program PersistenceError Store α}

theorem writesNoMore_of_heeds (h : Heeds x) :
    WritesNoMore x store late rest := by
  intro hlate
  have hrun := h store late rest
  rw [Program.final] at hlate
  simp only [Program.final]
  cases hx : x store with
  | ok a s =>
    simp only [hx] at hrun
    rw [hrun]
    exact ⟨rfl, rfl⟩
  | error e s =>
    simp only [hx] at hrun hlate
    rcases hrun with hsame | hstops
    · rw [hsame]
      exact ⟨rfl, rfl⟩
    · obtain ⟨e', s', hrun', hdisk, hwritten⟩ := hstops hlate
      rw [hrun']
      exact ⟨hdisk, hwritten⟩

theorem final_andReturn {β : Type} {b : β} :
    (x >>= fun _ => pure b).final = x.final := by
  funext store
  simp only [Program.final, run_bind]
  cases x store <;> rfl

variable {e : PersistenceError}

theorem writesNoMore_guard {c : Store → Prop} [∀ store, Decidable (c store)]
    (hc : ∀ (store : Store) samples, c { store with samples } ↔ c store) :
    WritesNoMore (do
      let store ← get
      if c store then throw e
      x) store late rest ↔ c store ∨ WritesNoMore x store late rest := by
  have hbefore : c (store.before late rest) ↔ c store := hc store _
  simp only [WritesNoMore, Program.final, run_bind, run_get, run_ite]
  by_cases h : c store
  · simp only [if_pos h, if_pos (hbefore.mpr h), run_throw]
    exact ⟨fun _ => .inl h, fun _ _ => ⟨rfl, rfl⟩⟩
  · have hnot : ¬ c (store.before late rest) := mt hbefore.mp h
    simp only [h, hnot, ↓reduceIte, false_or]

theorem trustedUnixMillis_run (store : Store) :
    trustedUnixMillis store = match store.samples with
      | [] => .error .trustedClockUnavailable store
      | none :: samples => .error .trustedClockUnavailable { store with samples }
      | some sample :: samples =>
        match acceptTrustedTime sample store.lastTrustedUnixMs with
        | .ok lastTrustedUnixMs => .ok lastTrustedUnixMs { store with samples, lastTrustedUnixMs }
        | .error e => .error e { store with samples } := by
  rw [trustedUnixMillis, run_bind, onMedium_nowUnixMs]
  rcases hsamples : store.samples with - | ⟨sample | sample, rest⟩
  · rfl
  · rfl
  · simp only [run_bind, run_get]
    unfold Program.lift
    cases acceptTrustedTime sample store.lastTrustedUnixMs <;> rfl

theorem final_bind {β : Type}
    {f : α → Program PersistenceError Store β} :
    (x >>= f).final store = match x store with
      | .ok a s => (f a).final s
      | .error _ s => s := by
  simp only [Program.final, run_bind]
  cases x store <;> rfl

variable {s : Store}

theorem writesNoMore_of_error {β : Type}
    {f : α → Program PersistenceError Store β} (hx : Heeds x)
    (hrun : x store = .error e s) : WritesNoMore (x >>= f) store late rest := by
  have hstart := hx store late rest
  simp only [hrun] at hstart
  simp only [WritesNoMore, final_bind, hrun]
  intro hlate
  rcases hstart with hsame | hstops
  · rw [hsame]
    exact ⟨rfl, rfl⟩
  · obtain ⟨e', s', hrun', hdisk, hwritten⟩ := hstops hlate
    rw [hrun']
    exact ⟨hdisk, hwritten⟩

theorem writesNoMore_of_ok {β : Type} {a : α}
    {f : α → Program PersistenceError Store β} (hx : Heeds x) (hrun : x store = .ok a s) :
    WritesNoMore (x >>= f) store late rest ↔ WritesNoMore (f a) s late rest := by
  have hstart := hx store late rest
  simp only [hrun] at hstart
  simp only [WritesNoMore, final_bind, hrun, hstart]

/-- The record a store goes to sleep with, and the lock it lets go of. -/
def fallen (site : Site) (state : WorldState) (now : Nat) : Program PersistenceError Store Unit := do
  let store ← get
  let revised ← lift id store.lifecycle.revise
  adopt ((revised.asleep.atFrontier site.host state).stamped now)
  modify fun store => { store with writeEnabled := false }

variable {state : WorldState}

variable {now : Nat}

theorem fallen_unclocked : Unclocked (fallen site state now) :=
  .get (fun _ _ => rfl) fun _ => Unclocked.bind .lift fun _ => Unclocked.bind adopt_unclocked fun _ =>
    .modify fun _ _ => rfl

theorem fallen_run :
    (fallen site state now).final store = match store.lifecycle.revise with
      | .ok revised =>
        { store.adopting ((revised.asleep.atFrontier site.host state).stamped now) with
          writeEnabled := false }
      | .error _ => store := by
  simp only [fallen, Program.final, run_bind, run_get]
  unfold Program.lift
  cases store.lifecycle.revise <;> rfl

theorem writesNoMore_fallen :
    WritesNoMore (trustedUnixMillis >>= fallen site state) store late rest ↔
      ¬ (store.samples = [] ∧ store.LateAt late
        ∧ (acceptTrustedTime late store.lastTrustedUnixMs).isOk = true
        ∧ store.lifecycle.revise.isOk = true) := by
  rcases hsamples : store.samples with - | ⟨sample | sample, samples⟩
  · simp only [WritesNoMore, final_bind, trustedUnixMillis_run, hsamples, before,
      List.nil_append, true_and]
    cases haccepted : acceptTrustedTime late store.lastTrustedUnixMs with
    | error e => simp [Except.isOk, Except.toBool]
    | ok now =>
      simp only [fallen_run]
      cases hrevised : store.lifecycle.revise with
      | error e => simp [Except.isOk, Except.toBool]
      | ok revised => simp [Except.isOk, Except.toBool, adopting]
  · simp [WritesNoMore, final_bind, trustedUnixMillis_run, hsamples, before]
  · simp only [WritesNoMore, final_bind, trustedUnixMillis_run, hsamples, before,
      List.cons_append, reduceCtorEq, false_and, not_false_eq_true, iff_true]
    cases acceptTrustedTime sample store.lastTrustedUnixMs with
    | error e => exact fun _ => ⟨rfl, rfl⟩
    | ok now => exact writesNoMore_of_heeds (Unclocked.heeds fallen_unclocked)

/-- Going to sleep heeds the clock but for that one time. -/
theorem writesNoMore_fallAsleep :
    WritesNoMore (fallAsleep site state) store late rest ↔ ¬ SavedLate site late state store := by
  have hsplit : fallAsleep site state =
      saveSnapshot site state >>= fun _ => trustedUnixMillis >>= fallen site state := rfl
  rw [hsplit]
  cases hsaved : saveSnapshot site state store with
  | error e s =>
    refine iff_of_true (writesNoMore_of_error saveSnapshot_heeds hsaved) ?_
    rintro ⟨saved, hok, -⟩
    rw [hsaved] at hok
    exact nomatch hok
  | ok u saved =>
    rw [writesNoMore_of_ok saveSnapshot_heeds hsaved, writesNoMore_fallen]
    apply not_congr
    constructor
    · intro h
      exact ⟨saved, hsaved, h⟩
    · rintro ⟨found, hok, h⟩
      obtain rfl : saved = found := by
        rw [hsaved] at hok
        exact (EStateM.Result.ok.inj hok).2
      exact h

theorem writesNoMore_forget :
    WritesNoMore (forget x) store late rest ↔ WritesNoMore x store late rest := by
  unfold forget WritesNoMore
  rw [final_andReturn]

theorem writesNoMore_get {f : Store → Program PersistenceError Store α}
    (hread : ∀ (store : Store) samples, f { store with samples } = f store) :
    WritesNoMore (get >>= f) store late rest ↔ WritesNoMore (f store) store late rest := by
  have hsame : f (store.before late rest) = f store := hread store _
  simp only [WritesNoMore, final_bind, run_get, hsame]

theorem writesNoMore_lift {β ε : Type} {wrap : ε → PersistenceError} {y : Except ε α}
    {f : α → Program PersistenceError Store β} :
    WritesNoMore (lift wrap y >>= f) store late rest ↔
      ∀ a, y = .ok a → WritesNoMore (f a) store late rest := by
  cases y with
  | ok a =>
    have hrun : ∀ s : Store, lift wrap (.ok a) s = .ok a s := fun _ => by unfold Program.lift; rfl
    simp [WritesNoMore, final_bind, hrun]
  | error e =>
    have hrun : ∀ s : Store, (lift wrap (.error e) : Program _ Store α) s = .error (wrap e) s :=
      fun _ => by unfold Program.lift; rfl
    simp [WritesNoMore, final_bind, hrun, before]

theorem writesNoMore_trusted : WritesNoMore trustedUnixMillis store late rest := by
  intro _
  simp only [Program.final, trustedUnixMillis_run]
  rcases hsamples : store.samples with - | ⟨sample | sample, samples⟩
  · simp only [before, hsamples, List.nil_append]
    cases acceptTrustedTime late store.lastTrustedUnixMs <;> exact ⟨rfl, rfl⟩
  · simp [before, hsamples]
  · simp only [before, hsamples, List.cons_append]
    cases acceptTrustedTime sample store.lastTrustedUnixMs <;> exact ⟨rfl, rfl⟩

theorem writesNoMore_restoreSleeping :
    WritesNoMore (restoreSleeping site state) store late rest ↔
      store.lifecycle.observedMode ≠ .activating ∨ ¬ SavedLate site late state store := by
  refine (writesNoMore_guard fun _ _ => Iff.rfl).trans (or_congr_right ?_)
  rw [← writesNoMore_fallAsleep]
  unfold WritesNoMore
  rw [final_andReturn]

theorem writesNoMore_restoreRecoveredHostMode :
    WritesNoMore (restoreRecoveredHostMode site state) store late rest ↔
      ¬ ∃ saved asleep, (StoreOp.restoreRecoveredHostMode state).fallsAsleep site store
          = some (saved, asleep) ∧ SavedLate site late saved asleep := by
  refine (writesNoMore_get fun _ _ => rfl).trans ?_
  cases hrecovered : store.recoveredObservedMode with
  | none =>
    refine iff_of_true (writesNoMore_of_heeds (Unclocked.heeds .pure)) ?_
    simp [StoreOp.fallsAsleep, hrecovered]
  | some mode =>
    cases mode with
    | activating | active =>
      refine iff_of_true (writesNoMore_of_heeds (Unclocked.heeds .pure)) ?_
      simp [StoreOp.fallsAsleep, hrecovered]
    | background =>
      refine iff_of_true (writesNoMore_of_heeds restoreBackground_heeds) ?_
      simp [StoreOp.fallsAsleep, hrecovered]
    | sleeping =>
      refine writesNoMore_restoreSleeping.trans ?_
      by_cases hmode : store.lifecycle.observedMode = .activating
      · simp [StoreOp.fallsAsleep, hrecovered, hmode]
      · simp [StoreOp.fallsAsleep, hmode]
    | draining =>
      -- The mode the cell was draining to is settled by the world, and then kept.
      cases hrunnable : state.backgroundProductionIsRunnable site.host with
      | error e =>
        refine iff_of_true (writesNoMore_lift.mpr fun _ hok => nomatch hok) ?_
        simp [StoreOp.fallsAsleep, hrecovered, hrunnable]
      | ok runnable =>
        refine writesNoMore_lift.trans ?_
        simp only [Except.ok.injEq, forall_eq']
        refine (writesNoMore_of_ok (Unclocked.modify fun _ _ => rfl).heeds rfl).trans ?_
        cases runnable with
        | true =>
          refine iff_of_true (writesNoMore_of_heeds restoreBackground_heeds) ?_
          simp [StoreOp.fallsAsleep, hrecovered, hrunnable]
        | false =>
          refine writesNoMore_restoreSleeping.trans ?_
          by_cases hmode : store.lifecycle.observedMode = .activating
          · simp [StoreOp.fallsAsleep, hrecovered, hrunnable, hmode]
          · simp [StoreOp.fallsAsleep, hmode]

theorem StoreOp.writesNoMore_iff (op : StoreOp) :
    WritesNoMore (op.run site) store late rest ↔
      ¬ ∃ state asleep, op.fallsAsleep site store = some (state, asleep)
        ∧ SavedLate site late state asleep := by
  have hheeds : ∀ {x : Program PersistenceError Store Unit}, Heeds x →
      (WritesNoMore x store late rest ↔ ¬ ∃ state asleep,
        (none : Option (WorldState × Store)) = some (state, asleep)
          ∧ SavedLate site late state asleep) :=
    fun h => iff_of_true (writesNoMore_of_heeds h) (by simp)
  cases op with
  | acceptedTrustedTime =>
    exact iff_of_true (writesNoMore_forget.mpr writesNoMore_trusted) (by simp [fallsAsleep])
  | renewLease => exact hheeds renewLease_heeds
  | loadWorld heartbeats => exact hheeds (Heeds.bind loadWorld_heeds fun _ => (Unclocked.heeds .pure))
  | publishActive state => exact hheeds publishActive_heeds
  | transitionMode desiredMode observedMode state => exact hheeds transitionMode_heeds
  | releaseToSleeping state =>
    refine (writesNoMore_guard fun _ _ => Iff.rfl).trans ?_
    rw [writesNoMore_fallAsleep]
    by_cases hmode : store.lifecycle.observedMode = .draining
        ∨ store.lifecycle.observedMode = .background
    · have hawake : ¬ (store.lifecycle.observedMode ≠ .draining
          ∧ store.lifecycle.observedMode ≠ .background) := by tauto
      simp [fallsAsleep, hmode, hawake]
    · have hasleep : store.lifecycle.observedMode ≠ .draining
          ∧ store.lifecycle.observedMode ≠ .background := by tauto
      simp [fallsAsleep, hasleep]
  | restoreRecoveredHostMode state =>
    exact writesNoMore_forget.trans writesNoMore_restoreRecoveredHostMode
  | commitWorldEvent event state next => exact hheeds commitWorldEvent_heeds
  | acknowledgeProductionSequence state => exact hheeds acknowledgeProductionSequence_heeds
  | appendEvent event => exact hheeds appendEvent_heeds
  | saveSnapshot state => exact hheeds saveSnapshot_heeds

end

/-! ## What a fleet keeps -/

/-- A store of a fleet: it works under the fence on record, or it has let go. -/
structure Guard (fence : Nat) (writer : Writer) : Prop where
  overtaken : writer.fencingToken ≤ fence
  enabled : writer.writeEnabled = true →
    writer.fencingToken = fence ∧ writer.lifecycle.fencingToken = fence
  disabled : writer.writeEnabled = false → writer.lifecycle.expiresAtUnixMs = none

structure Guarded (fleet : Fleet) : Prop where
  inOrder : InOrder fleet.disk
  writers : ∀ writer ∈ fleet.writers, Guard fleet.disk.fence writer

section

variable {site : Site} {fleet : Fleet} {disk : Disk} {writer : Writer} {fence : Nat}
  {samples : List (Option Nat)}

/-- What holds of the disk before, and of every content written, holds of the one a crash
    leaves. -/
theorem of_cutOff {P : Disk → Prop} {written : List Disk} {cut} (hdisk : P disk)
    (hwritten : ∀ disk ∈ written, P disk) (hcut : cutOff disk written cut = some left) :
    P left := by
  cases cut with
  | none => simp [cutOff] at hcut
  | some writes =>
    have hmem := List.dropLast_subset _ (List.mem_of_getElem? hcut)
    rcases List.mem_cons.mp hmem with rfl | hleft
    · exact hdisk
    · exact hwritten left (List.mem_reverse.mp hleft)

theorem Guard.mono {later : Nat} (h : Guard fence writer) (hle : fence ≤ later)
    (hdisabled : writer.writeEnabled = false) : Guard later writer where
  overtaken := h.overtaken.trans hle
  enabled henabled := by simp [hdisabled] at henabled
  disabled := h.disabled

/-- A store of a fleet that may write works under the fence on record. -/
theorem Guarded.under (h : Guarded fleet) (hwriter : writer ∈ fleet.writers)
    (henabled : writer.writeEnabled = true) :
    Under fleet.disk.fence (fleet.storeOf writer samples) :=
  have hguard := (h.writers writer hwriter).enabled henabled
  ⟨⟨by simp [Fleet.storeOf], h.inOrder, rfl⟩, hguard.1, hguard.2, henabled⟩

/-- One that may not has let go. -/
theorem Guarded.dormant (h : Guarded fleet) (hwriter : writer ∈ fleet.writers)
    (hdisabled : writer.writeEnabled = false) :
    Dormant writer.fencingToken fleet.disk (fleet.storeOf writer samples) where
  disabled := hdisabled
  token := rfl
  expires := (h.writers writer hwriter).disabled hdisabled
  onDisk := ⟨rfl, rfl, rfl⟩
  written := by simp [Fleet.storeOf]

theorem SameRecords.headed {changed : Disk} (h : SameRecords disk changed)
    (hdisk : Headed fence disk) : Headed fence changed :=
  hdisk.of_files h.journal h.snapshot h.lifecycle

/-- However a store ends what it was asked, it is still guarded, and the disk in order. -/
theorem Guarded.acted (h : Guarded fleet) (hwriter : writer ∈ fleet.writers) (site : Site)
    (op : StoreOp) (samples : List (Option Nat)) :
    Guard fleet.disk.fence ((op.run site).final (fleet.storeOf writer samples)).toWriter
      ∧ Headed fleet.disk.fence ((op.run site).final (fleet.storeOf writer samples)).disk
      ∧ ∀ left ∈ ((op.run site).final (fleet.storeOf writer samples)).written,
          Headed fleet.disk.fence left := by
  cases henabled : writer.writeEnabled with
  | true =>
    have hworks : Triple (Under fleet.disk.fence) (op.run site)
        (fun _ => UnderOrLetGo fleet.disk.fence) fun _ => Under fleet.disk.fence := op.run_under
    have hunder : Under fleet.disk.fence (fleet.storeOf writer samples) :=
      h.under hwriter henabled
    have hrun : UnderOrLetGo fleet.disk.fence
        ((op.run site).final (fleet.storeOf writer samples)) := by
      rw [Program.final]
      cases hx : op.run site (fleet.storeOf writer samples) with
      | ok a s => exact hworks.ok hunder hx
      | error e s => exact .inl (hworks.error hunder hx)
    rcases hrun with hunder | hletGo
    · refine ⟨⟨hunder.token.le, fun _ => ⟨hunder.token, hunder.held⟩, fun hdisabled => ?_⟩,
        hunder.medium.disk, hunder.medium.written⟩
      have henabled' := hunder.enabled
      rw [hdisabled] at henabled'
      cases henabled'
    · refine ⟨⟨hletGo.token.le, fun henabled => ?_, fun _ => hletGo.expires⟩,
        hletGo.medium.disk, hletGo.medium.written⟩
      have hdisabled := hletGo.disabled
      rw [henabled] at hdisabled
      cases hdisabled
  | false =>
    have hkeeps : Keeps (Dormant writer.fencingToken fleet.disk) (op.run site) := op.run_dormant
    have hrun : Dormant writer.fencingToken fleet.disk
        ((op.run site).final (fleet.storeOf writer samples)) :=
      hkeeps.final (h.dormant hwriter henabled)
    have hdisk : Headed fleet.disk.fence fleet.disk := ⟨h.inOrder, rfl⟩
    refine ⟨⟨?_, fun henabled => ?_, fun _ => hrun.expires⟩, hrun.onDisk.headed hdisk,
      fun left hleft => (hrun.written left hleft).headed hdisk⟩
    · rw [hrun.token]
      exact (h.writers writer hwriter).overtaken
    · rw [hrun.disabled] at henabled
      cases henabled

theorem Guarded.locked_eq_false (h : fleet.locked = false) (hwriter : writer ∈ fleet.writers) :
    writer.writeEnabled = false := by
  rw [Fleet.locked, List.any_eq_false] at h
  simpa using h writer hwriter

/-- A disk in order under a fence not before the one there was keeps the stores that have let go
    guarded. -/
theorem Guarded.overtake (h : Guarded fleet) (hlocked : fleet.locked = false)
    (hheaded : Headed fence disk) (hle : fleet.disk.fence ≤ fence) :
    Guarded { fleet with disk } := by
  obtain ⟨hin, rfl⟩ := hheaded
  exact ⟨hin, fun writer hwriter =>
    (h.writers writer hwriter).mono hle (locked_eq_false hlocked hwriter)⟩

/-- Taking a cell leaves the disk as it was, or issues a fence past everything on record. -/
structure Overtaken (fleet next : Fleet) : Prop where
  guarded : Guarded next
  disk : next.disk = fleet.disk ∨ Issued fleet.disk next.disk.fence
  writers : ∀ writer ∈ next.writers, writer ∈ fleet.writers ∨ Issued fleet.disk writer.fencingToken

theorem Guarded.takeOver (h : Guarded fleet) (holderId : String) (samples : List (Option Nat))
    (cut : Option Nat) : Overtaken fleet (fleet.step site (.takeOver holderId samples cut)) := by
  have hopens : Triple _ (openForCell site holderId) _ _ := openForCell_under h.inOrder
  have hstill : Overtaken fleet fleet := ⟨h, .inl rfl, fun _ hwriter => .inl hwriter⟩
  rw [Fleet.step]
  cases hlocked : fleet.locked with
  | true => exact hstill
  | false =>
    -- A crash leaves what there was, or something written under the new fence.
    have hleft : ∀ {fence : Nat} {left : Disk}, Issued fleet.disk fence →
        (left = fleet.disk ∨ Headed fence left) → Overtaken fleet { fleet with disk := left } := by
      intro fence left hissued hleft
      rcases hleft with rfl | hheaded
      · exact hstill
      · exact ⟨h.overtake hlocked hheaded hissued.le, .inr (hheaded.2 ▸ hissued),
          fun _ hwriter => .inl hwriter⟩
    simp only [Bool.false_eq_true, ↓reduceIte]
    cases hopened : openForCell site holderId { disk := fleet.disk, written := [], samples } with
    | ok writer medium =>
      obtain ⟨hissued, hunder⟩ := hopens.ok ⟨rfl, rfl⟩ hopened
      cases hcut : cutOff fleet.disk medium.written cut with
      | some left =>
        simp only [hcut]
        exact hleft hissued (of_cutOff (P := fun left => left = fleet.disk ∨ Headed _ left) (.inl rfl)
          (fun disk hdisk => .inr (hunder.medium.written disk hdisk)) hcut)
      | none =>
        simp only [hcut]
        have hovertaken := h.overtake hlocked hunder.medium.disk hissued.le
        have hguard : Guard medium.disk.fence writer := by
          rw [hunder.medium.disk.2]
          refine ⟨Nat.le_refl _, fun _ => ⟨rfl, hunder.held⟩, fun hdisabled => ?_⟩
          have henabled : writer.writeEnabled = true := hunder.enabled
          rw [hdisabled] at henabled
          exact nomatch henabled
        refine ⟨⟨hovertaken.inOrder, fun found hfound => ?_⟩,
          .inr (hunder.medium.disk.2 ▸ hissued), fun found hfound => ?_⟩
        · rcases List.mem_append.mp hfound with hold | hnew
          · exact hovertaken.writers found hold
          · obtain rfl : found = writer := by simpa using hnew
            exact hguard
        · rcases List.mem_append.mp hfound with hold | hnew
          · exact .inl hold
          · obtain rfl : found = writer := by simpa using hnew
            exact .inr hissued
    | error e medium =>
      rcases hopens.error ⟨rfl, rfl⟩ hopened with ⟨hdisk, hwritten⟩ | ⟨fence, hissued, hunder⟩
      · have hsame : (cutOff fleet.disk medium.written cut).getD medium.disk = fleet.disk := by
          rw [hwritten, hdisk]
          cases cut <;> simp [cutOff]
        simp only [hsame]
        exact hstill
      · cases hcut : cutOff fleet.disk medium.written cut with
        | none =>
          simp only [hcut, Option.getD_none]
          exact hleft hissued (.inr hunder.disk)
        | some left =>
          simp only [hcut, Option.getD_some]
          exact hleft hissued (of_cutOff (P := fun left => left = fleet.disk ∨ Headed _ left) (.inl rfl)
            (fun disk hdisk => Or.inr (hunder.written disk hdisk)) hcut)

theorem Guarded.act (h : Guarded fleet) (index : Nat) (op : StoreOp) (samples : List (Option Nat))
    (cut : Option Nat) : Guarded (fleet.step site (.act index op samples cut)) := by
  rw [Fleet.step]
  cases hwriter : fleet.writers[index]? with
  | none => exact h
  | some writer =>
    obtain ⟨hguard, hdisk, hwritten⟩ :=
      h.acted (List.mem_of_getElem? hwriter) site op samples
    simp only
    cases hcut : cutOff fleet.disk
        ((op.run site).final (fleet.storeOf writer samples)).written cut with
    | some left =>
      have hheaded : Headed fleet.disk.fence left := of_cutOff ⟨h.inOrder, rfl⟩ hwritten hcut
      refine ⟨hheaded.1, fun found hfound => ?_⟩
      rw [hheaded.2]
      exact h.writers found (List.mem_of_mem_eraseIdx hfound)
    | none =>
      refine ⟨hdisk.1, fun found hfound => ?_⟩
      rw [hdisk.2]
      rcases List.mem_or_eq_of_mem_set hfound with hold | rfl
      · exact h.writers found hold
      · exact hguard

theorem Guarded.step (h : Guarded fleet) (event : FleetEvent) : Guarded (fleet.step site event) := by
  cases event with
  | takeOver holderId samples cut => exact (h.takeOver holderId samples cut).guarded
  | act index op samples cut => exact h.act index op samples cut
  | quit index =>
    exact ⟨h.inOrder, fun writer hwriter => h.writers writer (List.mem_of_mem_eraseIdx hwriter)⟩

theorem guarded_run (events : List FleetEvent) : Guarded (Fleet.run site events) := by
  have hfold : ∀ fleet, Guarded fleet → Guarded (events.foldl (Fleet.step site) fleet) := by
    induction events with
    | nil => exact fun _ h => h
    | cons event rest ih => exact fun _ h => ih _ (h.step event)
  exact hfold .empty ⟨inOrder_empty, by simp [Fleet.empty]⟩

end

/-! ## Fencing -/

/-- What a step of a fleet does about fences. -/
def FencedStep (site : Site) (fleet : Fleet) : FleetEvent → Prop
  -- A fence newly issued, on record or to a store, is past every fence on record.
  | .takeOver holderId samples cut =>
    let next := fleet.step site (.takeOver holderId samples cut)
    (next.disk = fleet.disk ∨ Issued fleet.disk next.disk.fence)
      ∧ ∀ writer ∈ next.writers, writer ∈ fleet.writers ∨ Issued fleet.disk writer.fencingToken
  | .act index op samples cut => ∀ writer, fleet.writers[index]? = some writer →
    -- A store that let go, or whose fence was overtaken, changes nothing on record.
    (writer.writeEnabled = false ∨ writer.fencingToken < fleet.disk.fence →
        SameRecords fleet.disk (fleet.step site (.act index op samples cut)).disk)
    -- None changes anything there before it has looked at the clock,
      ∧ SameRecords fleet.disk (fleet.step site (.act index op [] cut)).disk
    -- and one that reads a time past its lease writes no more.
      ∧ ∀ earlier late rest, samples = earlier ++ some late :: rest →
          WritesNoMore (op.run site) (fleet.storeOf writer earlier) late rest
  | .quit index => (fleet.step site (.quit index)).disk = fleet.disk

section

variable {site : Site} {fleet : Fleet}

variable {index : Nat} {writer : Writer}

theorem Guarded.released_still (h : Guarded fleet)
    (hwriter : fleet.writers[index]? = some writer)
    (hreleased : writer.writeEnabled = false ∨ writer.fencingToken < fleet.disk.fence)
    (op : StoreOp) (samples : List (Option Nat)) (cut : Option Nat) :
    SameRecords fleet.disk (fleet.step site (.act index op samples cut)).disk := by
  have hmem : writer ∈ fleet.writers := List.mem_of_getElem? hwriter
  have hdisabled : writer.writeEnabled = false := by
    rcases hreleased with hdisabled | hbefore
    · exact hdisabled
    · -- A store that may write is not overtaken.
      rw [← Bool.not_eq_true]
      intro henabled
      have := ((h.writers writer hmem).enabled henabled).1
      omega
  have hkeeps : Keeps (Dormant writer.fencingToken fleet.disk) (op.run site) := op.run_dormant
  have hrun : Dormant writer.fencingToken fleet.disk
      ((op.run site).final (fleet.storeOf writer samples)) :=
    hkeeps.final (h.dormant hmem hdisabled)
  rw [Fleet.step]
  simp only [hwriter]
  cases hcut : cutOff fleet.disk
      ((op.run site).final (fleet.storeOf writer samples)).written cut with
  | none => exact hrun.onDisk
  | some left => exact of_cutOff ⟨rfl, rfl, rfl⟩ hrun.written hcut

theorem clockless_still
    (hwriter : fleet.writers[index]? = some writer) (op : StoreOp) (cut : Option Nat) :
    SameRecords fleet.disk (fleet.step site (.act index op [] cut)).disk := by
  have hkeeps : Keeps (Clockless fleet.disk) (op.run site) := op.run_clockless
  have hrun : Clockless fleet.disk ((op.run site).final (fleet.storeOf writer [])) :=
    hkeeps.final ⟨rfl, ⟨rfl, rfl, rfl⟩, by simp [Fleet.storeOf]⟩
  rw [Fleet.step]
  simp only [hwriter]
  cases hcut : cutOff fleet.disk ((op.run site).final (fleet.storeOf writer [])).written cut with
  | none => exact hrun.onDisk
  | some left => exact of_cutOff ⟨rfl, rfl, rfl⟩ hrun.written hcut

/-- A guarded fleet makes a fenced step exactly when no store goes to sleep late. -/
theorem Guarded.fencedStep_iff (h : Guarded fleet) (event : FleetEvent) :
    FencedStep site fleet event ↔ ¬ SleepsLate site fleet event := by
  cases event with
  | takeOver holderId samples cut =>
    have htaken : Overtaken fleet (fleet.step site (.takeOver holderId samples cut)) :=
      h.takeOver holderId samples cut
    exact iff_of_true ⟨htaken.disk, htaken.writers⟩ id
  | quit index => exact iff_of_true rfl id
  | act index op samples cut =>
    constructor
    · rintro hfenced ⟨writer, earlier, late, rest, state, store, hwriter, hsamples, hasleep, hlate⟩
      have hheeds := (hfenced writer hwriter).2.2 earlier late rest hsamples
      exact op.writesNoMore_iff.mp hheeds ⟨state, store, hasleep, hlate⟩
    · intro hawake writer hwriter
      refine ⟨fun hreleased => h.released_still hwriter hreleased op samples cut,
        clockless_still hwriter op cut, ?_⟩
      intro earlier late rest hsamples
      refine op.writesNoMore_iff.mpr ?_
      rintro ⟨state, store, hasleep, hlate⟩
      exact hawake ⟨writer, earlier, late, rest, state, store, hwriter, hsamples, hasleep, hlate⟩

end

/-- Whatever has happened on a root, the journal ascends, and the next step is fenced exactly
    when it does not put a cell to sleep on a lease that its clock says has run out. -/
theorem writers_are_fenced_iff (site : Site) (events : List FleetEvent) (event : FleetEvent) :
    (Fleet.run site events).disk.Ascends
      ∧ (FencedStep site (Fleet.run site events) event
        ↔ ¬ SleepsLate site (Fleet.run site events) event) :=
  have hguarded : Guarded (Fleet.run site events) := guarded_run events
  ⟨hguarded.inOrder.ascends, hguarded.fencedStep_iff event⟩

/-! ## A cell that goes to sleep late

The small cell is drained and released. The clock stands still until its snapshot is saved, and
then says that the lease ran out long ago. -/

/-- The small cell, under the first fence. -/
def drainingWorld : WorldState := { proofGenesis with fencingToken := 1 }

def standingStill (readings : Nat) : List (Option Nat) := List.replicate readings (some 1000000)

def drainedFleet : List FleetEvent := [
  .takeOver "holder-1" (standingStill 9) none,
  .act 0 (.loadWorld 0) (standingStill 9) none,
  .act 0 (.publishActive drainingWorld) (standingStill 9) none,
  .act 0 (.transitionMode .sleeping .draining drainingWorld) (standingStill 9) none]

/-- Its lease runs out between the snapshot and the record. -/
def lateRelease : FleetEvent :=
  .act 0 (.releaseToSleeping drainingWorld) (standingStill 4 ++ [some 2000000]) none

/-- The lease ran out while the snapshot was saved, and the writer still writes the sleeping
    record. -/
theorem not_writers_are_fenced :
    ¬ ((Fleet.run proofSite drainedFleet).disk.Ascends
      ∧ FencedStep proofSite (Fleet.run proofSite drainedFleet) lateRelease) := by
  have hrun : (Fleet.run proofSite drainedFleet).writers[0]?.any fun writer =>
      let store := (Fleet.run proofSite drainedFleet).storeOf writer (standingStill 4)
      decide (writer.lifecycle.observedMode = .draining)
        && match Store.saveSnapshot proofSite drainingWorld store with
          | .ok _ saved => decide (saved.samples = [])
            && saved.lifecycle.expiresAtUnixMs.all (fun expires => decide (expires ≤ 2000000))
            && (acceptTrustedTime 2000000 saved.lastTrustedUnixMs).isOk
            && saved.lifecycle.revise.isOk
          | .error _ _ => false := by decide +kernel
  obtain ⟨writer, hwriter, hfound⟩ := (Option.any_eq_true _ _).mp hrun
  cases hsaved : Store.saveSnapshot proofSite drainingWorld
      ((Fleet.run proofSite drainedFleet).storeOf writer (standingStill 4)) with
  | error e saved => simp [hsaved] at hfound
  | ok u saved =>
    simp only [hsaved, Bool.and_eq_true, decide_eq_true_eq] at hfound
    obtain ⟨hdraining, ⟨⟨hsamples, hlate⟩, haccepted⟩, hrevised⟩ := hfound
    rintro ⟨-, hfenced⟩
    refine (guarded_run _).fencedStep_iff lateRelease |>.mp hfenced ?_
    refine ⟨writer, standingStill 4, 2000000, [], drainingWorld, _, hwriter, rfl, ?_, saved, hsaved,
      hsamples, ?_, haccepted, hrevised⟩
    · exact if_pos (.inl hdraining)
    · intro expires hexpires
      have hexpired : saved.lifecycle.expiresAtUnixMs = some expires := hexpires
      simpa [hexpired] using hlate

end Verse.Runtime
