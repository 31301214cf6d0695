import Verse.Persistence.Tended

/-!
# What is written on a lease

A store reads the clock as it goes, and what it reads may be past the end of its lease. There
are two things to say. A store whose lease is spent by the time it last trusted, or that has
none, does nothing (`Stops`); and a store that comes to read a late clock in the middle of what
it does writes nothing after that (`Heeds`): it leaves the disk as it would have had the clock
stopped there.
-/

namespace Verse.Persistence

open Lib Lib.Program

namespace Store

/-- At this time the lease of the store, if it has one, has run out. -/
def LateAt (store : Store) (now : Nat) : Prop :=
  ∀ expiresAtUnixMs ∈ store.lifecycle.expiresAtUnixMs, expiresAtUnixMs ≤ now

/-- The lease has run out by the time the store last trusted. -/
def Spent (store : Store) : Prop := store.LateAt store.lastTrustedUnixMs

/-- A condition of stores whose lease is spent, that survives looking at the clock. -/
structure Idle (P : Store → Prop) : Prop where
  spent : ∀ store, P store → store.Spent
  samples : ∀ store samples, P store → P { store with samples }
  trusted : ∀ store lastTrustedUnixMs, store.lastTrustedUnixMs ≤ lastTrustedUnixMs → P store →
    P { store with lastTrustedUnixMs }

/-- The store stops, and the condition is kept. -/
abbrev Stops {α : Type} (P : Store → Prop) (x : Program PersistenceError Store α) : Prop :=
  Triple P x (fun _ _ => False) fun _ => P

variable {state : WorldState} {desiredMode observedMode : LifecycleMode}
   {lifecycle : CellLifecycleRecord} {event : CanonicalEvent}

section

variable {P : Store → Prop} {site : Site} {α β : Type} {x : Program PersistenceError Store α}

theorem Stops.bind {f} {Q : β → Store → Prop} (h : Stops P x) : Triple P (x >>= f) Q fun _ => P :=
  Triple.bind h fun _ _ hfalse => hfalse.elim

/-- A record found live is the one held, and its lease has not run out. -/
theorem live_of_validateLiveLeaseRecord {expected found} {fencingToken nowUnixMs : Nat}
    (h : validateLiveLeaseRecord expected fencingToken found nowUnixMs = .ok ()) :
    ∃ expiresAtUnixMs, expected.expiresAtUnixMs = some expiresAtUnixMs
      ∧ nowUnixMs < expiresAtUnixMs := by
  have hsame := eq_of_validateLiveLeaseRecord h
  simp only [validateLiveLeaseRecord, bind_eq_ok, rejectIf_eq_ok, demand_eq_ok] at h
  obtain ⟨_, -, _, -, expires, hexpires, hlive⟩ := h
  exact ⟨expires, hsame ▸ hexpires, Nat.lt_of_not_ge hlive⟩

theorem le_acceptTrustedTime {sample previous now : Nat}
    (h : acceptTrustedTime sample previous = .ok now) : sample ≤ now ∧ previous ≤ now := by
  simp only [acceptTrustedTime, bind_eq_ok, pure_eq_ok] at h
  obtain ⟨_, -, rfl⟩ := h
  exact ⟨Nat.le_max_left _ _, Nat.le_max_right _ _⟩

/-- No record is found live once the lease has run out. -/
theorem not_live_of_lateAt {store : Store} {found} {now : Nat} (hlate : store.LateAt now) :
    validateLiveLeaseRecord store.lifecycle store.fencingToken found now ≠ .ok () := by
  intro hlive
  obtain ⟨expires, hexpires, hbefore⟩ := live_of_validateLiveLeaseRecord hlive
  exact absurd (hlate expires hexpires) (by omega)

theorem LateAt.mono {store : Store} {now later : Nat} (h : store.LateAt now) (hle : now ≤ later) :
    store.LateAt later :=
  fun expires hexpires => (h expires hexpires).trans hle

theorem nowUnixMs_idle (hP : Idle P) : Keeps P (onMedium nowUnixMs) := by
  refine Triple.zoom fun store hstore medium hmedium => ?_
  obtain rfl : medium = store.toMedium := hmedium
  unfold nowUnixMs
  simp only [run_bind, run_get]
  rcases hsamples : store.samples with - | ⟨sample | sample, rest⟩
  · exact hstore
  · exact hP.samples store rest hstore
  · exact hP.samples store rest hstore

/-- The time accepted is the one trusted from then on. -/
theorem trustedUnixMillis_idle (hP : Idle P) :
    Triple P trustedUnixMillis (fun now store => P store ∧ store.lastTrustedUnixMs = now)
      fun _ => P := by
  refine Triple.bind (nowUnixMs_idle hP) fun sample =>
    Triple.bind_part (·.lastTrustedUnixMs) fun read => ?_
  refine Triple.bind (R := fun now store => P store ∧ store.lastTrustedUnixMs ≤ now)
    (.lift (fun now hnow store h => ⟨h.1, ?_⟩) fun _ _ _ h => h.1) fun now => ?_
  · rw [h.2]
    exact (le_acceptTrustedTime hnow).2
  · exact Triple.bind (.modify (Q := fun _ store => P store ∧ store.lastTrustedUnixMs = now)
      fun store h => ⟨hP.trusted store now h.2 h.1, rfl⟩) fun _ => .pure fun _ h => h

theorem readCurrentLease_idle : Keeps P readCurrentLease := Keeps.get.bind fun _ => .lift

/-- What begins by finding the lease live stops when it is spent. -/
theorem live_stops {found : CellLifecycleRecord} {now : Nat}
    {k : Store → Unit → Program PersistenceError Store α} {Q : α → Store → Prop}
    (hlate : ∀ store, P store → store.LateAt now) :
    Triple P (do
      let store ← get
      lift id (validateLiveLeaseRecord store.lifecycle store.fencingToken found now) >>= k store) Q
      fun _ => P := by
  refine Triple.bind_get fun read h => Triple.bind_lift (fun _ _ _ h => h) fun _ hlive => ?_
  exact absurd hlive (not_live_of_lateAt (hlate read h))

theorem renewLease_stops (hP : Idle P) : Stops P renewLease := by
  refine Triple.bind readCurrentLease_idle fun found => Triple.bind (nowUnixMs_idle hP)
    fun sample => ?_
  refine Triple.bind_get fun read h => Triple.bind_lift (fun _ _ _ h => h) fun now hnow =>
    Triple.bind_lift (fun _ _ _ h => h) fun _ hlive => ?_
  have hlate := (hP.spent read h).mono (le_acceptTrustedTime hnow).2
  exact absurd hlive (not_live_of_lateAt hlate)

/-- What a store cannot renew its lease for, it does not do. -/
theorem verifyLiveLeaseForWrite_stops (hP : Stops P renewLease) :
    Stops P verifyLiveLeaseForWrite := by
  have hattempts : Stops P leaseAttempts :=
    Stops.bind (Stops.bind hP)
  exact Triple.bind Keeps.get fun _ =>
    .ite (fun _ => Stops.bind (.throw fun _ h => h)) fun _ => hattempts

/-- No record is written once the lease has run out by the time just trusted. -/
theorem expired_stops (hP : Idle P) {now : Nat} {y : Program PersistenceError Store Unit} :
    Triple (fun store => P store ∧ store.lastTrustedUnixMs = now) (do
      let store ← get
      let expiresAtUnixMs ← lift id
        (demand store.lifecycle.expiresAtUnixMs .leaseOwnershipChanged)
      if now ≥ expiresAtUnixMs then throw (.leaseExpired expiresAtUnixMs now)
      y) (fun _ _ => False) fun _ => P := by
  refine Triple.bind (R := fun read store => read.LateAt now ∧ P store) (.get ?_) fun read =>
    .given fun hlate => ?_
  · rintro store ⟨h, rfl⟩
    exact ⟨hP.spent store h, h⟩
  refine Triple.bind_lift (fun _ _ _ h => h) fun expires hexpires => ?_
  exact .ite (fun _ => Stops.bind (.throw fun _ h => h)) fun hbefore =>
    absurd (hlate expires (demand_eq_ok.mp hexpires)) hbefore

theorem persistLifecycle_stops (hP : Idle P) :
    Stops P (persistLifecycle lifecycle) :=
  Triple.bind (trustedUnixMillis_idle hP) fun _ => expired_stops hP

/-! What a store goes on to do that cannot renew its lease. -/

variable (hP : Stops P renewLease)

include hP

theorem appendEvent_stops :
    Stops P (appendEvent site event) := Stops.bind (verifyLiveLeaseForWrite_stops hP)

theorem commitWorldEvent_stops {next} :
    Stops P (commitWorldEvent site event state next) :=
  Stops.bind (verifyLiveLeaseForWrite_stops hP)

theorem acknowledgeProductionSequence_stops :
    Stops P (acknowledgeProductionSequence site state) :=
  Stops.bind (verifyLiveLeaseForWrite_stops hP)

theorem saveSnapshot_stops :
    Stops P (saveSnapshot site state) := Stops.bind (verifyLiveLeaseForWrite_stops hP)

theorem publishActive_stops :
    Stops P (publishActive site state) := Stops.bind (verifyLiveLeaseForWrite_stops hP)

theorem transitionMode_stops : Stops P (transitionMode site desiredMode observedMode state) :=
  Stops.bind (verifyLiveLeaseForWrite_stops hP)

theorem releaseToSleeping_stops :
    Stops P (releaseToSleeping site state) :=
  Triple.bind Keeps.get fun _ => .ite (fun _ => Stops.bind (.throw fun _ h => h)) fun _ =>
    Stops.bind (saveSnapshot_stops hP)

theorem restoreSleeping_stops :
    Stops P (restoreSleeping site state) :=
  Triple.bind Keeps.get fun _ => .ite (fun _ => Stops.bind (.throw fun _ h => h)) fun _ =>
    Stops.bind (Stops.bind (saveSnapshot_stops hP))

/-- A cell that has nothing to be taken back to is left alone. -/
theorem restoreRecoveredHostMode_idle
    (hmode : ∀ store recoveredObservedMode, P store → P { store with recoveredObservedMode })
    : Keeps P (restoreRecoveredHostMode site state) := by
  have hasleep : Keeps P (restoreSleeping site state) :=
    (restoreSleeping_stops hP).post fun _ _ hfalse => hfalse.elim
  have hbackground : Keeps P (restoreBackground site state) :=
    Stops.bind (verifyLiveLeaseForWrite_stops hP)
  refine Keeps.get.bind fun store => ?_
  cases store.recoveredObservedMode with
  | none => exact .pure
  | some mode =>
    cases mode with
    | sleeping => exact hasleep
    | background => exact hbackground
    | activating | active => exact .pure
    | draining =>
      exact Keeps.lift.bind fun _ => .bind (.modify fun store h => hmode store _ h) fun _ =>
        .ite hbackground hasleep

/-- Loading a world cuts off an unfinished line, and stops at the first renewal. -/
theorem loadWorld_stops
    (hcut : Keeps P (onMedium (write fun disk => { disk with journalTorn := false })))
    {heartbeats : Nat} : Stops P (loadWorld site heartbeats) := by
  have hbefore : Keeps P (loadWorldBeforeLifecycleReconciliation site) :=
    Keeps.get.bind fun _ => Keeps.lift.bind fun _ => .ite (hcut.bind fun _ => .lift) .lift
  have hrenewal : Keeps P renewLease :=
    hP.post fun _ _ hfalse => hfalse.elim
  refine Triple.bind (hrenewal.times heartbeats) fun _ => Triple.bind (R := fun _ => P)
    (hbefore.attempt.weaken (fun _ h => h) (fun loaded store h => ?_) fun _ _ h => h.elim)
    fun loaded => Stops.bind hP
  cases loaded with
  | ok state | error e => exact h

omit hP

end

/-! ## A late clock in the middle -/

/-- The same store, with a late time to be read after what it was going to read. -/
def before (store : Store) (late : Nat) (rest : List (Option Nat)) : Store :=
  { store with samples := store.samples ++ some late :: rest }

/-- The program neither looks at the clock nor changes what it will say. -/
def Unclocked {α : Type} (x : Program PersistenceError Store α) : Prop :=
  ∀ store samples, x { store with samples } = match x store with
    | .ok a s => .ok a { s with samples }
    | .error e s => .error e { s with samples }

/-- Where the clock turns out to be past the lease, nothing more is written: the program either
    ends before it reads the late time, or it ends with an error where a clock that had stopped
    would have ended it, and leaves the disk as that would have left it. -/
def Heeds {α : Type} (x : Program PersistenceError Store α) : Prop := ∀ store late rest,
  match x store with
  | .ok a s => x (store.before late rest) = .ok a (s.before late rest)
  | .error e s => x (store.before late rest) = .error e (s.before late rest)
      ∨ (s.LateAt late → ∃ e' s', x (store.before late rest) = .error e' s'
          ∧ s'.disk = s.disk ∧ s'.written = s.written)

section

variable {site : Site} {α β : Type} {x : Program PersistenceError Store α}

theorem Unclocked.pure {a : α} : Unclocked (pure a) := fun _ _ => rfl

theorem Unclocked.throw {e} : Unclocked (throw e : Program _ Store α) :=
  fun _ _ => rfl

theorem Unclocked.lift {ε : Type} {wrap : ε → PersistenceError} {y : Except ε α} :
    Unclocked (lift wrap y) := by
  intro store samples
  unfold Program.lift
  cases y <;> rfl

theorem Unclocked.modify {f}
    (hf : ∀ store samples, f { store with samples } = { f store with samples }) :
    Unclocked (modify f : Program PersistenceError Store Unit) := by
  intro store samples
  show EStateM.Result.ok () (f { store with samples }) = .ok () { f store with samples }
  rw [hf]

theorem Unclocked.bind {f : α → Program PersistenceError Store β} (hx : Unclocked x)
    (hf : ∀ a, Unclocked (f a)) : Unclocked (x >>= f) := by
  intro store samples
  rw [run_bind, run_bind, hx]
  cases x store with
  | ok a s => exact hf a s samples
  | error e s => rfl

theorem Unclocked.get {f : Store → Program PersistenceError Store α}
    (hread : ∀ (store : Store) samples, f { store with samples } = f store)
    (hf : ∀ store, Unclocked (f store)) : Unclocked (get >>= f) := by
  intro store samples
  simp only [run_bind, run_get]
  rw [hread]
  exact hf store store samples

theorem Unclocked.ite {c : Prop} [Decidable c] {y} (hx : Unclocked x) (hy : Unclocked y) :
    Unclocked (if c then x else y) := by
  split
  · exact hx
  · exact hy

theorem Unclocked.attempt (h : Unclocked x) : Unclocked (attempt x) := by
  intro store samples
  rw [Program.attempt, Program.attempt, h]
  cases x store with
  | ok a s | error e s => rfl

theorem Unclocked.heeds (h : Unclocked x) : Heeds x := by
  intro store late rest
  have hsame := h store store.samples
  have hlater := h store (store.samples ++ some late :: rest)
  cases hx : x store with
  | ok a s =>
    simp only [hx] at hsame hlater
    have hsamples : s.samples = store.samples := by rw [(EStateM.Result.ok.inj hsame).2]
    show x { store with samples := store.samples ++ some late :: rest } = _
    rw [hlater, before, hsamples]
  | error e s =>
    simp only [hx] at hsame hlater
    have hsamples : s.samples = store.samples := by rw [(EStateM.Result.error.inj hsame).2]
    left
    show x { store with samples := store.samples ++ some late :: rest } = _
    rw [hlater, before, hsamples]

theorem Heeds.bind {f : α → Program PersistenceError Store β} (hx : Heeds x)
    (hf : ∀ a, Heeds (f a)) : Heeds (x >>= f) := by
  intro store late rest
  have hstart := hx store late rest
  rw [run_bind, run_bind]
  cases hrun : x store with
  | ok a s =>
    simp only [hrun] at hstart
    rw [hstart]
    exact hf a s late rest
  | error e s =>
    simp only [hrun] at hstart
    rcases hstart with hsame | hstopped
    · left
      rw [hsame]
    · right
      intro hlate
      obtain ⟨e', s', hrun', hdisk, hwritten⟩ := hstopped hlate
      exact ⟨e', s', by rw [hrun'], hdisk, hwritten⟩

theorem Heeds.get {f : Store → Program PersistenceError Store α}
    (hread : ∀ (store : Store) samples, f { store with samples } = f store)
    (hf : ∀ store, Heeds (f store)) : Heeds (get >>= f) := by
  intro store late rest
  have hsame : f (store.before late rest) = f store := hread store _
  simp only [run_bind, run_get]
  rw [hsame]
  exact hf store store late rest

theorem Heeds.ite {c : Prop} [Decidable c] {y} (hx : Heeds x) (hy : Heeds y) :
    Heeds (if c then x else y) := by
  split
  · exact hx
  · exact hy

theorem Heeds.times {x : Program PersistenceError Store Unit} (h : Heeds x) (n : Nat) :
    Heeds (times x n) := by
  induction n with
  | zero => exact (Unclocked.heeds .pure)
  | succ n ih => exact h.bind fun _ => ih

theorem onMedium_nowUnixMs (store : Store) :
    onMedium nowUnixMs store = match store.samples with
      | some sample :: samples => .ok sample { store with samples }
      | none :: samples => .error .trustedClockUnavailable { store with samples }
      | [] => .error .trustedClockUnavailable store := by
  unfold onMedium Program.zoom nowUnixMs
  simp only [run_bind, run_get]
  rcases hsamples : store.samples with - | ⟨sample | sample, rest⟩ <;> rfl

theorem Heeds.sample {k : Nat → Program PersistenceError Store α} (hk : ∀ sample, Heeds (k sample))
    (hlate : ∀ sample disk written, Triple
      (fun store : Store => store.LateAt sample ∧ store.disk = disk ∧ store.written = written)
      (k sample) (fun _ _ => False) fun _ store => store.disk = disk ∧ store.written = written) :
    Heeds (onMedium nowUnixMs >>= k) := by
  intro store late rest
  rw [run_bind, run_bind, onMedium_nowUnixMs, onMedium_nowUnixMs]
  cases hsamples : store.samples with
  | nil =>
    right
    intro hbefore
    have hend := hlate late store.disk store.written { store with samples := rest }
      ⟨hbefore, rfl, rfl⟩
    simp only [before, hsamples, List.nil_append]
    cases hrun : k late { store with samples := rest } with
    | ok a s =>
      rw [hrun] at hend
      exact hend.elim
    | error e s =>
      rw [hrun] at hend
      exact ⟨e, s, rfl, hend.1, hend.2⟩
  | cons sample samples =>
    cases sample with
    | none =>
      left
      simp only [before, hsamples, List.cons_append]
    | some sample =>
      have hgo := hk sample { store with samples } late rest
      simp only [before, hsamples, List.cons_append] at hgo ⊢
      exact hgo

theorem Heeds.trusted {k : Nat → Program PersistenceError Store α} (hk : ∀ now, Heeds (k now))
    (hlate : ∀ now {P}, Idle P →
      Triple (fun store => P store ∧ store.lastTrustedUnixMs = now) (k now) (fun _ _ => False)
        fun _ => P) :
    Heeds (trustedUnixMillis >>= k) := by
  rw [trustedUnixMillis, bind_assoc]
  refine .sample (fun sample => ?_) fun sample disk written => ?_
  · rw [bind_assoc]
    refine .get (fun _ _ => rfl) fun store => ?_
    rw [bind_assoc]
    refine Heeds.bind (Unclocked.heeds .lift) fun now => ?_
    rw [bind_assoc]
    exact (Unclocked.modify fun _ _ => rfl).heeds.bind fun _ => hk now
  · have hidle : Idle fun store =>
        store.Spent ∧ store.disk = disk ∧ store.written = written := {
      spent := fun _ h => h.1
      samples := fun _ _ h => h
      trusted := fun _ _ hle h => ⟨h.1.mono hle, h.2⟩ }
    have hleft : ∀ (e : PersistenceError) (store : Store),
        store.Spent ∧ store.disk = disk ∧ store.written = written →
          store.disk = disk ∧ store.written = written := fun _ _ h => h.2
    simp only [bind_assoc, pure_bind]
    refine Triple.bind (R := fun _ store => store.LateAt sample ∧ store.disk = disk
      ∧ store.written = written) (.get fun _ h => h) fun read => ?_
    refine Triple.bind_lift (fun _ _ _ h => h.2) fun now hnow => ?_
    have hle := (le_acceptTrustedTime hnow).1
    refine Triple.bind (R := fun _ store => (store.Spent ∧ store.disk = disk
      ∧ store.written = written) ∧ store.lastTrustedUnixMs = now)
      (.modify fun _ h => ⟨⟨h.1.mono hle, h.2⟩, rfl⟩) fun _ => ?_
    exact (hlate now hidle).fail hleft

/-! ## The lease -/

theorem readCurrentLease_unclocked : Unclocked readCurrentLease :=
  .get (fun _ _ => rfl) fun _ => .lift

theorem onMedium_unclocked {y : Program PersistenceError Medium α}
    (h : ∀ medium samples, y { medium with samples } = match y medium with
      | .ok a m => .ok a { m with samples }
      | .error e m => .error e { m with samples }) : Unclocked (onMedium y) := by
  intro store samples
  show Program.zoom _ _ _ _ _ = _
  unfold onMedium Program.zoom
  rw [h store.toMedium samples]
  cases y store.toMedium <;> rfl

theorem write_unclocked {change : Disk → Disk} : Unclocked (onMedium (write change)) :=
  onMedium_unclocked fun _ _ => rfl

theorem adopt_unclocked : Unclocked (adopt lifecycle) :=
  Unclocked.bind write_unclocked fun _ => .modify fun _ _ => rfl

theorem renewLease_heeds : Heeds renewLease := by
  refine Heeds.bind (Unclocked.heeds readCurrentLease_unclocked) fun found => .sample (fun sample => ?_)
    fun sample disk written => ?_
  · refine .get (fun _ _ => rfl) fun store => Unclocked.heeds ?_
    refine Unclocked.bind .lift fun now => Unclocked.bind .lift fun _ => Unclocked.bind .lift fun _ =>
      Unclocked.bind .lift fun _ => ?_
    have hclock : Unclocked (modify fun store => { store with lastTrustedUnixMs := now }) :=
      .modify fun _ _ => rfl
    exact .ite (Unclocked.bind .lift fun _ => Unclocked.bind adopt_unclocked fun _ => hclock) hclock
  · refine Triple.bind (R := fun read store => read.LateAt sample ∧ store.disk = disk
      ∧ store.written = written) (.get fun _ h => h) fun read => .given fun hread => ?_
    refine Triple.bind_lift (fun _ _ _ h => h) fun now hnow => Triple.bind_lift (fun _ _ _ h => h)
      fun _ hlive => ?_
    exact absurd hlive (not_live_of_lateAt (hread.mono (le_acceptTrustedTime hnow).1))

theorem remainingLease_heeds : Heeds remainingLease := by
  refine Heeds.bind renewLease_heeds fun _ => .trusted (fun now => ?_) fun now P hP => ?_
  · exact Heeds.bind (Unclocked.heeds readCurrentLease_unclocked) fun found => .get (fun _ _ => rfl) fun store =>
      Unclocked.heeds (Unclocked.bind .lift fun _ => Unclocked.bind .lift fun _ => .pure)
  · have hlive : ∀ store, P store ∧ store.lastTrustedUnixMs = now → store.LateAt now := by
      rintro store ⟨h, rfl⟩
      exact hP.spent store h
    exact (Triple.bind readCurrentLease_idle fun found => live_stops hlive).fail fun _ _ h => h.1

theorem verifyLiveLeaseForWrite_heeds : Heeds verifyLiveLeaseForWrite := by
  have hattempts : Heeds leaseAttempts :=
    Heeds.bind remainingLease_heeds fun _ => .ite (Unclocked.heeds .pure)
      (Heeds.bind remainingLease_heeds fun _ => .ite (Unclocked.heeds .pure) (Unclocked.heeds .throw))
  exact .get (fun _ _ => rfl) fun _ => .ite (Heeds.bind (Unclocked.heeds .throw) fun _ => hattempts)
    hattempts

theorem persistLifecycle_heeds :
    Heeds (persistLifecycle lifecycle) := by
  refine .trusted (fun now => ?_) fun now P hP => expired_stops hP
  refine .get (fun _ _ => rfl) fun store => Heeds.bind (Unclocked.heeds .lift) fun expires => ?_
  exact .ite (Heeds.bind (Unclocked.heeds .throw) fun _ => (Unclocked.heeds adopt_unclocked)) (Unclocked.heeds adopt_unclocked)

/-- What is done as of a time just trusted, with the store at hand, and would not be done on a
    spent lease. -/
theorem stamped_heeds {k : Nat → Store → Program PersistenceError Store α}
    (hread : ∀ now (store : Store) samples, k now { store with samples } = k now store)
    (hk : ∀ now store, Heeds (k now store))
    (hstops : ∀ now store {P}, Idle P → Stops P (k now store)) :
    Heeds (do
      let now ← trustedUnixMillis
      let store ← get
      k now store) :=
  .trusted (fun now => .get (hread now) (hk now)) fun now _ hP =>
    (Triple.bind Keeps.get fun store => hstops now store hP).pre fun _ h => h.1

theorem Heeds.unless {c : Prop} [Decidable c] {e : PersistenceError}
    {f : Unit → Program PersistenceError Store α} (h : Heeds (f ())) :
    Heeds (if c then MonadExcept.throw e >>= f else f ()) :=
  .ite (Heeds.bind (Unclocked.heeds .throw) fun _ => h) h

/-! ## Committing and saving -/

theorem appendEvent_heeds : Heeds (appendEvent site event) :=
  Heeds.bind verifyLiveLeaseForWrite_heeds fun _ => .get (fun _ _ => rfl) fun _ =>
    .unless (.unless (onMedium_unclocked fun _ _ => rfl).heeds)

theorem commitBoundary_heeds {boundary : DurableTransferBoundary} :
    Heeds (commitBoundary boundary) :=
  (onMedium_unclocked fun _ _ => rfl).heeds.bind fun _ => (Unclocked.modify fun _ _ => rfl).heeds

theorem commitWorldEvent_heeds {next : Option ProductionScheduleOccurrence} :
    Heeds (commitWorldEvent site event state next) := by
  have hconcluded : Heeds (do
      let now ← trustedUnixMillis
      let store ← get
      persistLifecycle (({ store.lifecycle with
        nextProductionOccurrence := next
        pendingWorldCommit := none }.atFrontier site.host state).stamped now)) :=
    stamped_heeds (fun _ _ _ => rfl) (fun _ _ => persistLifecycle_heeds) fun _ _ _ hP =>
      persistLifecycle_stops hP
  refine Heeds.bind verifyLiveLeaseForWrite_heeds fun _ => .get (fun _ _ => rfl) fun store =>
    .unless (.unless (Heeds.bind (Unclocked.heeds .lift) fun _ => ?_))
  refine stamped_heeds (fun _ _ _ => rfl) (fun _ _ => Heeds.bind persistLifecycle_heeds fun _ =>
    Heeds.bind (Unclocked.heeds .lift) fun unlinked => .get (fun _ _ => rfl) fun _ => ?_)
    fun _ _ _ hP => Stops.bind (persistLifecycle_stops hP)
  cases unlinked with
  | none => exact Heeds.bind appendEvent_heeds fun _ => hconcluded
  | some boundary =>
    exact .unless (Heeds.bind appendEvent_heeds fun _ => Heeds.bind commitBoundary_heeds fun _ => hconcluded)

theorem acknowledgeProductionSequence_heeds :
    Heeds (acknowledgeProductionSequence site state) := by
  refine Heeds.bind verifyLiveLeaseForWrite_heeds fun _ => .get (fun _ _ => rfl) fun _ =>
    .ite (Unclocked.heeds .pure) (.unless (stamped_heeds (fun _ _ _ => rfl)
      (fun _ _ => persistLifecycle_heeds) fun _ _ _ hP => persistLifecycle_stops hP))

theorem saveSnapshot_heeds : Heeds (saveSnapshot site state) :=
  Heeds.bind verifyLiveLeaseForWrite_heeds fun _ => .get (fun _ _ => rfl) fun _ =>
    .unless (.unless (Heeds.bind (Unclocked.heeds .lift) fun _ => Heeds.bind (Unclocked.heeds write_unclocked) fun _ =>
      stamped_heeds (fun _ _ _ => rfl) (fun _ _ => persistLifecycle_heeds) fun _ _ _ hP =>
        persistLifecycle_stops hP))

/-! ## Modes -/

theorem enterMode_heeds {activationCutoff : Nat → Option Nat} :
    Heeds (enterMode site desiredMode observedMode activationCutoff state) :=
  stamped_heeds (fun _ _ _ => rfl) (fun _ _ => Heeds.bind (Unclocked.heeds .lift) fun _ =>
    persistLifecycle_heeds) fun _ _ _ hP => Triple.bind Keeps.lift fun _ =>
      persistLifecycle_stops hP

theorem publishActive_heeds : Heeds (publishActive site state) :=
  Heeds.bind verifyLiveLeaseForWrite_heeds fun _ => .get (fun _ _ => rfl) fun _ =>
    .ite (Unclocked.heeds .pure) enterMode_heeds

theorem transitionMode_heeds :
    Heeds (transitionMode site desiredMode observedMode state) :=
  Heeds.bind verifyLiveLeaseForWrite_heeds fun _ => .get (fun _ _ => rfl) fun _ =>
    .ite (Unclocked.heeds .pure) (.unless enterMode_heeds)

theorem restoreBackground_heeds : Heeds (restoreBackground site state) :=
  Heeds.bind verifyLiveLeaseForWrite_heeds fun _ => Heeds.bind enterMode_heeds fun _ => (Unclocked.heeds .pure)

/-! ## Loading -/

theorem loadWorldBeforeLifecycleReconciliation_unclocked :
    Unclocked (loadWorldBeforeLifecycleReconciliation site) :=
  .get (fun _ _ => rfl) fun _ => Unclocked.bind .lift fun _ =>
    .ite (Unclocked.bind write_unclocked fun _ => .lift) .lift

theorem reconcileLifecycleWithWorld_heeds :
    Heeds (reconcileLifecycleWithWorld site state) := by
  refine Heeds.bind (Unclocked.heeds readCurrentLease_unclocked) fun found => stamped_heeds (fun _ _ _ => rfl)
    (fun now store => Heeds.bind (Unclocked.heeds .lift) fun _ => Heeds.bind (Unclocked.heeds .lift) fun _ =>
      persistLifecycle_heeds) fun _ _ _ hP => ?_
  exact Triple.bind Keeps.lift fun _ => Triple.bind Keeps.lift fun _ => persistLifecycle_stops hP

theorem loadWorld_heeds {heartbeats : Nat} : Heeds (loadWorld site heartbeats) :=
  (Heeds.times renewLease_heeds heartbeats).bind fun _ =>
    Heeds.bind (Unclocked.heeds (Unclocked.attempt loadWorldBeforeLifecycleReconciliation_unclocked)) fun _ =>
    Heeds.bind renewLease_heeds fun _ => Heeds.bind (Unclocked.heeds .lift) fun _ =>
    Heeds.bind reconcileLifecycleWithWorld_heeds fun _ => (Unclocked.heeds .pure)

end

end Store
end Verse.Persistence
