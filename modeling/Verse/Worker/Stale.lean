import Mathlib.Data.Finset.Lattice.Lemmas
import Verse.Worker.Supervision

/-!
# Acting on what is no longer so

Of every step of a worker `Kept` says what its supervisor goes by: the mode it read and the
players it looked for are still there, but for what the record of `Watched` says has happened
since. No other task takes a cell out of `Active`, and none but the supervisor lets it sleep, so
the record is enough.
-/

namespace Verse.Worker

open Lib Lib.Program
open Persistence (LifecycleMode)
open Verse.Runtime (RuntimeError)

variable {app : AppState} {mode : LifecycleMode} {found : Findings}

/-! ## What the sections come to -/

namespace Section

theorem advance_run (h : app.hosted = .of .active) : advance app = .ok (.ok ()) app := by
  obtain ⟨hosted⟩ := app
  obtain rfl : hosted = _ := h
  rfl

theorem productionWaitMillis_run (h : app.hosted = .of mode) (hmode : mode ≠ .sleeping) :
    productionWaitMillis found app = .ok (.ok found.waitMillis) app := by
  obtain ⟨hosted⟩ := app
  obtain rfl : hosted = _ := h
  cases mode with
  | sleeping => exact absurd rfl hmode
  | _ => rfl

theorem executeAsAt_final (found : Findings) (h : app.hosted = .of mode) : (executeAsAt found).final app = app := by
  obtain ⟨hosted⟩ := app
  obtain rfl : hosted = _ := h
  obtain ⟨_, _, _, _, refusal⟩ := found
  cases mode <;> cases refusal <;> rfl

theorem drain_run (h : app.hosted = .of .active) :
    drainToBackgroundOrSleeping found app =
      if found.runnable then
        .ok (.ok .background) ({ app with hosted := .of .background }.announce .background)
      else .ok (.ok .sleeping) ({ app with hosted := .of .sleeping }.announce .sleeping) := by
  obtain ⟨hosted⟩ := app
  obtain rfl : hosted = _ := h
  obtain ⟨runnable⟩ := found
  cases runnable <;> rfl

theorem dispatch_run (h : app.hosted = .of .background) :
    backgroundDispatchStep found app =
      if found.scheduled then .ok (.ok .background) app
      else .ok (.ok .sleeping) ({ app with hosted := .of .sleeping }.announce .sleeping) := by
  obtain ⟨hosted⟩ := app
  obtain rfl : hosted = _ := h
  obtain ⟨_, scheduled⟩ := found
  cases scheduled <;> rfl

/-- A dispatch that comes after the cell was woken. -/
theorem dispatch_refused (h : app.hosted = .of mode) (hsleeping : mode ≠ .sleeping)
    (hbackground : mode ≠ .background) :
    backgroundDispatchStep found app = .ok (.error (.lifecycleUnavailable mode)) app := by
  obtain ⟨hosted⟩ := app
  obtain rfl : hosted = _ := h
  cases mode with
  | sleeping => exact absurd rfl hsleeping
  | background => exact absurd rfl hbackground
  | _ => rfl

theorem activation_run (found : Findings) (h : app.hosted = .of mode) (hmode : mode ≠ .draining) :
    ∃ live, activationStep found app = .ok (.ok live)
        { app with
          hosted := .of (if live then .active else .activating)
          authority := .activating }
      ∧ (mode = .active → live = true) := by
  obtain ⟨hosted⟩ := app
  obtain rfl : hosted = _ := h
  obtain ⟨_, _, _, backlog⟩ := found
  cases mode with
  | draining => exact absurd rfl hmode
  | active => exact ⟨true, rfl, fun _ => rfl⟩
  | sleeping | activating | background =>
    refine ⟨!backlog, ?_, nofun⟩
    cases backlog <;> rfl

end Section

/-! ## Activation -/

/-- It has met no error. -/
def Activation.Sound : Activation → Prop
  | .fencing _ | .returned (some _) => False
  | _ => True

/-- What a step of `ensure_active` may do to the worker. -/
structure Roused (progress : Activation) (app app' : AppState) : Prop where
  hosted : app'.hosted = .of app'.hosted.observedMode
  /-- A section leaves the cell on its way to `Active` or there. -/
  stepped : progress = .stepping →
    app'.hosted.observedMode = .active
      ∨ app'.hosted.observedMode = .activating ∧ app.hosted.observedMode ≠ .active
  still : progress ≠ .stepping → app'.hosted = app.hosted
  connected : app'.connectedPlayers = app.connectedPlayers
  unfenced : ∀ source, app'.authority = .fenced source → app.authority = .fenced source

variable {progress : Activation}

theorem Activation.step_roused (task : Task) (found : Findings)
    (h : app.hosted = .of app.hosted.observedMode) (hmode : app.hosted.observedMode ≠ .draining)
    (hsound : progress.Sound) :
    (progress.step task found app).1.Sound
      ∧ Roused progress app (progress.step task found app).2 := by
  cases progress with
  | gate =>
    simp only [Activation.step]
    cases app.activationGate with
    | none | some _ => exact ⟨trivial, h, nofun, fun _ => rfl, rfl, fun _ hfenced => hfenced⟩
  | looking =>
    simp only [Activation.step]
    split
    · exact ⟨trivial, h, nofun, fun _ => rfl, rfl, fun _ hfenced => hfenced⟩
    · exact ⟨trivial, h, nofun, fun _ => rfl, rfl, fun _ hfenced => hfenced⟩
  | stepping =>
    obtain ⟨live, hrun, hlive⟩ := Section.activation_run found h hmode
    cases live with
    | true =>
      simp only [Activation.step, hrun]
      exact ⟨trivial, rfl, fun _ => .inl rfl, fun hne => absurd rfl hne, rfl, nofun⟩
    | false =>
      have hasleep : app.hosted.observedMode ≠ .active := fun hactive =>
        Bool.noConfusion (hlive hactive)
      simp only [Activation.step, hrun]
      exact ⟨trivial, rfl, fun _ => .inr ⟨rfl, hasleep⟩, fun hne => absurd rfl hne, rfl, nofun⟩
  | publishing => exact ⟨trivial, h, nofun, fun _ => rfl, rfl, nofun⟩
  | fencing source => exact hsound.elim
  | returned failure => exact ⟨hsound, h, nofun, fun _ => rfl, rfl, fun _ hfenced => hfenced⟩

/-! ## What the supervisor goes by -/

/-- The state of the worker is still what the supervisor acts on, but for what has happened behind
    its back. -/
def Supervisor.Justified (w : Watched) : Supervisor → Prop
  | .looking | .advancing => w.hosted.observedMode = .active
  | .timing | .publishingDrain | .draining =>
    w.hosted.observedMode = .active ∧ w.connectedPlayers = w.newcomers
  | .measuring | .registering _ | .waiting _ | .dispatching =>
    w.hosted.observedMode ≠ .sleeping ∧ w.hosted.observedMode ≠ .draining
      ∧ (w.stirred = false ↔ w.hosted.observedMode = .background)
  | .activating progress => w.hosted.observedMode ≠ .draining ∧ progress.Sound
  | .pausing | .asleep => w.hosted.observedMode ≠ .draining
  | .reading | .fencing _ | .returned _ => True

/-- No player has been let in yet. -/
def Session.Outside (session : Session) : Prop := session = .away ∨ session = .upgrading

def Session.Sound : Session → Prop
  | .ensuring _ progress => progress.Sound
  | _ => True

structure Kept (w : Watched) : Prop where
  hosted : w.hosted = .of w.hosted.observedMode
  /-- A drain that was found half done is nobody's business. -/
  recovering : w.hosted.observedMode = .draining →
    w.supervisor = .reading ∧ w.admissionBlocked = true ∧ ∀ id, (w.sessions id).Outside
  justified : w.supervisor.Justified w
  sessions : ∀ id, (w.sessions id).Sound

theorem kept_start : Kept (.start mode) where
  hosted := rfl
  recovering h := by
    obtain rfl : mode = .draining := h
    exact ⟨rfl, rfl, fun _ => .inl rfl⟩
  justified := trivial
  sessions _ := trivial

theorem unharmed_start : (Watched.start mode).Unharmed where
  supervising _ := ⟨nofun, nofun⟩
  unfenced source := by cases mode <;> exact nofun
  undisturbed := rfl

/-! ## The supervisor's steps -/

section

variable {w : Watched} {drainAfter : Nat} {signal : Bool} {supervisor : Supervisor}

/-- The supervisor has met no error. -/
def Supervisor.Well (supervisor : Supervisor) : Prop :=
  ∀ source, supervisor ≠ .fencing source ∧ supervisor ≠ .returned source

/-- The supervisor comes to `supervisor` and leaves the worker as `app`. -/
def Watched.after (w : Watched) (supervisor : Supervisor) (app : AppState) : Watched where
  toAppState := app
  supervisor := supervisor
  sessions := w.sessions
  stirred := if w.supervisor = .reading then false else w.stirred
  newcomers := if w.supervisor = .looking then ∅ else w.newcomers
  sleptUnder :=
    if w.supervisor = .draining ∧ w.hosted.observedMode = .active
        ∧ app.hosted.observedMode ≠ .active then
      w.sleptUnder ∪ w.connectedPlayers
    else w.sleptUnder

theorem Watched.step_supervise
    (h : w.supervisor.step drainAfter signal found w.toAppState = (supervisor, app)) :
    w.step drainAfter (.supervise signal found) = w.after supervisor app := by
  simp [Watched.step, Node.step, Watched.stirs, Watched.comes, h, Watched.after]

/-- A step of the supervisor that meets no error, and goes by what is so. -/
structure Onward (w : Watched) (supervisor : Supervisor) (app : AppState) : Prop where
  well : supervisor.Well
  justified : supervisor.Justified (w.after supervisor app)
  hosted : app.hosted = .of app.hosted.observedMode
  mode : app.hosted.observedMode ≠ .draining
  unfenced : ∀ source, app.authority = .fenced source → w.authority = .fenced source

theorem Onward.kept (o : Onward w supervisor app) (h : Kept w) : Kept (w.after supervisor app) :=
  ⟨o.hosted, fun hdraining => absurd hdraining o.mode, o.justified, h.sessions⟩

theorem Onward.unharmed (o : Onward w supervisor app) (h : w.Unharmed)
    (hstays : w.supervisor = .draining → w.connectedPlayers = ∅) :
    (w.after supervisor app).Unharmed := by
  refine ⟨o.well, fun source hfenced => h.unfenced source (o.unfenced source hfenced), ?_⟩
  show (if _ then _ else _) = ∅
  split
  · next hdrained => rw [h.undisturbed, hstays hdrained.1]; rfl
  · exact h.undisturbed

theorem Onward.still (h : Kept w) (hmode : w.hosted.observedMode ≠ .draining)
    (hwell : supervisor.Well) (hjustified : supervisor.Justified (w.after supervisor w.toAppState)) :
    Onward w supervisor w.toAppState :=
  ⟨hwell, hjustified, h.hosted, hmode, fun _ hfenced => hfenced⟩

theorem Supervisor.onward_reading (h : Kept w) (hmode : w.hosted.observedMode ≠ .draining)
    (hat : w.supervisor = .reading)
    (hstep : Supervisor.reading.step drainAfter signal found w.toAppState = (supervisor, app)) :
    Onward w supervisor app := by
  simp only [Supervisor.step] at hstep
  cases hread : w.hosted.observedMode with
  | draining => exact absurd hread hmode
  | active =>
    simp only [hread, Prod.mk.injEq] at hstep
    obtain ⟨rfl, rfl⟩ := hstep
    exact .still h hmode (fun _ => ⟨nofun, nofun⟩) hread
  | background =>
    simp only [hread, Prod.mk.injEq] at hstep
    obtain ⟨rfl, rfl⟩ := hstep
    refine .still h hmode (fun _ => ⟨nofun, nofun⟩) ?_
    simp [Justified, Watched.after, hat, hread]
  | sleeping =>
    simp only [hread, Prod.mk.injEq] at hstep
    obtain ⟨rfl, rfl⟩ := hstep
    exact .still h hmode (fun _ => ⟨nofun, nofun⟩) hmode
  | activating =>
    simp only [hread, Prod.mk.injEq] at hstep
    obtain ⟨rfl, rfl⟩ := hstep
    exact .still h hmode (fun _ => ⟨nofun, nofun⟩) ⟨hmode, trivial⟩

theorem Supervisor.onward_activating (h : Kept w)
    (hmode : w.hosted.observedMode ≠ .draining) (hsound : progress.Sound)
    (hstep : (Supervisor.activating progress).step drainAfter signal found w.toAppState
      = (supervisor, app)) : Onward w supervisor app := by
  obtain ⟨hnext, hroused⟩ :=
    Activation.step_roused .supervisor found h.hosted hmode hsound
  have hawake : (progress.step .supervisor found w.toAppState).2.hosted.observedMode ≠ .draining := by
    by_cases hstepping : progress = .stepping
    · obtain hlive | ⟨hlive, -⟩ := hroused.stepped hstepping <;> simp [hlive]
    · rwa [hroused.still hstepping]
  simp only [Supervisor.step] at hstep
  cases hrun : progress.step .supervisor found w.toAppState with
  | mk next app' =>
    rw [hrun] at hnext hroused hawake hstep
    cases next with
    | returned failure =>
      cases failure with
      | none =>
        obtain ⟨rfl, rfl⟩ := Prod.mk.inj hstep
        exact ⟨fun _ => ⟨nofun, nofun⟩, trivial, hroused.hosted, hawake, hroused.unfenced⟩
      | some source => exact hnext.elim
    | _ =>
      obtain ⟨rfl, rfl⟩ := Prod.mk.inj hstep
      exact ⟨fun _ => ⟨nofun, nofun⟩, ⟨hawake, hnext⟩, hroused.hosted, hawake, hroused.unfenced⟩

theorem Supervisor.onward (h : Kept w) (hg : w.Unharmed) (hmode : w.hosted.observedMode ≠ .draining)
    (hdrain : w.supervisor ≠ .draining) (hdispatch : w.supervisor ≠ .dispatching)
    (hstep : w.supervisor.step drainAfter signal found w.toAppState = (supervisor, app)) :
    Onward w supervisor app := by
  have hjustified := h.justified
  cases hat : w.supervisor with
  | draining => exact absurd hat hdrain
  | dispatching => exact absurd hat hdispatch
  | fencing source => exact absurd hat (hg.supervising source).1
  | returned source => exact absurd hat (hg.supervising source).2
  | reading => exact onward_reading h hmode hat (hat ▸ hstep)
  | looking =>
    rw [hat] at hstep hjustified
    simp only [Supervisor.step, Prod.mk.injEq] at hstep
    obtain ⟨rfl, rfl⟩ := hstep
    by_cases hnobody : w.connectedPlayers = ∅
    · rw [if_pos hnobody]
      refine .still h hmode (fun _ => ⟨nofun, nofun⟩) ⟨hjustified, ?_⟩
      simp [Watched.after, hat, hnobody]
    · rw [if_neg hnobody]
      exact .still h hmode (fun _ => ⟨nofun, nofun⟩) hjustified
  | timing =>
    rw [hat] at hstep hjustified
    simp only [Supervisor.step, Prod.mk.injEq] at hstep
    obtain ⟨rfl, rfl⟩ := hstep
    split
    · refine .still h hmode (fun _ => ⟨nofun, nofun⟩) ⟨hjustified.1, ?_⟩
      simpa [Watched.after, hat] using hjustified.2
    · exact .still h hmode (fun _ => ⟨nofun, nofun⟩) hjustified.1
  | publishingDrain =>
    rw [hat] at hstep hjustified
    simp only [Supervisor.step, Prod.mk.injEq] at hstep
    obtain ⟨rfl, rfl⟩ := hstep
    refine ⟨fun _ => ⟨nofun, nofun⟩, ⟨hjustified.1, ?_⟩, h.hosted, hmode, nofun⟩
    simpa [Watched.after, hat] using hjustified.2
  | advancing =>
    rw [hat] at hstep hjustified
    simp only [Supervisor.step, Section.advance_run (hjustified ▸ h.hosted), Prod.mk.injEq] at hstep
    obtain ⟨rfl, rfl⟩ := hstep
    exact .still h hmode (fun _ => ⟨nofun, nofun⟩) trivial
  | measuring =>
    rw [hat] at hstep hjustified
    simp only [Supervisor.step, Section.productionWaitMillis_run h.hosted hjustified.1,
      Prod.mk.injEq] at hstep
    obtain ⟨rfl, rfl⟩ := hstep
    have hbehind : ∀ waitMillis, (Supervisor.registering waitMillis).Justified
        (w.after (.registering waitMillis) w.toAppState) := by
      intro waitMillis
      simpa [Watched.after, hat, Justified] using hjustified
    split
    · exact .still h hmode (fun _ => ⟨nofun, nofun⟩) (hbehind _)
    · exact .still h hmode (fun _ => ⟨nofun, nofun⟩) (hbehind 0)
  | registering waitMillis =>
    rw [hat] at hstep hjustified
    simp only [Supervisor.step, Prod.mk.injEq] at hstep
    obtain ⟨rfl, rfl⟩ := hstep
    refine ⟨fun _ => ⟨nofun, nofun⟩, ?_, h.hosted, hmode, fun _ hfenced => hfenced⟩
    simpa [Watched.after, hat, Justified] using hjustified
  | waiting deadline =>
    rw [hat] at hstep hjustified
    have hbehind : (Supervisor.waiting deadline).Justified
        (w.after (.waiting deadline) w.toAppState) := by
      simpa [Watched.after, hat, Justified] using hjustified
    simp only [Supervisor.step] at hstep
    split at hstep
    · obtain ⟨rfl, rfl⟩ := Prod.mk.inj hstep
      exact .still h hmode (fun _ => ⟨nofun, nofun⟩) trivial
    · split at hstep
      · obtain ⟨rfl, rfl⟩ := Prod.mk.inj hstep
        exact .still h hmode (fun _ => ⟨nofun, nofun⟩) hbehind
      · obtain ⟨rfl, rfl⟩ := Prod.mk.inj hstep
        exact .still h hmode (fun _ => ⟨nofun, nofun⟩) hbehind
  | pausing =>
    rw [hat] at hstep
    simp only [Supervisor.step, Prod.mk.injEq] at hstep
    obtain ⟨rfl, rfl⟩ := hstep
    exact ⟨fun _ => ⟨nofun, nofun⟩, hmode, h.hosted, hmode, fun _ hfenced => hfenced⟩
  | asleep =>
    rw [hat] at hstep
    simp only [Supervisor.step, Prod.mk.injEq] at hstep
    obtain ⟨rfl, rfl⟩ := hstep
    split
    · exact .still h hmode (fun _ => ⟨nofun, nofun⟩) trivial
    · exact .still h hmode (fun _ => ⟨nofun, nofun⟩) hmode
  | activating progress =>
    rw [hat] at hstep hjustified
    exact onward_activating h hmode hjustified.2 hstep

theorem Kept.drains (h : Kept w) (hg : w.Unharmed) (hat : w.supervisor = .draining) :
    Kept (w.step drainAfter (.supervise signal found))
      ∧ ((w.step drainAfter (.supervise signal found)).Unharmed ↔ w.newcomers = ∅) := by
  have hjustified := h.justified
  rw [hat] at hjustified
  obtain ⟨hactive, hplayers⟩ := hjustified
  obtain ⟨desired, app, hrun, hdesired, hhosted, hauthority⟩ : ∃ desired app,
      Section.drainToBackgroundOrSleeping found w.toAppState = .ok (.ok desired) app
        ∧ (desired = .background ∨ desired = .sleeping) ∧ app.hosted = .of desired
        ∧ ∀ source, app.authority ≠ .fenced source := by
    rw [Section.drain_run (hactive ▸ h.hosted)]
    cases found.runnable with
    | true => exact ⟨_, _, rfl, .inl rfl, rfl, nofun⟩
    | false => exact ⟨_, _, rfl, .inr rfl, rfl, nofun⟩
  have hleft : app.hosted.observedMode = desired := by rw [hhosted]; rfl
  have hstep : w.supervisor.step drainAfter signal found w.toAppState = (.reading, app) := by
    simp only [hat, Supervisor.step, hrun]
  have hleaves : app.hosted.observedMode ≠ .active ∧ app.hosted.observedMode ≠ .draining := by
    rw [hleft]
    rcases hdesired with rfl | rfl <;> exact ⟨nofun, nofun⟩
  have honward : Onward w .reading app :=
    ⟨fun _ => ⟨nofun, nofun⟩, trivial, hleft ▸ hhosted, hleaves.2,
      fun source hfenced => absurd hfenced (hauthority source)⟩
  rw [Watched.step_supervise hstep]
  refine ⟨honward.kept h, fun hunharmed => ?_, fun hnobody => honward.unharmed hg fun _ =>
    hplayers.trans hnobody⟩
  have hslept : w.sleptUnder ∪ w.connectedPlayers = ∅ := by
    have hundisturbed : (if w.supervisor = .draining ∧ w.hosted.observedMode = .active
        ∧ app.hosted.observedMode ≠ .active then w.sleptUnder ∪ w.connectedPlayers
        else w.sleptUnder) = ∅ := hunharmed.undisturbed
    rwa [if_pos ⟨hat, hactive, hleaves.1⟩] at hundisturbed
  rw [← hplayers]
  exact (Finset.union_eq_empty.mp hslept).2

/-- A dispatch is refused exactly when the cell was woken since the supervisor read its mode. -/
theorem Kept.dispatches (h : Kept w) (hg : w.Unharmed) (hat : w.supervisor = .dispatching) :
    Kept (w.step drainAfter (.supervise signal found))
      ∧ ((w.step drainAfter (.supervise signal found)).Unharmed ↔ w.stirred = false) := by
  have hjustified := h.justified
  rw [hat] at hjustified
  obtain ⟨hsleeping, hdraining, hbehind⟩ := hjustified
  have hstays : w.supervisor = .draining → w.connectedPlayers = ∅ := by rw [hat]; exact nofun
  by_cases hbackground : w.hosted.observedMode = .background
  · have honward : ∃ app,
        w.supervisor.step drainAfter signal found w.toAppState = (.reading, app)
          ∧ Onward w .reading app := by
      simp only [hat, Supervisor.step, Section.dispatch_run (hbackground ▸ h.hosted)]
      cases found.scheduled with
      | true => exact ⟨_, rfl, .still h hdraining (fun _ => ⟨nofun, nofun⟩) trivial⟩
      | false => exact ⟨_, rfl, fun _ => ⟨nofun, nofun⟩, trivial, rfl, nofun, nofun⟩
    obtain ⟨app, hstep, honward⟩ := honward
    rw [Watched.step_supervise hstep]
    exact ⟨honward.kept h, fun _ => hbehind.mpr hbackground, fun _ => honward.unharmed hg hstays⟩
  · have hstep : w.supervisor.step drainAfter signal found w.toAppState
        = (.fencing (.lifecycleUnavailable w.hosted.observedMode), w.toAppState) := by
      simp only [hat, Supervisor.step, Section.dispatch_refused h.hosted hsleeping hbackground]
    rw [Watched.step_supervise hstep]
    refine ⟨⟨h.hosted, fun hmode => absurd hmode hdraining, trivial, h.sessions⟩,
      fun hunharmed => ?_, fun hstill => absurd (hbehind.mp hstill) hbackground⟩
    exact absurd rfl (hunharmed.supervising _).1

theorem Kept.supervise (h : Kept w) (hg : w.Unharmed) :
    Kept (w.step drainAfter (.supervise signal found))
      ∧ ((w.step drainAfter (.supervise signal found)).Unharmed
        ↔ w.Timely (.supervise signal found)) := by
  by_cases hdrain : w.supervisor = .draining
  · have hdrained : Kept (w.step drainAfter (.supervise signal found))
        ∧ ((w.step drainAfter (.supervise signal found)).Unharmed ↔ w.newcomers = ∅) :=
      h.drains hg hdrain
    refine ⟨hdrained.1, hdrained.2.trans ?_⟩
    simp [Watched.Timely, hdrain]
  by_cases hdispatch : w.supervisor = .dispatching
  · have hdispatched : Kept (w.step drainAfter (.supervise signal found))
        ∧ ((w.step drainAfter (.supervise signal found)).Unharmed ↔ w.stirred = false) :=
      h.dispatches hg hdispatch
    refine ⟨hdispatched.1, hdispatched.2.trans ?_⟩
    simp [Watched.Timely, hdispatch]
  have htimely : w.Timely (.supervise signal found) :=
    ⟨fun hat => absurd hat hdispatch, fun hat => absurd hat hdrain⟩
  by_cases hmode : w.hosted.observedMode = .draining
  · -- The supervisor waits for a drain it does not know of to end.
    obtain ⟨hat, hblocked, houtside⟩ := h.recovering hmode
    have hstep : w.supervisor.step drainAfter signal found w.toAppState
        = (.reading, w.toAppState) := by
      simp only [hat, Supervisor.step, hmode]
    rw [Watched.step_supervise hstep]
    refine ⟨⟨h.hosted, fun _ => ⟨rfl, hblocked, houtside⟩, trivial, h.sessions⟩,
      fun _ => htimely, fun _ => ⟨fun _ => ⟨nofun, nofun⟩, hg.unfenced, ?_⟩⟩
    simp [Watched.after, hat, hg.undisturbed]
  · cases hstep : w.supervisor.step drainAfter signal found w.toAppState with
    | mk supervisor app =>
      have honward := Supervisor.onward h hg hmode hdrain hdispatch hstep
      rw [Watched.step_supervise hstep]
      exact ⟨honward.kept h, fun _ => htimely,
        fun _ => honward.unharmed hg fun hat => absurd hat hdrain⟩

end

/-! ## What happens behind its back -/

section

variable {w w' : Watched} {drainAfter id : Nat}

/-- What another task may do while the supervisor stands where it is. -/
structure Behind (w w' : Watched) : Prop where
  supervisor : w'.supervisor = w.supervisor
  sleptUnder : w'.sleptUnder = w.sleptUnder
  hosted : w'.hosted = .of w'.hosted.observedMode
  /-- The mode is as it was, or it is on record that a session has seen to it. -/
  mode : w'.hosted.observedMode = w.hosted.observedMode ∧ w'.stirred = w.stirred
    ∨ w'.stirred = true ∧ w.hosted.observedMode ≠ .draining
      ∧ (w'.hosted.observedMode = .active
        ∨ w'.hosted.observedMode = .activating ∧ w.hosted.observedMode ≠ .active)
  players : w.connectedPlayers = w.newcomers → w'.connectedPlayers = w'.newcomers
  unfenced : ∀ source, w'.authority = .fenced source → w.authority = .fenced source

theorem Behind.justified (b : Behind w w') {supervisor : Supervisor} (h : supervisor.Justified w) :
    supervisor.Justified w' := by
  have hactive : w.hosted.observedMode = .active → w'.hosted.observedMode = .active := by
    intro hmode
    obtain ⟨hsame, -⟩ | ⟨-, -, hlive | ⟨-, hasleep⟩⟩ := b.mode
    · exact hsame.trans hmode
    · exact hlive
    · exact absurd hmode hasleep
  have hdraining : w.hosted.observedMode ≠ .draining → w'.hosted.observedMode ≠ .draining := by
    intro hmode
    obtain ⟨hsame, -⟩ | ⟨-, -, hlive | ⟨hlive, -⟩⟩ := b.mode
    · rwa [hsame]
    · rw [hlive]; exact nofun
    · rw [hlive]; exact nofun
  cases supervisor with
  | reading | fencing | returned => exact trivial
  | looking | advancing => exact hactive h
  | timing | publishingDrain | draining => exact ⟨hactive h.1, b.players h.2⟩
  | pausing | asleep => exact hdraining h
  | activating progress => exact ⟨hdraining h.1, h.2⟩
  | measuring | registering | waiting | dispatching =>
    obtain ⟨hsame, hstirred⟩ | ⟨hstirred, -, hlive | ⟨hlive, -⟩⟩ := b.mode
    · simpa only [Supervisor.Justified, hsame, hstirred] using h
    · simp [Supervisor.Justified, hstirred, hlive]
    · simp [Supervisor.Justified, hstirred, hlive]

theorem Behind.unharmed (b : Behind w w') (h : w.Unharmed) : w'.Unharmed where
  supervising source := b.supervisor ▸ h.supervising source
  unfenced source hfenced := h.unfenced source (b.unfenced source hfenced)
  undisturbed := b.sleptUnder.trans h.undisturbed

theorem Behind.quiet (h : Kept w) (happ : w'.toAppState = w.toAppState)
    (hsupervisor : w'.supervisor = w.supervisor) (hstirred : w'.stirred = w.stirred)
    (hnewcomers : w'.newcomers = w.newcomers) (hslept : w'.sleptUnder = w.sleptUnder) :
    Behind w w' where
  supervisor := hsupervisor
  sleptUnder := hslept
  hosted := by rw [happ]; exact h.hosted
  mode := .inl ⟨by rw [happ], hstirred⟩
  players hplayers := by rw [happ, hnewcomers]; exact hplayers
  unfenced source := by rw [happ]; exact id

/-- Where a drain is half done nothing has been let in, and nothing is. -/
theorem Behind.kept (b : Behind w w') (h : Kept w) (hsessions : ∀ id, (w'.sessions id).Sound)
    (hrecovering : w.hosted.observedMode = .draining → w.admissionBlocked = true →
      (∀ id, (w.sessions id).Outside) →
      w'.toAppState = w.toAppState ∧ ∀ id, (w'.sessions id).Outside) : Kept w' where
  hosted := b.hosted
  recovering hmode := by
    have hwas : w.hosted.observedMode = .draining := by
      obtain ⟨hsame, -⟩ | ⟨-, -, hlive | ⟨hlive, -⟩⟩ := b.mode
      · exact hsame.symm.trans hmode
      · exact absurd (hlive.symm.trans hmode) nofun
      · exact absurd (hlive.symm.trans hmode) nofun
    obtain ⟨hat, hblocked, houtside⟩ := h.recovering hwas
    obtain ⟨happ, hstill⟩ := hrecovering hwas hblocked houtside
    exact ⟨b.supervisor.trans hat, by rw [happ]; exact hblocked, hstill⟩
  justified := b.supervisor ▸ b.justified h.justified
  sessions := hsessions

/-- One session is at another place, and the others are where they were. -/
theorem forall_update {P : Session → Prop} {sessions} {session : Session}
    (h : ∀ other, P (sessions other)) (hsession : P session) :
    ∀ other, P (Function.update sessions id session other) := by
  intro other
  by_cases hother : other = id
  · rw [hother, Function.update_self]
    exact hsession
  · rw [Function.update_of_ne hother]
    exact h other

/-- What is left to show of a session that goes on to `session` and leaves the worker as `app`. -/
theorem Kept.moved (h : Kept w) {session : Session} {app : AppState} {stirred : Bool} {newcomers}
    (hwas : (w.sessions id).Outside → session.Outside ∧ app = w.toAppState) (hsound : session.Sound)
    (b : Behind w { w with
      toAppState := app
      sessions := Function.update w.sessions id session
      stirred, newcomers }) :
    Kept { w with
      toAppState := app
      sessions := Function.update w.sessions id session
      stirred, newcomers } :=
  b.kept h (forall_update h.sessions hsound) fun _ _ hothers =>
    ⟨(hwas (hothers id)).2, forall_update hothers (hwas (hothers id)).1⟩

theorem Watched.step_session {found : Findings} {session : Session} {app : AppState}
    (hstep : (w.sessions id).step id found w.toAppState = (session, app)) :
    w.step drainAfter (.session id found) =
      { w with
        toAppState := app
        sessions := Function.update w.sessions id session
        stirred := w.stirs (.session id found)
        newcomers := w.comes (.session id found) } := by
  simp [Watched.step, Node.step, hstep, Node.setSession]

theorem Kept.session_of {found : Findings} {session : Session} {app : AppState} (h : Kept w)
    (hstep : (w.sessions id).step id found w.toAppState = (session, app))
    (hwas : (w.sessions id).Outside → session.Outside ∧ app = w.toAppState)
    (hsound : session.Sound)
    (b : Behind w { w with
      toAppState := app
      sessions := Function.update w.sessions id session
      stirred := w.stirs (.session id found)
      newcomers := w.comes (.session id found) }) :
    Behind w (w.step drainAfter (.session id found))
      ∧ Kept (w.step drainAfter (.session id found)) := by
  rw [Watched.step_session hstep]
  exact ⟨b, h.moved hwas hsound b⟩

theorem not_outside {session : Session} (haway : session ≠ .away) (hupgrading : session ≠ .upgrading) :
    ¬ session.Outside := by
  rintro (hat | hat)
  · exact haway hat
  · exact hupgrading hat

theorem Kept.ensures {found : Findings} {playerId : String} (h : Kept w)
    (hat : w.sessions id = .ensuring playerId progress) :
    Behind w (w.step drainAfter (.session id found))
      ∧ Kept (w.step drainAfter (.session id found)) := by
  have hinside : ¬ (w.sessions id).Outside := by rw [hat]; exact not_outside nofun nofun
  have hmode : w.hosted.observedMode ≠ .draining := fun hmode =>
    hinside ((h.recovering hmode).2.2 id)
  have hsound : progress.Sound := by simpa [hat, Session.Sound] using h.sessions id
  obtain ⟨hnext, hroused⟩ :=
    Activation.step_roused (.session id) found h.hosted hmode hsound
  have hbehind : ∀ session, Behind w { w with
      toAppState := (progress.step (.session id) found w.toAppState).2
      sessions := Function.update w.sessions id session
      stirred := w.stirs (.session id found)
      newcomers := w.comes (.session id found) } := by
    intro session
    refine ⟨rfl, rfl, hroused.hosted, ?_, fun hplayers => ?_, hroused.unfenced⟩
    · by_cases hstepping : progress = .stepping
      · exact .inr ⟨by simp [Watched.stirs, hat, hstepping], hmode, hroused.stepped hstepping⟩
      · refine .inl ⟨congrArg HostedRuntime.observedMode (hroused.still hstepping), ?_⟩
        simp only [Watched.stirs, hat]
        cases progress with
        | stepping => exact absurd rfl hstepping
        | _ => rfl
    · rw [hroused.connected, hplayers]
      simp [Watched.comes, hat]
  cases hrun : progress.step (.session id) found w.toAppState with
  | mk next app =>
    rw [hrun] at hnext hbehind
    have hsession : ∀ session, (w.sessions id).step id found w.toAppState = (session, app) →
        session.Sound → Behind w (w.step drainAfter (.session id found))
          ∧ Kept (w.step drainAfter (.session id found)) :=
      fun session hstep hsound =>
        h.session_of hstep (fun houtside => absurd houtside hinside) hsound (hbehind session)
    cases next with
    | returned failure =>
      cases failure with
      | none => exact hsession (.checking playerId) (by simp only [hat, Session.step, hrun]) trivial
      | some source => exact hnext.elim
    | fencing source => exact hnext.elim
    | gate => exact hsession (.ensuring playerId .gate) (by simp only [hat, Session.step, hrun]) hnext
    | looking =>
      exact hsession (.ensuring playerId .looking) (by simp only [hat, Session.step, hrun]) hnext
    | stepping =>
      exact hsession (.ensuring playerId .stepping) (by simp only [hat, Session.step, hrun]) hnext
    | publishing =>
      exact hsession (.ensuring playerId .publishing) (by simp only [hat, Session.step, hrun]) hnext

theorem Kept.session {found : Findings} (h : Kept w) :
    Behind w (w.step drainAfter (.session id found))
      ∧ Kept (w.step drainAfter (.session id found)) := by
  have hquiet : ∀ session, (w.sessions id).step id found w.toAppState = (session, w.toAppState) →
      w.stirs (.session id found) = w.stirred → w.comes (.session id found) = w.newcomers →
      ((w.sessions id).Outside → session.Outside) → session.Sound →
      Behind w (w.step drainAfter (.session id found))
        ∧ Kept (w.step drainAfter (.session id found)) :=
    fun session hstep hstirs hcomes hwas hsound =>
      h.session_of hstep (fun houtside => ⟨hwas houtside, rfl⟩) hsound
        (.quiet h rfl rfl hstirs hcomes rfl)
  have hwas : ∀ {session : Session} {P : Prop}, w.sessions id = session → session ≠ .away →
      session ≠ .upgrading → (w.sessions id).Outside → P := by
    rintro _ P rfl haway hupgrading houtside
    exact absurd houtside (not_outside haway hupgrading)
  cases hat : w.sessions id with
  | ensuring playerId progress => exact h.ensures hat
  | away =>
    exact hquiet .away (by rw [hat]; rfl) (by simp [Watched.stirs, hat]) (by simp [Watched.comes, hat])
      (fun _ => .inl rfl) trivial
  | upgrading =>
    by_cases hblocked : w.admissionBlocked = true
    · exact hquiet .away (by simp [hat, Session.step, hblocked]) (by simp [Watched.stirs, hat])
        (by simp [Watched.comes, hat]) (fun _ => .inl rfl) trivial
    · have hstep : (w.sessions id).step id found w.toAppState = (.greeting, w.toAppState) := by
        simp [hat, Session.step, hblocked]
      have b : Behind w { w with
          sessions := Function.update w.sessions id .greeting
          stirred := w.stirs (.session id found)
          newcomers := w.comes (.session id found) } :=
        .quiet h rfl rfl (by simp [Watched.stirs, hat]) (by simp [Watched.comes, hat]) rfl
      rw [Watched.step_session hstep]
      exact ⟨b, b.kept h (forall_update h.sessions trivial) fun _ hclosed =>
        absurd hclosed hblocked⟩
  | greeting =>
    exact hquiet .greeting (by rw [hat]; rfl) (by simp [Watched.stirs, hat])
      (by simp [Watched.comes, hat]) (hwas hat nofun nofun) trivial
  | serving playerId =>
    exact hquiet (.serving playerId) (by rw [hat]; rfl) (by simp [Watched.stirs, hat])
      (by simp [Watched.comes, hat]) (hwas hat nofun nofun) trivial
  | checking playerId =>
    have hsound : (if w.unavailable then Session.leaving playerId else .serving playerId).Sound := by
      split <;> exact trivial
    exact hquiet _ (by rw [hat]; rfl) (by simp [Watched.stirs, hat])
      (by simp [Watched.comes, hat]) (hwas hat nofun nofun) hsound
  | touching playerId =>
    have hstep : (w.sessions id).step id found w.toAppState
        = (.ensuring playerId .gate, w.toAppState.touch) := by rw [hat]; rfl
    refine h.session_of hstep (hwas hat nofun nofun) trivial
      ⟨rfl, rfl, h.hosted, .inl ⟨rfl, by simp [Watched.stirs, hat]⟩, fun hplayers => ?_,
        fun _ hfenced => hfenced⟩
    simpa [Watched.comes, hat, AppState.touch] using hplayers
  | departing =>
    have hstep : (w.sessions id).step id found w.toAppState = (.away, w.toAppState.touch) := by
      rw [hat]; rfl
    refine h.session_of hstep (hwas hat nofun nofun) trivial
      ⟨rfl, rfl, h.hosted, .inl ⟨rfl, by simp [Watched.stirs, hat]⟩, fun hplayers => ?_,
        fun _ hfenced => hfenced⟩
    simpa [Watched.comes, hat, AppState.touch] using hplayers
  | claiming playerId =>
    by_cases htaken : playerId ∈ w.connectedPlayers
    · exact hquiet .away (by simp [hat, Session.step, htaken]) (by simp [Watched.stirs, hat])
        (by simp [Watched.comes, hat, htaken]) (fun _ => .inl rfl) trivial
    · have hstep : (w.sessions id).step id found w.toAppState
          = (.touching playerId, w.toAppState.claim playerId) := by
        simp [hat, Session.step, htaken]
      refine h.session_of hstep (hwas hat nofun nofun) trivial
        ⟨rfl, rfl, h.hosted, .inl ⟨rfl, by simp [Watched.stirs, hat]⟩, fun hplayers => ?_,
          fun _ hfenced => hfenced⟩
      simp [Watched.comes, hat, htaken, AppState.claim, ← hplayers]
  | leaving playerId =>
    have hstep : (w.sessions id).step id found w.toAppState
        = (.departing, w.toAppState.release playerId) := by rw [hat]; rfl
    refine h.session_of hstep (hwas hat nofun nofun) trivial
      ⟨rfl, rfl, h.hosted, .inl ⟨rfl, by simp [Watched.stirs, hat]⟩, fun hplayers => ?_,
        fun _ hfenced => hfenced⟩
    simp [Watched.comes, hat, AppState.release, hplayers]

theorem Kept.placed (h : Kept w) {session : Session} (hsound : session.Sound)
    (hwas : w.admissionBlocked = true → (w.sessions id).Outside → session.Outside) :
    Behind w { w with sessions := Function.update w.sessions id session }
      ∧ Kept { w with sessions := Function.update w.sessions id session } := by
  have b : Behind w { w with sessions := Function.update w.sessions id session } :=
    .quiet h rfl rfl rfl rfl rfl
  exact ⟨b, b.kept h (forall_update h.sessions hsound) fun _ hblocked hothers =>
    ⟨rfl, forall_update hothers (hwas hblocked (hothers id))⟩⟩

theorem Kept.refl (h : Kept w) : Behind w w ∧ Kept w := ⟨.quiet h rfl rfl rfl rfl rfl, h⟩

theorem Kept.behind {move : Move} (h : Kept w) (hmove : ∀ signal found, move ≠ .supervise signal found) :
    Behind w (w.step drainAfter move) ∧ Kept (w.step drainAfter move) := by
  cases move with
  | supervise signal found => exact absurd rfl (hmove signal found)
  | session id found => exact h.session
  | connect id =>
    by_cases hopen : w.sessions id = .away ∧ w.admissionBlocked = false
    · have hnext : w.step drainAfter (.connect id)
          = { w with sessions := Function.update w.sessions id .upgrading } := by
        simp [Watched.step, Node.step, hopen, Node.setSession, Watched.stirs, Watched.comes]
      rw [hnext]
      exact h.placed trivial fun _ _ => .inr rfl
    · have hnext : w.step drainAfter (.connect id) = w := by
        simp only [Watched.step, Node.step, if_neg hopen, Watched.stirs, Watched.comes]
      rw [hnext]
      exact h.refl
  | hello id playerId isPresent =>
    by_cases hgreeting : w.sessions id = .greeting
    · have hinside : ¬ (w.sessions id).Outside := by
        rw [hgreeting]
        exact not_outside nofun nofun
      cases isPresent with
      | true =>
        have hnext : w.step drainAfter (.hello id playerId true)
            = { w with sessions := Function.update w.sessions id (.claiming playerId) } := by
          simp [Watched.step, Node.step, hgreeting, Node.setSession, Watched.stirs, Watched.comes]
        rw [hnext]
        exact h.placed trivial fun _ houtside => absurd houtside hinside
      | false =>
        have hnext : w.step drainAfter (.hello id playerId false)
            = { w with sessions := Function.update w.sessions id .away } := by
          simp [Watched.step, Node.step, hgreeting, Node.setSession, Watched.stirs, Watched.comes]
        rw [hnext]
        exact h.placed trivial fun _ _ => .inl rfl
    · have hnext : w.step drainAfter (.hello id playerId isPresent) = w := by
        simp only [Watched.step, Node.step, if_neg hgreeting, Watched.stirs, Watched.comes]
      rw [hnext]
      exact h.refl
  | intent id found =>
    have hnext : w.step drainAfter (.intent id found) = w := by
      have hfinal := Section.executeAsAt_final found h.hosted
      simp only [Watched.step, Node.step, Watched.stirs, Watched.comes]
      cases w.sessions id with
      | serving playerId =>
        unfold final at hfinal
        cases hrun : Section.executeAsAt found w.toAppState with
        | ok _ app | error _ app =>
          rw [hrun] at hfinal
          simp only [hfinal]
      | _ => rfl
    rw [hnext]
    exact h.refl
  | leave id =>
    cases hat : w.sessions id with
    | serving playerId =>
      have hnext : w.step drainAfter (.leave id)
          = { w with sessions := Function.update w.sessions id (.leaving playerId) } := by
        simp [Watched.step, Node.step, hat, Node.setSession, Watched.stirs, Watched.comes]
      rw [hnext]
      refine h.placed trivial fun _ houtside => ?_
      rw [hat] at houtside
      exact absurd houtside (not_outside nofun nofun)
    | upgrading | greeting =>
      have hnext : w.step drainAfter (.leave id)
          = { w with sessions := Function.update w.sessions id .away } := by
        simp [Watched.step, Node.step, hat, Node.setSession, Watched.stirs, Watched.comes]
      rw [hnext]
      exact h.placed trivial fun _ _ => .inl rfl
    | _ =>
      have hnext : w.step drainAfter (.leave id) = w := by
        simp only [Watched.step, Node.step, hat, Watched.stirs, Watched.comes]
      rw [hnext]
      exact h.refl
  | pass millis =>
    have b : Behind w (w.step drainAfter (.pass millis)) :=
      ⟨rfl, rfl, h.hosted, .inl ⟨rfl, rfl⟩, fun hplayers => hplayers, fun _ hfenced => hfenced⟩
    exact ⟨b, ⟨h.hosted, h.recovering, b.justified h.justified, h.sessions⟩⟩

end

/-! ## Every run -/

theorem Kept.step {w : Watched} {drainAfter : Nat} {move : Move} (h : Kept w) (hg : w.Unharmed) :
    Kept (w.step drainAfter move)
      ∧ ((w.step drainAfter move).Unharmed ↔ w.Timely move) := by
  have hother : (∀ signal found, move ≠ .supervise signal found) → w.Timely move →
      Kept (w.step drainAfter move)
        ∧ ((w.step drainAfter move).Unharmed ↔ w.Timely move) := by
    intro hmove htimely
    obtain ⟨b, hkept⟩ := h.behind hmove
    exact ⟨hkept, fun _ => htimely, fun _ => b.unharmed hg⟩
  cases move with
  | supervise signal found => exact h.supervise hg
  | _ => exact hother (fun _ _ => nofun) trivial

namespace Watched

/-- A step as a request that is always accepted. -/
def tick (idleDrainAfter : Nat) (w : Watched) (move : Move) : Except RuntimeError Watched :=
  .ok (w.step idleDrainAfter move)

/-- Whatever order the tasks of a worker take their steps in, its supervisor comes to no error, its
    authority is not fenced and no drain takes the cell from a player, as long as the supervisor
    neither dispatches after a session stirred the cell behind its back nor drains while somebody
    is there who came behind its back; the first time it does, one of these happens. -/
theorem supervision_is_safe_iff (observedMode : LifecycleMode) (idleDrainAfter : Nat)
    (moves : List Move) :
    Throughout (tick idleDrainAfter) Unharmed (start observedMode) moves
      ↔ Along (tick idleDrainAfter) Timely (start observedMode) moves := by
  refine throughout_iff_along (P := Kept) ?_ ?_ kept_start unharmed_start (runAll_total _ _ _)
  · intro w move w' hkept hunharmed hstep
    obtain rfl := Except.ok.inj hstep
    exact (hkept.step hunharmed).1
  · intro w move w' _ hkept hunharmed hstep
    obtain rfl := Except.ok.inj hstep
    exact (hkept.step hunharmed).2

end Watched

/-! ## Two stale decisions -/

def backgroundWork : Findings :=
  { runnable := true, scheduled := true, waitMillis := none, backlog := false, refusal := none }

/-- A player's hello, from the listener to the claim. -/
def comesIn (playerId : String) : List Move :=
  [.connect 0, .session 0 backgroundWork, .hello 0 playerId true, .session 0 backgroundWork]

/-- `idle_drain_seconds`, by default, in milliseconds. -/
def idleDrainMillis : Nat := 30000

/-- The supervisor reads `Background` and finds that production is due. Before it dispatches, a
    player has come and the cell is live. -/
def stirredRun : List Move :=
  [.supervise false backgroundWork, .supervise false backgroundWork]
    ++ comesIn "player-local"
    ++ List.replicate 4 (.session 0 backgroundWork)
    ++ List.replicate 2 (.supervise false backgroundWork)

/-- The supervisor finds nobody connected, and that nobody has been for long enough. Before it
    drains, a player has come. -/
def sleptUnderRun : List Move :=
  [.pass idleDrainMillis, .supervise false backgroundWork, .supervise false backgroundWork]
    ++ comesIn "player-local"
    ++ List.replicate 3 (.supervise false backgroundWork)

/-- A session wakes the cell between the reading of its mode and the dispatch, which fences it; and
    a player comes in between the look at who is here and the drain, and is slept under. -/
theorem not_supervision_is_safe :
    ¬ Throughout (Watched.tick idleDrainMillis) Watched.Unharmed (.start .background) stirredRun
      ∧ ¬ Throughout (Watched.tick idleDrainMillis) Watched.Unharmed (.start .active) sleptUnderRun := by
  constructor
  · intro hunharmed
    have hfails : (stirredRun.foldl (Watched.step idleDrainMillis) (.start .background)).supervisor
        = .returned (.lifecycleUnavailable .active) := by decide +kernel
    exact ((hunharmed.last (runAll_total _ _ _)).supervising _).2 hfails
  · intro hunharmed
    have hsleeps : (sleptUnderRun.foldl (Watched.step idleDrainMillis) (.start .active)).sleptUnder
        = {"player-local"} := by decide +kernel
    have hnobody := hsleeps.symm.trans (hunharmed.last (runAll_total _ _ _)).undisturbed
    exact absurd hnobody (Finset.singleton_ne_empty _)

end Verse.Worker
