import Verse.Lib.Run
import Verse.Worker.Fence

/-!
# Fencing is not final

Of every section `Lawful` says what it does to the halt: what has halted stays so, and what halts
there is fenced for next, unless it is the snapshot of a worker of one cell. So as long as no
fence was lost, something that has halted and is not fenced is about to be (`Kept`), and whether
a run keeps the law of fencing is decided step by step (`fencing_is_final_iff`).

It is broken in three ways. An activation step, a drain or a dispatch says what it has to say
whether the worker is fenced or not. A snapshot that fails over a runtime leaves without a word.
And an operation may return between the section of another that halts and the word of its fence.
-/

namespace Verse.Worker.Fence

open Lib
open Persistence (LifecycleMode)
open Verse.Runtime (RuntimeError)

/-! ## Sections -/

/-- What a step may do to the halt. -/
structure Lawful (hosted : Hosted) (done : Done) : Prop where
  stays : hosted.isHalted = true → done.hosted.isHalted = true
  /-- Whoever halts what is hosted fences for it. -/
  owed : done.hosted.isHalted = true → hosted.isHalted = true ∨ done.next.OwesFence

variable {source : RuntimeError}

variable {outcome : Outcome}

namespace Lawful

variable {hosted hosted' : Hosted} {done : Done}

theorem of_same (h : done.hosted.isHalted = hosted.isHalted) : Lawful hosted done :=
  ⟨fun hhalted => h.trans hhalted, fun hhalted => .inl (h.symm.trans hhalted)⟩

theorem returns : Lawful hosted (Section.returns hosted outcome) :=
  .of_same rfl

theorem fences (h : hosted.isHalted = true → hosted'.isHalted = true) :
    Lawful hosted (Section.fences hosted' source) := ⟨h, fun _ => .inr trivial⟩

theorem fencesIfFatal {source : TwoCellRuntimeError}
    (hstays : hosted.isHalted = true → hosted'.isHalted = true)
    (howed : hosted'.isHalted = true → hosted.isHalted = true ∨ source.isFatal = true) :
    Lawful hosted (Section.fencesIfFatal hosted' source) := by
  rw [Section.fencesIfFatal]
  by_cases hfatal : source.isFatal
  · rw [if_pos hfatal]
    exact .fences hstays
  · rw [if_neg hfatal]
    exact ⟨hstays, fun hhalted => .inl ((howed hhalted).resolve_right hfatal)⟩

theorem looks {source} :
    Lawful hosted (Section.fencesIfFatal hosted source) := .fencesIfFatal id .inl

end Lawful

variable {operation : Operation} {isPlayer : Bool}

namespace Section

variable {found : Findings} {hosted : Hosted} {halted halted' : Bool}

/-- Only a runtime that has not halted answers with a value, and then it still has not. -/
theorem call_cases (found : Findings) (halted : Bool) :
    (halted = false ∧ call found halted = (.ok (), false))
      ∨ ∃ source halted', (halted = true → halted' = true)
        ∧ call found halted = (.error source, halted') := by
  unfold call
  cases found.runtime with
  | error source =>
    refine .inr ⟨source, halted || found.halts, ?_, rfl⟩
    rintro rfl
    exact Bool.true_or _
  | ok _ =>
    cases halted with
    | true => exact .inr ⟨.halted, true, fun _ => rfl, rfl⟩
    | false => exact .inl ⟨rfl, rfl⟩

/-- `if halted { publish_fenced }`, after a failure. -/
theorem fencesIfHalted_lawful (h : halted = true → halted' = true) :
    Lawful (.runtime (some halted))
      (if halted' then fences (.runtime (some halted')) source
        else returns (.runtime (some halted')) (.error source)) := by
  cases halted' with
  | true => exact .fences fun _ => rfl
  | false => exact .of_same (Bool.eq_false_of_not_eq_true fun hhalted => Bool.noConfusion (h hhalted)).symm

theorem advance_lawful : Lawful hosted (advance found hosted) := by
  cases hosted with
  | coordinator halted =>
    simp only [advance]
    cases found.coordinator with
    | error source => exact .fences fun _ => rfl
    | ok _ =>
      cases found.route with
      | error source => exact .fences id
      | ok _ => exact .returns
  | runtime halted =>
    cases halted with
    | none => exact .returns
    | some halted =>
      rcases call_cases found halted with ⟨rfl, hcall⟩ | ⟨source, halted', hstays, hcall⟩
      · simp only [advance, hcall]
        exact .returns
      · simp only [advance, hcall]
        exact fencesIfHalted_lawful hstays

theorem executeAsAt_lawful {acknowledged : Bool} :
    Lawful hosted (executeAsAt found acknowledged hosted) := by
  cases hosted with
  | coordinator halted =>
    cases acknowledged with
    | false => exact .returns
    | true =>
      simp only [executeAsAt]
      cases found.route with
      | error source => exact .looks
      | ok _ =>
        cases found.coordinator with
        | error source =>
          refine .fencesIfFatal (fun hhalted => ?_) fun hhalted => Bool.or_eq_true_iff.mp hhalted
          exact Bool.or_eq_true_iff.mpr (.inl hhalted)
        | ok _ =>
          cases found.routeAfter with
          | error source => exact .looks
          | ok _ => exact .returns
  | runtime halted =>
    cases halted with
    | none => exact .returns
    | some halted =>
      rcases call_cases found halted with ⟨rfl, hcall⟩ | ⟨source, halted', hstays, hcall⟩
      · simp only [executeAsAt, hcall]
        exact .returns
      · simp only [executeAsAt, hcall]
        exact fencesIfHalted_lawful hstays

theorem renewLease_lawful : Lawful hosted (renewLease found hosted) := by
  cases hosted with
  | coordinator halted =>
    simp only [renewLease]
    cases found.coordinator with
    | error source => exact .fences fun _ => rfl
    | ok _ =>
      cases halted with
      | true => exact .of_same rfl
      | false => exact .returns
  | runtime halted =>
    cases halted with
    | none => exact .returns
    | some halted =>
      rcases call_cases found halted with ⟨rfl, hcall⟩ | ⟨source, halted', hstays, hcall⟩
      · simp only [renewLease, hcall]
        exact .returns
      · simp only [renewLease, hcall]
        exact fencesIfHalted_lawful hstays

/-- The one section that may halt what is hosted and owe nothing for it. -/
theorem persistSnapshot_lawful (h : ¬ (hosted = .runtime (some false)
      ∧ (∃ source, found.runtime = .error source) ∧ found.halts = true)) :
    Lawful hosted (persistSnapshot found hosted) := by
  cases hosted with
  | coordinator halted =>
    simp only [persistSnapshot]
    cases found.coordinator with
    | error source => exact .fences fun _ => rfl
    | ok _ => exact .returns
  | runtime halted =>
    cases halted with
    | none => exact .returns
    | some halted =>
      cases hrun : found.runtime with
      | ok _ =>
        rcases call_cases found halted with ⟨rfl, hcall⟩ | ⟨source, halted', hstays, hcall⟩
        · simp only [persistSnapshot, hcall]
          exact .returns
        · simp only [call, hrun] at hcall
          obtain rfl : halted = halted' := congrArg Prod.snd hcall
          simp only [persistSnapshot, call, hrun]
          cases halted <;> exact .of_same rfl
      | error source =>
        simp only [persistSnapshot, call, hrun]
        refine .of_same ?_
        cases halted with
        | true => rfl
        | false =>
          show found.halts = false
          exact Bool.eq_false_of_not_eq_true fun hhalts => h ⟨rfl, ⟨source, hrun⟩, hhalts⟩

theorem drainToBackgroundOrSleeping_lawful :
    Lawful hosted (drainToBackgroundOrSleeping found hosted) := by
  cases hosted with
  | coordinator halted =>
    simp only [drainToBackgroundOrSleeping]
    cases found.coordinator with
    | error source => exact .fences fun _ => rfl
    | ok _ => exact .of_same rfl
  | runtime halted =>
    cases halted with
    | none => exact .returns
    | some halted =>
      rcases call_cases found halted with ⟨rfl, hcall⟩ | ⟨source, halted', hstays, hcall⟩
      · simp only [drainToBackgroundOrSleeping, hcall]
        cases found.mode <;> exact .of_same rfl
      · simp only [drainToBackgroundOrSleeping, hcall]
        exact .fences hstays

theorem activationStep_lawful : Lawful hosted (activationStep found hosted) := by
  cases hosted with
  | coordinator halted => exact .of_same rfl
  | runtime halted =>
    cases hopening : openForActivation found halted with
    | error source =>
      simp only [activationStep, hopening]
      exact .returns
    | ok opened =>
      have hsame : (Hosted.runtime (some opened)).isHalted = (Hosted.runtime halted).isHalted := by
        cases halted with
        | some halted =>
          obtain rfl : halted = opened := Except.ok.inj hopening
          rfl
        | none =>
          cases hfound : found.opening with
          | error source => simp [openForActivation, hfound, Except.map] at hopening
          | ok _ =>
            obtain rfl : false = opened := by
              simpa [openForActivation, hfound, Except.map] using hopening
            rfl
      simp only [activationStep, hopening]
      rcases call_cases found opened with ⟨rfl, hcall⟩ | ⟨source, halted', hstays, hcall⟩
      · simp only [hcall]
        cases found.live <;> exact .of_same hsame
      · simp only [hcall]
        exact ⟨fun hhalted => hstays (hsame.trans hhalted), fun _ => .inr trivial⟩

theorem backgroundDispatchStep_lawful : Lawful hosted (backgroundDispatchStep found hosted) := by
  cases hosted with
  | coordinator halted => exact .returns
  | runtime halted =>
    cases halted with
    | none => exact .returns
    | some halted =>
      rcases call_cases found halted with ⟨rfl, hcall⟩ | ⟨source, halted', hstays, hcall⟩
      · simp only [backgroundDispatchStep, hcall]
        cases found.mode <;> exact .of_same rfl
      · simp only [backgroundDispatchStep, hcall]
        exact .fences hstays

theorem productionWaitMillis_lawful : Lawful hosted (productionWaitMillis found hosted) := by
  cases hosted with
  | coordinator halted => exact .returns
  | runtime halted =>
    cases halted with
    | none => exact .returns
    | some halted =>
      simp only [productionWaitMillis, call]
      cases found.runtime with
      | error source => exact .of_same (Bool.or_false _)
      | ok _ => cases halted <;> exact .of_same rfl

theorem playerIsPresent_lawful : Lawful hosted (playerIsPresent found hosted) := by
  cases hosted with
  | runtime halted => exact .returns
  | coordinator halted =>
    simp only [playerIsPresent]
    split <;> exact .of_same rfl

theorem residentPlayerRoute_lawful : Lawful hosted (residentPlayerRoute found hosted) := by
  cases hosted with
  | runtime halted => exact .returns
  | coordinator halted =>
    simp only [residentPlayerRoute]
    cases found.route with
    | ok _ => exact .returns
    | error source => exact .looks

theorem initialSessionProjection_lawful :
    Lawful hosted (initialSessionProjection found isPlayer hosted) := by
  cases hosted with
  | runtime halted => exact .returns
  | coordinator halted =>
    cases isPlayer with
    | false => exact .returns
    | true =>
      simp only [initialSessionProjection]
      cases found.route with
      | ok _ => exact .returns
      | error source => exact .looks

theorem validateCurrentSessionProjection_lawful :
    Lawful hosted (validateCurrentSessionProjection found isPlayer hosted) := by
  have hinitial : Lawful hosted (initialSessionProjection found isPlayer hosted) :=
    initialSessionProjection_lawful
  simp only [validateCurrentSessionProjection]
  split
  · cases found.projection with
    | ok _ => exact hinitial
    | error message => exact .fences hinitial.stays
  · exact hinitial

/-- Every section keeps to the law, but for a snapshot that stops the runtime. -/
theorem run_lawful (operation : Operation) (h : operation = .persistSnapshot →
      ¬ (hosted = .runtime (some false) ∧ (∃ source, found.runtime = .error source)
        ∧ found.halts = true)) :
    Lawful hosted (run found operation hosted) := by
  cases operation with
  | advance => exact advance_lawful
  | executeAsAt => exact executeAsAt_lawful
  | renewLease => exact renewLease_lawful
  | persistSnapshot => exact persistSnapshot_lawful (h rfl)
  | drainToBackgroundOrSleeping => exact drainToBackgroundOrSleeping_lawful
  | activationStep => exact activationStep_lawful
  | backgroundDispatchStep => exact backgroundDispatchStep_lawful
  | productionWaitMillis => exact productionWaitMillis_lawful
  | playerIsPresent => exact playerIsPresent_lawful
  | residentPlayerRoute => exact residentPlayerRoute_lawful
  | initialSessionProjection => exact initialSessionProjection_lawful
  | validateCurrentSessionProjection => exact validateCurrentSessionProjection_lawful

/-! What a section says of the authority. -/

@[simp] theorem returns_told : (returns hosted outcome).told = none := rfl

@[simp] theorem fences_told : (fences hosted source).told = none := rfl

@[simp] theorem unavailable_told {mode} : (unavailable hosted mode).told = none := rfl

@[simp] theorem fencesIfFatal_told {source} :
    (fencesIfFatal hosted source).told = none := by
  unfold fencesIfFatal
  split <;> rfl

/-- Operations that say nothing while they hold the lock. -/
def isSilent : Operation → Bool
  | .drainToBackgroundOrSleeping | .activationStep | .backgroundDispatchStep | .playerIsPresent =>
    false
  | _ => true

theorem initialSessionProjection_told :
    (initialSessionProjection found isPlayer hosted).told = none := by
  unfold initialSessionProjection
  repeat' split
  all_goals simp

theorem run_told (h : isSilent operation = true) :
    (run found operation hosted).told = none := by
  cases operation with
  | advance | renewLease | persistSnapshot | productionWaitMillis | residentPlayerRoute
  | executeAsAt =>
    simp only [run, advance, renewLease, persistSnapshot, productionWaitMillis, residentPlayerRoute,
      executeAsAt]
    repeat' split
    all_goals simp
  | initialSessionProjection => exact initialSessionProjection_told
  | validateCurrentSessionProjection =>
    simp only [run, validateCurrentSessionProjection]
    repeat' split
    · exact initialSessionProjection_told
    · simp
    · exact initialSessionProjection_told
  | drainToBackgroundOrSleeping | activationStep | backgroundDispatchStep | playerIsPresent =>
    cases h

/-- The snapshot that breaks it: it halts the runtime and returns. -/
theorem persistSnapshot_loses (hrun : found.runtime = .error source)
    (hhalts : found.halts = true) :
    persistSnapshot found (.runtime (some false)) = returns (.runtime (some true)) (.error source) := by
  simp [persistSnapshot, call, hrun, hhalts]

end Section

/-! ## Steps -/

variable {authority : WorkerAuthorityStatus}

section

variable {w : Watched} {id : Nat} {found : Findings}

variable {hosted : Hosted}

theorem Stage.step_called (h : operation ≠ .drainToBackgroundOrSleeping)
    (h' : operation ≠ .playerIsPresent) :
    (Stage.called operation).step found hosted authority = Section.run found operation hosted := by
  cases operation with
  | drainToBackgroundOrSleeping => exact absurd rfl h
  | playerIsPresent => exact absurd rfl h'
  | _ => rfl

theorem Watched.doing_lawful (h : ¬ w.LosesFence id found) : Lawful w.hosted (w.doing id found) := by
  unfold Watched.LosesFence at h
  unfold Watched.doing
  cases hstage : w.stages id with
  | drained =>
    refine Section.run_lawful .drainToBackgroundOrSleeping ?_
    rintro ⟨⟩
  | called operation =>
    by_cases hdrain : operation = .drainToBackgroundOrSleeping
    · subst hdrain
      exact .of_same rfl
    · by_cases hpresent : operation = .playerIsPresent
      · subst hpresent
        have hlawful : Lawful w.hosted (Section.playerIsPresent found w.hosted) :=
          Section.playerIsPresent_lawful
        exact ⟨hlawful.stays, hlawful.owed⟩
      · rw [Stage.step_called hdrain hpresent]
        refine Section.run_lawful operation ?_
        rintro rfl
        rw [hstage] at h
        exact h
  | _ => exact .of_same rfl

variable {stage : Stage}

/-- What overwrites the authority sends a status that is no fence. -/
theorem Stage.overwrites_iff :
    stage.Overwrites found hosted ↔
      ∃ status, (stage.step found hosted authority).told = some status
        ∧ status.isFenced = false := by
  cases stage with
  | returned outcome | fencing reason outcome | announcing status outcome =>
    simp [Stage.step, Stage.Overwrites]
  | publishing reason outcome => simp [Stage.step, Stage.Overwrites, WorkerAuthorityStatus.isFenced]
  | drained =>
    cases hosted with
    | coordinator halted =>
      simp only [Stage.step, Stage.Overwrites, Section.run, Section.drainToBackgroundOrSleeping]
      cases found.coordinator <;> simp
    | runtime halted =>
      simp only [Stage.step, Section.run, Section.drainToBackgroundOrSleeping]
      cases halted with
      | none => simp [Stage.Overwrites]
      | some halted =>
        cases halted <;> cases hrun : found.runtime <;> simp [Section.call, hrun, Stage.Overwrites]
        cases found.mode <;> simp [WorkerAuthorityStatus.isFenced]
  | called operation =>
    cases hsilent : Section.isSilent operation with
    | true =>
      have hnone : ((Stage.called operation).step found hosted authority).told = none := by
        rw [Stage.step_called (by rintro rfl; cases hsilent) (by rintro rfl; cases hsilent)]
        exact Section.run_told hsilent
      rw [hnone]
      refine ⟨fun hoverwrites => ?_, ?_⟩
      · cases operation with
        | drainToBackgroundOrSleeping | activationStep | backgroundDispatchStep => cases hsilent
        | _ => exact hoverwrites.elim
      · rintro ⟨status, ⟨⟩, -⟩
    | false =>
      cases operation with
      | drainToBackgroundOrSleeping =>
        simp [Stage.step, Stage.Overwrites, WorkerAuthorityStatus.isFenced]
      | activationStep =>
        cases hosted with
        | coordinator halted =>
          simp [Stage.step, Stage.Overwrites, Section.run, Section.activationStep,
            WorkerAuthorityStatus.isFenced]
        | runtime halted =>
          have hopens : Stage.Overwrites found (.called .activationStep) (.runtime halted)
              ↔ ∃ opened, Section.openForActivation found halted = .ok opened := by
            cases halted with
            | some halted => simp [Stage.Overwrites, Section.openForActivation]
            | none =>
              cases hopening : found.opening <;>
                simp [Stage.Overwrites, Section.openForActivation, hopening, Except.map]
          rw [hopens]
          simp only [Stage.step, Section.run, Section.activationStep]
          cases hopening : Section.openForActivation found halted with
          | error source => simp
          | ok opened =>
            refine ⟨fun _ => ⟨.activating, ?_, rfl⟩, fun _ => ⟨opened, rfl⟩⟩
            dsimp only
            rcases Section.call found opened with ⟨answer, halted'⟩
            cases answer with
            | error source => rfl
            | ok _ => cases found.live <;> rfl
      | backgroundDispatchStep =>
        cases hosted with
        | coordinator halted =>
          simp [Stage.step, Stage.Overwrites, Section.run, Section.backgroundDispatchStep]
        | runtime halted =>
          simp only [Stage.step, Section.run, Section.backgroundDispatchStep]
          cases halted with
          | none => simp [Stage.Overwrites]
          | some halted =>
            cases halted <;> cases hrun : found.runtime <;> simp [Section.call, hrun, Stage.Overwrites]
            cases found.mode <;> simp [WorkerAuthorityStatus.isFenced]
      | playerIsPresent =>
        have hkeeps : ∀ status, ((Stage.called .playerIsPresent).step found hosted authority).told
            = some status → status.isFenced = true := by
          intro status hsaid
          simp only [Stage.step, Section.playerIsPresent] at hsaid
          repeat' split at hsaid
          all_goals cases hsaid
          rfl
        refine ⟨fun hoverwrites => hoverwrites.elim, ?_⟩
        rintro ⟨status, hsaid, hother⟩
        exact Bool.noConfusion ((hkeeps status hsaid).symm.trans hother)
      | _ => cases hsilent

/-! ### Who leaves -/

namespace Stage

variable {outcome : Outcome} {reason : Reason} {status : WorkerAuthorityStatus}

@[simp] theorem isIdle_returned : (returned outcome).isIdle = true := rfl

@[simp] theorem isIdle_called : (called operation).isIdle = false := rfl

@[simp] theorem isIdle_fencing : (fencing reason outcome).isIdle = false := rfl

@[simp] theorem isIdle_announcing : (announcing status outcome).isIdle = false := rfl

end Stage

@[simp] theorem Section.fencesIfFatal_idle {source} :
    (Section.fencesIfFatal hosted source).next.isIdle = true ↔ source.isFatal = false := by
  unfold Section.fencesIfFatal
  cases source.isFatal <;> simp [Section.fences, Section.returns]

@[simp] theorem harmless_ok {answer : Unit} : Harmless (.ok answer) := by
  rintro source ⟨⟩

@[simp] theorem harmless_error {source} :
    Harmless (.error source) ↔ source.isFatal = false :=
  ⟨fun h => h source rfl, by rintro h _ ⟨⟩; exact h⟩

namespace Section

theorem runtime_of_halted {halted} (h : (Hosted.runtime halted).isHalted = true) :
    halted = some true := by
  cases halted with
  | none => cases h
  | some halted => exact congrArg some h

theorem call_of_halted (found : Findings) : ∃ source, call found true = (.error source, true) := by
  rcases call_cases found true with ⟨hrunning, -⟩ | ⟨source, halted', hstays, hcall⟩
  · cases hrunning
  · exact ⟨source, by rw [hcall, hstays rfl]⟩

/-- Over a runtime that has halted no call is answered, and whoever asks fences for it. -/
theorem leaves_runtime (hdrain : operation ≠ .drainToBackgroundOrSleeping)
    (hpresent : operation ≠ .playerIsPresent) :
    (Stage.called operation).Leaves found (.runtime (some true)) ↔
      (Stage.called operation).isIdle = false
        ∧ (run found operation (.runtime (some true))).next.isIdle = true
        ∧ ∀ status, (run found operation (.runtime (some true))).told = some status →
          status.isFenced = false := by
  obtain ⟨source, hcall⟩ := call_of_halted found
  cases operation with
  | drainToBackgroundOrSleeping => exact absurd rfl hdrain
  | playerIsPresent => exact absurd rfl hpresent
  | productionWaitMillis =>
    cases hrun : found.runtime <;>
      simp [Stage.Leaves, run, productionWaitMillis, call, hrun, returns]
  | validateCurrentSessionProjection isPlayer =>
    cases hprojection : found.projection <;>
      simp [Stage.Leaves, run, validateCurrentSessionProjection, initialSessionProjection,
        hprojection, returns, fences]
  | _ =>
    simp [Stage.Leaves, run, advance, executeAsAt, renewLease, persistSnapshot, activationStep,
      openForActivation, backgroundDispatchStep, residentPlayerRoute, initialSessionProjection,
      hcall, returns, fences]

theorem leaves_coordinator (hdrain : operation ≠ .drainToBackgroundOrSleeping)
    (hpresent : operation ≠ .playerIsPresent) :
    (Stage.called operation).Leaves found (.coordinator true) ↔
      (Stage.called operation).isIdle = false
        ∧ (run found operation (.coordinator true)).next.isIdle = true
        ∧ ∀ status, (run found operation (.coordinator true)).told = some status →
          status.isFenced = false := by
  cases operation with
  | drainToBackgroundOrSleeping => exact absurd rfl hdrain
  | playerIsPresent => exact absurd rfl hpresent
  | activationStep =>
    simp [Stage.Leaves, run, activationStep, WorkerAuthorityStatus.isFenced]
  | backgroundDispatchStep | productionWaitMillis =>
    simp [Stage.Leaves, run, backgroundDispatchStep, productionWaitMillis, unavailable, returns]
  | renewLease | persistSnapshot =>
    cases hanswer : found.coordinator <;>
      simp [Stage.Leaves, run, renewLease, persistSnapshot, hanswer, returns, fences]
  | advance =>
    cases hanswer : found.coordinator <;> cases hroute : found.route <;>
      simp [Stage.Leaves, run, advance, hanswer, hroute, returns, fences]
  | executeAsAt acknowledged =>
    cases acknowledged with
    | false => simp [Stage.Leaves, run, executeAsAt, returns]
    | true =>
      cases hroute : found.route with
      | error source =>
        simp [Stage.Leaves, run, executeAsAt, hroute]
      | ok _ =>
        cases hanswer : found.coordinator <;> cases hafter : found.routeAfter <;>
          simp [Stage.Leaves, run, executeAsAt, hroute, hanswer, hafter, returns]
  | residentPlayerRoute =>
    cases hroute : found.route <;>
      simp [Stage.Leaves, run, residentPlayerRoute, hroute, returns]
  | initialSessionProjection isPlayer =>
    cases isPlayer <;> cases hroute : found.route <;>
      simp [Stage.Leaves, run, initialSessionProjection, hroute, returns]
  | validateCurrentSessionProjection isPlayer =>
    cases isPlayer with
    | false =>
      cases hprojection : found.projection <;>
        simp [Stage.Leaves, run, validateCurrentSessionProjection, initialSessionProjection,
          hprojection, returns, fences]
    | true =>
      cases hroute : found.route with
      | ok _ =>
        cases hprojection : found.projection <;>
          simp [Stage.Leaves, run, validateCurrentSessionProjection, initialSessionProjection,
            hroute, hprojection, returns, fences]
      | error source =>
        cases hfatal : source.isFatal <;>
          simp [Stage.Leaves, run, validateCurrentSessionProjection, initialSessionProjection,
            hroute, hfatal, fencesIfFatal, returns, fences]

end Section

/-- Over what has halted, `Leaves` is to take the last step of an operation and to fence nothing
    in it. -/
theorem Stage.leaves_iff (hhalted : hosted.isHalted = true)
    (hfenced : authority.isFenced = false) :
    stage.Leaves found hosted ↔ stage.isIdle = false
      ∧ (stage.step found hosted authority).next.isIdle = true
      ∧ ∀ status, (stage.step found hosted authority).told = some status →
        status.isFenced = false := by
  cases stage with
  | returned outcome | publishing reason outcome =>
    simp [Stage.Leaves, Stage.step, WorkerAuthorityStatus.isFenced]
  | fencing reason outcome => simp [Stage.Leaves, Stage.step, Stage.isIdle, hfenced]
  | announcing status outcome => simp [Stage.Leaves, Stage.step]
  | drained =>
    cases hosted with
    | coordinator halted =>
      cases hanswer : found.coordinator <;>
        simp [Stage.Leaves, Stage.step, Section.run, Section.drainToBackgroundOrSleeping, hanswer,
          Section.fences]
    | runtime halted =>
      obtain ⟨source, hcall⟩ := Section.call_of_halted found
      obtain rfl : halted = some true := Section.runtime_of_halted hhalted
      simp [Stage.Leaves, Stage.step, Section.run, Section.drainToBackgroundOrSleeping, hcall,
        Section.fences]
  | called operation =>
    by_cases hdrain : operation = .drainToBackgroundOrSleeping
    · subst hdrain
      simp [Stage.Leaves, Stage.step, Stage.isIdle]
    by_cases hpresent : operation = .playerIsPresent
    · subst hpresent
      cases hosted with
      | runtime halted =>
        simp [Stage.Leaves, Stage.step, Section.playerIsPresent, Section.returns, hfenced]
      | coordinator halted =>
        cases hroute : found.route with
        | ok _ =>
          simp [Stage.Leaves, Stage.step, Section.playerIsPresent, Section.returns, hfenced, hroute]
        | error source =>
          simp only [Stage.Leaves, Stage.step, Section.playerIsPresent, hroute]
          split <;> simp_all [Section.returns, WorkerAuthorityStatus.isFenced]
    rw [Stage.step_called hdrain hpresent]
    cases hosted with
    | coordinator halted =>
      obtain rfl : halted = true := hhalted
      exact Section.leaves_coordinator hdrain hpresent
    | runtime halted =>
      obtain rfl : halted = some true := Section.runtime_of_halted hhalted
      exact Section.leaves_runtime hdrain hpresent

/-- An operation that loses its fence returns, and what it leaves has halted. -/
theorem Watched.doing_loses (h : w.LosesFence id found) :
    (w.stages id).isIdle = false ∧ (w.doing id found).next.isIdle = true
      ∧ (w.doing id found).hosted.isHalted = true ∧ (w.doing id found).told = none := by
  unfold Watched.LosesFence at h
  unfold Watched.doing
  split at h
  next hstage =>
    obtain ⟨hhosted, ⟨source, hrun⟩, hhalts⟩ := h
    rw [hstage, hhosted]
    show _ ∧ (Section.persistSnapshot found (.runtime (some false))).next.isIdle = true ∧ _
    have hlost := Section.persistSnapshot_loses hrun hhalts
    refine ⟨rfl, ?_, ?_, ?_⟩
    · rw [hlost]; rfl
    · show (Section.persistSnapshot found (.runtime (some false))).hosted.isHalted = true
      rw [hlost]; rfl
    · show (Section.persistSnapshot found (.runtime (some false))).told = none
      rw [hlost]; rfl
  next => exact h.elim

/-- An operation leaves off owing a fence only by saying it, or where there is one. -/
theorem Watched.doing_owes (h : (w.stages id).OwesFence) (hfenced : w.authority.isFenced = false) :
    (w.doing id found).next.OwesFence
      ∨ ∃ status, (w.doing id found).told = some status ∧ status.isFenced = true := by
  unfold Watched.doing
  cases hstage : w.stages id with
  | fencing reason outcome =>
    simp only [Stage.step, hfenced]
    exact .inl trivial
  | publishing reason outcome => exact .inr ⟨_, rfl, rfl⟩
  | _ => rw [hstage] at h; exact h.elim

end

/-! ### What is done beside the operations -/

/-- A step that neither section nor announcement is. -/
structure Beside (node next : Node) : Prop where
  hosted : next.hosted = node.hosted
  authority : next.authority = node.authority
  owes : ∀ {id}, (node.stages id).OwesFence → (next.stages id).OwesFence

namespace Beside

variable {node next : Node} {id : Nat}

theorem of_same (hhosted : next.hosted = node.hosted) (hauthority : next.authority = node.authority)
    (hstages : next.stages = node.stages) : Beside node next :=
  ⟨hhosted, hauthority, fun h => hstages ▸ h⟩

theorem refl (node : Node) : Beside node node := .of_same rfl rfl rfl

theorem trans {last : Node} (h : Beside node next) (h' : Beside next last) : Beside node last :=
  ⟨h'.hosted.trans h.hosted, h'.authority.trans h.authority, fun howes => h'.owes (h.owes howes)⟩

theorem setVisit {visit : Visit} : Beside node (node.setVisit id visit) := .of_same rfl rfl rfl

theorem call : Beside node (node.call id operation) := by
  cases hstage : node.stages id with
  | returned outcome =>
    simp only [Node.call, hstage]
    refine ⟨rfl, rfl, fun {other} howes => ?_⟩
    by_cases hother : other = id
    · subst hother
      rw [hstage] at howes
      exact howes.elim
    · show (Function.update node.stages id (.called operation) other).OwesFence
      rwa [Function.update_of_ne hother]
  | _ =>
    simp only [Node.call, hstage]
    exact .refl node

theorem attend : Beside node (node.attend id) := by
  cases hvisit : node.visits id with
  | upgraded | settling =>
    simp only [Node.attend, hvisit]
    exact .setVisit
  | meeting | activating | waiting =>
    simp only [Node.attend, hvisit]
    split <;> exact .of_same rfl rfl rfl
  | looking =>
    simp only [Node.attend, hvisit]
    split
    · exact .of_same rfl rfl rfl
    · exact .trans .setVisit .call
  | away | greeting | admitted =>
    simp only [Node.attend, hvisit]
    exact .refl node

theorem hello : Beside node (node.hello id isPlayer) := by
  cases hvisit : node.visits id with
  | greeting =>
    cases isPlayer with
    | true =>
      simp only [Node.hello, hvisit]
      exact .trans .setVisit .call
    | false =>
      simp only [Node.hello, hvisit]
      exact .setVisit
  | _ =>
    simp only [Node.hello, hvisit]
    exact .refl node

theorem leave : Beside node (node.leave id) := by
  unfold Node.leave
  split <;> exact .of_same rfl rfl rfl

end Beside

variable {node : Node} {move : Move}

theorem Node.step_beside (h : ∀ id found, move ≠ .proceed id found) :
    Beside node (node.step move) := by
  cases move with
  | proceed id found => exact absurd rfl (h id found)
  | call id operation =>
    simp only [Node.step]
    split
    · exact .call
    · exact .call
    · exact .refl node
  | connect id =>
    simp only [Node.step]
    split
    · exact .setVisit
    · exact .refl node
  | hello id isPlayer => exact .hello
  | attend id => exact .attend
  | leave id => exact .leave

/-- A session is admitted to a live cell only. -/
theorem active_of_admits
    (h : Watched.admits node (node.step move) move = true) : node.authority = .active := by
  cases move with
  | attend id =>
    simp only [Watched.admits, Bool.and_eq_true, decide_eq_true_eq] at h
    obtain ⟨hbefore, hafter⟩ := h
    by_contra hactive
    have hunavailable : node.unavailable = true := bne_iff_ne.mpr hactive
    simp [Node.step, Node.attend, hbefore, hunavailable, Node.setVisit] at hafter
  | _ => cases h

/-! ## Runs -/

/-- As long as fencing has been final and none was missed, whatever has halted is fenced for or
    about to be. -/
structure Kept (w : Watched) : Prop where
  fenced : w.everFenced = true → w.authority.isFenced = true
  owed : w.hosted.isHalted = true → w.authority.isFenced = false →
    ∃ id, (w.stages id).OwesFence

section

variable {w : Watched} {move : Move}

variable {told : Option WorkerAuthorityStatus}

theorem Node.tell_isFenced :
    (Node.tell authority told).isFenced
      = match told with
        | none => authority.isFenced
        | some status => status.isFenced := by
  cases told <;> rfl

theorem Kept.beside (h : Kept w) (hfinal : w.Final) (hmove : ∀ id found, move ≠ .proceed id found) :
    (w.step move).Final ∧ Kept (w.step move) := by
  have hbeside := @Node.step_beside w.toNode _ hmove
  have hreturning : Watched.returning w.toNode (w.toNode.step move) move = false := by
    cases move with
    | proceed id found => exact absurd rfl (hmove id found)
    | _ => rfl
  have hadmits : (w.everFenced && Watched.admits w.toNode (w.toNode.step move) move) = false := by
    by_contra hadmits
    obtain ⟨hever, hadmits⟩ := Bool.and_eq_true_iff.mp (Bool.eq_true_of_not_eq_false hadmits)
    have hfenced := h.fenced hever
    rw [active_of_admits hadmits] at hfenced
    cases hfenced
  refine ⟨⟨?_, ?_, ?_⟩, ⟨fun hever => ?_, fun hhalted hfenced => ?_⟩⟩
  · show (w.unfenced || (w.authority.isFenced && !(w.toNode.step move).authority.isFenced)) = false
    rw [hfinal.1, hbeside.authority, Bool.and_not_self, Bool.or_false]
  · show (w.admittedSince || _) = false
    rw [hfinal.2.1, hadmits, Bool.or_false]
  · show (w.missed || (_ && _ && _)) = false
    rw [hfinal.2.2, hreturning, Bool.false_and, Bool.false_and, Bool.or_false]
  · show (w.toNode.step move).authority.isFenced = true
    rcases Bool.or_eq_true_iff.mp hever with hever | hfenced
    · rw [hbeside.authority]
      exact h.fenced hever
    · exact hfenced
  · have hhosted : w.hosted.isHalted = true := hbeside.hosted ▸ hhalted
    have hauthority : w.authority.isFenced = false := hbeside.authority ▸ hfenced
    obtain ⟨id, howes⟩ := h.owed hhosted hauthority
    exact ⟨id, hbeside.owes howes⟩

/-- What has been said in a step is a fence, or there was one and nothing was said. -/
theorem Node.tell_isFenced_iff (authority : WorkerAuthorityStatus) :
    (Node.tell authority told).isFenced = true ↔
      (∃ status, told = some status ∧ status.isFenced = true)
        ∨ told = none ∧ authority.isFenced = true := by
  rw [Node.tell_isFenced]
  cases told with
  | none | some status => simp

end

section

variable {w : Watched} {id : Nat} {found : Findings}

theorem Watched.step_proceed_final (hfinal : w.Final) :
    (w.step (.proceed id found)).Final ↔
      ¬ (w.authority.isFenced = true
          ∧ (Node.tell w.authority (w.doing id found).told).isFenced = false)
      ∧ ¬ ((w.stages id).isIdle = false ∧ (w.doing id found).next.isIdle = true
          ∧ (w.doing id found).hosted.isHalted = true
          ∧ (Node.tell w.authority (w.doing id found).told).isFenced = false) := by
  have hnext : ((w.toNode.step (.proceed id found)).stages id) = (w.doing id found).next :=
    Function.update_self _ _ _
  have hunfenced : (w.step (.proceed id found)).unfenced
      = (w.authority.isFenced && !(Node.tell w.authority (w.doing id found).told).isFenced) := by
    show (w.unfenced || _) = _
    rw [hfinal.1]
    rfl
  have hadmitted : (w.step (.proceed id found)).admittedSince = false := by
    show (w.admittedSince || (w.everFenced && false)) = false
    rw [hfinal.2.1, Bool.and_false, Bool.or_false]
  have hmissed : (w.step (.proceed id found)).missed
      = (!(w.stages id).isIdle && (w.doing id found).next.isIdle
          && (w.doing id found).hosted.isHalted
          && !(Node.tell w.authority (w.doing id found).told).isFenced) := by
    show (w.missed || (!(w.stages id).isIdle
      && ((w.toNode.step (.proceed id found)).stages id).isIdle && _ && _)) = _
    rw [hfinal.2.2, hnext]
    rfl
  rw [Watched.Final, hunfenced, hadmitted, hmissed]
  simp

theorem Watched.doing_stays (h : w.hosted.isHalted = true) :
    (w.doing id found).hosted.isHalted = true := by
  by_cases hloses : w.LosesFence id found
  · exact (Watched.doing_loses hloses).2.2.1
  · exact (Watched.doing_lawful hloses).stays h

/-- Where the condition holds, a step takes no fence away and misses none. -/
theorem Kept.final_of_heeds (h : Kept w) (hfinal : w.Final) (hheeds : w.Heeds (.proceed id found)) :
    (w.step (.proceed id found)).Final := by
  obtain ⟨hoverwrites, hsnapshot, hleaves⟩ := hheeds
  have hstays : w.authority.isFenced = true →
      (Node.tell w.authority (w.doing id found).told).isFenced = true := by
    intro hfenced
    rw [Node.tell_isFenced_iff]
    cases hsaid : (w.doing id found).told with
    | none => exact .inr ⟨rfl, hfenced⟩
    | some status =>
      refine .inl ⟨status, rfl, ?_⟩
      by_contra hother
      exact hoverwrites hfenced (Stage.overwrites_iff.mpr
        ⟨status, hsaid, Bool.eq_false_of_not_eq_true hother⟩)
  rw [Watched.step_proceed_final hfinal]
  refine ⟨fun hlost => ?_, ?_⟩
  · exact Bool.noConfusion ((hstays hlost.1).symm.trans hlost.2)
  · rintro ⟨hidle, hidle', hhalted, hunfenced⟩
    have hbefore : w.authority.isFenced = false :=
      Bool.eq_false_of_not_eq_true fun hfenced =>
        Bool.noConfusion ((hstays hfenced).symm.trans hunfenced)
    have hsilent : ∀ status, (w.doing id found).told = some status → status.isFenced = false := by
      intro status hsaid
      by_contra hfence
      have hfenced := (Node.tell_isFenced_iff w.authority).mpr
        (.inl ⟨status, hsaid, Bool.eq_true_of_not_eq_false hfence⟩)
      exact Bool.noConfusion (hfenced.symm.trans hunfenced)
    rcases (Watched.doing_lawful (hsnapshot hbefore)).owed hhalted with hwas | howes
    · exact hleaves hbefore hwas (h.owed hwas hbefore)
        ((Stage.leaves_iff hwas hbefore).mpr ⟨hidle, hidle', hsilent⟩)
    · cases hnext : (w.doing id found).next with
      | returned outcome => rw [hnext] at howes; exact howes
      | _ => rw [hnext] at hidle'; cases hidle'

/-- A step that takes no fence away and misses none meets the condition. -/
theorem Kept.heeds_of_final (hfinal : w.Final) (hnext : (w.step (.proceed id found)).Final) :
    w.Heeds (.proceed id found) := by
  obtain ⟨hstays, hreturned⟩ := (Watched.step_proceed_final hfinal).mp hnext
  refine ⟨fun hfenced hoverwrites => ?_, fun hunfenced hloses => ?_,
    fun hunfenced hhalted _ hleaves => ?_⟩
  · obtain ⟨status, hsaid, hother⟩ : ∃ status, (w.doing id found).told = some status
        ∧ status.isFenced = false := Stage.overwrites_iff.mp hoverwrites
    refine hstays ⟨hfenced, ?_⟩
    rw [Node.tell_isFenced, hsaid]
    exact hother
  · obtain ⟨hidle, hidle', hhalted, hsaid⟩ := Watched.doing_loses hloses
    refine hreturned ⟨hidle, hidle', hhalted, ?_⟩
    rw [Node.tell_isFenced, hsaid]
    exact hunfenced
  · obtain ⟨hidle, hidle', hsilent⟩ := (Stage.leaves_iff hhalted hunfenced).mp hleaves
    refine hreturned ⟨hidle, hidle', Watched.doing_stays hhalted, ?_⟩
    rw [Node.tell_isFenced]
    cases hsaid : (w.doing id found).told with
    | none => exact hunfenced
    | some status => exact hsilent status hsaid

theorem Kept.proceed (h : Kept w) (hfinal : w.Final) (hnext : (w.step (.proceed id found)).Final) :
    Kept (w.step (.proceed id found)) := by
  obtain ⟨hstays, hreturned⟩ := (Watched.step_proceed_final hfinal).mp hnext
  have hfenced : w.authority.isFenced = true →
      (Node.tell w.authority (w.doing id found).told).isFenced = true := fun hfenced =>
    Bool.eq_true_of_not_eq_false fun hunfenced => hstays ⟨hfenced, hunfenced⟩
  refine ⟨fun hever => ?_, fun hhalted hunfenced => ?_⟩
  · rcases Bool.or_eq_true_iff.mp hever with hever | hsaid
    · exact hfenced (h.fenced hever)
    · exact hsaid
  · have hbefore : w.authority.isFenced = false := Bool.eq_false_of_not_eq_true fun hwas =>
      Bool.noConfusion ((hfenced hwas).symm.trans hunfenced)
    have hmine : (w.doing id found).next.OwesFence →
        ∃ other, ((w.step (.proceed id found)).stages other).OwesFence := by
      intro howes
      refine ⟨id, ?_⟩
      show (Function.update w.stages id (w.doing id found).next id).OwesFence
      rwa [Function.update_self]
    by_cases hloses : w.LosesFence id found
    · obtain ⟨hidle, hidle', hhalted', -⟩ := Watched.doing_loses hloses
      exact absurd ⟨hidle, hidle', hhalted', hunfenced⟩ hreturned
    · rcases (Watched.doing_lawful hloses).owed hhalted with hwas | howes
      · obtain ⟨other, howes⟩ := h.owed hwas hbefore
        by_cases hother : other = id
        · subst hother
          rcases Watched.doing_owes howes hbefore with hnext | hsaid
          · exact hmine hnext
          · have hsaid := (Node.tell_isFenced_iff w.authority).mpr (.inl hsaid)
            exact Bool.noConfusion (hsaid.symm.trans hunfenced)
        · refine ⟨other, ?_⟩
          show (Function.update w.stages id (w.doing id found).next other).OwesFence
          rwa [Function.update_of_ne hother]
      · exact hmine howes

end

theorem final_start (node : Node) : (Watched.start node).Final := ⟨rfl, rfl, rfl⟩

/-- What a worker begins with has not halted. -/
theorem kept_start (cell : Option LifecycleMode) : Kept (.start (.initial cell)) where
  fenced hever := Bool.noConfusion hever
  owed hhalted := by
    have hrunning : (Node.initial cell).hosted.isHalted = false := by
      cases cell with
      | none => rfl
      | some observedMode => cases observedMode <;> rfl
    exact Bool.noConfusion (hhalted.symm.trans hrunning)

/-- In every run of the operations of a worker, whatever the calls into what it hosts come to and
    in whatever order its tasks take their steps, a fence is final, no session is admitted after
    it, and no operation returns over something that has halted and is not fenced, as long as the
    steps meet the condition; with the first that does not, one of these fails. -/
theorem fencing_is_final_iff (cell : Option LifecycleMode) (moves : List Move) :
    Throughout Watched.tick Watched.Final (.start (.initial cell)) moves
      ↔ Along Watched.tick Watched.Heeds (.start (.initial cell)) moves := by
  refine throughout_iff_along (P := fun w => w.Final → Kept w) ?_ ?_ (fun _ => kept_start cell)
    (final_start _) (runAll_total Watched.step _ _)
  · intro w move w' hkept hfinal hstep hnext
    obtain rfl := Except.ok.inj hstep
    cases move with
    | proceed id found => exact (hkept hfinal).proceed hfinal hnext
    | _ =>
      refine ((hkept hfinal).beside hfinal ?_).2
      rintro id found ⟨⟩
  · intro w move w' _ hkept hfinal hstep
    obtain rfl := Except.ok.inj hstep
    cases move with
    | proceed id found =>
      exact ⟨Kept.heeds_of_final hfinal, (hkept hfinal).final_of_heeds hfinal⟩
    | _ =>
      refine ⟨fun _ => trivial, fun _ => ((hkept hfinal).beside hfinal ?_).1⟩
      rintro id found ⟨⟩

/-! ## A fence that is taken away, and one that is missed -/

/-- Every call is answered. -/
def smooth : Findings where
  opening := .ok ()
  runtime := .ok ()
  halts := false
  coordinator := .ok ()
  route := .ok ()
  routeAfter := .ok ()
  live := true
  mode := .active
  observedMode := .active
  projection := .ok ()

/-- A handoff of the coordinator fails. -/
def handoffFails : Findings :=
  { smooth with coordinator := .error (.invalid "destination cell is not hosted") }

/-- The runtime cannot write its snapshot, and stops. -/
def snapshotFails : Findings :=
  { smooth with runtime := .error (.persistence .leaseOwnershipChanged), halts := true }

/-- Session 0 has been let in and is asked for its player. The supervisor, task 1, advances the
    coordinator, which fails and fences the worker. The session finds that the worker is not
    active, and activates it. -/
def unfencedRun : List Move := [
  .connect 0, .attend 0, .hello 0 true, .proceed 0 smooth, .attend 0, .attend 0,
  .call 1 .advance, .proceed 1 handoffFails, .proceed 1 smooth, .proceed 1 smooth,
  .attend 0, .proceed 0 smooth, .attend 0, .attend 0]

/-- A worker of one cell persists a snapshot, and fails. -/
def missedRun : List Move := [.call 0 .persistSnapshot, .proceed 0 snapshotFails]

/-- The first run ends with a session admitted to a coordinator that has halted and was fenced; the
    second with a runtime that has halted and a worker that says it is active. -/
theorem not_fencing_is_final :
    ¬ Throughout Watched.tick Watched.Final (.start (.initial none)) unfencedRun
      ∧ ¬ Throughout Watched.tick Watched.Final (.start (.initial (some .active))) missedRun := by
  constructor
  · intro hfinal
    have hadmitted : (unfencedRun.foldl Watched.step (.start (.initial none))).admittedSince = true := by
      decide +kernel
    have hlast := (hfinal.last (runAll_total _ _ _)).2.1
    exact Bool.noConfusion (hlast.symm.trans hadmitted)
  · intro hfinal
    have hmissed : (missedRun.foldl Watched.step (.start (.initial (some .active)))).missed = true := by
      decide +kernel
    have hlast := (hfinal.last (runAll_total _ _ _)).2.2
    exact Bool.noConfusion (hlast.symm.trans hmissed)

end Verse.Worker.Fence
