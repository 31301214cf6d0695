import Verse.Interest.Checked
import Verse.Lib.Run
import Mathlib.Data.List.Induction
import Mathlib.Data.Prod.Lex

/-!
# The verifier under an adversarial stream

Whoever holds a connection may feed the verifier any bytes in any order, and may present any
token. This file says what cannot happen all the same, over every sequence of `stage`,
`commit`, `discard` and `reset`.

`Standing` is the invariant: what is committed may be presented, a handoff and a view are
never committed together, and what is pending was computed from what is committed. From it
each call is `Lawful`. Tokens need one thing more. Both counters of a token run through the
`u64` and start again, so a token is good for once only as long as the counters have not come
round; `stale_token_commits` is the run in which they have.
-/

namespace Verse.Interest

open Lib

/-- What a client may call. -/
inductive VerifierCall where
  | stage (rawJson : List UInt8)
  | commit (token : StageToken)
  | discard (token : StageToken)
  | reset
deriving DecidableEq

inductive Answer where
  | staged (answer : Verdict StageToken)
  | committed (answer : Verdict CommitOutcome)
  | discarded (answer : Verdict Unit)
  | done

namespace Answer

/-- The call returned an error. -/
def Refused : Answer → Prop
  | .staged (.error _) | .committed (.error _) | .discarded (.error _) => True
  | .staged (.ok _) | .committed (.ok _) | .discarded (.ok _) | .done => False

end Answer

variable (wire : Wire)

namespace InterestVerifier

def call (v : InterestVerifier) : VerifierCall → Answer × InterestVerifier
  | .stage rawJson => (.staged (v.stage wire rawJson).1, (v.stage wire rawJson).2)
  | .commit token => (.committed (v.commit token).1, (v.commit token).2)
  | .discard token => (.discarded (v.discard token).1, (v.discard token).2)
  | .reset => (.done, v.reset)

/-- The verifier after a sequence of calls. -/
def after (v : InterestVerifier) (calls : List VerifierCall) : InterestVerifier :=
  calls.foldl (fun v call => (v.call wire call).2) v

/-- The calls as a step that never fails. -/
def step (v : InterestVerifier) (call : VerifierCall) : Except Empty InterestVerifier :=
  .ok (v.call wire call).2

/-- What a displaced or discarded transition leaves. -/
def dropped (v : InterestVerifier) : InterestVerifier :=
  ({ v with pending := none } : InterestVerifier).advanceGeneration

end InterestVerifier

/-! ## What is safe about a verifier -/

/-- What one call may do. -/
structure Lawful (v : InterestVerifier) (call : VerifierCall) : Prop where
  refused : (v.call wire call).1.Refused → (v.call wire call).2.committed = v.committed
  sound : ∀ view, (v.call wire call).2.committed.view = some view →
    SoundView wire.hashing (v.call wire call).2.committed view
  /-- A view gives way to the view that continues it, to one that recovers it, or to a
      handoff from it. -/
  onward : call ≠ .reset → ∀ current, v.committed.view = some current →
    (∀ view, (v.call wire call).2.committed.view = some view →
      view = current ∨ Extends current view ∨ Recovers current view) ∧
    ((v.call wire call).2.committed.view = none →
      ∃ status, status.phase = .preparing ∧ (v.call wire call).2.committed.handoff =
        some ⟨status, current.sessionEpoch, current.interestEpoch⟩)
  /-- Over a handoff nothing commits but its later phases, its own destination baseline, and
      messages that say nothing about a view. -/
  handed : ∀ handoff, v.committed.handoff = some handoff →
    (∀ token outcome, call = .commit token → (v.commit token).1 = .ok outcome →
      outcome.kind ≠ .delta ∧ outcome.kind ≠ .intentAccepted ∧ outcome.kind ≠ .intentRejected) ∧
    ∀ view, (v.call wire call).2.committed.view = some view → Completes handoff view
  /-- An acknowledgement is the frontier of the view just committed. -/
  acknowledged : ∀ token outcome, call = .commit token → (v.commit token).1 = .ok outcome →
    (outcome.kind = .baseline ∨ outcome.kind = .delta) →
    ∃ view, (v.call wire call).2.committed.view = some view ∧
      outcome.acknowledgement = some view.frontier

/-- Between resets a session's frontier moves on, and stays in its session. -/
def NeverBack (v₀ : InterestVerifier) (calls : List VerifierCall) : Prop :=
  ∀ before between rest, calls = before ++ between ++ rest → .reset ∉ between →
    ∀ early late, (v₀.after wire before).committed.view = some early →
      (v₀.after wire (before ++ between)).committed.view = some late →
      late.sessionEpoch = early.sessionEpoch ∧
        toLex (early.interestEpoch, early.deltaSequence) ≤
          toLex (late.interestEpoch, late.deltaSequence)

/-- A commit is accepted for a token that some call staged; for every call that staged it,
    against the very state it was staged on, installing what it was staged as; and never again
    for the same token. -/
def TokensOnce (v₀ : InterestVerifier) (calls : List VerifierCall) : Prop :=
  ∀ before token rest outcome, calls = before ++ .commit token :: rest →
    ((v₀.after wire before).commit token).1 = .ok outcome →
    (∃ early rawJson late, before = early ++ .stage rawJson :: late ∧
      ((v₀.after wire early).stage wire rawJson).1 = .ok token) ∧
    (∀ early rawJson late, before = early ++ .stage rawJson :: late →
      ((v₀.after wire early).stage wire rawJson).1 = .ok token →
      (v₀.after wire early).committed = (v₀.after wire before).committed ∧
      ∃ message, wire.parseExact rawJson v₀.config.limits = .ok message ∧
        transition wire v₀.config (v₀.after wire early).committed message =
          .ok (outcome.kind, (v₀.after wire (before ++ [.commit token])).committed)) ∧
    ∀ between rest' outcome', rest = between ++ .commit token :: rest' →
      ((v₀.after wire (before ++ .commit token :: between)).commit token).1 ≠ .ok outcome'

/-! ## One call -/

variable {wire} {v v' : InterestVerifier} {c c' : CommittedState} {kind : StageKind}

variable {p : PendingState} {token : StageToken}

theorem pendingFor_eq_ok :
    v.pendingFor token = .ok p ↔ v.pending = some p ∧ p.token = token := by
  simp [InterestVerifier.pendingFor, Option.filter_eq_some_iff]

variable (wire) in
/-- What `stage` can do: leave everything, drop what was pending, or put a transition computed
    from the committed state aside under a new token. -/
theorem stage_cases (v : InterestVerifier) (rawJson : List UInt8) :
    (∃ e, v.stage wire rawJson = (.error e, v)) ∨
    (∃ e, v.pending.isSome ∧ v.stage wire rawJson = (.error e, v.dropped)) ∨
    ∃ p v₁, (v₁ = v ∧ v.pending = none ∨ v₁ = v.dropped ∧ v.pending.isSome) ∧
      wire.parseExact rawJson v.config.limits = .ok p.message ∧
      transition wire v.config v.committed p.message = .ok (p.kind, p.next) ∧
      p.token = ⟨v₁.generation, v.nextSequence⟩ ∧
      v.stage wire rawJson = (.ok p.token,
        { v₁ with pending := some p, nextSequence := nextCounter v.nextSequence }) := by
  have hmessage : ∀ v₁ : InterestVerifier, v₁.config = v.config → v₁.committed = v.committed →
      v₁.nextSequence = v.nextSequence → ∀ message,
      (∃ e, v₁.stageMessage wire message = (.error e, v₁)) ∨
      ∃ p : PendingState, p.message = message ∧
        transition wire v.config v.committed p.message = .ok (p.kind, p.next) ∧
        p.token = ⟨v₁.generation, v.nextSequence⟩ ∧
        v₁.stageMessage wire message = (.ok p.token,
          { v₁ with pending := some p, nextSequence := nextCounter v.nextSequence }) := by
    intro v₁ hconfig hcommitted hsequence message
    rw [InterestVerifier.stageMessage, hconfig, hcommitted, hsequence]
    cases hjson : wire.sanitized message with
    | error e => exact .inl ⟨e, rfl⟩
    | ok json =>
      cases htransition : transition wire v.config v.committed message with
      | error e => exact .inl ⟨e, rfl⟩
      | ok r =>
        exact .inr ⟨⟨⟨v₁.generation, v.nextSequence⟩, r.1, r.2, message, json⟩, rfl,
          htransition, rfl, rfl⟩
  cases hparse : wire.parseExact rawJson v.config.limits with
  | error e => exact .inl ⟨e, by rw [InterestVerifier.stage, hparse]⟩
  | ok message =>
    by_cases hpending : v.pending.isSome
    · cases hsupersedes : InterestVerifier.supersedesPending message with
      | false =>
        refine .inl ⟨⟨.pendingStage, "a transition is already pending"⟩, ?_⟩
        simp [InterestVerifier.stage, hparse, hpending, hsupersedes]
      | true =>
        have hstage : v.stage wire rawJson = v.dropped.stageMessage wire message := by
          simp [InterestVerifier.stage, hparse, hpending, hsupersedes, InterestVerifier.dropped]
        rw [hstage]
        rcases hmessage v.dropped rfl rfl rfl message with
          ⟨e, he⟩ | ⟨p, rfl, htransition, htoken, hp⟩
        · exact .inr (.inl ⟨e, hpending, he⟩)
        · exact .inr (.inr ⟨p, v.dropped, .inr ⟨rfl, hpending⟩, rfl, htransition, htoken, hp⟩)
    · have hnone : v.pending = none := by simpa using hpending
      have hstage : v.stage wire rawJson = v.stageMessage wire message := by
        simp [InterestVerifier.stage, hparse, hnone]
      rw [hstage]
      rcases hmessage v rfl rfl rfl message with ⟨e, he⟩ | ⟨p, rfl, htransition, htoken, hp⟩
      · exact .inl ⟨e, he⟩
      · exact .inr (.inr ⟨p, v, .inl ⟨rfl, hnone⟩, rfl, htransition, htoken, hp⟩)

theorem commit_cases (v : InterestVerifier) (token : StageToken) :
    (∃ e, v.commit token = (.error e, v)) ∨
    ∃ p, v.pending = some p ∧ p.token = token ∧
      v.commit token = (.ok ⟨p.kind, InterestVerifier.acknowledgement p,
        p.next.view.map (·.summary)⟩, { v.dropped with committed := p.next }) := by
  rw [InterestVerifier.commit]
  cases hp : v.pendingFor token with
  | error e => exact .inl ⟨e, rfl⟩
  | ok p =>
    obtain ⟨hpending, htoken⟩ := pendingFor_eq_ok.mp hp
    exact .inr ⟨p, hpending, htoken, rfl⟩

theorem commit_of_pending (hp : v.pending = some p)
    (htoken : p.token = token) :
    v.commit token = (.ok ⟨p.kind, InterestVerifier.acknowledgement p,
      p.next.view.map (·.summary)⟩, { v.dropped with committed := p.next }) := by
  have hfor : v.pendingFor token = .ok p := pendingFor_eq_ok.mpr ⟨hp, htoken⟩
  rw [InterestVerifier.commit, hfor]
  rfl

theorem discard_cases (v : InterestVerifier) (token : StageToken) :
    (∃ e, v.discard token = (.error e, v)) ∨
    v.pending.isSome ∧ v.discard token = (.ok (), v.dropped) := by
  rw [InterestVerifier.discard]
  cases hp : v.pendingFor token with
  | error e => exact .inl ⟨e, rfl⟩
  | ok p => exact .inr ⟨by simp [(pendingFor_eq_ok.mp hp).1], rfl⟩

theorem acknowledgement_of_kind (h : p.kind = .baseline ∨ p.kind = .delta) :
    InterestVerifier.acknowledgement p = p.next.view.map (·.frontier) := by
  rcases h with h | h <;> rw [InterestVerifier.acknowledgement, h]

/-! ## The invariant -/

structure Standing (hashing : Hashing) (v : InterestVerifier) : Prop where
  sound : ∀ view, v.committed.view = some view → SoundView hashing v.committed view
  handed : v.committed.handoff.isSome → v.committed.view = none
  prepared : ∀ p, v.pending = some p → Advances hashing v.committed p.kind p.next

variable {hashing : Hashing} {view : ViewState}

theorem SoundView.congr (h : SoundView hashing c view)
    (hwelcome : c'.welcome = c.welcome) : SoundView hashing c' view :=
  ⟨h.hashed, h.sorted, by rw [hwelcome]; exact h.linked⟩

theorem Advances.sound (h : Advances hashing c kind c')
    (hc : ∀ view, c.view = some view → SoundView hashing c view) :
    ∀ view, c'.view = some view → SoundView hashing c' view := by
  intro view hview
  cases h with
  | welcomed welcome hnone =>
    obtain ⟨w, hw, -⟩ := (hc view hview).linked
    rw [hnone] at hw
    cases hw
  | registered | accepted | rejected | ended => exact (hc view hview).congr rfl
  | begun | continued => cases hview
  | completed handoff next hhandoff hcompletes hsound
  | recovered current next hhandoff hcurrent hrecovers hsound
  | opened next hhandoff hcurrent hsound | extended current next hcurrent hextends hsound =>
    obtain rfl : next = view := by simpa using hview
    exact hsound.congr rfl

theorem Advances.handed (h : Advances hashing c kind c')
    (hc : c.handoff.isSome → c.view = none) : c'.handoff.isSome → c'.view = none := by
  intro hhandoff
  cases h with
  | welcomed | registered | accepted | rejected | ended => exact hc hhandoff
  | begun | continued => rfl
  | completed => cases hhandoff
  | recovered current next hnone | opened next hnone => simp [hnone] at hhandoff
  | extended current next hcurrent =>
    have hview := hc hhandoff
    rw [hcurrent] at hview
    cases hview

/-- From a view, one transition goes on to a later view, keeps it, or hands it off. -/
theorem Advances.onward (h : Advances hashing c kind c')
    (hc : c.handoff.isSome → c.view = none) {current : ViewState}
    (hcurrent : c.view = some current) :
    (∀ view, c'.view = some view →
      view = current ∨ Extends current view ∨ Recovers current view) ∧
    (c'.view = none → ∃ status, status.phase = .preparing ∧
      c'.handoff = some ⟨status, current.sessionEpoch, current.interestEpoch⟩) := by
  have hhandoff : c.handoff = none := by
    by_contra hne
    rw [hc (Option.isSome_iff_ne_none.mpr hne)] at hcurrent
    cases hcurrent
  have hkept : c'.view = some current →
      (∀ view, c'.view = some view →
        view = current ∨ Extends current view ∨ Recovers current view) ∧
      (c'.view = none → ∃ status, status.phase = .preparing ∧
        c'.handoff = some ⟨status, current.sessionEpoch, current.interestEpoch⟩) := by
    intro hsame
    rw [hsame]
    exact ⟨fun view hview => .inl (Option.some.inj hview).symm, fun hnone => (by cases hnone)⟩
  cases h with
  | welcomed | registered | accepted | rejected | ended => exact hkept hcurrent
  | begun view status hnone hview hphase =>
    obtain rfl : view = current := by simpa [hview] using hcurrent
    exact ⟨fun next hnext => (by cases hnext), fun _ => ⟨status, hphase, rfl⟩⟩
  | continued handoff status hsome | completed handoff view hsome =>
    rw [hhandoff] at hsome
    cases hsome
  | recovered view next hnone hview hrecovers =>
    obtain rfl : view = current := by simpa [hview] using hcurrent
    refine ⟨fun later hlater => .inr (.inr ?_), fun hnone => (by cases hnone)⟩
    obtain rfl : next = later := by simpa using hlater
    exact hrecovers
  | opened next hnone hview =>
    rw [hcurrent] at hview
    cases hview
  | extended view next hview hextends =>
    obtain rfl : view = current := by simpa [hview] using hcurrent
    refine ⟨fun later hlater => .inr (.inl ?_), fun hnone => (by cases hnone)⟩
    obtain rfl : next = later := by simpa using hlater
    exact hextends

/-- With no view, nothing that presumes one commits. -/
theorem Advances.kind_of_none (h : Advances hashing c kind c')
    (hnone : c.view = none) :
    kind ≠ .delta ∧ kind ≠ .intentAccepted ∧ kind ≠ .intentRejected := by
  cases h with
  | extended current next hcurrent =>
    rw [hnone] at hcurrent
    cases hcurrent
  | accepted hsome | rejected hsome =>
    rw [hnone] at hsome
    cases hsome
  | _ => exact ⟨by simp, by simp, by simp⟩

theorem Advances.completes (h : Advances hashing c kind c') {handoff}
    (hhandoff : c.handoff = some handoff) (hnone : c.view = none) (hview : c'.view = some view) :
    Completes handoff view := by
  cases h with
  | welcomed | registered | accepted | rejected | ended =>
    have hsome : c.view = some view := hview
    rw [hnone] at hsome
    cases hsome
  | begun | continued => cases hview
  | completed bound next hbound hcompletes =>
    obtain rfl : bound = handoff := by simpa [hbound] using hhandoff
    obtain rfl : next = view := by simpa using hview
    exact hcompletes
  | recovered current next hfree | opened next hfree =>
    rw [hhandoff] at hfree
    cases hfree
  | extended current next hcurrent =>
    rw [hnone] at hcurrent
    cases hcurrent

theorem Advances.view_of_kind (h : Advances hashing c kind c')
    (hkind : kind = .baseline ∨ kind = .delta) : ∃ view, c'.view = some view := by
  cases h with
  | completed handoff view | recovered current view | opened view | extended current view =>
    exact ⟨view, rfl⟩
  | _ => simp at hkind

namespace Standing

variable {hashing : Hashing}

theorem of_empty (hcommitted : v.committed = .empty) (hpending : v.pending = none) :
    Standing hashing v where
  sound := by simp [hcommitted, CommittedState.empty]
  handed := by simp [hcommitted, CommittedState.empty]
  prepared := by simp [hpending]

theorem dropped (h : Standing hashing v) : Standing hashing v.dropped :=
  ⟨h.sound, h.handed, fun p hp => by cases hp⟩

theorem stage (h : Standing wire.hashing v) (rawJson : List UInt8) :
    Standing wire.hashing (v.stage wire rawJson).2 := by
  rcases stage_cases wire v rawJson with ⟨e, he⟩ | ⟨e, -, he⟩ |
    ⟨p, v₁, hv₁, -, htransition, -, he⟩
  · rw [he]; exact h
  · rw [he]; exact h.dropped
  · rw [he]
    have hprepared := transition_advances htransition
    rcases hv₁ with ⟨rfl, -⟩ | ⟨rfl, -⟩
    · refine ⟨h.sound, h.handed, ?_⟩
      intro q hq
      obtain rfl : p = q := by simpa using hq
      exact hprepared
    · refine ⟨h.sound, h.handed, ?_⟩
      intro q hq
      obtain rfl : p = q := by simpa using hq
      exact hprepared

theorem commit (h : Standing hashing v) (token : StageToken) :
    Standing hashing (v.commit token).2 := by
  rcases commit_cases v token with ⟨e, he⟩ | ⟨p, hp, -, he⟩
  · rw [he]; exact h
  · rw [he]
    have hadvances := h.prepared p hp
    exact ⟨hadvances.sound h.sound, hadvances.handed h.handed, fun q hq => by cases hq⟩

theorem call (h : Standing wire.hashing v) (call : VerifierCall) :
    Standing wire.hashing (v.call wire call).2 := by
  cases call with
  | stage rawJson => exact h.stage rawJson
  | commit token => exact h.commit token
  | discard token =>
    show Standing wire.hashing (v.discard token).2
    rcases discard_cases v token with ⟨e, he⟩ | ⟨-, he⟩
    · rw [he]; exact h
    · rw [he]; exact h.dropped
  | reset => exact of_empty rfl rfl

end Standing

theorem standing_of_new {config} (h : InterestVerifier.new config = .ok v) :
    Standing hashing v := by
  simp only [InterestVerifier.new, bind_eq_ok, pure_eq_ok] at h
  obtain ⟨-, -, -, -, -, -, rfl⟩ := h
  exact .of_empty rfl rfl

/-- Only a commit or a reset changes what is committed. -/
theorem call_committed (v : InterestVerifier) (call : VerifierCall) :
    call = .reset ∨ (v.call wire call).2.committed = v.committed ∨
      ∃ token p, call = .commit token ∧ v.pending = some p ∧
        v.commit token = (.ok ⟨p.kind, InterestVerifier.acknowledgement p,
          p.next.view.map (·.summary)⟩, { v.dropped with committed := p.next }) := by
  cases call with
  | stage rawJson =>
    right; left
    show (v.stage wire rawJson).2.committed = v.committed
    rcases stage_cases wire v rawJson with ⟨e, he⟩ | ⟨e, -, he⟩ | ⟨p, v₁, hv₁, -, -, -, he⟩
    · rw [he]
    · rw [he]; rfl
    · rw [he]
      rcases hv₁ with ⟨rfl, -⟩ | ⟨rfl, -⟩ <;> rfl
  | commit token =>
    rcases commit_cases v token with ⟨e, he⟩ | ⟨p, hp, -, he⟩
    · right; left
      show (v.commit token).2.committed = v.committed
      rw [he]
    · exact .inr (.inr ⟨token, p, rfl, hp, he⟩)
  | discard token =>
    right; left
    show (v.discard token).2.committed = v.committed
    rcases discard_cases v token with ⟨e, he⟩ | ⟨-, he⟩
    · rw [he]
    · rw [he]; rfl
  | reset => exact .inl rfl

/-- Under the invariant every call is lawful. -/
theorem Standing.lawful (h : Standing wire.hashing v) (call : VerifierCall) :
    Lawful wire v call where
  refused := by
    intro hrefused
    rcases call_committed v call with rfl | hsame | ⟨token, p, rfl, -, he⟩
    · exact hrefused.elim
    · exact hsame
    · rw [InterestVerifier.call, he] at hrefused
      exact hrefused.elim
  sound := (h.call call).sound
  onward := by
    intro hreset current hcurrent
    rcases call_committed v call with hr | hsame | ⟨token, p, rfl, hp, he⟩
    · exact absurd hr hreset
    · rw [hsame]
      refine ⟨fun view hview => .inl ?_, fun hnone => ?_⟩
      · rw [hcurrent] at hview
        exact (Option.some.inj hview).symm
      · rw [hcurrent] at hnone
        cases hnone
    · rw [InterestVerifier.call, he]
      exact (h.prepared p hp).onward h.handed hcurrent
  handed := by
    intro handoff hhandoff
    have hnone := h.handed (by simp [hhandoff])
    constructor
    · rintro token outcome rfl houtcome
      rcases commit_cases v token with ⟨e, he⟩ | ⟨p, hp, -, he⟩
      · rw [he] at houtcome
        cases houtcome
      · rw [he] at houtcome
        obtain rfl := Except.ok.inj houtcome
        exact (h.prepared p hp).kind_of_none hnone
    · intro view hview
      rcases call_committed v call with rfl | hsame | ⟨token, p, rfl, hp, he⟩
      · cases hview
      · rw [hsame, hnone] at hview
        cases hview
      · rw [InterestVerifier.call, he] at hview
        exact (h.prepared p hp).completes hhandoff hnone hview
  acknowledged := by
    rintro token outcome rfl houtcome hkind
    rcases commit_cases v token with ⟨e, he⟩ | ⟨p, hp, -, he⟩
    · rw [he] at houtcome
      cases houtcome
    · rw [InterestVerifier.call, he]
      rw [he] at houtcome
      obtain rfl := Except.ok.inj houtcome
      obtain ⟨view, hview⟩ := (h.prepared p hp).view_of_kind hkind
      refine ⟨view, hview, ?_⟩
      show InterestVerifier.acknowledgement p = some view.frontier
      rw [acknowledgement_of_kind hkind, hview]
      rfl

/-! ## Runs -/

theorem after_append {before between} :
    v.after wire (before ++ between) = (v.after wire before).after wire between := by
  rw [InterestVerifier.after, List.foldl_append]
  rfl

theorem Standing.after (h : Standing wire.hashing v) (calls : List VerifierCall) :
    Standing wire.hashing (v.after wire calls) := by
  induction calls generalizing v with
  | nil => exact h
  | cons call rest ih => exact ih (h.call call)

theorem after_config (v : InterestVerifier) (calls : List VerifierCall) :
    (v.after wire calls).config = v.config := by
  induction calls generalizing v with
  | nil => rfl
  | cons call rest ih =>
    show ((v.call wire call).2.after wire rest).config = v.config
    rw [ih]
    cases call with
    | stage rawJson =>
      show (v.stage wire rawJson).2.config = v.config
      rcases stage_cases wire v rawJson with ⟨e, he⟩ | ⟨e, -, he⟩ | ⟨p, v₁, hv₁, -, -, -, he⟩
      · rw [he]
      · rw [he]; rfl
      · rw [he]
        rcases hv₁ with ⟨rfl, -⟩ | ⟨rfl, -⟩ <;> rfl
    | commit token =>
      show (v.commit token).2.config = v.config
      rcases commit_cases v token with ⟨e, he⟩ | ⟨p, -, -, he⟩
      · rw [he]
      · rw [he]; rfl
    | discard token =>
      show (v.discard token).2.config = v.config
      rcases discard_cases v token with ⟨e, he⟩ | ⟨-, he⟩
      · rw [he]
      · rw [he]; rfl
    | reset => rfl

/-- Whatever view is committed here, or will be once a handoff completes, lies at or beyond a
    place of a session. -/
structure Beyond (session : String) (place : ℕ ×ₗ ℕ) (c : CommittedState) : Prop where
  view : ∀ view, c.view = some view → view.sessionEpoch = session ∧
    place ≤ toLex (view.interestEpoch, view.deltaSequence)
  handoff : c.view = none → ∃ handoff, c.handoff = some handoff ∧
    handoff.sessionEpoch = session ∧ (ofLex place).1 ≤ handoff.priorInterestEpoch

theorem Beyond.advances {session : String} {place} (hb : Beyond session place c)
    (hc : c.handoff.isSome → c.view = none) (h : Advances hashing c kind c') :
    Beyond session place c' := by
  cases hview : c.view with
  | some current =>
    obtain ⟨hsession, hplace⟩ := hb.view current hview
    obtain ⟨hkept, hhanded⟩ := h.onward hc hview
    constructor
    · intro view hnext
      rcases hkept view hnext with rfl | hextends | hrecovers
      · exact ⟨hsession, hplace⟩
      · refine ⟨hextends.session.trans hsession, hplace.trans ?_⟩
        rw [hextends.epoch, hextends.sequence]
        exact Prod.Lex.toLex_le_toLex.mpr (.inr ⟨rfl, Nat.le_succ _⟩)
      · refine ⟨hrecovers.session.trans hsession, hplace.trans ?_⟩
        exact Prod.Lex.toLex_le_toLex.mpr (.inl hrecovers.epoch)
    · intro hnone
      obtain ⟨status, -, hstatus⟩ := hhanded hnone
      refine ⟨_, hstatus, hsession, ?_⟩
      rcases Prod.Lex.le_iff.mp hplace with hlt | ⟨heq, -⟩
      · exact hlt.le
      · exact heq.le
  | none =>
    obtain ⟨handoff, hhandoff, hsession, hepoch⟩ := hb.handoff hview
    constructor
    · intro view hnext
      have hcompletes := h.completes hhandoff hview hnext
      refine ⟨hcompletes.session.trans hsession, Prod.Lex.le_iff.mpr (.inl ?_)⟩
      rw [hcompletes.epoch]
      exact Nat.lt_succ_of_le hepoch
    · intro hnone
      cases h with
      | welcomed | registered | accepted | rejected | ended =>
        exact ⟨handoff, hhandoff, hsession, hepoch⟩
      | begun view status hfree =>
        rw [hhandoff] at hfree
        cases hfree
      | continued bound status hbound =>
        obtain rfl : bound = handoff := by simpa [hbound] using hhandoff
        exact ⟨_, rfl, hsession, hepoch⟩
      | completed | recovered | opened | extended => cases hnone

theorem Standing.neverBack (h : Standing wire.hashing v) (calls : List VerifierCall) :
    NeverBack wire v calls := by
  intro before between rest hcalls hreset early late hearly hlate
  rw [after_append] at hlate
  have hstanding := h.after before
  have hbeyond : Beyond early.sessionEpoch (toLex (early.interestEpoch, early.deltaSequence))
      (v.after wire before).committed := by
    constructor
    · intro view hview
      obtain rfl : early = view := by simpa [hearly] using hview
      exact ⟨rfl, le_rfl⟩
    · intro hnone
      rw [hearly] at hnone
      cases hnone
  -- The place reached before is a bound for every later view: by induction over the calls.
  clear hearly hcalls
  generalize v.after wire before = w at hlate hstanding hbeyond
  induction between generalizing w with
  | nil => exact hbeyond.view late hlate
  | cons call between ih =>
    have hcall : call ≠ .reset := fun heq => hreset (heq ▸ List.mem_cons_self)
    have hrest : .reset ∉ between := fun hmem => hreset (List.mem_cons_of_mem _ hmem)
    refine ih hrest _ hlate (hstanding.call call) ?_
    show Beyond _ _ (w.call wire call).2.committed
    rcases call_committed w call with hr | hsame | ⟨token, p, rfl, hp, he⟩
    · exact absurd hr hcall
    · rw [hsame]
      exact hbeyond
    · rw [InterestVerifier.call, he]
      exact hbeyond.advances hstanding.handed (hstanding.prepared p hp)

/-! ## Tokens -/

/-- After `n` calls neither counter has come round, and what is pending was staged in the
    current generation. -/
structure Counted (n : Nat) (v : InterestVerifier) : Prop where
  generation : v.generation ≤ n + 1
  sequence : v.nextSequence ≤ n + 1
  pending : ∀ p, v.pending = some p → p.token.generation = v.generation ∧
    p.token.sequence < v.nextSequence

variable {n : Nat}

theorem nextCounter_eq (h : n < u64Max) : nextCounter n = n + 1 := by
  have hlt : n + 1 < 2 ^ 64 := by simp only [u64Max] at h; omega
  rw [nextCounter, Nat.mod_eq_of_lt hlt]
  exact max_eq_left (Nat.succ_pos n)

namespace Counted

variable {n : Nat}

theorem dropped (h : Counted n v) (hn : n + 1 < u64Max) : Counted (n + 1) v.dropped := by
  have hv : v.generation < u64Max := by have := h.generation; omega
  have hgeneration : v.dropped.generation = v.generation + 1 := nextCounter_eq hv
  refine ⟨?_, ?_, fun p hp => (by cases hp)⟩
  · rw [hgeneration]
    have := h.generation
    omega
  · have := h.sequence
    exact this.trans (Nat.le_succ _)

theorem mono (h : Counted n v) : Counted (n + 1) v :=
  ⟨h.generation.trans (Nat.le_succ _), h.sequence.trans (Nat.le_succ _), h.pending⟩

variable (wire) in
theorem call (h : Counted n v) (hn : n + 1 < u64Max) (call : VerifierCall) :
    Counted (n + 1) (v.call wire call).2 := by
  cases call with
  | stage rawJson =>
    show Counted (n + 1) (v.stage wire rawJson).2
    rcases stage_cases wire v rawJson with ⟨e, he⟩ | ⟨e, -, he⟩ | ⟨p, v₁, hv₁, -, -, htoken, he⟩
    · rw [he]; exact h.mono
    · rw [he]; exact h.dropped hn
    · rw [he]
      have hsequence : nextCounter v.nextSequence = v.nextSequence + 1 :=
        nextCounter_eq (by have := h.sequence; omega)
      have hbound : v₁.generation ≤ n + 1 + 1 := by
        rcases hv₁ with ⟨rfl, -⟩ | ⟨rfl, -⟩
        · exact h.mono.generation
        · exact (h.dropped hn).generation
      refine ⟨hbound, ?_, ?_⟩
      · show nextCounter v.nextSequence ≤ n + 1 + 1
        have := h.sequence
        omega
      · intro q hq
        obtain rfl : p = q := by simpa using hq
        rw [htoken, hsequence]
        exact ⟨rfl, Nat.lt_succ_self _⟩
  | commit token =>
    show Counted (n + 1) (v.commit token).2
    rcases commit_cases v token with ⟨e, he⟩ | ⟨p, -, -, he⟩
    · rw [he]; exact h.mono
    · rw [he]
      exact ⟨(h.dropped hn).generation, (h.dropped hn).sequence, fun q hq => (by cases hq)⟩
  | discard token =>
    show Counted (n + 1) (v.discard token).2
    rcases discard_cases v token with ⟨e, he⟩ | ⟨-, he⟩
    · rw [he]; exact h.mono
    · rw [he]; exact h.dropped hn
  | reset => exact ⟨(h.dropped hn).generation, (h.dropped hn).sequence, fun q hq => (by cases hq)⟩

variable (wire) in
theorem after (h : Counted n v) (calls : List VerifierCall) (hn : n + calls.length < u64Max) :
    Counted (n + calls.length) (v.after wire calls) := by
  induction calls generalizing n v with
  | nil => exact h
  | cons call rest ih =>
    rw [List.length_cons] at hn ⊢
    have hcall := h.call wire (by omega) call
    have hrest := ih hcall (by omega)
    rw [Nat.add_comm rest.length, ← Nat.add_assoc]
    exact hrest

end Counted

/-- While the counters have not come round, a call leaves what is pending and what it was
    staged on as they are, or moves the generation past its token. -/
theorem call_pending (call : VerifierCall) (hp : v.pending = some p)
    (hv : v.generation < u64Max) :
    ((v.call wire call).2.pending = some p ∧
        (v.call wire call).2.committed = v.committed ∧
        (v.call wire call).2.generation = v.generation) ∨
      v.generation < (v.call wire call).2.generation := by
  have hdropped : v.generation < v.dropped.generation := by
    show v.generation < nextCounter v.generation
    rw [nextCounter_eq hv]
    exact Nat.lt_succ_self _
  cases call with
  | stage rawJson =>
    show ((v.stage wire rawJson).2.pending = some p ∧ _) ∨ _ < (v.stage wire rawJson).2.generation
    rcases stage_cases wire v rawJson with ⟨e, he⟩ | ⟨e, -, he⟩ | ⟨q, v₁, hv₁, -, -, -, he⟩
    · left
      show (v.stage wire rawJson).2.pending = some p ∧ (v.stage wire rawJson).2.committed = _ ∧
        (v.stage wire rawJson).2.generation = _
      rw [he]
      exact ⟨hp, rfl, rfl⟩
    · rw [he]; exact .inr hdropped
    · rw [he]
      rcases hv₁ with ⟨rfl, hnone⟩ | ⟨rfl, -⟩
      · rw [hp] at hnone
        cases hnone
      · exact .inr hdropped
  | commit token =>
    rcases commit_cases v token with ⟨e, he⟩ | ⟨q, -, -, he⟩ <;>
      rw [InterestVerifier.call, he]
    · exact .inl ⟨hp, rfl, rfl⟩
    · exact .inr hdropped
  | discard token =>
    rcases discard_cases v token with ⟨e, he⟩ | ⟨-, he⟩ <;> rw [InterestVerifier.call, he]
    · exact .inl ⟨hp, rfl, rfl⟩
    · exact .inr hdropped
  | reset => exact .inr hdropped

/-- Generations only rise while the counters have not come round. -/
theorem generation_le_call (call : VerifierCall) (hv : v.generation < u64Max) :
    v.generation ≤ (v.call wire call).2.generation := by
  have hdropped : v.generation ≤ v.dropped.generation := by
    show v.generation ≤ nextCounter v.generation
    rw [nextCounter_eq hv]
    exact Nat.le_succ _
  cases call with
  | stage rawJson =>
    show v.generation ≤ (v.stage wire rawJson).2.generation
    rcases stage_cases wire v rawJson with ⟨e, he⟩ | ⟨e, -, he⟩ | ⟨q, v₁, hv₁, -, -, -, he⟩
    · rw [he]
    · rw [he]; exact hdropped
    · rw [he]
      rcases hv₁ with ⟨rfl, -⟩ | ⟨rfl, -⟩
      · exact le_rfl
      · exact hdropped
  | commit token =>
    rcases commit_cases v token with ⟨e, he⟩ | ⟨q, -, -, he⟩ <;> rw [InterestVerifier.call, he]
    exact hdropped
  | discard token =>
    rcases discard_cases v token with ⟨e, he⟩ | ⟨-, he⟩ <;> rw [InterestVerifier.call, he]
    exact hdropped
  | reset => exact hdropped

variable (wire) in
theorem generation_le_after (h : Counted n v) (calls : List VerifierCall)
    (hn : n + calls.length < u64Max) : v.generation ≤ (v.after wire calls).generation := by
  induction calls generalizing n v with
  | nil => exact le_rfl
  | cons call rest ih =>
    rw [List.length_cons] at hn
    have hv : v.generation < u64Max := by have := h.generation; omega
    exact (generation_le_call call hv).trans (ih (h.call wire (by omega) call) (by omega))

variable (wire) in
/-- What was pending before a sequence of calls is pending after it on the same committed
    state, or its token can no longer match. -/
theorem pending_after (h : Counted n v) (hp : v.pending = some p)
    (calls : List VerifierCall) (hn : n + calls.length < u64Max) :
    ((v.after wire calls).pending = some p ∧ (v.after wire calls).committed = v.committed) ∨
      p.token.generation < (v.after wire calls).generation := by
  induction calls generalizing n v with
  | nil => exact .inl ⟨hp, rfl⟩
  | cons call rest ih =>
    rw [List.length_cons] at hn
    have hv : v.generation < u64Max := by have := h.generation; omega
    have hcall := h.call wire (by omega) call
    have hn' : n + 1 + rest.length < u64Max := by omega
    rcases call_pending call hp hv with ⟨hpending, hcommitted, -⟩ | hlt
    · rcases ih hcall hpending hn' with ⟨hlater, hsame⟩ | hlater
      · exact .inl ⟨hlater, hsame.trans hcommitted⟩
      · exact .inr hlater
    · right
      rw [(h.pending p hp).1]
      exact hlt.trans_le (generation_le_after wire hcall rest hn')

variable {calls : List VerifierCall}

theorem staged_of_pending (hnone : v.pending = none)
    (hp : (v.after wire calls).pending = some p) :
    ∃ early rawJson late, calls = early ++ .stage rawJson :: late ∧
      ((v.after wire early).stage wire rawJson).1 = .ok p.token := by
  induction calls using List.reverseRecOn with
  | nil =>
    have hsome : v.pending = some p := hp
    rw [hnone] at hsome
    cases hsome
  | append_singleton calls call ih =>
    rw [after_append] at hp
    generalize hw : v.after wire calls = w at hp ih
    have hbefore : w.pending = some p → ∃ early rawJson late,
        calls ++ [call] = early ++ .stage rawJson :: late ∧
          ((v.after wire early).stage wire rawJson).1 = .ok p.token := by
      intro hpending
      obtain ⟨early, rawJson, late, rfl, hstaged⟩ := ih hpending
      exact ⟨early, rawJson, late ++ [call], by simp, hstaged⟩
    cases call with
    | stage rawJson =>
      have hp : (w.stage wire rawJson).2.pending = some p := hp
      rcases stage_cases wire w rawJson with ⟨e, he⟩ | ⟨e, -, he⟩ | ⟨q, v₁, -, -, -, -, he⟩
      · rw [he] at hp
        exact hbefore hp
      · rw [he] at hp
        cases hp
      · rw [he] at hp
        obtain rfl : q = p := by simpa using hp
        refine ⟨calls, rawJson, [], rfl, ?_⟩
        rw [hw, he]
    | commit token =>
      have hp : (w.commit token).2.pending = some p := hp
      rcases commit_cases w token with ⟨e, he⟩ | ⟨q, -, -, he⟩
      · rw [he] at hp
        exact hbefore hp
      · rw [he] at hp
        cases hp
    | discard token =>
      have hp : (w.discard token).2.pending = some p := hp
      rcases discard_cases w token with ⟨e, he⟩ | ⟨-, he⟩
      · rw [he] at hp
        exact hbefore hp
      · rw [he] at hp
        cases hp
    | reset => cases hp

theorem accepted_commit {outcome} (h : (v.commit token).1 = .ok outcome) :
    ∃ p, v.pending = some p ∧ p.token = token ∧ outcome.kind = p.kind ∧
      (v.commit token).2 = { v.dropped with committed := p.next } := by
  rcases commit_cases v token with ⟨e, he⟩ | ⟨p, hp, htoken, he⟩
  · rw [he] at h
    cases h
  · rw [he] at h
    exact ⟨p, hp, htoken, congrArg CommitOutcome.kind (Except.ok.inj h).symm, by rw [he]⟩

theorem tokensOnce (hcount : Counted 0 v) (hnone : v.pending = none)
    (hfew : calls.length < u64Max) : TokensOnce wire v calls := by
  intro before token rest outcome hcalls houtcome
  rw [hcalls, List.length_append, List.length_cons] at hfew
  have hbefore : Counted before.length (v.after wire before) := by
    simpa using hcount.after wire before (by omega)
  obtain ⟨p, hp, rfl, hkind, he⟩ := accepted_commit houtcome
  have hcurrent : p.token.generation = (v.after wire before).generation :=
    (hbefore.pending p hp).1
  have hafter : v.after wire (before ++ [.commit p.token]) =
      { (v.after wire before).dropped with committed := p.next } := by
    rw [after_append]
    exact he
  refine ⟨staged_of_pending hnone hp, ?_, ?_⟩
  · intro early rawJson late hsplit hstaged
    rw [hsplit, List.length_append, List.length_cons] at hfew
    have hearly : Counted early.length (v.after wire early) := by
      simpa using hcount.after wire early (by omega)
    have hlate : v.after wire before =
        ((v.after wire early).call wire (.stage rawJson)).2.after wire late := by
      rw [hsplit, after_append]
      rfl
    have hstage := hearly.call wire (by omega) (.stage rawJson)
    rcases stage_cases wire (v.after wire early) rawJson with
      ⟨e, hs⟩ | ⟨e, -, hs⟩ | ⟨q, v₁, hv₁, hparse, htransition, -, hs⟩
    · rw [hs] at hstaged
      cases hstaged
    · rw [hs] at hstaged
      cases hstaged
    · -- What that call staged is still what is pending: its token has not been passed.
      rw [hs] at hstaged
      have htoken : q.token = p.token := Except.ok.inj hstaged
      have hcommitted : ((v.after wire early).call wire (.stage rawJson)).2.committed =
          (v.after wire early).committed := by
        rw [InterestVerifier.call, hs]
        rcases hv₁ with ⟨rfl, -⟩ | ⟨rfl, -⟩ <;> rfl
      have hpending : ((v.after wire early).call wire (.stage rawJson)).2.pending = some q := by
        rw [InterestVerifier.call, hs]
      rcases pending_after wire hstage hpending late (by omega) with
        ⟨hstill, hsame⟩ | hpast
      · rw [← hlate, hp] at hstill
        obtain rfl : p = q := Option.some.inj hstill
        rw [← hlate, hcommitted] at hsame
        rw [after_config] at hparse htransition
        refine ⟨hsame.symm, p.message, hparse, ?_⟩
        rw [hkind, hafter]
        exact htransition
      · rw [← hlate, htoken, hcurrent] at hpast
        exact absurd hpast (lt_irrefl _)
  · intro between rest' outcome' hrest hagain
    rw [hrest, List.length_append, List.length_cons] at hfew
    have hcommit := hbefore.call wire (by omega) (.commit p.token)
    have hsplit : v.after wire (before ++ .commit p.token :: between) =
        (((v.after wire before).call wire (.commit p.token)).2).after wire between := by
      rw [after_append]
      rfl
    obtain ⟨q, hq, htoken, -⟩ := accepted_commit hagain
    have hlater := hcommit.after wire between (by omega)
    rw [← hsplit] at hlater
    have hgeneration := (hlater.pending q hq).1
    have hrises : (v.after wire before).generation <
        ((v.after wire before).call wire (.commit p.token)).2.generation := by
      show _ < ((v.after wire before).commit p.token).2.generation
      rw [he]
      show _ < nextCounter (v.after wire before).generation
      rw [nextCounter_eq (by have := hbefore.generation; omega)]
      exact Nat.lt_succ_self _
    have hmono := generation_le_after wire hcommit between (by omega)
    rw [← hsplit, ← hgeneration, htoken, hcurrent] at hmono
    exact absurd (hrises.trans_le hmono) (lt_irrefl _)

/-! ## The claim -/

/-- Every call is lawful, the frontier of a session never goes back between resets, and, in a
    run too short for the counters to come round, every token is good for one commit, on the
    state it was staged on. -/
theorem verifier_is_safe {config : VerifierConfig} (hnew : InterestVerifier.new config = .ok v)
    (calls : List VerifierCall) :
    Along (InterestVerifier.step wire) (Lawful wire) v calls ∧ NeverBack wire v calls ∧
      (calls.length < u64Max → TokensOnce wire v calls) := by
  have hstanding : Standing wire.hashing v := standing_of_new hnew
  refine ⟨?_, hstanding.neverBack calls, ?_⟩
  · refine along_of_preserved (P := fun v => Standing wire.hashing v) ?_ ?_ hstanding
    · intro v call v' h hstep
      obtain rfl := Except.ok.inj hstep
      exact h.call call
    · intro v call h
      exact h.lawful call
  · intro hfew
    simp only [InterestVerifier.new, bind_eq_ok, pure_eq_ok] at hnew
    obtain ⟨-, -, -, -, -, -, rfl⟩ := hnew
    exact tokensOnce ⟨le_rfl, le_rfl, fun p hp => (by cases hp)⟩ rfl hfew

namespace Example

def limits : ResourceLimits := ⟨1, 1, 1, 1, 1, 1, 1, 1, 1, 1, 1, 1⟩

def zeroHash : String := "0000000000000000000000000000000000000000000000000000000000000000"

def config : VerifierConfig :=
  ⟨.spectator, 1, 1, 1, "content", zeroHash, "universe", zeroHash, zeroHash, limits⟩

def welcome : WelcomeMessage :=
  ⟨protocolVersion, projectionSchemaVersion, 1, 1, 1, "content", celestialRegistrySchemaVersion,
    universeManifestSchemaVersion, interestSchemaVersion, "server", .spectator⟩

/-- A wire on which one byte is a welcome and everything else ends the session. -/
def drill : Wire where
  hashing := ⟨fun _ => .ok zeroHash, fun _ => ""⟩
  parseExact rawJson _ := if rawJson = [0] then .ok (.welcome welcome) else .ok (.fatal "" "")
  sanitized _ := .ok ""
  validateRegistry _ _ _ _ := .error (unexpected "registry")

/-- A verifier with nothing negotiated, its counters at some place. -/
def idle (generation nextSequence : Nat) : InterestVerifier :=
  ⟨config, .empty, none, generation, nextSequence⟩

/-- Staging a fatal message and committing it, `n` times over. -/
def turns : Nat → List VerifierCall
  | 0 => []
  | n + 1 => turns n ++ [.stage [], .commit ⟨n + 2, n + 2⟩]

theorem new_config : InterestVerifier.new config = .ok (idle 1 1) := by
  have hid : validStableId "universe" = true := by decide
  have hhash : validBlake3Hex zeroHash = true := by decide
  simp [InterestVerifier.new, validateLimits, validateExpectedCommitments, validateIdentifier,
    validateHash, config, limits, hid, hhash, idle]

/-- The fatal message is staged whatever the counters say. -/
theorem stage_fatal (g s : Nat) : ∃ json, (idle g s).stage drill [] =
    (.ok ⟨g, s⟩, { idle g s with
      nextSequence := nextCounter s
      pending := some ⟨⟨g, s⟩, .fatal, .empty, .fatal "" "", json⟩ }) :=
  ⟨"", rfl⟩

theorem stage_welcome : ∃ p, (idle 1 1).stage drill [0] =
    (.ok ⟨1, 1⟩, { idle 1 1 with nextSequence := 2, pending := some p }) := by
  have hwelcome : validateWelcome config welcome = .ok () := by
    simp [validateWelcome, config, welcome]
  have hcounter : nextCounter 1 = 2 := by decide
  simp [InterestVerifier.stage, InterestVerifier.stageMessage, transition, drill, idle, hwelcome,
    hcounter, rejectIf, CommittedState.empty, bind, Except.bind, pure, Except.pure]

theorem after_turn (g s : Nat) :
    (idle g s).after drill [.stage [], .commit ⟨g, s⟩] =
      idle (nextCounter g) (nextCounter s) := by
  obtain ⟨json, hstage⟩ := stage_fatal g s
  show (((idle g s).stage drill []).2.commit ⟨g, s⟩).2 = _
  rw [hstage]
  have hcommit := commit_of_pending (v := { idle g s with
    nextSequence := nextCounter s
    pending := some ⟨⟨g, s⟩, .fatal, .empty, .fatal "" "", json⟩ }) rfl rfl
  rw [hcommit]
  rfl

theorem after_turns (h : n + 2 ≤ u64Max) :
    (idle 2 2).after drill (turns n) = idle (n + 2) (n + 2) := by
  induction n with
  | zero => rfl
  | succ n ih =>
    rw [turns, after_append, ih (by omega), after_turn, nextCounter_eq (by omega)]

theorem nextCounter_u64Max : nextCounter u64Max = 1 := by decide

theorem after_round (h : n + 2 = u64Max) :
    (idle 2 2).after drill (turns (n + 1)) = idle 1 1 := by
  rw [turns, after_append, after_turns h.le, after_turn, h, nextCounter_u64Max]

/-- One short of the number of turns after which the counters have come round. -/
def lap : Nat := u64Max - 2

/-- A welcome is staged and forgotten, the counters come round, and the end of the session is
    staged. -/
def comeRound : List VerifierCall :=
  [.stage [0], .reset] ++ (turns (lap + 1) ++ [.stage []])

theorem after_comeRound : ∃ json, (idle 1 1).after drill comeRound =
    { idle 1 2 with pending := some ⟨⟨1, 1⟩, .fatal, .empty, .fatal "" "", json⟩ } := by
  have hlap : lap + 2 = u64Max := by decide
  have hreset : (idle 1 1).after drill [.stage [0], .reset] = idle 2 2 := by
    obtain ⟨p, hp⟩ := stage_welcome
    show ((idle 1 1).stage drill [0]).2.reset = idle 2 2
    rw [hp]
    rfl
  have hround : (idle 2 2).after drill (turns (lap + 1)) = idle 1 1 := after_round hlap
  obtain ⟨json, hstage⟩ := stage_fatal 1 1
  refine ⟨json, ?_⟩
  rw [comeRound, after_append, hreset, after_append, hround]
  show ((idle 1 1).stage drill []).2 = _
  rw [hstage]
  rfl

end Example

/-- The token a welcome was staged under, kept over a reset until the counters have come round,
    commits the end of the session instead. -/
theorem stale_token_commits :
    ¬ TokensOnce Example.drill (Example.idle 1 1) (Example.comeRound ++ [.commit ⟨1, 1⟩]) := by
  intro htokens
  obtain ⟨json, hround⟩ := Example.after_comeRound
  obtain ⟨-, hstaged, -⟩ := htokens Example.comeRound ⟨1, 1⟩ [] ⟨.fatal, none, none⟩ rfl
    (by rw [hround]; rfl)
  obtain ⟨p, hp⟩ := Example.stage_welcome
  obtain ⟨-, message, hparse, htransition⟩ :=
    hstaged [] [0] (.reset :: (Example.turns (Example.lap + 1) ++ [.stage []]))
      (by simp only [Example.comeRound, List.cons_append, List.nil_append])
      (congrArg Prod.fst hp)
  obtain rfl : ServerMessage.welcome Example.welcome = message := Except.ok.inj hparse
  simp only [transition, bind_eq_ok, pure_eq_ok] at htransition
  obtain ⟨-, -, -, -, hwelcome⟩ := htransition
  cases hwelcome

/-- The theorem on the verifier of the run above. -/
theorem verifier_is_safe_round :
    Along (InterestVerifier.step Example.drill) (Lawful Example.drill) (Example.idle 1 1)
        Example.comeRound ∧ NeverBack Example.drill (Example.idle 1 1) Example.comeRound ∧
      (Example.comeRound.length < u64Max →
        TokensOnce Example.drill (Example.idle 1 1) Example.comeRound) :=
  verifier_is_safe Example.new_config Example.comeRound

end Verse.Interest
