import Verse.Interest.Verifier

/-!
# What a checked frame is known to be

The checks of a frame read backwards: the view a baseline or a delta leaves is the one the
frame describes, its hash is the digest of that view, its entities are in strict canonical
order, and its private part is linked to them. `Advances` is what one transition can install
over a committed state, with every constructor naming the frontier it continues.
-/

namespace Verse.Interest

open Lib

/-! ## Order -/

theorem strictlySorted_iff {α κ : Type} [LinearOrder κ] {key : α → κ} {l : List α} :
    strictlySorted key l = true ↔ (l.map key).Pairwise (· < ·) := by
  induction l with
  | nil => simp [strictlySorted]
  | cons a rest ih =>
    cases rest with
    | nil => simp [strictlySorted]
    | cons b rest =>
      rw [strictlySorted, Bool.and_eq_true, ih, List.map_cons (a := a), List.pairwise_cons]
      constructor
      · rintro ⟨hab, hrest⟩
        refine ⟨?_, hrest⟩
        intro c hc
        have hlt : key a < key b := of_decide_eq_true hab
        rcases List.mem_cons.mp hc with rfl | hc
        · exact hlt
        · exact hlt.trans ((List.pairwise_cons.mp hrest).1 c hc)
      · rintro ⟨ha, hrest⟩
        exact ⟨decide_eq_true (ha (key b) List.mem_cons_self), hrest⟩

variable {u : Unit}

@[simp] theorem ensureStrictlySorted_eq_ok {α κ : Type} [LinearOrder κ] {values : List α}
    {key : α → κ} {label : String} :
    ensureStrictlySorted values key label = .ok u ↔ (values.map key).Pairwise (· < ·) := by
  simp [ensureStrictlySorted, ← strictlySorted_iff]

variable {limits : ResourceLimits}

theorem sorted_of_validateEntityVector {entities binding}
    (h : validateEntityVector entities limits binding = .ok u) :
    (entities.map entityKey).Pairwise (· < ·) := by
  simp only [validateEntityVector, bind_eq_ok] at h
  obtain ⟨_, _, _, hsorted, _⟩ := h
  exact ensureStrictlySorted_eq_ok.mp hsorted

/-! ## Entity maps -/

/-- Every entity of the map is filed under its own key. -/
def KeyedBy (entities : EntityMap) : Prop :=
  ∀ k e, entities.get? k = some e → entityKey e = k

variable {interest : InterestSnapshot}

namespace KeyedBy

variable {entities entities' : EntityMap}

theorem insert (h : KeyedBy entities) (e : InterestEntityProjection) :
    KeyedBy (entities.insert (entityKey e) e) := by
  intro k e' hget
  rw [OrdMap.get?_insert] at hget
  split at hget
  case isTrue hk =>
    obtain rfl : e = e' := by simpa using hget
    exact hk.symm
  case isFalse => exact h k e' hget

theorem erase (h : KeyedBy entities) (k : EntityKey) : KeyedBy (entities.erase k) := by
  intro k' e hget
  rw [OrdMap.get?_erase] at hget
  split at hget
  case isTrue => cases hget
  case isFalse => exact h k' e hget

theorem entityMap (l : List InterestEntityProjection) : KeyedBy (Interest.entityMap l) := by
  have hfold : ∀ (l : List InterestEntityProjection) (m : EntityMap), KeyedBy m →
      KeyedBy ((l.map fun e => (entityKey e, e)).foldl (fun m p => m.insert p.1 p.2) m) := by
    intro l
    induction l with
    | nil => intro m hm; exact hm
    | cons e rest ih => intro m hm; exact ih _ (hm.insert e)
  apply hfold
  intro k e hget
  cases hget

theorem foldlM {α : Type} {step : EntityMap → α → Verdict EntityMap}
    (hstep : ∀ {m a m'}, KeyedBy m → step m a = .ok m' → KeyedBy m') {l : List α}
    (h : KeyedBy entities) (hl : l.foldlM step entities = .ok entities') : KeyedBy entities' := by
  induction l generalizing entities with
  | nil =>
    obtain rfl : entities = entities' := by simpa using hl
    exact h
  | cons a rest ih =>
    rw [List.foldlM_cons, bind_eq_ok] at hl
    obtain ⟨m, hm, hrest⟩ := hl
    exact ih (hstep h hm) hrest

variable {e : InterestEntityProjection}

theorem enter (h : KeyedBy entities)
    (he : enterEntity entities e = .ok entities') : KeyedBy entities' := by
  simp only [enterEntity, bind_eq_ok, pure_eq_ok] at he
  obtain ⟨-, -, rfl⟩ := he
  exact h.insert e

theorem replace (h : KeyedBy entities)
    (he : replaceEntity entities e = .ok entities') : KeyedBy entities' := by
  simp only [replaceEntity, bind_eq_ok, pure_eq_ok] at he
  obtain ⟨-, -, -, -, rfl⟩ := he
  exact h.insert e

theorem remove {r} (h : KeyedBy entities) (hr : removeEntity entities r = .ok entities') :
    KeyedBy entities' := by
  simp only [removeEntity, bind_eq_ok, pure_eq_ok] at hr
  obtain ⟨-, -, rfl⟩ := hr
  exact h.erase _

theorem applyOperations
    (h : KeyedBy entities)
    (ha : Interest.applyOperations limits entities interest = .ok entities') :
    KeyedBy entities' := by
  simp only [Interest.applyOperations, bind_eq_ok, pure_eq_ok] at ha
  obtain ⟨entered, hentered, replaced, hreplaced, removed, hremoved, -, -, rfl⟩ := ha
  exact foldlM remove (foldlM replace (foldlM enter h hentered) hreplaced) hremoved

theorem sorted (h : KeyedBy entities) :
    (entities.values.map entityKey).Pairwise (· < ·) := by
  have hkeys : entities.values.map entityKey = entities.keys := by
    rw [OrdMap.values, OrdMap.keys, List.map_map]
    apply List.map_congr_left
    intro p hp
    exact h p.1 p.2 (OrdMap.mem_entries.mp hp)
  rw [hkeys]
  exact OrdMap.keys_sorted

end KeyedBy

/-! ## Frames -/

variable {hashing : Hashing} {config : VerifierConfig} {welcome : WelcomeBinding}
  {binding : ValidatedRegistry}

theorem sealView_eq_ok {view sealed : ViewState} {wire : String} :
    sealView hashing view wire = .ok sealed ↔
      hashing.digest view.hashMaterial = .ok wire ∧ validBlake3Hex wire = true ∧
        sealed = { view with viewHash := wire } := by
  simp only [sealView, hashView, requireWireHash, bind_eq_ok, rejectIf_eq_ok, pure_eq_ok, not_or,
    Bool.not_eq_false, not_not]
  constructor
  · rintro ⟨computed, hdigest, -, ⟨hhex, rfl⟩, rfl⟩
    exact ⟨hdigest, hhex, rfl⟩
  · rintro ⟨hdigest, hhex, rfl⟩
    exact ⟨wire, hdigest, (), ⟨hhex, rfl⟩, rfl⟩

/-- The checks of a baseline that come before its hash. -/
structure BaselineChecks (hashing : Hashing) (config : VerifierConfig) (welcome : WelcomeBinding)
    (binding : ValidatedRegistry) (baseline : ProjectedWorldSnapshot) : Prop where
  outer : validateOuterBaseline welcome binding baseline = .ok ()
  header : validateInterestHeader baseline.interest .baseline binding = .ok ()
  repeated : repeatedBaselineHeaders baseline = .ok ()
  link : validateTransferLink hashing baseline.interest.transferLink baseline.cellId
    baseline.interest.cellAddress welcome.role binding = .ok ()
  role : validateRole welcome baseline.interest.observerClass baseline.actorPrivate none = .ok ()
  actor : ¬ (welcome.role ≠ .spectator ∧ baseline.actorPrivate = none)
  shape : ¬ (baseline.interest.deltaSequence ≠ 0 ∨ baseline.interest.previousViewHash ≠ none ∨
    baseline.interest.sessionEpoch = "" ∨ baseline.interest.baselineId = "" ∨
    baseline.interest.replaced ≠ [] ∨ baseline.interest.removed ≠ [])
  entities : validateEntityVector baseline.interest.entered config.limits binding = .ok ()
  arrays : validateBaselinePayloadArrays baseline baseline.interest.entered = .ok ()
  actorPrivate : ∀ a, baseline.actorPrivate = some a →
    validateActorPrivate a config.limits binding = .ok ()
  linkage : validatePrivateLinkage welcome.role baseline.actorPrivate
    baseline.interest.entered = .ok ()

variable {baseline : ProjectedWorldSnapshot} {view : ViewState}

theorem validateBaseline_eq_ok :
    validateBaseline hashing config welcome binding baseline = .ok view ↔
      BaselineChecks hashing config welcome binding baseline ∧
        hashing.digest baseline.view.hashMaterial = .ok baseline.interest.viewHash ∧
        validBlake3Hex baseline.interest.viewHash = true ∧
        view = { baseline.view with viewHash := baseline.interest.viewHash } := by
  simp only [validateBaseline, bind_eq_ok, rejectIf_eq_ok, whenSome_eq_ok, sealView_eq_ok]
  constructor
  · rintro ⟨⟨⟩, h1, ⟨⟩, h2, ⟨⟩, h3, ⟨⟩, h4, ⟨⟩, h5, ⟨⟩, h6, ⟨⟩, h7, ⟨⟩, h8, ⟨⟩, h9, ⟨⟩, h10, ⟨⟩,
      h11, h12⟩
    exact ⟨⟨h1, h2, h3, h4, h5, h6, h7, h8, h9, h10, h11⟩, h12⟩
  · rintro ⟨⟨h1, h2, h3, h4, h5, h6, h7, h8, h9, h10, h11⟩, h12⟩
    exact ⟨(), h1, (), h2, (), h3, (), h4, (), h5, (), h6, (), h7, (), h8, (), h9, (), h10, (),
      h11, h12⟩

/-- The checks of a delta that come before its public changes are applied. -/
structure DeltaChecks (config : VerifierConfig) (welcome : WelcomeBinding)
    (binding : ValidatedRegistry) (current : ViewState) (delta : ProjectedInterestDelta) :
    Prop where
  outer : validateOuterDelta welcome binding delta = .ok ()
  header : validateInterestHeader delta.interest .delta binding = .ok ()
  repeated : repeatedDeltaHeaders delta = .ok ()
  role : validateRole welcome delta.interest.observerClass delta.actorPrivate
    delta.actorPrivateMotion = .ok ()
  frontier : validateDeltaFrontier current delta.interest = .ok ()
  link : delta.interest.transferLink = none
  bodies : ¬ (delta.cellId ≠ current.cellId ∨ delta.gravityBodyId ≠ current.gravityBodyId ∨
    delta.voxelBodyId ≠ current.voxelBodyId)
  exclusive : ¬ (delta.actorPrivate.isSome ∧ delta.actorPrivateMotion.isSome)
  entered : validateEntityVector delta.interest.entered config.limits binding = .ok ()
  replaced : validateEntityVector delta.interest.replaced config.limits binding = .ok ()
  removed : validateRemovals delta.interest.removed config.limits = .ok ()
  disjoint : validateDisjointOperations delta.interest config.limits = .ok ()

variable {current : ViewState}

variable {delta : ProjectedInterestDelta}

theorem validateDelta_eq_ok :
    validateDelta hashing config welcome binding current delta = .ok view ↔
      DeltaChecks config welcome binding current delta ∧
        ∃ entities, applyOperations config.limits (entityMap current.entities) delta.interest =
            .ok entities ∧
          ∃ actorPrivate,
            nextActorPrivate config.limits binding current.actorPrivate delta =
                .ok actorPrivate ∧
              validatePrivateLinkage welcome.role actorPrivate entities.values = .ok () ∧
              hashing.digest (delta.view current entities.values actorPrivate).hashMaterial =
                .ok delta.interest.viewHash ∧
              validBlake3Hex delta.interest.viewHash = true ∧
              view = { delta.view current entities.values actorPrivate with
                viewHash := delta.interest.viewHash } := by
  simp only [validateDelta, bind_eq_ok, rejectIf_eq_ok, sealView_eq_ok, not_not]
  constructor
  · rintro ⟨⟨⟩, h1, ⟨⟩, h2, ⟨⟩, h3, ⟨⟩, h4, ⟨⟩, h5, ⟨⟩, h6, ⟨⟩, h7, ⟨⟩, h8, ⟨⟩, h9, ⟨⟩, h10, ⟨⟩,
      h11, ⟨⟩, h12, entities, hentities, actorPrivate, hactor, ⟨⟩, hlinkage, hseal⟩
    exact ⟨⟨h1, h2, h3, h4, h5, h6, h7, h8, h9, h10, h11, h12⟩, entities, hentities,
      actorPrivate, hactor, hlinkage, hseal⟩
  · rintro ⟨⟨h1, h2, h3, h4, h5, h6, h7, h8, h9, h10, h11, h12⟩, entities, hentities,
      actorPrivate, hactor, hlinkage, hseal⟩
    exact ⟨(), h1, (), h2, (), h3, (), h4, (), h5, (), h6, (), h7, (), h8, (), h9, (), h10, (),
      h11, (), h12, entities, hentities, actorPrivate, hactor, (), hlinkage, hseal⟩

theorem validateDeltaFrontier_eq_ok :
    validateDeltaFrontier current interest = .ok u ↔
      current.deltaSequence + 1 ≤ u64Max ∧ interest.sessionEpoch = current.sessionEpoch ∧
        interest.interestEpoch = current.interestEpoch ∧
        interest.baselineId = current.baselineId ∧
        interest.deltaSequence = current.deltaSequence + 1 ∧
        interest.previousViewHash = some current.viewHash ∧
        interest.observerClass = current.observerClass ∧
        interest.cellAddress = current.cellAddress ∧
        current.canonicalEventSequence ≤ interest.canonicalEventSequence ∧
        current.canonicalTick ≤ interest.canonicalTick := by
  simp only [validateDeltaFrontier, bind_eq_ok, demand_eq_ok, rejectIf_eq_ok, not_not,
    checkedAdd_eq_some]
  constructor
  · rintro ⟨next, ⟨hle, rfl⟩, h⟩
    exact ⟨hle, h⟩
  · rintro ⟨hle, h⟩
    exact ⟨_, ⟨hle, rfl⟩, h⟩

theorem validateDestinationBaseline_eq_ok {handoff} {candidate : ViewState} :
    validateDestinationBaseline handoff candidate = .ok u ↔
      ∃ link, candidate.transferLink = some link ∧ handoff.priorInterestEpoch + 1 ≤ u64Max ∧
        handoff.status.phase = .verifyingDestination ∧
        link.transferId = handoff.status.transferId ∧
        link.destinationCellKey = handoff.status.destinationCellKey ∧
        link.placementGeneration = handoff.status.placementGeneration ∧
        candidate.sessionEpoch = handoff.sessionEpoch ∧
        candidate.interestEpoch = handoff.priorInterestEpoch + 1 := by
  simp only [validateDestinationBaseline, bind_eq_ok, demand_eq_ok, rejectIf_eq_ok, not_not,
    checkedAdd_eq_some]
  constructor
  · rintro ⟨link, hlink, next, ⟨hle, rfl⟩, h⟩
    exact ⟨link, hlink, hle, h⟩
  · rintro ⟨link, hlink, hle, h⟩
    exact ⟨link, hlink, _, ⟨hle, rfl⟩, h⟩

/-! ## Frontiers -/

/-- A delta's view continues the committed one. -/
structure Extends (current next : ViewState) : Prop where
  session : next.sessionEpoch = current.sessionEpoch
  epoch : next.interestEpoch = current.interestEpoch
  baseline : next.baselineId = current.baselineId
  sequence : next.deltaSequence = current.deltaSequence + 1
  cell : next.cellId = current.cellId
  event : current.canonicalEventSequence ≤ next.canonicalEventSequence
  tick : current.canonicalTick ≤ next.canonicalTick

/-- A baseline that replaces the committed view begins a later epoch. -/
structure Recovers (current next : ViewState) : Prop where
  session : next.sessionEpoch = current.sessionEpoch
  epoch : current.interestEpoch < next.interestEpoch
  baseline : next.baselineId ≠ current.baselineId
  sequence : next.deltaSequence = 0
  event : current.canonicalEventSequence ≤ next.canonicalEventSequence
  tick : current.canonicalTick ≤ next.canonicalTick

/-- A baseline that completes a handoff: linked to the very transfer the handoff announced,
    one epoch after the source view it took away. -/
structure Completes (handoff : HandoffBinding) (next : ViewState) : Prop where
  phase : handoff.status.phase = .verifyingDestination
  link : next.transferLink = some ⟨handoff.status.transferId, handoff.status.destinationCellKey,
    handoff.status.placementGeneration⟩
  session : next.sessionEpoch = handoff.sessionEpoch
  epoch : next.interestEpoch = handoff.priorInterestEpoch + 1
  sequence : next.deltaSequence = 0

/-- What a client may present: the hash is the digest of the view, no entity is out of order or
    named twice, and the private part belongs to what is shown. -/
structure SoundView (hashing : Hashing) (c : CommittedState) (view : ViewState) : Prop where
  hashed : hashing.digest view.hashMaterial = .ok view.viewHash
  sorted : (view.entities.map entityKey).Pairwise (· < ·)
  linked : ∃ welcome, c.welcome = some welcome ∧
    validatePrivateLinkage welcome.role view.actorPrivate view.entities = .ok ()

/-- What one transition installs over a committed state. -/
inductive Advances (hashing : Hashing) (c : CommittedState) :
    StageKind → CommittedState → Prop
  | welcomed (welcome : WelcomeBinding) : c.welcome = none →
      Advances hashing c .welcome { c with welcome := some welcome }
  | registered (registry : ValidatedRegistry) : c.welcome.isSome → c.registry = none →
      Advances hashing c .registry { c with registry := some registry }
  | begun (view : ViewState) (status : HandoffStatus) : c.handoff = none → c.view = some view →
      status.phase = .preparing →
      Advances hashing c .handoff { c with
        view := none, handoff := some ⟨status, view.sessionEpoch, view.interestEpoch⟩ }
  | continued (handoff : HandoffBinding) (status : HandoffStatus) : c.handoff = some handoff →
      Advances hashing c .handoff { c with
        view := none, handoff := some { handoff with status := status } }
  | completed (handoff : HandoffBinding) (view : ViewState) : c.handoff = some handoff →
      Completes handoff view → SoundView hashing c view →
      Advances hashing c .baseline { c with view := some view, handoff := none }
  | recovered (current view : ViewState) : c.handoff = none → c.view = some current →
      Recovers current view → SoundView hashing c view →
      Advances hashing c .baseline { c with view := some view }
  | opened (view : ViewState) : c.handoff = none → c.view = none → SoundView hashing c view →
      view.deltaSequence = 0 → Advances hashing c .baseline { c with view := some view }
  | extended (current view : ViewState) : c.view = some current → Extends current view →
      SoundView hashing c view → Advances hashing c .delta { c with view := some view }
  | accepted : c.view.isSome → Advances hashing c .intentAccepted c
  | rejected : c.view.isSome → Advances hashing c .intentRejected c
  | ended : Advances hashing c .fatal c

variable {wire : Wire} {c next : CommittedState} {kind : StageKind}

theorem soundView_of_validateBaseline (hwelcome : c.welcome = some welcome)
    (h : validateBaseline hashing config welcome binding baseline = .ok view) :
    SoundView hashing c view ∧ view.deltaSequence = 0 := by
  obtain ⟨hchecks, hdigest, -, rfl⟩ := validateBaseline_eq_ok.mp h
  exact ⟨⟨hdigest, sorted_of_validateEntityVector hchecks.entities,
    welcome, hwelcome, hchecks.linkage⟩, rfl⟩

theorem soundView_of_validateDelta
    (hwelcome : c.welcome = some welcome)
    (h : validateDelta hashing config welcome binding current delta = .ok view) :
    SoundView hashing c view ∧ Extends current view := by
  obtain ⟨hchecks, entities, hentities, actorPrivate, -, hlinkage, hdigest, -, rfl⟩ :=
    validateDelta_eq_ok.mp h
  obtain ⟨-, -, -, -, hsequence, -, -, -, hevent, htick⟩ :=
    validateDeltaFrontier_eq_ok.mp hchecks.frontier
  have hsorted : (entities.values.map entityKey).Pairwise (· < ·) :=
    ((KeyedBy.entityMap _).applyOperations hentities).sorted
  exact ⟨⟨hdigest, hsorted, welcome, hwelcome, hlinkage⟩,
    ⟨rfl, rfl, rfl, hsequence, rfl, hevent, htick⟩⟩

theorem advances_of_stageHandoff {handoff} (h : stageHandoff wire c handoff = .ok next) :
    Advances wire.hashing c .handoff next := by
  simp only [stageHandoff, bind_eq_ok, demand_eq_ok] at h
  obtain ⟨_, _, _, _, _, _, h⟩ := h
  cases hc : c.handoff with
  | some current =>
    rw [hc] at h
    simp only [bind_eq_ok, pure_eq_ok] at h
    obtain ⟨-, -, rfl⟩ := h
    exact .continued current handoff hc
  | none =>
    rw [hc] at h
    simp only [bind_eq_ok, demand_eq_ok, pure_eq_ok] at h
    obtain ⟨view, hview, _, hinitial, rfl⟩ := h
    simp only [validateInitialHandoff, bind_eq_ok, rejectIf_eq_ok, not_not] at hinitial
    obtain ⟨-, hphase, -⟩ := hinitial
    exact .begun view handoff hc hview hphase

theorem advances_of_stageBaseline (h : stageBaseline wire config c baseline = .ok next) :
    Advances wire.hashing c .baseline next := by
  simp only [stageBaseline, bind_eq_ok, demand_eq_ok] at h
  obtain ⟨welcome, hwelcome, binding, -, candidate, hcandidate, h⟩ := h
  obtain ⟨hsound, hsequence⟩ := soundView_of_validateBaseline hwelcome hcandidate
  cases hc : c.handoff with
  | some handoff =>
    rw [hc] at h
    simp only [bind_eq_ok, pure_eq_ok, validateDestinationBaseline_eq_ok] at h
    obtain ⟨-, ⟨⟨id, key, generation⟩, hlink, -, hphase, rfl, rfl, rfl, hsession, hepoch⟩, rfl⟩ := h
    exact .completed handoff candidate hc ⟨hphase, hlink, hsession, hepoch, hsequence⟩ hsound
  | none =>
    rw [hc] at h
    simp only [bind_eq_ok, pure_eq_ok, whenSome_eq_ok] at h
    obtain ⟨-, -, -, hrecovery, rfl⟩ := h
    cases hview : c.view with
    | none => simpa only [hc] using Advances.opened candidate hc hview hsound hsequence
    | some current =>
      have hr := hrecovery current hview
      simp only [validateRecoveryBaseline, rejectIf_eq_ok, not_not] at hr
      obtain ⟨hsession, -, hepoch, hbaseline, hevent, htick⟩ := hr
      simpa only [hc] using Advances.recovered current candidate hc hview
        ⟨hsession, hepoch, hbaseline, hsequence, hevent, htick⟩ hsound

theorem transition_advances {message} (h : transition wire config c message = .ok (kind, next)) :
    Advances wire.hashing c kind next := by
  cases message with
  | welcome message =>
    simp only [transition, bind_eq_ok, rejectIf_eq_ok, pure_eq_ok, Prod.mk.injEq] at h
    obtain ⟨-, hnone, -, -, rfl, rfl⟩ := h
    exact .welcomed _ (by simpa using hnone)
  | registry registry manifest =>
    simp only [transition, bind_eq_ok, demand_eq_ok, rejectIf_eq_ok, pure_eq_ok, Prod.mk.injEq] at h
    obtain ⟨welcome, hwelcome, -, hnone, binding, -, rfl, rfl⟩ := h
    exact .registered binding (by simp [hwelcome]) (by simpa using hnone)
  | interestBaseline baseline =>
    simp only [transition, bind_eq_ok, pure_eq_ok, Prod.mk.injEq] at h
    obtain ⟨next, hnext, rfl, rfl⟩ := h
    exact advances_of_stageBaseline hnext
  | interestDelta delta =>
    simp only [transition, stageDelta, bind_eq_ok, demand_eq_ok, pure_eq_ok, Prod.mk.injEq] at h
    obtain ⟨next, ⟨welcome, hwelcome, binding, -, current, hcurrent, view, hview, rfl⟩,
      rfl, rfl⟩ := h
    obtain ⟨hsound, hextends⟩ := soundView_of_validateDelta hwelcome hview
    exact .extended current view hcurrent hextends hsound
  | handoff handoff =>
    simp only [transition, bind_eq_ok, pure_eq_ok, Prod.mk.injEq] at h
    obtain ⟨next, hnext, rfl, rfl⟩ := h
    exact advances_of_stageHandoff hnext
  | snapshot text | motionState text => cases h
  | intentAccepted receipt =>
    simp only [transition, bind_eq_ok, rejectIf_eq_ok, pure_eq_ok, Prod.mk.injEq] at h
    obtain ⟨-, hview, rfl, rfl⟩ := h
    exact .accepted (by cases hc : c.view <;> simp_all)
  | intentRejected text =>
    simp only [transition, bind_eq_ok, rejectIf_eq_ok, pure_eq_ok, Prod.mk.injEq] at h
    obtain ⟨-, hview, rfl, rfl⟩ := h
    exact .rejected (by cases hc : c.view <;> simp_all)
  | fatal code message =>
    simp only [transition, pure_eq_ok, Prod.mk.injEq] at h
    obtain ⟨rfl, rfl⟩ := h
    exact .ended

end Verse.Interest
