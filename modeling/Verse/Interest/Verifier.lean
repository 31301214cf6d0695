import Verse.Interest.Verify

/-!
# The verifier of one connection

Every transition of the verifier takes two calls. `stage` checks one frame of the wire and,
if it passes, keeps the state it leads to aside under a token; `commit` installs that state
and `discard` drops it, each only for the token of the transition that is pending. `reset`
forgets everything. A handoff that begins may displace a pending transition: a source frame
staged just before it must not be committed after it.

`Wire` is the part that belongs to other files: reading a frame's exact JSON within the limits,
writing a typed message back, and the checks of the registry documents.
-/

namespace Verse.Interest

open Lib
open Directory (CellKeyV1)

/-! ## Frames -/

variable (hashing : Hashing)

/-- `hash_view`. -/
def hashView (view : ViewState) : Verdict String := hashing.digest view.hashMaterial

def requireWireHash (wire computed : String) : Verdict Unit :=
  rejectIf (validBlake3Hex wire = false ∨ wire ≠ computed)
    ⟨.hashMismatch, "wire view_hash is not the exact lowercase computed digest"⟩

/-- The view a frame leaves, its hash recomputed and compared with the one on the wire. -/
def sealView (view : ViewState) (wire : String) : Verdict ViewState := do
  let computed ← hashView hashing view
  requireWireHash wire computed
  pure { view with viewHash := computed }

/-- The complete view a baseline shows. -/
def ProjectedWorldSnapshot.view (baseline : ProjectedWorldSnapshot) : ViewState where
  contentManifestVersion := baseline.contentManifestVersion
  universeId := baseline.universeId
  cellId := baseline.cellId
  universeManifestHash := baseline.universeManifestHash
  celestialRegistryHash := baseline.celestialRegistryHash
  cellAddress := baseline.cellAddress
  localOrigin := baseline.interest.localOriginAddress
  gravityBodyId := baseline.gravityBodyId
  voxelBodyId := baseline.voxelBodyId
  observerClass := baseline.interest.observerClass
  sessionEpoch := baseline.interest.sessionEpoch
  interestEpoch := baseline.interest.interestEpoch
  baselineId := baseline.interest.baselineId
  deltaSequence := 0
  canonicalEventSequence := baseline.interest.canonicalEventSequence
  canonicalTick := baseline.interest.canonicalTick
  entities := baseline.interest.entered
  environment := baseline.environment
  conservationValid := baseline.conservationValid
  actorPrivate := baseline.actorPrivate
  transferLink := baseline.interest.transferLink
  viewHash := ""

def validateBaseline (config : VerifierConfig) (welcome : WelcomeBinding)
    (binding : ValidatedRegistry) (baseline : ProjectedWorldSnapshot) : Verdict ViewState := do
  validateOuterBaseline welcome binding baseline
  validateInterestHeader baseline.interest .baseline binding
  repeatedBaselineHeaders baseline
  validateTransferLink hashing baseline.interest.transferLink baseline.cellId
    baseline.interest.cellAddress welcome.role binding
  validateRole welcome baseline.interest.observerClass baseline.actorPrivate none
  rejectIf (welcome.role ≠ .spectator ∧ baseline.actorPrivate = none)
    ⟨.invalidBaseline, "a player baseline requires complete actor-private state"⟩
  let interest := baseline.interest
  rejectIf (interest.deltaSequence ≠ 0 ∨ interest.previousViewHash ≠ none ∨
      interest.sessionEpoch = "" ∨ interest.baselineId = "" ∨ interest.replaced ≠ [] ∨
      interest.removed ≠ [])
    ⟨.invalidBaseline, "baseline frontier or operation shape is invalid"⟩
  validateEntityVector interest.entered config.limits binding
  validateBaselinePayloadArrays baseline interest.entered
  whenSome baseline.actorPrivate fun actor => validateActorPrivate actor config.limits binding
  validatePrivateLinkage welcome.role baseline.actorPrivate interest.entered
  sealView hashing baseline.view interest.viewHash

abbrev EntityMap : Type := OrdMap EntityKey InterestEntityProjection

def entityMap (entities : List InterestEntityProjection) : EntityMap :=
  OrdMap.ofList (entities.map fun entity => (entityKey entity, entity))

def enterEntity (entities : EntityMap) (entity : InterestEntityProjection) :
    Verdict EntityMap := do
  rejectIf (entities.contains (entityKey entity) = true)
    ⟨.invalidDelta, "enter names an existing identity"⟩
  pure (entities.insert (entityKey entity) entity)

def replaceEntity (entities : EntityMap) (replacement : InterestEntityProjection) :
    Verdict EntityMap := do
  let existing ← demand (entities.get? (entityKey replacement))
    ⟨.invalidDelta, "replacement names an absent identity"⟩
  rejectIf (replacement.projectedRevision ≤ existing.projectedRevision)
    ⟨.invalidDelta, "replacement projected revision did not increase"⟩
  pure (entities.insert (entityKey replacement) replacement)

def removeEntity (entities : EntityMap) (removal : InterestRemoval) : Verdict EntityMap := do
  rejectIf (entities.contains (removalKey removal) = false)
    ⟨.invalidDelta, "removal names an absent identity"⟩
  pure (entities.erase (removalKey removal))

/-- The three loops of `validate_delta` over the public changes. -/
def applyOperations (limits : ResourceLimits) (entities : EntityMap)
    (interest : InterestSnapshot) : Verdict EntityMap := do
  let entities ← interest.entered.foldlM enterEntity entities
  let entities ← interest.replaced.foldlM replaceEntity entities
  let entities ← interest.removed.foldlM removeEntity entities
  rejectIf (limits.maxEntities < entities.size)
    ⟨.resourceLimit, "resulting complete entity set exceeds max_entities"⟩
  pure entities

/-- The private part a delta leaves. -/
def nextActorPrivate (limits : ResourceLimits) (binding : ValidatedRegistry)
    (current : Option ActorPrivateSnapshot) (delta : ProjectedInterestDelta) :
    Verdict (Option ActorPrivateSnapshot) :=
  match delta.actorPrivate, delta.actorPrivateMotion with
  | some replacement, _ => do
    validateActorPrivate replacement limits binding
    pure (some replacement)
  | none, some motion => do
    validatePrivateMotion motion binding
    let actor ← demand current
      ⟨.invalidDelta, "private motion requires committed actor-private state"⟩
    rejectIf (actor.player.playerId ≠ motion.playerId)
      ⟨.invalidDelta, "private motion identity differs from committed private player"⟩
    pure (some (applyPrivateMotion actor motion))
  | none, none => .ok current

/-- The view a delta leaves, over the entities and the private part it was found to leave. -/
def ProjectedInterestDelta.view (delta : ProjectedInterestDelta) (current : ViewState)
    (entities : List InterestEntityProjection) (actorPrivate : Option ActorPrivateSnapshot) :
    ViewState :=
  { current with
    deltaSequence := delta.interest.deltaSequence
    canonicalEventSequence := delta.interest.canonicalEventSequence
    canonicalTick := delta.interest.canonicalTick
    localOrigin := delta.interest.localOriginAddress
    entities := entities
    environment := delta.environment.getD current.environment
    conservationValid := delta.conservationValid.getD current.conservationValid
    actorPrivate := actorPrivate
    transferLink := none
    viewHash := "" }

def validateDelta (config : VerifierConfig) (welcome : WelcomeBinding)
    (binding : ValidatedRegistry) (current : ViewState) (delta : ProjectedInterestDelta) :
    Verdict ViewState := do
  validateOuterDelta welcome binding delta
  validateInterestHeader delta.interest .delta binding
  repeatedDeltaHeaders delta
  validateRole welcome delta.interest.observerClass delta.actorPrivate delta.actorPrivateMotion
  validateDeltaFrontier current delta.interest
  rejectIf (delta.interest.transferLink ≠ none)
    ⟨.invalidDelta, "transfer linkage is valid only on a complete destination baseline"⟩
  rejectIf (delta.cellId ≠ current.cellId ∨ delta.gravityBodyId ≠ current.gravityBodyId ∨
      delta.voxelBodyId ≠ current.voxelBodyId)
    ⟨.invalidDelta, "delta cell or body binding differs from the committed view"⟩
  rejectIf (delta.actorPrivate.isSome ∧ delta.actorPrivateMotion.isSome)
    ⟨.invalidDelta, "complete actor-private replacement and private motion are mutually exclusive"⟩
  validateEntityVector delta.interest.entered config.limits binding
  validateEntityVector delta.interest.replaced config.limits binding
  validateRemovals delta.interest.removed config.limits
  validateDisjointOperations delta.interest config.limits
  let entities ← applyOperations config.limits (entityMap current.entities) delta.interest
  let actorPrivate ← nextActorPrivate config.limits binding current.actorPrivate delta
  validatePrivateLinkage welcome.role actorPrivate entities.values
  sealView hashing (delta.view current entities.values actorPrivate) delta.interest.viewHash

/-! ## The state of a connection -/

inductive StageKind where
  | welcome
  | registry
  | handoff
  | baseline
  | delta
  | intentAccepted
  | intentRejected
  | fatal
deriving DecidableEq, Repr

structure StageToken where
  (generation sequence : Nat)
deriving DecidableEq, Repr

structure CommittedState where
  welcome : Option WelcomeBinding
  registry : Option ValidatedRegistry
  view : Option ViewState
  handoff : Option HandoffBinding

namespace CommittedState

/-- `CommittedState::default()`. -/
def empty : CommittedState := ⟨none, none, none, none⟩

end CommittedState

structure PendingState where
  token : StageToken
  kind : StageKind
  next : CommittedState
  message : ServerMessage
  sanitizedJson : String

/-- What a client has verified, and at most one frame that is staged on it. -/
structure InterestVerifier where
  config : VerifierConfig
  committed : CommittedState
  pending : Option PendingState
  (generation nextSequence : Nat)

structure VerifiedView where
  frontier : InterestFrontier
  entityCount : Nat
  hasActorPrivate : Bool
deriving DecidableEq, Repr

/-- `ViewState::summary`. -/
def ViewState.summary (view : ViewState) : VerifiedView :=
  ⟨view.frontier, view.entities.length, view.actorPrivate.isSome⟩

structure CommitOutcome where
  kind : StageKind
  acknowledgement : Option InterestFrontier
  view : Option VerifiedView
deriving DecidableEq, Repr

/-- What the verifier relies on outside this repository's checks. -/
structure Wire where
  hashing : Hashing
  parseExact : List UInt8 → ResourceLimits → Verdict ServerMessage
  sanitized : ServerMessage → Verdict String
  validateRegistry : WelcomeBinding → VerifierConfig → (registry manifest : String) →
    Verdict ValidatedRegistry

variable (wire : Wire)

def unexpected (message : String) : VerifyError :=
  ⟨.unexpectedMessage, s!"{message} is not valid in the current verifier state"⟩

def validateLimits (limits : ResourceLimits) : Verdict Unit :=
  let values := [limits.maxFrameBytes, limits.maxJsonDepth, limits.maxJsonValues,
    limits.maxCollectionLen, limits.maxStringBytes, limits.maxTotalStringBytes,
    limits.maxEntities, limits.maxBlocksPerGrid, limits.maxVoxelsPerChunk,
    limits.maxPrivateRecords, limits.maxRegistryBodies, limits.maxRegistryPairComparisons]
  rejectIf (0 ∈ values ∨ 128 < limits.maxJsonDepth) ⟨.resourceLimit,
    "all resource limits must be nonzero and max_json_depth must not exceed 128"⟩

def validateIdentifier (value label : String) : Verdict Unit :=
  rejectIf (validStableId value = false)
    ⟨.invalidRegistry, s!"{label} is not a nonempty schema-bounded ASCII identifier"⟩

def validateHash (value label : String) : Verdict Unit :=
  rejectIf (validBlake3Hex value = false)
    ⟨.hashMismatch, s!"{label} is not a 64-character lowercase hexadecimal digest"⟩

def validateExpectedCommitments (universeId contentHash registryHash manifestHash : String) :
    Verdict Unit := do
  validateIdentifier universeId "configured universe_id"
  validateHash contentHash "configured content_hash"
  validateHash registryHash "configured celestial_registry_hash"
  validateHash manifestHash "configured universe_manifest_hash"

/-- `wrapping_add(1).max(1)` on a `u64`. -/
def nextCounter (n : Nat) : Nat := max ((n + 1) % 2 ^ 64) 1

namespace InterestVerifier

def new (config : VerifierConfig) : Verdict InterestVerifier := do
  validateLimits config.limits
  rejectIf (config.contentManifestVersion = "")
    ⟨.incompatibleWelcome, "configured content manifest version must be nonempty"⟩
  validateExpectedCommitments config.expectedUniverseId config.expectedContentHash
    config.expectedCelestialRegistryHash config.expectedUniverseManifestHash
  pure { config := config, committed := .empty, pending := none, generation := 1,
         nextSequence := 1 }

def advanceGeneration (v : InterestVerifier) : InterestVerifier :=
  { v with generation := nextCounter v.generation }

/-- `handoff_supersedes_pending`. -/
def supersedesPending : ServerMessage → Bool
  | .handoff handoff => handoff.phase == .preparing
  | _ => false

end InterestVerifier

/-- A handoff status, over what is committed. -/
def stageHandoff (committed : CommittedState) (handoff : HandoffStatus) :
    Verdict CommittedState := do
  let welcome ← demand committed.welcome (unexpected "handoff")
  let binding ← demand committed.registry (unexpected "handoff")
  rejectIf (welcome.role = .spectator) (unexpected "handoff")
  -- The old cell stops being presentable as soon as preparation is committed.
  match committed.handoff with
  | some current => do
    validateHandoffProgress current handoff
    pure { committed with view := none, handoff := some { current with status := handoff } }
  | none => do
    let view ← demand committed.view (unexpected "handoff")
    validateInitialHandoff wire.hashing handoff view binding
    pure { committed with
      view := none
      handoff := some ⟨handoff, view.sessionEpoch, view.interestEpoch⟩ }

/-- A baseline, over what is committed: it completes a handoff, or recovers a view, or is the
    first. -/
def stageBaseline (config : VerifierConfig) (committed : CommittedState)
    (baseline : ProjectedWorldSnapshot) : Verdict CommittedState := do
  let welcome ← demand committed.welcome (unexpected "baseline")
  let binding ← demand committed.registry (unexpected "baseline")
  let candidate ← validateBaseline wire.hashing config welcome binding baseline
  match committed.handoff with
  | some handoff => do
    validateDestinationBaseline handoff candidate
    pure { committed with view := some candidate, handoff := none }
  | none => do
    rejectIf (candidate.transferLink ≠ none)
      ⟨.invalidBaseline, "a transfer-linked baseline requires a committed handoff"⟩
    whenSome committed.view fun current => validateRecoveryBaseline current candidate
    pure { committed with view := some candidate }

def stageDelta (config : VerifierConfig) (committed : CommittedState)
    (delta : ProjectedInterestDelta) : Verdict CommittedState := do
  let welcome ← demand committed.welcome (unexpected "delta")
  let binding ← demand committed.registry (unexpected "delta")
  let current ← demand committed.view (unexpected "delta")
  let view ← validateDelta wire.hashing config welcome binding current delta
  pure { committed with view := some view }

/-- The `match message` of `stage`: the kind of the transition and the state it leads to. -/
def transition (config : VerifierConfig) (committed : CommittedState) (message : ServerMessage) :
    Verdict (StageKind × CommittedState) :=
  match message with
  | .snapshot _ | .motionState _ => .error ⟨.legacyMessage,
      "protocol-15 snapshot and motion_state messages are forbidden"⟩
  | .welcome message => do
    rejectIf (committed.welcome.isSome = true) (unexpected "welcome")
    validateWelcome config message
    pure (.welcome, { committed with
      welcome := some ⟨message.worldSchemaVersion, message.eventSchemaVersion,
        message.contentSchemaVersion, message.contentManifestVersion, message.sessionRole⟩ })
  | .registry registry universeManifest => do
    let welcome ← demand committed.welcome (unexpected "registry")
    rejectIf (committed.registry.isSome = true) (unexpected "registry")
    let binding ← wire.validateRegistry welcome config registry universeManifest
    pure (.registry, { committed with registry := some binding })
  | .handoff handoff => do
    let next ← stageHandoff wire committed handoff
    pure (.handoff, next)
  | .interestBaseline baseline => do
    let next ← stageBaseline wire config committed baseline
    pure (.baseline, next)
  | .interestDelta delta => do
    let next ← stageDelta wire config committed delta
    pure (.delta, next)
  | .intentAccepted _ => do
    rejectIf (committed.view.isNone = true) (unexpected "intent receipt")
    pure (.intentAccepted, committed)
  | .intentRejected _ => do
    rejectIf (committed.view.isNone = true) (unexpected "intent rejection")
    pure (.intentRejected, committed)
  | .fatal _ _ => pure (.fatal, committed)

namespace InterestVerifier

/-- A message that parsed and may be staged, over a verifier with nothing pending. -/
def stageMessage (v : InterestVerifier) (message : ServerMessage) :
    Verdict StageToken × InterestVerifier :=
  let staged := do
    let sanitizedJson ← wire.sanitized message
    let (kind, next) ← transition wire v.config v.committed message
    pure (sanitizedJson, kind, next)
  match staged with
  | .error e => (.error e, v)
  | .ok (sanitizedJson, kind, next) =>
    let token : StageToken := ⟨v.generation, v.nextSequence⟩
    (.ok token, { v with
      nextSequence := nextCounter v.nextSequence
      pending := some ⟨token, kind, next, message, sanitizedJson⟩ })

def stage (v : InterestVerifier) (rawJson : List UInt8) :
    Verdict StageToken × InterestVerifier :=
  match wire.parseExact rawJson v.config.limits with
  | .error e => (.error e, v)
  | .ok message =>
    if v.pending.isSome ∧ supersedesPending message = false then
      (.error ⟨.pendingStage, "a transition is already pending"⟩, v)
    else if v.pending.isSome then
      ({ v with pending := none } : InterestVerifier).advanceGeneration.stageMessage wire message
    else v.stageMessage wire message

/-- The transition pending under a token. -/
def pendingFor (v : InterestVerifier) (token : StageToken) : Verdict PendingState :=
  demand (v.pending.filter fun pending => pending.token == token)
    ⟨.invalidStageToken, "stage token is not valid for the pending verifier generation"⟩

/-- The acknowledgement a commit answers with. -/
def acknowledgement (pending : PendingState) : Option InterestFrontier :=
  match pending.kind with
  | .baseline | .delta => pending.next.view.map (·.frontier)
  | _ => none

def commit (v : InterestVerifier) (token : StageToken) :
    Verdict CommitOutcome × InterestVerifier :=
  match v.pendingFor token with
  | .error e => (.error e, v)
  | .ok pending =>
    (.ok ⟨pending.kind, acknowledgement pending, pending.next.view.map (·.summary)⟩,
      ({ v with pending := none, committed := pending.next } : InterestVerifier).advanceGeneration)

def discard (v : InterestVerifier) (token : StageToken) : Verdict Unit × InterestVerifier :=
  match v.pendingFor token with
  | .error e => (.error e, v)
  | .ok _ => (.ok (), ({ v with pending := none } : InterestVerifier).advanceGeneration)

def reset (v : InterestVerifier) : InterestVerifier :=
  ({ v with committed := .empty, pending := none } : InterestVerifier).advanceGeneration

end InterestVerifier

end Verse.Interest
