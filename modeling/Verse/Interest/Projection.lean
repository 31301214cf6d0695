import Mathlib.Data.List.Sort
import Verse.Interest.Verifier

/-!
# What the server projects

A worker keeps one cursor for each session: the frontier it has given the client, and the
members of the client's view with the revision each was last sent under. Projecting the world
for a cursor selects the next members, sends those that are new or changed, and moves the
cursor; a cursor with no view yet is sent a baseline instead.

The world is a `ProjectionSource`, built once for each revision. How far two addresses are
apart and which entities the spatial index finds near one are questions for the geometry, and
are asked of `Projecting` together with the digests and the interest policy of the content.
-/

namespace Verse.Interest

open Lib
open Directory (CellKeyV1)

inductive ProjectionError where
  | invalidAuthority (message : String)
  | unboundActor (actor : String)
  | invalidSession (message : String)
  | invalidCanonicalSnapshot (message : String)
deriving DecidableEq, Repr

abbrev Projected (α : Type) : Type := Except ProjectionError α

inductive InterestObserver where
  | boundPlayer (playerId : String)
  | publicOriginSpectator
deriving DecidableEq, Repr

structure Membership where
  (projectedRevision contentFingerprint : Nat)
  outsideSinceTick : Option Nat
deriving DecidableEq, Repr

/-- The cursor of one session. -/
structure InterestProjectionState where
  sessionEpoch : String
  interestEpoch : Nat
  baselineId : String
  deltaSequence : Nat
  observer : InterestObserver
  members : OrdMap EntityKey Membership
  payloads : OrdMap EntityKey InterestEntityPayload
  viewHash : Option String
  lastEvaluatedTick : Option Nat
  environment : Option EnvironmentSnapshot
  actorPrivate : Option ActorPrivateSnapshot
  transferLink : Option InterestTransferLink

/-- `CandidatePayload::identity`. -/
def InterestEntityPayload.identity : InterestEntityPayload → EntityKey
  | .player value => toLex (value.playerId, .player)
  | .grid value => toLex (value.gridId, .grid)
  | .voxelChunk value => toLex (value.chunkId, .voxelChunk)
  | .deathDrop value => toLex (value.dropId, .deathDrop)

structure Candidate where
  address : UniverseAddress
  contentFingerprint : Nat
  controlCritical : Bool
  payload : InterestEntityPayload
deriving DecidableEq

/-- The part of the canonical snapshot a projection reads. -/
structure CanonicalSnapshot where
  schemaVersion : Nat
  (contentManifestVersion universeId cellId universeManifestHash celestialRegistryHash : String)
  cellAddress : UniverseAddress
  (gravityBodyId voxelBodyId : String)
  (eventSequence simulationTick fencingToken : Nat)
  worldHash : String
  players : List PlayerSnapshot
  conservationValid : Bool
deriving DecidableEq

/-- The material of one revision. A candidate is filed under the identity of its payload, and a
    private state under the player it belongs to. -/
structure ProjectionSource where
  canonical : CanonicalSnapshot
  candidates : OrdMap EntityKey Candidate
  supportEntities : OrdMap String EntityKey
  actorPrivate : OrdMap String ActorPrivateSnapshot
  blockGrids : OrdMap String String
  spectatorAnchor : UniverseAddress
  spectatorEnvironment : EnvironmentSnapshot
  filed : ∀ identity candidate, candidates.get? identity = some candidate →
    candidate.payload.identity = identity
  owned : ∀ player actor, actorPrivate.get? player = some actor →
    actor.player.playerId = player

/-- `InterestBandDefinition`. -/
structure InterestBand where
  (enterRadiusM exitRadiusM updateIntervalTicks maximumEntities : Nat)
deriving DecidableEq, Repr

structure InterestPolicy where
  (maximumVisibleEntities exitConsecutiveTicks : Nat)
  band : InterestEntityKind → Projected InterestBand

/-- What a projection asks of other parts of the program, and the wire between the two ends of
    a session: both take their digests from it. -/
structure Projecting where
  wire : Wire
  encode : ServerMessage → List UInt8
  baselineDigest : String → String
  policy : InterestPolicy
  squaredDistanceUm : UniverseAddress → UniverseAddress → Projected Nat
  nearby : ProjectionSource → UniverseAddress → Projected (List EntityKey)
  validateCellKey : CellKeyV1 → Except String Unit

variable (host : Projecting)

/-! ## Cursors -/

/-- The identity of the baseline that begins an epoch. -/
def baselineIdOf (sessionEpoch : String) (interestEpoch : Nat) : String :=
  host.baselineDigest s!"interest-baseline-v1\x00{sessionEpoch}\x00{interestEpoch}"

namespace InterestProjectionState

def boundPlayer (sessionEpoch playerId : String) : InterestProjectionState where
  sessionEpoch := sessionEpoch
  interestEpoch := 1
  baselineId := baselineIdOf host sessionEpoch 1
  deltaSequence := 0
  observer := .boundPlayer playerId
  members := OrdMap.empty
  payloads := OrdMap.empty
  viewHash := none
  lastEvaluatedTick := none
  environment := none
  actorPrivate := none
  transferLink := none

def freshBaseline (cursor : InterestProjectionState) : Projected InterestProjectionState := do
  let interestEpoch ← demand (checkedAdd cursor.interestEpoch 1)
    (.invalidSession "interest epoch exhausted")
  pure { cursor with
    interestEpoch := interestEpoch
    baselineId := baselineIdOf host cursor.sessionEpoch interestEpoch
    deltaSequence := 0
    members := OrdMap.empty
    payloads := OrdMap.empty
    viewHash := none
    lastEvaluatedTick := none
    environment := none
    actorPrivate := none
    transferLink := none }

def freshTransferBaseline (cursor : InterestProjectionState) (transferId : String)
    (destinationCellKey : CellKeyV1) (placementGeneration : Nat) :
    Projected InterestProjectionState := do
  rejectIf (cursor.observer = .publicOriginSpectator)
    (.invalidSession "only a bound player session can install a transfer baseline")
  rejectIf (validStableId transferId = false ∨ placementGeneration = 0)
    (.invalidSession "transfer baseline identity or placement generation is invalid")
  let _ ← (host.validateCellKey destinationCellKey).mapError fun source =>
    .invalidSession s!"transfer baseline destination cell is invalid: {source}"
  let fresh ← cursor.freshBaseline host
  pure { fresh with
    transferLink := some ⟨transferId, destinationCellKey, placementGeneration⟩ }

end InterestProjectionState

def observerClass : InterestObserver → InterestObserverClass
  | .boundPlayer _ => .boundPlayer
  | .publicOriginSpectator => .publicOriginSpectator

def validateSession (cursor : InterestProjectionState) : Projected Unit := do
  rejectIf (isBlank cursor.sessionEpoch = true ∨ 256 < cursor.sessionEpoch.utf8ByteSize)
    (.invalidSession "session_epoch must contain 1..=256 bytes")
  rejectIf (cursor.interestEpoch = 0 ∨ cursor.baselineId = "")
    (.invalidSession "interest frontier is incomplete")

def transferLinkForFrame (cursor : InterestProjectionState) (canonical : CanonicalSnapshot)
    (frameKind : InterestFrameKind) : Projected (Option InterestTransferLink) :=
  match cursor.transferLink with
  | none => .ok none
  | some link => do
    rejectIf (frameKind ≠ .baseline ∨ cursor.observer = .publicOriginSpectator ∨
        validStableId link.transferId = false ∨ link.placementGeneration = 0)
      (.invalidSession "transfer linkage is valid only on one bound-player baseline")
    let _ ← (host.validateCellKey link.destinationCellKey).mapError fun source =>
      .invalidSession s!"transfer destination cell key is invalid: {source}"
    rejectIf (host.wire.hashing.cellIdForKey link.destinationCellKey ≠ canonical.cellId ∨
        cellAddressOfKey link.destinationCellKey ≠ canonical.cellAddress)
      (.invalidSession "transfer link does not name the projected destination cell")
    pure (some link)

/-! ## Selection -/

structure Eligible where
  (priority distanceSquaredUm : Nat)
  identity : EntityKey
  member : Membership
  payload : InterestEntityPayload
  controlCritical : Bool
deriving DecidableEq

def radiusSquaredUm (radiusM : Nat) : Nat := (radiusM * 1000000) * (radiusM * 1000000)

def structuralPayloadChanged : InterestEntityPayload → InterestEntityPayload → Bool
  | .player previous, .player current =>
    previous.playerId != current.playerId || previous.lifeState != current.lifeState ||
      previous.helmetClosed != current.helmetClosed ||
      previous.jetpackEnabled != current.jetpackEnabled
  | .grid previous, .grid current =>
    previous.gridId != current.gridId || previous.ownerPlayerId != current.ownerPlayerId ||
      previous.anchored != current.anchored || previous.power != current.power ||
      previous.blocks != current.blocks
  | .voxelChunk previous, .voxelChunk current => previous != current
  | .deathDrop previous, .deathDrop current => previous != current
  | _, _ => true

/-- Whether a candidate is included, since when it has been outside, and its priority. -/
def placeOf (prior : InterestProjectionState) (canonicalTick : Nat) (band : InterestBand)
    (old : Option Membership) (candidate : Candidate) (distance : Nat) :
    Projected (Bool × Option Nat × Nat) :=
  if candidate.controlCritical then .ok (true, none, 0)
  else if distance ≤ radiusSquaredUm band.enterRadiusM then
    .ok (true, none, if old.isSome then 1 else 2)
  else
    match old with
    | none => .ok (false, none, 3)
    | some member =>
      if distance ≤ radiusSquaredUm band.exitRadiusM then .ok (true, none, 1)
      else do
        let firstUnobservedTick :=
          match prior.lastEvaluatedTick with
          | none => canonicalTick
          | some last => if last < canonicalTick then last + 1 else canonicalTick
        let since := member.outsideSinceTick.getD firstUnobservedTick
        rejectIf (canonicalTick < since ∨ u64Max < canonicalTick - since + 1)
          (.invalidSession "interest exit duration overflowed")
        let elapsed := canonicalTick - since + 1
        pure (decide (elapsed < host.policy.exitConsecutiveTicks), some since, 1)

/-- One round of the loop of `select` over the candidates. -/
def evaluate (prior : InterestProjectionState) (anchor : UniverseAddress) (canonicalTick : Nat)
    (firstFrame : Bool) (changedRevision : Nat) (identity : EntityKey) (candidate : Candidate) :
    Projected (Option Eligible) := do
  let (entityId, kind) := ofLex identity
  let band ← host.policy.band kind
  let old := prior.members.get? identity
  let structuralChanged := old.isSome && (prior.payloads.get? identity).any fun previous =>
    structuralPayloadChanged previous candidate.payload
  let due := firstFrame || candidate.controlCritical || structuralChanged ||
    decide (canonicalTick % band.updateIntervalTicks = 0)
  let distance ← host.squaredDistanceUm anchor candidate.address
  let (included, outsideSinceTick, priority) ← placeOf host prior canonicalTick band old
    candidate distance
  if included then do
    let useCurrentPayload := due || old.isNone
    let projectedRevision :=
      match old with
      | none => changedRevision
      | some member =>
        if useCurrentPayload = false then member.projectedRevision
        else if member.contentFingerprint = candidate.contentFingerprint ∧
            prior.payloads.get? identity = some candidate.payload then member.projectedRevision
        else changedRevision
    let contentFingerprint ←
      if useCurrentPayload then pure candidate.contentFingerprint
      else do
        let member ← demand old
          (.invalidSession s!"deferred membership is missing for {entityId}")
        pure member.contentFingerprint
    let payload ←
      if useCurrentPayload then pure candidate.payload
      else do
        let payload ← demand (prior.payloads.get? identity)
          (.invalidSession s!"visible payload frontier is missing for {entityId}")
        pure payload
    pure (some ⟨priority, distance, identity,
      ⟨projectedRevision, contentFingerprint, outsideSinceTick⟩, payload,
      candidate.controlCritical⟩)
  else pure none

/-- The order in which the budget is spent. -/
def Eligible.before (left right : Eligible) : Bool :=
  decide (toLex (left.priority, toLex (left.distanceSquaredUm, left.identity)) ≤
    toLex (right.priority, toLex (right.distanceSquaredUm, right.identity)))

/-- What the budget loop has let in so far. -/
structure Admitted where
  kindCounts : InterestEntityKind → Nat
  members : OrdMap EntityKey Membership
  payloads : OrdMap EntityKey InterestEntityPayload

def spend (admitted : Admitted) (item : Eligible) : Projected Admitted := do
  let kind := (ofLex item.identity).2
  let band ← host.policy.band kind
  let count := admitted.kindCounts kind
  if item.controlCritical = false ∧
      (host.policy.maximumVisibleEntities ≤ admitted.members.size ∨
        band.maximumEntities ≤ count) then
    pure admitted
  else
    pure {
      kindCounts := fun k => if k = kind then count + 1 else admitted.kindCounts k
      members := admitted.members.insert item.identity item.member
      payloads := admitted.payloads.insert item.identity item.payload }

structure EntityRef where
  identity : EntityKey
  projectedRevision : Nat
deriving DecidableEq

structure Selection where
  members : OrdMap EntityKey Membership
  payloads : OrdMap EntityKey InterestEntityPayload
  (entered replaced : List EntityRef)
  removed : List InterestRemoval
  frameKind : InterestFrameKind
  deltaSequence : Nat
  previousViewHash : Option String

abbrev RemovalReasons : Type := OrdMap EntityKey InterestRemovalReason

def refOf (entry : EntityKey × Membership) : EntityRef := ⟨entry.1, entry.2.projectedRevision⟩

/-- The members that were not there before. -/
def enteredRefs (prior : InterestProjectionState) (members : OrdMap EntityKey Membership)
    (firstFrame : Bool) : List EntityRef :=
  if firstFrame then members.entries.map refOf
  else (members.entries.filter fun entry => (prior.members.get? entry.1).isNone).map refOf

/-- The members that were there under another revision. -/
def replacedRefs (prior : InterestProjectionState) (members : OrdMap EntityKey Membership)
    (firstFrame : Bool) : List EntityRef :=
  if firstFrame then []
  else (members.entries.filter fun entry => (prior.members.get? entry.1).any fun old =>
    old.projectedRevision != entry.2.projectedRevision).map refOf

def removedEntities (prior : InterestProjectionState) (members : OrdMap EntityKey Membership)
    (candidates : OrdMap EntityKey Candidate) (removals : RemovalReasons) :
    List InterestRemoval :=
  let gone := prior.members.keys.filter fun identity => (members.get? identity).isNone
  (gone.map fun identity =>
    { entityId := (ofLex identity).1
      kind := (ofLex identity).2
      reason := (removals.get? identity).getD
        (if candidates.contains identity then .outOfInterest else .destroyed) }).insertionSort
    fun left right => removalKey left ≤ removalKey right

def conflictingRemoval : ProjectionError := .invalidCanonicalSnapshot
  "a canonical entity cannot carry destroyed or transferred removal evidence"

def select (prior : InterestProjectionState) (candidates : OrdMap EntityKey Candidate)
    (anchor : UniverseAddress) (canonicalTick : Nat) (removals : RemovalReasons) :
    Projected Selection := do
  let firstFrame := prior.viewHash.isNone
  rejectIf (prior.lastEvaluatedTick.any fun last => decide (canonicalTick < last))
    (.invalidSession "canonical tick regressed behind the acknowledged interest frontier")
  rejectIf (removals.keys.any fun identity => candidates.contains identity) conflictingRemoval
  let deltaSequence ←
    if firstFrame then pure 0
    else demand (checkedAdd prior.deltaSequence 1) (.invalidSession "delta sequence exhausted")
  let changedRevision ← demand (checkedAdd deltaSequence 1)
    (.invalidSession "projected revision exhausted")
  let eligible ← (candidates.entries.filter fun entry => !removals.contains entry.1).mapM
    fun entry => evaluate host prior anchor canonicalTick firstFrame changedRevision entry.1
      entry.2
  let eligible := (eligible.filterMap id).insertionSort (Eligible.before · ·)
  rejectIf (host.policy.maximumVisibleEntities <
      (eligible.filter fun item => item.controlCritical).length)
    (.invalidCanonicalSnapshot "control-critical interest exceeds the global budget")
  let admitted ← eligible.foldlM (spend host) ⟨fun _ => 0, OrdMap.empty, OrdMap.empty⟩
  pure {
    members := admitted.members
    payloads := admitted.payloads
    entered := enteredRefs prior admitted.members firstFrame
    replaced := replacedRefs prior admitted.members firstFrame
    removed := removedEntities prior admitted.members candidates removals
    frameKind := if firstFrame then .baseline else .delta
    deltaSequence := deltaSequence
    previousViewHash := prior.viewHash }

/-! ## Sources -/

namespace ProjectionSource

def player? (source : ProjectionSource) (playerId : String) : Option PlayerSnapshot :=
  source.canonical.players.find? fun player => player.playerId == playerId

def interestAnchor (source : ProjectionSource) (cursor : InterestProjectionState) :
    Projected UniverseAddress :=
  match cursor.observer with
  | .boundPlayer playerId =>
    demand ((source.player? playerId).map (·.address)) (.unboundActor playerId)
  | .publicOriginSpectator => .ok source.spectatorAnchor

def observerEnvironment (source : ProjectionSource) (cursor : InterestProjectionState) :
    Projected EnvironmentSnapshot :=
  match cursor.observer with
  | .boundPlayer playerId =>
    demand ((source.player? playerId).bind (·.environment)) (.unboundActor playerId)
  | .publicOriginSpectator => .ok source.spectatorEnvironment

/-- The part of an actor's private state whose public side is visible. -/
def filteredActorPrivate (source : ProjectionSource) (actor : String)
    (visible : List EntityKey) : Projected ActorPrivateSnapshot := do
  let whole ← demand (source.actorPrivate.get? actor) (.unboundActor actor)
  let visibleGrid (gridId : String) : Bool := decide (toLex (gridId, .grid) ∈ visible)
  let visibleBlock (blockId : String) : Bool := (source.blockGrids.get? blockId).any visibleGrid
  let deathDrops := whole.deathDrops.filter fun drop =>
    decide (toLex (drop.dropId, .deathDrop) ∈ visible)
  let keeps (inventory : InventorySnapshot) : Bool :=
    match inventory.domain with
    | .player playerId => playerId == actor
    | .cargo blockId => visibleBlock blockId
    | .dropped _ _ => deathDrops.any fun drop => drop.inventoryId == inventory.inventoryId
  pure { whole with
    deathDrops := deathDrops
    inventories := whole.inventories.filter keeps
    ownedGridMasses := whole.ownedGridMasses.filter fun mass => visibleGrid mass.gridId
    productionQueues := whole.productionQueues.filter fun queue =>
      visibleBlock queue.machineBlockId }

/-- The candidates a session has to look at: what is near the anchor, what it has been shown,
    its own player and what supports that player. -/
def query (source : ProjectionSource) (cursor : InterestProjectionState)
    (anchor : UniverseAddress) : Projected (OrdMap EntityKey Candidate) := do
  let near ← host.nearby source anchor
  let prior := cursor.members.keys.filter fun identity => source.candidates.contains identity
  let critical : List EntityKey :=
    match cursor.observer with
    | .publicOriginSpectator => []
    | .boundPlayer actor =>
      let support := (source.player? actor).bind fun player =>
        player.locomotion.support.bind fun support => source.supportEntities.get? support.bodyId
      toLex (actor, .player) :: support.toList
  pure (OrdMap.ofList ((near ++ prior ++ critical).filterMap fun identity =>
    (source.candidates.get? identity).map fun candidate =>
      (identity, { candidate with controlCritical := decide (identity ∈ critical) })))

end ProjectionSource

/-- `complete_entity_projection`. -/
def completeEntityProjection (payloads : OrdMap EntityKey InterestEntityPayload)
    (entity : EntityRef) : Projected InterestEntityProjection := do
  let (entityId, kind) := ofLex entity.identity
  let payload ← demand (payloads.get? entity.identity)
    (.invalidCanonicalSnapshot s!"visible payload {entityId} is missing")
  pure {
    entityId := entityId
    kind := kind
    projectedRevision := entity.projectedRevision
    componentSchemaVersion := projectionSchemaVersion
    payload := payload }

/-! ## Frames -/

def projectInterestWorldSnapshot (source : ProjectionSource) (cursor : InterestProjectionState)
    (removals : RemovalReasons) :
    Projected (ProjectedWorldSnapshot × InterestProjectionState) := do
  validateSession cursor
  let canonical := source.canonical
  let anchor ← source.interestAnchor cursor
  let environment ← source.observerEnvironment cursor
  rejectIf (removals.keys.any fun identity => source.candidates.contains identity)
    conflictingRemoval
  let candidates ← source.query host cursor anchor
  let selection ← select host cursor candidates anchor canonical.simulationTick removals
  let visible := selection.members.keys
  let shown := (selection.payloads.entries.filter fun entry => decide (entry.1 ∈ visible)).map
    fun entry => (⟨(ofLex entry.1).1, (ofLex entry.1).2, 0, 0, entry.2⟩ : InterestEntityProjection)
  let actorPrivate ←
    match cursor.observer with
    | .boundPlayer actor => some <$> source.filteredActorPrivate actor visible
    | .publicOriginSpectator => pure none
  let complete := completeEntityProjection selection.payloads
  let entities ← (selection.members.entries.map refOf).mapM complete
  let transferLink ← transferLinkForFrame host cursor canonical selection.frameKind
  let viewHash ← (host.wire.hashing.digest {
    projectionSchemaVersion := projectionSchemaVersion
    interestSchemaVersion := interestSchemaVersion
    contentManifestVersion := canonical.contentManifestVersion
    universeId := canonical.universeId
    cellId := canonical.cellId
    universeManifestHash := canonical.universeManifestHash
    celestialRegistryHash := canonical.celestialRegistryHash
    cellAddress := canonical.cellAddress
    localOrigin := anchor
    gravityBodyId := canonical.gravityBodyId
    voxelBodyId := canonical.voxelBodyId
    observerClass := observerClass cursor.observer
    sessionEpoch := cursor.sessionEpoch
    interestEpoch := cursor.interestEpoch
    baselineId := cursor.baselineId
    deltaSequence := selection.deltaSequence
    transferLink := transferLink
    entities := entities
    environment := environment
    conservationValid := canonical.conservationValid
    actorPrivate := actorPrivate }).mapError fun error =>
      .invalidCanonicalSnapshot error.detail
  let entered ← selection.entered.mapM complete
  let replaced ← selection.replaced.mapM complete
  let interest : InterestSnapshot := {
    schemaVersion := interestSchemaVersion
    frameKind := selection.frameKind
    sessionEpoch := cursor.sessionEpoch
    interestEpoch := cursor.interestEpoch
    baselineId := cursor.baselineId
    deltaSequence := selection.deltaSequence
    observerClass := observerClass cursor.observer
    cellAddress := canonical.cellAddress
    localOriginAddress := anchor
    registryHash := canonical.celestialRegistryHash
    universeManifestHash := canonical.universeManifestHash
    transferLink := transferLink
    canonicalEventSequence := canonical.eventSequence
    canonicalTick := canonical.simulationTick
    canonicalWorldHash := canonical.worldHash
    previousViewHash := selection.previousViewHash
    viewHash := viewHash
    entered := entered
    replaced := replaced
    removed := selection.removed }
  let next : InterestProjectionState := { cursor with
    members := selection.members
    payloads := selection.payloads
    deltaSequence := selection.deltaSequence
    viewHash := some viewHash
    lastEvaluatedTick := some canonical.simulationTick
    environment := some environment
    actorPrivate := actorPrivate
    transferLink := none }
  pure ({
    projectionSchemaVersion := projectionSchemaVersion
    schemaVersion := canonical.schemaVersion
    contentManifestVersion := canonical.contentManifestVersion
    universeId := canonical.universeId
    cellId := canonical.cellId
    universeManifestHash := canonical.universeManifestHash
    celestialRegistryHash := canonical.celestialRegistryHash
    cellAddress := canonical.cellAddress
    gravityBodyId := canonical.gravityBodyId
    voxelBodyId := canonical.voxelBodyId
    eventSequence := canonical.eventSequence
    simulationTick := canonical.simulationTick
    fencingToken := canonical.fencingToken
    worldHash := canonical.worldHash
    players := shown.filterMap (·.player?)
    environment := environment
    voxelChunks := shown.filterMap (·.voxelChunk?)
    grids := shown.filterMap (·.grid?)
    deathDrops := shown.filterMap (·.deathDrop?)
    conservationValid := canonical.conservationValid
    interest := interest
    actorPrivate := actorPrivate }, next)

/-- `private_structure_equal`: everything but the motion of the player. -/
def privateStructureEqual (left right : ActorPrivateSnapshot) : Bool :=
  left.committedOperationSequence == right.committedOperationSequence &&
    left.inventories == right.inventories && left.deathDrops == right.deathDrops &&
    left.ownedGridMasses == right.ownedGridMasses &&
    left.productionQueues == right.productionQueues &&
    left.player.playerId == right.player.playerId &&
    left.player.inventoryId == right.player.inventoryId &&
    left.player.experience == right.player.experience &&
    left.player.level == right.player.level &&
    left.player.nextLevelExperience == right.player.nextLevelExperience &&
    left.player.career == right.player.career &&
    left.player.suitOxygenMilli == right.player.suitOxygenMilli &&
    left.player.criticalOxygenMilli == right.player.criticalOxygenMilli &&
    left.player.helmetClosed == right.player.helmetClosed

def privatePlayerMotion (player : PlayerSnapshot) : PlayerMotionSnapshot where
  playerId := player.playerId
  address := player.address
  orientation := player.orientation
  linearVelocity := player.linearVelocity
  angularVelocity := player.angularVelocity
  surfaceContact := player.surfaceContact
  locomotion := player.locomotion
  movementEpoch := player.movementEpoch
  lastReceivedInputSequence := player.lastReceivedInputSequence
  lastProcessedInputSequence := player.lastProcessedInputSequence
  controlLinearInput := player.controlLinearInput
  controlAngularInput := player.controlAngularInput
  boost := player.boost
  dampeners := player.dampeners
  jump := player.jump
  controlExpiresAtSimulationTick := player.controlExpiresAtSimulationTick
  jetpackEnabled := player.jetpackEnabled
  lifeState := player.lifeState
  environment := player.environment

def deltaPrivateComponents (previous current : Option ActorPrivateSnapshot) :
    Option ActorPrivateSnapshot × Option PlayerMotionSnapshot :=
  match current, previous with
  | none, _ => (none, none)
  | some current, none => (some current, none)
  | some current, some previous =>
    if privateStructureEqual previous current = false then (some current, none)
    else if previous.player ≠ current.player then (none, some (privatePlayerMotion current.player))
    else (none, none)

/-- The delta that takes the view `previous` was left in to the one just projected. -/
def ProjectedWorldSnapshot.delta (projected : ProjectedWorldSnapshot)
    (previous : InterestProjectionState) : ProjectedInterestDelta where
  projectionSchemaVersion := projected.projectionSchemaVersion
  schemaVersion := projected.schemaVersion
  contentManifestVersion := projected.contentManifestVersion
  universeId := projected.universeId
  cellId := projected.cellId
  universeManifestHash := projected.universeManifestHash
  celestialRegistryHash := projected.celestialRegistryHash
  cellAddress := projected.cellAddress
  gravityBodyId := projected.gravityBodyId
  voxelBodyId := projected.voxelBodyId
  eventSequence := projected.eventSequence
  simulationTick := projected.simulationTick
  worldHash := projected.worldHash
  environment :=
    if previous.environment ≠ some projected.environment then some projected.environment else none
  conservationValid := some projected.conservationValid
  interest := projected.interest
  actorPrivate := (deltaPrivateComponents previous.actorPrivate projected.actorPrivate).1
  actorPrivateMotion := (deltaPrivateComponents previous.actorPrivate projected.actorPrivate).2

def projectInterestFrame (source : ProjectionSource) (cursor : InterestProjectionState)
    (removals : RemovalReasons) : Projected (ServerMessage × InterestProjectionState) := do
  let (projected, next) ← projectInterestWorldSnapshot host source cursor removals
  if projected.interest.frameKind = .baseline then
    pure (.interestBaseline projected, next)
  else pure (.interestDelta (projected.delta cursor), next)

end Verse.Interest
