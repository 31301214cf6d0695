import Verse.Interest.Message
import Verse.Lib.Result

/-!
# What a client is bound to

Before its first frame, the client of an interest session has accepted a welcome and a
registry. From the two it keeps what every later frame is checked against: the schemas and
the role of the session, and the universe with its celestial bodies and the dimensions of an
address. What it commits to from a frame is a complete view.

`Hashing` is what the checks rely on outside these files: the digest of a view's canonical
JSON, which fails for a view that has none (a number that is not finite), and the identity
of a cell, a hash of its key.
-/

namespace Verse.Interest

open Lib
open Directory (CellKeyV1)

/-! ## Errors and limits -/

inductive ErrorCode where
  | frameTooLarge
  | invalidJson
  | duplicateKey
  | unknownField
  | resourceLimit
  | unexpectedMessage
  | legacyMessage
  | pendingStage
  | invalidStageToken
  | incompatibleWelcome
  | bindingMismatch
  | invalidRegistry
  | invalidAddress
  | invalidPrivateLinkage
  | invalidBaseline
  | invalidDelta
  | frontierMismatch
  | invalidEntity
  | nonCanonicalOrder
  | invalidFloat
  | hashMismatch
  | serialization
deriving DecidableEq, Repr

structure VerifyError where
  code : ErrorCode
  detail : String
deriving DecidableEq, Repr

abbrev Verdict (α : Type) : Type := Except VerifyError α

/-- The shape `if let Some(value) = … { check(value)? }`. -/
def whenSome {α : Type} (o : Option α) (check : α → Verdict Unit) : Verdict Unit :=
  match o with
  | some a => check a
  | none => .ok ()

@[simp] theorem whenSome_eq_ok {α : Type} {o : Option α} {check} {u : Unit} :
    whenSome o check = .ok u ↔ ∀ a, o = some a → check a = .ok () := by
  cases o <;> simp [whenSome]

structure ResourceLimits where
  (maxFrameBytes maxJsonDepth maxJsonValues maxCollectionLen maxStringBytes maxTotalStringBytes : Nat)
  (maxEntities maxBlocksPerGrid maxVoxelsPerChunk maxPrivateRecords maxRegistryBodies : Nat)
  maxRegistryPairComparisons : Nat
deriving DecidableEq, Repr

structure VerifierConfig where
  expectedRole : SessionRole
  (worldSchemaVersion eventSchemaVersion contentSchemaVersion : Nat)
  (contentManifestVersion expectedContentHash expectedUniverseId : String)
  (expectedCelestialRegistryHash expectedUniverseManifestHash : String)
  limits : ResourceLimits
deriving DecidableEq, Repr

structure WelcomeBinding where
  (worldSchemaVersion eventSchemaVersion contentSchemaVersion : Nat)
  contentManifestVersion : String
  role : SessionRole
deriving DecidableEq, Repr

/-! ## The view -/

/-- What the digest of a view is taken of. -/
structure HashMaterial where
  (projectionSchemaVersion interestSchemaVersion : Nat)
  (contentManifestVersion universeId cellId universeManifestHash celestialRegistryHash : String)
  (cellAddress localOrigin : UniverseAddress)
  (gravityBodyId voxelBodyId : String)
  observerClass : InterestObserverClass
  sessionEpoch : String
  interestEpoch : Nat
  baselineId : String
  deltaSequence : Nat
  transferLink : Option InterestTransferLink
  entities : List InterestEntityProjection
  environment : EnvironmentSnapshot
  conservationValid : Bool
  actorPrivate : Option ActorPrivateSnapshot
deriving DecidableEq

structure ViewState where
  (contentManifestVersion universeId cellId universeManifestHash celestialRegistryHash : String)
  (cellAddress localOrigin : UniverseAddress)
  (gravityBodyId voxelBodyId : String)
  observerClass : InterestObserverClass
  sessionEpoch : String
  interestEpoch : Nat
  baselineId : String
  (deltaSequence canonicalEventSequence canonicalTick : Nat)
  entities : List InterestEntityProjection
  environment : EnvironmentSnapshot
  conservationValid : Bool
  actorPrivate : Option ActorPrivateSnapshot
  transferLink : Option InterestTransferLink
  viewHash : String
deriving DecidableEq

namespace ViewState

/-- The material `hash_view` serialises. -/
def hashMaterial (view : ViewState) : HashMaterial where
  projectionSchemaVersion := projectionSchemaVersion
  interestSchemaVersion := interestSchemaVersion
  contentManifestVersion := view.contentManifestVersion
  universeId := view.universeId
  cellId := view.cellId
  universeManifestHash := view.universeManifestHash
  celestialRegistryHash := view.celestialRegistryHash
  cellAddress := view.cellAddress
  localOrigin := view.localOrigin
  gravityBodyId := view.gravityBodyId
  voxelBodyId := view.voxelBodyId
  observerClass := view.observerClass
  sessionEpoch := view.sessionEpoch
  interestEpoch := view.interestEpoch
  baselineId := view.baselineId
  deltaSequence := view.deltaSequence
  transferLink := view.transferLink
  entities := view.entities
  environment := view.environment
  conservationValid := view.conservationValid
  actorPrivate := view.actorPrivate

/-- The frontier an acknowledgement of the view names. -/
def frontier (view : ViewState) : InterestFrontier where
  sessionEpoch := view.sessionEpoch
  interestEpoch := view.interestEpoch
  baselineId := view.baselineId
  deltaSequence := view.deltaSequence
  viewHash := view.viewHash

end ViewState

structure HandoffBinding where
  status : HandoffStatus
  sessionEpoch : String
  priorInterestEpoch : Nat
deriving DecidableEq, Repr

/-- The digests the checks use. -/
structure Hashing where
  digest : HashMaterial → Verdict String
  cellIdForKey : CellKeyV1 → String

/-! ## The registry binding -/

structure AddressDimensions where
  (sectorEdgeUm cellEdgeUm cellsPerSectorAxis : Nat)
deriving DecidableEq, Repr

structure RegisteredBody where
  displayName : String
  scaleClass : CelestialScaleClass
deriving DecidableEq, Repr

structure ValidatedRegistry where
  (universeId registryHash universeManifestHash : String)
  dimensions : AddressDimensions
  bodies : OrdMap String RegisteredBody

/-- `bytes.iter().all(u8::is_ascii_digit)`, and the number they spell. -/
def asciiNumber (digits : List Char) : Option Nat :=
  if digits.all Char.isDigit then
    some (digits.foldl (fun n c => 10 * n + (c.toNat - '0'.toNat)) 0)
  else none

/-- The shape `parse_canonical_i128` accepts, read as a number. -/
def canonicalI128 (value : String) : Option Int :=
  match value.toList with
  | ['0'] => some 0
  | '-' :: '0' :: _ => none
  | '-' :: first :: rest => (asciiNumber (first :: rest)).map fun n => -(n : Int)
  | '0' :: _ => none
  | first :: rest => (asciiNumber (first :: rest)).map fun n => (n : Int)
  | [] => none

def parseCanonicalI128 (value : String) : Verdict Int :=
  match canonicalI128 value with
  | none =>
    .error ⟨.invalidAddress, "sector coordinate is not a canonical signed decimal integer"⟩
  | some n =>
    if -(2 ^ 127 : Int) ≤ n ∧ n < 2 ^ 127 then .ok n
    else .error ⟨.invalidAddress, "sector coordinate is outside the signed 128-bit range"⟩

def parseSector (address : UniverseAddress) : Verdict (Int × Int × Int) := do
  let x ← parseCanonicalI128 address.sectorX
  let y ← parseCanonicalI128 address.sectorY
  let z ← parseCanonicalI128 address.sectorZ
  pure (x, y, z)

/-- `registry::validate_address`. -/
def validateAddress (address : UniverseAddress) (universeId : String)
    (dimensions : AddressDimensions) (label : String) : Verdict Unit := do
  rejectIf (address.universeId ≠ universeId)
    ⟨.invalidAddress, s!"{label} names the wrong universe"⟩
  let _ ← (parseSector address).mapError fun error =>
    ⟨error.code, s!"{label}: " ++ error.detail⟩
  let cells := [address.cellX, address.cellY, address.cellZ]
  rejectIf (cells.any fun value => decide (dimensions.cellsPerSectorAxis ≤ value))
    ⟨.invalidAddress, s!"{label} cell index is outside the manifest dimensions"⟩
  rejectIf (2 ^ 63 ≤ dimensions.cellEdgeUm / 2)
    ⟨.invalidAddress, "manifest cell half-edge does not fit a local coordinate"⟩
  let half : Int := dimensions.cellEdgeUm / 2
  let locals := [address.localUm.1, address.localUm.2.1, address.localUm.2.2]
  rejectIf (locals.any fun value => decide (value < -half ∨ half ≤ value))
    ⟨.invalidAddress, s!"{label} local coordinate is not normalized"⟩

namespace ValidatedRegistry

def validateAddress (binding : ValidatedRegistry) (address : UniverseAddress)
    (label : String) : Verdict Unit :=
  Interest.validateAddress address binding.universeId binding.dimensions label

def requireBody (binding : ValidatedRegistry) (bodyId label : String) : Verdict Unit :=
  rejectIf (binding.bodies.contains bodyId = false)
    ⟨.bindingMismatch, s!"{label} does not resolve to the committed celestial registry"⟩

def validateEnvironment (binding : ValidatedRegistry) (environment : EnvironmentSnapshot)
    (label : String) : Verdict Unit := do
  let body ← demand (binding.bodies.get? environment.celestialBodyId)
    ⟨.bindingMismatch, s!"{label} celestial body does not resolve to the registry"⟩
  rejectIf (body.displayName ≠ environment.celestialBodyName ∨
      body.scaleClass ≠ environment.celestialScaleClass)
    ⟨.bindingMismatch, s!"{label} celestial body metadata disagrees with the registry"⟩
  let nearest ← demand (binding.bodies.get? environment.nearestBodyId)
    ⟨.bindingMismatch, s!"{label} nearest body does not resolve to the registry"⟩
  rejectIf (nearest.displayName ≠ environment.nearestBodyName)
    ⟨.bindingMismatch, s!"{label} nearest body name disagrees with the registry"⟩

end ValidatedRegistry

end Verse.Interest
