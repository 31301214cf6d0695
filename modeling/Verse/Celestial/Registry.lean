import Verse.Celestial.Address

/-!
# The celestial registry

The bodies of a universe, and the check they pass before anything is placed among them: each on
its own and against its parent, asteroids against their fields, and every pair for the gap
between them. The content manifest's allow-lists are `CelestialContent`.

The one loop that is not over a list walks from a body to its parent, and on, until there is
none. It is written here as the turns it takes (`ancestryTurn`), since bodies refer to parents
that nothing has checked yet.
-/

namespace Verse.Celestial

open Lib

inductive CelestialBodyKind where
  | planet
  | moon
  | asteroid
  | asteroidField
deriving DecidableEq, Repr

/-- `CelestialBodySnapshot`, as far as it is checked. -/
structure CelestialBodySnapshot where
  (bodyId displayName : String)
  kind : CelestialBodyKind
  (parentBodyId fieldId : Option String)
  center : UniverseAddress
  (surfaceRadiusUm exclusionRadiusUm surfaceGravityMillimetresPerSecondSquared : Nat)
  voxelFieldId : Option String
  geometryDefinitionId : String
  voxelDefinitionId : Option String
  (materialDefinitionId gravityDefinitionId atmosphereDefinitionId resourceDefinitionId : String)
  visualDescriptorId : String
  materializedRegistryVersion : Nat
  (contentManifestVersion contentHash : String)
deriving DecidableEq, Repr

/-- `RegistryDefinition`, as far as the bodies are checked against it. -/
structure RegistryDefinition where
  universeId : String
  minimumFixedBodySurfaceGapUm : Nat
deriving DecidableEq, Repr

/-- What the content manifest says about celestial bodies. -/
structure CelestialContent where
  minimumFixedBodySurfaceGapUm : Nat
  (geometryDefinitionIds voxelDefinitionIds materialDefinitionIds gravityDefinitionIds : List String)
  (atmosphereDefinitionIds resourceDefinitionIds : List String)
  (manifestVersion manifestHash : String)
deriving DecidableEq, Repr

abbrev Bodies := OrdMap String CelestialBodySnapshot

/-! ## One body -/

/-- A sum of unsigned 128-bit numbers that the source does not expect to overflow. -/
def addU128 (a b : Nat) : Located Nat :=
  plain (FitsUnsigned 128) (.panicked "attempt to add with overflow") (a + b)

/-- The same of signed ones. -/
def addI128 (a b : Int) : Located Int :=
  plain (FitsSigned 128) (.panicked "attempt to add with overflow") (a + b)

/-- A product of signed 128-bit numbers that the source does not expect to overflow. -/
def mulI128 (a b : Int) : Located Int :=
  plain (FitsSigned 128) (.panicked "attempt to multiply with overflow") (a * b)

/-- `validate_address`. -/
def validateAddress (address : UniverseAddress) (universeId : String) : Located Unit :=
  (validateUniverseAddress address universeId).mapError fun
    | .panicked message => .panicked message
    | source => .invalidRegistry s!"celestial body address is invalid: {source.text}"

/-- The exclusion volume stays inside its cell on one axis. -/
def validateExclusion (body : CelestialBodySnapshot) (localUm : Int) : Located Unit := do
  let reach ← addI128 |localUm| body.exclusionRadiusUm
  rejectIf (reach ≥ halfCellUm)
    (.invalidRegistry s!"body {body.bodyId} exclusion volume crosses its bounded proof cell")

/-- What each kind of body asks of its parent and its fields. -/
def validateKind (body : CelestialBodySnapshot) (byId : Bodies) : Located Unit :=
  match body.kind with
  | .moon => do
    let parentId ← demand body.parentBodyId
      (.invalidRegistry s!"moon {body.bodyId} requires a planet parent")
    rejectIf (parentId = body.bodyId
        ∨ (byId.get? parentId).map CelestialBodySnapshot.kind ≠ some .planet)
      (.invalidRegistry s!"moon {body.bodyId} parent must be a distinct registered planet")
  | .planet =>
    rejectIf (body.parentBodyId.isSome ∨ body.surfaceGravityMillimetresPerSecondSquared = 0)
      (.invalidRegistry s!"planet {body.bodyId} cannot have a parent and must define gravity")
  | .asteroid =>
    rejectIf body.parentBodyId.isSome
      (.invalidRegistry s!"body {body.bodyId} kind cannot have a parent in schema 1")
  | .asteroidField =>
    rejectIf (body.parentBodyId.isSome ∨ body.fieldId ≠ some body.bodyId
        ∨ body.voxelFieldId.isSome ∨ body.voxelDefinitionId.isSome)
      (.invalidRegistry
        s!"asteroid field {body.bodyId} must own its field ID and cannot be a voxel body")

/-- `validate_body`. -/
def validateBody (content : CelestialContent) (definition : RegistryDefinition)
    (body : CelestialBodySnapshot) (byId : Bodies) : Located Unit := do
  rejectIf (body.bodyId.toList = [] ∨ body.bodyId.utf8ByteSize > 128
      ∨ (body.bodyId.toList.all fun c => c.isLower || c.isDigit || c == '-') = false
      ∨ isBlank body.displayName ∨ isBlank body.visualDescriptorId
      ∨ body.materializedRegistryVersion = 0)
    (.invalidRegistry "celestial identity and visual descriptor must be bounded")
  validateAddress body.center definition.universeId
  rejectIf (body.surfaceRadiusUm = 0 ∨ body.exclusionRadiusUm < body.surfaceRadiusUm
      ∨ (body.exclusionRadiusUm : Int) > halfCellUm)
    (.invalidRegistry s!"body {body.bodyId} has invalid radii")
  checkAll (validateExclusion body)
    [body.center.localUm.1, body.center.localUm.2.1, body.center.localUm.2.2]
  validateKind body byId
  rejectIf (body.kind = .asteroid ∧ body.voxelFieldId = none)
    (.invalidRegistry s!"asteroid {body.bodyId} must bind a voxel field")
  rejectIf (body.geometryDefinitionId ∉ content.geometryDefinitionIds
      ∨ (∃ value ∈ body.voxelDefinitionId, value ∉ content.voxelDefinitionIds)
      ∨ body.materialDefinitionId ∉ content.materialDefinitionIds
      ∨ body.gravityDefinitionId ∉ content.gravityDefinitionIds
      ∨ body.atmosphereDefinitionId ∉ content.atmosphereDefinitionIds
      ∨ body.resourceDefinitionId ∉ content.resourceDefinitionIds
      ∨ (body.kind = .asteroid ∧ body.voxelDefinitionId = none)
      ∨ definition.minimumFixedBodySurfaceGapUm ≠ content.minimumFixedBodySurfaceGapUm)
    (.invalidRegistry (s!"body {body.bodyId} references an unknown content definition or "
      ++ "unpinned separation policy"))
  rejectIf (body.contentManifestVersion ≠ content.manifestVersion
      ∨ body.contentHash ≠ content.manifestHash)
    (.invalidRegistry
      s!"body {body.bodyId} content binding does not match the active manifest")

/-! ## The walk to the parents -/

/-- Where the walk from a body to its parents stands. -/
inductive Ancestry where
  | walking (ancestry : OrdMap String Unit) (cursor : CelestialBodySnapshot)
  | ended (outcome : Located Unit)

/-- One turn of the loop. -/
def ancestryTurn (byId : Bodies) (body : CelestialBodySnapshot) : Ancestry → Ancestry
  | .walking ancestry cursor =>
    match cursor.parentBodyId with
    | none => .ended (.ok ())
    | some parentId =>
      if ancestry.contains cursor.bodyId then
        .ended (.error (.invalidRegistry s!"body {body.bodyId} has cyclic parentage"))
      else
        match byId.get? parentId with
        | none => .ended (.error
            (.invalidRegistry s!"body {body.bodyId} references missing parent {parentId}"))
        | some parent => .walking (ancestry.insert cursor.bodyId ()) parent
  | .ended outcome => .ended outcome

/-- The loop after so many turns. -/
def ancestryAfter (byId : Bodies) (body : CelestialBodySnapshot) (turns : Nat) : Ancestry :=
  (ancestryTurn byId body)^[turns] (.walking OrdMap.empty body)

/-- The walk, with enough turns for it to end. -/
def validateAncestry (byId : Bodies) (turns : Nat) (body : CelestialBodySnapshot) :
    Located Unit :=
  match ancestryAfter byId body turns with
  | .ended outcome => outcome
  | .walking .. => .error (.panicked "the walk to the parents goes on")

/-! ## Positions and gaps -/

/-- `global_axis_um`. -/
def globalAxisUm (sector : String) (cell : Nat) (localUm : Int) : Located Int := do
  let sector ← demand (parseI128 sector) .addressOverflow
  let sectorsUm ← checkedI128 (sector * sectorEdgeUm)
  let cellsUm ← mulI128 cell cellEdgeUm
  let cells ← checkedI128 (sectorsUm + cellsUm)
  checkedI128 (cells + localUm)

/-- `global_position_um`. -/
def globalPositionUm (address : UniverseAddress) : Located (Int × Int × Int) := do
  let x ← globalAxisUm address.sectorX address.cellX address.localUm.1
  let y ← globalAxisUm address.sectorY address.cellY address.localUm.2.1
  let z ← globalAxisUm address.sectorZ address.cellZ address.localUm.2.2
  return (x, y, z)

/-- A checked unsigned 128-bit result. -/
def checkedU128 (exact : Nat) : Located Nat :=
  demand (checked (FitsUnsigned 128) exact) .addressOverflow

/-- The checked sum of the squares of three distances. -/
def distanceSquared (deltas : Nat × Nat × Nat) : Located Nat := do
  let sum ← checkedU128 (deltas.1 * deltas.1)
  let square ← checkedU128 (deltas.2.1 * deltas.2.1)
  let sum ← checkedU128 (sum + square)
  let square ← checkedU128 (deltas.2.2 * deltas.2.2)
  checkedU128 (sum + square)

/-- `abs_diff`, axis by axis. -/
def absDiff (p q : Int × Int × Int) : Nat × Nat × Nat :=
  ((p.1 - q.1).natAbs, (p.2.1 - q.2.1).natAbs, (p.2.2 - q.2.2).natAbs)

/-- `is_asteroid_field_pair`. -/
def isAsteroidFieldPair (left right : CelestialBodySnapshot) : Bool :=
  match left.kind, right.kind with
  | .asteroid, .asteroidField => left.fieldId == some right.bodyId
  | .asteroidField, .asteroid => right.fieldId == some left.bodyId
  | _, _ => false

/-- `asteroid_field_contains`. -/
def asteroidFieldContains (field asteroid : CelestialBodySnapshot) : Located Bool := do
  if field.kind ≠ .asteroidField ∨ asteroid.kind ≠ .asteroid
      ∨ asteroid.fieldId ≠ some field.bodyId then
    return false
  else do
    rejectIf (field.surfaceRadiusUm < asteroid.exclusionRadiusUm)
      (.invalidRegistry
        s!"asteroid {asteroid.bodyId} cannot fit inside field {field.bodyId}")
    let availableRadius := field.surfaceRadiusUm - asteroid.exclusionRadiusUm
    let fieldPosition ← globalPositionUm field.center
    let asteroidPosition ← globalPositionUm asteroid.center
    let squared ← distanceSquared (absDiff fieldPosition asteroidPosition)
    let availableSquared ← checkedU128 (availableRadius * availableRadius)
    return decide (squared ≤ availableSquared)

/-- The clearance two bodies need: both exclusion radii and the gap. -/
def requiredUm (left right : CelestialBodySnapshot) (minimumGapUm : Nat) : Nat :=
  left.exclusionRadiusUm + right.exclusionRadiusUm + minimumGapUm

/-- `validate_separation`. -/
def validateSeparation (left right : CelestialBodySnapshot) (minimumGapUm : Nat) :
    Located Unit := do
  let leftPosition ← globalPositionUm left.center
  let rightPosition ← globalPositionUm right.center
  let radii ← addU128 left.exclusionRadiusUm right.exclusionRadiusUm
  let required ← addU128 radii minimumGapUm
  let deltas := absDiff leftPosition rightPosition
  if deltas.1 ≥ required ∨ deltas.2.1 ≥ required ∨ deltas.2.2 ≥ required then
    return ()
  else do
    let squared ← distanceSquared deltas
    let requiredSquared ← checkedU128 (required * required)
    rejectIf (squared < requiredSquared)
      (.invalidRegistry
        s!"bodies {left.bodyId} and {right.bodyId} violate the fixed-body surface gap")

/-! ## The registry -/

/-- An asteroid lies in the field it names. -/
def validateAsteroid (byId : Bodies) (body : CelestialBodySnapshot) : Located Unit :=
  if body.kind = .asteroid then do
    let fieldId ← demand body.fieldId
      (.invalidRegistry s!"asteroid {body.bodyId} requires a registered asteroid field")
    let field ← demand (byId.get? fieldId)
      (.invalidRegistry s!"asteroid {body.bodyId} references missing field {fieldId}")
    let contained ← asteroidFieldContains field body
    rejectIf (contained = false)
      (.invalidRegistry s!"asteroid {body.bodyId} is outside registered field {fieldId}")
  else return ()

/-- The bodies by their identity. -/
def bodiesById (bodies : List CelestialBodySnapshot) : Bodies :=
  OrdMap.ofList (bodies.map fun body => (body.bodyId, body))

/-- One turn of the loop over the bodies, in the light of those before it. -/
def validateRegistered (content : CelestialContent) (definition : RegistryDefinition)
    (byId : Bodies) (turns : Nat) (earlier : List CelestialBodySnapshot)
    (body : CelestialBodySnapshot) : Located Unit := do
  validateBody content definition body byId
  rejectIf (∃ other ∈ earlier, other.center = body.center)
    (.invalidRegistry s!"body {body.bodyId} duplicates another normalized center")
  validateAncestry byId turns body
  validateAsteroid byId body

/-- `validate_registry`. The walk to the parents takes at most one turn more than there are
    bodies. -/
def validateRegistry (content : CelestialContent) (definition : RegistryDefinition)
    (bodies : List CelestialBodySnapshot) : Located Unit := do
  rejectIf (bodies = [])
    (.invalidRegistry "celestial registry must contain at least one body")
  rejectIf (∃ pair ∈ bodies.zip bodies.tail, ¬ pair.1.bodyId < pair.2.bodyId)
    (.invalidRegistry "celestial bodies must be unique and sorted by body ID")
  let byId := bodiesById bodies
  checkEach (validateRegistered content definition byId (bodies.length + 1)) [] bodies
  checkPairs (fun left right =>
    if isAsteroidFieldPair left right then return ()
    else validateSeparation left right definition.minimumFixedBodySurfaceGapUm) bodies

end Verse.Celestial
