import Verse.Directory.Document
import Verse.Lib.Exact
import Verse.World.State

/-!
# Universe addresses

A universe is divided into sectors, a sector into cells, and a place is so many micrometres from
the middle of its cell, on each of three axes. Sectors are numbered by signed 128-bit integers,
written in decimal; an address is canonical when its sector is written the one way that
`to_string` writes it, its cell lies in the sector and its local part in the cell.

The arithmetic on addresses is exact and checked: `normalizeAxis` carries what lies outside a
cell into the next, and every sum or product that may leave 128 bits is an error where it does.
What the source adds or subtracts without a check stops the program here if it does not fit.
-/

namespace Verse.Celestial

open Lib
open Directory (CellKeyV1)

/-! ## Errors -/

inductive CelestialError where
  | invalidRegistry (message : String)
  | addressOverflow
  | invalidAddress (message : String)
  | panicked (message : String)
deriving DecidableEq, Repr

/-- The `Display` text. -/
def CelestialError.text : CelestialError → String
  | .invalidRegistry message => s!"celestial registry invariant failed: {message}"
  | .addressOverflow => "universe address arithmetic overflowed"
  | .invalidAddress message => s!"universe address is invalid: {message}"
  | .panicked message => message

abbrev Located := Except CelestialError

/-! ## Dimensions -/

def sectorEdgeUm : Int := 20000000000000
def cellEdgeUm : Int := 20000000000
def cellsPerSectorAxis : Int := 1000
def cellKeySchemaVersion : Nat := 1

/-- Half the edge of a cell. -/
def halfCellUm : Int := cellEdgeUm / 2

/-! ## 128-bit arithmetic -/

/-- An exact result that is checked to fit an `i128`. -/
def checkedI128 (exact : Int) : Located Int :=
  demand (checked (FitsSigned 128) exact) .addressOverflow

/-- The difference of two values that the source does not expect to overflow. -/
def subI128 (a b : Int) : Located Int :=
  plain (FitsSigned 128) (.panicked "attempt to subtract with overflow") (a - b)

/-- `u32::try_from`. -/
def tryU32 (n : Int) : Option Nat := if 0 ≤ n ∧ n < 2 ^ 32 then some n.toNat else none

/-- `i64::try_from`. -/
def tryI64 (n : Int) : Option Int := checked (FitsSigned 64) n

/-- `str::parse::<i128>`. -/
def parseI128 (text : String) : Option Int := (parseInt text).bind (checked (FitsSigned 128))

/-- `normalize_axis`. -/
def normalizeAxis (sector cell localUm : Int) : Located (Int × Nat × Int) := do
  let shifted ← checkedI128 (localUm + halfCellUm)
  let localCarry := shifted / cellEdgeUm
  let normalizedLocal ← subI128 (shifted % cellEdgeUm) halfCellUm
  let carriedCell ← checkedI128 (cell + localCarry)
  let sectorCarry := carriedCell / cellsPerSectorAxis
  let normalizedCell := carriedCell % cellsPerSectorAxis
  let normalizedSector ← checkedI128 (sector + sectorCarry)
  let normalizedCell ← demand (tryU32 normalizedCell) .addressOverflow
  let normalizedLocal ← demand (tryI64 normalizedLocal) .addressOverflow
  return (normalizedSector, normalizedCell, normalizedLocal)

/-! ## Validation -/

/-- `validate_universe_address`. -/
def validateUniverseAddress (address : UniverseAddress) (expectedUniverseId : String) :
    Located Unit := do
  rejectIf (address.universeId ≠ expectedUniverseId)
    (.invalidAddress "address belongs to a different universe")
  checkAll (fun component => do
      let parsed ← demand (parseI128 component)
        (.invalidAddress "sector coordinate is not signed 128-bit")
      rejectIf (toString parsed ≠ component)
        (.invalidAddress "sector coordinate is not canonical decimal"))
    [address.sectorX, address.sectorY, address.sectorZ]
  rejectIf (∃ cell ∈ [address.cellX, address.cellY, address.cellZ],
      (cell : Int) ≥ cellsPerSectorAxis)
    (.invalidAddress "cell coordinate lies outside the sector")
  rejectIf (∃ localUm ∈ [address.localUm.1, address.localUm.2.1, address.localUm.2.2],
      ¬ (-halfCellUm ≤ localUm ∧ localUm < halfCellUm))
    (.invalidAddress "local coordinate is not normalized")

/-- `cell_address_from_parts`. -/
def cellAddressFromParts (key : CellKeyV1) : UniverseAddress where
  universeId := key.universeId
  sectorX := key.sectorX
  sectorY := key.sectorY
  sectorZ := key.sectorZ
  cellX := key.cellX
  cellY := key.cellY
  cellZ := key.cellZ
  localUm := (0, 0, 0)

/-- `validate_cell_key`. -/
def validateCellKey (key : CellKeyV1) : Located Unit := do
  rejectIf (key.schemaVersion ≠ cellKeySchemaVersion)
    (.invalidAddress
      s!"cell-key schema {key.schemaVersion} does not match required schema {cellKeySchemaVersion}")
  validateUniverseAddress (cellAddressFromParts key) key.universeId

/-- `cell_key_from_address`. -/
def cellKeyFromAddress (address : UniverseAddress) : Located CellKeyV1 := do
  validateUniverseAddress address address.universeId
  return {
    schemaVersion := cellKeySchemaVersion
    universeId := address.universeId
    sectorX := address.sectorX
    sectorY := address.sectorY
    sectorZ := address.sectorZ
    cellX := address.cellX
    cellY := address.cellY
    cellZ := address.cellZ }

/-- `cell_address_from_key`. -/
def cellAddressFromKey (key : CellKeyV1) : Located UniverseAddress := do
  validateCellKey key
  return cellAddressFromParts key

/-! ## Neighbours and offsets -/

/-- One axis of a neighbour. -/
def neighborAxis (sector : String) (cell : Nat) (delta : Int) : Located (Int × Nat) := do
  let sector ← demand (parseI128 sector) .addressOverflow
  let requestedCell ← checkedI128 (cell + delta)
  let (sector, cell, localUm) ← normalizeAxis sector requestedCell 0
  rejectIf (localUm ≠ 0) (.panicked "assertion `left == right` failed")
  return (sector, cell)

/-- `neighbor_cell_key`. -/
def neighborCellKey (key : CellKeyV1) (delta : Int × Int × Int) : Located CellKeyV1 := do
  validateCellKey key
  let x ← neighborAxis key.sectorX key.cellX delta.1
  let y ← neighborAxis key.sectorY key.cellY delta.2.1
  let z ← neighborAxis key.sectorZ key.cellZ delta.2.2
  return {
    schemaVersion := cellKeySchemaVersion
    universeId := key.universeId
    sectorX := toString x.1
    sectorY := toString y.1
    sectorZ := toString z.1
    cellX := x.2
    cellY := y.2
    cellZ := z.2 }

/-- One axis of an address at an offset. -/
def offsetAxis (sector : String) (cell : Nat) (localUm offsetUm : Int) :
    Located (Int × Nat × Int) := do
  let sector ← demand (parseI128 sector) .addressOverflow
  let localUm ← checkedI128 (localUm + offsetUm)
  normalizeAxis sector cell localUm

/-- `address_from_origin_offset_um`. -/
def addressFromOriginOffsetUm (origin : UniverseAddress) (offsetUm : Int × Int × Int) :
    Located UniverseAddress := do
  validateUniverseAddress origin origin.universeId
  let x ← offsetAxis origin.sectorX origin.cellX origin.localUm.1 offsetUm.1
  let y ← offsetAxis origin.sectorY origin.cellY origin.localUm.2.1 offsetUm.2.1
  let z ← offsetAxis origin.sectorZ origin.cellZ origin.localUm.2.2 offsetUm.2.2
  return {
    universeId := origin.universeId
    sectorX := toString x.1
    sectorY := toString y.1
    sectorZ := toString z.1
    cellX := x.2.1
    cellY := y.2.1
    cellZ := z.2.1
    localUm := (x.2.2, y.2.2, z.2.2) }

/-- One axis of the offset between two addresses. The differences of cells and of local parts
    are of values far from the ends of their types. -/
def relativeAxis (originSector addressSector : String) (originCell addressCell : Nat)
    (originLocal addressLocal : Int) : Located Int := do
  let originSector ← demand (parseI128 originSector) .addressOverflow
  let addressSector ← demand (parseI128 addressSector) .addressOverflow
  let sectors ← checkedI128 (addressSector - originSector)
  let sectorsUm ← checkedI128 (sectors * sectorEdgeUm)
  let cellDelta ← checkedI128 ((addressCell : Int) - originCell)
  let cellsUm ← checkedI128 (cellDelta * cellEdgeUm)
  let cells ← checkedI128 (sectorsUm + cellsUm)
  let locals ← subI128 addressLocal originLocal
  checkedI128 (cells + locals)

/-- `relative_offset_um`. -/
def relativeOffsetUm (origin address : UniverseAddress) : Located (Int × Int × Int) := do
  validateUniverseAddress origin origin.universeId
  validateUniverseAddress address origin.universeId
  let x ← relativeAxis origin.sectorX address.sectorX origin.cellX address.cellX
    origin.localUm.1 address.localUm.1
  let y ← relativeAxis origin.sectorY address.sectorY origin.cellY address.cellY
    origin.localUm.2.1 address.localUm.2.1
  let z ← relativeAxis origin.sectorZ address.sectorZ origin.cellZ address.cellZ
    origin.localUm.2.2 address.localUm.2.2
  return (x, y, z)

end Verse.Celestial
