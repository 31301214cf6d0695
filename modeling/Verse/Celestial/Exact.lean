import Mathlib.Algebra.Group.Prod
import Verse.Celestial.Address

/-!
# Addresses are exact

Behind an address stands a place: on each axis a whole number of micrometres (`Axis.position`).
A canonical address is one way of writing a place, and the only one
(`Axis.Canonical.eq_of_position`), because cells split a sector and local parts split a cell
around its middle.

Offsets are then differences of places, and everything else is read off: what is added is what
is measured, measuring composes, and a step back undoes a step. The checks on the way can only
fail; they fail at intermediate values, so an offset within one sector of the ends of 128 bits
may be refused although it fits.
-/

namespace Verse.Celestial

open Lib
open Directory (CellKeyV1)

/-! ## One axis -/

/-- One axis of an address, read. -/
structure Axis where
  sector : Int
  cell : Nat
  localUm : Int
deriving DecidableEq, Repr

namespace Axis

structure Canonical (a : Axis) : Prop where
  sector : FitsSigned 128 a.sector
  cell : (a.cell : Int) < cellsPerSectorAxis
  localUm : -halfCellUm ≤ a.localUm ∧ a.localUm < halfCellUm

/-- Where the axis is, in micrometres. -/
def position (a : Axis) : Int := a.sector * sectorEdgeUm + a.cell * cellEdgeUm + a.localUm

variable {a b : Axis}

/-- A place has one canonical address. -/
theorem Canonical.eq_of_position (ha : a.Canonical) (hb : b.Canonical)
    (h : a.position = b.position) : a = b := by
  obtain ⟨sector, cell, localUm⟩ := a
  obtain ⟨sector', cell', localUm'⟩ := b
  obtain ⟨-, hcell, hlocal⟩ := ha
  obtain ⟨-, hcell', hlocal'⟩ := hb
  simp only [position, sectorEdgeUm, cellEdgeUm, cellsPerSectorAxis, halfCellUm] at *
  have hsectors : sector = sector' := by omega
  have hcells : cell = cell' := by omega
  have hlocals : localUm = localUm' := by omega
  rw [hsectors, hcells, hlocals]

end Axis

theorem checkedI128_eq_ok {exact result : Int} :
    checkedI128 exact = .ok result ↔ FitsSigned 128 exact ∧ exact = result := by
  simp [checkedI128]

variable {n : Int}

theorem fitsSigned128 :
    FitsSigned 128 n ↔ -170141183460469231731687303715884105728 ≤ n
      ∧ n ≤ 170141183460469231731687303715884105727 := by
  simp only [FitsSigned, Nat.reduceSub, Int.reducePow, Int.reduceNeg]
  omega

theorem tryU32_eq_some {m : Nat} : tryU32 n = some m ↔ n = m ∧ n < 2 ^ 32 := by
  unfold tryU32
  split_ifs with h
  · rw [Option.some.injEq]
    omega
  · simp only [false_iff]
    omega

variable {r : Axis}

/-- What normalizing does: it fails where a carry leaves 128 bits, and otherwise it finds the
    canonical axis of the same place. -/
theorem normalizeAxis_eq_ok {sector localUm cell : Int} :
    normalizeAxis sector cell localUm = .ok (r.sector, r.cell, r.localUm) ↔
      FitsSigned 128 (localUm + halfCellUm)
        ∧ FitsSigned 128 (cell + carry cellEdgeUm halfCellUm localUm)
        ∧ r.Canonical
        ∧ r.position = sector * sectorEdgeUm + cell * cellEdgeUm + localUm := by
  simp only [normalizeAxis, bind_eq_ok, checkedI128_eq_ok, subI128, plain_eq_ok, demand_eq_ok,
    pure_eq_ok, tryI64, checked_eq_some, Prod.mk.injEq, tryU32_eq_some]
  constructor
  · rintro ⟨_, ⟨hshifted, rfl⟩, rest, ⟨-, hrest⟩, _, ⟨hcarried, rfl⟩, _, ⟨hsector, rfl⟩, _,
      ⟨hcell, -⟩, _, ⟨-, rfl⟩, hs, rfl, hl⟩
    refine ⟨hshifted, hcarried, ⟨hs ▸ hsector, ?_, ?_⟩, ?_⟩
    all_goals
      simp only [Axis.position, sectorEdgeUm, cellEdgeUm, cellsPerSectorAxis, halfCellUm] at *
      omega
  · rintro ⟨hshifted, hcarried, ⟨hsector, hcell, hlocal⟩, hposition⟩
    have hfields : r.sector = sector + (cell + (localUm + halfCellUm) / cellEdgeUm) / cellsPerSectorAxis
        ∧ (r.cell : Int) = (cell + (localUm + halfCellUm) / cellEdgeUm) % cellsPerSectorAxis
        ∧ r.localUm = (localUm + halfCellUm) % cellEdgeUm - halfCellUm := by
      simp only [Axis.position, sectorEdgeUm, cellEdgeUm, cellsPerSectorAxis, halfCellUm] at *
      omega
    obtain ⟨hs, hc, hl⟩ := hfields
    refine ⟨_, ⟨hshifted, rfl⟩, r.localUm, ⟨?_, hl.symm⟩, _, ⟨hcarried, rfl⟩, _,
      ⟨hs ▸ hsector, rfl⟩, r.cell, ⟨hc.symm, ?_⟩, _, ⟨?_, rfl⟩, hs.symm, rfl, rfl⟩
    · rw [← hl, fitsSigned128]
      simp only [halfCellUm, cellEdgeUm] at hlocal
      omega
    · rw [← hc]
      simp only [cellsPerSectorAxis] at hcell
      omega
    · unfold FitsSigned
      simp only [halfCellUm, cellEdgeUm] at hlocal
      omega

/-! ## Steps on one axis -/

/-- A number is read back from its decimal digits, when it is a sector number. -/
theorem parseI128_toString (h : FitsSigned 128 n) : parseI128 (toString n) = some n := by
  rw [parseI128, parseInt_toString]
  exact checked_eq_some.mpr ⟨h, rfl⟩

/-- A computation that only fails by overflow. -/
def OnlyOverflows {α : Type} (x : Located α) : Prop := ∀ e, x = .error e → e = .addressOverflow

namespace OnlyOverflows

variable {α β : Type}

variable {x : Located α}

theorem bind {f : α → Located β} (hx : OnlyOverflows x)
    (hf : ∀ a, x = .ok a → OnlyOverflows (f a)) : OnlyOverflows (x >>= f) := by
  intro e he
  rcases bind_eq_error.mp he with h | ⟨a, ha, h⟩
  · exact hx e h
  · exact hf a ha e h

theorem pure (a : α) : OnlyOverflows (Pure.pure a : Located α) := by
  intro e he
  cases he

theorem demand (o : Option α) : OnlyOverflows (Lib.demand o .addressOverflow) := by
  intro e he
  cases o with
  | none => exact (Except.error.inj he).symm
  | some a => cases he

theorem checked (n : Int) : OnlyOverflows (checkedI128 n) := OnlyOverflows.demand _

theorem ok_or (h : OnlyOverflows x) :
    (∃ a, x = .ok a) ∨ x = .error .addressOverflow := by
  cases hx : x with
  | ok a => exact .inl ⟨a, rfl⟩
  | error e => exact .inr (by rw [h e hx])

end OnlyOverflows

theorem normalizeAxis_onlyOverflows (sector cell localUm : Int) :
    OnlyOverflows (normalizeAxis sector cell localUm) := by
  have hrest : FitsSigned 128 ((localUm + halfCellUm) % cellEdgeUm - halfCellUm) := by
    rw [fitsSigned128]
    simp only [halfCellUm, cellEdgeUm]
    omega
  unfold normalizeAxis
  refine .bind (.checked _) fun shifted hshifted => ?_
  obtain ⟨-, rfl⟩ := checkedI128_eq_ok.mp hshifted
  rw [subI128, plain_of_fits hrest]
  refine .bind (.pure _) fun _ _ => .bind (.checked _) fun _ _ => .bind (.checked _) fun _ _ => ?_
  exact .bind (.demand _) fun _ _ => .bind (.demand _) fun _ _ => .pure _

namespace Axis

variable {a b r : Axis} {offsetUm : Int}

/-- The axis at an offset. -/
def moved (a : Axis) (offsetUm : Int) : Located Axis := do
  let (sector, cell, localUm) ← offsetAxis (toString a.sector) a.cell a.localUm offsetUm
  return { sector, cell, localUm }

/-- The offset from one axis to another. -/
def measured (a b : Axis) : Located Int :=
  relativeAxis (toString a.sector) (toString b.sector) a.cell b.cell a.localUm b.localUm

theorem moved_eq_ok (ha : a.Canonical) :
    a.moved offsetUm = .ok r ↔ FitsSigned 128 (a.localUm + offsetUm)
      ∧ FitsSigned 128 (a.localUm + offsetUm + halfCellUm)
      ∧ r.Canonical ∧ r.position = a.position + offsetUm := by
  have hsplit : a.moved offsetUm = .ok r ↔ FitsSigned 128 (a.localUm + offsetUm)
      ∧ normalizeAxis a.sector a.cell (a.localUm + offsetUm)
        = .ok (r.sector, r.cell, r.localUm) := by
    simp only [moved, offsetAxis, parseI128_toString ha.sector, bind_eq_ok, demand_eq_ok,
      checkedI128_eq_ok, pure_eq_ok, Option.some.injEq, exists_eq_left', Prod.exists]
    constructor
    · rintro ⟨sector, cell, localUm, ⟨_, ⟨hlocal, rfl⟩, hnormal⟩, rfl⟩
      exact ⟨hlocal, hnormal⟩
    · rintro ⟨hlocal, hnormal⟩
      exact ⟨_, _, _, ⟨_, ⟨hlocal, rfl⟩, hnormal⟩, rfl⟩
  rw [hsplit, normalizeAxis_eq_ok]
  have hposition : a.sector * sectorEdgeUm + a.cell * cellEdgeUm + (a.localUm + offsetUm)
      = a.position + offsetUm := by
    unfold position
    omega
  rw [hposition]
  -- The carry of a 128-bit number into a cell is far from the ends of 128 bits.
  have hcarried : FitsSigned 128 (a.localUm + offsetUm + halfCellUm) →
      FitsSigned 128 (a.cell + carry cellEdgeUm halfCellUm (a.localUm + offsetUm)) := by
    obtain ⟨-, hcell, -⟩ := ha
    simp only [fitsSigned128, carry, halfCellUm, cellEdgeUm, cellsPerSectorAxis] at hcell ⊢
    omega
  constructor
  · rintro ⟨hlocal, hshifted, -, hcanonical, hr⟩
    exact ⟨hlocal, hshifted, hcanonical, hr⟩
  · rintro ⟨hlocal, hshifted, hcanonical, hr⟩
    exact ⟨hlocal, hshifted, hcarried hshifted, hcanonical, hr⟩

theorem moved_onlyOverflows : OnlyOverflows (a.moved offsetUm) :=
  .bind (.bind (.demand _) fun _ _ => .bind (.checked _) fun _ _ =>
    normalizeAxis_onlyOverflows _ _ _) fun _ _ => .pure _

/-- What is computed on the way to an offset stays within 128 bits. -/
structure Measurable (a b : Axis) : Prop where
  sectors : FitsSigned 128 ((b.sector - a.sector) * sectorEdgeUm)
  cells : FitsSigned 128 ((b.sector - a.sector) * sectorEdgeUm
    + ((b.cell : Int) - a.cell) * cellEdgeUm)
  whole : FitsSigned 128 (b.position - a.position)

theorem measured_eq_ok (ha : a.Canonical) (hb : b.Canonical) :
    a.measured b = .ok offsetUm ↔ a.Measurable b ∧ b.position - a.position = offsetUm := by
  have hdistance : (b.sector - a.sector) * sectorEdgeUm + ((b.cell : Int) - a.cell) * cellEdgeUm
      + (b.localUm - a.localUm) = b.position - a.position := by
    simp only [position, sectorEdgeUm, cellEdgeUm]
    omega
  simp only [measured, relativeAxis, parseI128_toString ha.sector, parseI128_toString hb.sector,
    bind_eq_ok, demand_eq_ok, checkedI128_eq_ok, subI128, plain_eq_ok, Option.some.injEq,
    exists_eq_left']
  constructor
  · rintro ⟨_, ⟨-, rfl⟩, _, ⟨hsectors, rfl⟩, _, ⟨-, rfl⟩, _, ⟨-, rfl⟩, _, ⟨hcells, rfl⟩, _,
      ⟨-, rfl⟩, hwhole, rfl⟩
    rw [hdistance] at hwhole ⊢
    exact ⟨⟨hsectors, hcells, hwhole⟩, rfl⟩
  · rintro ⟨⟨hsectors, hcells, hwhole⟩, rfl⟩
    rw [← hdistance] at hwhole ⊢
    obtain ⟨-, hcell, hlocal⟩ := ha
    obtain ⟨-, hcell', hlocal'⟩ := hb
    refine ⟨_, ⟨?_, rfl⟩, _, ⟨hsectors, rfl⟩, _, ⟨?_, rfl⟩, _, ⟨?_, rfl⟩, _, ⟨hcells, rfl⟩, _,
      ⟨?_, rfl⟩, hwhole, rfl⟩
    all_goals
      simp only [fitsSigned128, sectorEdgeUm, cellEdgeUm, cellsPerSectorAxis, halfCellUm] at *
      omega

theorem measured_onlyOverflows (ha : a.Canonical) (hb : b.Canonical) :
    OnlyOverflows (a.measured b) := by
  have hlocals : FitsSigned 128 (b.localUm - a.localUm) := by
    obtain ⟨-, -, hlocal⟩ := ha
    obtain ⟨-, -, hlocal'⟩ := hb
    simp only [fitsSigned128, halfCellUm, cellEdgeUm] at *
    omega
  unfold measured relativeAxis
  refine .bind (.demand _) fun _ _ => .bind (.demand _) fun _ _ => .bind (.checked _) fun _ _ => ?_
  refine .bind (.checked _) fun _ _ => .bind (.checked _) fun _ _ => .bind (.checked _) fun _ _ => ?_
  refine .bind (.checked _) fun _ _ => ?_
  rw [subI128, plain_of_fits hlocals]
  exact .bind (.pure _) fun _ _ => .checked _

/-- Within a sector of the ends of 128 bits. -/
def AtEnd (offsetUm : Int) : Prop :=
  offsetUm < -2 ^ 127 + sectorEdgeUm ∨ 2 ^ 127 - sectorEdgeUm ≤ offsetUm

theorem measurable_of_not_atEnd (ha : a.Canonical) (hb : b.Canonical)
    (h : ¬ AtEnd (b.position - a.position)) : a.Measurable b := by
  obtain ⟨-, hcell, hlocal⟩ := ha
  obtain ⟨-, hcell', hlocal'⟩ := hb
  simp only [AtEnd, position, sectorEdgeUm, cellEdgeUm, cellsPerSectorAxis, halfCellUm] at *
  refine ⟨?_, ?_, ?_⟩
  all_goals
    simp only [fitsSigned128, position, sectorEdgeUm, cellEdgeUm]
    omega

end Axis

/-! ## Addresses -/

/-- Three canonical axes. -/
abbrev Axes (x y z : Axis) : Prop := x.Canonical ∧ y.Canonical ∧ z.Canonical

/-- The address three axes are written as. -/
def written (universeId : String) (x y z : Axis) : UniverseAddress where
  universeId := universeId
  sectorX := toString x.sector
  sectorY := toString y.sector
  sectorZ := toString z.sector
  cellX := x.cell
  cellY := y.cell
  cellZ := z.cell
  localUm := (x.localUm, y.localUm, z.localUm)

/-- A canonical address: its own universe accepts it. -/
def Canonical (address : UniverseAddress) : Prop :=
  validateUniverseAddress address address.universeId = .ok ()

instance : DecidablePred Canonical := fun _ => inferInstanceAs (Decidable (_ = _))

theorem parseI128_fits {text : String} (h : parseI128 text = some n) :
    FitsSigned 128 n := by
  obtain ⟨m, -, hm⟩ := Option.bind_eq_some_iff.mp h
  obtain ⟨hfits, rfl⟩ := checked_eq_some.mp hm
  exact hfits

variable {address : UniverseAddress}

theorem validateUniverseAddress_eq_ok {universeId : String} :
    validateUniverseAddress address universeId = .ok () ↔
      ∃ x y z, Axes x y z ∧ address = written universeId x y z := by
  simp only [validateUniverseAddress, bind_eq_ok, rejectIf_eq_ok, checkAll_eq_ok, demand_eq_ok,
    List.forall_mem_cons, List.not_mem_nil, false_implies, implies_true, and_true, not_exists,
    not_and, ne_eq, not_not, Classical.not_imp, ge_iff_le, not_le]
  constructor
  · rintro ⟨-, rfl, -, ⟨⟨sx, hx, hsx⟩, ⟨sy, hy, hsy⟩, ⟨sz, hz, hsz⟩⟩, -, ⟨hcx, hcy, hcz⟩,
      hlx, hly, hlz⟩
    refine ⟨⟨sx, address.cellX, address.localUm.1⟩, ⟨sy, address.cellY, address.localUm.2.1⟩,
      ⟨sz, address.cellZ, address.localUm.2.2⟩, ⟨⟨parseI128_fits hx, hcx, hlx⟩,
      ⟨parseI128_fits hy, hcy, hly⟩, parseI128_fits hz, hcz, hlz⟩, ?_⟩
    simp only [written, hsx, hsy, hsz]
  · rintro ⟨x, y, z, ⟨hx, hy, hz⟩, rfl⟩
    exact ⟨(), rfl, (), ⟨⟨_, parseI128_toString hx.sector, rfl⟩,
      ⟨_, parseI128_toString hy.sector, rfl⟩, ⟨_, parseI128_toString hz.sector, rfl⟩⟩, (),
      ⟨hx.cell, hy.cell, hz.cell⟩, hx.localUm, hy.localUm, hz.localUm⟩

theorem Canonical.axes (h : Canonical address) :
    ∃ x y z, Axes x y z ∧ address = written address.universeId x y z :=
  validateUniverseAddress_eq_ok.mp h

section Written

variable {universeId : String} {x y z x' y' z' : Axis} {offsetUm : Int × Int × Int}

theorem canonical_written (haxes : Axes x y z) :
    Canonical (written universeId x y z) :=
  validateUniverseAddress_eq_ok.mpr ⟨x, y, z, haxes, rfl⟩

theorem written_injective (h : written universeId x y z = written universeId x' y' z') :
    x = x' ∧ y = y' ∧ z = z' := by
  simp only [written, UniverseAddress.mk.injEq, Prod.mk.injEq, true_and] at h
  obtain ⟨hsx, hsy, hsz, hcx, hcy, hcz, hlx, hly, hlz⟩ := h
  have haxis : ∀ {a b : Axis}, toString a.sector = toString b.sector → a.cell = b.cell →
      a.localUm = b.localUm → a = b := by
    intro a b hsector hcell hlocal
    obtain ⟨sector, cell, localUm⟩ := a
    obtain rfl := toString_int_injective hsector
    obtain rfl := hcell
    obtain rfl := hlocal
    rfl
  exact ⟨haxis hsx hcx hlx, haxis hsy hcy hly, haxis hsz hcz hlz⟩

/-- An address at an offset is written from the axes at the offset. -/
theorem addressFromOriginOffsetUm_written (haxes : Axes x y z) :
    addressFromOriginOffsetUm (written universeId x y z) offsetUm = (do
      let x ← x.moved offsetUm.1
      let y ← y.moved offsetUm.2.1
      let z ← z.moved offsetUm.2.2
      return written universeId x y z) := by
  have hvalid : validateUniverseAddress (written universeId x y z) universeId = .ok () :=
    canonical_written haxes
  simp only [addressFromOriginOffsetUm, Axis.moved, written] at hvalid ⊢
  rw [hvalid]
  simp only [bind_assoc, pure_bind]
  rfl

theorem relativeOffsetUm_written (haxes : Axes x y z) (haxes' : Axes x' y' z') :
    relativeOffsetUm (written universeId x y z) (written universeId x' y' z') = (do
      let dx ← x.measured x'
      let dy ← y.measured y'
      let dz ← z.measured z'
      return (dx, dy, dz)) := by
  have hvalid : validateUniverseAddress (written universeId x y z) universeId = .ok () :=
    canonical_written haxes
  have hvalid' : validateUniverseAddress (written universeId x' y' z') universeId = .ok () :=
    canonical_written haxes'
  simp only [relativeOffsetUm, Axis.measured, written] at hvalid hvalid' ⊢
  rw [hvalid, hvalid']
  rfl

/-- Where three axes are. -/
def place (x y z : Axis) : Int × Int × Int := (x.position, y.position, z.position)

end Written

/-! ## Offsets -/

/-- On some axis within a sector of the ends of 128 bits. -/
def AtEnds (offsetUm : Int × Int × Int) : Prop :=
  Axis.AtEnd offsetUm.1 ∨ Axis.AtEnd offsetUm.2.1 ∨ Axis.AtEnd offsetUm.2.2

/-- The exact result; or, for an offset at the ends of 128 bits, the overflow reported. -/
def ExactWithin {α : Type} (offsetUm : Int × Int × Int) (result : Located α) (exact : α) : Prop :=
  result = .ok exact ∨ AtEnds offsetUm ∧ result = .error .addressOverflow

section Written

variable {universeId : String} {x y z x' y' z' : Axis} {offsetUm : Int × Int × Int}

theorem relativeOffsetUm_written_eq_ok (haxes : Axes x y z) (haxes' : Axes x' y' z') :
    relativeOffsetUm (written universeId x y z) (written universeId x' y' z') = .ok offsetUm ↔
      (x.Measurable x' ∧ y.Measurable y' ∧ z.Measurable z')
        ∧ place x' y' z' = place x y z + offsetUm := by
  obtain ⟨dx, dy, dz⟩ := offsetUm
  obtain ⟨hx, hy, hz⟩ := haxes
  obtain ⟨hx', hy', hz'⟩ := haxes'
  simp only [relativeOffsetUm_written ⟨hx, hy, hz⟩ ⟨hx', hy', hz'⟩, bind_eq_ok, pure_eq_ok,
    Axis.measured_eq_ok hx hx', Axis.measured_eq_ok hy hy', Axis.measured_eq_ok hz hz',
    place, Prod.mk_add_mk, Prod.mk.injEq]
  constructor
  · rintro ⟨_, ⟨hmx, rfl⟩, _, ⟨hmy, rfl⟩, _, ⟨hmz, rfl⟩, rfl, rfl, rfl⟩
    exact ⟨⟨hmx, hmy, hmz⟩, by omega, by omega, by omega⟩
  · rintro ⟨⟨hmx, hmy, hmz⟩, hdx, hdy, hdz⟩
    exact ⟨_, ⟨hmx, rfl⟩, _, ⟨hmy, rfl⟩, _, ⟨hmz, rfl⟩, by omega, by omega, by omega⟩

theorem relativeOffsetUm_onlyOverflows (haxes : Axes x y z) (haxes' : Axes x' y' z') :
    OnlyOverflows (relativeOffsetUm (written universeId x y z) (written universeId x' y' z')) := by
  rw [relativeOffsetUm_written haxes haxes']
  exact .bind (Axis.measured_onlyOverflows haxes.1 haxes'.1) fun _ _ =>
    .bind (Axis.measured_onlyOverflows haxes.2.1 haxes'.2.1) fun _ _ =>
      .bind (Axis.measured_onlyOverflows haxes.2.2 haxes'.2.2) fun _ _ => .pure _

/-- Measuring finds the offset between two places, or they are too far apart. -/
theorem relativeOffsetUm_exact (haxes : Axes x y z) (haxes' : Axes x' y' z')
    (hplace : place x' y' z' = place x y z + offsetUm) :
    ExactWithin offsetUm
      (relativeOffsetUm (written universeId x y z) (written universeId x' y' z')) offsetUm := by
  by_cases hends : AtEnds offsetUm
  · have honly : OnlyOverflows
        (relativeOffsetUm (written universeId x y z) (written universeId x' y' z')) :=
      relativeOffsetUm_onlyOverflows haxes haxes'
    rcases honly.ok_or with ⟨found, hfound⟩ | herror
    · left
      obtain ⟨-, hother⟩ := (relativeOffsetUm_written_eq_ok haxes haxes').mp hfound
      rw [hfound, add_left_cancel (hother.symm.trans hplace)]
    · exact .inr ⟨hends, herror⟩
  · left
    refine (relativeOffsetUm_written_eq_ok haxes haxes').mpr ⟨?_, hplace⟩
    obtain ⟨dx, dy, dz⟩ := offsetUm
    simp only [AtEnds, not_or] at hends
    simp only [place, Prod.mk_add_mk, Prod.mk.injEq] at hplace
    obtain ⟨hdx, hdy, hdz⟩ := hplace
    refine ⟨Axis.measurable_of_not_atEnd haxes.1 haxes'.1 ?_,
      Axis.measurable_of_not_atEnd haxes.2.1 haxes'.2.1 ?_,
      Axis.measurable_of_not_atEnd haxes.2.2 haxes'.2.2 ?_⟩
    · rw [hdx, add_sub_cancel_left]
      exact hends.1
    · rw [hdy, add_sub_cancel_left]
      exact hends.2.1
    · rw [hdz, add_sub_cancel_left]
      exact hends.2.2

theorem addressFromOriginOffsetUm_onlyOverflows (haxes : Axes x y z) :
    OnlyOverflows (addressFromOriginOffsetUm (written universeId x y z) offsetUm) := by
  rw [addressFromOriginOffsetUm_written haxes]
  exact .bind Axis.moved_onlyOverflows fun _ _ => .bind Axis.moved_onlyOverflows fun _ _ =>
    .bind Axis.moved_onlyOverflows fun _ _ => .pure _

theorem addressFromOriginOffsetUm_eq_ok (haxes : Axes x y z)
    (h : addressFromOriginOffsetUm (written universeId x y z) offsetUm = .ok address) :
    ∃ x' y' z', Axes x' y' z' ∧ address = written universeId x' y' z' ∧ place x' y' z' = place x y z + offsetUm := by
  obtain ⟨dx, dy, dz⟩ := offsetUm
  simp only [addressFromOriginOffsetUm_written haxes, bind_eq_ok, pure_eq_ok,
    Axis.moved_eq_ok haxes.1, Axis.moved_eq_ok haxes.2.1, Axis.moved_eq_ok haxes.2.2] at h
  obtain ⟨x', ⟨-, -, hx', hpx⟩, y', ⟨-, -, hy', hpy⟩, z', ⟨-, -, hz', hpz⟩, rfl⟩ := h
  refine ⟨x', y', z', ⟨hx', hy', hz'⟩, rfl, ?_⟩
  simp only [place, hpx, hpy, hpz, Prod.mk_add_mk]

theorem Axis.moved_of_not_atEnd {a : Axis} {offsetUm : Int} (ha : a.Canonical)
    (hr : r.Canonical) (hposition : r.position = a.position + offsetUm)
    (h : ¬ Axis.AtEnd offsetUm) : a.moved offsetUm = .ok r := by
  have hlocal := ha.localUm
  refine (Axis.moved_eq_ok ha).mpr ⟨?_, ?_, hr, hposition⟩
  all_goals
    simp only [Axis.AtEnd, sectorEdgeUm, halfCellUm, cellEdgeUm, fitsSigned128] at *
    omega

/-- Moving finds the address at an offset, or it is too far away. -/
theorem addressFromOriginOffsetUm_exact (haxes : Axes x y z) (haxes' : Axes x' y' z')
    (hplace : place x' y' z' = place x y z + offsetUm) :
    ExactWithin offsetUm (addressFromOriginOffsetUm (written universeId x y z) offsetUm)
      (written universeId x' y' z') := by
  by_cases hends : AtEnds offsetUm
  · have honly : OnlyOverflows (addressFromOriginOffsetUm (written universeId x y z) offsetUm) :=
      addressFromOriginOffsetUm_onlyOverflows haxes
    rcases honly.ok_or with ⟨found, hfound⟩ | herror
    · left
      obtain ⟨x'', y'', z'', haxes'', rfl, hother⟩ := addressFromOriginOffsetUm_eq_ok haxes hfound
      have hsame := hother.trans hplace.symm
      simp only [place, Prod.mk.injEq] at hsame
      rw [hfound, haxes''.1.eq_of_position haxes'.1 hsame.1,
        haxes''.2.1.eq_of_position haxes'.2.1 hsame.2.1,
        haxes''.2.2.eq_of_position haxes'.2.2 hsame.2.2]
    · exact .inr ⟨hends, herror⟩
  · left
    obtain ⟨dx, dy, dz⟩ := offsetUm
    simp only [AtEnds, not_or] at hends
    simp only [place, Prod.mk_add_mk, Prod.mk.injEq] at hplace
    rw [addressFromOriginOffsetUm_written haxes,
      Axis.moved_of_not_atEnd haxes.1 haxes'.1 hplace.1 hends.1,
      Axis.moved_of_not_atEnd haxes.2.1 haxes'.2.1 hplace.2.1 hends.2.1,
      Axis.moved_of_not_atEnd haxes.2.2 haxes'.2.2 hplace.2.2 hends.2.2]
    rfl

end Written

/-! ## Neighbours -/

/-- Two computations with the same values that only fail by overflow are the same. -/
theorem OnlyOverflows.ext {α : Type} {p q : Located α} (hp : OnlyOverflows p)
    (hq : OnlyOverflows q) (h : ∀ a, p = .ok a ↔ q = .ok a) : p = q := by
  rcases hp.ok_or with ⟨a, ha⟩ | herror
  · rw [ha, (h a).mp ha]
  · rcases hq.ok_or with ⟨a, ha⟩ | herror'
    · exact absurd ((h a).mpr ha) (by simp [herror])
    · rw [herror, herror']

/-- The offset of so many cells. -/
def cellsUm (delta : Int × Int × Int) : Int × Int × Int :=
  (delta.1 * cellEdgeUm, delta.2.1 * cellEdgeUm, delta.2.2 * cellEdgeUm)

/-- A step along one axis: an `i32` counts the cells. -/
def Steps (delta : Int) : Prop := -2 ^ 31 ≤ delta ∧ delta ≤ 2 ^ 31

namespace Axis

variable {a r : Axis} {delta : Int}

theorem neighborAxis_eq_ok (ha : a.Canonical) (hmiddle : a.localUm = 0) (hdelta : Steps delta)
    {found} :
    neighborAxis (toString a.sector) a.cell delta = .ok found ↔
      ∃ r : Axis, r.Canonical ∧ r.localUm = 0
        ∧ r.position = a.position + delta * cellEdgeUm ∧ (r.sector, r.cell) = found := by
  have hhalf : FitsSigned 128 (0 + halfCellUm) := by decide
  have hcarry : carry cellEdgeUm halfCellUm 0 = 0 := by decide
  have hcell := ha.cell
  simp only [neighborAxis, parseI128_toString ha.sector, bind_eq_ok, demand_eq_ok,
    checkedI128_eq_ok, rejectIf_eq_ok, pure_eq_ok, Option.some.injEq, exists_eq_left',
    Prod.exists, ne_eq, not_not]
  constructor
  · rintro ⟨_, ⟨-, rfl⟩, sector, cell, localUm, hnormal, -, rfl, rfl⟩
    obtain ⟨-, -, hcanonical, hposition⟩ :=
      (normalizeAxis_eq_ok (r := ⟨sector, cell, 0⟩)).mp hnormal
    refine ⟨⟨sector, cell, 0⟩, hcanonical, rfl, ?_, rfl⟩
    rw [hposition]
    simp only [position, hmiddle, cellEdgeUm]
    omega
  · rintro ⟨⟨sector, cell, localUm⟩, hcanonical, rfl, hposition, rfl⟩
    have hrequested : FitsSigned 128 ((a.cell : Int) + delta) := by
      simp only [Steps, cellsPerSectorAxis, fitsSigned128] at *
      omega
    refine ⟨_, ⟨hrequested, rfl⟩, sector, cell, 0, ?_, (), rfl, rfl⟩
    refine (normalizeAxis_eq_ok (r := ⟨sector, cell, 0⟩)).mpr ⟨hhalf, ?_, hcanonical, ?_⟩
    · rwa [hcarry, add_zero]
    · rw [hposition]
      simp only [position, hmiddle, cellEdgeUm]
      omega

theorem neighborAxis_onlyOverflows :
    OnlyOverflows (neighborAxis (toString a.sector) a.cell delta) := by
  have hzero : ∀ {sector cell : Int} {found : Int × Nat × Int},
      normalizeAxis sector cell 0 = .ok found → found.2.2 = 0 := by
    intro sector cell found h
    obtain ⟨sector', cell', localUm'⟩ := found
    obtain ⟨-, -, ⟨-, hcell, hlocal⟩, hposition⟩ :=
      (normalizeAxis_eq_ok (r := ⟨sector', cell', localUm'⟩)).mp h
    simp only [position, sectorEdgeUm, cellEdgeUm, halfCellUm] at hlocal hposition ⊢
    omega
  unfold neighborAxis
  refine .bind (.demand _) fun _ _ => .bind (.checked _) fun _ _ =>
    .bind (normalizeAxis_onlyOverflows _ _ _) fun found hfound => ?_
  have hmiddle := hzero hfound
  simp only [hmiddle]
  exact .pure _

end Axis

section Keys

variable {universeId : String} {x y z x' y' z' : Axis} {delta : Int × Int × Int}
  {key key' : CellKeyV1}

/-- The key three axes are written as. -/
def writtenKey (universeId : String) (x y z : Axis) : CellKeyV1 where
  schemaVersion := cellKeySchemaVersion
  universeId := universeId
  sectorX := toString x.sector
  sectorY := toString y.sector
  sectorZ := toString z.sector
  cellX := x.cell
  cellY := y.cell
  cellZ := z.cell

/-- The axes of a cell: canonical, and in the middle of it. -/
structure Cell (x y z : Axis) : Prop where
  canonical : Axes x y z
  middle : x.localUm = 0 ∧ y.localUm = 0 ∧ z.localUm = 0

theorem validateCellKey_eq_ok :
    validateCellKey key = .ok () ↔
      ∃ x y z : Axis, Cell x y z ∧ key = writtenKey key.universeId x y z := by
  simp only [validateCellKey, bind_eq_ok, rejectIf_eq_ok, ne_eq, not_not,
    validateUniverseAddress_eq_ok]
  constructor
  · rintro ⟨-, hschema, x, y, z, haxes, hwritten⟩
    simp only [cellAddressFromParts, written, UniverseAddress.mk.injEq, Prod.mk.injEq,
      true_and] at hwritten
    obtain ⟨hsx, hsy, hsz, hcx, hcy, hcz, hlx, hly, hlz⟩ := hwritten
    refine ⟨x, y, z, ⟨haxes, hlx.symm, hly.symm, hlz.symm⟩, ?_⟩
    cases key
    simp only [writtenKey] at *
    simp only [hschema, hsx, hsy, hsz, hcx, hcy, hcz]
  · rintro ⟨x, y, z, ⟨haxes, hlx, hly, hlz⟩, hwritten⟩
    rw [hwritten]
    refine ⟨(), rfl, x, y, z, haxes, ?_⟩
    simp only [cellAddressFromParts, writtenKey, written, hlx, hly, hlz]

theorem cellAddressFromParts_writtenKey (h : Cell x y z) :
    cellAddressFromParts (writtenKey universeId x y z) = written universeId x y z := by
  obtain ⟨-, hlx, hly, hlz⟩ := h
  simp only [cellAddressFromParts, writtenKey, written, hlx, hly, hlz]

theorem validateCellKey_writtenKey (h : Cell x y z) :
    validateCellKey (writtenKey universeId x y z) = .ok () :=
  validateCellKey_eq_ok.mpr ⟨x, y, z, h, rfl⟩

theorem neighborCellKey_eq_ok (h : Cell x y z)
    (hdelta : Steps delta.1 ∧ Steps delta.2.1 ∧ Steps delta.2.2) :
    neighborCellKey (writtenKey universeId x y z) delta = .ok key' ↔
      ∃ x' y' z' : Axis, Cell x' y' z' ∧ place x' y' z' = place x y z + cellsUm delta
        ∧ writtenKey universeId x' y' z' = key' := by
  obtain ⟨⟨hx, hy, hz⟩, hlx, hly, hlz⟩ := h
  obtain ⟨hdx, hdy, hdz⟩ := hdelta
  have hvalid : validateCellKey (writtenKey universeId x y z) = .ok () :=
    validateCellKey_writtenKey ⟨⟨hx, hy, hz⟩, hlx, hly, hlz⟩
  simp only [neighborCellKey, bind_eq_ok, pure_eq_ok, writtenKey,
    Axis.neighborAxis_eq_ok hx hlx hdx, Axis.neighborAxis_eq_ok hy hly hdy,
    Axis.neighborAxis_eq_ok hz hlz hdz, place, cellsUm, Prod.mk_add_mk, Prod.mk.injEq]
  constructor
  · rintro ⟨-, -, _, ⟨x', hx', hlx', hpx, rfl⟩, _, ⟨y', hy', hly', hpy, rfl⟩, _,
      ⟨z', hz', hlz', hpz, rfl⟩, rfl⟩
    exact ⟨x', y', z', ⟨⟨hx', hy', hz'⟩, hlx', hly', hlz'⟩, ⟨hpx, hpy, hpz⟩, rfl⟩
  · rintro ⟨x', y', z', ⟨⟨hx', hy', hz'⟩, hlx', hly', hlz'⟩, ⟨hpx, hpy, hpz⟩, rfl⟩
    exact ⟨(), hvalid, _, ⟨x', hx', hlx', hpx, rfl⟩, _, ⟨y', hy', hly', hpy, rfl⟩, _,
      ⟨z', hz', hlz', hpz, rfl⟩, rfl⟩

theorem neighborCellKey_onlyOverflows (h : Cell x y z) :
    OnlyOverflows (neighborCellKey (writtenKey universeId x y z) delta) := by
  unfold neighborCellKey
  rw [validateCellKey_writtenKey h]
  exact .bind (.pure ()) fun _ _ => .bind Axis.neighborAxis_onlyOverflows fun _ _ =>
    .bind Axis.neighborAxis_onlyOverflows fun _ _ =>
      .bind Axis.neighborAxis_onlyOverflows fun _ _ => .pure _

theorem cellKeyFromAddress_written (haxes : Axes x y z) :
    cellKeyFromAddress (written universeId x y z) = .ok (writtenKey universeId x y z) := by
  have hvalid : validateUniverseAddress (written universeId x y z) universeId = .ok () :=
    canonical_written haxes
  unfold cellKeyFromAddress
  rw [show (written universeId x y z).universeId = universeId from rfl, hvalid]
  rfl

theorem cellsUm_not_atEnds (hdelta : Steps delta.1 ∧ Steps delta.2.1 ∧ Steps delta.2.2) :
    ¬ AtEnds (cellsUm delta) := by
  simp only [Steps, AtEnds, Axis.AtEnd, cellsUm, cellEdgeUm, sectorEdgeUm] at *
  omega

theorem neighborCellKey_eq (hdelta : Steps delta.1 ∧ Steps delta.2.1 ∧ Steps delta.2.2) :
    neighborCellKey key delta = (do
      let address ← cellAddressFromKey key
      let address ← addressFromOriginOffsetUm address (cellsUm delta)
      cellKeyFromAddress address) := by
  cases hkey : validateCellKey key with
  | error e =>
    simp only [neighborCellKey, cellAddressFromKey, hkey]
    rfl
  | ok u =>
    obtain ⟨x, y, z, hcell, hwritten⟩ := validateCellKey_eq_ok.mp hkey
    rw [hwritten]
    generalize key.universeId = universeId
    have haddress : cellAddressFromKey (writtenKey universeId x y z)
        = .ok (written universeId x y z) := by
      unfold cellAddressFromKey
      rw [validateCellKey_writtenKey hcell, cellAddressFromParts_writtenKey hcell]
      rfl
    rw [haddress]
    show _ = addressFromOriginOffsetUm (written universeId x y z) (cellsUm delta)
      >>= cellKeyFromAddress
    have hkeys : ∀ address, addressFromOriginOffsetUm (written universeId x y z) (cellsUm delta)
        = .ok address → ∃ x' y' z' : Axis, Cell x' y' z'
          ∧ place x' y' z' = place x y z + cellsUm delta ∧ address = written universeId x' y' z' := by
      intro address haddress
      obtain ⟨x', y', z', ⟨hx', hy', hz'⟩, rfl, hplace⟩ :=
        addressFromOriginOffsetUm_eq_ok hcell.canonical haddress
      refine ⟨x', y', z', ⟨⟨hx', hy', hz'⟩, ?_⟩, hplace, rfl⟩
      -- Whole cells lead from middle to middle.
      obtain ⟨hlx, hly, hlz⟩ := hcell.middle
      obtain ⟨-, -, hlx'⟩ := hx'
      obtain ⟨-, -, hly'⟩ := hy'
      obtain ⟨-, -, hlz'⟩ := hz'
      simp only [place, cellsUm, Prod.mk_add_mk, Prod.mk.injEq, Axis.position, sectorEdgeUm,
        cellEdgeUm, halfCellUm] at *
      omega
    refine OnlyOverflows.ext (neighborCellKey_onlyOverflows hcell) ?_ fun found => ?_
    · refine .bind (addressFromOriginOffsetUm_onlyOverflows hcell.canonical)
        fun address haddress => ?_
      obtain ⟨x', y', z', hcell', -, rfl⟩ := hkeys address haddress
      rw [cellKeyFromAddress_written hcell'.canonical]
      exact .pure _
    · rw [neighborCellKey_eq_ok hcell hdelta, bind_eq_ok]
      constructor
      · rintro ⟨x', y', z', hcell', hplace, rfl⟩
        refine ⟨written universeId x' y' z', ?_, cellKeyFromAddress_written hcell'.canonical⟩
        exact (addressFromOriginOffsetUm_exact hcell.canonical hcell'.canonical
          hplace).resolve_right fun hends => cellsUm_not_atEnds hdelta hends.1
      · rintro ⟨address, haddress, hfound⟩
        obtain ⟨x', y', z', hcell', hplace, rfl⟩ := hkeys address haddress
        rw [cellKeyFromAddress_written hcell'.canonical] at hfound
        exact ⟨x', y', z', hcell', hplace, Except.ok.inj hfound⟩

/-- The step back. -/
def back (delta : Int × Int × Int) : Int × Int × Int := (-delta.1, -delta.2.1, -delta.2.2)

/-- A step and the step back lead to the cell they began at. -/
theorem neighborCellKey_back (hdelta : Steps delta.1 ∧ Steps delta.2.1 ∧ Steps delta.2.2)
    (h : neighborCellKey key delta = .ok key') : neighborCellKey key' (back delta) = .ok key := by
  have hkey : validateCellKey key = .ok () := by
    simp only [neighborCellKey, bind_eq_ok] at h
    exact h.choose_spec.1
  obtain ⟨x, y, z, hcell, hwritten⟩ := validateCellKey_eq_ok.mp hkey
  rw [hwritten] at h ⊢
  obtain ⟨x', y', z', hcell', hplace, rfl⟩ := (neighborCellKey_eq_ok hcell hdelta).mp h
  have hback : Steps (back delta).1 ∧ Steps (back delta).2.1 ∧ Steps (back delta).2.2 := by
    simp only [Steps, back] at *
    omega
  refine (neighborCellKey_eq_ok hcell' hback).mpr ⟨x, y, z, hcell, ?_, rfl⟩
  simp only [place, cellsUm, back, cellEdgeUm, Prod.mk_add_mk, Prod.mk.injEq] at hplace ⊢
  omega

end Keys

/-! ## All of it -/

section Offsets

variable {origin address other : UniverseAddress} {offsetUm furtherUm : Int × Int × Int}

/-- What is added is what is measured. -/
theorem relativeOffsetUm_of_address (horigin : Canonical origin)
    (h : addressFromOriginOffsetUm origin offsetUm = .ok address) :
    Canonical address ∧ address.universeId = origin.universeId
      ∧ ExactWithin offsetUm (relativeOffsetUm origin address) offsetUm := by
  obtain ⟨x, y, z, haxes, hwritten⟩ := horigin.axes
  rw [hwritten] at h ⊢
  obtain ⟨x', y', z', haxes', rfl, hplace⟩ := addressFromOriginOffsetUm_eq_ok haxes h
  exact ⟨canonical_written haxes', rfl, relativeOffsetUm_exact haxes haxes' hplace⟩

theorem axes_of_relativeOffsetUm (h : relativeOffsetUm origin address = .ok offsetUm) :
    ∃ x y z x' y' z', Axes x y z ∧ Axes x' y' z'
      ∧ origin = written origin.universeId x y z ∧ address = written origin.universeId x' y' z'
      ∧ place x' y' z' = place x y z + offsetUm := by
  have hvalid : validateUniverseAddress origin origin.universeId = .ok ()
      ∧ validateUniverseAddress address origin.universeId = .ok () := by
    simp only [relativeOffsetUm, bind_eq_ok] at h
    obtain ⟨⟨⟩, horigin, ⟨⟩, haddress, -⟩ := h
    exact ⟨horigin, haddress⟩
  obtain ⟨x, y, z, haxes, hwritten⟩ := validateUniverseAddress_eq_ok.mp hvalid.1
  obtain ⟨x', y', z', haxes', hwritten'⟩ := validateUniverseAddress_eq_ok.mp hvalid.2
  generalize origin.universeId = universeId at hwritten hwritten' ⊢
  subst hwritten hwritten'
  obtain ⟨-, hplace⟩ := (relativeOffsetUm_written_eq_ok haxes haxes').mp h
  exact ⟨x, y, z, x', y', z', haxes, haxes', rfl, rfl, hplace⟩

/-- What is measured leads back to the address. -/
theorem address_of_relativeOffsetUm (h : relativeOffsetUm origin address = .ok offsetUm) :
    ExactWithin offsetUm (addressFromOriginOffsetUm origin offsetUm) address := by
  obtain ⟨x, y, z, x', y', z', haxes, haxes', hwritten, hwritten', hplace⟩ :=
    axes_of_relativeOffsetUm h
  rw [hwritten, hwritten']
  exact addressFromOriginOffsetUm_exact haxes haxes' hplace

theorem relativeOffsetUm_eq_zero (horigin : Canonical origin) :
    relativeOffsetUm origin address = .ok (0, 0, 0) ↔ origin = address := by
  constructor
  · intro h
    obtain ⟨x, y, z, x', y', z', haxes, haxes', hwritten, hwritten', hplace⟩ :=
      axes_of_relativeOffsetUm h
    simp only [place, Prod.mk_add_mk, add_zero, Prod.mk.injEq] at hplace
    rw [hwritten, hwritten', haxes'.1.eq_of_position haxes.1 hplace.1,
      haxes'.2.1.eq_of_position haxes.2.1 hplace.2.1,
      haxes'.2.2.eq_of_position haxes.2.2 hplace.2.2]
  · rintro rfl
    obtain ⟨x, y, z, haxes, hwritten⟩ := horigin.axes
    rw [hwritten]
    have hnothing : place x y z = place x y z + (0, 0, 0) := by
      simp only [place, Prod.mk_add_mk, add_zero]
    refine (relativeOffsetUm_exact haxes haxes hnothing).resolve_right fun hends => ?_
    have hfar := hends.1
    simp only [AtEnds, Axis.AtEnd, sectorEdgeUm] at hfar
    omega

theorem relativeOffsetUm_trans (h : relativeOffsetUm origin address = .ok offsetUm)
    (hfurther : relativeOffsetUm address other = .ok furtherUm) :
    ExactWithin (offsetUm + furtherUm) (relativeOffsetUm origin other) (offsetUm + furtherUm) := by
  obtain ⟨x, y, z, x', y', z', haxes, -, hwritten, hwritten', hplace⟩ :=
    axes_of_relativeOffsetUm h
  obtain ⟨u, v, t, u', v', t', -, hfar, hagain, hother, hplace'⟩ :=
    axes_of_relativeOffsetUm hfurther
  have huniverse : address.universeId = origin.universeId := by rw [hwritten']; rfl
  rw [huniverse] at hagain hother
  obtain ⟨rfl, rfl, rfl⟩ := written_injective (hwritten'.symm.trans hagain)
  rw [hwritten, hother]
  refine relativeOffsetUm_exact haxes hfar ?_
  rw [hplace', hplace, add_assoc]

theorem addressFromOriginOffsetUm_trans (horigin : Canonical origin)
    (h : addressFromOriginOffsetUm origin offsetUm = .ok address)
    (hfurther : addressFromOriginOffsetUm address furtherUm = .ok other) :
    ExactWithin (offsetUm + furtherUm)
      (addressFromOriginOffsetUm origin (offsetUm + furtherUm)) other := by
  obtain ⟨x, y, z, haxes, hwritten⟩ := horigin.axes
  rw [hwritten] at h ⊢
  obtain ⟨x', y', z', haxes', rfl, hplace⟩ := addressFromOriginOffsetUm_eq_ok haxes h
  obtain ⟨u, v, t, hfar, rfl, hplace'⟩ := addressFromOriginOffsetUm_eq_ok haxes' hfurther
  refine addressFromOriginOffsetUm_exact haxes hfar ?_
  rw [hplace', hplace, add_assoc]

theorem onlyOverflows_of_canonical (horigin : Canonical origin) :
    OnlyOverflows (addressFromOriginOffsetUm origin offsetUm)
      ∧ (Canonical address → address.universeId = origin.universeId →
          OnlyOverflows (relativeOffsetUm origin address)) := by
  obtain ⟨x, y, z, haxes, hwritten⟩ := horigin.axes
  constructor
  · rw [hwritten]
    exact addressFromOriginOffsetUm_onlyOverflows haxes
  · intro haddress huniverse
    obtain ⟨x', y', z', haxes', hwritten'⟩ := haddress.axes
    rw [hwritten, hwritten', huniverse]
    exact relativeOffsetUm_onlyOverflows haxes haxes'

theorem onlyOverflows_of_validateCellKey {key : CellKeyV1} {delta}
    (h : validateCellKey key = .ok ()) : OnlyOverflows (neighborCellKey key delta) := by
  obtain ⟨x, y, z, hcell, hwritten⟩ := validateCellKey_eq_ok.mp h
  rw [hwritten]
  exact neighborCellKey_onlyOverflows hcell

end Offsets

/-- Addresses are exact. From a canonical origin an address at an offset is canonical, and the
    offset back is the one that was added; an offset between two addresses leads from the one to
    the other; it is zero for equal addresses only; offsets and steps compose; a neighbour is the
    cell so many cells away, and the step back leads home. Nothing but an overflow goes wrong with
    canonical addresses, and where an exact result is due only offsets within a sector of the ends
    of 128 bits are refused. -/
theorem address_arithmetic :
    (∀ origin offsetUm address, Canonical origin →
        addressFromOriginOffsetUm origin offsetUm = .ok address →
          Canonical address ∧ address.universeId = origin.universeId
            ∧ ExactWithin offsetUm (relativeOffsetUm origin address) offsetUm)
      ∧ (∀ origin address offsetUm, relativeOffsetUm origin address = .ok offsetUm →
        ExactWithin offsetUm (addressFromOriginOffsetUm origin offsetUm) address)
      ∧ (∀ origin address, Canonical origin →
        (relativeOffsetUm origin address = .ok (0, 0, 0) ↔ origin = address))
      ∧ (∀ origin address other offsetUm furtherUm,
        relativeOffsetUm origin address = .ok offsetUm →
        relativeOffsetUm address other = .ok furtherUm →
          ExactWithin (offsetUm + furtherUm) (relativeOffsetUm origin other) (offsetUm + furtherUm))
      ∧ (∀ origin address other offsetUm furtherUm, Canonical origin →
        addressFromOriginOffsetUm origin offsetUm = .ok address →
        addressFromOriginOffsetUm address furtherUm = .ok other →
          ExactWithin (offsetUm + furtherUm)
            (addressFromOriginOffsetUm origin (offsetUm + furtherUm)) other)
      ∧ (∀ key delta, Steps delta.1 ∧ Steps delta.2.1 ∧ Steps delta.2.2 →
        neighborCellKey key delta = (do
          let address ← cellAddressFromKey key
          let address ← addressFromOriginOffsetUm address (cellsUm delta)
          cellKeyFromAddress address)
        ∧ (∀ key', neighborCellKey key delta = .ok key' →
          neighborCellKey key' (back delta) = .ok key)
        ∧ (validateCellKey key = .ok () → OnlyOverflows (neighborCellKey key delta)))
      ∧ ∀ origin address offsetUm, Canonical origin →
        OnlyOverflows (addressFromOriginOffsetUm origin offsetUm)
          ∧ (Canonical address → address.universeId = origin.universeId →
              OnlyOverflows (relativeOffsetUm origin address)) :=
  ⟨fun _ _ _ horigin h => relativeOffsetUm_of_address horigin h,
    fun _ _ _ h => address_of_relativeOffsetUm h,
    fun _ _ horigin => relativeOffsetUm_eq_zero horigin,
    fun _ _ _ _ _ h hfurther => relativeOffsetUm_trans h hfurther,
    fun _ _ _ _ _ horigin h hfurther => addressFromOriginOffsetUm_trans horigin h hfurther,
    fun _ _ hdelta => ⟨neighborCellKey_eq hdelta, fun _ h => neighborCellKey_back hdelta h,
      onlyOverflows_of_validateCellKey⟩,
    fun _ _ _ horigin => onlyOverflows_of_canonical horigin⟩

/-- Half a cell and a micrometre below the middle of a cell is the top of the cell below. -/
theorem address_arithmetic_below :
    Canonical (written "the-verse-local" ⟨-1, 999, 9999999999⟩ ⟨0, 500, 0⟩ ⟨0, 500, 0⟩)
      ∧ ExactWithin (-10000000001, 0, 0)
        (relativeOffsetUm (written "the-verse-local" ⟨0, 0, 0⟩ ⟨0, 500, 0⟩ ⟨0, 500, 0⟩)
          (written "the-verse-local" ⟨-1, 999, 9999999999⟩ ⟨0, 500, 0⟩ ⟨0, 500, 0⟩))
        (-10000000001, 0, 0)
      ∧ neighborCellKey (writtenKey "the-verse-local" ⟨-1, 999, 0⟩ ⟨0, 500, 0⟩ ⟨0, 500, 0⟩) (1, 0, 0)
        = .ok (writtenKey "the-verse-local" ⟨0, 0, 0⟩ ⟨0, 500, 0⟩ ⟨0, 500, 0⟩) := by
  obtain ⟨hadded, -, -, -, -, hneighbor, -⟩ := address_arithmetic
  have hbelow : addressFromOriginOffsetUm
      (written "the-verse-local" ⟨0, 0, 0⟩ ⟨0, 500, 0⟩ ⟨0, 500, 0⟩) (-10000000001, 0, 0)
        = .ok (written "the-verse-local" ⟨-1, 999, 9999999999⟩ ⟨0, 500, 0⟩ ⟨0, 500, 0⟩) := by
    decide +kernel
  obtain ⟨hcanonical, -, hexact⟩ := hadded _ _ _ (by decide +kernel) hbelow
  have hsteps : Steps (-1) ∧ Steps 0 ∧ Steps 0 := by
    unfold Steps
    omega
  obtain ⟨-, hback, -⟩ := hneighbor
    (writtenKey "the-verse-local" ⟨0, 0, 0⟩ ⟨0, 500, 0⟩ ⟨0, 500, 0⟩) (-1, 0, 0) hsteps
  exact ⟨hcanonical, hexact, hback _ (by decide +kernel)⟩

/-! An address in the last cell of its sector, and the largest offset that can be added to it: the
sectors between the two addresses alone are more micrometres than fit in 128 bits. -/

def lastCell : UniverseAddress := written "the-verse-local" ⟨0, 999, 0⟩ ⟨0, 500, 0⟩ ⟨0, 500, 0⟩

/-- The largest `i128`, less half a cell. -/
def largestUm : Int := 2 ^ 127 - 1 - halfCellUm

/-- The address lies at the offset that was added, and the way back overflows. -/
theorem not_relativeOffsetUm_exact : ∃ address, Canonical lastCell
    ∧ addressFromOriginOffsetUm lastCell (largestUm, 0, 0) = .ok address
    ∧ Canonical address
    ∧ relativeOffsetUm lastCell address = .error .addressOverflow := by
  refine ⟨written "the-verse-local" ⟨8507059173023461586584366, 184, 5884105727⟩ ⟨0, 500, 0⟩
    ⟨0, 500, 0⟩, ?_⟩
  decide +kernel

end Verse.Celestial
