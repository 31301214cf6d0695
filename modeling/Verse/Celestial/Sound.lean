import Verse.Celestial.Exact
import Verse.Celestial.Registry
import Verse.Lib.Distance

/-!
# An accepted registry is sound

What the check of a registry establishes, in the universe the registry describes: whose parent
is whose (`ParentIn`) leads nowhere twice, an asteroid lies in its field, and bodies keep their
distance. The distances are the distances between points of space (`Lib.point`), so an early
return that looks at one axis has to agree with them.

The check itself is safe to run on anything. The walk to the parents visits no body twice, so
it is over after as many turns as there are bodies and one more; and with fields of the widths
the source gives them, nothing that it adds or multiplies without a check leaves its type.
-/

namespace Verse.Celestial

open Lib

variable {content : CelestialContent} {definition : RegistryDefinition}
  {bodies : List CelestialBodySnapshot} {body parent field left right : CelestialBodySnapshot}
  {id : String}

/-! ## The bodies by identity -/

theorem pairwise_of_neighbors {l : List CelestialBodySnapshot}
    (h : ∀ pair ∈ l.zip l.tail, pair.1.bodyId < pair.2.bodyId) :
    l.Pairwise fun a b => a.bodyId < b.bodyId := by
  induction l with
  | nil => exact .nil
  | cons a rest ih =>
    cases rest with
    | nil => exact List.pairwise_singleton _ a
    | cons b rest =>
      have hrest := ih fun pair hpair => h pair (List.mem_cons_of_mem _ hpair)
      have hab : a.bodyId < b.bodyId := h (a, b) List.mem_cons_self
      refine List.pairwise_cons.mpr ⟨fun c hc => ?_, hrest⟩
      rcases List.mem_cons.mp hc with rfl | hc
      · exact hab
      · exact hab.trans ((List.pairwise_cons.mp hrest).1 c hc)

theorem of_bodiesById (h : (bodiesById bodies).get? id = some body) :
    body ∈ bodies ∧ body.bodyId = id := by
  have hmem := OrdMap.of_get?_foldl_insert h
  rcases hmem with hmem | hempty
  · obtain ⟨other, hother, heq⟩ := List.mem_map.mp hmem
    obtain ⟨rfl, rfl⟩ := Prod.mk.inj heq
    exact ⟨hother, rfl⟩
  · cases hempty

theorem bodiesById_get? (hordered : bodies.Pairwise fun a b => a.bodyId < b.bodyId)
    (hbody : body ∈ bodies) : (bodiesById bodies).get? body.bodyId = some body := by
  refine (OrdMap.get?_ofList ?_).mpr (List.mem_map.mpr ⟨body, hbody, rfl⟩)
  intro p hp q hq heq
  obtain ⟨a, ha, rfl⟩ := List.mem_map.mp hp
  obtain ⟨b, hb, rfl⟩ := List.mem_map.mp hq
  by_contra hne
  have : Std.Symm fun a b : CelestialBodySnapshot => a.bodyId ≠ b.bodyId :=
    ⟨fun a b h => h.symm⟩
  have hdistinct : bodies.Pairwise fun a b => a.bodyId ≠ b.bodyId := hordered.imp fun h => h.ne
  exact hdistinct.forall ha hb hne heq

/-! ## What was checked -/

/-- The registry was checked body by body and pair by pair. -/
structure Registered (content : CelestialContent) (definition : RegistryDefinition)
    (bodies : List CelestialBodySnapshot) : Prop where
  ordered : bodies.Pairwise fun a b => a.bodyId < b.bodyId
  body : ∀ body ∈ bodies, validateBody content definition body (bodiesById bodies) = .ok ()
  asteroid : ∀ body ∈ bodies, validateAsteroid (bodiesById bodies) body = .ok ()
  separation : bodies.Pairwise fun left right => isAsteroidFieldPair left right = false →
    validateSeparation left right definition.minimumFixedBodySurfaceGapUm = .ok ()

theorem registered_of_ok (h : validateRegistry content definition bodies = .ok ()) :
    Registered content definition bodies := by
  simp only [validateRegistry, bind_eq_ok, rejectIf_eq_ok, checkEach_eq_ok_iff_split,
    checkPairs_eq_ok, List.nil_append, not_exists, not_and, not_not] at h
  obtain ⟨⟨⟩, -, ⟨⟩, hneighbors, ⟨⟩, heach, hpairs⟩ := h
  have hbody : ∀ body ∈ bodies, validateBody content definition body (bodiesById bodies) = .ok ()
      ∧ validateAsteroid (bodiesById bodies) body = .ok () := by
    intro body hmem
    obtain ⟨before, after, hsplit⟩ := List.append_of_mem hmem
    have hcheck := heach before body after hsplit
    simp only [validateRegistered, bind_eq_ok] at hcheck
    obtain ⟨⟨⟩, hvalid, -, -, -, -, hasteroid⟩ := hcheck
    exact ⟨hvalid, hasteroid⟩
  refine ⟨pairwise_of_neighbors hneighbors, fun body hmem => (hbody body hmem).1,
    fun body hmem => (hbody body hmem).2, hpairs.imp fun {left right} hpair hfield => ?_⟩
  rw [hfield] at hpair
  exact hpair

/-! ## Parents -/

/-- A registered body and its registered parent. -/
def ParentIn (bodies : List CelestialBodySnapshot) (child parent : CelestialBodySnapshot) : Prop :=
  child ∈ bodies ∧ parent ∈ bodies ∧ child.parentBodyId = some parent.bodyId

/-- A moon has a planet for a parent, and nothing else has one. -/
def RequiredParent (bodies : List CelestialBodySnapshot) (body : CelestialBodySnapshot) : Prop :=
  match body.kind with
  | .moon => ∃ parent, ParentIn bodies body parent ∧ parent.kind = .planet
  | .planet | .asteroid | .asteroidField => body.parentBodyId = none

namespace Registered

variable (h : Registered content definition bodies)

include h

theorem requiredParent (hbody : body ∈ bodies) :
    RequiredParent bodies body := by
  have hkind : validateKind body (bodiesById bodies) = .ok () := by
    have hvalid := h.body body hbody
    simp only [validateBody, bind_eq_ok] at hvalid
    obtain ⟨-, -, -, -, -, -, -, -, ⟨⟩, hkind, -⟩ := hvalid
    exact hkind
  unfold validateKind at hkind
  unfold RequiredParent
  cases hk : body.kind with
  | moon =>
    simp only [hk, bind_eq_ok, demand_eq_ok, rejectIf_eq_ok, not_or, not_not] at hkind
    obtain ⟨id, hid, -, hplanet⟩ := hkind
    obtain ⟨parent, hparent, hparentKind⟩ := Option.map_eq_some_iff.mp hplanet
    obtain ⟨hmem, rfl⟩ := of_bodiesById hparent
    exact ⟨parent, ⟨hbody, hmem, hid⟩, hparentKind⟩
  | planet | asteroidField =>
    simp only [hk, rejectIf_eq_ok, not_or, Option.not_isSome_iff_eq_none] at hkind
    exact hkind.1
  | asteroid =>
    simpa only [hk, rejectIf_eq_ok, Option.not_isSome_iff_eq_none] using hkind

theorem eq_of_bodyId (hleft : left ∈ bodies)
    (hright : right ∈ bodies) (heq : left.bodyId = right.bodyId) : left = right := by
  have hfound := bodiesById_get? h.ordered hleft
  rw [heq, bodiesById_get? h.ordered hright] at hfound
  exact (Option.some.inj hfound).symm

theorem kinds_of_parentIn
    (hparent : ParentIn bodies body parent) : body.kind = .moon ∧ parent.kind = .planet := by
  obtain ⟨hbody, hmem, hid⟩ := hparent
  have hrequired := h.requiredParent hbody
  unfold RequiredParent at hrequired
  cases hk : body.kind with
  | moon =>
    simp only [hk] at hrequired
    obtain ⟨planet, ⟨-, hplanet, hid'⟩, hkind⟩ := hrequired
    have hsame := Option.mem_unique hid hid'
    obtain rfl := h.eq_of_bodyId hmem hplanet hsame
    exact ⟨rfl, hkind⟩
  | planet | asteroid | asteroidField =>
    simp only [hk] at hrequired
    rw [hrequired] at hid
    cases hid

theorem kinds_of_transGen (hup : Relation.TransGen (ParentIn bodies) body parent) :
    body.kind = .moon ∧ parent.kind = .planet := by
  induction hup with
  | single hparent => exact h.kinds_of_parentIn hparent
  | tail _ hparent ih =>
    -- A planet has no parent, so that there is no second step.
    have hmoon := (h.kinds_of_parentIn hparent).1
    rw [ih.2] at hmoon
    cases hmoon

/-- No body is its own ancestor. -/
theorem acyclic :
    ¬ Relation.TransGen (ParentIn bodies) body body := by
  intro hup
  obtain ⟨hmoon, hplanet⟩ := h.kinds_of_transGen hup
  rw [hmoon] at hplanet
  cases hplanet

omit h

end Registered

/-! ## Distances -/

/-- Where an address is, in micrometres. -/
def position (address : UniverseAddress) : Int × Int × Int :=
  let axis := fun (sector : String) (cell : Nat) (localUm : Int) =>
    (parseInt sector).getD 0 * sectorEdgeUm + cell * cellEdgeUm + localUm
  (axis address.sectorX address.cellX address.localUm.1,
    axis address.sectorY address.cellY address.localUm.2.1,
    axis address.sectorZ address.cellZ address.localUm.2.2)

/-- The distance between the centres of two bodies. -/
noncomputable def centerDistance (left right : CelestialBodySnapshot) : ℝ :=
  dist (point (position left.center)) (point (position right.center))

/-- The square of it. -/
def centerDistSq (left right : CelestialBodySnapshot) : Nat :=
  distSq (position left.center) (position right.center)

variable {sector : String} {cell : Nat} {localUm : Int}

theorem globalAxisUm_eq {exact : Int}
    (h : globalAxisUm sector cell localUm = .ok exact) :
    exact = (parseInt sector).getD 0 * sectorEdgeUm + cell * cellEdgeUm + localUm := by
  simp only [globalAxisUm, mulI128, bind_eq_ok, demand_eq_ok, checkedI128_eq_ok, plain_eq_ok] at h
  obtain ⟨n, hn, _, ⟨-, rfl⟩, _, ⟨-, rfl⟩, _, ⟨-, rfl⟩, -, rfl⟩ := h
  obtain ⟨m, hm, hfits⟩ := Option.bind_eq_some_iff.mp hn
  obtain ⟨-, rfl⟩ := checked_eq_some.mp hfits
  rw [hm, Option.getD_some]

variable {address : UniverseAddress}

variable {p : Int × Int × Int}

theorem globalPositionUm_eq
    (h : globalPositionUm address = .ok p) : p = position address := by
  simp only [globalPositionUm, bind_eq_ok, pure_eq_ok] at h
  obtain ⟨x, hx, y, hy, z, hz, rfl⟩ := h
  rw [globalAxisUm_eq hx, globalAxisUm_eq hy, globalAxisUm_eq hz]
  rfl

theorem checkedU128_eq_ok {exact result : Nat} :
    checkedU128 exact = .ok result ↔ FitsUnsigned 128 exact ∧ exact = result := by
  simp [checkedU128]

theorem distanceSquared_absDiff {q} {squared : Nat}
    (h : distanceSquared (absDiff p q) = .ok squared) : squared = distSq p q := by
  simp only [distanceSquared, bind_eq_ok, checkedU128_eq_ok] at h
  obtain ⟨_, ⟨-, rfl⟩, _, ⟨-, rfl⟩, _, ⟨-, rfl⟩, _, ⟨-, rfl⟩, -, rfl⟩ := h
  rfl

/-- The comparison of an exact distance with the clearance two bodies need. -/
def exactSeparation (left right : CelestialBodySnapshot) (minimumGapUm : Nat) : Located Unit :=
  rejectIf (centerDistSq left right
      < requiredUm left right minimumGapUm * requiredUm left right minimumGapUm)
    (.invalidRegistry
      s!"bodies {left.bodyId} and {right.bodyId} violate the fixed-body surface gap")

theorem le_centerDistSq {r : Nat}
    (h : r ≤ (absDiff (position left.center) (position right.center)).1
      ∨ r ≤ (absDiff (position left.center) (position right.center)).2.1
      ∨ r ≤ (absDiff (position left.center) (position right.center)).2.2) :
    r * r ≤ centerDistSq left right := mul_self_le_distSq h

variable {minimumGapUm : Nat}

theorem le_centerDistance_of_validateSeparation
    (h : validateSeparation left right minimumGapUm = .ok ()) :
    (requiredUm left right minimumGapUm : ℝ) ≤ centerDistance left right := by
  simp only [validateSeparation, addU128, bind_eq_ok, plain_eq_ok] at h
  obtain ⟨p, hp, q, hq, _, ⟨-, rfl⟩, _, ⟨-, rfl⟩, h⟩ := h
  obtain rfl := globalPositionUm_eq hp
  obtain rfl := globalPositionUm_eq hq
  refine le_dist_point.mpr ?_
  rcases ite_eq_ok.mp h with ⟨hfar, -⟩ | ⟨-, hexact⟩
  · exact le_centerDistSq hfar
  · simp only [bind_eq_ok, checkedU128_eq_ok, rejectIf_eq_ok, not_lt] at hexact
    obtain ⟨squared, hsquared, _, ⟨-, rfl⟩, hle⟩ := hexact
    rw [distanceSquared_absDiff hsquared] at hle
    exact hle

/-- The asteroid with all of its exclusion volume lies within the surface of the field. -/
def LiesWithin (field asteroid : CelestialBodySnapshot) : Prop :=
  centerDistance field asteroid + asteroid.exclusionRadiusUm ≤ field.surfaceRadiusUm

theorem liesWithin_of_asteroidFieldContains (h : asteroidFieldContains field body = .ok true) :
    field.kind = .asteroidField ∧ body.fieldId = some field.bodyId ∧ LiesWithin field body := by
  rcases ite_eq_ok.mp h with ⟨-, hfalse⟩ | ⟨hfield, hwithin⟩
  · cases hfalse
  · simp only [not_or, not_not] at hfield
    simp only [bind_eq_ok, rejectIf_eq_ok, checkedU128_eq_ok, pure_eq_ok, decide_eq_true_eq,
      not_lt] at hwithin
    obtain ⟨⟨⟩, hradius, p, hp, q, hq, squared, hsquared, _, ⟨-, rfl⟩, hle⟩ := hwithin
    obtain rfl := globalPositionUm_eq hp
    obtain rfl := globalPositionUm_eq hq
    rw [distanceSquared_absDiff hsquared] at hle
    refine ⟨hfield.1, hfield.2.2, ?_⟩
    have hdistance := dist_point_le.mpr hle
    rw [Nat.cast_sub hradius, le_sub_iff_add_le] at hdistance
    exact hdistance

/-- A body that takes up space: anything but a field of asteroids. -/
def CelestialBodySnapshot.Solid (body : CelestialBodySnapshot) : Prop := body.kind ≠ .asteroidField

namespace Registered

theorem liesWithin (h : Registered content definition bodies) (hbody : body ∈ bodies)
    (hkind : body.kind = .asteroid) :
    ∃ field ∈ bodies, field.kind = .asteroidField ∧ body.fieldId = some field.bodyId
      ∧ LiesWithin field body := by
  have hasteroid := h.asteroid body hbody
  simp only [validateAsteroid, hkind, if_true, bind_eq_ok, demand_eq_ok, rejectIf_eq_ok,
    Bool.not_eq_false] at hasteroid
  obtain ⟨id, -, field, hfield, contained, hcontained, rfl⟩ := hasteroid
  obtain ⟨hmem, -⟩ := of_bodiesById hfield
  exact ⟨field, hmem, liesWithin_of_asteroidFieldContains hcontained⟩

theorem isAsteroidFieldPair_comm :
    isAsteroidFieldPair left right = isAsteroidFieldPair right left := by
  unfold isAsteroidFieldPair
  cases left.kind <;> cases right.kind <;> rfl

theorem apart (h : Registered content definition bodies) (hleft : left ∈ bodies)
    (hright : right ∈ bodies) (hne : left ≠ right)
    (hfield : isAsteroidFieldPair left right = false) :
    (requiredUm left right definition.minimumFixedBodySurfaceGapUm : ℝ)
      ≤ centerDistance left right := by
  have hapart := h.separation.imp fun {left right} hcheck hfield =>
    le_centerDistance_of_validateSeparation (hcheck hfield)
  have : Std.Symm fun left right : CelestialBodySnapshot =>
      isAsteroidFieldPair left right = false →
        (requiredUm left right definition.minimumFixedBodySurfaceGapUm : ℝ)
          ≤ centerDistance left right := by
    refine ⟨fun left right hfar hfield => ?_⟩
    have hrequired : requiredUm right left definition.minimumFixedBodySurfaceGapUm
        = requiredUm left right definition.minimumFixedBodySurfaceGapUm := by
      unfold requiredUm
      omega
    rw [hrequired, centerDistance, dist_comm]
    exact hfar (isAsteroidFieldPair_comm ▸ hfield)
  exact hapart.forall hleft hright hne hfield

theorem apart_of_solid (h : Registered content definition bodies) (hleft : left ∈ bodies)
    (hright : right ∈ bodies) (hne : left ≠ right) (hsolid : left.Solid) (hsolid' : right.Solid) :
    (requiredUm left right definition.minimumFixedBodySurfaceGapUm : ℝ)
      ≤ centerDistance left right := by
  refine h.apart hleft hright hne ?_
  unfold CelestialBodySnapshot.Solid at hsolid hsolid'
  unfold isAsteroidFieldPair
  split
  · contradiction
  · contradiction
  · rfl

theorem surface_le_exclusion (h : Registered content definition bodies) (hbody : body ∈ bodies) :
    body.surfaceRadiusUm ≤ body.exclusionRadiusUm := by
  have hvalid := h.body body hbody
  simp only [validateBody, bind_eq_ok, rejectIf_eq_ok, not_or, not_lt] at hvalid
  obtain ⟨⟨⟩, -, ⟨⟩, -, ⟨⟩, ⟨-, hradii, -⟩, -⟩ := hvalid
  exact hradii

end Registered

/-! ## Inputs of the source's types -/

/-- The numbers of a body have the widths the source gives them. -/
structure Typed (body : CelestialBodySnapshot) : Prop where
  cell : FitsUnsigned 32 body.center.cellX ∧ FitsUnsigned 32 body.center.cellY
    ∧ FitsUnsigned 32 body.center.cellZ
  localUm : FitsSigned 64 body.center.localUm.1 ∧ FitsSigned 64 body.center.localUm.2.1
    ∧ FitsSigned 64 body.center.localUm.2.2
  surfaceRadiusUm : FitsUnsigned 64 body.surfaceRadiusUm
  exclusionRadiusUm : FitsUnsigned 64 body.exclusionRadiusUm

instance : DecidablePred Typed := fun body =>
  decidable_of_iff
    ((FitsUnsigned 32 body.center.cellX ∧ FitsUnsigned 32 body.center.cellY
        ∧ FitsUnsigned 32 body.center.cellZ)
      ∧ (FitsSigned 64 body.center.localUm.1 ∧ FitsSigned 64 body.center.localUm.2.1
        ∧ FitsSigned 64 body.center.localUm.2.2)
      ∧ FitsUnsigned 64 body.surfaceRadiusUm ∧ FitsUnsigned 64 body.exclusionRadiusUm)
    ⟨fun ⟨hcell, hlocal, hsurface, hexclusion⟩ => ⟨hcell, hlocal, hsurface, hexclusion⟩,
      fun ⟨hcell, hlocal, hsurface, hexclusion⟩ => ⟨hcell, hlocal, hsurface, hexclusion⟩⟩

theorem globalAxisUm_onlyOverflows
    (hcell : FitsUnsigned 32 cell) : OnlyOverflows (globalAxisUm sector cell localUm) := by
  have hproduct : FitsSigned 128 (cell * cellEdgeUm) := by
    unfold FitsUnsigned at hcell
    simp only [fitsSigned128, cellEdgeUm]
    omega
  refine .bind (.demand _) fun _ _ => .bind (.checked _) fun _ _ => ?_
  rw [mulI128, plain_of_fits hproduct]
  exact .bind (.pure _) fun _ _ => .bind (.checked _) fun _ _ => .checked _

theorem globalPositionUm_onlyOverflows (h : Typed body) :
    OnlyOverflows (globalPositionUm body.center) := by
  obtain ⟨hx, hy, hz⟩ := h.cell
  exact .bind (globalAxisUm_onlyOverflows hx) fun _ _ =>
    .bind (globalAxisUm_onlyOverflows hy) fun _ _ =>
      .bind (globalAxisUm_onlyOverflows hz) fun _ _ => .pure _

theorem checkedU128_onlyOverflows (exact : Nat) : OnlyOverflows (checkedU128 exact) :=
  .demand _

theorem distanceSquared_onlyOverflows (deltas : Nat × Nat × Nat) :
    OnlyOverflows (distanceSquared deltas) :=
  .bind (checkedU128_onlyOverflows _) fun _ _ => .bind (checkedU128_onlyOverflows _) fun _ _ =>
    .bind (checkedU128_onlyOverflows _) fun _ _ => .bind (checkedU128_onlyOverflows _) fun _ _ =>
      checkedU128_onlyOverflows _

variable {a b : Nat}

theorem addU128_radii (ha : FitsUnsigned 64 a) (hb : FitsUnsigned 64 b) :
    addU128 a b = .ok (a + b) := by
  refine plain_of_fits ?_
  unfold FitsUnsigned at *
  omega

theorem addU128_gap {c : Nat} (ha : FitsUnsigned 64 a) (hb : FitsUnsigned 64 b)
    (hc : FitsUnsigned 64 c) : addU128 (a + b) c = .ok (a + b + c) := by
  refine plain_of_fits ?_
  unfold FitsUnsigned at *
  omega

/-- Looking at one axis at a time first changes nothing but where an overflow is noticed. -/
theorem validateSeparation_agrees (hleft : Typed left) (hright : Typed right)
    (hgap : FitsUnsigned 64 minimumGapUm) :
    validateSeparation left right minimumGapUm = exactSeparation left right minimumGapUm
      ∨ validateSeparation left right minimumGapUm = .error .addressOverflow := by
  unfold validateSeparation
  rcases (globalPositionUm_onlyOverflows hleft).ok_or with ⟨p, hp⟩ | he
  case inr => exact .inr (by rw [he]; rfl)
  rcases (globalPositionUm_onlyOverflows hright).ok_or with ⟨q, hq⟩ | he
  case inr => exact .inr (by rw [hp, he]; rfl)
  rw [hp, hq, addU128_radii hleft.exclusionRadiusUm hright.exclusionRadiusUm]
  obtain rfl := globalPositionUm_eq hp
  obtain rfl := globalPositionUm_eq hq
  simp only [bind, Except.bind]
  rw [addU128_gap hleft.exclusionRadiusUm hright.exclusionRadiusUm hgap]
  dsimp only
  split_ifs with hfar
  · left
    have hclear : requiredUm left right minimumGapUm * requiredUm left right minimumGapUm
        ≤ centerDistSq left right := le_centerDistSq hfar
    exact (rejectIf_eq_ok.mpr (not_lt.mpr hclear)).symm
  · rcases (distanceSquared_onlyOverflows
      (absDiff (position left.center) (position right.center))).ok_or with ⟨squared, hsquared⟩ | he
    case inr => exact .inr (by rw [he])
    rcases (checkedU128_onlyOverflows (requiredUm left right minimumGapUm
      * requiredUm left right minimumGapUm)).ok_or with ⟨required, hrequired⟩ | he
    case inr =>
      unfold requiredUm at he
      exact .inr (by rw [hsquared, he])
    left
    obtain rfl := distanceSquared_absDiff hsquared
    obtain ⟨-, rfl⟩ := checkedU128_eq_ok.mp hrequired
    unfold requiredUm at hrequired
    rw [hsquared, hrequired]
    rfl

/-! ## Nothing wraps around -/

/-- An error that the source reports, rather than stopping. -/
def Reported (e : CelestialError) : Prop := ∀ message, e ≠ .panicked message

variable {message : String}

theorem reported_invalidRegistry : Reported (.invalidRegistry message) := by
  intro _ h
  cases h

theorem reported_addressOverflow : Reported .addressOverflow := by
  intro _ h
  cases h

theorem reported_invalidAddress : Reported (.invalidAddress message) := by
  intro _ h
  cases h

theorem OnlyOverflows.reported {α : Type} {x : Located α} (h : OnlyOverflows x) :
    FailsOnly Reported x := by
  intro e he
  rw [h e he]
  exact reported_addressOverflow

variable {universeId : String}

theorem validateUniverseAddress_reported :
    FailsOnly Reported (validateUniverseAddress address universeId) :=
  .bind (.rejectIf reported_invalidAddress) fun _ _ =>
    .bind (.checkAll fun _ _ => .bind (.demand reported_invalidAddress) fun _ _ =>
      .rejectIf reported_invalidAddress) fun _ _ =>
    .bind (.rejectIf reported_invalidAddress) fun _ _ => .rejectIf reported_invalidAddress

theorem validateAddress_reported :
    FailsOnly Reported (validateAddress address universeId) := by
  intro e he
  obtain ⟨source, hsource, rfl⟩ := mapError_eq_error.mp he
  have hreported := validateUniverseAddress_reported source hsource
  cases source with
  | panicked message => exact absurd rfl (hreported message)
  | invalidRegistry | addressOverflow | invalidAddress => exact reported_invalidRegistry

theorem validateExclusion_reported (hbody : Typed body)
    (hlocal : FitsSigned 64 localUm) : FailsOnly Reported (validateExclusion body localUm) := by
  have hreach : FitsSigned 128 (|localUm| + body.exclusionRadiusUm) := by
    have hradius := hbody.exclusionRadiusUm
    have hnonneg := abs_nonneg localUm
    unfold FitsUnsigned at hradius
    unfold FitsSigned at hlocal
    have hle : |localUm| ≤ 2 ^ 63 := abs_le.mpr ⟨by omega, by omega⟩
    rw [fitsSigned128]
    omega
  unfold validateExclusion
  rw [addI128, plain_of_fits hreach]
  exact .bind (.pure _) fun _ _ => .rejectIf reported_invalidRegistry

variable {byId : Bodies}

theorem validateKind_reported : FailsOnly Reported (validateKind body byId) := by
  unfold validateKind
  cases body.kind with
  | moon => exact .bind (.demand reported_invalidRegistry) fun _ _ =>
      .rejectIf reported_invalidRegistry
  | planet | asteroid | asteroidField => exact .rejectIf reported_invalidRegistry

theorem validateBody_reported (hbody : Typed body) :
    FailsOnly Reported (validateBody content definition body byId) := by
  have hexclusions : FailsOnly Reported (checkAll (validateExclusion body)
      [body.center.localUm.1, body.center.localUm.2.1, body.center.localUm.2.2]) := by
    obtain ⟨hx, hy, hz⟩ := hbody.localUm
    refine .checkAll fun localUm hmem => ?_
    simp only [List.mem_cons, List.not_mem_nil, or_false] at hmem
    rcases hmem with rfl | rfl | rfl
    · exact validateExclusion_reported hbody hx
    · exact validateExclusion_reported hbody hy
    · exact validateExclusion_reported hbody hz
  exact .bind (.rejectIf reported_invalidRegistry) fun _ _ =>
    .bind validateAddress_reported fun _ _ =>
    .bind (.rejectIf reported_invalidRegistry) fun _ _ =>
    .bind hexclusions fun _ _ =>
    .bind validateKind_reported fun _ _ =>
    .bind (.rejectIf reported_invalidRegistry) fun _ _ =>
    .bind (.rejectIf reported_invalidRegistry) fun _ _ => .rejectIf reported_invalidRegistry

theorem asteroidFieldContains_reported (hfield : Typed field) (hbody : Typed body) :
    FailsOnly Reported (asteroidFieldContains field body) := by
  unfold asteroidFieldContains
  split_ifs
  · exact .pure _
  · exact .bind (.rejectIf reported_invalidRegistry) fun _ _ =>
      .bind (globalPositionUm_onlyOverflows hfield).reported fun _ _ =>
      .bind (globalPositionUm_onlyOverflows hbody).reported fun _ _ =>
      .bind (distanceSquared_onlyOverflows _).reported fun _ _ =>
      .bind (checkedU128_onlyOverflows _).reported fun _ _ => .pure _

theorem validateAsteroid_reported (hbodies : ∀ body ∈ bodies, Typed body) (hbody : Typed body) :
    FailsOnly Reported (validateAsteroid (bodiesById bodies) body) := by
  unfold validateAsteroid
  split_ifs
  · refine .bind (.demand reported_invalidRegistry) fun id _ =>
      .bind (.demand reported_invalidRegistry) fun field hfield => ?_
    obtain ⟨hmem, -⟩ := of_bodiesById (demand_eq_ok.mp hfield)
    exact .bind (asteroidFieldContains_reported (hbodies field hmem) hbody) fun _ _ =>
      .rejectIf reported_invalidRegistry
  · exact .pure _

theorem validateSeparation_reported (hleft : Typed left)
    (hright : Typed right) (hgap : FitsUnsigned 64 minimumGapUm) :
    FailsOnly Reported (validateSeparation left right minimumGapUm) := by
  rcases validateSeparation_agrees hleft hright hgap with h | h
  · rw [h]
    exact .rejectIf reported_invalidRegistry
  · rw [h]
    intro e he
    cases he
    exact reported_addressOverflow

/-! ## The walk ends -/

section Walk

variable {turns : Nat} {ancestry : OrdMap String Unit} {cursor : CelestialBodySnapshot}
  {outcome : Located Unit}

/-- What the loop has collected after so many turns: as many registered bodies. -/
theorem ancestryAfter_walking (hbody : body ∈ bodies)
    (h : ancestryAfter (bodiesById bodies) body turns = .walking ancestry cursor) :
    ancestry.size = turns ∧ (∀ id ∈ ancestry.keys, id ∈ bodies.map (·.bodyId))
      ∧ cursor ∈ bodies := by
  induction turns generalizing ancestry cursor with
  | zero =>
    cases h
    exact ⟨rfl, fun id hid => absurd hid List.not_mem_nil, hbody⟩
  | succ turns ih =>
    rw [ancestryAfter, Function.iterate_succ_apply'] at h
    cases hbefore : ancestryAfter (bodiesById bodies) body turns with
    | ended outcome =>
      rw [ancestryAfter] at hbefore
      rw [hbefore] at h
      cases h
    | walking earlier standing =>
      obtain ⟨hsize, hregistered, hstanding⟩ := ih hbefore
      rw [ancestryAfter] at hbefore
      rw [hbefore] at h
      simp only [ancestryTurn] at h
      split at h
      · cases h
      · split_ifs at h with hseen
        split at h
        · cases h
        · rename_i parentId hparentId parent hparent
          cases h
          have hnew : earlier.get? standing.bodyId = none := by
            rw [Bool.not_eq_true, OrdMap.contains, Option.isSome_eq_false_iff,
              Option.isNone_iff_eq_none] at hseen
            exact hseen
          refine ⟨by rw [OrdMap.size_insert_new hnew, hsize], fun id hid => ?_,
            (of_bodiesById hparent).1⟩
          obtain ⟨u, hid⟩ := OrdMap.mem_keys.mp hid
          rw [OrdMap.get?_insert] at hid
          split_ifs at hid with heq
          · exact heq ▸ List.mem_map.mpr ⟨standing, hstanding, rfl⟩
          · exact hregistered id (OrdMap.mem_keys.mpr ⟨u, hid⟩)

theorem exists_ancestryAfter_ended (hbody : body ∈ bodies) :
    ∃ outcome, ancestryAfter (bodiesById bodies) body (bodies.length + 1) = .ended outcome := by
  cases h : ancestryAfter (bodiesById bodies) body (bodies.length + 1) with
  | ended outcome => exact ⟨outcome, rfl⟩
  | walking ancestry cursor =>
    obtain ⟨hsize, hregistered, -⟩ := ancestryAfter_walking hbody h
    have hlength := (List.subperm_of_subset OrdMap.keys_nodup hregistered).length_le
    rw [OrdMap.keys, List.length_map, List.length_map] at hlength
    rw [OrdMap.size] at hsize
    omega

theorem ancestryAfter_reported (h : ancestryAfter byId body turns = .ended outcome) :
    FailsOnly Reported outcome := by
  induction turns generalizing outcome with
  | zero => cases h
  | succ turns ih =>
    rw [ancestryAfter, Function.iterate_succ_apply'] at h
    cases hbefore : ancestryAfter byId body turns with
    | ended earlier =>
      have hearlier := ih hbefore
      rw [ancestryAfter] at hbefore
      rw [hbefore] at h
      cases h
      exact hearlier
    | walking ancestry cursor =>
      rw [ancestryAfter] at hbefore
      rw [hbefore] at h
      simp only [ancestryTurn] at h
      have herror : ∀ message, FailsOnly Reported
          (.error (.invalidRegistry message) : Located Unit) := by
        intro message e he
        cases he
        exact reported_invalidRegistry
      split at h
      · cases h
        exact .pure ()
      · split_ifs at h with hseen
        · cases h
          exact herror _
        · split at h
          · cases h
            exact herror _
          · cases h

theorem validateAncestry_reported (hbody : body ∈ bodies) :
    FailsOnly Reported (validateAncestry (bodiesById bodies) (bodies.length + 1) body) := by
  obtain ⟨outcome, hended⟩ := exists_ancestryAfter_ended hbody
  unfold validateAncestry
  rw [hended]
  exact ancestryAfter_reported hended

end Walk

theorem validateRegistry_reported (hbodies : ∀ body ∈ bodies, Typed body)
    (hgap : FitsUnsigned 64 definition.minimumFixedBodySurfaceGapUm) :
    FailsOnly Reported (validateRegistry content definition bodies) := by
  refine .bind (.rejectIf reported_invalidRegistry) fun _ _ =>
    .bind (.rejectIf reported_invalidRegistry) fun _ _ =>
    .bind (.checkEach fun before body hbody => ?_) fun _ _ =>
    .checkPairs fun left hleft right hright => ?_
  · exact .bind (validateBody_reported (hbodies body hbody)) fun _ _ =>
      .bind (.rejectIf reported_invalidRegistry) fun _ _ =>
      .bind (validateAncestry_reported hbody) fun _ _ =>
      validateAsteroid_reported hbodies (hbodies body hbody)
  · split_ifs
    · exact .pure ()
    · exact validateSeparation_reported (hbodies left hleft) (hbodies right hright) hgap

/-! ## All of it -/

/-- What acceptance says about the bodies of a registry. -/
structure Sound (definition : RegistryDefinition) (bodies : List CelestialBodySnapshot) : Prop where
  parent : ∀ body ∈ bodies, RequiredParent bodies body
  acyclic : ∀ body, ¬ Relation.TransGen (ParentIn bodies) body body
  field : ∀ body ∈ bodies, body.kind = .asteroid →
    ∃ field ∈ bodies, field.kind = .asteroidField ∧ body.fieldId = some field.bodyId
      ∧ LiesWithin field body
  radii : ∀ body ∈ bodies, body.surfaceRadiusUm ≤ body.exclusionRadiusUm
  apart : ∀ left ∈ bodies, ∀ right ∈ bodies, left ≠ right → left.Solid → right.Solid →
    (left.exclusionRadiusUm + right.exclusionRadiusUm
      + definition.minimumFixedBodySurfaceGapUm : ℝ) ≤ centerDistance left right

theorem Registered.sound (h : Registered content definition bodies) : Sound definition bodies where
  parent _ := h.requiredParent
  acyclic _ := h.acyclic
  field _ := h.liesWithin
  radii _ := h.surface_le_exclusion
  apart left hleft right hright hne hsolid hsolid' := by
    have hapart := h.apart_of_solid hleft hright hne hsolid hsolid'
    unfold requiredUm at hapart
    push_cast at hapart
    exact hapart

/-- An accepted registry is sound: its parents are of the kinds required and lead to no cycle, its
    asteroids lie in their fields, and its solid bodies keep their exclusion volumes and the gap
    between them. The look at one axis agrees with the exact comparison. And on any input of the
    source's types the walk from each body to its parents ends and the check ends with a verdict
    or a reported error, nothing having wrapped around. -/
theorem registry_sound :
    (∀ content definition bodies, validateRegistry content definition bodies = .ok () →
        Sound definition bodies)
      ∧ (∀ left right minimumGapUm, Typed left → Typed right → FitsUnsigned 64 minimumGapUm →
        validateSeparation left right minimumGapUm = exactSeparation left right minimumGapUm
          ∨ validateSeparation left right minimumGapUm = .error .addressOverflow)
      ∧ ∀ content definition bodies, (∀ body ∈ bodies, Typed body) →
        FitsUnsigned 64 definition.minimumFixedBodySurfaceGapUm →
          FailsOnly Reported (validateRegistry content definition bodies)
            ∧ ∀ body ∈ bodies, ∃ outcome,
                ancestryAfter (bodiesById bodies) body (bodies.length + 1) = .ended outcome :=
  ⟨fun _ _ _ h => (registered_of_ok h).sound,
    fun _ _ _ hleft hright hgap => validateSeparation_agrees hleft hright hgap,
    fun _ _ _ hbodies hgap =>
      ⟨validateRegistry_reported hbodies hgap, fun _ hbody => exists_ancestryAfter_ended hbody⟩⟩

/-! The registry of the local universe: a planet and its moon, and an asteroid in its field. -/

def localContent : CelestialContent where
  minimumFixedBodySurfaceGapUm := 3000000000
  geometryDefinitionIds := ["procedural-voxel-v1", "sphere-heightfield-v1"]
  voxelDefinitionIds := ["origin-voxel-field-v1"]
  materialDefinitionIds := ["airless-regolith-v1", "ferrite-regolith-v1", "terrestrial-regolith-v1"]
  gravityDefinitionIds := ["none-v1", "radial-inverse-square-v1"]
  atmosphereDefinitionIds := ["none-v1", "oxygen-gradient-v1"]
  resourceDefinitionIds := ["ferrite-deposit-v1", "none-v1"]
  manifestVersion := "p1.5"
  manifestHash := "content"

def localDefinition : RegistryDefinition where
  universeId := "the-verse-local"
  minimumFixedBodySurfaceGapUm := 3000000000

/-- The cell at the middle of the first sector, so many micrometres from its middle. -/
def originCell (x y z : Int) : UniverseAddress :=
  written "the-verse-local" ⟨0, 500, x⟩ ⟨0, 500, y⟩ ⟨0, 500, z⟩

def originAsteroid : CelestialBodySnapshot where
  bodyId := "origin-asteroid"
  displayName := "Origin Ferrite Asteroid"
  kind := .asteroid
  parentBodyId := none
  fieldId := some "origin-field"
  center := originCell 0 0 0
  surfaceRadiusUm := 10000000
  exclusionRadiusUm := 12000000
  surfaceGravityMillimetresPerSecondSquared := 0
  voxelFieldId := some "voxel-field-origin"
  geometryDefinitionId := "procedural-voxel-v1"
  voxelDefinitionId := some "origin-voxel-field-v1"
  materialDefinitionId := "ferrite-regolith-v1"
  gravityDefinitionId := "none-v1"
  atmosphereDefinitionId := "none-v1"
  resourceDefinitionId := "ferrite-deposit-v1"
  visualDescriptorId := "origin-regolith-v1"
  materializedRegistryVersion := 1
  contentManifestVersion := "p1.5"
  contentHash := "content"

def originField : CelestialBodySnapshot :=
  { originAsteroid with
    bodyId := "origin-field", displayName := "Origin Asteroid Field", kind := .asteroidField,
    center := originCell (-50000000) 0 0, surfaceRadiusUm := 100000000,
    exclusionRadiusUm := 100000000, voxelFieldId := none, voxelDefinitionId := none }

def khepriPrime : CelestialBodySnapshot :=
  { originAsteroid with
    bodyId := "khepri-prime", displayName := "Khepri Prime", kind := .planet, fieldId := none,
    center := originCell 900000000 (-2200000000) (-3800000000), surfaceRadiusUm := 1200000000,
    exclusionRadiusUm := 1380000000, surfaceGravityMillimetresPerSecondSquared := 6200,
    voxelFieldId := none, geometryDefinitionId := "sphere-heightfield-v1",
    voxelDefinitionId := none, materialDefinitionId := "terrestrial-regolith-v1",
    gravityDefinitionId := "radial-inverse-square-v1",
    atmosphereDefinitionId := "oxygen-gradient-v1", resourceDefinitionId := "none-v1",
    visualDescriptorId := "khepri-prime-terrestrial-v1" }

def sableMoon : CelestialBodySnapshot :=
  { khepriPrime with
    bodyId := "sable-moon", displayName := "Sable", kind := .moon,
    parentBodyId := some "khepri-prime", center := originCell 5200000000 1600000000 (-8800000000),
    surfaceRadiusUm := 84000000, exclusionRadiusUm := 84000000,
    surfaceGravityMillimetresPerSecondSquared := 0, materialDefinitionId := "airless-regolith-v1",
    gravityDefinitionId := "none-v1", atmosphereDefinitionId := "none-v1",
    visualDescriptorId := "sable-airless-v1" }

def localBodies : List CelestialBodySnapshot :=
  [khepriPrime, originAsteroid, originField, sableMoon]

/-- The registry is sound; and were the planet in its turn given the moon for a parent, the check
    would say so rather than walk on. -/
theorem registry_sound_local :
    Sound localDefinition localBodies
      ∧ validateSeparation originAsteroid sableMoon 3000000000
        = exactSeparation originAsteroid sableMoon 3000000000
      ∧ FailsOnly Reported (validateRegistry localContent localDefinition
        [{ khepriPrime with parentBodyId := some "sable-moon" }, sableMoon]) := by
  obtain ⟨hsound, hagrees, hreported⟩ := registry_sound
  refine ⟨hsound localContent _ _ (by decide +kernel), ?_, ?_⟩
  · refine (hagrees originAsteroid sableMoon 3000000000 (by decide +kernel) (by decide +kernel)
      (by decide +kernel)).resolve_right ?_
    decide +kernel
  · exact (hreported _ _ _ (by decide +kernel) (by decide +kernel)).1

end Verse.Celestial
