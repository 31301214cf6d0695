import Verse.Engine.Frame
import Verse.Interest.Alike
import Verse.World.Balance

/-!
# What an observer cannot see

`projectFrame_private` is the privacy of a projection: what is private to others leaves no trace in
a frame, what a frame carries of its observer is the observer's own, and the private state of a
session is what collecting for the visible entities alone would give. The state of a machine is the
exception it has to make: `not_projectFrame_private` is a refinery that gives away the contents of a
cargo hold.
-/

namespace Verse.Interest

open Lib
open WorldState (BlockIn)

/-! ## What a frame carries of its observer -/

/-- The private state a frame carries. -/
def ServerMessage.actorPrivate : ServerMessage → Option ActorPrivateSnapshot
  | .interestBaseline baseline => baseline.actorPrivate
  | .interestDelta delta => delta.actorPrivate
  | _ => none

/-- The private motion a delta carries in its place. -/
def ServerMessage.actorPrivateMotion : ServerMessage → Option PlayerMotionSnapshot
  | .interestDelta delta => delta.actorPrivateMotion
  | _ => none

/-- Collecting the private state of an actor for some visible entities, straight from the world. -/
def collectActorPrivate (survey : Surveying) (w : WorldState) (actor : String)
    (visible : List EntityKey) : Projected ActorPrivateSnapshot := do
  let canonical ← survey.projectionSnapshot w
  let owners ← projectionInventoryOwners survey w
  Interest.actorPrivate survey w actor canonical owners visible

theorem actorPrivate_of_view {host source cursor next removals projected private'}
    (h : projectInterestWorldSnapshot host source cursor removals = .ok (projected, next))
    (hprivate : projected.actorPrivate = some private') :
    ∃ actor visible, boundActor cursor.observer = some actor
      ∧ source.filteredActorPrivate actor visible = .ok private' := by
  unfold projectInterestWorldSnapshot at h
  cases hobserver : cursor.observer with
  | boundPlayer actor =>
    simp only [bind_eq_ok, hobserver, map_eq_ok, pure_eq_ok, Prod.mk.injEq] at h
    obtain ⟨_, -, _, -, _, -, _, -, _, -, selection, -, _, ⟨own, hown, rfl⟩, _, -, _, -, _, -, _, -,
      _, -, rfl, -⟩ := h
    obtain rfl := Option.some.inj hprivate
    exact ⟨actor, _, rfl, hown⟩
  | publicOriginSpectator =>
    simp only [bind_eq_ok, hobserver, pure_eq_ok, Prod.mk.injEq] at h
    obtain ⟨_, -, _, -, _, -, _, -, _, -, selection, -, _, rfl, _, -, _, -, _, -, _, -, _, -, rfl,
      -⟩ := h
    cases hprivate

/-- Whatever a frame carries of its observer comes from a private state cut down to what it
    sees. -/
theorem private_of_frame {host source cursor next removals message}
    (h : projectInterestFrame host source cursor removals = .ok (message, next)) :
    (∀ private', message.actorPrivate = some private' →
        ∃ actor visible, boundActor cursor.observer = some actor
          ∧ source.filteredActorPrivate actor visible = .ok private')
      ∧ ∀ motion, message.actorPrivateMotion = some motion →
        ∃ actor visible private', boundActor cursor.observer = some actor
          ∧ source.filteredActorPrivate actor visible = .ok private'
          ∧ motion = privatePlayerMotion private'.player := by
  rw [projectInterestFrame_eq_map, map_eq_ok] at h
  obtain ⟨⟨projected, next'⟩, hview, hframe⟩ := h
  have hcomponents : ∀ {previous : Option ActorPrivateSnapshot},
      (∀ private', (deltaPrivateComponents previous projected.actorPrivate).1 = some private' →
          projected.actorPrivate = some private')
        ∧ ∀ motion, (deltaPrivateComponents previous projected.actorPrivate).2 = some motion →
          ∃ private', projected.actorPrivate = some private'
            ∧ motion = privatePlayerMotion private'.player := by
    intro previous
    unfold deltaPrivateComponents
    cases projected.actorPrivate with
    | none => simp
    | some current =>
      cases previous with
      | none => simp
      | some previous =>
        simp only
        split_ifs <;> simp [eq_comm]
  rw [frameOf] at hframe
  split_ifs at hframe with hkind
  · obtain ⟨rfl, rfl⟩ := Prod.mk.inj hframe
    refine ⟨fun private' hprivate => actorPrivate_of_view hview hprivate, ?_⟩
    intro motion hmotion
    cases hmotion
  · obtain ⟨rfl, rfl⟩ := Prod.mk.inj hframe
    refine ⟨fun private' hprivate => ?_, fun motion hmotion => ?_⟩
    · exact actorPrivate_of_view hview (hcomponents.1 private' hprivate)
    · obtain ⟨private', hprivate, rfl⟩ := hcomponents.2 motion hmotion
      obtain ⟨actor, visible, hactor, hfiltered⟩ := actorPrivate_of_view hview hprivate
      exact ⟨actor, visible, private', hactor, hfiltered, rfl⟩

/-- Two worlds that differ only in what is private to others, and look alike from outside, are
    projected into the same frame but for the commitment; whatever a frame carries of its observer
    is the observer's own; and cutting a private state down to what is visible is collecting it for
    that alone. -/
theorem projectFrame_private (survey : Surveying) (w : WorldState) :
    (∀ w' cursor removals message message' next next',
      PrivatelyDifferent (boundActor cursor.observer) w w' → OutwardlyAlike survey.host w w' →
      projectFrame survey w cursor removals = .ok (message, next) →
      projectFrame survey w' cursor removals = .ok (message', next') →
      message'.withoutCommitment = message.withoutCommitment ∧ next' = next)
    ∧ (∀ cursor removals message next,
      projectFrame survey w cursor removals = .ok (message, next) →
      (∀ private', message.actorPrivate = some private' →
          ∃ actor, boundActor cursor.observer = some actor ∧ Belongs w actor private')
        ∧ ∀ motion, message.actorPrivateMotion = some motion →
          boundActor cursor.observer = some motion.playerId)
    ∧ ∀ source actor visible, projectionSource survey w = .ok source →
      source.filteredActorPrivate actor visible = collectActorPrivate survey w actor visible := by
  have hbelongs : ∀ {source actor visible private'}, projectionSource survey w = .ok source →
      source.filteredActorPrivate actor visible = .ok private' → Belongs w actor private' := by
    intro source actor visible private' hsource hfiltered
    obtain ⟨owners, sourced⟩ := sourced_of_projectionSource hsource
    rw [sourced.filteredActorPrivate_eq] at hfiltered
    exact belongs_of_actorPrivate sourced.valid sourced.owned hfiltered
  refine ⟨?_, ?_, ?_⟩
  · intro w' cursor removals message message' next next' hdiffer halike hframe hframe'
    simp only [projectFrame, bind_eq_ok] at hframe hframe'
    obtain ⟨source, hsource, hframe⟩ := hframe
    obtain ⟨source', hsource', hframe'⟩ := hframe'
    have hsame : blankFrame <$> projectInterestFrame survey.view source' cursor removals
        = blankFrame <$> projectInterestFrame survey.view source cursor removals :=
      (hdiffer.sameSight halike hsource hsource').projectInterestFrame removals
    rw [hframe, hframe'] at hsame
    obtain ⟨hmessage, hnext⟩ := Prod.mk.inj (Except.ok.inj hsame)
    exact ⟨hmessage, hnext⟩
  · intro cursor removals message next hframe
    simp only [projectFrame, bind_eq_ok] at hframe
    obtain ⟨source, hsource, hframe⟩ := hframe
    obtain ⟨hstate, hmotion⟩ := private_of_frame hframe
    constructor
    · intro private' hprivate
      obtain ⟨actor, visible, hactor, hfiltered⟩ := hstate private' hprivate
      exact ⟨actor, hactor, hbelongs hsource hfiltered⟩
    · intro motion hcarried
      obtain ⟨actor, visible, private', hactor, hfiltered, rfl⟩ := hmotion motion hcarried
      rw [hactor, ← (hbelongs hsource hfiltered).player]
      rfl
  · intro source actor visible hsource
    obtain ⟨owners, sourced⟩ := sourced_of_projectionSource hsource
    rw [sourced.filteredActorPrivate_eq, collectActorPrivate, sourced.snapshot, sourced.owned]
    rfl

/-! ## A machine that gives its owner away

A powered refinery with a finished batch, and the cargo hold it delivers into. The owner is far
away, and the public watches from the origin. -/

namespace Workshop

def place : EnvironmentSnapshot where
  celestialBodyId := "khepri-prime"
  celestialBodyName := "Khepri Prime"
  celestialScaleClass := .proof
  nearestBodyId := "khepri-prime"
  nearestBodyName := "Khepri Prime"
  planetCenter := Vec3.zero
  surfaceRadiusM := .finite 0
  distanceToCenterM := .finite 0
  distanceToSurfaceM := .finite 0
  altitudeM := .finite 0
  gravity := Vec3.zero
  gravityMS2 := .finite 0
  atmosphereDensity := .finite 1
  oxygenFraction := .finite 1
  breathable := true

/-- A grid here is powered when its source is: the source yields 12 and all the rest draws less. -/
def host : Host := { proofHost with
  powerOnline := fun grid => grid.blocks.values.any fun block =>
    block.kind == .powerSource && block.constructionComplete }

/-- How far two addresses of one cell are apart. -/
def offset (origin address : UniverseAddress) : Int × Int × Int :=
  (address.localUm.1 - origin.localUm.1, address.localUm.2.1 - origin.localUm.2.1,
    address.localUm.2.2 - origin.localUm.2.2)

def surveying : Surveying where
  host := host
  projecting := {
    wire := {
      hashing := ⟨fun _ => .ok proofHash, fun _ => proofHash⟩
      parseExact := fun _ _ => .error ⟨.invalidJson, "workshop"⟩
      sanitized := fun _ => .ok ""
      validateRegistry := fun _ _ _ _ => .error ⟨.invalidJson, "workshop"⟩ }
    encode := fun _ => []
    baselineDigest := id
    policy := ⟨4096, 2, fun _ => .ok ⟨2000, 2250, 1, 1024⟩⟩
    squaredDistanceUm := fun origin address =>
      let (x, y, z) := offset origin address
      .ok (x ^ 2 + y ^ 2 + z ^ 2).toNat
    nearby := fun _ _ => .ok []
    validateCellKey := fun _ => .ok () }
  powerProduced := fun _ => .finite 12
  powerRequired := fun _ => .finite (21 / 4)
  powerStored := fun _ => .finite 0
  massKg := fun grams => .finite (grams / 1000)
  criticalOxygenMilli := 250
  environmentAt := fun _ _ _ _ => place
  bodyCenter := fun _ _ => proofAddress
  relativeOffsetUm := fun origin address => .ok (offset origin address)
  addressFromOriginOffsetUm := fun origin _ => .ok origin
  publicSpectatorAnchorUm := (0, 0, 0)
  spatialBucketEdgeM := 256
  spatialQueryRadiusUm := .ok 2250000000
  contentRevision := fun _ _ => .ok 0
  chunkRevision := fun _ _ _ => .ok 0

/-- The owner is six kilometres away. -/
def owner : Player := { proofPlayer with
  address := { proofAddress with localUm := (6000000000, 0, 0) } }

def grid : Grid := { proofGrid with
  blocks := .ofList (proofGrid.blocks.entries ++ [
    ("block-source", Block.new "block-source" (.new (-1) 0 0) .powerSource)]) }

/-- A finished batch that waits to be delivered. -/
def finished : ProductionJob := { proofJob with
  progressTicks := 120
  reservedInputs := .empty
  pendingOutputs := ⟨0, 1, 0⟩ }

/-- The workshop with so many components in its hold, and so many with its owner. -/
def world (held carried : Nat) : WorldState := { proofCell with
  player := ⟨"player-1", .ofList [("player-1", owner)]⟩
  grids := .ofList [("grid-works", grid)]
  inventories := (OrdMap.empty.insert "inventory-cargo"
    ⟨"inventory-cargo", .cargo "block-cargo", ⟨0, 0, held⟩, 8000⟩).insert "inventory-player-1"
      ⟨"inventory-player-1", .player "player-1", ⟨0, 0, carried⟩, 1200⟩
  productionQueues := .ofList [("block-refinery", [finished])]
  ledger := ⟨2, 0, 363, 6, 0, 1, 0, 0, 0, 0, 0, 0, 0, 0, 0, 0⟩ }

/-- A public spectator before its first frame. -/
def cursor : InterestProjectionState :=
  { InterestProjectionState.boundPlayer surveying.view "session" "" with
    observer := .publicOriginSpectator }

/-- The machine states a frame shows. -/
def shownStates : ServerMessage → List (Option PublicMachineState)
  | .interestBaseline baseline => baseline.grids.flatMap fun grid =>
    grid.blocks.map PublicBlockSnapshot.machineState
  | _ => []

/-- The world is in order, and its first frame shows these machine states. -/
def Shows (w : WorldState) (states : List (Option PublicMachineState)) : Prop :=
  w.validatePlayerRoster host = .ok () ∧ w.Balances
    ∧ ((projectFrame surveying w cursor OrdMap.empty).toOption.map fun frame =>
      shownStates frame.1) = some states

instance (w : WorldState) (states : List (Option PublicMachineState)) : Decidable (Shows w states) :=
  inferInstanceAs (Decidable (_ ∧ _ ∧ _))

/-- What the hold and the owner carry is all that two workshops differ in. -/
theorem privatelyDifferent (held carried held' carried' : Nat) :
    PrivatelyDifferent none (world held carried) (world held' carried') where
  elsewhere := rfl
  players := by
    intro playerId
    cases hplayer : (world held carried).player.byId.get? playerId with
    | none => exact ⟨0, ⟨0, 0, 0, 0, 0⟩, 0, hplayer⟩
    | some player =>
      exact ⟨player.experience, player.career, player.suitOxygenMilli, hplayer⟩
  inventories := by
    intro inventoryId
    by_cases hcarried : inventoryId = "inventory-player-1"
    · exact ⟨⟨0, 0, carried'⟩, by simp [world, hcarried]⟩
    · exact ⟨⟨0, 0, held'⟩, by
        simp only [world, OrdMap.get?_insert, if_neg hcarried]
        split_ifs <;> rfl⟩
  ownPlayer _ h := by cases h
  ownInventories _ h := by cases h
  ownQueues _ h := by cases h
  ownHistory _ h := by cases h

theorem shownStates_withoutCommitment (message : ServerMessage) :
    shownStates message.withoutCommitment = shownStates message := by
  cases message <;> rfl

theorem exists_frame {w states} (h : Shows w states) : ∃ message next,
      projectFrame surveying w cursor OrdMap.empty = .ok (message, next)
        ∧ shownStates message = states := by
  obtain ⟨-, -, hframe⟩ := h
  cases hprojected : projectFrame surveying w cursor OrdMap.empty with
  | error e => simp [hprojected, Except.toOption] at hframe
  | ok frame =>
    rw [hprojected] at hframe
    exact ⟨frame.1, frame.2, rfl, Option.some.inj hframe⟩

theorem shows_full : Shows (world 363 0) [none, some .blocked, none] := by decide +kernel

theorem shows_room : Shows (world 362 1) [none, some .operating, none] := by decide +kernel

theorem shows_more_room : Shows (world 361 2) [none, some .operating, none] := by decide +kernel

/-- With room in the hold, a component more or less in it shows nowhere. -/
theorem outwardlyAlike : OutwardlyAlike host (world 362 1) (world 361 2) where
  machines blockId grid' block := by
    intro ⟨gridId, hgrid, hblock⟩
    have hall : ∀ entry ∈ (world 362 1).grids.entries, ∀ block ∈ entry.2.blocks.values,
        publicMachineState host (world 361 2) block
          = publicMachineState host (world 362 1) block := by decide
    exact hall _ (OrdMap.mem_entries.mpr hgrid) block (OrdMap.mem_values.mpr ⟨blockId, hblock⟩)
  weighed := by decide

/-- The owner before its first frame. -/
def ownCursor : InterestProjectionState := .boundPlayer surveying.view "session" "player-1"

theorem exists_own_frame : ∃ message next private',
    projectFrame surveying (world 362 1) ownCursor OrdMap.empty = .ok (message, next)
      ∧ message.actorPrivate = some private' := by
  have hcarried : ((projectFrame surveying (world 362 1) ownCursor OrdMap.empty).toOption.bind
      fun frame => frame.1.actorPrivate).isSome = true := by decide +kernel
  cases hprojected : projectFrame surveying (world 362 1) ownCursor OrdMap.empty with
  | error e => simp [hprojected, Except.toOption] at hcarried
  | ok frame =>
    rw [hprojected] at hcarried
    obtain ⟨private', hprivate⟩ := Option.isSome_iff_exists.mp hcarried
    exact ⟨frame.1, frame.2, private', rfl, hprivate⟩

end Workshop

open Workshop in
/-- The owner's stock changes nothing the public sees, and its own frame carries only its own. -/
theorem projectFrame_private_workshop :
    (∃ message next message' next',
      projectFrame surveying (world 362 1) cursor OrdMap.empty = .ok (message, next)
        ∧ projectFrame surveying (world 361 2) cursor OrdMap.empty = .ok (message', next')
        ∧ message'.withoutCommitment = message.withoutCommitment ∧ next' = next)
    ∧ (∃ message next private' actor,
      projectFrame surveying (world 362 1) ownCursor OrdMap.empty = .ok (message, next)
        ∧ message.actorPrivate = some private' ∧ boundActor ownCursor.observer = some actor
        ∧ Belongs (world 362 1) actor private')
    ∧ ∃ source, projectionSource surveying (world 362 1) = .ok source
        ∧ source.filteredActorPrivate "player-1" []
          = collectActorPrivate surveying (world 362 1) "player-1" [] := by
  obtain ⟨message, next, hframe, -⟩ := exists_frame shows_room
  obtain ⟨message', next', hframe', -⟩ := exists_frame shows_more_room
  obtain ⟨own, ownNext, private', hown, hprivate⟩ := exists_own_frame
  obtain ⟨hsame, hbelongs, hfiltered⟩ := projectFrame_private surveying (world 362 1)
  have halike := hsame (world 361 2) cursor OrdMap.empty _ _ _ _
    (privatelyDifferent 362 1 361 2) outwardlyAlike hframe hframe'
  obtain ⟨actor, hactor, hmine⟩ := (hbelongs _ _ _ _ hown).1 private' hprivate
  have hprojected := hown
  simp only [projectFrame, bind_eq_ok] at hprojected
  obtain ⟨source, hsource, -⟩ := hprojected
  exact ⟨⟨message, next, message', next', hframe, hframe', halike⟩,
    ⟨own, ownNext, private', actor, hown, hprivate, hactor, hmine⟩, source, hsource,
    hfiltered source "player-1" [] hsource⟩

open Workshop in
/-- Two worlds in order that differ only in what the owner has where, and a frame for the public
    that tells them apart. -/
theorem not_projectFrame_private : ∃ w w' message message' next next',
    (w.validatePlayerRoster surveying.host = .ok () ∧ w.Balances)
      ∧ (w'.validatePlayerRoster surveying.host = .ok () ∧ w'.Balances)
      ∧ PrivatelyDifferent (boundActor cursor.observer) w w'
      ∧ w'.productionQueues = w.productionQueues ∧ w'.player = w.player
      ∧ projectFrame surveying w cursor OrdMap.empty = .ok (message, next)
      ∧ projectFrame surveying w' cursor OrdMap.empty = .ok (message', next')
      ∧ message'.withoutCommitment ≠ message.withoutCommitment := by
  obtain ⟨message, next, hframe, hstates⟩ := exists_frame shows_full
  obtain ⟨message', next', hframe', hstates'⟩ := exists_frame shows_room
  refine ⟨_, _, message, message', next, next', ⟨shows_full.1, shows_full.2.1⟩,
    ⟨shows_room.1, shows_room.2.1⟩, privatelyDifferent 363 0 362 1, rfl, rfl, hframe, hframe', ?_⟩
  intro hsame
  have hshown := congrArg shownStates hsame
  rw [shownStates_withoutCommitment, shownStates_withoutCommitment, hstates, hstates'] at hshown
  cases hshown

end Verse.Interest
