import Verse.Runtime.Substeps

/-!
# The second-by-second advance

`advance` is what a process asks of an active cell many times a second, with the milliseconds
that have passed since it last did. Physics comes first: fixed steps, as many as the phase that
has built up allows. Then life support: every player who is present and alive builds up
milliseconds of its own, and for each whole second among them its oxygen moves once. Production
that has fallen due comes last.

A call that fails on the way leaves what its earlier stages did.
-/

namespace Verse.Runtime

open Lib Lib.Program
open Directory (CellKeyV1)

/-- `u32::MAX`. -/
def u32Max : Nat := 4294967295

/-- `AdvanceImpact`. -/
inductive AdvanceImpact where
  | none
  | motion
  | structural
deriving DecidableEq

/-- `AdvanceImpact::combine`. -/
def AdvanceImpact.combine : AdvanceImpact → AdvanceImpact → AdvanceImpact
  | .structural, _ | _, .structural => .structural
  | .motion, _ | _, .motion => .motion
  | .none, .none => .none

/-- A cell with its physics scene and the counters that time an `advance`. -/
structure Ticker (Scene : Type) where
  cell : Cell
  /-- The scene, once it has been built. -/
  scene : Scene
  physicsStepPhase : Nat
  lifeSupportElapsedMillis : OrdMap String Nat

abbrev Tick (Scene α : Type) := Program RuntimeError (Ticker Scene) α

variable {Scene : Type} (site : Persistence.Site) (solver : Solver Scene)

namespace Ticker

/-- The world of the cell. -/
abbrev world (t : Ticker Scene) : WorldState := t.cell.state

/-- A cell that has just been opened: nothing has built up for anybody. -/
def opened (cell : Cell) : Ticker Scene where
  cell := cell
  scene := solver.built cell.state
  physicsStepPhase := cell.state.physicsStepPhase
  lifeSupportElapsedMillis := .ofList (cell.state.player.byId.keys.map fun playerId => (playerId, 0))

def onCell {α : Type} (x : Act α) : Tick Scene α :=
  zoom Ticker.cell (fun cell t => { t with cell }) (fun source => source) x

/-- What the scene stops at may stop the cell. -/
def onScene {α : Type} (x : Solve Scene α) : Tick Scene α := fun t =>
  match x t.scene with
  | .ok a scene => .ok a { t with scene }
  | .error stop scene => .error stop.source
    { t with scene, cell := { t.cell with halted := t.cell.halted || stop.halts } }

/-- A failure stops the cell from writing. -/
def orHalt {α : Type} (x : Tick Scene α) : Tick Scene α :=
  onError (fun t => { t with cell := { t.cell with halted := true } }) x

/-- `commit_system_event`, under the identifier that is fresh at its place in the journal. An
    event that changes the scene has it built again from the world the event leads to. -/
def commitSystemEvent (eventIdAt : Nat → String) (payload : EventPayload) : Tick Scene Unit := do
  let t ← get
  let _ ← onCell (Cell.commitSystemEventRecorded site (eventIdAt t.world.eventSequence) payload)
  if Cell.eventChangesPhysicsScene payload then
    modify fun t => { t with scene := solver.built t.world }

/-! ## Physics -/

/-- A grid that is on its way, or is told to be. -/
def movingGrid (grid : Grid) : Bool :=
  !grid.anchored
    && (solver.moving grid.linearVelocity || solver.moving grid.angularVelocity
      || solver.moving grid.controlLinearInput || solver.moving grid.controlAngularInput)

/-- A player whose body has to be solved. -/
def playerPhysicsActive (w : WorldState) (entry : String × Player) : Bool :=
  let (playerId, player) := entry
  !w.playerTransferLocks.contains playerId
    && decide (player.lifeState = .alive)
    && (solver.moving player.linearVelocity || solver.moving player.angularVelocity
      || solver.moving player.controlLinearInput || solver.moving player.controlAngularInput
      || !player.pendingControlFrames.isEmpty
      || player.boost
      || decide (w.simulationTick < player.controlExpiresAtSimulationTick)
      || !player.dampeners
      || !player.jetpackEnabled)

def physicsActive (w : WorldState) : Bool :=
  w.grids.values.any (movingGrid solver) || w.player.byId.entries.any (playerPhysicsActive solver w)

/-- Every address is in a cell that will do, up to the first that is not. -/
def everyCell (host : Host) (allowed : CellKeyV1 → Bool) :
    List UniverseAddress → Except String Bool
  | [] => return true
  | address :: rest => do
    let addressedCell ← host.cellKeyFromAddress address
    if allowed addressedCell then everyCell host allowed rest else return false

/-- `physics_outcome_is_within_hosted_topology`. -/
def physicsOutcomeIsWithinHostedTopology (host : Host) (payload : EventPayload)
    (sourceCellAddress : UniverseAddress) (hostedCells : List CellKeyV1) : Except String Bool := do
  let sourceCell ← host.cellKeyFromAddress sourceCellAddress
  match payload with
  | .physicsStepCommitted _ _ _ bodies players _ _ => do
    if ← everyCell host (fun cell => decide (cell ∈ hostedCells))
        (players.map PlayerPhysicsOutcome.address) then
      everyCell host (fun cell => decide (cell = sourceCell)) (bodies.map PhysicsBodyOutcome.address)
    else return false
  | _ => return true

/-- The phase of one fixed step: a nanosecond of a clock that runs `fixedStepHz` times as fast. -/
def physicsPhasePerStep : Nat := 1000000000

def maxPhysicsStepsPerAdvance : Nat := 15

/-- The milliseconds a call counts for. -/
def clampedMillis (deltaMillis : Nat) : Nat := max 1 (min deltaMillis 250)

/-- The phase that has built up. -/
def phaseAfter (phaseBefore deltaMillis : Nat) : Nat :=
  saturatingAdd phaseBefore (clampedMillis deltaMillis * 1000000 * Content.fixedStepHz)

def stepsDue (phase : Nat) : Nat := min (phase / physicsPhasePerStep) maxPhysicsStepsPerAdvance

/-- Whether the cells that are hosted have room for an outcome. -/
def topologyAdmits (hostedCells : Option (List CellKeyV1)) (payload : EventPayload) :
    Tick Scene Bool := do
  let t ← get
  match hostedCells with
  | none => return true
  | some hostedCells => orHalt (lift (fun source => .canonicalInvariant
      s!"physics topology address is invalid: {source}")
    (physicsOutcomeIsWithinHostedTopology site.host payload t.world.cellAddress hostedCells))

/-- An outcome without room is dropped, and the phase is what it was. -/
def settle (eventIdAt : Nat → String) (payload : EventPayload) (phaseBefore : Nat)
    (admits : Bool) : Tick Scene Unit :=
  if admits then orHalt (commitSystemEvent site solver eventIdAt payload)
  else modify fun t => { t with physicsStepPhase := phaseBefore }

/-- The scene is built again from the world, whether the world has moved or not. -/
def rebuildScene : Tick Scene Unit := do
  onCell Cell.ensureScene
  let t ← get
  orHalt (lift .physics (site.sceneBuilds t.world))
  modify fun t => { t with scene := solver.built t.world }

/-- What the steps that are due lead to, in the topology that is hosted. -/
def committedPhysicsSteps (eventIdAt : Nat → String) (hostedCells : Option (List CellKeyV1))
    (stepCount phaseBefore : Nat) : Tick Scene AdvanceImpact := do
  modify fun t =>
    { t with physicsStepPhase := t.physicsStepPhase - stepCount * physicsPhasePerStep }
  onCell Cell.ensureScene
  let t ← get
  let stepping ← onScene (substeps site.host solver t.world stepCount)
  lift .intent (rejectIf (t.physicsStepPhase > u32Max) (.panicked "substep phase fits u32"))
  let payload ← lift .intent
    (physicsStepPayload site.host solver t.world stepCount t.physicsStepPhase stepping)
  let admits ← topologyAdmits site hostedCells payload
  settle site solver eventIdAt payload phaseBefore admits
  rebuildScene site solver
  return if admits then .motion else .none

/-- The first stage: the fixed steps that are due. -/
def physicsStage (deltaMillis : Nat) (eventIdAt : Nat → String)
    (hostedCells : Option (List CellKeyV1)) : Tick Scene AdvanceImpact := do
  let t ← get
  if physicsActive solver t.world = false then return .none
  else do
    let phase := phaseAfter t.physicsStepPhase deltaMillis
    modify fun t => { t with physicsStepPhase := phase }
    if stepsDue phase = 0 then return .none
    else committedPhysicsSteps site solver eventIdAt hostedCells (stepsDue phase) t.physicsStepPhase

/-- What stands before physics: the cell runs, is active, and holds its lease. -/
def admitted : Tick Scene Unit := do
  onCell Cell.ensureRunning
  onCell (Cell.ensureMode (· == .active))
  onCell Cell.renewLease

/-! ## Life support -/

/-- The players life support looks after: those that are not leaving. -/
def supported (w : WorldState) : List String :=
  w.player.byId.keys.filter fun playerId => !w.playerTransferLocks.contains playerId

/-- The books of life support: what has built up for each player, and the whole seconds due. -/
structure Books where
  (elapsedMillis dueSeconds : OrdMap String Nat)

/-- `u32::saturating_add`. -/
def saturatingAddU32 (a b : Nat) : Nat := min (a + b) u32Max

/-- One player's page. -/
def Books.count (w : WorldState) (deltaMillis : Nat) (books : Books) (playerId : String) : Books :=
  match w.player.byId.get? playerId with
  | some player =>
    if player.lifeState = .alive then
      let elapsed := saturatingAddU32 ((books.elapsedMillis.get? playerId).getD 0)
        (clampedMillis deltaMillis)
      { elapsedMillis := books.elapsedMillis.insert playerId (elapsed % 1000)
        dueSeconds := books.dueSeconds.insert playerId (elapsed / 1000) }
    else { books with elapsedMillis := books.elapsedMillis.insert playerId 0 }
  | none => books

/-- The books once a call has been entered, with the pages of players that have left taken out. -/
def booked (w : WorldState) (deltaMillis : Nat) (elapsedMillis : OrdMap String Nat) : Books :=
  let books := (supported w).foldl (Books.count w deltaMillis) ⟨elapsedMillis, .empty⟩
  { books with elapsedMillis := books.elapsedMillis.filter fun playerId =>
      w.player.byId.contains playerId && !w.playerTransferLocks.contains playerId }

/-- One second of one player, if it is due and the player is alive to see it. -/
def chargeSecond (eventIdAt : Nat → String) (dueSeconds : OrdMap String Nat) (secondIndex : Nat)
    (impact : AdvanceImpact) (playerId : String) : Tick Scene AdvanceImpact :=
  if (dueSeconds.get? playerId).getD 0 ≤ secondIndex then pure impact
  else do
    let t ← get
    let player ← lift .intent (demand (t.world.player.byId.get? playerId)
      (.panicked "scheduled player remains in canonical roster"))
    if player.lifeState ≠ .alive then return impact
    else do
      match ← lift .intent (t.world.lifeSupportPayload site.host playerId) with
      | none => return impact
      | some payload => do
        commitSystemEvent site solver eventIdAt payload
        return impact.combine .structural

/-- One round: every player's second, in the order of the roster. -/
def chargeRound (eventIdAt : Nat → String) (dueSeconds : OrdMap String Nat)
    (playerIds : List String) (impact : AdvanceImpact) (secondIndex : Nat) :
    Tick Scene AdvanceImpact :=
  playerIds.foldlM (chargeSecond site solver eventIdAt dueSeconds secondIndex) impact

/-- The second stage. The books are closed before the first second is charged. -/
def lifeSupportStage (deltaMillis : Nat) (eventIdAt : Nat → String) (impact : AdvanceImpact) :
    Tick Scene AdvanceImpact := do
  let t ← get
  let playerIds := supported t.world
  let books := booked t.world deltaMillis t.lifeSupportElapsedMillis
  modify fun t => { t with lifeSupportElapsedMillis := books.elapsedMillis }
  (List.range (books.dueSeconds.values.max?.getD 0)).foldlM
    (chargeRound site solver eventIdAt books.dueSeconds playerIds) impact

/-! ## Production -/

/-- The third stage. Production commits quanta and nothing else, so that it has committed any
    shows in the sequence of the world. -/
def productionStage (turns : Nat) (impact : AdvanceImpact) : Tick Scene AdvanceImpact := do
  let before ← get
  let _ ← onCell (Cell.advanceDueProduction site turns)
  let after ← get
  return if before.world.eventSequence < after.world.eventSequence then impact.combine .structural
    else impact

end Ticker

/-! ## The call -/

/-- What an `advance` is asked with: the time that has passed, the cells that are hosted beside
    this one if they are limited, the turns there is time for, and fresh identifiers. -/
structure Advance where
  deltaMillis : Nat
  hostedCells : Option (List CellKeyV1)
  turns : Nat
  eventIdAt : Nat → String

namespace Advance

/-- Everything before life support. -/
def reach (call : Advance) : Tick Scene AdvanceImpact := do
  Ticker.admitted
  Ticker.physicsStage site solver call.deltaMillis call.eventIdAt call.hostedCells

/-- `advance_with_outcome_in_topology`. -/
def perform (call : Advance) : Tick Scene AdvanceImpact := do
  let impact ← call.reach site solver
  let impact ← Ticker.lifeSupportStage site solver call.deltaMillis call.eventIdAt impact
  Ticker.productionStage site call.turns impact

end Advance
end Verse.Runtime
