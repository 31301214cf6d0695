import Verse.Directory.Operations
import Verse.Interest.Transport
import Verse.Runtime.Advance
import Verse.Runtime.ExactlyOnce

/-!
# The coordinator of two cells

A two-cell worker hosts a coordinator instead of a runtime: the directory of placements, and a
running cell for each of its keys. A player's operations go to the cell the directory has the
player resident in, and only for a route that names that placement exactly; whoever still holds
an older route is told so and nothing happens.

A failure of the coordinator halts it, but for the two that are the player's own: a stale route,
and an intent that a cell refuses. What `advance_with_outcome` does to the cells and the
directory is in `Verse.Runtime.Advance` and `Verse.Handoff`; here are the calls that take a route.
-/

namespace Verse.Worker

open Lib Lib.Program
open Directory (CellKeyV1 CellDirectoryDocument CellDirectoryError)
open Interest (ResidentPlayerRoute)
open Verse.Runtime (RuntimeError Cell Act)
open Persistence (Site)

inductive TwoCellRuntimeError where
  | directory (source : CellDirectoryError)
  | runtime (source : RuntimeError)
  | handoff (source : HandoffError)
  /-- What the files of the directory or of the handoff artifacts come to. -/
  | files (message : String)
  | stalePlayerRoute (playerId : String) (requested current : ResidentPlayerRoute)
  | invalid (message : String)

/-- A running cell, and the content and seed it was opened with. -/
structure CellSlot where
  site : Site
  runtime : Cell

def CellSlot.key (slot : CellSlot) : CellKeyV1 := slot.site.cellKey

/-- The directory and the two cells that it coordinates. -/
structure LocalTwoCellRuntime where
  directory : CellDirectoryDocument
  cells : List CellSlot
  halted : Bool

abbrev Coordinated (α : Type) := Program TwoCellRuntimeError LocalTwoCellRuntime α

/-! ## Errors -/

namespace TwoCellRuntimeError

/-- `two_cell_error_is_fatal`, and `coordinator_error_requires_fence` in the same words. -/
def isFatal : TwoCellRuntimeError → Bool
  | .stalePlayerRoute .. | .runtime (.intent _) => false
  | _ => true

/-- `CellDirectoryError`'s `Display` text. -/
def directoryText : CellDirectoryError → String
  | .invalidDirectory reason => s!"cell directory invariant failed: {reason}"
  | .unknownCell cellId => s!"cell directory has no assignment for {cellId}"
  | .assignmentConflict cellId reason =>
    s!"cell assignment compare-and-swap conflict for {cellId}: {reason}"
  | .assignmentGenerationExhausted cellId =>
    s!"cell assignment generation is exhausted for {cellId}"
  | .transferConflict transferId reason =>
    s!"cell transfer compare-and-swap conflict for {transferId}: {reason}"
  | .unknownAggregate aggregateId => s!"cell directory has no placement for {aggregateId}"
  | .unknownTransfer transferId => s!"cell directory has no transfer for {transferId}"
  | .placementGenerationExhausted aggregateId =>
    s!"aggregate placement generation is exhausted for {aggregateId}"
  | .directoryRevisionExhausted => "cell directory revision is exhausted"

/-- `coordinator_runtime_error`: how a worker's callers see an error of its coordinator. -/
def toRuntimeError : TwoCellRuntimeError → RuntimeError
  | .runtime source => source
  | .stalePlayerRoute playerId _ _ =>
    .intent (.rejected "player_route_stale" s!"player {playerId} route is stale")
  | .directory source => .canonicalInvariant (directoryText source)
  | .handoff source => .canonicalInvariant source.text
  | .files message => .canonicalInvariant message
  | .invalid message => .canonicalInvariant s!"two-cell coordinator invariant failed: {message}"

end TwoCellRuntimeError

namespace LocalTwoCellRuntime

/-! ## Routes -/

/-- `runtime_for_cell`. -/
def runtimeForCell (self : LocalTwoCellRuntime) (key : CellKeyV1) : Option Cell :=
  (self.cells.find? fun slot => slot.key = key).map CellSlot.runtime

/-- `resident_player_route`. -/
def residentPlayerRoute (self : LocalTwoCellRuntime) (playerId : String) :
    Except TwoCellRuntimeError ResidentPlayerRoute := do
  let placement ← (Directory.placement self.directory playerId).mapError .directory
  rejectIf (placement.aggregateKind ≠ .player ∨ placement.state ≠ .resident
      ∨ placement.activeTransferId.isSome)
    (.invalid "player does not have one resident directory placement")
  let runtime ← demand (self.runtimeForCell placement.cellKey)
    (.invalid "resident cell is not hosted")
  rejectIf (runtime.state.player.byId.contains playerId = false)
    (.invalid "resident directory placement has no live player")
  return ⟨placement.cellKey, placement.placementGeneration⟩

/-- `runtime_for_player_at`. -/
def runtimeForPlayerAt (self : LocalTwoCellRuntime) (playerId : String)
    (requested : ResidentPlayerRoute) : Except TwoCellRuntimeError Cell := do
  let current ← self.residentPlayerRoute playerId
  rejectIf (current ≠ requested) (.stalePlayerRoute playerId requested current)
  demand (self.runtimeForCell requested.cellKey) (.invalid "resident cell is not hosted")

/-! ## Calls into the cells -/

/-- A call into the first cell of a key, and the cells after it. -/
def inCell {α : Type} (key : CellKeyV1) (x : Site → Act α) :
    List CellSlot → Option (Except RuntimeError α × List CellSlot)
  | [] => none
  | slot :: rest =>
    if slot.key = key then
      some ((x slot.site).result slot.runtime,
        { slot with runtime := (x slot.site).final slot.runtime } :: rest)
    else (inCell key x rest).map fun (result, rest) => (result, slot :: rest)

def onCell {α : Type} (key : CellKeyV1) (x : Site → Act α) : Coordinated α := fun self =>
  match inCell key x self.cells with
  | none => .error (.invalid "resident cell is not hosted") self
  | some (.ok a, cells) => .ok a { self with cells }
  | some (.error source, cells) => .error (.runtime source) { self with cells }

/-- A failure halts the coordinator if it is fatal. -/
def orHaltIfFatal {α : Type} (x : Coordinated α) : Coordinated α := fun self =>
  match x self with
  | .ok a self => .ok a self
  | .error source self => .error source { self with halted := self.halted || source.isFatal }

/-- `execute_as_at_inner`. -/
def executeAsAtInner (eventId playerId : String) (requested : ResidentPlayerRoute)
    (message : ClientMessage) : Coordinated IntentReceipt := do
  let self ← get
  let current ← lift id (self.residentPlayerRoute playerId)
  if current ≠ requested then throw (.stalePlayerRoute playerId requested current)
  onCell requested.cellKey fun site => Cell.executeAs site eventId playerId message

/-- `execute_as_at`. -/
def executeAsAt (eventId playerId : String) (requested : ResidentPlayerRoute)
    (message : ClientMessage) : Coordinated IntentReceipt :=
  orHaltIfFatal (executeAsAtInner eventId playerId requested message)

end LocalTwoCellRuntime

end Verse.Worker
