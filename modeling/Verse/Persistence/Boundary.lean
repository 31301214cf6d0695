import Verse.Persistence.Lifecycle

/-!
# Transfer boundaries

Each handoff event of a cell leaves one more line in a second journal, the boundary it crossed:
which event, under which fence, and the hash of the world it made. The lines form a hash chain,
and its head is in the lifecycle record, so that a proof handed to the universe directory can be
found again, and can be checked against the events it came from.

Reading the chain back replays the events the snapshot does not cover. A boundary that is
missing at the end of the chain is written again, if its event is the announced one.
-/

namespace Verse.Persistence

open Lib
open Directory (CellKeyV1)

inductive TransferBoundaryKind where
  | prepare
  | quarantine
  | import
  | export
  | abortSource
  | abortDestination
deriving DecidableEq, Repr

namespace TransferBoundaryKind

def index : TransferBoundaryKind → Nat
  | prepare => 0
  | quarantine => 1
  | «import» => 2
  | «export» => 3
  | abortSource => 4
  | abortDestination => 5

/-- The `Debug` text. -/
def text : TransferBoundaryKind → String
  | prepare => "Prepare"
  | quarantine => "Quarantine"
  | «import» => "Import"
  | «export» => "Export"
  | abortSource => "AbortSource"
  | abortDestination => "AbortDestination"

theorem index_injective : Function.Injective index := by
  intro a b h
  cases a <;> cases b <;> first | rfl | cases h

/-- The derived order: the order of declaration. -/
instance : LinearOrder TransferBoundaryKind := LinearOrder.lift' index index_injective

end TransferBoundaryKind

structure DurableTransferBoundary where
  (transferId packageHash : String)
  receiptHash : Option String
  cellId : String
  kind : TransferBoundaryKind
  (authorityFencingToken eventSequence : Nat)
  (eventHash resultingWorldHash previousBoundaryHash boundaryHash : String)
deriving DecidableEq, Repr

/-- A transfer and a kind, in the order of the index. -/
abbrev BoundaryKey := String ×ₗ TransferBoundaryKind

def boundaryKey (transferId : String) (kind : TransferBoundaryKind) : BoundaryKey :=
  toLex (transferId, kind)

abbrev TransferBoundaryIndex := OrdMap BoundaryKey DurableTransferBoundary

/-- Where a process keeps one cell, and what it is built with: the seed and the key of the
    cell, the manifest of its own content, the world it begins from (`genesis_for_cell`), the
    hash of a boundary, which does not read the field it is stored in, and whether the physics
    scene follows an event into the world it makes. -/
structure Site where
  host : Host
  worldSeed : Nat
  cellKey : CellKeyV1
  cellId : String
  manifest : RuntimeManifest
  genesis : Except String WorldState
  boundaryHash : DurableTransferBoundary → String
  sceneFollows : WorldState → EventPayload → Except String Unit
  sceneBuilds : WorldState → Except String Unit
  snapshotEvery : Nat

variable (site : Site)

namespace DurableTransferBoundary

def key (boundary : DurableTransferBoundary) : BoundaryKey :=
  boundaryKey boundary.transferId boundary.kind

def calculateHash (boundary : DurableTransferBoundary) : String :=
  site.boundaryHash { boundary with boundaryHash := "" }

def hashIsValid (boundary : DurableTransferBoundary) : Bool :=
  validBlake3Hex boundary.boundaryHash
    && boundary.boundaryHash == boundary.calculateHash site

/-- The boundary as the next link of a chain. -/
def linked (boundary : DurableTransferBoundary) (head : String) : DurableTransferBoundary :=
  let boundary := { boundary with previousBoundaryHash := head }
  { boundary with boundaryHash := boundary.calculateHash site }

end DurableTransferBoundary

/-- `same_transfer_boundary_material`: equal but for the chain. -/
def sameTransferBoundaryMaterial (left right : DurableTransferBoundary) : Bool :=
  left.transferId == right.transferId
    && left.packageHash == right.packageHash
    && left.receiptHash == right.receiptHash
    && left.cellId == right.cellId
    && left.kind == right.kind
    && left.authorityFencingToken == right.authorityFencingToken
    && left.eventSequence == right.eventSequence
    && left.eventHash == right.eventHash
    && left.resultingWorldHash == right.resultingWorldHash

/-- What a handoff event says of its boundary: the package, the receipt and the kind. -/
def boundaryMaterial (event : CanonicalEvent) :
    Persisted (Option (PlayerTransferPackage × Option String × TransferBoundaryKind)) :=
  match event.payload with
  | .playerTransferPrepared package _ => return some (package, none, .prepare)
  | .playerTransferQuarantined package receipt =>
    return some (package, some receipt.receiptHash, .quarantine)
  | .playerTransferImported package receipt _ =>
    return some (package, some receipt.receiptHash, .import)
  | .playerTransferExported package _ => return some (package, none, .export)
  | .playerTransferAborted package _ =>
    if event.cellId = package.sourceCellId then return some (package, none, .abortSource)
    else if event.cellId = package.destinationCellId then
      return some (package, none, .abortDestination)
    else .error (.invalidTransferBoundary "abort event belongs to neither transfer cell")
  | _ => return none

/-- The cell a boundary of a kind is crossed in. -/
def boundaryCellId (package : PlayerTransferPackage) : TransferBoundaryKind → String
  | .prepare | .export | .abortSource => package.sourceCellId
  | .quarantine | .import | .abortDestination => package.destinationCellId

/-- `transfer_boundary_from_event`: the boundary of a handoff event, not yet linked. -/
def transferBoundaryFromEvent (event : CanonicalEvent) (resultingWorldHash : String) :
    Persisted (Option DurableTransferBoundary) := do
  match ← boundaryMaterial event with
  | none => return none
  | some (package, receiptHash, kind) => do
    rejectIf (event.hashIsValid site.host = false
        ∨ event.authorityFencingToken = 0
        ∨ event.eventSequence = 0
        ∨ validBlake3Hex resultingWorldHash = false)
      (.invalidTransferBoundary "event, fence, sequence, or resulting world hash is invalid")
    rejectIf (package.hashIsValid site.host = false
        ∨ package.transferId = ""
        ∨ event.cellId ≠ boundaryCellId package kind)
      (.invalidTransferBoundary "transfer event is not bound to its package and cell")
    return some {
      transferId := package.transferId
      packageHash := package.packageHash
      receiptHash
      cellId := event.cellId
      kind
      authorityFencingToken := event.authorityFencingToken
      eventSequence := event.eventSequence
      eventHash := event.eventHash
      resultingWorldHash
      previousBoundaryHash := ""
      boundaryHash := "" }

def isTransferEvent (event : CanonicalEvent) : Bool :=
  match event.payload with
  | .playerTransferPrepared .. | .playerTransferQuarantined .. | .playerTransferImported ..
  | .playerTransferExported .. | .playerTransferAborted .. => true
  | _ => false

/-! ## Reading the chain -/

/-- What indexing the journal knows: the world so far, each transfer event by its key, and the
    boundary each event beyond the snapshot must have. -/
structure IndexedJournal where
  replay : WorldState
  canonicalEvents : OrdMap BoundaryKey CanonicalEvent
  expected : TransferBoundaryIndex

/-- `"0".repeat(64)`, the hash of no world. -/
def noWorldHash : String := "0000000000000000000000000000000000000000000000000000000000000000"

/-- One line of the journal, indexed. -/
def indexEvent (snapshotEventSequence : Nat) (indexed : IndexedJournal)
    (event : CanonicalEvent) : Persisted IndexedJournal := do
  rejectIf (event.hashIsValid site.host = false)
    (.invalidTransferBoundary s!"event {event.eventSequence} has an invalid hash while indexing transfer proofs")
  let transferIdentity ← transferBoundaryFromEvent site event noWorldHash
  let canonicalEvents :=
    match transferIdentity with
    | some identity => indexed.canonicalEvents.insert identity.key event
    | none => indexed.canonicalEvents
  let indexed := { indexed with canonicalEvents }
  if event.eventSequence ≤ snapshotEventSequence then return indexed
  else do
    let replay ← (indexed.replay.applyEvent site.host event).mapError
      (.replay event.eventSequence)
    match ← transferBoundaryFromEvent site event (replay.stateHash site.host) with
    | none => return { indexed with replay }
    | some boundary => do
      rejectIf (∃ existing ∈ indexed.expected.get? boundary.key, existing ≠ boundary)
        (.invalidTransferBoundary s!"transfer {boundary.transferId} has multiple canonical {boundary.kind.text} events")
      return { indexed with replay, expected := indexed.expected.insert boundary.key boundary }

/-- What reading the chain knows: the boundaries so far, its head, and where the head the
    lifecycle record names lies on it. -/
structure ReadChain where
  committed : TransferBoundaryIndex
  observedHead : String
  lifecycleHeadOnChain : Bool
  (recordsAfterLifecycleHead lastCommittedEventSequence : Nat)
  lastCommittedEventHash : String

/-- One line of the chain, read. -/
def readBoundary (lifecycle : CellLifecycleRecord) (indexed : IndexedJournal)
    (chain : ReadChain) (boundary : DurableTransferBoundary) : Persisted ReadChain := do
  let named := s!"transfer {boundary.transferId} {boundary.kind.text}"
  let event ← demand (indexed.canonicalEvents.get? boundary.key)
    (.invalidTransferBoundary s!"{named} boundary has no canonical cell event")
  rejectIf (boundary.previousBoundaryHash ≠ chain.observedHead
      ∨ boundary.hashIsValid site = false)
    (.invalidTransferBoundary s!"{named} breaks the durable boundary hash chain")
  rejectIf (boundary.eventSequence ≤ chain.lastCommittedEventSequence)
    (.invalidTransferBoundary s!"{named} does not advance the boundary event frontier")
  let eventBound ← transferBoundaryFromEvent site event boundary.resultingWorldHash
  rejectIf (¬ ∃ material ∈ eventBound, sameTransferBoundaryMaterial material boundary)
    (.invalidTransferBoundary s!"{named} boundary does not match its canonical event")
  rejectIf (∃ canonical ∈ indexed.expected.get? boundary.key,
      sameTransferBoundaryMaterial canonical boundary = false)
    (.invalidTransferBoundary s!"{named} corrupts its replay-derived post-state root")
  rejectIf (∃ existing ∈ chain.committed.get? boundary.key, existing ≠ boundary)
    (.invalidTransferBoundary s!"transfer {boundary.transferId} has conflicting {boundary.kind.text} boundaries")
  let atHead := boundary.boundaryHash == lifecycle.transferBoundaryHeadHash
  return {
    committed := chain.committed.insert boundary.key boundary
    observedHead := boundary.boundaryHash
    lifecycleHeadOnChain := atHead || chain.lifecycleHeadOnChain
    recordsAfterLifecycleHead :=
      if atHead then 0
      else if chain.lifecycleHeadOnChain then chain.recordsAfterLifecycleHead + 1
      else chain.recordsAfterLifecycleHead
    lastCommittedEventSequence := boundary.eventSequence
    lastCommittedEventHash := boundary.eventHash }

/-- The boundaries of a chain, its head, and the line that must be written again. -/
structure LoadedTransferBoundaries where
  index : TransferBoundaryIndex
  head : String
  backfill : Option DurableTransferBoundary

/-- The last boundary of an index, by the sequence of its event. -/
def lastBoundary (index : TransferBoundaryIndex) : Option DurableTransferBoundary :=
  index.values.foldl (fun last boundary =>
    match last with
    | some latest =>
      if boundary.eventSequence < latest.eventSequence then some latest else some boundary
    | none => some boundary) none

/-- The whole chain against the whole journal. -/
def readTransferBoundaries (snapshotEventSequence : Nat) (base : WorldState)
    (journal : List CanonicalEvent) (boundaries : List DurableTransferBoundary)
    (lifecycle : CellLifecycleRecord) : Persisted LoadedTransferBoundaries := do
  let indexed ← journal.foldlM (indexEvent site snapshotEventSequence)
    { replay := base, canonicalEvents := .empty, expected := .empty }
  let chain ← boundaries.foldlM (readBoundary site lifecycle indexed) {
    committed := .empty
    observedHead := ""
    lifecycleHeadOnChain := decide (lifecycle.transferBoundaryHeadHash = "")
    recordsAfterLifecycleHead := 0
    lastCommittedEventSequence := 0
    lastCommittedEventHash := "" }
  rejectIf (chain.observedHead ≠ lifecycle.transferBoundaryHeadHash
      ∧ (chain.lifecycleHeadOnChain = false
        ∨ chain.recordsAfterLifecycleHead ≠ 1
        ∨ ¬ ∃ pending ∈ lifecycle.pendingWorldCommit,
            pending.eventSequence = chain.lastCommittedEventSequence
              ∧ pending.eventHash = chain.lastCommittedEventHash))
    (.invalidTransferBoundary
      "boundary hash-chain suffix is not the one exact pending lifecycle commit")
  checkAll (fun (entry : BoundaryKey × CanonicalEvent) =>
      rejectIf (entry.2.eventSequence ≤ snapshotEventSequence
          ∧ chain.committed.contains entry.1 = false)
        (.invalidTransferBoundary s!"historic transfer {(ofLex entry.1).1} {(ofLex entry.1).2.text} is missing its event-time boundary"))
    indexed.canonicalEvents.entries
  let missing := (indexed.expected.entries.filter fun entry =>
    !chain.committed.contains entry.1).map Prod.snd
  match missing with
  | [] => return { index := chain.committed, head := chain.observedHead, backfill := none }
  | boundary :: others => do
    rejectIf (others ≠ []
        ∨ ¬ ∃ pending ∈ lifecycle.pendingWorldCommit, pending.eventHash = boundary.eventHash)
      (.invalidTransferBoundary
        "only the exact pending world event may backfill a missing boundary")
    let linked := boundary.linked site chain.observedHead
    let committed := chain.committed.insert linked.key linked
    return {
      index := committed
      head := (lastBoundary committed).elim chain.observedHead
        DurableTransferBoundary.boundaryHash
      backfill := some linked }

end Verse.Persistence
