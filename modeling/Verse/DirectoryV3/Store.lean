import Verse.DirectoryV3.Journal

/-!
# The store of a history

The operations of the directory as the store makes them: each reads the current document, the
transitions of cell authority also look through the earlier ones on disk, and what they decide
on is appended.

`System` is the files together with the process that has them open, if there is one; the writer
lock keeps a second from opening them. Its events are the operations of a process, each with what
becomes of its steps, a process that opens the files, for the first time or again, and one that
quits. A crash ends the process and leaves the files as they are.
-/

namespace Verse.DirectoryV3

open Lib Directory

variable {Byte : Type} [DecidableEq Byte] (codec : HistoryCodec Byte)

/-! ## Transitions of cell authority -/

/-- What a transition comes to: an assignment that was made before, or a document to append. -/
inductive AuthorityDecision where
  | retained (assignment : CellAssignmentRecord)
  | replaced (next : CellDirectoryDocumentV3) (assignment : CellAssignmentRecord)

/-- `transition_cell_authority`, up to the commit. -/
def decideTransition (current : Fallible CellDirectoryDocumentV3)
    (predecessor : (cellId : String) → (expectedGeneration resultingGeneration : Nat) →
      Fallible (Option CellAssignmentRecord))
    (cellKey : CellKeyV1) (expectedGeneration : Nat) (holderId : String)
    (transition : CellAuthorityTransitionV3) : Fallible AuthorityDecision := do
  validateStableIdV3 holderId "assignment holder"
  let cellId ← cellIdOfV3 codec.toDirectoryCodec cellKey
  let current ← current
  let assignment ← demand (current.assignments.get? cellId) (.unknownCell cellId)
  let resultingGeneration ← demand (checkedAdd expectedGeneration 1)
    (.assignmentGenerationExhausted cellId)
  if assignment.state = .assigned
      ∧ assignment.assignmentGeneration = resultingGeneration
      ∧ assignment.holderId = some holderId
      ∧ (assignment.fencingHistory.get? expectedGeneration).bind (checkedAdd · 1)
          = some assignment.authorityFencingToken then do
    let predecessor ← predecessor cellId expectedGeneration resultingGeneration
    if predecessor.map (·.state) = some transition.expectedPredecessorState then
      return .retained assignment
    else .error (.assignmentConflict cellId
      "the committed successor belongs to another authority transition")
  else do
    rejectIf (assignment.assignmentGeneration ≠ expectedGeneration
        ∨ assignment.state ≠ transition.expectedPredecessorState
        ∨ (transition.expectedPredecessorState = .sleeping ∧ assignment.holderId.isSome))
      (.assignmentConflict cellId transition.refusal)
    rejectIf (checkedAdd assignment.authorityFencingToken 1 = none)
      (.invalidDirectory "cell authority fencing token is exhausted")
    let claimed := CellAssignmentRecord.claimedBy assignment holderId
    let next ← finishV3Transaction codec.toDirectoryCodec current
      { current with assignments := current.assignments.insert assignment.cellId claimed }
    return .replaced next claimed

/-- `release_cell`, up to the commit. -/
def decideRelease (current : Fallible CellDirectoryDocumentV3)
    (predecessor : (cellId : String) → (generation : Nat) →
      Fallible (Option CellAssignmentRecord))
    (cellKey : CellKeyV1) (expectedGeneration : Nat) (holderId : String) :
    Fallible AuthorityDecision := do
  validateStableIdV3 holderId "assignment holder"
  let cellId ← cellIdOfV3 codec.toDirectoryCodec cellKey
  let current ← current
  let assignment ← demand (current.assignments.get? cellId) (.unknownCell cellId)
  if assignment.state = .sleeping
      ∧ assignment.assignmentGeneration = expectedGeneration
      ∧ assignment.holderId = none then do
    let predecessor ← predecessor cellId expectedGeneration
    if predecessor.bind (·.holderId) = some holderId then return .retained assignment
    else .error (.assignmentConflict cellId
      "the sleeping generation was not released by this holder")
  else do
    rejectIf (assignment.state ≠ .assigned
        ∨ assignment.assignmentGeneration ≠ expectedGeneration
        ∨ assignment.holderId ≠ some holderId)
      (.assignmentConflict cellId "generation, state, or holder no longer matches")
    rejectIf (pinnedByTransfer current assignment.cellId)
      (.assignmentConflict cellId "cell assignment is pinned by a nonterminal transfer")
    let released := { assignment with state := .sleeping, holderId := none }
    let next ← finishV3Transaction codec.toDirectoryCodec current
      { current with assignments := current.assignments.insert assignment.cellId released }
    return .replaced next released

/-- `authority_transition_predecessor`: through the index, each document read from disk. -/
def authorityPredecessorOnDisk (resolve : Nat → String → Fallible CellDirectoryDocumentV3)
    (cellId : String) (expectedGeneration resultingGeneration : Nat)
    (priorAssignment : Option CellAssignmentRecord) :
    List (Nat × DraftDirectoryHistoryLocationV3) → Fallible (Option CellAssignmentRecord)
  | [] => .ok none
  | (revision, location) :: rest => do
    let document ← resolve revision location.documentHash
    let assignment ← demand (document.assignments.get? cellId) (.unknownCell cellId)
    if assignment.assignmentGeneration = resultingGeneration then
      return priorAssignment.filter (·.assignmentGeneration = expectedGeneration)
    else if resultingGeneration < assignment.assignmentGeneration then return none
    else
      authorityPredecessorOnDisk resolve cellId expectedGeneration resultingGeneration
        (some assignment) rest

/-- `release_transition_predecessor`, likewise. -/
def releasePredecessorOnDisk (resolve : Nat → String → Fallible CellDirectoryDocumentV3)
    (cellId : String) (generation : Nat) (priorAssignment : Option CellAssignmentRecord) :
    List (Nat × DraftDirectoryHistoryLocationV3) → Fallible (Option CellAssignmentRecord)
  | [] => .ok none
  | (revision, location) :: rest => do
    let document ← resolve revision location.documentHash
    let assignment ← demand (document.assignments.get? cellId) (.unknownCell cellId)
    if assignment.assignmentGeneration = generation ∧ assignment.state = .sleeping
        ∧ ∃ prior ∈ priorAssignment,
          prior.assignmentGeneration = generation ∧ prior.state = .assigned then
      return priorAssignment
    else if generation < assignment.assignmentGeneration then return none
    else releasePredecessorOnDisk resolve cellId generation (some assignment) rest

/-! ## Operations -/

/-- A decision, carried out. -/
def carryOut (current : CellDirectoryDocumentV3) : AuthorityDecision →
    Storing Byte CellAssignmentRecord
  | .retained assignment => return assignment
  | .replaced next assignment => do
    appendDocument codec (some current.directoryRevision) (some current.documentHash) next
    return assignment

def transitionOnDisk (cellKey : CellKeyV1) (expectedGeneration : Nat) (holderId : String)
    (transition : CellAuthorityTransitionV3) : Storing Byte CellAssignmentRecord := do
  let store ← memory
  let history := (← get).disk.history
  let resolve := store.resolveDocument codec history
  let decision ← check (decideTransition codec (currentDocument store)
    (fun cellId expected resulting =>
      authorityPredecessorOnDisk resolve cellId expected resulting none store.index.entries)
    cellKey expectedGeneration holderId transition)
  let current ← check (currentDocument store)
  carryOut codec current decision

def releaseOnDisk (cellKey : CellKeyV1) (expectedGeneration : Nat) (holderId : String) :
    Storing Byte CellAssignmentRecord := do
  let store ← memory
  let history := (← get).disk.history
  let resolve := store.resolveDocument codec history
  let decision ← check (decideRelease codec (currentDocument store) (fun cellId generation =>
      releasePredecessorOnDisk resolve cellId generation none store.index.entries)
    cellKey expectedGeneration holderId)
  let current ← check (currentDocument store)
  carryOut codec current decision

/-- The stage of a transfer an operation is, on the current document. -/
def DirectoryV3Op.stage (codec : DirectoryCodec) (current : CellDirectoryDocumentV3) :
    DirectoryV3Op → Option (Fallible CellDirectoryDocumentV3)
  | .prepare requested => some (stageV3Prepare codec current requested)
  | .sourcePrepared id proof => some (stageV3SourcePrepared codec current id proof)
  | .quarantine id proof => some (stageV3Quarantine codec current id proof)
  | .commit id root => some (stageV3Commit codec current id root)
  | .sourceExported id exported => some (stageV3SourceExported codec current id exported)
  | .destinationImported id imported => some (stageV3DestinationImported codec current id imported)
  | .destinationActivated id activation =>
    some (stageV3DestinationActivated codec current id activation)
  | .sourceFinalized id finalization => some (stageV3SourceFinalized codec current id finalization)
  | .requestAbort id => some (stageV3RequestAbort codec current id)
  | .abortCleanup id cleanup => some (stageV3AbortCleanup codec current id cleanup)
  | .finalizeAbort id => some (stageV3FinalizeAbort codec current id)
  | .claim _ _ _ | .recover _ _ _ | .release _ _ _ => none

/-- A stage of a transfer, committed as the successor of the document it was staged on. -/
def stageOnDisk (op : DirectoryV3Op) : Storing Byte Unit := do
  let store ← memory
  let current ← check (currentDocument store)
  match op.stage codec.toDirectoryCodec current with
  | none => return ()
  | some staged => do
    let next ← check staged
    appendDocument codec (some current.directoryRevision) (some current.documentHash) next

def actOnDisk : DirectoryV3Op → Storing Byte Unit
  | .claim cellKey generation holderId =>
    Program.forget (transitionOnDisk codec cellKey generation holderId .claimSleeping)
  | .recover cellKey generation holderId =>
    Program.forget (transitionOnDisk codec cellKey generation holderId .recoverAssigned)
  | .release cellKey generation holderId =>
    Program.forget (releaseOnDisk codec cellKey generation holderId)
  | op => stageOnDisk codec op

/-! ## The system -/

/-- The files, and the process that has them open. -/
structure HistorySystem (Byte : Type) where
  files : HistoryFiles Byte
  process : Option DraftCellDirectoryHistoryStoreV3

/-- What happens to the files, and what becomes of each write. -/
inductive HistoryEvent where
  | stageGenesis (outcomes : List Outcome)
  | reopen (outcomes : List Outcome)
  | act (op : DirectoryV3Op) (outcomes : List Outcome)
  | quit

/-- A process that has nothing open yet, with the files. -/
def HistoryFiles.unopened (files : HistoryFiles Byte) (outcomes : List Outcome) :
    Medium (HistoryFiles Byte) DraftCellDirectoryHistoryStoreV3 where
  disk := files
  memory := .reading (.emptyOf "" "")
  outcomes := outcomes

/-- A process opens the files, and is gone if it cannot. -/
def HistorySystem.start (x : Storing Byte Unit) (files : HistoryFiles Byte)
    (outcomes : List Outcome) : HistorySystem Byte :=
  match x (files.unopened outcomes) with
  | .ok _ medium => { files := medium.disk, process := some medium.memory }
  | .error _ medium => { files := medium.disk, process := none }

/-- The process goes on after an error of its own, and is gone after a crash. -/
def HistorySystem.go (x : Storing Byte Unit) (files : HistoryFiles Byte)
    (store : DraftCellDirectoryHistoryStoreV3) (outcomes : List Outcome) : HistorySystem Byte :=
  match x { disk := files, memory := store, outcomes } with
  | .ok _ medium => { files := medium.disk, process := some medium.memory }
  | .error .crashed medium => { files := medium.disk, process := none }
  | .error _ medium => { files := medium.disk, process := some medium.memory }

def HistorySystem.step (genesis : CellDirectoryDocumentV3) (system : HistorySystem Byte) :
    HistoryEvent → HistorySystem Byte
  | .stageGenesis outcomes =>
    match system.process with
    | some _ => system
    | none => .start (openOrInitialize codec genesis) system.files outcomes
  | .reopen outcomes =>
    match system.process with
    | some _ => system
    | none =>
      .start (openHistory codec genesis.universeId genesis.universeManifestHash) system.files
        outcomes
  | .act op outcomes =>
    match system.process with
    | none => system
    | some store => .go (actOnDisk codec op) system.files store outcomes
  | .quit => { system with process := none }

/-- A life of the history, from before it was first opened. -/
def HistorySystem.run (genesis : CellDirectoryDocumentV3) (system : HistorySystem Byte)
    (events : List HistoryEvent) : HistorySystem Byte :=
  events.foldl (HistorySystem.step codec genesis) system

/-- Nothing written, and no process. -/
def HistorySystem.unwritten : HistorySystem Byte where
  files := .none
  process := none

/-- The documents of the lines that are ended. -/
def writtenDocuments (files : HistoryFiles Byte) : List CellDirectoryDocumentV3 :=
  (splitLines codec.newline files.history).1.filterMap fun line =>
    (DraftDirectoryHistoryEntryV3.decodeCanonical codec line).toOption.map (·.document)

end Verse.DirectoryV3
