import Verse.DirectoryV3.Stage
import Verse.Lib.Run

/-!
# The directory and its history

The directory keeps every document it has ever committed. The stages of a transfer read the
current one; the transitions of cell authority also look back, because a claim or a release
that is delivered twice is recognised by the documents on either side of its first delivery.

`DirectoryV3Op` names the fourteen operations with their arguments, and a life of the directory
is a run of `step` from the history of a genesis document alone.
-/

namespace Verse.DirectoryV3

open Lib Directory

variable (codec : DirectoryCodec)

/-- All documents of a directory, and which is the last. -/
structure DirectoryHistory where
  earlier : List CellDirectoryDocumentV3
  current : CellDirectoryDocumentV3
deriving DecidableEq

/-- Every committed document, oldest first. -/
def DirectoryHistory.documents (history : DirectoryHistory) : List CellDirectoryDocumentV3 :=
  history.earlier ++ [history.current]

/-- `append_document` of a document after the first: the caller says which document it read, and
    a document that changes nothing is not appended. -/
def DirectoryHistory.commit (history : DirectoryHistory) (expectedRevision : Nat)
    (expectedDocumentHash : String) (next : CellDirectoryDocumentV3) :
    Fallible DirectoryHistory := do
  next.validate codec
  rejectIf (expectedRevision ≠ history.current.directoryRevision
      ∨ expectedDocumentHash ≠ history.current.documentHash)
    (.invalidDirectory "v3 directory history compare-and-swap is stale")
  if next = history.current then return history
  else do
    rejectIf (checkedAdd history.current.directoryRevision 1 = none) .directoryRevisionExhausted
    rejectIf (next.directoryRevision ≠ history.current.directoryRevision + 1
        ∨ next.universeId ≠ history.current.universeId
        ∨ next.universeManifestHash ≠ history.current.universeManifestHash
        ∨ next.migrationGenesis ≠ history.current.migrationGenesis)
      (.invalidDirectory "v3 directory history successor revision or identity is invalid")
    return { earlier := history.documents, current := next }

/-- What is committed is staged from the current document, so the caller has read it. -/
def DirectoryHistory.advance (history : DirectoryHistory) (next : CellDirectoryDocumentV3) :
    Fallible DirectoryHistory :=
  history.commit codec history.current.directoryRevision history.current.documentHash next

/-! ## Cell authority -/

inductive CellAuthorityTransitionV3 where
  | claimSleeping
  | recoverAssigned
deriving DecidableEq, Repr

/-- The state a transition starts from. -/
def CellAuthorityTransitionV3.expectedPredecessorState :
    CellAuthorityTransitionV3 → CellAssignmentState
  | .claimSleeping => .sleeping
  | .recoverAssigned => .assigned

def CellAuthorityTransitionV3.refusal : CellAuthorityTransitionV3 → String
  | .claimSleeping => "expected the current sleeping generation without a holder"
  | .recoverAssigned => "only the current assigned generation may be recovered"

/-- The assignment just before the cell first had `resultingGeneration`, if it then had
    `expectedGeneration`. -/
def authorityTransitionPredecessor (cellId : String) (expectedGeneration resultingGeneration : Nat)
    (priorAssignment : Option CellAssignmentRecord) :
    List CellDirectoryDocumentV3 → Fallible (Option CellAssignmentRecord)
  | [] => .ok none
  | document :: rest => do
    let assignment ← demand (document.assignments.get? cellId) (.unknownCell cellId)
    if assignment.assignmentGeneration = resultingGeneration then
      return priorAssignment.filter (·.assignmentGeneration = expectedGeneration)
    else if resultingGeneration < assignment.assignmentGeneration then return none
    else
      authorityTransitionPredecessor cellId expectedGeneration resultingGeneration
        (some assignment) rest

/-- The assignment from which the generation was released, if it was. -/
def releaseTransitionPredecessor (cellId : String) (generation : Nat)
    (priorAssignment : Option CellAssignmentRecord) :
    List CellDirectoryDocumentV3 → Fallible (Option CellAssignmentRecord)
  | [] => .ok none
  | document :: rest => do
    let assignment ← demand (document.assignments.get? cellId) (.unknownCell cellId)
    if assignment.assignmentGeneration = generation ∧ assignment.state = .sleeping
        ∧ ∃ prior ∈ priorAssignment,
          prior.assignmentGeneration = generation ∧ prior.state = .assigned then
      return priorAssignment
    else if generation < assignment.assignmentGeneration then return none
    else releaseTransitionPredecessor cellId generation (some assignment) rest

/-- `cell_id` of a key, or its refusal. -/
def cellIdOfV3 (cellKey : CellKeyV1) : Fallible String :=
  demand (codec.sky.cellId cellKey) (.invalidDirectory (codec.sky.reason cellKey))

/-- The assignment a transition leaves behind. -/
def CellAssignmentRecord.claimedBy (assignment : CellAssignmentRecord) (holderId : String) :
    CellAssignmentRecord :=
  { assignment with
    assignmentGeneration := assignment.assignmentGeneration + 1
    authorityFencingToken := assignment.authorityFencingToken + 1
    fencingHistory := assignment.fencingHistory.insert (assignment.assignmentGeneration + 1)
      (assignment.authorityFencingToken + 1)
    state := .assigned
    holderId := some holderId }

def transitionCellAuthority (history : DirectoryHistory) (cellKey : CellKeyV1)
    (expectedGeneration : Nat) (holderId : String) (transition : CellAuthorityTransitionV3) :
    Fallible (DirectoryHistory × CellAssignmentRecord) := do
  validateStableIdV3 holderId "assignment holder"
  let cellId ← cellIdOfV3 codec cellKey
  let current := history.current
  let assignment ← demand (current.assignments.get? cellId) (.unknownCell cellId)
  let resultingGeneration ← demand (checkedAdd expectedGeneration 1)
    (.assignmentGenerationExhausted cellId)
  -- a successor that only this transition can have made, unless another holder's history says so
  if assignment.state = .assigned
      ∧ assignment.assignmentGeneration = resultingGeneration
      ∧ assignment.holderId = some holderId
      ∧ (assignment.fencingHistory.get? expectedGeneration).bind (checkedAdd · 1)
          = some assignment.authorityFencingToken then do
    let predecessor ← authorityTransitionPredecessor cellId expectedGeneration
      resultingGeneration none history.documents
    if predecessor.map (·.state) = some transition.expectedPredecessorState then
      return (history, assignment)
    else .error (.assignmentConflict cellId
      "the committed successor belongs to another authority transition")
  else do
    rejectIf (assignment.assignmentGeneration ≠ expectedGeneration
        ∨ assignment.state ≠ transition.expectedPredecessorState
        ∨ (transition.expectedPredecessorState = .sleeping ∧ assignment.holderId.isSome))
      (.assignmentConflict cellId transition.refusal)
    rejectIf (checkedAdd assignment.authorityFencingToken 1 = none)
      (.invalidDirectory "cell authority fencing token is exhausted")
    let claimed := CellAssignmentRecord.claimedBy assignment holderId
    let next ← finishV3Transaction codec current
      { current with assignments := current.assignments.insert assignment.cellId claimed }
    let history ← history.advance codec next
    return (history, claimed)

def claimCell (history : DirectoryHistory) (cellKey : CellKeyV1) (expectedGeneration : Nat)
    (holderId : String) : Fallible (DirectoryHistory × CellAssignmentRecord) :=
  transitionCellAuthority codec history cellKey expectedGeneration holderId .claimSleeping

def recoverCell (history : DirectoryHistory) (cellKey : CellKeyV1) (expectedGeneration : Nat)
    (holderId : String) : Fallible (DirectoryHistory × CellAssignmentRecord) :=
  transitionCellAuthority codec history cellKey expectedGeneration holderId .recoverAssigned

/-- A nonterminal transfer pins both cells it is between. -/
def pinnedByTransfer (document : CellDirectoryDocumentV3) (cellId : String) : Prop :=
  ∃ transfer ∈ document.transfers.values,
    ¬ terminal transfer.phase
      ∧ (transfer.sourceCellId = cellId ∨ transfer.destinationCellId = cellId)

instance (document : CellDirectoryDocumentV3) (cellId : String) :
    Decidable (pinnedByTransfer document cellId) := by
  unfold pinnedByTransfer; infer_instance

def releaseCell (history : DirectoryHistory) (cellKey : CellKeyV1) (expectedGeneration : Nat)
    (holderId : String) : Fallible (DirectoryHistory × CellAssignmentRecord) := do
  validateStableIdV3 holderId "assignment holder"
  let cellId ← cellIdOfV3 codec cellKey
  let current := history.current
  let assignment ← demand (current.assignments.get? cellId) (.unknownCell cellId)
  if assignment.state = .sleeping
      ∧ assignment.assignmentGeneration = expectedGeneration
      ∧ assignment.holderId = none then do
    let predecessor ← releaseTransitionPredecessor cellId expectedGeneration none
      history.documents
    if predecessor.bind (·.holderId) = some holderId then return (history, assignment)
    else .error (.assignmentConflict cellId
      "the sleeping generation was not released by this holder")
  else do
    rejectIf (assignment.state ≠ .assigned
        ∨ assignment.assignmentGeneration ≠ expectedGeneration
        ∨ assignment.holderId ≠ some holderId)
      (.assignmentConflict cellId "generation, state, or holder no longer matches")
    rejectIf (pinnedByTransfer current assignment.cellId)
      (.assignmentConflict cellId "cell assignment is pinned by a nonterminal transfer")
    let released := { assignment with state := .sleeping, holderId := none }
    let next ← finishV3Transaction codec current
      { current with assignments := current.assignments.insert assignment.cellId released }
    let history ← history.advance codec next
    return (history, released)

/-! ## Runs -/

/-- The fourteen operations, with the arguments a caller supplies. -/
inductive DirectoryV3Op where
  | prepare (requested : CellTransferRecordV3)
  | sourcePrepared (transferId : String) (prepare : DraftGridPrepareProofV2)
  | quarantine (transferId : String) (quarantine : DraftGridQuarantineProofV2)
  | commit (transferId expectedMemberRoot : String)
  | sourceExported (transferId : String) (exported : DraftGridExportProofV2)
  | destinationImported (transferId : String) (imported : DraftGridImportProofV2)
  | destinationActivated (transferId : String) (activation : DraftGridActivationProofV2)
  | sourceFinalized (transferId : String) (finalization : DraftGridFinalizationProofV2)
  | requestAbort (transferId : String)
  | abortCleanup (transferId : String) (cleanup : DraftGridAbortCleanupProofV2)
  | finalizeAbort (transferId : String)
  | claim (cellKey : CellKeyV1) (expectedGeneration : Nat) (holderId : String)
  | recover (cellKey : CellKeyV1) (expectedGeneration : Nat) (holderId : String)
  | release (cellKey : CellKeyV1) (expectedGeneration : Nat) (holderId : String)
deriving DecidableEq

def DirectoryHistory.step (history : DirectoryHistory) (op : DirectoryV3Op) :
    Fallible DirectoryHistory :=
  let stage (next : Fallible CellDirectoryDocumentV3) := next >>= history.advance codec
  let current := history.current
  match op with
  | .prepare requested => stage (stageV3Prepare codec current requested)
  | .sourcePrepared id prepare => stage (stageV3SourcePrepared codec current id prepare)
  | .quarantine id quarantine => stage (stageV3Quarantine codec current id quarantine)
  | .commit id root => stage (stageV3Commit codec current id root)
  | .sourceExported id exported => stage (stageV3SourceExported codec current id exported)
  | .destinationImported id imported =>
    stage (stageV3DestinationImported codec current id imported)
  | .destinationActivated id activation =>
    stage (stageV3DestinationActivated codec current id activation)
  | .sourceFinalized id finalization =>
    stage (stageV3SourceFinalized codec current id finalization)
  | .requestAbort id => stage (stageV3RequestAbort codec current id)
  | .abortCleanup id cleanup => stage (stageV3AbortCleanup codec current id cleanup)
  | .finalizeAbort id => stage (stageV3FinalizeAbort codec current id)
  | .claim cellKey generation holderId =>
    Prod.fst <$> claimCell codec history cellKey generation holderId
  | .recover cellKey generation holderId =>
    Prod.fst <$> recoverCell codec history cellKey generation holderId
  | .release cellKey generation holderId =>
    Prod.fst <$> releaseCell codec history cellKey generation holderId

abbrev run (history : DirectoryHistory) (ops : List DirectoryV3Op) : Fallible DirectoryHistory :=
  runAll (DirectoryHistory.step codec) history ops

/-- A document a directory may begin with: valid, and without a transfer of its own. -/
structure IsGenesis (document : CellDirectoryDocumentV3) : Prop where
  valid : document.validate codec = .ok ()
  no_transfers : document.transfers = OrdMap.empty

/-- The history of a genesis document alone. -/
def genesisHistory (document : CellDirectoryDocumentV3) : DirectoryHistory where
  earlier := []
  current := document

end Verse.DirectoryV3
