import Verse.Directory.Validate
import Verse.Lib.Run

/-!
# The operations of the directory

Each operation takes the current document to the document it commits and the record it
returns. An operation that recognises its own earlier success returns the record it finds and
commits nothing; every other accepted operation commits a document whose revision is one
higher.

`DirectoryOp` names the thirteen of them with their arguments, and `run` is the whole life of
a directory: any list of operations, each accepted in turn.
-/

namespace Verse.Directory

open Lib

variable (ids : CellIds)

/-- `commit_document`: the write is taken to be faithful, so what can fail is the revision. -/
def commitDocument (current next : CellDirectoryDocument) : Fallible CellDirectoryDocument := do
  let directoryRevision ← demand (checkedAdd current.directoryRevision 1)
    .directoryRevisionExhausted
  return { next with directoryRevision }

/-- The identifier of a cell, or the refusal of its key. -/
def cellIdOf (cellKey : CellKeyV1) : Fallible String :=
  demand (ids.cellId cellKey) (.invalidDirectory (ids.reason cellKey))

/-- `LocalCellDirectory::assignment`. -/
def assignment (document : CellDirectoryDocument) (cellKey : CellKeyV1) :
    Fallible CellAssignmentRecord := do
  let cellId ← cellIdOf ids cellKey
  demand (document.assignments.get? cellId) (.unknownCell cellId)

/-- `LocalCellDirectory::placement`. -/
def placement (document : CellDirectoryDocument) (aggregateId : String) :
    Fallible AggregatePlacementRecord :=
  demand (document.placements.get? aggregateId) (.unknownAggregate aggregateId)

/-- `LocalCellDirectory::transfer`. -/
def transfer (document : CellDirectoryDocument) (transferId : String) :
    Fallible CellTransferRecord :=
  demand (document.transfers.get? transferId) (.unknownTransfer transferId)

/-! ## Opening -/

/-- `celestial::cell_origin_key`. -/
def cellOriginKey : CellKeyV1 where
  schemaVersion := 1
  universeId := "the-verse-local"
  sectorX := "0"
  sectorY := "0"
  sectorZ := "0"
  cellX := 500
  cellY := 500
  cellZ := 500

/-- `proof_cell_keys`: the origin and its neighbour to the east. -/
def proofCellKeys : List CellKeyV1 := [cellOriginKey, { cellOriginKey with cellX := 501 }]

/-- The identifiers of the two proof cells; no other key is canonical here. -/
def proofCellIds : CellIds where
  cellId key :=
    if key = cellOriginKey then
      some "5110e8ef07316dc5fc8cd48210915d3e879779c67dc3e11a9da0402656c76d17"
    else if key = { cellOriginKey with cellX := 501 } then
      some "e24242afc42c71a9629093e0c82b1779e306e92c52804ebc105ef373fa5a8f4d"
    else none
  reason _ := "invalid address: cell key is not a proof cell"
  injective := by
    intro k k' id h h'
    split at h <;> split at h' <;> simp_all
    all_goals grind

/-- One proof cell joins the assignments, asleep and never held. -/
def addProofCell (universeManifest : UniverseManifest)
    (assignments : OrdMap String CellAssignmentRecord) (cellKey : CellKeyV1) :
    Fallible (OrdMap String CellAssignmentRecord) := do
  rejectIf (ids.cellId cellKey = none) (.invalidDirectory (ids.reason cellKey))
  rejectIf (cellKey.universeId ≠ universeManifest.universeId)
    (.invalidDirectory "proof cell belongs to a different universe")
  let cellId ← cellIdOf ids cellKey
  rejectIf (assignments.contains cellId)
    (.invalidDirectory "proof cells contain a duplicate canonical identity")
  return assignments.insert cellId
    { cellKey, cellId, assignmentGeneration := 0, authorityFencingToken := 0,
      fencingHistory := OrdMap.empty, state := .sleeping, holderId := none }

/-- `canonical_assignments`: two distinct canonical cells of this universe. -/
def canonicalAssignments (universeManifest : UniverseManifest) (proofCells : List CellKeyV1) :
    Fallible (OrdMap String CellAssignmentRecord) := do
  let assignments ← proofCells.foldlM (addProofCell ids universeManifest) OrdMap.empty
  rejectIf (assignments.size ≠ 2)
    (.invalidDirectory "P1.7 proof requires exactly two canonical cells")
  return assignments

/-- The document `open` writes where there is none yet. -/
def freshDocument (universeManifest : UniverseManifest)
    (expectedAssignments : OrdMap String CellAssignmentRecord) : CellDirectoryDocument where
  schemaVersion := cellDirectorySchemaVersion
  universeId := universeManifest.universeId
  universeManifestHash := universeManifest.manifestHash
  directoryRevision := 1
  assignments := expectedAssignments
  placements := OrdMap.empty
  transfers := OrdMap.empty

/-! ## Assignments -/

/-- A cell that sleeps gets a holder, in a new generation. -/
def claim (document : CellDirectoryDocument) (cellKey : CellKeyV1) (expectedGeneration : Nat)
    (holderId : String) (authorityFencingToken : Nat) :
    Fallible (CellDirectoryDocument × CellAssignmentRecord) := do
  validateHolder holderId
  rejectIf (authorityFencingToken = 0)
    (.invalidDirectory "assigned cell authority fence must be positive")
  let cellId ← cellIdOf ids cellKey
  let assignment ← demand (document.assignments.get? cellId) (.unknownCell cellId)
  rejectIf (assignment.assignmentGeneration ≠ expectedGeneration
      ∨ assignment.state ≠ .sleeping
      ∨ assignment.holderId.isSome)
    (.assignmentConflict cellId "expected the current sleeping generation without a holder")
  let assignmentGeneration ← demand (checkedAdd assignment.assignmentGeneration 1)
    (.assignmentGenerationExhausted assignment.cellId)
  rejectIf (authorityFencingToken ≤ assignment.authorityFencingToken)
    (.assignmentConflict cellId "new cell authority fence must exceed its durable predecessor")
  let assignment := { assignment with
    assignmentGeneration, authorityFencingToken
    state := .assigned
    holderId := some holderId
    fencingHistory := assignment.fencingHistory.insert assignmentGeneration authorityFencingToken }
  let next ← commitDocument document
    { document with assignments := document.assignments.insert cellId assignment }
  return (next, assignment)

/-- A nonterminal transfer pins both cells it is between. -/
def pinnedByTransfer (document : CellDirectoryDocument) (cellId : String) : Prop :=
  ∃ transfer ∈ document.transfers.values,
    ¬ (transfer.phase = .finalized ∨ transfer.phase = .aborted)
      ∧ (transfer.sourceCellId = cellId ∨ transfer.destinationCellId = cellId)

instance (document : CellDirectoryDocument) (cellId : String) :
    Decidable (pinnedByTransfer document cellId) := by
  unfold pinnedByTransfer; infer_instance

/-- The holder gives its cell back. -/
def release (document : CellDirectoryDocument) (cellKey : CellKeyV1) (expectedGeneration : Nat)
    (holderId : String) : Fallible (CellDirectoryDocument × CellAssignmentRecord) := do
  validateHolder holderId
  let cellId ← cellIdOf ids cellKey
  let assignment ← demand (document.assignments.get? cellId) (.unknownCell cellId)
  if assignment.state = .sleeping
      ∧ assignment.assignmentGeneration = expectedGeneration
      ∧ assignment.holderId.isNone then
    return (document, assignment)
  else do
    rejectIf (assignment.assignmentGeneration ≠ expectedGeneration
        ∨ assignment.state ≠ .assigned
        ∨ assignment.holderId ≠ some holderId)
      (.assignmentConflict cellId "generation, state, or holder no longer matches")
    rejectIf (pinnedByTransfer document cellId)
      (.assignmentConflict cellId "cell assignment is pinned by a nonterminal transfer")
    let assignment := { assignment with state := .sleeping, holderId := none }
    let next ← commitDocument document
      { document with assignments := document.assignments.insert cellId assignment }
    return (next, assignment)

def recoverAssignment (document : CellDirectoryDocument) (cellKey : CellKeyV1)
    (expectedGeneration : Nat) (holderId : String) (authorityFencingToken : Nat) :
    Fallible (CellDirectoryDocument × CellAssignmentRecord) := do
  validateHolder holderId
  let cellId ← cellIdOf ids cellKey
  let assignment ← demand (document.assignments.get? cellId) (.unknownCell cellId)
  rejectIf (assignment.assignmentGeneration ≠ expectedGeneration ∨ assignment.state ≠ .assigned)
    (.assignmentConflict cellId "only the current assigned generation may be recovered")
  let assignmentGeneration ← demand (checkedAdd assignment.assignmentGeneration 1)
    (.assignmentGenerationExhausted assignment.cellId)
  rejectIf (authorityFencingToken ≤ assignment.authorityFencingToken)
    (.assignmentConflict cellId "replacement cell authority fence must strictly advance")
  let assignment := { assignment with
    assignmentGeneration, authorityFencingToken
    fencingHistory := assignment.fencingHistory.insert assignmentGeneration authorityFencingToken
    holderId := some holderId }
  let next ← commitDocument document
    { document with assignments := document.assignments.insert cellId assignment }
  return (next, assignment)

/-! ## Placements -/

def registerPlacement (document : CellDirectoryDocument) (aggregateId : String)
    (aggregateKind : MobileAggregateKind) (cellKey : CellKeyV1) :
    Fallible (CellDirectoryDocument × AggregatePlacementRecord) := do
  validateStableId aggregateId "aggregate"
  let assignment ← assignment ids document cellKey
  let requested : AggregatePlacementRecord :=
    { aggregateId, aggregateKind, cellKey
      cellId := assignment.cellId
      placementGeneration := 1
      state := .resident
      activeTransferId := none }
  match document.placements.get? aggregateId with
  | some existing =>
    if existing = requested then return (document, existing)
    else .error (.transferConflict aggregateId
      "aggregate already has a different canonical placement")
  | none => do
    let next ← commitDocument document
      { document with placements := document.placements.insert aggregateId requested }
    return (next, requested)

/-! ## Transfers -/

/-- An aggregate at rest is set aside for its transfer to another cell. -/
def prepareTransfer (document : CellDirectoryDocument) (aggregateId : String)
    (expectedPlacementGeneration : Nat) (transferId : String) (destinationCellKey : CellKeyV1)
    (packageHash : String) : Fallible (CellDirectoryDocument × CellTransferRecord) := do
  validateStableId aggregateId "aggregate"
  validateStableId transferId "transfer"
  validateHash packageHash "transfer package"
  match document.transfers.get? transferId with
  | some existing =>
    if existing.aggregateId = aggregateId
        ∧ existing.destinationCellKey = destinationCellKey
        ∧ existing.priorPlacementGeneration = expectedPlacementGeneration
        ∧ existing.packageHash = packageHash then return (document, existing)
    else .error (.transferConflict transferId
      "transfer ID is already bound to different immutable material")
  | none => do
    let placement ← placement document aggregateId
    let sourceAssignment ← assignment ids document placement.cellKey
    let destinationAssignment ← assignment ids document destinationCellKey
    rejectIf (sourceAssignment.state ≠ .assigned ∨ destinationAssignment.state ≠ .assigned)
      (.transferConflict transferId
        "source and destination cells must both have current assignments")
    rejectIf (placement.state ≠ .resident
        ∨ placement.activeTransferId.isSome
        ∨ placement.placementGeneration ≠ expectedPlacementGeneration
        ∨ placement.cellId = destinationAssignment.cellId)
      (.transferConflict transferId "aggregate is not resident at the expected source generation")
    let resultingPlacementGeneration ← demand (checkedAdd placement.placementGeneration 1)
      (.placementGenerationExhausted aggregateId)
    let requested : CellTransferRecord :=
      { transferId, aggregateId
        aggregateKind := placement.aggregateKind
        sourceCellKey := placement.cellKey
        sourceCellId := placement.cellId
        destinationCellKey
        destinationCellId := destinationAssignment.cellId
        sourceAssignmentGeneration := sourceAssignment.assignmentGeneration
        destinationAssignmentGeneration := destinationAssignment.assignmentGeneration
        priorPlacementGeneration := placement.placementGeneration
        resultingPlacementGeneration, packageHash
        quarantineReceiptHash := none
        sourcePrepareProof := none
        destinationQuarantineProof := none
        importProof := none
        finalizationProof := none
        sourceAbortProof := none
        destinationAbortProof := none
        phase := .prepared }
    let next ← commitDocument document
      { document with
        placements := document.placements.insert aggregateId
          { placement with state := .preparing, activeTransferId := some transferId }
        transfers := document.transfers.insert transferId requested }
    return (next, requested)

/-- `resolve_proof_generation`: the fence of a cell event must belong to exactly one
    generation of the assigned cell, and a proof that claims a generation must claim it. -/
def resolveProofGeneration (transfer : CellTransferRecord) (claimedGeneration fencingToken : Nat)
    (assignment : CellAssignmentRecord) : Fallible Nat := do
  let generations := assignment.fencingHistory.entries.filterMap fun entry =>
    if entry.2 = fencingToken then some entry.1 else none
  match generations with
  | [generation] => do
    rejectIf (assignment.state ≠ .assigned)
      (.transferConflict transfer.transferId
        "cell event fence does not resolve to one durable assignment generation")
    rejectIf (claimedGeneration ≠ 0 ∧ claimedGeneration ≠ generation)
      (.transferConflict transfer.transferId
        "cell event proof claims the wrong historical assignment generation")
    return generation
  | _ => .error (.transferConflict transfer.transferId
      "cell event fence does not resolve to one durable assignment generation")

/-- The source shows that it has locked what it sends. -/
def recordSourcePrepared (document : CellDirectoryDocument) (transferId : String)
    (proof : CellTransferPrepareProof) :
    Fallible (CellDirectoryDocument × CellTransferRecord) := do
  let current ← transfer document transferId
  let sourceAssignment ← assignment ids document current.sourceCellKey
  let sourceAssignmentGeneration ← resolveProofGeneration current
    proof.sourceAssignmentGeneration proof.sourceFencingToken sourceAssignment
  let proof := { proof with sourceAssignmentGeneration }
  validatePrepareProof current proof
  match current.sourcePrepareProof with
  | some existing =>
    if existing = proof then return (document, current)
    else .error (.transferConflict transferId
      "source prepare retry does not match the durable event proof")
  | none => do
    rejectIf (current.phase ≠ .prepared)
      (.transferConflict transferId "source prepare proof arrived after the quarantine transition")
    validateHistoricalProofAuthority current proof.sourceAssignmentGeneration
      proof.sourceFencingToken sourceAssignment
    let result := { current with sourcePrepareProof := some proof }
    let next ← commitDocument document
      { document with transfers := document.transfers.insert transferId result }
    return (next, result)

def recordQuarantine (document : CellDirectoryDocument) (transferId packageHash receiptHash : String)
    (proof : CellTransferQuarantineProof) :
    Fallible (CellDirectoryDocument × CellTransferRecord) := do
  validateHash packageHash "transfer package"
  validateHash receiptHash "quarantine receipt"
  let current ← transfer document transferId
  rejectIf (current.packageHash ≠ packageHash)
    (.transferConflict transferId "quarantine package hash does not match prepare")
  let destinationAssignment ← assignment ids document current.destinationCellKey
  let destinationAssignmentGeneration ← resolveProofGeneration current
    proof.destinationAssignmentGeneration proof.destinationFencingToken destinationAssignment
  let proof := { proof with destinationAssignmentGeneration }
  rejectIf (proof.quarantineReceiptHash ≠ receiptHash)
    (.transferConflict transferId "quarantine proof does not bind the submitted receipt hash")
  if current.phase = .quarantined ∧ current.quarantineReceiptHash = some receiptHash then
    if current.destinationQuarantineProof = some proof then return (document, current)
    else .error (.transferConflict transferId
      "quarantine retry does not match the durable event proof")
  else do
    rejectIf (current.phase ≠ .prepared
        ∨ current.quarantineReceiptHash.isSome
        ∨ current.sourcePrepareProof.isNone)
      (.transferConflict transferId "transfer is not awaiting its first quarantine receipt")
    validateQuarantineProof current proof
    validateHistoricalProofAuthority current proof.destinationAssignmentGeneration
      proof.destinationFencingToken destinationAssignment
    let result := { current with
      phase := .quarantined
      quarantineReceiptHash := some receiptHash
      destinationQuarantineProof := some proof }
    let next ← commitDocument document
      { document with transfers := document.transfers.insert transferId result }
    return (next, result)

def commitTransfer (document : CellDirectoryDocument) (transferId : String)
    (expectedPriorPlacementGeneration : Nat) :
    Fallible (CellDirectoryDocument × CellTransferRecord) := do
  let current ← transfer document transferId
  if (current.phase = .committed ∨ current.phase = .imported ∨ current.phase = .finalized)
      ∧ current.priorPlacementGeneration = expectedPriorPlacementGeneration then
    return (document, current)
  else do
    rejectIf (current.phase ≠ .quarantined
        ∨ current.priorPlacementGeneration ≠ expectedPriorPlacementGeneration
        ∨ current.quarantineReceiptHash.isNone
        ∨ current.sourcePrepareProof.isNone
        ∨ current.destinationQuarantineProof.isNone)
      (.transferConflict transferId
        "transfer is not quarantined at the expected placement generation")
    let sourceAssignment ← assignment ids document current.sourceCellKey
    let destinationAssignment ← assignment ids document current.destinationCellKey
    rejectIf (sourceAssignment.state ≠ .assigned
        ∨ destinationAssignment.state ≠ .assigned
        ∨ sourceAssignment.assignmentGeneration < current.sourceAssignmentGeneration
        ∨ destinationAssignment.assignmentGeneration < current.destinationAssignmentGeneration)
      (.transferConflict transferId "source or destination assignment changed before commit")
    let placement ← placement document current.aggregateId
    rejectIf (placement.state ≠ .preparing
        ∨ placement.cellId ≠ current.sourceCellId
        ∨ placement.placementGeneration ≠ current.priorPlacementGeneration
        ∨ placement.activeTransferId ≠ some transferId)
      (.transferConflict transferId "source placement no longer matches prepared transfer")
    let result := { current with phase := .committed }
    let next ← commitDocument document
      { document with
        placements := document.placements.insert current.aggregateId
          { placement with
            cellKey := current.destinationCellKey
            cellId := current.destinationCellId
            placementGeneration := current.resultingPlacementGeneration
            state := .inTransit }
        transfers := document.transfers.insert transferId result }
    return (next, result)

def recordImported (document : CellDirectoryDocument) (transferId : String)
    (proof : CellTransferImportProof) :
    Fallible (CellDirectoryDocument × CellTransferRecord) := do
  let current ← transfer document transferId
  let destinationAssignment ← assignment ids document current.destinationCellKey
  let destinationAssignmentGeneration ← resolveProofGeneration current
    proof.destinationAssignmentGeneration proof.destinationFencingToken destinationAssignment
  let proof := { proof with destinationAssignmentGeneration }
  if current.phase = .imported ∨ current.phase = .finalized then
    if current.importProof = some proof then return (document, current)
    else .error (.transferConflict transferId
      "import retry does not match the durable destination proof")
  else do
    let placement ← placement document current.aggregateId
    rejectIf (current.phase ≠ .committed
        ∨ placement.state ≠ .inTransit
        ∨ placement.cellId ≠ current.destinationCellId
        ∨ placement.placementGeneration ≠ current.resultingPlacementGeneration
        ∨ placement.activeTransferId ≠ some transferId)
      (.transferConflict transferId "committed destination placement is not ready for import")
    validateImportProof current proof
    validateHistoricalProofAuthority current proof.destinationAssignmentGeneration
      proof.destinationFencingToken destinationAssignment
    let result := { current with phase := .imported, importProof := some proof }
    let next ← commitDocument document
      { document with
        placements := document.placements.insert current.aggregateId
          { placement with state := .resident, activeTransferId := none }
        transfers := document.transfers.insert transferId result }
    return (next, result)

def finalizeTransfer (document : CellDirectoryDocument) (transferId : String)
    (proof : CellTransferFinalizationProof) :
    Fallible (CellDirectoryDocument × CellTransferRecord) := do
  let current ← transfer document transferId
  let sourceAssignment ← assignment ids document current.sourceCellKey
  let sourceAssignmentGeneration ← resolveProofGeneration current
    proof.sourceAssignmentGeneration proof.sourceFencingToken sourceAssignment
  let proof := { proof with sourceAssignmentGeneration }
  if current.phase = .finalized then
    if current.finalizationProof = some proof then return (document, current)
    else .error (.transferConflict transferId
      "finalization retry does not match the durable source proof")
  else do
    rejectIf (current.phase ≠ .imported)
      (.transferConflict transferId "only an imported transfer may finalize")
    let placement ← placement document current.aggregateId
    rejectIf (placement.state ≠ .resident
        ∨ placement.cellId ≠ current.destinationCellId
        ∨ placement.placementGeneration ≠ current.resultingPlacementGeneration)
      (.transferConflict transferId "destination residency does not match imported transfer")
    validateFinalizationProof current proof
    validateHistoricalProofAuthority current proof.sourceAssignmentGeneration
      proof.sourceFencingToken sourceAssignment
    let result := { current with phase := .finalized, finalizationProof := some proof }
    let next ← commitDocument document
      { document with transfers := document.transfers.insert transferId result }
    return (next, result)

/-! ## Aborts -/

def requestAbort (document : CellDirectoryDocument) (transferId : String) :
    Fallible (CellDirectoryDocument × CellTransferRecord) := do
  let current ← transfer document transferId
  if current.phase = .aborting ∨ current.phase = .aborted then
    return (document, current)
  else do
    rejectIf (¬ (current.phase = .prepared ∨ current.phase = .quarantined))
      (.transferConflict transferId "a committed transfer cannot abort to the source")
    let placement ← placement document current.aggregateId
    rejectIf (placement.state ≠ .preparing
        ∨ placement.cellId ≠ current.sourceCellId
        ∨ placement.placementGeneration ≠ current.priorPlacementGeneration
        ∨ placement.activeTransferId ≠ some transferId)
      (.transferConflict transferId "source placement no longer matches the abortable prepare")
    let result := { current with phase := .aborting }
    let next ← commitDocument document
      { document with transfers := document.transfers.insert transferId result }
    return (next, result)

/-- The key of the cell an abort cleanup happened in, by role. -/
def CellTransferRecord.abortCellKey (transfer : CellTransferRecord) :
    TransferAbortRole → CellKeyV1
  | .source => transfer.sourceCellKey
  | .destination => transfer.destinationCellKey

/-- The cleanup already on record, by role. -/
def CellTransferRecord.abortProof (transfer : CellTransferRecord) :
    TransferAbortRole → Option CellTransferAbortProof
  | .source => transfer.sourceAbortProof
  | .destination => transfer.destinationAbortProof

/-- Put a cleanup on record, by its own role. -/
def CellTransferRecord.withAbortProof (transfer : CellTransferRecord)
    (proof : CellTransferAbortProof) : CellTransferRecord :=
  match proof.role with
  | .source => { transfer with sourceAbortProof := some proof }
  | .destination => { transfer with destinationAbortProof := some proof }

def recordAbortCleanup (document : CellDirectoryDocument) (transferId : String)
    (proof : CellTransferAbortProof) :
    Fallible (CellDirectoryDocument × CellTransferRecord) := do
  let current ← transfer document transferId
  rejectIf (current.phase ≠ .aborting)
    (.transferConflict transferId "abort cleanup proof requires an aborting transfer")
  let cellAssignment ← assignment ids document (current.abortCellKey proof.role)
  let assignmentGeneration ← resolveProofGeneration current
    proof.assignmentGeneration proof.fencingToken cellAssignment
  let proof := { proof with assignmentGeneration }
  validateAbortProof current proof
  match current.abortProof proof.role with
  | some existing =>
    if existing = proof then return (document, current)
    else .error (.transferConflict transferId
      "abort cleanup retry does not match its durable cell proof")
  | none => do
    validateHistoricalProofAuthority current proof.assignmentGeneration proof.fencingToken
      cellAssignment
    let result := current.withAbortProof proof
    let next ← commitDocument document
      { document with transfers := document.transfers.insert transferId result }
    return (next, result)

/-- The abort is over, and the aggregate rests where it was. -/
def finalizeAbort (document : CellDirectoryDocument) (transferId : String) :
    Fallible (CellDirectoryDocument × CellTransferRecord) := do
  let current ← transfer document transferId
  if current.phase = .aborted then
    return (document, current)
  else do
    rejectIf (current.phase ≠ .aborting
        ∨ current.sourceAbortProof.isNone
        ∨ current.destinationAbortProof.isNone)
      (.transferConflict transferId "abort cannot finish before every durable cell cleanup")
    let placement ← placement document current.aggregateId
    rejectIf (placement.state ≠ .preparing
        ∨ placement.cellId ≠ current.sourceCellId
        ∨ placement.placementGeneration ≠ current.priorPlacementGeneration
        ∨ placement.activeTransferId ≠ some transferId)
      (.transferConflict transferId "source placement no longer matches the aborting transfer")
    let result := { current with phase := .aborted }
    let next ← commitDocument document
      { document with
        placements := document.placements.insert current.aggregateId
          { placement with state := .resident, activeTransferId := none }
        transfers := document.transfers.insert transferId result }
    return (next, result)

/-! ## Runs -/

/-- The thirteen operations, with the arguments a caller supplies. -/
inductive DirectoryOp where
  | claim (cellKey : CellKeyV1) (expectedGeneration : Nat) (holderId : String)
      (authorityFencingToken : Nat)
  | release (cellKey : CellKeyV1) (expectedGeneration : Nat) (holderId : String)
  | recoverAssignment (cellKey : CellKeyV1) (expectedGeneration : Nat) (holderId : String)
      (authorityFencingToken : Nat)
  | registerPlacement (aggregateId : String) (aggregateKind : MobileAggregateKind)
      (cellKey : CellKeyV1)
  | prepareTransfer (aggregateId : String) (expectedPlacementGeneration : Nat)
      (transferId : String) (destinationCellKey : CellKeyV1) (packageHash : String)
  | recordSourcePrepared (transferId : String) (proof : CellTransferPrepareProof)
  | recordQuarantine (transferId packageHash receiptHash : String)
      (proof : CellTransferQuarantineProof)
  | commitTransfer (transferId : String) (expectedPriorPlacementGeneration : Nat)
  | recordImported (transferId : String) (proof : CellTransferImportProof)
  | finalizeTransfer (transferId : String) (proof : CellTransferFinalizationProof)
  | requestAbort (transferId : String)
  | recordAbortCleanup (transferId : String) (proof : CellTransferAbortProof)
  | finalizeAbort (transferId : String)

/-- The document an operation leaves, when it is accepted. -/
def apply (document : CellDirectoryDocument) : DirectoryOp → Fallible CellDirectoryDocument
  | .claim cellKey generation holderId fence =>
    Prod.fst <$> claim ids document cellKey generation holderId fence
  | .release cellKey generation holderId =>
    Prod.fst <$> release ids document cellKey generation holderId
  | .recoverAssignment cellKey generation holderId fence =>
    Prod.fst <$> recoverAssignment ids document cellKey generation holderId fence
  | .registerPlacement aggregateId kind cellKey =>
    Prod.fst <$> registerPlacement ids document aggregateId kind cellKey
  | .prepareTransfer aggregateId generation transferId destination packageHash =>
    Prod.fst <$> prepareTransfer ids document aggregateId generation transferId destination
      packageHash
  | .recordSourcePrepared transferId proof =>
    Prod.fst <$> recordSourcePrepared ids document transferId proof
  | .recordQuarantine transferId packageHash receiptHash proof =>
    Prod.fst <$> recordQuarantine ids document transferId packageHash receiptHash proof
  | .commitTransfer transferId generation =>
    Prod.fst <$> commitTransfer ids document transferId generation
  | .recordImported transferId proof => Prod.fst <$> recordImported ids document transferId proof
  | .finalizeTransfer transferId proof =>
    Prod.fst <$> finalizeTransfer ids document transferId proof
  | .requestAbort transferId => Prod.fst <$> requestAbort document transferId
  | .recordAbortCleanup transferId proof =>
    Prod.fst <$> recordAbortCleanup ids document transferId proof
  | .finalizeAbort transferId => Prod.fst <$> finalizeAbort document transferId

/-- A run: operations accepted one after another. -/
abbrev run (document : CellDirectoryDocument) (ops : List DirectoryOp) :
    Fallible CellDirectoryDocument :=
  runAll (apply ids) document ops

end Verse.Directory
