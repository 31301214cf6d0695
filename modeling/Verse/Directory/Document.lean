import Verse.Text
import Verse.Lib.OrdMap

/-!
# The cell directory document

The directory is one durable document: which worker holds each cell, where each mobile
aggregate lives, and how far each transfer between cells has got. Every operation reads the
current document and, if it accepts, replaces it whole.

A transfer collects proofs as it advances. Each proof binds one durable event of one cell:
the transfer and package it is about, the cell and the assignment generation it happened
under, and the fence, sequence and hashes of the event itself.

`CellIds` is what the directory relies on in the identity of a cell: the identifier is a
hash of the canonical key, so distinct keys have distinct identifiers, and a key that is not
canonical has none.
-/

namespace Verse.Directory

open Lib

/-- A sector or cell address of one proof cell. -/
structure CellKeyV1 where
  schemaVersion : Nat
  (universeId sectorX sectorY sectorZ : String)
  (cellX cellY cellZ : Nat)
deriving DecidableEq, Repr

/-- `celestial::cell_id`: absent for a key that is not canonical, and injective. `reason` is
    the text with which a key that is not canonical is refused. -/
structure CellIds where
  cellId : CellKeyV1 → Option String
  reason : CellKeyV1 → String
  injective : ∀ {k k' : CellKeyV1} {id : String},
    cellId k = some id → cellId k' = some id → k = k'

/-- The part of the universe manifest the directory binds. -/
structure UniverseManifest where
  (universeId manifestHash : String)
deriving DecidableEq, Repr

inductive CellAssignmentState where
  | sleeping
  | claiming
  | assigned
  | releasing
deriving DecidableEq, Repr

structure CellAssignmentRecord where
  cellKey : CellKeyV1
  cellId : String
  (assignmentGeneration authorityFencingToken : Nat)
  fencingHistory : OrdMap Nat Nat
  state : CellAssignmentState
  holderId : Option String
deriving DecidableEq

inductive MobileAggregateKind where
  | player
  | grid
deriving DecidableEq, Repr

inductive AggregatePlacementState where
  | resident
  | preparing
  | inTransit
deriving DecidableEq, Repr

structure AggregatePlacementRecord where
  aggregateId : String
  aggregateKind : MobileAggregateKind
  cellKey : CellKeyV1
  cellId : String
  placementGeneration : Nat
  state : AggregatePlacementState
  activeTransferId : Option String
deriving DecidableEq

inductive TransferPhase where
  | prepared
  | quarantined
  | committed
  | imported
  | finalized
  | aborting
  | aborted
deriving DecidableEq, Repr

inductive TransferAbortRole where
  | source
  | destination
deriving DecidableEq, Repr

structure CellTransferPrepareProof where
  (transferId packageHash sourceCellId : String)
  (sourceAssignmentGeneration priorPlacementGeneration sourceFencingToken sourceEventSequence : Nat)
  (sourceEventHash sourceWorldHash : String)
deriving DecidableEq

structure CellTransferQuarantineProof where
  (transferId packageHash quarantineReceiptHash destinationCellId : String)
  (destinationAssignmentGeneration resultingPlacementGeneration destinationFencingToken : Nat)
  destinationEventSequence : Nat
  (destinationEventHash destinationWorldHash : String)
deriving DecidableEq

structure CellTransferImportProof where
  (transferId packageHash quarantineReceiptHash destinationCellId : String)
  (destinationAssignmentGeneration resultingPlacementGeneration destinationFencingToken : Nat)
  destinationEventSequence : Nat
  (destinationEventHash destinationWorldHash : String)
deriving DecidableEq

structure CellTransferFinalizationProof where
  (transferId packageHash sourceCellId : String)
  (sourceAssignmentGeneration resultingPlacementGeneration sourceFencingToken : Nat)
  sourceEventSequence : Nat
  (sourceEventHash sourceWorldHash : String)
deriving DecidableEq

structure CellTransferAbortProof where
  (transferId packageHash cellId : String)
  assignmentGeneration : Nat
  role : TransferAbortRole
  (fencingToken eventSequence : Nat)
  (eventHash worldHash : String)
deriving DecidableEq

structure CellTransferRecord where
  (transferId aggregateId : String)
  aggregateKind : MobileAggregateKind
  sourceCellKey : CellKeyV1
  sourceCellId : String
  destinationCellKey : CellKeyV1
  destinationCellId : String
  (sourceAssignmentGeneration destinationAssignmentGeneration priorPlacementGeneration : Nat)
  resultingPlacementGeneration : Nat
  packageHash : String
  quarantineReceiptHash : Option String
  sourcePrepareProof : Option CellTransferPrepareProof
  destinationQuarantineProof : Option CellTransferQuarantineProof
  importProof : Option CellTransferImportProof
  finalizationProof : Option CellTransferFinalizationProof
  (sourceAbortProof destinationAbortProof : Option CellTransferAbortProof)
  phase : TransferPhase
deriving DecidableEq

/-- Who holds each cell, where each aggregate is, and every transfer there was. -/
structure CellDirectoryDocument where
  schemaVersion : Nat
  (universeId universeManifestHash : String)
  directoryRevision : Nat
  assignments : OrdMap String CellAssignmentRecord
  placements : OrdMap String AggregatePlacementRecord
  transfers : OrdMap String CellTransferRecord
deriving DecidableEq

inductive CellDirectoryError where
  | invalidDirectory (reason : String)
  | unknownCell (cellId : String)
  | assignmentConflict (cellId reason : String)
  | assignmentGenerationExhausted (cellId : String)
  | transferConflict (transferId reason : String)
  | unknownAggregate (aggregateId : String)
  | unknownTransfer (transferId : String)
  | placementGenerationExhausted (aggregateId : String)
  | directoryRevisionExhausted
deriving DecidableEq, Repr

/-- `CELL_DIRECTORY_SCHEMA_VERSION`. -/
def cellDirectorySchemaVersion : Nat := 2

abbrev Fallible (α : Type) := Except CellDirectoryError α

end Verse.Directory
