import Verse.Directory.Operations

/-!
# What one accepted operation can do

The operations are long because of what they refuse. Read from the other end, an accepted one
does one of fourteen things, and `Transition` lists them: the guards that held, and the
document that resulted. `transition_of_apply` is the only place where the bodies of the
operations are taken apart; every invariant is a case analysis on `Transition`.

A document changes by one binding, or by one placement and one transfer together, and its
revision by one. The updates have names here, so that the lookups in an updated document are
simp lemmas.
-/

namespace Verse.Directory

open Lib

/-! ## Updates -/

namespace CellDirectoryDocument

variable (d : CellDirectoryDocument)

def withAssignment (cellId : String) (a : CellAssignmentRecord) : CellDirectoryDocument :=
  { d with
    directoryRevision := d.directoryRevision + 1
    assignments := d.assignments.insert cellId a }

def withPlacement (aggregateId : String) (p : AggregatePlacementRecord) :
    CellDirectoryDocument :=
  { d with
    directoryRevision := d.directoryRevision + 1
    placements := d.placements.insert aggregateId p }

def withTransfer (transferId : String) (t : CellTransferRecord) : CellDirectoryDocument :=
  { d with
    directoryRevision := d.directoryRevision + 1
    transfers := d.transfers.insert transferId t }

/-- The placement of an aggregate and the transfer that moves it change in one commit. -/
def withMove (aggregateId : String) (p : AggregatePlacementRecord) (transferId : String)
    (t : CellTransferRecord) : CellDirectoryDocument :=
  { d with
    directoryRevision := d.directoryRevision + 1
    placements := d.placements.insert aggregateId p
    transfers := d.transfers.insert transferId t }

variable {d} {cellId aggregateId transferId : String} {a : CellAssignmentRecord}
  {p : AggregatePlacementRecord} {t : CellTransferRecord}

@[simp] theorem withAssignment_assignments :
    (d.withAssignment cellId a).assignments = d.assignments.insert cellId a := rfl
@[simp] theorem withAssignment_placements :
    (d.withAssignment cellId a).placements = d.placements := rfl
@[simp] theorem withAssignment_transfers :
    (d.withAssignment cellId a).transfers = d.transfers := rfl

@[simp] theorem withPlacement_assignments :
    (d.withPlacement aggregateId p).assignments = d.assignments := rfl
@[simp] theorem withPlacement_placements :
    (d.withPlacement aggregateId p).placements = d.placements.insert aggregateId p := rfl
@[simp] theorem withPlacement_transfers :
    (d.withPlacement aggregateId p).transfers = d.transfers := rfl

@[simp] theorem withTransfer_assignments :
    (d.withTransfer transferId t).assignments = d.assignments := rfl
@[simp] theorem withTransfer_placements :
    (d.withTransfer transferId t).placements = d.placements := rfl
@[simp] theorem withTransfer_transfers :
    (d.withTransfer transferId t).transfers = d.transfers.insert transferId t := rfl

@[simp] theorem withMove_assignments :
    (d.withMove aggregateId p transferId t).assignments = d.assignments := rfl
@[simp] theorem withMove_placements :
    (d.withMove aggregateId p transferId t).placements = d.placements.insert aggregateId p := rfl
@[simp] theorem withMove_transfers :
    (d.withMove aggregateId p transferId t).transfers = d.transfers.insert transferId t := rfl

end CellDirectoryDocument

/-- The next generation of an assignment, under a new fence and a new holder. -/
def CellAssignmentRecord.assign (a : CellAssignmentRecord) (holderId : String) (fence : Nat) :
    CellAssignmentRecord :=
  { a with
    assignmentGeneration := a.assignmentGeneration + 1
    authorityFencingToken := fence
    state := .assigned
    holderId := some holderId
    fencingHistory := a.fencingHistory.insert (a.assignmentGeneration + 1) fence }

/-- The placement a first registration makes. -/
def residentAt (aggregateId : String) (kind : MobileAggregateKind) (cellKey : CellKeyV1)
    (cellId : String) : AggregatePlacementRecord where
  aggregateId := aggregateId
  aggregateKind := kind
  cellKey := cellKey
  cellId := cellId
  placementGeneration := 1
  state := .resident
  activeTransferId := none

/-- The transfer a first prepare makes. -/
def preparedTransfer (transferId aggregateId packageHash : String)
    (p : AggregatePlacementRecord) (source destination : CellAssignmentRecord)
    (destinationCellKey : CellKeyV1) : CellTransferRecord where
  transferId := transferId
  aggregateId := aggregateId
  aggregateKind := p.aggregateKind
  sourceCellKey := p.cellKey
  sourceCellId := p.cellId
  destinationCellKey := destinationCellKey
  destinationCellId := destination.cellId
  sourceAssignmentGeneration := source.assignmentGeneration
  destinationAssignmentGeneration := destination.assignmentGeneration
  priorPlacementGeneration := p.placementGeneration
  resultingPlacementGeneration := p.placementGeneration + 1
  packageHash := packageHash
  quarantineReceiptHash := none
  sourcePrepareProof := none
  destinationQuarantineProof := none
  importProof := none
  finalizationProof := none
  sourceAbortProof := none
  destinationAbortProof := none
  phase := .prepared

/-- The placement is held in place at the source by a transfer that has not committed. -/
def heldAtSource (t : CellTransferRecord) (transferId : String) (p : AggregatePlacementRecord) :
    Prop :=
  p.state = .preparing ∧ p.cellId = t.sourceCellId
    ∧ p.placementGeneration = t.priorPlacementGeneration
    ∧ p.activeTransferId = some transferId

/-- The placement is on its way into the destination under a committed transfer. -/
def heldAtDestination (t : CellTransferRecord) (transferId : String)
    (p : AggregatePlacementRecord) : Prop :=
  p.state = .inTransit ∧ p.cellId = t.destinationCellId
    ∧ p.placementGeneration = t.resultingPlacementGeneration
    ∧ p.activeTransferId = some transferId

/-- The assignment of a cell, found through its key. -/
def assignedAt (ids : CellIds) (d : CellDirectoryDocument) (cellKey : CellKeyV1)
    (a : CellAssignmentRecord) : Prop :=
  ∃ cellId, ids.cellId cellKey = some cellId ∧ d.assignments.get? cellId = some a

/-- A fence belongs to exactly one generation of an assigned cell, and this is it. -/
def Resolves (a : CellAssignmentRecord) (fence generation : Nat) : Prop :=
  a.state = .assigned
    ∧ (a.fencingHistory.entries.filterMap fun entry =>
        if entry.2 = fence then some entry.1 else none) = [generation]

/-! ## Transitions -/

/-- The operation finds its own earlier success on record. -/
def Repeats (ids : CellIds) (d : CellDirectoryDocument) : DirectoryOp → Prop
  | .claim .. | .recoverAssignment .. => False
  | .release cellKey generation _ =>
    ∃ a, assignedAt ids d cellKey a ∧ a.state = .sleeping ∧ a.assignmentGeneration = generation
  | .registerPlacement aggregateId kind cellKey =>
    ∃ a, assignedAt ids d cellKey a ∧ d.placements.get? aggregateId =
      some (residentAt aggregateId kind cellKey a.cellId)
  | .prepareTransfer aggregateId generation transferId destinationCellKey packageHash =>
    ∃ t, d.transfers.get? transferId = some t ∧ t.aggregateId = aggregateId
      ∧ t.destinationCellKey = destinationCellKey ∧ t.priorPlacementGeneration = generation
      ∧ t.packageHash = packageHash
  | .recordSourcePrepared transferId proof =>
    ∃ t generation, d.transfers.get? transferId = some t ∧
      t.sourcePrepareProof = some { proof with sourceAssignmentGeneration := generation }
  | .recordQuarantine transferId packageHash receiptHash proof =>
    ∃ t generation, d.transfers.get? transferId = some t ∧ t.phase = .quarantined
      ∧ t.packageHash = packageHash ∧ t.quarantineReceiptHash = some receiptHash
      ∧ t.destinationQuarantineProof =
          some { proof with destinationAssignmentGeneration := generation }
  | .commitTransfer transferId generation =>
    ∃ t, d.transfers.get? transferId = some t ∧ t.priorPlacementGeneration = generation
      ∧ (t.phase = .committed ∨ t.phase = .imported ∨ t.phase = .finalized)
  | .recordImported transferId proof =>
    ∃ t generation, d.transfers.get? transferId = some t
      ∧ (t.phase = .imported ∨ t.phase = .finalized)
      ∧ t.importProof = some { proof with destinationAssignmentGeneration := generation }
  | .finalizeTransfer transferId proof =>
    ∃ t generation, d.transfers.get? transferId = some t ∧ t.phase = .finalized
      ∧ t.finalizationProof = some { proof with sourceAssignmentGeneration := generation }
  | .requestAbort transferId =>
    ∃ t, d.transfers.get? transferId = some t ∧ (t.phase = .aborting ∨ t.phase = .aborted)
  | .recordAbortCleanup transferId proof =>
    ∃ t generation, d.transfers.get? transferId = some t ∧ t.phase = .aborting
      ∧ t.abortProof proof.role = some { proof with assignmentGeneration := generation }
  | .finalizeAbort transferId =>
    ∃ t, d.transfers.get? transferId = some t ∧ t.phase = .aborted

/-- What an accepted operation did. -/
inductive Transition (ids : CellIds) (d : CellDirectoryDocument) :
    DirectoryOp → CellDirectoryDocument → Prop where
  | retry {op : DirectoryOp} (hop : Repeats ids d op) : Transition ids d op d
  | claim {cellKey : CellKeyV1} {holderId cellId : String} {fence : Nat}
      {a : CellAssignmentRecord}
      (hholder : validStableId holderId)
      (hid : ids.cellId cellKey = some cellId)
      (ha : d.assignments.get? cellId = some a)
      (hstate : a.state = .sleeping)
      (hbound : a.assignmentGeneration + 1 ≤ u64Max)
      (hfence : a.authorityFencingToken < fence) :
      Transition ids d (.claim cellKey a.assignmentGeneration holderId fence)
        (d.withAssignment cellId (a.assign holderId fence))
  | release {cellKey : CellKeyV1} {holderId cellId : String} {a : CellAssignmentRecord}
      (hid : ids.cellId cellKey = some cellId)
      (ha : d.assignments.get? cellId = some a)
      (hstate : a.state = .assigned)
      (hholder : a.holderId = some holderId)
      (hfree : ¬ pinnedByTransfer d cellId) :
      Transition ids d (.release cellKey a.assignmentGeneration holderId)
        (d.withAssignment cellId { a with state := .sleeping, holderId := none })
  | recoverAssignment {cellKey : CellKeyV1} {holderId cellId : String} {fence : Nat}
      {a : CellAssignmentRecord}
      (hholder : validStableId holderId)
      (hid : ids.cellId cellKey = some cellId)
      (ha : d.assignments.get? cellId = some a)
      (hstate : a.state = .assigned)
      (hbound : a.assignmentGeneration + 1 ≤ u64Max)
      (hfence : a.authorityFencingToken < fence) :
      Transition ids d (.recoverAssignment cellKey a.assignmentGeneration holderId fence)
        (d.withAssignment cellId (a.assign holderId fence))
  | registerPlacement {aggregateId : String} {kind : MobileAggregateKind} {cellKey : CellKeyV1}
      {a : CellAssignmentRecord}
      (haggregate : validStableId aggregateId)
      (ha : assignedAt ids d cellKey a)
      (hnew : d.placements.get? aggregateId = none) :
      Transition ids d (.registerPlacement aggregateId kind cellKey)
        (d.withPlacement aggregateId (residentAt aggregateId kind cellKey a.cellId))
  | prepareTransfer {aggregateId transferId packageHash : String} {destinationCellKey : CellKeyV1}
      {p : AggregatePlacementRecord} {source destination : CellAssignmentRecord}
      (haggregate : validStableId aggregateId)
      (htransfer : validStableId transferId)
      (hpackage : validBlake3Hex packageHash)
      (hnew : d.transfers.get? transferId = none)
      (hp : d.placements.get? aggregateId = some p)
      (hsource : assignedAt ids d p.cellKey source)
      (hdestination : assignedAt ids d destinationCellKey destination)
      (hsourceState : source.state = .assigned)
      (hdestinationState : destination.state = .assigned)
      (hresident : p.state = .resident)
      (hidle : p.activeTransferId = none)
      (hdistinct : p.cellId ≠ destination.cellId)
      (hbound : p.placementGeneration + 1 ≤ u64Max) :
      Transition ids d
        (.prepareTransfer aggregateId p.placementGeneration transferId destinationCellKey
          packageHash)
        (d.withMove aggregateId
          { p with state := .preparing, activeTransferId := some transferId }
          transferId (preparedTransfer transferId aggregateId packageHash p source destination
            destinationCellKey))
  | recordSourcePrepared {transferId : String} {proof : CellTransferPrepareProof}
      {t : CellTransferRecord} {source : CellAssignmentRecord} {generation : Nat}
      (ht : d.transfers.get? transferId = some t)
      (hsource : assignedAt ids d t.sourceCellKey source)
      (hresolves : Resolves source proof.sourceFencingToken generation)
      (hproof : validatePrepareProof t
        { proof with sourceAssignmentGeneration := generation } = .ok ())
      (hnone : t.sourcePrepareProof = none)
      (hphase : t.phase = .prepared)
      (hhistory : source.fencingHistory.get? generation = some proof.sourceFencingToken) :
      Transition ids d (.recordSourcePrepared transferId proof)
        (d.withTransfer transferId { t with
          sourcePrepareProof := some { proof with sourceAssignmentGeneration := generation } })
  | recordQuarantine {transferId receiptHash : String} {proof : CellTransferQuarantineProof}
      {t : CellTransferRecord} {destination : CellAssignmentRecord} {generation : Nat}
      (hreceipt : validBlake3Hex receiptHash)
      (ht : d.transfers.get? transferId = some t)
      (hdestination : assignedAt ids d t.destinationCellKey destination)
      (hresolves : Resolves destination proof.destinationFencingToken generation)
      (hbinds : proof.quarantineReceiptHash = receiptHash)
      (hphase : t.phase = .prepared)
      (hnone : t.quarantineReceiptHash = none)
      (hprepared : t.sourcePrepareProof.isSome)
      (hproof : validateQuarantineProof t
        { proof with destinationAssignmentGeneration := generation } = .ok ())
      (hhistory : destination.fencingHistory.get? generation = some proof.destinationFencingToken) :
      Transition ids d (.recordQuarantine transferId t.packageHash receiptHash proof)
        (d.withTransfer transferId { t with
          phase := .quarantined
          quarantineReceiptHash := some receiptHash
          destinationQuarantineProof :=
            some { proof with destinationAssignmentGeneration := generation } })
  | commitTransfer {transferId : String} {t : CellTransferRecord}
      {p : AggregatePlacementRecord} {source destination : CellAssignmentRecord}
      (ht : d.transfers.get? transferId = some t)
      (hphase : t.phase = .quarantined)
      (hreceipt : t.quarantineReceiptHash.isSome)
      (hprepared : t.sourcePrepareProof.isSome)
      (hquarantined : t.destinationQuarantineProof.isSome)
      (hsource : assignedAt ids d t.sourceCellKey source)
      (hdestination : assignedAt ids d t.destinationCellKey destination)
      (hp : d.placements.get? t.aggregateId = some p)
      (hheld : heldAtSource t transferId p) :
      Transition ids d (.commitTransfer transferId t.priorPlacementGeneration)
        (d.withMove t.aggregateId
          { p with
            cellKey := t.destinationCellKey
            cellId := t.destinationCellId
            placementGeneration := t.resultingPlacementGeneration
            state := .inTransit }
          transferId { t with phase := .committed })
  | recordImported {transferId : String} {proof : CellTransferImportProof}
      {t : CellTransferRecord} {p : AggregatePlacementRecord}
      {destination : CellAssignmentRecord} {generation : Nat}
      (ht : d.transfers.get? transferId = some t)
      (hdestination : assignedAt ids d t.destinationCellKey destination)
      (hresolves : Resolves destination proof.destinationFencingToken generation)
      (hphase : t.phase = .committed)
      (hp : d.placements.get? t.aggregateId = some p)
      (hheld : heldAtDestination t transferId p)
      (hproof : validateImportProof t
        { proof with destinationAssignmentGeneration := generation } = .ok ())
      (hhistory : destination.fencingHistory.get? generation = some proof.destinationFencingToken) :
      Transition ids d (.recordImported transferId proof)
        (d.withMove t.aggregateId { p with state := .resident, activeTransferId := none }
          transferId { t with
            phase := .imported
            importProof := some { proof with destinationAssignmentGeneration := generation } })
  | finalizeTransfer {transferId : String} {proof : CellTransferFinalizationProof}
      {t : CellTransferRecord} {p : AggregatePlacementRecord}
      {source : CellAssignmentRecord} {generation : Nat}
      (ht : d.transfers.get? transferId = some t)
      (hsource : assignedAt ids d t.sourceCellKey source)
      (hresolves : Resolves source proof.sourceFencingToken generation)
      (hphase : t.phase = .imported)
      (hp : d.placements.get? t.aggregateId = some p)
      (hproof : validateFinalizationProof t
        { proof with sourceAssignmentGeneration := generation } = .ok ())
      (hhistory : source.fencingHistory.get? generation = some proof.sourceFencingToken) :
      Transition ids d (.finalizeTransfer transferId proof)
        (d.withTransfer transferId { t with
          phase := .finalized
          finalizationProof := some { proof with sourceAssignmentGeneration := generation } })
  | requestAbort {transferId : String} {t : CellTransferRecord} {p : AggregatePlacementRecord}
      (ht : d.transfers.get? transferId = some t)
      (hphase : t.phase = .prepared ∨ t.phase = .quarantined)
      (hp : d.placements.get? t.aggregateId = some p)
      (hheld : heldAtSource t transferId p) :
      Transition ids d (.requestAbort transferId)
        (d.withTransfer transferId { t with phase := .aborting })
  | recordAbortCleanup {transferId : String} {proof : CellTransferAbortProof}
      {t : CellTransferRecord} {cell : CellAssignmentRecord} {generation : Nat}
      (ht : d.transfers.get? transferId = some t)
      (hphase : t.phase = .aborting)
      (hcell : assignedAt ids d (t.abortCellKey proof.role) cell)
      (hresolves : Resolves cell proof.fencingToken generation)
      (hproof : validateAbortProof t { proof with assignmentGeneration := generation } = .ok ())
      (hnone : t.abortProof proof.role = none)
      (hhistory : cell.fencingHistory.get? generation = some proof.fencingToken) :
      Transition ids d (.recordAbortCleanup transferId proof)
        (d.withTransfer transferId
          (t.withAbortProof { proof with assignmentGeneration := generation }))
  | finalizeAbort {transferId : String} {t : CellTransferRecord} {p : AggregatePlacementRecord}
      (ht : d.transfers.get? transferId = some t)
      (hphase : t.phase = .aborting)
      (hsource : t.sourceAbortProof.isSome)
      (hdestination : t.destinationAbortProof.isSome)
      (hp : d.placements.get? t.aggregateId = some p)
      (hheld : heldAtSource t transferId p) :
      Transition ids d (.finalizeAbort transferId)
        (d.withMove t.aggregateId { p with state := .resident, activeTransferId := none }
          transferId { t with phase := .aborted })

/-! ## Reading the operations -/

section reading

variable {ids : CellIds} {d d' : CellDirectoryDocument} {op : DirectoryOp}

theorem commitDocument_eq_ok {next} :
    commitDocument d next = .ok d' ↔
      d.directoryRevision + 1 ≤ u64Max
        ∧ { next with directoryRevision := d.directoryRevision + 1 } = d' := by
  simp only [commitDocument, bind_eq_ok, demand_eq_ok, checkedAdd_eq_some, pure_eq_ok]
  constructor
  · rintro ⟨r, ⟨hb, rfl⟩, h⟩; exact ⟨hb, h⟩
  · rintro ⟨hb, h⟩; exact ⟨_, ⟨hb, rfl⟩, h⟩

variable {cellKey : CellKeyV1}

variable {a : CellAssignmentRecord}

theorem assignment_eq_ok :
    assignment ids d cellKey = .ok a ↔ assignedAt ids d cellKey a := by
  simp [assignment, cellIdOf, assignedAt]

variable {aggregateId : String}

theorem placement_eq_ok {p} :
    placement d aggregateId = .ok p ↔ d.placements.get? aggregateId = some p := by
  simp [placement]

variable {transferId : String} {t : CellTransferRecord}

theorem transfer_eq_ok :
    transfer d transferId = .ok t ↔ d.transfers.get? transferId = some t := by
  simp [transfer]

theorem resolveProofGeneration_eq_ok {claimed fence generation : Nat} :
    resolveProofGeneration t claimed fence a = .ok generation ↔
      Resolves a fence generation ∧ (claimed = 0 ∨ claimed = generation) := by
  unfold resolveProofGeneration Resolves
  dsimp only
  split
  · rename_i g hg
    simp only [hg, bind_eq_ok, rejectIf_eq_ok, pure_eq_ok, List.cons.injEq, and_true]
    constructor
    · rintro ⟨-, hs, -, hc, rfl⟩
      exact ⟨⟨not_not.mp hs, rfl⟩, by tauto⟩
    · rintro ⟨⟨hs, rfl⟩, hc⟩
      exact ⟨(), not_not.mpr hs, (), by tauto, rfl⟩
  · rename_i hne
    simp only [reduceCtorEq, false_iff, not_and]
    rintro ⟨-, hg⟩
    exact absurd hg (hne generation)

variable {generation fence : Nat}

theorem validateHistoricalProofAuthority_eq_ok
    {u : Unit} :
    validateHistoricalProofAuthority t generation fence a = .ok u ↔
      a.fencingHistory.get? generation = some fence := by
  simp [validateHistoricalProofAuthority]

/-! Each operation, taken apart once. The guards come out as one conjunction, in the order of
the body. -/

variable {holderId : String}

variable {r : CellDirectoryDocument × CellAssignmentRecord}

theorem claim_transition
    (h : claim ids d cellKey generation holderId fence = .ok r) :
    Transition ids d (.claim cellKey generation holderId fence) r.1 := by
  simp only [claim, validateHolder, validateStableId, cellIdOf, commitDocument_eq_ok,
    bind_eq_ok, demand_eq_ok, checkedAdd_eq_some, pure_eq_ok, rejectIf_eq_ok, not_or,
    not_not, not_le] at h
  obtain ⟨-, hholder, -, -, cellId, hid, a, ha, -, ⟨rfl, hstate, -⟩, -, ⟨hbound, rfl⟩, -,
    hfence, -, ⟨-, rfl⟩, rfl⟩ := h
  exact .claim hholder hid ha hstate hbound hfence

theorem release_transition
    (h : release ids d cellKey generation holderId = .ok r) :
    Transition ids d (.release cellKey generation holderId) r.1 := by
  simp only [release, validateHolder, validateStableId, cellIdOf, commitDocument_eq_ok,
    bind_eq_ok, demand_eq_ok, pure_eq_ok, rejectIf_eq_ok, ite_eq_ok, not_or, not_not] at h
  obtain ⟨-, -, cellId, hid, a, ha, ⟨⟨hstate, hgen, -⟩, rfl⟩ | ⟨-, -, ⟨rfl, hstate, hholder⟩, -,
    hfree, -, ⟨-, rfl⟩, rfl⟩⟩ := h
  · exact .retry ⟨a, ⟨cellId, hid, ha⟩, hstate, hgen⟩
  · exact .release hid ha hstate hholder hfree

theorem recoverAssignment_transition
    (h : recoverAssignment ids d cellKey generation holderId fence = .ok r) :
    Transition ids d (.recoverAssignment cellKey generation holderId fence) r.1 := by
  simp only [recoverAssignment, validateHolder, validateStableId, cellIdOf,
    commitDocument_eq_ok, bind_eq_ok, demand_eq_ok, checkedAdd_eq_some, pure_eq_ok,
    rejectIf_eq_ok, not_or, not_not, not_le] at h
  obtain ⟨-, hholder, cellId, hid, a, ha, -, ⟨rfl, hstate⟩, -, ⟨hbound, rfl⟩, -, hfence, -,
    ⟨-, rfl⟩, rfl⟩ := h
  have hassign : { a with
      assignmentGeneration := a.assignmentGeneration + 1
      authorityFencingToken := fence
      holderId := some holderId
      fencingHistory := a.fencingHistory.insert (a.assignmentGeneration + 1) fence } =
      a.assign holderId fence := by
    cases a; simp_all [CellAssignmentRecord.assign]
  rw [hassign]
  exact .recoverAssignment hholder hid ha hstate hbound hfence

theorem registerPlacement_transition {kind r}
    (h : registerPlacement ids d aggregateId kind cellKey = .ok r) :
    Transition ids d (.registerPlacement aggregateId kind cellKey) r.1 := by
  simp only [registerPlacement, validateStableId, bind_eq_ok, rejectIf_eq_ok, not_not,
    assignment_eq_ok] at h
  obtain ⟨-, haggregate, a, ha, h⟩ := h
  cases hp : d.placements.get? aggregateId with
  | some existing =>
    simp only [hp, ite_eq_ok, pure_eq_ok, reduceCtorEq, and_false, or_false] at h
    obtain ⟨rfl, rfl⟩ := h
    exact .retry ⟨a, ha, hp⟩
  | none =>
    simp only [hp, bind_eq_ok, commitDocument_eq_ok, pure_eq_ok] at h
    obtain ⟨-, ⟨-, rfl⟩, rfl⟩ := h
    exact .registerPlacement haggregate ha hp

variable {r : CellDirectoryDocument × CellTransferRecord}

variable {packageHash : String}

theorem prepareTransfer_transition
    {destinationCellKey : CellKeyV1}
    (h : prepareTransfer ids d aggregateId generation transferId destinationCellKey
      packageHash = .ok r) :
    Transition ids d
      (.prepareTransfer aggregateId generation transferId destinationCellKey packageHash)
      r.1 := by
  simp only [prepareTransfer, validateStableId, validateHash, bind_eq_ok, rejectIf_eq_ok,
    not_not] at h
  obtain ⟨-, haggregate, -, htransfer, -, hpackage, h⟩ := h
  cases ht : d.transfers.get? transferId with
  | some existing =>
    simp only [ht, ite_eq_ok, pure_eq_ok, reduceCtorEq, and_false, or_false] at h
    obtain ⟨hsame, rfl⟩ := h
    exact .retry ⟨existing, ht, hsame⟩
  | none =>
    simp only [ht, bind_eq_ok, placement_eq_ok, assignment_eq_ok, rejectIf_eq_ok, not_or,
      not_not, demand_eq_ok, checkedAdd_eq_some, commitDocument_eq_ok, pure_eq_ok,
      Option.not_isSome_iff_eq_none] at h
    obtain ⟨p, hp, source, hsource, destination, hdestination, -, ⟨hsourceState, hdestState⟩,
      -, ⟨hresident, hidle, rfl, hdistinct⟩, -, ⟨hbound, rfl⟩, -, ⟨-, rfl⟩, rfl⟩ := h
    exact .prepareTransfer haggregate htransfer hpackage ht hp hsource hdestination
      hsourceState hdestState hresident hidle hdistinct hbound

theorem recordSourcePrepared_transition {proof}
    (h : recordSourcePrepared ids d transferId proof = .ok r) :
    Transition ids d (.recordSourcePrepared transferId proof) r.1 := by
  simp only [recordSourcePrepared, bind_eq_ok, transfer_eq_ok, assignment_eq_ok,
    resolveProofGeneration_eq_ok] at h
  obtain ⟨t, ht, source, hsource, generation, ⟨hresolves, -⟩, ⟨⟩, hproof, h⟩ := h
  cases he : t.sourcePrepareProof with
  | some existing =>
    simp only [he, ite_eq_ok, pure_eq_ok, reduceCtorEq, and_false, or_false] at h
    obtain ⟨rfl, rfl⟩ := h
    exact .retry ⟨t, generation, ht, he⟩
  | none =>
    simp only [he, bind_eq_ok, rejectIf_eq_ok, not_not, validateHistoricalProofAuthority_eq_ok,
      commitDocument_eq_ok, pure_eq_ok] at h
    obtain ⟨-, hphase, -, hhistory, -, ⟨-, rfl⟩, rfl⟩ := h
    exact .recordSourcePrepared ht hsource hresolves hproof he hphase hhistory

theorem recordQuarantine_transition {receiptHash : String} {proof}
    (h : recordQuarantine ids d transferId packageHash receiptHash proof = .ok r) :
    Transition ids d (.recordQuarantine transferId packageHash receiptHash proof) r.1 := by
  simp only [recordQuarantine, validateHash, bind_eq_ok, rejectIf_eq_ok, not_not,
    transfer_eq_ok, assignment_eq_ok, resolveProofGeneration_eq_ok, ite_eq_ok, pure_eq_ok,
    reduceCtorEq, and_false, or_false, not_or, commitDocument_eq_ok,
    validateHistoricalProofAuthority_eq_ok, Option.not_isSome_iff_eq_none,
    Option.isNone_iff_eq_none, ← ne_eq, ← Option.isSome_iff_ne_none] at h
  obtain ⟨-, -, -, hreceipt, t, ht, -, rfl, destination, hdestination, generation,
    ⟨hresolves, -⟩, -, hbinds, ⟨⟨hphase, hsame⟩, hproof, rfl⟩ | ⟨-, -,
    ⟨hphase, hnone, hprepared⟩, ⟨⟩, hproof, -, hhistory, -, ⟨-, rfl⟩, rfl⟩⟩ := h
  · exact .retry ⟨t, generation, ht, hphase, rfl, hsame, hproof⟩
  · exact .recordQuarantine hreceipt ht hdestination hresolves hbinds hphase hnone hprepared
      hproof hhistory

theorem commitTransfer_transition
    (h : commitTransfer ids d transferId generation = .ok r) :
    Transition ids d (.commitTransfer transferId generation) r.1 := by
  simp only [commitTransfer, bind_eq_ok, rejectIf_eq_ok, not_not, transfer_eq_ok,
    placement_eq_ok, assignment_eq_ok, ite_eq_ok, pure_eq_ok, not_or, commitDocument_eq_ok,
    Option.isNone_iff_eq_none, ← ne_eq, ← Option.isSome_iff_ne_none] at h
  obtain ⟨t, ht, ⟨⟨hphase, hgen⟩, rfl⟩ | ⟨-, -, ⟨hphase, rfl, hreceipt, hprepared,
    hquarantined⟩, source, hsource, destination, hdestination, -, -, p, hp, -, hheld, -,
    ⟨-, rfl⟩, rfl⟩⟩ := h
  · exact .retry ⟨t, ht, hgen, hphase⟩
  · exact .commitTransfer ht hphase hreceipt hprepared hquarantined hsource hdestination hp
      hheld

theorem recordImported_transition {proof} (h : recordImported ids d transferId proof = .ok r) :
    Transition ids d (.recordImported transferId proof) r.1 := by
  simp only [recordImported, bind_eq_ok, rejectIf_eq_ok, not_not, transfer_eq_ok,
    placement_eq_ok, assignment_eq_ok, resolveProofGeneration_eq_ok, ite_eq_ok, pure_eq_ok,
    reduceCtorEq, and_false, or_false, not_or, commitDocument_eq_ok,
    validateHistoricalProofAuthority_eq_ok] at h
  obtain ⟨t, ht, destination, hdestination, generation, ⟨hresolves, -⟩, ⟨hphase, hsame, rfl⟩ |
    ⟨-, p, hp, -, ⟨hphase, hheld⟩, ⟨⟩, hproof, -, hhistory, -, ⟨-, rfl⟩, rfl⟩⟩ := h
  · exact .retry ⟨t, generation, ht, hphase, hsame⟩
  · exact .recordImported ht hdestination hresolves hphase hp hheld hproof hhistory

theorem finalizeTransfer_transition {proof} (h : finalizeTransfer ids d transferId proof = .ok r) :
    Transition ids d (.finalizeTransfer transferId proof) r.1 := by
  simp only [finalizeTransfer, bind_eq_ok, rejectIf_eq_ok, not_not, transfer_eq_ok,
    placement_eq_ok, assignment_eq_ok, resolveProofGeneration_eq_ok, ite_eq_ok, pure_eq_ok,
    reduceCtorEq, and_false, or_false, not_or, commitDocument_eq_ok,
    validateHistoricalProofAuthority_eq_ok] at h
  obtain ⟨t, ht, source, hsource, generation, ⟨hresolves, -⟩, ⟨hphase, hsame, rfl⟩ |
    ⟨-, -, hphase, p, hp, -, -, ⟨⟩, hproof, -, hhistory, -, ⟨-, rfl⟩, rfl⟩⟩ := h
  · exact .retry ⟨t, generation, ht, hphase, hsame⟩
  · exact .finalizeTransfer ht hsource hresolves hphase hp hproof hhistory

theorem requestAbort_transition
    (h : requestAbort d transferId = .ok r) :
    Transition ids d (.requestAbort transferId) r.1 := by
  simp only [requestAbort, bind_eq_ok, rejectIf_eq_ok, not_not, transfer_eq_ok,
    placement_eq_ok, ite_eq_ok, pure_eq_ok, not_or, commitDocument_eq_ok] at h
  obtain ⟨t, ht, ⟨hphase, rfl⟩ | ⟨-, -, hphase, p, hp, -, hheld, -, ⟨-, rfl⟩, rfl⟩⟩ := h
  · exact .retry ⟨t, ht, hphase⟩
  · exact .requestAbort ht (by tauto) hp hheld

theorem recordAbortCleanup_transition {proof}
    (h : recordAbortCleanup ids d transferId proof = .ok r) :
    Transition ids d (.recordAbortCleanup transferId proof) r.1 := by
  simp only [recordAbortCleanup, bind_eq_ok, rejectIf_eq_ok, not_not, transfer_eq_ok,
    assignment_eq_ok, resolveProofGeneration_eq_ok] at h
  obtain ⟨t, ht, -, hphase, cell, hcell, generation, ⟨hresolves, -⟩, ⟨⟩, hproof, h⟩ := h
  cases he : t.abortProof proof.role with
  | some existing =>
    simp only [he, ite_eq_ok, pure_eq_ok, reduceCtorEq, and_false, or_false] at h
    obtain ⟨rfl, rfl⟩ := h
    exact .retry ⟨t, generation, ht, hphase, he⟩
  | none =>
    simp only [he, bind_eq_ok, validateHistoricalProofAuthority_eq_ok, commitDocument_eq_ok,
      pure_eq_ok] at h
    obtain ⟨-, hhistory, -, ⟨-, rfl⟩, rfl⟩ := h
    exact .recordAbortCleanup ht hphase hcell hresolves hproof he hhistory

theorem finalizeAbort_transition
    (h : finalizeAbort d transferId = .ok r) :
    Transition ids d (.finalizeAbort transferId) r.1 := by
  simp only [finalizeAbort, bind_eq_ok, rejectIf_eq_ok, not_not, transfer_eq_ok,
    placement_eq_ok, ite_eq_ok, pure_eq_ok, not_or, commitDocument_eq_ok,
    Option.isNone_iff_eq_none, ← ne_eq, ← Option.isSome_iff_ne_none] at h
  obtain ⟨t, ht, ⟨hphase, rfl⟩ | ⟨-, -, ⟨hphase, hsource, hdestination⟩, p, hp, -, hheld, -,
    ⟨-, rfl⟩, rfl⟩⟩ := h
  · exact .retry ⟨t, ht, hphase⟩
  · exact .finalizeAbort ht hphase hsource hdestination hp hheld

theorem map_fst_eq_ok {α : Type} {x : Fallible (CellDirectoryDocument × α)} :
    Prod.fst <$> x = .ok d' ↔ ∃ r, x = .ok r ∧ r.1 = d' := by
  cases x with
  | error e | ok r => simp [Functor.map, Except.map]

theorem transition_of_apply (h : apply ids d op = .ok d') : Transition ids d op d' := by
  cases op <;> simp only [apply, map_fst_eq_ok] at h <;> obtain ⟨r, h, rfl⟩ := h
  case claim => exact claim_transition h
  case release => exact release_transition h
  case recoverAssignment => exact recoverAssignment_transition h
  case registerPlacement => exact registerPlacement_transition h
  case prepareTransfer => exact prepareTransfer_transition h
  case recordSourcePrepared => exact recordSourcePrepared_transition h
  case recordQuarantine => exact recordQuarantine_transition h
  case commitTransfer => exact commitTransfer_transition h
  case recordImported => exact recordImported_transition h
  case finalizeTransfer => exact finalizeTransfer_transition h
  case requestAbort => exact requestAbort_transition h
  case recordAbortCleanup => exact recordAbortCleanup_transition h
  case finalizeAbort => exact finalizeAbort_transition h

end reading

end Verse.Directory
