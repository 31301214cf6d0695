import Verse.Handoff.Stage

/-!
# The steps of a handoff, read backwards

Each staging function either finds its own earlier work and returns the world as it is, or
finds the world its package was made for and writes the one table it is about. These are the
two ways a step succeeds, with everything it checked; what a package must satisfy by itself is
`PackageOk`.
-/

namespace Verse

open Lib
open Directory (CellTransferRecord MobileAggregateKind TransferPhase)

variable {host : Host} {w w' : WorldState} {package : PlayerTransferPackage}
  {transfer : CellTransferRecord} {receipt : PlayerTransferQuarantineReceipt}

/-! ## Packages -/

/-- What `PlayerTransferPackage::validate` establishes. -/
structure PackageOk (host : Host) (package : PlayerTransferPackage) : Prop where
  cells : host.cells.cellId package.sourceCellKey = some package.sourceCellId
    ∧ host.cells.cellId package.destinationCellKey = some package.destinationCellId
  apart : package.sourceCellKey ≠ package.destinationCellKey
  named : validStableId package.transferId ∧ validStableId package.aggregateId
  subject : package.sourcePlayer.playerId = package.aggregateId
    ∧ package.destinationPlayer.playerId = package.aggregateId
  generation : 0 < package.priorPlacementGeneration
    ∧ checkedAdd package.priorPlacementGeneration 1 = some package.resultingPlacementGeneration
  rebased : destinationPlayer host package.sourcePlayer package.destinationCellKey
    = .ok package.destinationPlayer
  carried : package.inventory.inventoryId = package.sourcePlayer.inventoryId
    ∧ package.inventory.domain = .player package.aggregateId
    ∧ 0 < package.inventory.capacityLiters
    ∧ package.inventory.usedLiters ≤ package.inventory.capacityLiters
  conserved : package.conservation = conservationOf package.inventory
  hashed : validBlake3Hex package.packageHash ∧ package.packageHash = package.calculateHash host

theorem packageOk_of_validate (h : package.validate host = .ok ()) : PackageOk host package := by
  simp only [PlayerTransferPackage.validate, packageLookup, bind_eq_ok, demand_eq_ok,
    rejectIf_eq_ok, mapError_eq_ok, not_or, not_not, Bool.not_eq_false, ne_eq, not_lt] at h
  obtain ⟨sourceCellId, hsource, destinationCellId, hdestination, -,
    ⟨-, htransfer, haggregate, hsourcePlayer, hdestinationPlayer, hapart, rfl, rfl, -, -, -, -, -,
      hprior, hnext, -⟩, -, -, -, -, -, -, rebased, hrebased, -, rfl, -,
    ⟨hid, hdomain, hcapacity, hused⟩, hconserved, hhashed⟩ := h
  simp only [PlayerTransferPackage.hashIsValid, Bool.and_eq_true, beq_iff_eq] at hhashed
  exact ⟨⟨hsource, hdestination⟩, hapart, ⟨htransfer, haggregate⟩,
    ⟨hsourcePlayer.symm, hdestinationPlayer.symm⟩, ⟨Nat.pos_of_ne_zero hprior, hnext⟩, hrebased,
    ⟨hid, hdomain, Nat.pos_of_ne_zero hcapacity, hused⟩, hconserved, hhashed⟩

theorem PackageOk.destination_inventoryId (h : PackageOk host package) :
    package.destinationPlayer.inventoryId = package.inventory.inventoryId := by
  have hrebased := h.rebased
  simp only [destinationPlayer, bind_eq_ok, demand_eq_ok, pure_eq_ok] at hrebased
  obtain ⟨-, -, position, -, epoch, -, heq⟩ := hrebased
  rw [← heq, h.carried.1]

/-! ## Witnesses -/

/-- The ledger once a witness is entered. -/
def Ledger.entered (ledger : Ledger) (witness : TransferConservationWitness) : Ledger :=
  match witness.direction with
  | .importing => { ledger with
      transferImportedOre := ledger.transferImportedOre + witness.contents.ore
      transferImportedRefined := ledger.transferImportedRefined + witness.contents.refinedMaterial
      transferImportedComponents :=
        ledger.transferImportedComponents + witness.contents.components }
  | .exporting => { ledger with
      transferExportedOre := ledger.transferExportedOre + witness.contents.ore
      transferExportedRefined := ledger.transferExportedRefined + witness.contents.refinedMaterial
      transferExportedComponents :=
        ledger.transferExportedComponents + witness.contents.components }

/-- A world and its ledger with one more witness. -/
def WorldState.withWitness (w : WorldState) (witness : TransferConservationWitness) : WorldState :=
  { w with
    ledger := w.ledger.entered witness
    transferWitnesses := w.transferWitnesses.insert witness.transferId witness }

theorem addTransferWitness_eq_ok {witness} (h : addTransferWitness w witness = .ok w') :
    w.transferWitnesses.get? witness.transferId = none ∧ w' = w.withWitness witness := by
  unfold addTransferWitness at h
  unfold WorldState.withWitness Ledger.entered
  cases hdirection : witness.direction with
  | importing | exporting =>
    simp only [hdirection, transferCounter, bind_eq_ok, demand_eq_ok, checkedAdd_eq_some,
      pure_eq_ok, rejectIf_eq_ok, Bool.not_eq_true, OrdMap.contains_eq_false] at h
    obtain ⟨ore, ⟨-, rfl⟩, refined, ⟨-, rfl⟩, components, ⟨-, rfl⟩, ledger, rfl, -, hfresh,
      rfl⟩ := h
    exact ⟨hfresh, rfl⟩

/-! ## The steps -/

namespace WorldState

/-- A player locked for a transfer. -/
def withLock (w : WorldState) (playerId : String) (lock : PlayerTransferLock) : WorldState :=
  { w with playerTransferLocks := w.playerTransferLocks.insert playerId lock }

/-- A player free again. -/
def withoutLock (w : WorldState) (playerId : String) : WorldState :=
  { w with playerTransferLocks := w.playerTransferLocks.erase playerId }

/-- The identities of a subject held for a transfer. -/
def withReservation (w : WorldState) (reservation : PlayerTransferReservation) : WorldState :=
  { w with playerTransferReservations :=
      w.playerTransferReservations.insert reservation.transferId reservation }

/-- They are given up. -/
def withoutReservation (w : WorldState) (transferId : String) : WorldState :=
  { w with playerTransferReservations := w.playerTransferReservations.erase transferId }

end WorldState

/-- Either step is taken for the first time or found taken; the world it returns is valid. -/
theorem stagePreparedEvaLock_eq_ok (h : stagePreparedEvaLock host w package transfer = .ok w') :
    PackageOk host package ∧ validateStagedWorld host w' = .ok ()
      ∧ ((w' = w ∧ w.playerTransferLocks.get? package.aggregateId
            = some (playerTransferLock package))
        ∨ (w.playerTransferLocks.get? package.aggregateId = none
          ∧ w.cellId = package.sourceCellId ∧ package.sourceFencingToken ≤ w.fencingToken
          ∧ holdsSubject w package package.sourcePlayer
          ∧ w' = w.withLock package.aggregateId (playerTransferLock package))) := by
  simp only [stagePreparedEvaLock, bind_eq_ok] at h
  obtain ⟨⟨⟩, hpackage, ⟨⟩, -, h⟩ := h
  refine ⟨packageOk_of_validate hpackage, ?_⟩
  cases hlock : w.playerTransferLocks.get? package.aggregateId with
  | some existing =>
    simp only [hlock, bind_eq_ok, rejectIf_eq_ok, ne_eq, not_not, pure_eq_ok] at h
    obtain ⟨-, rfl, ⟨⟩, hstaged, rfl⟩ := h
    exact ⟨hstaged, .inl ⟨rfl, rfl⟩⟩
  | none =>
    simp only [hlock, bind_eq_ok, rejectIf_eq_ok, ne_eq, not_or, not_not, not_lt, pure_eq_ok] at h
    obtain ⟨-, ⟨hcell, hfence, hholds⟩, -, -, ⟨⟩, hstaged, rfl⟩ := h
    exact ⟨hstaged, .inr ⟨rfl, hcell, hfence, hholds, rfl⟩⟩

theorem stageCommittedEvaExport_eq_ok
    (h : stageCommittedEvaExport host w package transfer = .ok w') :
    PackageOk host package ∧ validateStagedWorld host w' = .ok ()
      ∧ ((w' = w ∧ w.transferWitnesses.get? package.transferId
            = some (transferWitness package .exporting) ∧ lacksSubject w package)
        ∨ (w.transferWitnesses.get? package.transferId = none
          ∧ w.cellId = package.sourceCellId ∧ package.sourceFencingToken ≤ w.fencingToken
          ∧ w.playerTransferLocks.get? package.aggregateId = some (playerTransferLock package)
          ∧ holdsSubject w package package.sourcePlayer
          ∧ w' = (withoutSubject w package).withWitness
              (transferWitness package .exporting))) := by
  simp only [stageCommittedEvaExport, bind_eq_ok] at h
  obtain ⟨⟨⟩, hpackage, ⟨⟩, -, h⟩ := h
  refine ⟨packageOk_of_validate hpackage, ?_⟩
  cases hwitness : w.transferWitnesses.get? package.transferId with
  | some existing =>
    simp only [hwitness, bind_eq_ok, rejectIf_eq_ok, ne_eq, not_or, not_not, pure_eq_ok] at h
    obtain ⟨-, ⟨rfl, hlacks⟩, ⟨⟩, hstaged, rfl⟩ := h
    exact ⟨hstaged, .inl ⟨rfl, rfl, hlacks⟩⟩
  | none =>
    simp only [hwitness, bind_eq_ok, rejectIf_eq_ok, ne_eq, not_or, not_not, not_lt,
      pure_eq_ok] at h
    obtain ⟨-, ⟨hcell, hfence, hlock, hholds⟩, staged, hadded, ⟨⟩, hstaged, rfl⟩ := h
    exact ⟨hstaged, .inr ⟨rfl, hcell, hfence, hlock, hholds, (addTransferWitness_eq_ok hadded).2⟩⟩

theorem stageCommittedEvaImport_eq_ok
    (h : stageCommittedEvaImport host w package receipt transfer = .ok w') :
    PackageOk host package ∧ validateStagedWorld host w' = .ok ()
      ∧ ((w' = w ∧ w.transferWitnesses.get? package.transferId
            = some (transferWitness package .importing)
          ∧ holdsSubject w package package.destinationPlayer)
        ∨ (w.transferWitnesses.get? package.transferId = none
          ∧ w.cellId = package.destinationCellId
          ∧ receipt.destinationFencingToken ≤ w.fencingToken
          ∧ w.playerTransferReservations.get? package.transferId
            = some (transferReservation package receipt)
          ∧ lacksSubject w package
          ∧ w' = (withSubject w package).withWitness (transferWitness package .importing))) := by
  simp only [stageCommittedEvaImport, bind_eq_ok] at h
  obtain ⟨⟨⟩, hpackage, ⟨⟩, -, ⟨⟩, -, ⟨⟩, -, h⟩ := h
  refine ⟨packageOk_of_validate hpackage, ?_⟩
  cases hwitness : w.transferWitnesses.get? package.transferId with
  | some existing =>
    simp only [hwitness, bind_eq_ok, rejectIf_eq_ok, ne_eq, not_or, not_not, pure_eq_ok] at h
    obtain ⟨-, ⟨rfl, hholds⟩, ⟨⟩, hstaged, rfl⟩ := h
    exact ⟨hstaged, .inl ⟨rfl, rfl, hholds⟩⟩
  | none =>
    simp only [hwitness, bind_eq_ok, rejectIf_eq_ok, ne_eq, not_or, not_not, not_lt,
      pure_eq_ok] at h
    obtain ⟨-, ⟨hcell, hfence, hreservation, hlacks⟩, staged, hadded, ⟨⟩, hstaged, rfl⟩ := h
    exact ⟨hstaged, .inr ⟨rfl, hcell, hfence, hreservation, hlacks,
      (addTransferWitness_eq_ok hadded).2⟩⟩

/-- A reservation is found or made; nothing else of the destination changes. -/
theorem stageEvaPlayerQuarantine_eq_ok {token : Nat}
    (h : stageEvaPlayerQuarantine host w token package = .ok (w', receipt)) :
    PackageOk host package ∧ validateStagedWorld host w' = .ok ()
      ∧ ((w' = w ∧ w.playerTransferReservations.get? package.transferId
            = some (transferReservation package receipt))
        ∨ (w.playerTransferReservations.get? package.transferId = none
          ∧ quarantineEvaPlayerTransfer host w token package = .ok receipt
          ∧ w' = w.withReservation (transferReservation package receipt))) := by
  simp only [stageEvaPlayerQuarantine, bind_eq_ok] at h
  obtain ⟨⟨⟩, hpackage, h⟩ := h
  refine ⟨packageOk_of_validate hpackage, ?_⟩
  cases hreservation : w.playerTransferReservations.get? package.transferId with
  | some existing =>
    simp only [hreservation, bind_eq_ok, rejectIf_eq_ok, ne_eq, not_not, pure_eq_ok,
      Prod.mk.injEq] at h
    obtain ⟨-, hexisting, ⟨⟩, -, ⟨⟩, hstaged, rfl, rfl⟩ := h
    exact ⟨hstaged, .inl ⟨rfl, congrArg some hexisting⟩⟩
  | none =>
    simp only [hreservation, bind_eq_ok, pure_eq_ok, Prod.mk.injEq] at h
    obtain ⟨receipt', hreceipt, ⟨⟩, hstaged, rfl, rfl⟩ := h
    exact ⟨hstaged, .inr ⟨rfl, hreceipt, rfl⟩⟩

/-- An abort takes back a reservation at the destination or a lock at the source, or finds
    none to take back. -/
theorem stageAbortedEvaUnlock_eq_ok (h : stageAbortedEvaUnlock host w package transfer = .ok w') :
    PackageOk host package ∧ validateStagedWorld host w' = .ok ()
      ∧ ((w.cellId = package.destinationCellId
          ∧ w.player.byId.get? package.aggregateId = none
          ∧ w' = w.withoutReservation package.transferId)
        ∨ (w.cellId = package.sourceCellId
          ∧ w.playerTransferLocks.get? package.aggregateId = none ∧ w' = w)
        ∨ (w.cellId = package.sourceCellId
          ∧ w.playerTransferLocks.get? package.aggregateId = some (playerTransferLock package)
          ∧ holdsSubject w package package.sourcePlayer
          ∧ w' = w.withoutLock package.aggregateId)) := by
  simp only [stageAbortedEvaUnlock, bind_eq_ok] at h
  obtain ⟨⟨⟩, hpackage, ⟨⟩, -, ⟨⟩, -, h⟩ := h
  refine ⟨packageOk_of_validate hpackage, ?_⟩
  split_ifs at h with hcell
  · simp only [stageAbortedAtDestination, bind_eq_ok, rejectIf_eq_ok, not_or, not_not, ne_eq] at h
    obtain ⟨⟨⟩, ⟨habsent, -⟩, h⟩ := h
    cases hreservation : w.playerTransferReservations.get? package.transferId with
    | none =>
      simp only [hreservation, bind_eq_ok, pure_eq_ok] at h
      obtain ⟨⟨⟩, hstaged, rfl⟩ := h
      refine ⟨hstaged, .inl ⟨hcell, habsent, ?_⟩⟩
      rw [WorldState.withoutReservation, OrdMap.erase_of_none hreservation]
    | some existing =>
      simp only [hreservation, bind_eq_ok, pure_eq_ok] at h
      obtain ⟨⟨⟩, -, ⟨⟩, hstaged, rfl⟩ := h
      exact ⟨hstaged, .inl ⟨hcell, habsent, rfl⟩⟩
  · simp only [bind_eq_ok, rejectIf_eq_ok, not_not, ne_eq, stageAbortedAtSource] at h
    obtain ⟨⟨⟩, hsource, h⟩ := h
    cases hlock : w.playerTransferLocks.get? package.aggregateId with
    | none =>
      simp only [hlock, bind_eq_ok, pure_eq_ok] at h
      obtain ⟨⟨⟩, -, ⟨⟩, hstaged, rfl⟩ := h
      exact ⟨hstaged, .inr (.inl ⟨hsource, rfl, rfl⟩)⟩
    | some existing =>
      simp only [hlock, bind_eq_ok, rejectIf_eq_ok, not_or, not_not, pure_eq_ok] at h
      obtain ⟨⟨⟩, ⟨rfl, hholds⟩, ⟨⟩, hstaged, rfl⟩ := h
      exact ⟨hstaged, .inr (.inr ⟨hsource, rfl, hholds, rfl⟩)⟩

end Verse
