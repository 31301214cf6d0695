import Verse.Directory.Operations
import Verse.DirectoryV3.Effect

/-!
# An aggregate is transferred once

A finished transfer is overtaken when its aggregate has moved on since. But moving on takes
another transfer, and the prepare of that one is refused while the finished one is not
overtaken. So on every document a directory reaches no two transfers share a member
(`Disjoint`), and a prepare is accepted exactly when none of its members was ever in a transfer
that is on record: an aggregate whose transfer was finalized, or aborted, can never be
transferred again.
-/

namespace Verse.DirectoryV3

open Lib Directory

variable {codec : DirectoryCodec} {document : CellDirectoryDocumentV3}
  {requested : CellTransferRecordV3}

/-- No aggregate is a member of two transfers on record. -/
def Disjoint (document : CellDirectoryDocumentV3) : Prop :=
  ∀ transferId transfer transferId' transfer',
    document.transfers.get? transferId = some transfer →
    document.transfers.get? transferId' = some transfer' → transferId ≠ transferId' →
    ∀ member ∈ transfer.bundle.members, ∀ member' ∈ transfer'.bundle.members,
      member.aggregateId ≠ member'.aggregateId

/-- None of the request's members is a member of a transfer on record. -/
def NeverTransferred (document : CellDirectoryDocumentV3) (requested : CellTransferRecordV3) :
    Prop :=
  ∀ transferId transfer, document.transfers.get? transferId = some transfer →
    ∀ member ∈ transfer.bundle.members, ∀ current ∈ requested.bundle.members,
      current.aggregateId ≠ member.aggregateId

variable {transfer : CellTransferRecordV3}

variable {a : Advance}

theorem mem_advances :
    a ∈ transfer.advances ↔ advanced transfer.phase ∧ ∃ member ∈ transfer.bundle.members,
      a = { aggregateId := member.aggregateId
            generation := member.priorPlacementGeneration
            cellId := transfer.sourceCellId
            nextGeneration := member.resultingPlacementGeneration
            nextCellId := transfer.destinationCellId } := by
  unfold CellTransferRecordV3.advances
  split_ifs with hphase
  · simp only [List.mem_map, hphase, true_and, eq_comm]
  · simp [hphase]

theorem mem_advancesOf :
    a ∈ advancesOf document.transfers.entries ↔
      ∃ transferId transfer, document.transfers.get? transferId = some transfer
        ∧ a ∈ transfer.advances := by
  simp only [advancesOf, List.mem_flatMap, Prod.exists, OrdMap.mem_entries]

variable {placement : AggregatePlacementRecord}

variable {generation : Nat} {cellId : String}

theorem exists_advance_of_laterMemberHistory {aggregateId : String} {index}
    (hlater : generation < placement.placementGeneration)
    (h : laterMemberHistory aggregateId generation cellId placement index = .ok ()) :
    ∃ a ∈ index, a.key = (aggregateId, generation, cellId) := by
  obtain ⟨n, hn⟩ := Nat.exists_eq_succ_of_ne_zero (Nat.sub_ne_zero_of_lt hlater)
  rw [laterMemberHistory, hn, validateLaterMemberHistory, bind_eq_ok] at h
  obtain ⟨a, ha, -⟩ := h
  rw [demand_eq_ok] at ha
  exact ⟨a, List.mem_of_find?_eq_some ha, by simpa using List.find?_some ha⟩

/-- The phases that let go of their members. -/
def released (phase : TransferPhase) : Prop :=
  phase = .imported ∨ phase = .finalized ∨ phase = .aborted

variable {transferId : String}

variable {member : BundledPlacementMember}

theorem released_of_resident
    (hmatches : memberMatchesPhase placement member transfer transferId)
    (hresident : placement.state = .resident) : released transfer.phase := by
  unfold memberMatchesPhase at hmatches
  unfold released
  cases hphase : transfer.phase <;> simp_all

theorem CellDirectoryDocumentV3.Valid.not_overtaken (h : document.Valid codec)
    (hdisjoint : Disjoint document)
    (hget : document.transfers.get? transferId = some transfer)
    (hmember : member ∈ transfer.bundle.members)
    (hplacement : document.placements.get? member.aggregateId = some placement)
    (hreleased : released transfer.phase) :
    ¬ Overtaken transfer member placement.placementGeneration := by
  obtain ⟨found, hfound, -, -, hlater⟩ := h.members transferId transfer hget member hmember
  obtain rfl := Option.mem_unique hplacement hfound
  -- the next move of the aggregate would have to be a move of this very transfer
  have hown : ∀ {generation cellId},
      (∃ a ∈ advancesOf document.transfers.entries,
        a.key = (member.aggregateId, generation, cellId)) →
      advanced transfer.phase ∧ generation = member.priorPlacementGeneration := by
    intro generation cellId hexists
    obtain ⟨a, ha, hkey⟩ := hexists
    obtain ⟨transferId', transfer', hget', ha⟩ := mem_advancesOf.mp ha
    obtain ⟨hphase, member', hmember', rfl⟩ := mem_advances.mp ha
    obtain ⟨hid, hgeneration, -⟩ : member'.aggregateId = member.aggregateId
        ∧ member'.priorPlacementGeneration = generation ∧ transfer'.sourceCellId = cellId := by
      simpa [Advance.key] using hkey
    have hsame : transferId' = transferId := by
      by_contra hne
      exact hdisjoint _ _ _ _ hget' hget hne member' hmember' member hmember hid
    subst hsame
    obtain rfl := Option.mem_unique hget hget'
    have hordered := (h.indexed _ _ hget).ordered
    rw [hordered.eq_of_aggregateId hmember' hmember hid] at hgeneration
    exact ⟨hphase, hgeneration.symm⟩
  have honce : member.resultingPlacementGeneration = member.priorPlacementGeneration + 1 :=
    (h.indexed _ _ hget).ordered.advances_once member hmember
  intro hovertaken
  unfold Overtaken at hovertaken
  unfold CellDirectoryDocumentV3.terminalStart at hlater
  rcases hreleased with hphase | hphase | hphase
  case inl | inr.inl =>
    simp only [hphase] at hovertaken hlater
    have hhistory := hlater _ (if_pos hovertaken)
    have hgeneration := (hown (exists_advance_of_laterMemberHistory hovertaken hhistory)).2
    omega
  case inr.inr =>
    simp only [hphase] at hovertaken hlater
    have hhistory := hlater _ (if_pos hovertaken)
    have hadvanced := (hown (exists_advance_of_laterMemberHistory hovertaken hhistory)).1
    simp [advanced, hphase] at hadvanced

theorem FreshRequest.overtaken_iff (h : FreshRequest codec document requested)
    (hvalid : document.Valid codec) (hdisjoint : Disjoint document) :
    EarlierOvertaken document requested ↔ NeverTransferred document requested := by
  constructor
  · intro hovertaken transferId transfer hget member hmember current hcurrent hid
    obtain ⟨placement, hplacement, -, -, -, hgeneration, hstate, -⟩ := h.resident current hcurrent
    rw [hid] at hplacement
    obtain ⟨found, hfound, -, hmatches, -⟩ := hvalid.members transferId transfer hget member hmember
    obtain rfl := Option.mem_unique hplacement hfound
    refine hvalid.not_overtaken hdisjoint hget hmember hplacement
      (released_of_resident hmatches hstate) ?_
    rw [hgeneration]
    exact hovertaken transferId transfer hget member hmember current hcurrent hid
  · intro hnever transferId transfer hget member hmember current hcurrent hid
    exact absurd hid (hnever transferId transfer hget member hmember current hcurrent)

/-! ## Every reachable document -/

variable {transition : Option BundledPlacementTransition} {op : DirectoryV3Op}

variable {current : CellTransferRecordV3}

theorem Advances.bundle_eq {record} (h : Advances op transferId current transition record) :
    record.bundle = current.bundle := by
  cases h <;> rfl

variable {next : CellDirectoryDocumentV3}

theorem Disjoint.effect (hdisjoint : Disjoint document) (hvalid : document.Valid codec)
    (h : Effect codec document op next)
    (hnext : next.Valid codec) : Disjoint next := by
  cases h with
  | prepared fresh =>
    rename_i requested
    have hnever := (fresh.overtaken_iff hvalid hdisjoint).mp (fresh.overtaken_of_valid hnext)
    intro id t id' t' hget hget' hne member hmember member' hmember'
    rw [prepared_transfers, OrdMap.get?_insert] at hget hget'
    split_ifs at hget hget' with hid hid' hid'
    · exact absurd (hid.trans hid'.symm) hne
    · obtain rfl := Option.some.inj hget
      exact hnever id' t' hget' member' hmember' member hmember
    · obtain rfl := Option.some.inj hget'
      exact (hnever id t hget member hmember member' hmember').symm
    · exact hdisjoint id t id' t' hget hget' hne member hmember member' hmember'
  | advanced found advances staged =>
    rename_i transferId current transition record placements
    -- the record keeps its members, so every transfer of the new document has those of an old one
    have hold : ∀ {id t}, (document.transfers.insert transferId record).get? id = some t →
        ∃ t₀, document.transfers.get? id = some t₀ ∧ t₀.bundle = t.bundle := by
      intro id t hget
      rw [OrdMap.get?_insert] at hget
      split_ifs at hget with hid
      · obtain rfl := Option.some.inj hget
        exact ⟨current, hid ▸ found, advances.bundle_eq.symm⟩
      · exact ⟨t, hget, rfl⟩
    intro id t id' t' hget hget' hne member hmember member' hmember'
    obtain ⟨t₀, hget₀, hbundle⟩ := hold hget
    obtain ⟨t₀', hget₀', hbundle'⟩ := hold hget'
    exact hdisjoint id t₀ id' t₀' hget₀ hget₀' hne member (hbundle ▸ hmember) member'
      (hbundle' ▸ hmember')
  | reassigned found reassigns => exact hdisjoint

/-- A reachable document is valid and its transfers share no member. -/
structure Settled (codec : DirectoryCodec) (history : DirectoryHistory) : Prop where
  valid : history.current.Valid codec
  disjoint : Disjoint history.current

theorem IsGenesis.settled (h : IsGenesis codec document) :
    Settled codec (genesisHistory document) where
  valid := validate_eq_ok.mp h.valid
  disjoint := by
    intro id t id' t' hget
    rw [show (genesisHistory document).current.transfers = OrdMap.empty from h.no_transfers] at hget
    cases hget

theorem Settled.step {history result} (hsettled : Settled codec history)
    (h : history.step codec op = .ok result) :
    Settled codec result := by
  cases step_cases hsettled.valid h with
  | unchanged => exact hsettled
  | appended effect valid => exact ⟨valid, hsettled.disjoint.effect hsettled.valid effect valid⟩

variable {history : DirectoryHistory}

theorem IsGenesis.settled_of_run (h : IsGenesis codec document) {ops}
    (hrun : run codec (genesisHistory document) ops = .ok history) :
    Settled codec history :=
  preserved_of_run (fun hsettled hstep => Settled.step hsettled hstep) h.settled hrun

/-- On every document reached from a genesis document, a fresh well-formed request whose members
    are all resident, between cells held as it says and within the bounds, is accepted exactly
    when none of its members was a member of an earlier transfer. -/
theorem prepare_accepted_iff (hgenesis : IsGenesis codec document) {history : DirectoryHistory}
    {ops : List DirectoryV3Op} (hrun : run codec (genesisHistory document) ops = .ok history)
    (hrequest : FreshRequest codec history.current requested)
    (hbounds : WithinBounds codec history.current requested) :
    (∃ next, stageV3Prepare codec history.current requested = .ok next) ↔
      NeverTransferred history.current requested := by
  have hsettled := hgenesis.settled_of_run hrun
  rw [hrequest.prepare_iff_overtaken hsettled.valid hbounds]
  exact hrequest.overtaken_iff hsettled.valid hsettled.disjoint

/-! ## Stages that succeed -/

theorem advance_ok
    (hvalid : next.validate codec = .ok ())
    (hrevision : next.directoryRevision = history.current.directoryRevision + 1)
    (hbound : next.directoryRevision ≤ u64Max)
    (hsame : next.universeId = history.current.universeId
      ∧ next.universeManifestHash = history.current.universeManifestHash
      ∧ next.migrationGenesis = history.current.migrationGenesis) :
    history.advance codec next = .ok ⟨history.documents, next⟩ := by
  have hne : next ≠ history.current := by
    intro h
    rw [h] at hrevision
    omega
  have hadd : checkedAdd history.current.directoryRevision 1 ≠ none := by
    rw [hrevision] at hbound
    simp [checkedAdd, hbound]
  simp [DirectoryHistory.advance, DirectoryHistory.commit, hvalid, hne, hadd, hrevision, hsame]

variable {settled : CellTransferRecordV3 → Fallible Bool} {placements : Placements}
  {record : CellTransferRecordV3 → CellTransferRecordV3}

/-- A stage that is not settled yet, from what it is made of. -/
theorem stageTransfer_ok
    (hvalid : document.validate codec = .ok ())
    (hcurrent : document.transfers.get? transferId = some current)
    (hsettled : settled current = .ok false)
    (hplacements : stagePlacements codec document transferId current transition = .ok placements)
    (hbound : document.directoryRevision + 1 ≤ u64Max)
    (hnext : transacted codec document { document with
      placements := placements
      transfers := document.transfers.insert transferId (record current) } = next)
    (hnextValid : next.validate codec = .ok ()) :
    stageTransfer codec document transferId settled transition record = .ok next := by
  subst hnext
  have hadd : checkedAdd document.directoryRevision 1 ≠ none := by simp [checkedAdd, hbound]
  simp [stageTransfer, v3Transfer, hvalid, hcurrent, hsettled, hplacements, finishV3Transaction,
    hadd, hnextValid]

/-! ## Two proof cells, a grid and its rider -/

def zeroHash : String := "0000000000000000000000000000000000000000000000000000000000000000"

/-- One hash for everything, and room for it. -/
def proofCodec : DirectoryCodec where
  sky :=
    { proofCellIds with
      neighborCellKey := fun key offset =>
        some { key with cellX := ((key.cellX : Int) + offset.1).toNat } }
  hashes :=
    { prepareWitness := fun _ => zeroHash
      prepareProof := fun _ => zeroHash
      quarantineWitness := fun _ => zeroHash
      quarantineProof := fun _ => zeroHash
      exportProof := fun _ => zeroHash
      importProof := fun _ => zeroHash
      activationProof := fun _ => zeroHash
      finalizationProof := fun _ => zeroHash
      abortProof := fun _ => zeroHash }
  memberRoot _ := zeroHash
  assignmentRoot _ := zeroHash
  placementRoot _ := zeroHash
  genesisRecordHash _ := zeroHash
  documentHash _ := zeroHash
  encodedLength _ := 0
  documentHash_hex _ := by decide +kernel

/-- The key and the identifier of the first proof cell, and of its neighbour to the east. -/
def proofCell (east : Bool) : CellKeyV1 × String :=
  if east then ({ cellOriginKey with cellX := 501 },
    "e24242afc42c71a9629093e0c82b1779e306e92c52804ebc105ef373fa5a8f4d")
  else (cellOriginKey, "5110e8ef07316dc5fc8cd48210915d3e879779c67dc3e11a9da0402656c76d17")

def heldCell (east : Bool) (holderId : String) : String × CellAssignmentRecord :=
  ((proofCell east).2,
    { cellKey := (proofCell east).1
      cellId := (proofCell east).2
      assignmentGeneration := 1
      authorityFencingToken := 1
      fencingHistory := OrdMap.ofList [(1, 1)]
      state := .assigned
      holderId := some holderId })

def restingIn (aggregateId : String) (aggregateKind : MobileAggregateKind) :
    String × AggregatePlacementRecord :=
  (aggregateId,
    { aggregateId, aggregateKind
      cellKey := (proofCell false).1
      cellId := (proofCell false).2
      placementGeneration := 1
      state := .resident
      activeTransferId := none })

/-- Both cells held, a grid and a player at rest in the first. -/
def proofGenesis : CellDirectoryDocumentV3 :=
  { schemaVersion := 3
    universeId := "the-verse-local"
    universeManifestHash := zeroHash
    directoryRevision := 1
    assignments := OrdMap.ofList [heldCell false "holder-1", heldCell true "holder-2"]
    placements := OrdMap.ofList [restingIn "grid-1" .grid, restingIn "player-1" .player]
    transfers := OrdMap.empty
    migrationGenesis := none
    documentHash := zeroHash : CellDirectoryDocumentV3 }

/-- The grid and its rider to the east. -/
def proofRequest (transferId : String) : CellTransferRecordV3 where
  transferId := transferId
  rootAggregateId := "grid-1"
  sourceCellKey := (proofCell false).1
  sourceCellId := (proofCell false).2
  destinationCellKey := (proofCell true).1
  destinationCellId := (proofCell true).2
  sourceAssignmentGeneration := 1
  sourceFencingToken := 1
  destinationAssignmentGeneration := 1
  destinationFencingToken := 1
  bundle :=
    { packageSchemaVersion := 2
      receiptSchemaVersion := 2
      aggregateKind := .grid
      closureRoot := zeroHash
      conservationRoot := zeroHash
      packageHash := zeroHash
      members := [⟨"grid-1", .grid, 1, 2⟩, ⟨"player-1", .player, 1, 2⟩]
      memberRoot := zeroHash }
  quarantineReceiptHash := none
  sourcePrepareProof := none
  destinationQuarantineProof := none
  sourceExportProof := none
  importProof := none
  destinationActivationProof := none
  finalizationProof := none
  sourceAbortProof := none
  destinationAbortProof := none
  phase := .prepared

def proofCleanup (transferId : String) (side : DraftGridTransferAbortSideV2) :
    DraftGridAbortCleanupProofV2 where
  side := side
  transferId := transferId
  memberRoot := zeroHash
  packageHash := zeroHash
  cellId := (proofCell (side = .destination)).2
  assignmentGeneration := 1
  fencingToken := 1
  eventSequence := 2
  eventHash := zeroHash
  eventPayloadHash := zeroHash
  priorEventSequence := 1
  priorEventHash := zeroHash
  priorDraftWorldHash := zeroHash
  resultingDraftWorldHash := zeroHash
  trustedTimeUnixMs := 1
  mutationWitnessHash := zeroHash
  quarantineReceiptHash := none
  abortWitnessHash := zeroHash
  removedAuthority := true
  proofHash := zeroHash

/-- The bundle is prepared once and the transfer aborted. -/
def preparedAndAborted : List DirectoryV3Op :=
  [ .prepare (proofRequest "transfer-1"),
    .requestAbort "transfer-1",
    .abortCleanup "transfer-1" (proofCleanup "transfer-1" .source),
    .abortCleanup "transfer-1" (proofCleanup "transfer-1" .destination),
    .finalizeAbort "transfer-1" ]

theorem proofGenesis_isGenesis : IsGenesis proofCodec proofGenesis :=
  ⟨by decide +kernel, by decide +kernel⟩

/-- The first request for the bundle is accepted, and nothing in it was transferred before. -/
theorem prepare_accepted_first :
    (∃ next, stageV3Prepare proofCodec proofGenesis (proofRequest "transfer-1") = .ok next) ↔
      NeverTransferred proofGenesis (proofRequest "transfer-1") :=
  @prepare_accepted_iff proofCodec proofGenesis (proofRequest "transfer-1")
    proofGenesis_isGenesis (genesisHistory proofGenesis) [] rfl (by decide +kernel)
    (by decide +kernel)

/-- A member of the bundle while it is prepared. -/
def preparingIn (aggregateId : String) (aggregateKind : MobileAggregateKind) :
    String × AggregatePlacementRecord :=
  (aggregateId, { (restingIn aggregateId aggregateKind).2 with
    state := .preparing
    activeTransferId := some "transfer-1" })

/-- The proof a cleanup leaves in the record. -/
def cleanupProof (kind : DirectoryPhaseProofKindV3) (side : DraftGridTransferAbortSideV2) :
    DirectoryPhaseProofV3 where
  kind := kind
  transferId := "transfer-1"
  memberRoot := zeroHash
  packageHash := zeroHash
  cellId := (proofCell (side = .destination)).2
  assignmentGeneration := 1
  fencingToken := 1
  eventSequence := 2
  eventHash := zeroHash
  eventPayloadHash := some zeroHash
  worldHash := zeroHash
  priorEventSequence := some 1
  priorEventHash := some zeroHash
  priorDraftWorldHash := some zeroHash
  mutationWitnessHash := some zeroHash
  trustedTimeUnixMs := some 1
  abortWitnessHash := some zeroHash
  abortProofHash := some zeroHash
  resultingDraftWorldHash := some zeroHash
  abortRemovedAuthority := some true

/-- The record of the transfer with the cleanups that are in. -/
def proofRecord (phase : TransferPhase) (source destination : Bool) : CellTransferRecordV3 :=
  { proofRequest "transfer-1" with
    phase := phase
    sourceAbortProof := if source then some (cleanupProof .sourceAbort .source) else none
    destinationAbortProof :=
      if destination then some (cleanupProof .destinationAbort .destination) else none }

/-- The directory while the bundle is prepared. -/
def preparingDocument (directoryRevision : Nat) (transfer : CellTransferRecordV3) :
    CellDirectoryDocumentV3 :=
  { proofGenesis with
    directoryRevision := directoryRevision
    placements := OrdMap.ofList [preparingIn "grid-1" .grid, preparingIn "player-1" .player]
    transfers := OrdMap.ofList [("transfer-1", transfer)] }

/-- The directory after so many operations on it. -/
def proofDocument : Nat → CellDirectoryDocumentV3
  | 0 => proofGenesis
  | 1 => preparingDocument 2 (proofRecord .prepared false false)
  | 2 => preparingDocument 3 (proofRecord .aborting false false)
  | 3 => preparingDocument 4 (proofRecord .aborting true false)
  | 4 => preparingDocument 5 (proofRecord .aborting true true)
  | _ => { proofGenesis with
      directoryRevision := 6
      transfers := OrdMap.ofList [("transfer-1", proofRecord .aborted true true)] }

theorem zeroHash_hex : validBlake3Hex zeroHash = true := by decide

theorem proofCell_hex (east : Bool) : validBlake3Hex (proofCell east).2 = true := by
  cases east <;> decide

theorem validStableId_transfer : validStableId "transfer-1" = true := by decide

theorem proofCleanup_valid (side : DraftGridTransferAbortSideV2) :
    (proofCleanup "transfer-1" side).validate proofCodec.hashes = .ok () := by
  have hcell := proofCell_hex (side = .destination)
  rw [DraftGridAbortCleanupProofV2.validate, rejectIf_eq_ok]
  simp [bindingInvalid, proofCleanup, proofCodec, zeroHash_hex, hcell, validStableId_transfer,
    checkedAdd, u64Max]

theorem whenValid_of_ok {α : Type} {validate} {typed : α} (h : validate typed = .ok ()) :
    DirectoryPhaseProofV3.whenValid validate typed = some typed := by
  rw [DirectoryPhaseProofV3.whenValid, h]

/-- The proof a cleanup leaves is read back as the cleanup. -/
theorem abortCellProof_cleanupProof (kind : DirectoryPhaseProofKindV3)
    (side : DraftGridTransferAbortSideV2) :
    (cleanupProof kind side).abortCellProof proofCodec.hashes side =
      some (proofCleanup "transfer-1" side) :=
  whenValid_of_ok (proofCleanup_valid side)

section

variable {phase : TransferPhase} {source destination : Bool}

variable {kind : DirectoryPhaseProofKindV3}

theorem validatePresentProof_cleanupProof {side} {holderId : String}
    (hkind : kind = .sourceAbort ∧ side = .source
      ∨ kind = .destinationAbort ∧ side = .destination) :
    (proofRecord phase source destination).validatePresentProof proofCodec.hashes
      (cleanupProof kind side) kind (proofCell (side = .destination)).2 1
      (heldCell (side = .destination) holderId).2 true = .ok () := by
  have hnonempty : zeroHash ≠ "" := by decide
  have habort := abortCellProof_cleanupProof kind side
  simp only [CellTransferRecordV3.validatePresentProof, validateHashV3, bind_eq_ok,
    rejectIf_eq_ok, not_or, not_not, checkAll_eq_ok]
  refine ⟨(), zeroHash_hex, (), zeroHash_hex, (), ?_, ?_⟩
  · simp [CellTransferRecordV3.optionalHashes, cleanupProof, whenSome, zeroHash_hex,
      rejectIf_eq_ok, Option.filter, hnonempty]
  · rcases hkind with ⟨rfl, rfl⟩ | ⟨rfl, rfl⟩ <;>
      simp [CellTransferRecordV3.prepareBindingValid, CellTransferRecordV3.quarantineBindingValid,
        CellTransferRecordV3.exportBindingValid, CellTransferRecordV3.importBindingValid,
        CellTransferRecordV3.activationBindingValid,
        CellTransferRecordV3.finalizationBindingValid, CellTransferRecordV3.eventPredecessorValid,
        CellTransferRecordV3.productionRootValid, CellTransferRecordV3.sharedHandoffBindingValid,
        CellTransferRecordV3.ledgerBindingValid, CellTransferRecordV3.abortBindingValid,
        CellTransferRecordV3.receiptBindingValid, habort] <;>
      simp [cleanupProof, proofRecord, proofRequest, heldCell] <;> decide

theorem validatePhaseProof_of_present {hashes present proof assignment} {binds : Bool}
    (hpresent : present = some proof)
    (h : transfer.validatePresentProof hashes proof kind cellId generation assignment binds
      = .ok ()) :
    transfer.validatePhaseProof hashes kind present cellId generation assignment binds
      = .ok () := by
  rw [hpresent]
  exact h

theorem validatePhaseProofs_proofRecord
    (hphase : (proofRecord phase source destination).phaseValid) :
    (proofRecord phase source destination).validatePhaseProofs proofCodec.hashes
      (heldCell false "holder-1").2 (heldCell true "holder-2").2 = .ok () := by
  have hsource : (proofRecord phase source destination).validatePhaseProof proofCodec.hashes
      .sourceAbort (proofRecord phase source destination).sourceAbortProof (proofCell false).2 1
      (heldCell false "holder-1").2 true = .ok () := by
    cases source with
    | false => rfl
    | true =>
      exact validatePhaseProof_of_present rfl
        (validatePresentProof_cleanupProof (.inl ⟨rfl, rfl⟩))
  have hdestination : (proofRecord phase source destination).validatePhaseProof proofCodec.hashes
      .destinationAbort (proofRecord phase source destination).destinationAbortProof
      (proofCell true).2 1 (heldCell true "holder-2").2 true = .ok () := by
    cases destination with
    | false => rfl
    | true =>
      exact validatePhaseProof_of_present rfl
        (validatePresentProof_cleanupProof (.inr ⟨rfl, rfl⟩))
  simp only [CellTransferRecordV3.validatePhaseProofs, bind_eq_ok, rejectIf_eq_ok, not_not]
  exact ⟨(), rfl, (), rfl, (), rfl, (), rfl, (), rfl, (), rfl, (), hsource, (), hdestination,
    (), rfl, (), rfl, (), rfl, (), rfl, (), rfl, (), rfl, hphase⟩

theorem proofPlan_valid :
    (proofRequest "transfer-1").plan.validate proofCodec.sky proofCodec.memberRoot = .ok () := by
  decide

theorem validateIdentity_proofRecord
    (hreceipt : ¬ (proofRecord phase source destination).receiptDisagrees) :
    (proofRecord phase source destination).validateIdentity proofCodec "transfer-1"
      = .ok (proofRecord phase source destination).plan := by
  have hroot : validStableId "grid-1" = true := by decide
  have hschema : ¬ ((proofRecord phase source destination).transferId ≠ "transfer-1"
      ∨ (proofRecord phase source destination).bundle.packageSchemaVersion
        ≠ draftAggregateTransferPackageSchemaVersion
      ∨ (proofRecord phase source destination).bundle.receiptSchemaVersion
        ≠ draftAggregateTransferReceiptSchemaVersion
      ∨ (proofRecord phase source destination).bundle.aggregateKind ≠ .grid
      ∨ (proofRecord phase source destination).sourceAssignmentGeneration = 0
      ∨ (proofRecord phase source destination).sourceFencingToken = 0
      ∨ (proofRecord phase source destination).destinationAssignmentGeneration = 0
      ∨ (proofRecord phase source destination).destinationFencingToken = 0) := by
    simp [proofRecord, proofRequest, draftAggregateTransferPackageSchemaVersion,
      draftAggregateTransferReceiptSchemaVersion]
  simp only [CellTransferRecordV3.validateIdentity, CellTransferRecordV3.bundledPlan,
    validateStableIdV3, validateHashV3, bind_eq_ok, rejectIf_eq_ok, not_not, demand_eq_ok,
    pure_eq_ok]
  exact ⟨(), validStableId_transfer, (), hroot, (), zeroHash_hex, (), zeroHash_hex, (),
    zeroHash_hex, (), zeroHash_hex, (), hschema, (), rfl, (), hreceipt, _,
    ⟨(), proofPlan_valid, rfl⟩, ⟨"grid-1", .grid, 1, 2⟩, rfl, (), rfl, rfl⟩

end

/-- A document with the transfer on record is valid where the parts that look at its placements
    and its phase are. The hashes are checked here once for all of them. -/
theorem validate_of_proofRecord
    (revision : Nat) (phase : TransferPhase) (source destination : Bool)
    (hdocument : document = { proofGenesis with
      directoryRevision := revision + 1
      placements := placements
      transfers := OrdMap.ofList [("transfer-1", proofRecord phase source destination)] })
    (hsize : placements.size ≤ maxDraftPlacements)
    (hreceipt : ¬ (proofRecord phase source destination).receiptDisagrees)
    (hphase : (proofRecord phase source destination).phaseValid)
    (hplacements : checkAll document.validatePlacement placements.entries = .ok ())
    (hmembers : checkAll (document.validateTransferMember "transfer-1"
      (proofRecord phase source destination)) (proofRequest "transfer-1").bundle.members = .ok ())
    (honly : ∀ entry ∈ placements.entries, entry.2.activeTransferId = some "transfer-1" →
      ∃ member ∈ (proofRequest "transfer-1").bundle.members, member.aggregateId = entry.1)
    (hactive : checkAll document.validatePlacementTransfers placements.entries = .ok ()) :
    document.validate proofCodec = .ok () := by
  have hgenesis := validate_eq_ok.mp proofGenesis_isGenesis.valid
  have hheader : ¬ document.headerInvalid proofCodec := by
    subst hdocument
    have hnamed : isBlank proofGenesis.universeId = false := by decide
    have hassigned : proofGenesis.assignments.size = 2 := by decide
    have hrecorded : 1 ≤ maxDraftTransfers := by decide
    simp only [CellDirectoryDocumentV3.headerInvalid, not_or, not_not, not_lt, hnamed]
    exact ⟨rfl, Bool.false_ne_true, zeroHash_hex, Nat.succ_ne_zero _, hassigned, hsize, hrecorded,
      Nat.zero_le _, zeroHash_hex, rfl⟩
  have hindexed : Indexed proofCodec document.migrationGenesis "transfer-1"
      (proofRecord phase source destination) := by
    subst hdocument
    exact ⟨by rintro _ ⟨⟩, validateIdentity_proofRecord hreceipt, by rintro _ ⟨⟩⟩
  have hrouted : Routed proofCodec document.assignments
      (proofRecord phase source destination) := by
    subst hdocument
    have hnear : areFaceNeighbors proofCodec (proofCell false).1 (proofCell true).1 := by
      decide
    exact ⟨_, _, rfl, rfl, rfl, rfl, rfl, rfl, hnear, fun _ => ⟨rfl, rfl⟩,
      validatePhaseProofs_proofRecord hphase⟩
  have htransfers : document.transfers.entries =
      [("transfer-1", proofRecord phase source destination)] := by
    subst hdocument
    rfl
  have hentries : document.placements = placements := by
    subst hdocument
    rfl
  have hindex : checkEach (document.indexTransfer proofCodec) [] document.transfers.entries
      = .ok () := by
    have hcount : 2 ≤ maxDraftTransferMemberships := by decide
    rw [htransfers, checkEach_indexTransfer (Nat.zero_le _)]
    refine ⟨?_, hcount, List.pairwise_singleton _ _, fun _ hnone => absurd hnone List.not_mem_nil⟩
    rintro _ (_ | ⟨_, ⟨⟩⟩)
    exact hindexed
  have hroutes : checkAll (document.validateTransfer proofCodec) document.transfers.entries
      = .ok () := by
    rw [htransfers, checkAll_eq_ok]
    rintro _ (_ | ⟨_, ⟨⟩⟩)
    refine validateTransfer_eq_ok.mpr ⟨hrouted, ?_, ?_⟩
    · intro member hmember
      exact validateTransferMember_eq_ok.mp (checkAll_eq_ok.mp hmembers member hmember)
    · intro aggregateId placement hget
      rw [hentries] at hget
      exact honly _ (OrdMap.mem_entries.mpr hget)
  rw [CellDirectoryDocumentV3.validate, CellDirectoryDocumentV3.validateTransfers, hentries]
  simp only [bind_eq_ok, rejectIf_eq_ok]
  refine ⟨(), hheader, (), ?_, (), ?_, (), hplacements, (), hindex, (), hroutes, hactive⟩
  · subst hdocument
    exact hgenesis.assignments
  · subst hdocument
    rfl

theorem proofDocument_valid (n : Nat) : (proofDocument n).validate proofCodec = .ok () := by
  match n with
  | 0 => exact proofGenesis_isGenesis.valid
  | 1 =>
    exact validate_of_proofRecord 1 .prepared false false rfl (by decide) (by decide) (by decide)
      (by decide) (by decide) (by decide) (by decide)
  | 2 =>
    exact validate_of_proofRecord 2 .aborting false false rfl (by decide) (by decide) (by decide)
      (by decide) (by decide) (by decide) (by decide)
  | 3 =>
    exact validate_of_proofRecord 3 .aborting true false rfl (by decide) (by decide) (by decide)
      (by decide) (by decide) (by decide) (by decide)
  | 4 =>
    exact validate_of_proofRecord 4 .aborting true true rfl (by decide) (by decide) (by decide)
      (by decide) (by decide) (by decide) (by decide)
  | _ + 5 =>
    have hlast : (proofDocument 5).validate proofCodec = .ok () :=
      validate_of_proofRecord 5 .aborted true true rfl (by decide) (by decide) (by decide)
        (by decide) (by decide) (by decide) (by decide)
    exact hlast

theorem proofDocument_staged {n : Nat}
    (hat : history.current = proofDocument n)
    (hcurrent : (proofDocument n).transfers.get? "transfer-1" = some current)
    (hsettled : settled current = .ok false)
    (hplacements : stagePlacements proofCodec (proofDocument n) "transfer-1" current transition =
      .ok placements)
    (hrevision : (proofDocument n).directoryRevision + 1 ≤ u64Max)
    (hnext : transacted proofCodec (proofDocument n) { proofDocument n with
      placements := placements
      transfers := (proofDocument n).transfers.insert "transfer-1" (record current) } =
        proofDocument (n + 1)) :
    ∃ after, (stageTransfer proofCodec history.current "transfer-1" settled transition record >>=
        history.advance proofCodec) = .ok after ∧ after.current = proofDocument (n + 1) := by
  have hvalid := proofDocument_valid (n + 1)
  rw [hat, stageTransfer_ok (proofDocument_valid n) hcurrent hsettled hplacements hrevision hnext
    hvalid]
  rw [← hnext] at hvalid ⊢
  exact ⟨_, advance_ok hvalid (by rw [hat]; rfl) hrevision (by rw [hat]; exact ⟨rfl, rfl, rfl⟩),
    rfl⟩

theorem stageV3Prepare_proofGenesis :
    stageV3Prepare proofCodec proofGenesis (proofRequest "transfer-1")
      = .ok (proofDocument 1) := by
  have hidentity : (proofRequest "transfer-1").validateIdentity proofCodec "transfer-1"
      = .ok (proofRequest "transfer-1").plan :=
    @validateIdentity_proofRecord .prepared false false (by decide)
  have hproofs : (proofRequest "transfer-1").validatePhaseProofs proofCodec.hashes
      (heldCell false "holder-1").2 (heldCell true "holder-2").2 = .ok () :=
    @validatePhaseProofs_proofRecord .prepared false false (by decide)
  have hplacements : stageBundledPlacementTransition proofCodec.sky proofCodec.memberRoot
      proofGenesis.placements (proofRequest "transfer-1").plan "transfer-1" zeroHash .prepare
        = .ok (proofDocument 1).placements := by
    decide
  have hfinish : finishV3Transaction proofCodec proofGenesis { proofGenesis with
      placements := (proofDocument 1).placements
      transfers := proofGenesis.transfers.insert "transfer-1" (proofRequest "transfer-1") }
        = .ok (proofDocument 1) :=
    finishV3Transaction_eq_ok.mpr ⟨by decide, validate_eq_ok.mp (proofDocument_valid 1), rfl⟩
  have hfresh : proofGenesis.transfers.get? "transfer-1" = none := rfl
  have hroute : (proofRequest "transfer-1").RouteIsCurrent proofCodec
      (heldCell false "holder-1").2 (heldCell true "holder-2").2 := by
    decide
  have hsource : proofGenesis.assignments.get? (proofRequest "transfer-1").sourceCellId =
      some (heldCell false "holder-1").2 := rfl
  have hdestination : proofGenesis.assignments.get?
      (proofRequest "transfer-1").destinationCellId = some (heldCell true "holder-2").2 := rfl
  have hunproved : (proofRequest "transfer-1").Unproved := by decide
  simp only [stageV3Prepare, show (proofRequest "transfer-1").transferId = "transfer-1" from rfl,
    show (proofRequest "transfer-1").bundle.memberRoot = zeroHash from rfl, hfresh, hsource,
    hdestination, bind_eq_ok, rejectIf_eq_ok, not_not, demand_eq_ok, Option.some.injEq]
  exact ⟨(), proofGenesis_isGenesis.valid, (), hunproved, _, hidentity, _, rfl, _, rfl, (),
    hproofs, (), hroute, _, hplacements, hfinish⟩

theorem run_preparedAndAborted :
    ∃ history, run proofCodec (genesisHistory proofGenesis) preparedAndAborted = .ok history
      ∧ history.current = proofDocument 5 := by
  obtain ⟨first, hfirst, hat⟩ : ∃ after,
      (genesisHistory proofGenesis).step proofCodec (.prepare (proofRequest "transfer-1")) =
        .ok after ∧ after.current = proofDocument 1 := by
    have hadvance : (genesisHistory proofGenesis).advance proofCodec (proofDocument 1) =
        .ok ⟨(genesisHistory proofGenesis).documents, proofDocument 1⟩ :=
      advance_ok (proofDocument_valid 1) rfl (by decide) ⟨rfl, rfl, rfl⟩
    exact ⟨_, bind_eq_ok.mpr ⟨_, stageV3Prepare_proofGenesis, hadvance⟩, rfl⟩
  obtain ⟨second, hsecond, hat⟩ : ∃ after,
      first.step proofCodec (.requestAbort "transfer-1") = .ok after ∧
        after.current = proofDocument 2 :=
    proofDocument_staged hat rfl rfl rfl (by decide) rfl
  obtain ⟨third, hthird, hat⟩ : ∃ after,
      second.step proofCodec (.abortCleanup "transfer-1" (proofCleanup "transfer-1" .source)) =
        .ok after ∧ after.current = proofDocument 3 := by
    simp only [DirectoryHistory.step, stageV3AbortCleanup, proofCleanup_valid]
    exact proofDocument_staged hat rfl rfl rfl (by decide) rfl
  obtain ⟨fourth, hfourth, hat⟩ : ∃ after,
      third.step proofCodec (.abortCleanup "transfer-1" (proofCleanup "transfer-1" .destination)) =
        .ok after ∧ after.current = proofDocument 4 := by
    simp only [DirectoryHistory.step, stageV3AbortCleanup, proofCleanup_valid]
    exact proofDocument_staged hat rfl rfl rfl (by decide) rfl
  have hplacements : stagePlacements proofCodec (proofDocument 4) "transfer-1"
      (proofRecord .aborting true true) (some .abort) = .ok proofGenesis.placements := by
    decide
  obtain ⟨fifth, hfifth, hat⟩ : ∃ after,
      fourth.step proofCodec (.finalizeAbort "transfer-1") = .ok after ∧
        after.current = proofDocument 5 :=
    proofDocument_staged hat rfl rfl hplacements (by decide) rfl
  refine ⟨fifth, ?_, hat⟩
  simp only [preparedAndAborted, runAll_cons_eq_ok, runAll_nil]
  exact ⟨first, hfirst, second, hsecond, third, hthird, fourth, hfourth, fifth, hfifth, rfl⟩

/-- After one aborted transfer the same bundle, resident and unlocked where it always was, is
    refused under a fresh identifier. -/
theorem not_prepare_accepted :
    ∃ history, IsGenesis proofCodec proofGenesis
      ∧ run proofCodec (genesisHistory proofGenesis) preparedAndAborted = .ok history
      ∧ FreshRequest proofCodec history.current (proofRequest "transfer-2")
      ∧ WithinBounds proofCodec history.current (proofRequest "transfer-2")
      ∧ ¬ ∃ next, stageV3Prepare proofCodec history.current (proofRequest "transfer-2")
          = .ok next := by
  obtain ⟨history, hrun, hat⟩ := run_preparedAndAborted
  have hfresh : FreshRequest proofCodec history.current (proofRequest "transfer-2") := by
    rw [hat]
    decide +kernel
  have hbounds : WithinBounds proofCodec history.current (proofRequest "transfer-2") := by
    rw [hat]
    decide +kernel
  refine ⟨history, proofGenesis_isGenesis, hrun, hfresh, hbounds, ?_⟩
  have hsettled := proofGenesis_isGenesis.settled_of_run hrun
  rw [hfresh.prepare_iff_overtaken hsettled.valid hbounds,
    hfresh.overtaken_iff hsettled.valid hsettled.disjoint, hat]
  intro hnever
  exact hnever "transfer-1" _ rfl _ List.mem_cons_self _ List.mem_cons_self rfl

/-- The abort has left the bundle where it was. -/
example : (proofDocument 5).placements = proofGenesis.placements := by decide +kernel

end Verse.DirectoryV3
