import Verse.DirectoryV3.Safety
import Verse.DirectoryV3.Immovable

/-!
# Stored proofs are lossless

A cell submits one of seven typed proofs, the cleanup for either side, and the directory keeps
each in one record of many optional fields. The record is read back through the view of a
transfer, which fills the typed proof in from the fields that its kind should have and validates
it again. Nothing but the record is kept, so what a flattening dropped no reader could restore.

The readers are written out a second time: `validate_phase_proof` builds three of the typed
proofs with a default where a field is absent, and the view stops there. These three are in the
namespace `Accessor`.

A reader answers for no kind but its own. Seven of the eight are told apart by a field that only
one kind has; the two cleanups have the same fields, and differ by the side that is hashed into
the proof.
-/

namespace Verse.DirectoryV3

open Lib Directory

/-! ## The view of a transfer -/

section

variable (hashes : HandoffHashes)

namespace Accessor

variable (proof : DirectoryPhaseProofV3)

/-- What `source_export_cell_proof` of the view makes of the proof on record. -/
def sourceExportCellProof (rootAggregateId : String) : Option DraftGridExportProofV2 := do
  DirectoryPhaseProofV3.whenValid (·.validate hashes)
    { transferId := proof.transferId
      rootAggregateId
      memberRoot := proof.memberRoot
      packageHash := proof.packageHash
      sourceCellId := proof.cellId
      assignmentGeneration := proof.assignmentGeneration
      fencingToken := proof.fencingToken
      priorEventSequence := ← proof.priorEventSequence
      priorEventHash := ← proof.priorEventHash
      eventSequence := proof.eventSequence
      eventHash := proof.eventHash
      eventPayloadHash := ← proof.eventPayloadHash
      priorDraftWorldHash := ← proof.priorDraftWorldHash
      resultingActiveWorldHash := proof.worldHash
      quarantineReceiptHash := ← proof.quarantineReceiptHash
      exportedAtUnixMs := ← proof.trustedTimeUnixMs
      mutationWitnessHash := ← proof.mutationWitnessHash
      proofHash := ← proof.exportProofHash
      ledgerVector := ← proof.ledgerVector }

def destinationImportCellProof (rootAggregateId : String) : Option DraftGridImportProofV2 := do
  DirectoryPhaseProofV3.whenValid (·.validate hashes)
    { transferId := proof.transferId
      rootAggregateId
      memberRoot := proof.memberRoot
      packageHash := proof.packageHash
      destinationCellId := proof.cellId
      assignmentGeneration := proof.assignmentGeneration
      fencingToken := proof.fencingToken
      priorEventSequence := ← proof.priorEventSequence
      priorEventHash := ← proof.priorEventHash
      eventSequence := proof.eventSequence
      eventHash := proof.eventHash
      eventPayloadHash := ← proof.eventPayloadHash
      priorDraftWorldHash := ← proof.priorDraftWorldHash
      resultingActiveWorldHash := proof.worldHash
      quarantineReceiptHash := ← proof.quarantineReceiptHash
      quarantinedAtUnixMs := ← proof.quarantinedAtUnixMs
      sourceExportProofHash := ← proof.sourceExportProofHash
      sourceExportedAtUnixMs := ← proof.sourceExportedAtUnixMs
      importedAtUnixMs := ← proof.trustedTimeUnixMs
      destinationProductionLifecycleGeneration :=
        ← proof.destinationProductionLifecycleGeneration
      productionEligibilityRoot := ← proof.productionEligibilityRoot
      mutationWitnessHash := ← proof.mutationWitnessHash
      proofHash := ← proof.importProofHash
      ledgerVector := ← proof.ledgerVector }

def destinationActivationCellProof (rootAggregateId : String) :
    Option DraftGridActivationProofV2 := do
  DirectoryPhaseProofV3.whenValid (·.validate hashes)
    { transferId := proof.transferId
      rootAggregateId
      memberRoot := proof.memberRoot
      packageHash := proof.packageHash
      destinationCellId := proof.cellId
      assignmentGeneration := proof.assignmentGeneration
      fencingToken := proof.fencingToken
      priorEventSequence := ← proof.priorEventSequence
      priorEventHash := ← proof.priorEventHash
      eventSequence := proof.eventSequence
      eventHash := proof.eventHash
      eventPayloadHash := ← proof.eventPayloadHash
      priorActiveWorldHash := ← proof.priorActiveWorldHash
      resultingActiveWorldHash := proof.worldHash
      quarantineReceiptHash := ← proof.quarantineReceiptHash
      destinationImportProofHash := ← proof.destinationImportProofHash
      importedAtUnixMs := ← proof.importedAtUnixMs
      activatedAtUnixMs := ← proof.trustedTimeUnixMs
      productionEligibilityRoot := ← proof.productionEligibilityRoot
      mutationWitnessHash := ← proof.mutationWitnessHash
      proofHash := ← proof.activationProofHash }

def abortCellProof (expectedSide : DraftGridTransferAbortSideV2) :
    Option DraftGridAbortCleanupProofV2 := do
  DirectoryPhaseProofV3.whenValid (·.validate hashes)
    { side := expectedSide
      transferId := proof.transferId
      memberRoot := proof.memberRoot
      packageHash := proof.packageHash
      cellId := proof.cellId
      assignmentGeneration := proof.assignmentGeneration
      fencingToken := proof.fencingToken
      eventSequence := proof.eventSequence
      eventHash := proof.eventHash
      eventPayloadHash := ← proof.eventPayloadHash
      priorEventSequence := ← proof.priorEventSequence
      priorEventHash := ← proof.priorEventHash
      priorDraftWorldHash := ← proof.priorDraftWorldHash
      resultingDraftWorldHash := ← proof.resultingDraftWorldHash
      trustedTimeUnixMs := ← proof.trustedTimeUnixMs
      mutationWitnessHash := ← proof.mutationWitnessHash
      quarantineReceiptHash := proof.quarantineReceiptHash
      abortWitnessHash := ← proof.abortWitnessHash
      removedAuthority := ← proof.abortRemovedAuthority
      proofHash := ← proof.abortProofHash }

end Accessor

/-- What the directory tells a cell of one transfer: its record, and the two assignments. -/
structure ValidatedGridTransferAuthorityV3 where
  directoryRevision : Nat
  (directoryDocumentHash universeId universeManifestHash : String)
  record : CellTransferRecordV3
  (sourceAssignment destinationAssignment : CellAssignmentRecord)

/-- The two assignments are there in a valid document, where the implementation relies on it. -/
def CellDirectoryDocumentV3.validatedGridTransferAuthority (codec : DirectoryCodec)
    (document : CellDirectoryDocumentV3) (transferId : String) :
    Fallible ValidatedGridTransferAuthorityV3 := do
  document.validate codec
  let record ← v3Transfer document transferId
  let sourceAssignment ← demand (document.assignments.get? record.sourceCellId)
    (.invalidDirectory "validated source assignment exists")
  let destinationAssignment ← demand (document.assignments.get? record.destinationCellId)
    (.invalidDirectory "validated destination assignment exists")
  return {
    directoryRevision := document.directoryRevision
    directoryDocumentHash := document.documentHash
    universeId := document.universeId
    universeManifestHash := document.universeManifestHash
    record
    sourceAssignment
    destinationAssignment }

namespace ValidatedGridTransferAuthorityV3

variable (view : ValidatedGridTransferAuthorityV3)

def sourcePrepareCellProof : Option DraftGridPrepareProofV2 := do
  (← view.record.sourcePrepareProof).sourcePrepareCellProof hashes view.record.rootAggregateId

def destinationQuarantineCellProof : Option DraftGridQuarantineProofV2 := do
  (← view.record.destinationQuarantineProof).destinationQuarantineCellProof hashes
    view.record.rootAggregateId

def sourceExportCellProof : Option DraftGridExportProofV2 := do
  Accessor.sourceExportCellProof hashes (← view.record.sourceExportProof)
    view.record.rootAggregateId

def destinationImportCellProof : Option DraftGridImportProofV2 := do
  Accessor.destinationImportCellProof hashes (← view.record.importProof)
    view.record.rootAggregateId

def destinationActivationCellProof : Option DraftGridActivationProofV2 := do
  Accessor.destinationActivationCellProof hashes (← view.record.destinationActivationProof)
    view.record.rootAggregateId

def sourceFinalizationCellProof : Option DraftGridFinalizationProofV2 := do
  (← view.record.finalizationProof).sourceFinalizationCellProof hashes
    view.record.rootAggregateId

def sourceAbortCellProof : Option DraftGridAbortCleanupProofV2 := do
  Accessor.abortCellProof hashes (← view.record.sourceAbortProof) .source

def destinationAbortCellProof : Option DraftGridAbortCleanupProofV2 := do
  Accessor.abortCellProof hashes (← view.record.destinationAbortProof) .destination

end ValidatedGridTransferAuthorityV3

end

/-! ## The eight kinds at once -/

/-- A proof that a cell submits. -/
inductive TypedPhaseProof where
  | prepared (prepare : DraftGridPrepareProofV2)
  | quarantined (quarantine : DraftGridQuarantineProofV2)
  | exported (exported : DraftGridExportProofV2)
  | imported (imported : DraftGridImportProofV2)
  | activated (activation : DraftGridActivationProofV2)
  | finalized (finalization : DraftGridFinalizationProofV2)
  | cleaned (cleanup : DraftGridAbortCleanupProofV2)
deriving DecidableEq

namespace TypedPhaseProof

def kind : TypedPhaseProof → DirectoryPhaseProofKindV3
  | .prepared _ => .sourcePrepare
  | .quarantined _ => .destinationQuarantine
  | .exported _ => .sourceExport
  | .imported _ => .destinationImport
  | .activated _ => .destinationActivation
  | .finalized _ => .sourceFinalization
  | .cleaned cleanup => match cleanup.side with
    | .source => .sourceAbort
    | .destination => .destinationAbort

/-- The stage that takes the proof. -/
def stage (codec : DirectoryCodec) (document : CellDirectoryDocumentV3) (transferId : String) :
    TypedPhaseProof → Fallible CellDirectoryDocumentV3
  | .prepared proof => stageV3SourcePrepared codec document transferId proof
  | .quarantined proof => stageV3Quarantine codec document transferId proof
  | .exported proof => stageV3SourceExported codec document transferId proof
  | .imported proof => stageV3DestinationImported codec document transferId proof
  | .activated proof => stageV3DestinationActivated codec document transferId proof
  | .finalized proof => stageV3SourceFinalized codec document transferId proof
  | .cleaned proof => stageV3AbortCleanup codec document transferId proof

end TypedPhaseProof

/-- Where the record keeps the proof of a kind. -/
def CellTransferRecordV3.proofOf (transfer : CellTransferRecordV3) :
    DirectoryPhaseProofKindV3 → Option DirectoryPhaseProofV3
  | .sourcePrepare => transfer.sourcePrepareProof
  | .destinationQuarantine => transfer.destinationQuarantineProof
  | .sourceExport => transfer.sourceExportProof
  | .destinationImport => transfer.importProof
  | .destinationActivation => transfer.destinationActivationProof
  | .sourceFinalization => transfer.finalizationProof
  | .sourceAbort => transfer.sourceAbortProof
  | .destinationAbort => transfer.destinationAbortProof

/-- A stored proof, whatever it is, read as a proof of a kind. -/
def DirectoryPhaseProofV3.readAs (hashes : HandoffHashes) (proof : DirectoryPhaseProofV3)
    (rootAggregateId : String) : DirectoryPhaseProofKindV3 → Option TypedPhaseProof
  | .sourcePrepare => .prepared <$> proof.sourcePrepareCellProof hashes rootAggregateId
  | .destinationQuarantine =>
    .quarantined <$> proof.destinationQuarantineCellProof hashes rootAggregateId
  | .sourceExport => .exported <$> Accessor.sourceExportCellProof hashes proof rootAggregateId
  | .destinationImport =>
    .imported <$> Accessor.destinationImportCellProof hashes proof rootAggregateId
  | .destinationActivation =>
    .activated <$> Accessor.destinationActivationCellProof hashes proof rootAggregateId
  | .sourceFinalization =>
    .finalized <$> proof.sourceFinalizationCellProof hashes rootAggregateId
  | .sourceAbort => .cleaned <$> Accessor.abortCellProof hashes proof .source
  | .destinationAbort => .cleaned <$> Accessor.abortCellProof hashes proof .destination

/-- What the view has of a kind. -/
def ValidatedGridTransferAuthorityV3.cellProof (hashes : HandoffHashes)
    (view : ValidatedGridTransferAuthorityV3) : DirectoryPhaseProofKindV3 → Option TypedPhaseProof
  | .sourcePrepare => .prepared <$> view.sourcePrepareCellProof hashes
  | .destinationQuarantine => .quarantined <$> view.destinationQuarantineCellProof hashes
  | .sourceExport => .exported <$> view.sourceExportCellProof hashes
  | .destinationImport => .imported <$> view.destinationImportCellProof hashes
  | .destinationActivation => .activated <$> view.destinationActivationCellProof hashes
  | .sourceFinalization => .finalized <$> view.sourceFinalizationCellProof hashes
  | .sourceAbort => .cleaned <$> view.sourceAbortCellProof hashes
  | .destinationAbort => .cleaned <$> view.destinationAbortCellProof hashes

variable {codec : DirectoryCodec} {document next : CellDirectoryDocumentV3}
  {transferId : String} {transfer : CellTransferRecordV3} {proof : DirectoryPhaseProofV3}
  {kind : DirectoryPhaseProofKindV3} {typed : TypedPhaseProof}

variable {hashes : HandoffHashes}

theorem cellProof_eq {view : ValidatedGridTransferAuthorityV3}
    (h : view.record.proofOf kind = some proof) :
    view.cellProof hashes kind = proof.readAs hashes view.record.rootAggregateId kind := by
  cases kind <;> simp only [CellTransferRecordV3.proofOf] at h <;>
    simp [ValidatedGridTransferAuthorityV3.cellProof, DirectoryPhaseProofV3.readAs,
      ValidatedGridTransferAuthorityV3.sourcePrepareCellProof,
      ValidatedGridTransferAuthorityV3.destinationQuarantineCellProof,
      ValidatedGridTransferAuthorityV3.sourceExportCellProof,
      ValidatedGridTransferAuthorityV3.destinationImportCellProof,
      ValidatedGridTransferAuthorityV3.destinationActivationCellProof,
      ValidatedGridTransferAuthorityV3.sourceFinalizationCellProof,
      ValidatedGridTransferAuthorityV3.sourceAbortCellProof,
      ValidatedGridTransferAuthorityV3.destinationAbortCellProof, h]

/-! ## What a stage leaves on record -/

/-- A stage left a proof on record, in a transfer about the root it was about before. -/
def LeftOnRecord (document next : CellDirectoryDocumentV3) (transferId : String)
    (kind : DirectoryPhaseProofKindV3) (proof : DirectoryPhaseProofV3) : Prop :=
  ∃ current transfer, document.transfers.get? transferId = some current
    ∧ next.transfers.get? transferId = some transfer
    ∧ transfer.rootAggregateId = current.rootAggregateId
    ∧ transfer.proofOf kind = some proof

variable {settled : CellTransferRecordV3 → Fallible Bool}
  {transition : Option BundledPlacementTransition}
  {record : CellTransferRecordV3 → CellTransferRecordV3}

theorem leftOnRecord_of_stageTransfer
    (h : stageTransfer codec document transferId settled transition record = .ok next)
    (hagain : ∀ current, settled current = .ok true → current.proofOf kind = some proof)
    (hrecord : ∀ current, (record current).proofOf kind = some proof)
    (hroot : ∀ current, (record current).rootAggregateId = current.rootAggregateId) :
    LeftOnRecord document next transferId kind proof := by
  obtain ⟨current, hget, ⟨hsettled, rfl⟩ | ⟨-, placements, -, hfinish⟩⟩ := stageTransfer_cases h
  · exact ⟨current, current, hget, hget, rfl, hagain current hsettled⟩
  · obtain ⟨-, -, rfl⟩ := finishV3Transaction_eq_ok.mp hfinish
    exact ⟨current, record current, hget, OrdMap.get?_insert_self, hroot current, hrecord current⟩

theorem proofSettled_eq_true {existing} {retryPhase ready : Prop} [Decidable retryPhase]
    [Decidable ready] {changed notReady : String}
    (h : proofSettled transferId existing proof retryPhase changed ready notReady = .ok true) :
    existing = some proof := by
  unfold proofSettled at h
  cases existing with
  | none =>
    simp only at h
    split_ifs at h
    cases h
  | some recorded =>
    simp only at h
    split_ifs at h with hsame
    rw [hsame.1]

/-- A typed proof is on record: what is kept of it in its place reads as it again. -/
def OnRecord (hashes : HandoffHashes) (document : CellDirectoryDocumentV3) (transferId : String)
    (typed : TypedPhaseProof) : Prop :=
  ∃ transfer proof, document.transfers.get? transferId = some transfer
    ∧ transfer.proofOf typed.kind = some proof
    ∧ proof.readAs hashes transfer.rootAggregateId typed.kind = some typed

theorem OnRecord.of_left {hashes : HandoffHashes}
    (h : LeftOnRecord document next transferId typed.kind proof)
    (hread : ∀ root, proof.readAs hashes root typed.kind = some typed) :
    OnRecord hashes next transferId typed := by
  obtain ⟨-, transfer, -, hget, -, hproof⟩ := h
  exact ⟨transfer, proof, hget, hproof, hread _⟩

/-- A proof that its stage accepts is valid, and about the root of the transfer. -/
theorem onRecord_of_stageProof {checked} {what rootAggregateId changedRoot : String} {apply}
    (h : stageProof codec document transferId checked what rootAggregateId changedRoot apply
      = .ok next)
    (happly : apply = .ok next → LeftOnRecord document next transferId typed.kind proof)
    (hread : checked = .ok () →
      proof.readAs codec.hashes rootAggregateId typed.kind = some typed) :
    OnRecord codec.hashes next transferId typed := by
  simp only [stageProof, v3Transfer, bind_eq_ok, mapError_eq_ok, demand_eq_ok, rejectIf_eq_ok,
    not_not] at h
  obtain ⟨⟨⟩, hchecked, -, -, found, hfound, -, hroot, hnext⟩ := h
  obtain ⟨current, transfer, hget, hget', hsame, hproof⟩ := happly hnext
  obtain rfl := Option.mem_unique hfound hget
  refine ⟨transfer, proof, hget', hproof, ?_⟩
  rw [hsame, ← hroot]
  exact hread hchecked

theorem leftOnRecord_of_quarantine
    (h : applyV3QuarantineProof codec document transferId proof = .ok next) :
    LeftOnRecord document next transferId .destinationQuarantine proof := by
  simp only [applyV3QuarantineProof, bind_eq_ok, demand_eq_ok] at h
  obtain ⟨-, -, receiptHash, -, -, -, h⟩ := h
  refine leftOnRecord_of_stageTransfer h (fun current hsettled => ?_) (fun _ => rfl) fun _ => rfl
  unfold quarantineSettled at hsettled
  split_ifs at hsettled with hrecorded hsame
  · exact hsame.2
  · cases hsettled

variable {cleanup : DraftGridAbortCleanupProofV2}

/-- The kind of a cleanup is that of its side, and so is the place where it is kept. -/
theorem onRecord_cleaned (h : stageV3AbortCleanup codec document transferId cleanup = .ok next) :
    OnRecord codec.hashes next transferId (.cleaned cleanup) := by
  simp only [stageV3AbortCleanup, bind_eq_ok, mapError_eq_ok] at h
  obtain ⟨⟨⟩, hchecked, hnext⟩ := h
  cases hside : cleanup.side with
  | source | destination =>
    rw [hside] at hnext
    apply OnRecord.of_left
    · rw [TypedPhaseProof.kind, hside]
      exact leftOnRecord_of_stageTransfer hnext (fun _ hsettled => proofSettled_eq_true hsettled)
        (fun _ => rfl) fun _ => rfl
    · intro root
      rw [TypedPhaseProof.kind, hside]
      simp only [DirectoryPhaseProofV3.readAs, Accessor.abortCellProof]
      simp [DirectoryPhaseProofV3.whenValid, ← hside, hchecked]

theorem onRecord_of_stage (h : typed.stage codec document transferId = .ok next) :
    OnRecord codec.hashes next transferId typed := by
  cases typed with
  | prepared | exported | imported | activated | finalized =>
    refine onRecord_of_stageProof h (fun hnext => leftOnRecord_of_stageTransfer hnext
      (fun _ hsettled => proofSettled_eq_true hsettled) (fun _ => rfl) fun _ => rfl) ?_
    intro hchecked
    simp [DirectoryPhaseProofV3.readAs, TypedPhaseProof.kind, DirectoryPhaseProofV3.whenValid,
      DirectoryPhaseProofV3.sourcePrepareCellProof, Accessor.sourceExportCellProof,
      Accessor.destinationImportCellProof, Accessor.destinationActivationCellProof,
      DirectoryPhaseProofV3.sourceFinalizationCellProof, hchecked]
  | quarantined quarantine =>
    refine onRecord_of_stageProof h (fun hnext => leftOnRecord_of_quarantine hnext) ?_
    intro hchecked
    simp [DirectoryPhaseProofV3.readAs, TypedPhaseProof.kind,
      DirectoryPhaseProofV3.destinationQuarantineCellProof, DirectoryPhaseProofV3.whenValid,
      hchecked]
  | cleaned cleanup => exact onRecord_cleaned h

theorem valid_of_stageTransfer
    (h : stageTransfer codec document transferId settled transition record = .ok next) :
    next.Valid codec := by
  have hdocument : document.validate codec = .ok () := by
    simp only [stageTransfer, bind_eq_ok] at h
    obtain ⟨⟨⟩, hdocument, -⟩ := h
    exact hdocument
  obtain ⟨current, -, ⟨-, rfl⟩ | ⟨-, placements, -, hfinish⟩⟩ := stageTransfer_cases h
  · exact validate_eq_ok.mp hdocument
  · obtain ⟨-, hvalid, rfl⟩ := finishV3Transaction_eq_ok.mp hfinish
    exact hvalid

theorem valid_of_stage (h : typed.stage codec document transferId = .ok next) :
    next.Valid codec := by
  cases typed with
  | quarantined quarantine =>
    have hnext := stageProof_eq_ok h
    simp only [applyV3QuarantineProof, bind_eq_ok] at hnext
    obtain ⟨-, -, _, -, -, -, hnext⟩ := hnext
    exact valid_of_stageTransfer hnext
  | cleaned cleanup =>
    simp only [TypedPhaseProof.stage, stageV3AbortCleanup, bind_eq_ok] at h
    obtain ⟨⟨⟩, -, hnext⟩ := h
    exact valid_of_stageTransfer hnext
  | prepared prepare | exported exported | imported imported | activated activation
  | finalized finalization => exact valid_of_stageTransfer (stageProof_eq_ok h)

/-! ## What later operations leave of it -/

theorem RecordKept.proofOf {before after} (h : RecordKept before after)
    (hproof : before.proofOf kind = some proof) : after.proofOf kind = some proof := by
  have hevidence := h.evidence
  simp only [CellTransferRecordV3.evidence, List.forall₂_cons] at hevidence
  obtain ⟨hprepare, hquarantine, hexport, himport, hactivation, hfinalization, hsource,
    hdestination, -⟩ := hevidence
  cases kind with
  | sourcePrepare => exact hprepare proof hproof
  | destinationQuarantine => exact hquarantine proof hproof
  | sourceExport => exact hexport proof hproof
  | destinationImport => exact himport proof hproof
  | destinationActivation => exact hactivation proof hproof
  | sourceFinalization => exact hfinalization proof hproof
  | sourceAbort => exact hsource proof hproof
  | destinationAbort => exact hdestination proof hproof

theorem OnRecord.later (h : OnRecord hashes document transferId typed)
    (hkept : RecordsKept document next) : OnRecord hashes next transferId typed := by
  obtain ⟨transfer, proof, hget, hproof, hread⟩ := h
  obtain ⟨transfer', hget', hrecord, -⟩ := hkept transferId transfer hget
  have hroot : transfer'.rootAggregateId = transfer.rootAggregateId := hrecord.material.2.1.symm
  exact ⟨transfer', proof, hget', hrecord.proofOf hproof, hroot ▸ hread⟩

/-- The view of a valid document shows what is on record. -/
theorem OnRecord.shown (h : OnRecord codec.hashes document transferId typed)
    (hvalid : document.Valid codec) :
    ∃ view, document.validatedGridTransferAuthority codec transferId = .ok view
      ∧ view.cellProof codec.hashes typed.kind = some typed := by
  obtain ⟨transfer, proof, hget, hproof, hread⟩ := h
  obtain ⟨source, destination, hsource, hdestination, -⟩ := hvalid.routed transferId transfer hget
  simp only [CellDirectoryDocumentV3.validatedGridTransferAuthority, v3Transfer, bind_eq_ok,
    demand_eq_ok, pure_eq_ok]
  exact ⟨_, ⟨(), validate_eq_ok.mpr hvalid, transfer, hget, source, hsource, destination,
    hdestination, rfl⟩, (cellProof_eq hproof).trans hread⟩

/-! ## Encoding -/

/-- The JSON of a document, as far as the directory relies on it. -/
structure DocumentCodec (Byte : Type) extends DirectoryCodec where
  encode : CellDirectoryDocumentV3 → List Byte
  decode : List Byte → Option CellDirectoryDocumentV3
  decode_encode : ∀ document, decode (encode document) = some document
  encode_length : ∀ document, (encode document).length = encodedLength document

section

variable {Byte : Type} (codec : DocumentCodec Byte)

def encodeV3 (document : CellDirectoryDocumentV3) : Fallible (List Byte) := do
  document.validate codec.toDirectoryCodec
  return codec.encode document

def decodeV3 (bytes : List Byte) : Fallible CellDirectoryDocumentV3 := do
  rejectIf (bytes.length > maxDraftDirectoryV3Bytes)
    (.invalidDirectory "v3 directory exceeds its encoded byte bound")
  let document ← demand (codec.decode bytes) (.invalidDirectory "v3 directory JSON is invalid")
  document.validate codec.toDirectoryCodec
  return document

variable {codec} {stored : CellDirectoryDocumentV3}

/-- A valid document is encoded, and decodes to itself. -/
theorem decodeV3_encodeV3 (hvalid : stored.Valid codec.toDirectoryCodec) :
    ∃ bytes, encodeV3 codec stored = .ok bytes ∧ decodeV3 codec bytes = .ok stored := by
  have hok := validate_eq_ok.mpr hvalid
  have hbound : ¬ (codec.encode stored).length > maxDraftDirectoryV3Bytes := by
    have hheader := hvalid.header
    unfold CellDirectoryDocumentV3.headerInvalid at hheader
    rw [codec.encode_length]
    exact fun hlong => hheader (by simp [hlong])
  refine ⟨codec.encode stored, ?_, ?_⟩
  · rw [encodeV3, hok]
    rfl
  · simp only [decodeV3, bind_eq_ok, rejectIf_eq_ok, demand_eq_ok, pure_eq_ok]
    exact ⟨(), hbound, stored, codec.decode_encode stored, (), hok, rfl⟩

end

/-! ## Kinds -/

/-- The hash of a cleanup tells which side it is of. -/
def HandoffHashes.TellSides (hashes : HandoffHashes) : Prop :=
  ∀ (cleanup : DraftGridAbortCleanupProofV2) side,
    hashes.abortProof { cleanup with side } = hashes.abortProof cleanup → side = cleanup.side

/-- A stored proof passed the check for the place where it is kept. -/
def PassedAs (hashes : HandoffHashes) (transfer : CellTransferRecordV3)
    (proof : DirectoryPhaseProofV3) (kind : DirectoryPhaseProofKindV3) : Prop :=
  ∃ cellId generation assignment bindsReceipt,
    transfer.validatePresentProof hashes proof kind cellId generation assignment bindsReceipt
      = .ok ()

theorem passedAs_of_valid (hvalid : document.Valid codec)
    (hget : document.transfers.get? transferId = some transfer)
    (hproof : transfer.proofOf kind = some proof) :
    PassedAs codec.hashes transfer proof kind := by
  obtain ⟨source, destination, -, -, -, -, -, -, -, -, hproofs⟩ :=
    hvalid.routed transferId transfer hget
  simp only [CellTransferRecordV3.validatePhaseProofs, CellTransferRecordV3.validatePhaseProof,
    bind_eq_ok, whenSome_eq_ok] at hproofs
  obtain ⟨⟨⟩, hprepare, ⟨⟩, hquarantine, ⟨⟩, hexport, ⟨⟩, himport, ⟨⟩, hactivation, ⟨⟩,
    hfinalization, ⟨⟩, hsource, ⟨⟩, hdestination, -⟩ := hproofs
  cases kind with
  | sourcePrepare => exact ⟨_, _, _, _, hprepare proof hproof⟩
  | destinationQuarantine => exact ⟨_, _, _, _, hquarantine proof hproof⟩
  | sourceExport => exact ⟨_, _, _, _, hexport proof hproof⟩
  | destinationImport => exact ⟨_, _, _, _, himport proof hproof⟩
  | destinationActivation => exact ⟨_, _, _, _, hactivation proof hproof⟩
  | sourceFinalization => exact ⟨_, _, _, _, hfinalization proof hproof⟩
  | sourceAbort => exact ⟨_, _, _, _, hsource proof hproof⟩
  | destinationAbort => exact ⟨_, _, _, _, hdestination proof hproof⟩

theorem whenValid_eq_some {α : Type} {validate} {a b : α} :
    DirectoryPhaseProofV3.whenValid validate a = some b ↔ validate a = .ok () ∧ a = b := by
  unfold DirectoryPhaseProofV3.whenValid
  cases validate a with
  | error e | ok u => simp

/-- The field without which a stored proof is not read as a proof of a kind. -/
def mark (proof : DirectoryPhaseProofV3) : DirectoryPhaseProofKindV3 → Option String
  | .sourcePrepare => proof.prepareProofHash
  | .destinationQuarantine => proof.quarantineProofHash
  | .sourceExport => proof.exportProofHash
  | .destinationImport => proof.importProofHash
  | .destinationActivation => proof.activationProofHash
  | .sourceFinalization => proof.finalizationProofHash
  | .sourceAbort | .destinationAbort => proof.abortWitnessHash

variable {root : String}

theorem mark_of_readAs
    (h : proof.readAs hashes root kind = some typed) : (mark proof kind).isSome := by
  rw [Option.isSome_iff_ne_none]
  intro hnone
  cases kind <;> simp only [mark] at hnone
  case sourcePrepare =>
    simp [DirectoryPhaseProofV3.readAs, DirectoryPhaseProofV3.sourcePrepareCellProof, hnone] at h
  case destinationQuarantine =>
    simp [DirectoryPhaseProofV3.readAs, DirectoryPhaseProofV3.destinationQuarantineCellProof,
      hnone] at h
  case sourceExport =>
    simp [DirectoryPhaseProofV3.readAs, Accessor.sourceExportCellProof, hnone] at h
  case destinationImport =>
    simp [DirectoryPhaseProofV3.readAs, Accessor.destinationImportCellProof, hnone] at h
  case destinationActivation =>
    simp [DirectoryPhaseProofV3.readAs, Accessor.destinationActivationCellProof, hnone] at h
  case sourceFinalization =>
    simp [DirectoryPhaseProofV3.readAs, DirectoryPhaseProofV3.sourceFinalizationCellProof,
      hnone] at h
  case sourceAbort => simp [DirectoryPhaseProofV3.readAs, Accessor.abortCellProof, hnone] at h
  case destinationAbort =>
    simp [DirectoryPhaseProofV3.readAs, Accessor.abortCellProof, hnone] at h

/-- An activation is also told from a finalization, which names it, by its eligibility root. -/
theorem eligibility_of_readAs
    (h : proof.readAs hashes root .destinationActivation = some typed) :
    proof.productionEligibilityRoot.isSome := by
  rw [Option.isSome_iff_ne_none]
  intro hnone
  simp [DirectoryPhaseProofV3.readAs, Accessor.destinationActivationCellProof, hnone] at h

variable {side : DraftGridTransferAbortSideV2}

/-- A cleanup that is read is of the side asked for, and its hash is of that side. -/
theorem abortCellProof_eq_some
    (h : Accessor.abortCellProof hashes proof side = some cleanup) :
    cleanup.side = side
      ∧ cleanup.proofHash = hashes.abortProof { cleanup with proofHash := "" }
      ∧ ∀ side', proof.resultingDraftWorldHash = some proof.worldHash →
        (proof.abortCellProof hashes side').isSome →
          ({ cleanup with side := side' } : DraftGridAbortCleanupProofV2).validate hashes
            = .ok () := by
  simp only [Accessor.abortCellProof, Option.bind_eq_bind, Option.bind_eq_some_iff,
    whenValid_eq_some] at h
  obtain ⟨payload, hpayload, sequence, hsequence, prior, hprior, draft, hdraft, resulting,
    hresulting, time, htime, mutation, hmutation, witness, hwitness, removed, hremoved, hash, hhash,
    hvalid, rfl⟩ := h
  refine ⟨rfl, ?_, fun side' hworld hsome => ?_⟩
  · simp only [DraftGridAbortCleanupProofV2.validate, rejectIf_eq_ok, not_or, not_not] at hvalid
    obtain ⟨-, -, -, -, -, -, -, -, -, hproof⟩ := hvalid
    exact hproof
  · obtain rfl := Option.mem_unique hresulting hworld
    obtain ⟨inline, hinline⟩ := Option.isSome_iff_exists.mp hsome
    simp only [DirectoryPhaseProofV3.abortCellProof, hpayload, hsequence, hprior, hdraft, htime,
      hmutation, hwitness, hremoved, hhash, Option.getD_some, Option.bind_eq_bind,
      Option.bind_some, whenValid_eq_some] at hinline
    exact hinline.1

theorem kind_of_readAs
    (h : proof.readAs hashes root kind = some typed) : typed.kind = kind := by
  cases kind <;> simp only [DirectoryPhaseProofV3.readAs, Option.map_eq_map,
    Option.map_eq_some_iff] at h <;> obtain ⟨read, hread, rfl⟩ := h
  case sourceAbort => rw [TypedPhaseProof.kind, (abortCellProof_eq_some hread).1]
  case destinationAbort => rw [TypedPhaseProof.kind, (abortCellProof_eq_some hread).1]
  all_goals rfl

/-- What the check of a stored proof says of its kind. -/
structure Kinded (hashes : HandoffHashes) (transfer : CellTransferRecordV3)
    (proof : DirectoryPhaseProofV3) (kind : DirectoryPhaseProofKindV3) : Prop where
  kind_eq : proof.kind = kind
  prepare : transfer.prepareBindingValid hashes proof kind
  quarantine : transfer.quarantineBindingValid hashes proof kind
  exported : transfer.exportBindingValid hashes proof kind
  imported : transfer.importBindingValid hashes proof kind
  activation : transfer.activationBindingValid hashes proof kind
  finalization : transfer.finalizationBindingValid hashes proof kind
  eligibility : CellTransferRecordV3.productionRootValid proof kind
  abort : CellTransferRecordV3.abortBindingValid hashes proof kind

theorem PassedAs.kinded (h : PassedAs hashes transfer proof kind) :
    Kinded hashes transfer proof kind := by
  obtain ⟨cellId, generation, assignment, bindsReceipt, hpassed⟩ := h
  simp only [CellTransferRecordV3.validatePresentProof, bind_eq_ok, rejectIf_eq_ok, not_or,
    not_not] at hpassed
  obtain ⟨⟨⟩, -, ⟨⟩, -, ⟨⟩, -, hkind, -, -, -, -, -, -, -, hprepare, hquarantine, hexported,
    himported, hactivation, hfinalization, -, heligibility, -, -, -, habort, -⟩ := hpassed
  exact ⟨hkind, hprepare, hquarantine, hexported, himported, hactivation, hfinalization,
    heligibility, habort⟩

variable {kind' : DirectoryPhaseProofKindV3}

/-- The field that marks a kind is there in the stored proofs of that kind, but for two
    exceptions: a finalization repeats the hash that marks an activation, and the two cleanups
    have one mark. -/
theorem Kinded.of_mark
    (h : Kinded hashes transfer proof kind) (hmark : (mark proof kind').isSome) :
    kind' = kind ∨ (kind' = .destinationActivation ∧ kind = .sourceFinalization)
      ∨ ((kind' = .sourceAbort ∨ kind' = .destinationAbort)
        ∧ (kind = .sourceAbort ∨ kind = .destinationAbort)) := by
  cases kind' <;> simp only [mark] at hmark
  case sourcePrepare =>
    by_contra hne
    have hnone := h.prepare
    rw [CellTransferRecordV3.prepareBindingValid, if_neg (fun heq => hne (.inl heq.symm))] at hnone
    rw [(of_decide_eq_true hnone).1] at hmark
    cases hmark
  case destinationQuarantine =>
    by_contra hne
    have hnone := h.quarantine
    rw [CellTransferRecordV3.quarantineBindingValid,
      if_neg (fun heq => hne (.inl heq.symm))] at hnone
    rw [of_decide_eq_true hnone] at hmark
    cases hmark
  case sourceExport =>
    by_contra hne
    have hnone := h.exported
    rw [CellTransferRecordV3.exportBindingValid, if_neg (fun heq => hne (.inl heq.symm))] at hnone
    rw [of_decide_eq_true hnone] at hmark
    cases hmark
  case sourceFinalization =>
    by_contra hne
    have hnone := h.finalization
    rw [CellTransferRecordV3.finalizationBindingValid,
      if_neg (fun heq => hne (.inl heq.symm))] at hnone
    rw [hnone.1] at hmark
    cases hmark
  case destinationImport =>
    have hothers := h.imported
    cases kind <;> simp_all [CellTransferRecordV3.importBindingValid]
  case destinationActivation =>
    have hothers := h.activation
    cases kind <;> simp_all [CellTransferRecordV3.activationBindingValid]
  case sourceAbort =>
    have hothers := h.abort
    cases kind <;> simp_all [CellTransferRecordV3.abortBindingValid]
  case destinationAbort =>
    have hothers := h.abort
    cases kind <;> simp_all [CellTransferRecordV3.abortBindingValid]

/-- A cleanup is not read as one of the other side: both would have the hash that is stored. -/
theorem abortCellProof_ne (hsides : hashes.TellSides) {side'}
    (hworld : proof.resultingDraftWorldHash = some proof.worldHash)
    (hsome : (proof.abortCellProof hashes side').isSome)
    (h : Accessor.abortCellProof hashes proof side = some cleanup) : side = side' := by
  obtain ⟨rfl, hhash, hother⟩ := abortCellProof_eq_some h
  have hvalid := hother side' hworld hsome
  simp only [DraftGridAbortCleanupProofV2.validate, rejectIf_eq_ok, not_or, not_not] at hvalid
  obtain ⟨-, -, -, -, -, -, -, -, -, hhash'⟩ := hvalid
  exact (hsides { cleanup with proofHash := "" } side' (hhash'.symm.trans hhash)).symm

theorem Kinded.of_readAs (hsides : hashes.TellSides)
    (h : Kinded hashes transfer proof kind)
    (hread : proof.readAs hashes root kind' = some typed) : kind' = kind := by
  rcases h.of_mark (mark_of_readAs hread) with heq | ⟨rfl, rfl⟩ | ⟨hcleanup', hcleanup⟩
  · exact heq
  · have hnone := mt h.eligibility.mpr (by simp)
    exact absurd (eligibility_of_readAs hread) hnone
  · have habort := h.abort
    rcases hcleanup' with rfl | rfl <;> rcases hcleanup with rfl | rfl
    · rfl
    · obtain ⟨cleanup, hcleanup, -⟩ := Option.map_eq_some_iff.mp hread
      cases abortCellProof_ne hsides habort.1 habort.2 hcleanup
    · obtain ⟨cleanup, hcleanup, -⟩ := Option.map_eq_some_iff.mp hread
      cases abortCellProof_ne hsides habort.1 habort.2 hcleanup
    · rfl

/-! ## All of it -/

/-- A typed proof that its stage accepts is shown as it was submitted by the view of the
    document, after any operations that are accepted later and once encoded and decoded; and a
    proof that a valid document keeps in the place of a kind is of that kind, and read as no
    other. -/
theorem stored_proofs_lossless {Byte : Type} {codec : DocumentCodec Byte}
    (hsides : codec.hashes.TellSides) :
    (∀ document transferId typed next,
      TypedPhaseProof.stage codec.toDirectoryCodec document transferId typed = .ok next →
      ∀ history later result, history.current = next →
        run codec.toDirectoryCodec history later = .ok result →
        ∃ bytes decoded view, encodeV3 codec result.current = .ok bytes
          ∧ decodeV3 codec bytes = .ok decoded
          ∧ decoded.validatedGridTransferAuthority codec.toDirectoryCodec transferId = .ok view
          ∧ view.cellProof codec.hashes typed.kind = some typed)
      ∧ ∀ document transferId transfer kind proof,
        CellDirectoryDocumentV3.Valid codec.toDirectoryCodec document →
        document.transfers.get? transferId = some transfer →
        transfer.proofOf kind = some proof →
        proof.kind = kind ∧ ∀ root kind' typed,
          proof.readAs codec.hashes root kind' = some typed → kind' = kind ∧ typed.kind = kind := by
  refine ⟨fun document transferId typed next hstage history later result hcurrent hrun => ?_,
    fun document transferId transfer kind proof hvalid hget hproof => ?_⟩
  · subst hcurrent
    have hvalid : history.current.Valid codec.toDirectoryCodec := valid_of_stage hstage
    have hvalid' : result.current.Valid codec.toDirectoryCodec :=
      preserved_of_run (P := fun history => history.current.Valid codec.toDirectoryCodec)
        (fun hvalid hstep => valid_of_step hvalid hstep) hvalid hrun
    obtain ⟨bytes, hencode, hdecode⟩ := decodeV3_encodeV3 hvalid'
    have hrecord : OnRecord codec.hashes result.current transferId typed :=
      (onRecord_of_stage hstage).later (recordsKept_of_run hvalid hrun)
    obtain ⟨view, hview, hshown⟩ := hrecord.shown hvalid'
    exact ⟨bytes, result.current, view, hencode, hdecode, hview, hshown⟩
  · have hkinded : Kinded codec.hashes transfer proof kind :=
      (passedAs_of_valid hvalid hget hproof).kinded
    refine ⟨hkinded.kind_eq, fun root kind' typed hread => ?_⟩
    have heq : kind' = kind := hkinded.of_readAs hsides hread
    exact ⟨heq, (kind_of_readAs hread).trans heq⟩

/-! The aborted transfer of the proof directory: its source is cleaned, and then recovered. -/

/-- As the proof codec, with another hash for the cleanup of a destination and with documents for
    bytes. -/
def proofDocumentCodec : DocumentCodec CellDirectoryDocumentV3 :=
  { proofCodec with
    hashes := { proofCodec.hashes with
      abortProof := fun cleanup => match cleanup.side with
        | .source => zeroHash
        | .destination => "" }
    encodedLength := fun _ => 1
    encode := fun document => [document]
    decode := List.head?
    decode_encode := fun _ => rfl
    encode_length := fun _ => rfl }

theorem proofDocumentCodec_tellSides : proofDocumentCodec.hashes.TellSides := by
  intro cleanup side h
  change (match side with
    | .source => zeroHash
    | .destination => "") = (match cleanup.side with
    | .source => zeroHash
    | .destination => "") at h
  cases side <;> cases hside : cleanup.side <;> simp only [hside] at h
  · rfl
  · exact absurd h (by decide)
  · exact absurd h (by decide)
  · rfl

def cleanedAndRecovered : Fallible (CellDirectoryDocumentV3 × DirectoryHistory) := do
  let next ← TypedPhaseProof.stage proofDocumentCodec.toDirectoryCodec (proofDocument 2)
    "transfer-1" (.cleaned (proofCleanup "transfer-1" .source))
  let last ← run proofDocumentCodec.toDirectoryCodec (genesisHistory next)
    [.recover (proofCell false).1 1 "worker-1"]
  return (next, last)

/-- What is decoded after that still shows the cleanup of the source. -/
theorem stored_proofs_lossless_cleaned :
    ∃ last bytes decoded view, DirectoryHistory.current last ≠ proofDocument 2
      ∧ encodeV3 proofDocumentCodec last.current = .ok bytes
      ∧ decodeV3 proofDocumentCodec bytes = .ok decoded
      ∧ decoded.validatedGridTransferAuthority proofDocumentCodec.toDirectoryCodec "transfer-1"
        = .ok view
      ∧ view.cellProof proofDocumentCodec.hashes .sourceAbort
        = some (.cleaned (proofCleanup "transfer-1" .source)) := by
  have hevaluated : cleanedAndRecovered.toOption.any (fun r =>
      r.2.current ≠ proofDocument 2) = true := by decide +kernel
  obtain ⟨⟨_, _⟩, hrun, hne⟩ := exists_ok_of_any hevaluated
  simp only [cleanedAndRecovered, bind_eq_ok, pure_eq_ok, Prod.mk.injEq] at hrun
  obtain ⟨next, hnext, last, hlast, rfl, rfl⟩ := hrun
  obtain ⟨bytes, decoded, view, hencode, hdecode, hview, hshown⟩ :=
    (stored_proofs_lossless proofDocumentCodec_tellSides).1 _ _ _ _ hnext _ _ _ rfl hlast
  exact ⟨last, bytes, decoded, view, of_decide_eq_true hne, hencode, hdecode, hview, hshown⟩

end Verse.DirectoryV3
