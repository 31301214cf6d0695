import Verse.DirectoryV3.Effect
import Verse.DirectoryV3.Recorded

/-!
# What survives

`OnDisk` is what the files of a history look like whenever nothing has them open: the lines of
some documents, perhaps a part of one more, and the head of some of the documents. `Live` is
what the files and the memory look like in a process that has them open and has met no error.

Every program keeps to these: an append leaves the documents it found, or one more; a recovery
makes the files of any number of documents the live store of exactly these. Where it is
interrupted does not matter, only what it leaves does.
-/

namespace Verse.DirectoryV3

open Lib Directory

variable {Byte : Type} {codec : HistoryCodec Byte}
  {universeId manifestHash : String} {documents : List CellDirectoryDocumentV3}

variable (codec universeId manifestHash) in
/-- Every head of the universe that is in order can be written. The one universe that exists is
    `the-verse-local`, whose heads take less than a kilobyte. -/
def HeadsFit : Prop :=
  validBlake3Hex manifestHash = true
    ∧ ∀ head : DraftDirectoryHistoryHeadV3,
        head.validateIdentity universeId manifestHash = .ok () →
        head.entryCount ≤ u64Max → head.directoryRevision ≤ u64Max →
        head.journalByteLength ≤ u64Max →
        0 < codec.headLength head ∧ codec.headLength head ≤ maxDraftDirectoryHistoryHeadBytes

variable (codec universeId manifestHash) in
/-- The files of a history, with nothing known about where writing them stopped. -/
structure OnDisk (documents : List CellDirectoryDocumentV3) (files : HistoryFiles Byte) : Prop where
  recorded : Recorded codec universeId manifestHash documents
  history : ∃ tail, files.history = bytesOf codec documents ++ tail ∧ codec.newline ∉ tail
    ∧ tail.length ≤ maxDraftDirectoryHistoryLineBytes
    ∧ files.history.length ≤ maxDraftDirectoryHistoryBytes
  head : ∃ pinned, pinned <+: documents
    ∧ files.head = some (headOf codec universeId manifestHash pinned)

variable (codec universeId manifestHash) in
/-- The store of some documents. -/
def storeOf (documents : List CellDirectoryDocumentV3) : DraftCellDirectoryHistoryStoreV3 where
  head := headOf codec universeId manifestHash documents
  current := documents.getLast?
  index := indexOf codec documents
  poisoned := false

/-- The files of a history, and the store of the process that has them open. -/
abbrev HistoryMedium (Byte : Type) :=
  Medium (HistoryFiles Byte) DraftCellDirectoryHistoryStoreV3

variable (codec universeId manifestHash) in
/-- A store that has its files open and is sure of them. -/
structure Live (documents : List CellDirectoryDocumentV3) (medium : HistoryMedium Byte) : Prop where
  recorded : Recorded codec universeId manifestHash documents
  history : medium.disk.history = bytesOf codec documents
  head : medium.disk.head = some (headOf codec universeId manifestHash documents)
  store : medium.memory = storeOf codec universeId manifestHash documents

theorem Live.onDisk {medium} (h : Live codec universeId manifestHash documents medium) :
    OnDisk codec universeId manifestHash documents medium.disk where
  recorded := h.recorded
  history := ⟨[], by rw [h.history, List.append_nil], by simp, by simp,
    h.history ▸ h.recorded.bytes_le⟩
  head := ⟨documents, List.prefix_rfl, h.head⟩

/-! ## Heads -/

theorem Recorded.revision_le_u64Max (h : Recorded codec universeId manifestHash documents)
    {current} (hlast : documents.getLast? = some current) :
    0 < current.directoryRevision ∧ validBlake3Hex current.documentHash = true
      ∧ current.directoryRevision ≤ u64Max := by
  cases h with
  | none => cases hlast
  | @next documents document before valid sameUniverse sameManifest succeeds line bytes =>
    rw [List.getLast?_concat] at hlast
    obtain rfl := Option.some.inj hlast
    have hheader := (validate_eq_ok.mp valid).header
    unfold CellDirectoryDocumentV3.headerInvalid at hheader
    simp only [not_or, not_not] at hheader
    obtain ⟨-, -, -, hrevision, -, -, -, -, hhash, -⟩ := hheader
    refine ⟨Nat.pos_of_ne_zero hrevision, hhash, ?_⟩
    cases hbefore : documents.getLast? with
    | none =>
      rw [hbefore] at succeeds
      exact succeeds.1
    | some prior =>
      rw [hbefore] at succeeds
      obtain ⟨hnext, hle, -⟩ := succeeds
      omega

theorem validateIdentity_headOf (hfit : HeadsFit codec universeId manifestHash)
    (h : Recorded codec universeId manifestHash documents) :
    (headOf codec universeId manifestHash documents).validateIdentity universeId
      manifestHash = .ok () := by
  simp only [DraftDirectoryHistoryHeadV3.validateIdentity, rejectIf_eq_ok, not_or, not_not]
  have hschema : (headOf codec universeId manifestHash documents).historySchemaVersion
      = draftDirectoryHistorySchemaVersion
      ∧ (headOf codec universeId manifestHash documents).compatibility = .canonical := by
    unfold headOf
    split <;> exact ⟨rfl, rfl⟩
  refine ⟨hschema.1, hschema.2, headOf_universeId, headOf_universeManifestHash,
    by rw [headOf_universeManifestHash]; exact hfit.1, ?_⟩
  rw [← not_or, not_not]
  cases hlast : documents.getLast? with
  | none =>
    rw [List.getLast?_eq_none_iff.mp hlast]
    exact .inl ⟨rfl, rfl, rfl, rfl, rfl⟩
  | some current =>
    right
    obtain ⟨hrevision, hhash, -⟩ := h.revision_le_u64Max hlast
    have hne : documents ≠ [] := by
      rintro rfl
      cases hlast
    have hpos : 0 < documents.length := List.length_pos_iff.mpr hne
    refine ⟨by rw [headOf_entryCount]; exact hpos, ?_, ?_, ?_, ?_⟩
    · simp only [headOf, hlast]
      exact hrevision
    · simp only [headOf, hlast]
      exact hhash
    · rw [headOf_entryHash]
      obtain ⟨before, last, rfl⟩ := (List.eq_nil_or_concat documents).resolve_left hne
      rw [List.concat_eq_append, lastEntryHash_concat]
      exact codec.entryHash_hex _
    · rw [headOf_journalByteLength]
      exact hpos.trans_le length_le_bytesOf

theorem headLength_headOf (hfit : HeadsFit codec universeId manifestHash)
    (h : Recorded codec universeId manifestHash documents) :
    0 < codec.headLength (headOf codec universeId manifestHash documents)
      ∧ codec.headLength (headOf codec universeId manifestHash documents)
        ≤ maxDraftDirectoryHistoryHeadBytes := by
  have hbytes : (bytesOf codec documents).length ≤ u64Max := h.bytes_le.trans (by decide)
  refine hfit.2 _ (validateIdentity_headOf hfit h) ?_ ?_ ?_
  · rw [headOf_entryCount]
    exact length_le_bytesOf.trans hbytes
  · cases hlast : documents.getLast? with
    | none => simp only [headOf, hlast, DraftDirectoryHistoryHeadV3.emptyOf, Nat.zero_le]
    | some current =>
      simp only [headOf, hlast]
      exact (h.revision_le_u64Max hlast).2.2
  · rw [headOf_journalByteLength]
    exact hbytes

/-- The store in memory, and what its two files hold. -/
abbrev Stored (store : DraftCellDirectoryHistoryStoreV3) (history : List Byte)
    (head : Option DraftDirectoryHistoryHeadV3) (medium : HistoryMedium Byte) : Prop :=
  medium.memory = store ∧ medium.disk.history = history ∧ medium.disk.head = head

/-- Where replacing the head leaves the files: as they were, or with the new head. -/
structure HeadReplaced (store : DraftCellDirectoryHistoryStoreV3) (history : List Byte)
    (old new : Option DraftDirectoryHistoryHeadV3) (medium : HistoryMedium Byte) : Prop where
  memory : medium.memory = store
  history : medium.disk.history = history
  head : medium.disk.head = old ∨ medium.disk.head = new

theorem createTemp_frame (temp : Nat) (part : Option Nat) (files : HistoryFiles Byte) :
    (createTemp temp part files).history = files.history
      ∧ (createTemp temp part files).head = files.head := by
  unfold createTemp
  rcases Effect.atomic_cases (fun files : HistoryFiles Byte =>
    { files with temps := temp :: files.temps }) part files with h | h <;> rw [h] <;>
    exact ⟨rfl, rfl⟩

theorem removeTemp_frame (temp : Nat) (part : Option Nat) (files : HistoryFiles Byte) :
    (removeTemp temp part files).history = files.history
      ∧ (removeTemp temp part files).head = files.head := by
  unfold removeTemp
  rcases Effect.atomic_cases (fun files : HistoryFiles Byte =>
    { files with temps := files.temps.filter (· ≠ temp) }) part files with h | h <;> rw [h] <;>
    exact ⟨rfl, rfl⟩

theorem renameTemp_frame (temp : Nat) (head : DraftDirectoryHistoryHeadV3) (part : Option Nat)
    (files : HistoryFiles Byte) :
    (renameTemp temp head part files).history = files.history
      ∧ ((renameTemp temp head part files).head = files.head
        ∨ (renameTemp temp head part files).head = some head) := by
  unfold renameTemp
  rcases Effect.atomic_cases (fun files : HistoryFiles Byte =>
    { files with head := some head, temps := files.temps.filter (· ≠ temp) }) part files with h | h
  · rw [h]
    exact ⟨rfl, .inl rfl⟩
  · rw [h]
    exact ⟨rfl, .inr rfl⟩

theorem persistHead_triple (store : DraftCellDirectoryHistoryStoreV3) (history : List Byte)
    (old : Option DraftDirectoryHistoryHeadV3)
    (hfit : HeadsFit codec universeId manifestHash)
    (h : Recorded codec universeId manifestHash documents) {head}
    (hhead : head = headOf codec universeId manifestHash documents)
    (huniverse : store.head.universeId = universeId)
    (hmanifest : store.head.universeManifestHash = manifestHash) :
    Triple (Stored store history old) (persistHead codec head)
      (fun _ => Stored store history (some head))
      fun e medium => HeadReplaced store history old (some head) medium
        ∧ ∀ reason, e ≠ .refused reason := by
  have hidentity := validateIdentity_headOf hfit h
  obtain ⟨hpos, hle⟩ := headLength_headOf hfit h
  rw [← hhead] at hidentity hpos hle
  unfold persistHead
  refine Triple.bind_memory fun found hfound => ?_
  rw [hfound.1, huniverse, hmanifest]
  refine Triple.bind_check (fun e he => ?_) fun _ _ => ?_
  · rw [hidentity] at he
    cases he
  refine Triple.bind_check (fun e he => ?_) fun _ _ => ?_
  · rw [rejectIf_eq_error] at he
    obtain ⟨hzero | hlong, -⟩ := he <;> omega
  refine Triple.bind_get fun files _ => ?_
  refine Triple.onFailure_of_keeps ?_ (Keeps.perform fun medium part rest hmedium => ?_)
  case refine_2 =>
    obtain ⟨hhistory, hhead⟩ := removeTemp_frame files.disk.freshTemp part medium.disk
    exact ⟨hmedium.memory, hhistory.trans hmedium.history, by simpa only [hhead] using hmedium.head⟩
  refine Triple.bind (R := fun _ => Stored store history old) (Triple.perform_safe ?_ ?_) fun _ => ?_
  · intro medium rest hmedium
    obtain ⟨hhistory, hhead⟩ := createTemp_frame files.disk.freshTemp none medium.disk
    exact ⟨hmedium.1, hhistory.trans hmedium.2.1, hhead.trans hmedium.2.2⟩
  · intro medium part rest hmedium
    obtain ⟨hhistory, hhead⟩ := createTemp_frame files.disk.freshTemp (some part) medium.disk
    exact ⟨hmedium.1, hhistory.trans hmedium.2.1, .inl (hhead.trans hmedium.2.2)⟩
  refine Triple.bind (R := fun _ => Stored store history old)
    (Triple.perform_safe (fun _ _ hmedium => hmedium) fun _ _ _ hmedium =>
      ⟨hmedium.1, hmedium.2.1, .inl hmedium.2.2⟩) fun _ => ?_
  refine Triple.bind (R := fun _ => Stored store history (some head))
    (Triple.perform_safe ?_ ?_) fun _ => ?_
  · intro medium rest hmedium
    exact ⟨hmedium.1, hmedium.2.1, rfl⟩
  · intro medium part rest hmedium
    obtain ⟨hhistory, hhead⟩ := renameTemp_frame files.disk.freshTemp head (some part) medium.disk
    exact ⟨hmedium.1, hhistory.trans hmedium.2.1, hmedium.2.2 ▸ hhead⟩
  exact Triple.perform_safe (fun _ _ hmedium => hmedium) fun _ _ _ hmedium =>
    ⟨hmedium.1, hmedium.2.1, .inr hmedium.2.2⟩

/-! ## Appending -/

/-- What an append may add to the documents: nothing, or one that satisfies `R`. -/
def Grown (documents : List CellDirectoryDocumentV3) (R : CellDirectoryDocumentV3 → Prop)
    (documents' : List CellDirectoryDocumentV3) : Prop :=
  documents' = documents ∨ ∃ next, R next ∧ documents' = documents ++ [next]

variable {R : CellDirectoryDocumentV3 → Prop}

theorem Grown.mono {R' : CellDirectoryDocumentV3 → Prop} {documents'}
    (h : Grown documents R documents') (hR : ∀ next, R next → R' next) :
    Grown documents R' documents' :=
  h.imp_right fun ⟨next, hnext, hgrown⟩ => ⟨next, hR next hnext, hgrown⟩

variable (codec universeId manifestHash) in
/-- The files of the documents, or of one more. -/
def OnDiskGrown (documents : List CellDirectoryDocumentV3) (R : CellDirectoryDocumentV3 → Prop)
    (files : HistoryFiles Byte) : Prop :=
  ∃ documents', Grown documents R documents'
    ∧ OnDisk codec universeId manifestHash documents' files

variable (codec universeId manifestHash) in
/-- How an operation of a live store is stopped: by a refusal that leaves everything as it was,
    by an error after which the store trusts itself no more, or by a crash. -/
def Stopped (documents : List CellDirectoryDocumentV3) (R : CellDirectoryDocumentV3 → Prop)
    (S : CellDirectoryError → Prop) (stop : Stop CellDirectoryError)
    (medium : HistoryMedium Byte) : Prop :=
  match stop with
  | .refused reason => S reason ∧ Live codec universeId manifestHash documents medium
  | .failed => medium.memory.poisoned = true
    ∧ OnDiskGrown codec universeId manifestHash documents R medium.disk
  | .crashed => OnDiskGrown codec universeId manifestHash documents R medium.disk

/-- The document a store that has these documents open accepts as the next. -/
def Admits (codec : HistoryCodec Byte) (universeId manifestHash : String)
    (documents : List CellDirectoryDocumentV3) (expectedRevision : Option Nat)
    (expectedDocumentHash : Option String) (next document : CellDirectoryDocumentV3) : Prop :=
  document = next ∧ next.validate codec.toDirectoryCodec = .ok ()
    ∧ (storeOf codec universeId manifestHash documents).compareAndSwap expectedRevision
        expectedDocumentHash next = .ok false

/-- Why such a store accepts a document not. -/
inductive Declines (codec : HistoryCodec Byte) (universeId manifestHash : String)
    (documents : List CellDirectoryDocumentV3) (expectedRevision : Option Nat)
    (expectedDocumentHash : Option String) (next : CellDirectoryDocumentV3) :
    CellDirectoryError → Prop where
  | invalid {reason : CellDirectoryError}
      (h : next.validate codec.toDirectoryCodec = .error reason) :
      Declines codec universeId manifestHash documents expectedRevision
        expectedDocumentHash next reason
  | compareAndSwap {reason : CellDirectoryError}
      (hvalid : next.validate codec.toDirectoryCodec = .ok ())
      (h : (storeOf codec universeId manifestHash documents).compareAndSwap expectedRevision
        expectedDocumentHash next = .error reason) :
      Declines codec universeId manifestHash documents expectedRevision
        expectedDocumentHash next reason
  | prepare {reason : CellDirectoryError} (hvalid : next.validate codec.toDirectoryCodec = .ok ())
      (hswap : (storeOf codec universeId manifestHash documents).compareAndSwap
        expectedRevision expectedDocumentHash next = .ok false)
      (h : (storeOf codec universeId manifestHash documents).prepareEntry codec next
        = .error reason) :
      Declines codec universeId manifestHash documents expectedRevision
        expectedDocumentHash next reason
  | full (h : maxDraftDirectoryHistoryBytes < (bytesOf codec documents).length
        + ((codec.encodeEntry (nextEntry codec documents next)).length + 1)) :
      Declines codec universeId manifestHash documents expectedRevision
        expectedDocumentHash next
        (invalidHistory "v3 directory history exceeds its byte bound")

/-- The refusals that the directory knows nothing of: the file is full. -/
def Oversized (codec : HistoryCodec Byte) (documents : List CellDirectoryDocumentV3)
    (next : CellDirectoryDocumentV3) (reason : CellDirectoryError) : Prop :=
  let line := codec.encodeEntry (nextEntry codec documents next)
  (maxDraftDirectoryHistoryLineBytes < line.length
      ∧ reason = .invalidDirectory "v3 directory history entry exceeds its byte bound")
    ∨ (maxDraftDirectoryHistoryBytes < (bytesOf codec documents).length + (line.length + 1)
      ∧ reason = .invalidDirectory "v3 directory history exceeds its byte bound")

/-- What is done after an error that no refusal is. -/
theorem poisoning_triple {α : Type} {x} {P : HistoryMedium Byte → Prop}
    {Q : α → HistoryMedium Byte → Prop} {R : HistoryFiles Byte → Prop}
    (hx : Triple P x Q fun e medium => R medium.disk ∧ ∀ reason, e ≠ .refused reason) :
    Triple P (poisoning x) Q fun e medium => match e with
      | .refused _ => False
      | .failed => medium.memory.poisoned = true ∧ R medium.disk
      | .crashed => R medium.disk := by
  refine Triple.onFailure hx (fun medium hmedium => hmedium.1) fun e he => ?_
  cases e with
  | refused reason => exact Triple.remember fun medium hmedium => absurd rfl (hmedium.2 reason)
  | failed => exact Triple.remember fun medium hmedium => ⟨rfl, hmedium.1⟩
  | crashed => exact absurd rfl he

variable {next : CellDirectoryDocumentV3}

theorem Recorded.next_line
    (h : Recorded codec universeId manifestHash (documents ++ [next])) :
    (codec.encodeEntry (nextEntry codec documents next)).length ≤ maxDraftDirectoryHistoryLineBytes
      ∧ (bytesOf codec documents).length
          + ((codec.encodeEntry (nextEntry codec documents next)).length + 1)
        ≤ maxDraftDirectoryHistoryBytes := by
  refine ⟨h.last_line.2, ?_⟩
  rw [← length_bytesOf_concat]
  exact h.bytes_le

variable {files : HistoryFiles Byte}

/-- A line that was begun is a tail to be cut off. -/
theorem onDisk_of_torn (h : Recorded codec universeId manifestHash documents)
    (hnext : Recorded codec universeId manifestHash (documents ++ [next])) (n : Nat)
    (hhistory : files.history = bytesOf codec documents
      ++ (codec.encodeEntry (nextEntry codec documents next)).take n)
    (hhead : files.head = some (headOf codec universeId manifestHash documents)) :
    OnDisk codec universeId manifestHash documents files where
  recorded := h
  history := by
    obtain ⟨hline, hbytes⟩ := hnext.next_line
    have htake := List.length_take_le' n (codec.encodeEntry (nextEntry codec documents next))
    refine ⟨_, hhistory, fun hmem => ?_, htake.trans hline, ?_⟩
    · exact codec.newline_not_mem _ (List.mem_of_mem_take hmem)
    · rw [hhistory, List.length_append]
      omega
  head := ⟨documents, List.prefix_rfl, hhead⟩

theorem onDisk_of_line
    (hnext : Recorded codec universeId manifestHash (documents ++ [next]))
    (hhistory : files.history = bytesOf codec (documents ++ [next]))
    (hhead : files.head = some (headOf codec universeId manifestHash documents)
      ∨ files.head = some (headOf codec universeId manifestHash (documents ++ [next]))) :
    OnDisk codec universeId manifestHash (documents ++ [next]) files where
  recorded := hnext
  history := ⟨[], by rw [hhistory, List.append_nil], by simp, by simp, hhistory ▸ hnext.bytes_le⟩
  head := by
    rcases hhead with hhead | hhead
    · exact ⟨documents, List.prefix_append _ _, hhead⟩
    · exact ⟨_, List.prefix_rfl, hhead⟩

variable {store : DraftCellDirectoryHistoryStoreV3}

theorem writeLine_triple
    (hR : R next)
    (h : Recorded codec universeId manifestHash documents)
    (hnext : Recorded codec universeId manifestHash (documents ++ [next])) :
    let line := codec.encodeEntry (nextEntry codec documents next)
    let head := some (headOf codec universeId manifestHash documents)
    Triple (Stored store (bytesOf codec documents) head)
      (do perform (appending line); perform (appending [codec.newline]); perform .none :
        Storing Byte Unit)
      (fun _ => Stored store (bytesOf codec (documents ++ [next])) head)
      fun e medium => OnDiskGrown codec universeId manifestHash documents R medium.disk
        ∧ ∀ reason, e ≠ .refused reason := by
  intro line head
  have hwhole : bytesOf codec (documents ++ [next]) =
      bytesOf codec documents ++ line ++ [codec.newline] := by
    rw [bytesOf_concat, ← List.append_assoc]
  have hbefore : ∀ {files : HistoryFiles Byte} (n : Nat),
      files.history = bytesOf codec documents ++ line.take n → files.head = head →
      OnDiskGrown codec universeId manifestHash documents R files :=
    fun n hhistory hhead => ⟨documents, .inl rfl, onDisk_of_torn h hnext n hhistory hhead⟩
  have hafter : ∀ {files : HistoryFiles Byte}, files.history = bytesOf codec (documents ++ [next]) →
      files.head = head →
      OnDiskGrown codec universeId manifestHash documents R files :=
    fun hhistory hhead =>
      ⟨_, .inr ⟨next, hR, rfl⟩, onDisk_of_line hnext hhistory (.inl hhead)⟩
  refine Triple.bind (R := fun _ => Stored store (bytesOf codec documents ++ line) head)
    (Triple.perform_safe ?_ ?_) fun _ => ?_
  · rintro medium rest ⟨hmemory, hhistory, hhead⟩
    exact ⟨hmemory, congrArg (· ++ line) hhistory, hhead⟩
  · rintro medium part rest ⟨-, hhistory, hhead⟩
    exact hbefore part (congrArg (· ++ line.take part) hhistory) hhead
  refine Triple.bind (R := fun _ => Stored store (bytesOf codec (documents ++ [next])) head)
    (Triple.perform_safe ?_ ?_) fun _ => Triple.perform_safe (fun _ _ hmedium => hmedium)
      fun _ _ _ hmedium => hafter hmedium.2.1 hmedium.2.2
  · rintro medium rest ⟨hmemory, hhistory, hhead⟩
    refine ⟨hmemory, ?_, hhead⟩
    rw [hwhole, ← hhistory]
    rfl
  -- the end of the line is there or it is not
  · rintro medium (_ | part) rest ⟨-, hhistory, hhead⟩
    · refine hbefore line.length ?_ hhead
      simpa [appending] using hhistory
    · refine hafter ?_ hhead
      rw [hwhole, ← hhistory]
      simp [appending]

/-- A document a directory may begin with as far as its history is concerned. -/
def MayBegin (document : CellDirectoryDocumentV3) : Prop := Succeeds none document

variable {hash : Option String} {rev : Option Nat}

theorem succeeds_of_compareAndSwap (hfirst : documents = [] → MayBegin next)
    (h : (storeOf codec universeId manifestHash documents).compareAndSwap rev hash next
      = .ok false) : Succeeds documents.getLast? next := by
  cases hlast : documents.getLast? with
  | none => exact hfirst (List.getLast?_eq_none_iff.mp hlast)
  | some current =>
    simp only [DraftCellDirectoryHistoryStoreV3.compareAndSwap, storeOf, hlast, bind_eq_ok,
      rejectIf_eq_ok] at h
    obtain ⟨-, -, h⟩ := h
    split_ifs at h with hsame
    · cases h
    · simp only [bind_eq_ok, rejectIf_eq_ok, not_or, not_not] at h
      obtain ⟨-, hle, -, ⟨hrevision, -, -, hgenesis⟩, -⟩ := h
      refine ⟨hrevision, ?_, hgenesis⟩
      by_contra hover
      exact hle (by simp [checkedAdd, hover])

theorem eq_of_compareAndSwap_true
    (h : (storeOf codec universeId manifestHash documents).compareAndSwap rev hash next
      = .ok true) : documents.getLast? = some next := by
  cases hlast : documents.getLast? with
  | none =>
    simp only [DraftCellDirectoryHistoryStoreV3.compareAndSwap, storeOf, hlast, bind_eq_ok] at h
    obtain ⟨-, -, h⟩ := h
    cases h
  | some current =>
    simp only [DraftCellDirectoryHistoryStoreV3.compareAndSwap, storeOf, hlast, bind_eq_ok] at h
    obtain ⟨-, -, h⟩ := h
    split_ifs at h with hsame
    · rw [hsame]
    · simp only [bind_eq_ok] at h
      obtain ⟨-, -, -, -, h⟩ := h
      cases h

theorem previousEntryHash_headOf :
    (if (headOf codec universeId manifestHash documents).entryCount = 0
      then "" else (headOf codec universeId manifestHash documents).entryHash) =
        lastEntryHash codec documents := by
  rw [headOf_entryCount, headOf_entryHash]
  split_ifs with hempty
  · rw [List.length_eq_zero_iff.mp hempty]
    rfl
  · rfl

theorem prepareEntry_eq (hvalid : next.validate codec.toDirectoryCodec = .ok ())
    (huniverse : next.universeId = universeId)
    (hmanifest : next.universeManifestHash = manifestHash) :
    (storeOf codec universeId manifestHash documents).prepareEntry codec next = (do
      rejectIf (maxDraftDirectoryHistoryLineBytes
          < (codec.encodeEntry (nextEntry codec documents next)).length)
        (.invalidDirectory "v3 directory history entry exceeds its byte bound")
      return (nextEntry codec documents next,
        codec.encodeEntry (nextEntry codec documents next))) := by
  have hself : (nextEntry codec documents next).validateSelf codec = .ok () :=
    validateSelf_nextEntry hvalid lastEntryHash_hex
  have hnew : DraftDirectoryHistoryEntryV3.new codec (lastEntryHash codec documents) next =
      .ok (nextEntry codec documents next) := by
    rw [DraftDirectoryHistoryEntryV3.new, hvalid]
    show (do
      (nextEntry codec documents next).validateSelf codec
      return nextEntry codec documents next) = _
    rw [hself]
    rfl
  have hidentity : ¬ (next.universeId ≠ (storeOf codec universeId manifestHash
      documents).head.universeId ∨ next.universeManifestHash ≠ (storeOf codec universeId
        manifestHash documents).head.universeManifestHash) := by
    simp [storeOf, huniverse, hmanifest]
  rw [DraftCellDirectoryHistoryStoreV3.prepareEntry, rejectIf, if_neg hidentity]
  show (do
    let entry ← DraftDirectoryHistoryEntryV3.new codec
      (if (headOf codec universeId manifestHash documents).entryCount = 0
        then "" else (headOf codec universeId manifestHash documents).entryHash) next
    let line ← entry.encodeCanonical codec
    return (entry, line)) = _
  rw [previousEntryHash_headOf, hnew]
  show (do
    let line ← (nextEntry codec documents next).encodeCanonical codec
    return (nextEntry codec documents next, line)) = _
  rw [DraftDirectoryHistoryEntryV3.encodeCanonical, hself]
  show ((do
    rejectIf _ _
    return _) >>= _) = _
  simp only [bind_assoc, pure_bind]

theorem prepareEntry_storeOf {prepared}
    (h : (storeOf codec universeId manifestHash documents).prepareEntry codec next
      = .ok prepared) :
    next.universeId = universeId ∧ next.universeManifestHash = manifestHash
      ∧ prepared = (nextEntry codec documents next,
          codec.encodeEntry (nextEntry codec documents next))
      ∧ (codec.encodeEntry (nextEntry codec documents next)).length
        ≤ maxDraftDirectoryHistoryLineBytes := by
  simp only [DraftCellDirectoryHistoryStoreV3.prepareEntry, storeOf,
    DraftDirectoryHistoryEntryV3.new, DraftDirectoryHistoryEntryV3.encodeCanonical, bind_eq_ok,
    rejectIf_eq_ok, pure_eq_ok, not_or, not_not, headOf_universeId,
    headOf_universeManifestHash] at h
  obtain ⟨-, ⟨huniverse, hmanifest⟩, entry, ⟨-, -, -, -, rfl⟩, line, ⟨-, -, -, hline, rfl⟩, rfl⟩ := h
  rw [nextEntry, ← previousEntryHash_headOf]
  exact ⟨huniverse, hmanifest, rfl, Nat.not_lt.mp hline⟩

/-- An append to a live store leaves the documents, or the next one after them, whatever becomes
    of its steps; and if it ends well, the document is the last one. -/
theorem appendDocument_triple (hfit : HeadsFit codec universeId manifestHash)
    (hfirst : documents = [] → MayBegin next) :
    Triple (Live codec universeId manifestHash documents)
      (appendDocument codec rev hash next)
      (fun _ medium => ∃ documents',
        Grown documents (Admits codec universeId manifestHash documents rev hash next)
            documents'
          ∧ Live codec universeId manifestHash documents' medium
          ∧ documents'.getLast? = some next)
      (Stopped codec universeId manifestHash documents
        (Admits codec universeId manifestHash documents rev hash next)
        (Declines codec universeId manifestHash documents rev hash next)) := by
  unfold appendDocument
  refine Triple.bind_memory fun found hfound => ?_
  have hrecorded := hfound.recorded
  rw [hfound.store]
  refine Triple.bind_check (fun e he => ?_) fun _ _ => ?_
  · rw [rejectIf_eq_error] at he
    exact absurd he.1 (by simp [storeOf])
  refine Triple.bind_check (fun _ hinvalid _ hlive => ⟨.invalid hinvalid, hlive⟩) fun _ hvalid => ?_
  refine Triple.bind_check (fun _ hrefused _ hlive => ⟨.compareAndSwap hvalid hrefused, hlive⟩)
    fun again hswap => ?_
  cases again with
  | true =>
    exact Triple.pure fun medium hlive =>
      ⟨documents, .inl rfl, hlive, eq_of_compareAndSwap_true hswap⟩
  | false =>
    have hsucceeds := succeeds_of_compareAndSwap hfirst hswap
    have hadmits : Admits codec universeId manifestHash documents rev hash next next :=
      ⟨rfl, hvalid, hswap⟩
    refine Triple.bind_check (fun _ hrefused _ hlive => ⟨.prepare hvalid hswap hrefused, hlive⟩)
      fun prepared hprepared => ?_
    obtain ⟨huniverse, hmanifest, rfl, hline⟩ := prepareEntry_storeOf hprepared
    refine Triple.bind_get fun files hfiles => ?_
    rw [hfiles.history]
    refine Triple.bind_check (fun e he => ?_) fun _ _ => ?_
    · rw [rejectIf_eq_error, storeOf, headOf_journalByteLength] at he
      exact absurd rfl he.1
    refine Triple.bind_check (fun e he _ hlive => ?_) fun _ hbytes => ?_
    · rw [rejectIf_eq_error] at he
      obtain ⟨hfull, rfl⟩ := he
      exact ⟨.full hfull, hlive⟩
    rw [rejectIf_eq_ok, not_lt] at hbytes
    have hnext : Recorded codec universeId manifestHash (documents ++ [next]) :=
      .next hrecorded hvalid huniverse hmanifest hsucceeds hline
        (length_bytesOf_concat.trans_le hbytes)
    have hgrown : Grown documents
        (Admits codec universeId manifestHash documents rev hash next)
        (documents ++ [next]) :=
      .inr ⟨next, hadmits, rfl⟩
    refine Triple.bind ((poisoning_triple (writeLine_triple hadmits hrecorded hnext)).weaken
      (fun _ hlive => ⟨hlive.store, hlive.history, hlive.head⟩) (fun _ _ hmedium => hmedium) ?_)
      fun _ => ?_
    · intro e medium hstopped
      cases e with
      | refused reason => cases hstopped
      | failed | crashed => exact hstopped
    refine Triple.bind_check (fun e htip => ?_) fun nextHead htip => ?_
    · exact absurd ((fromTip_headOf hnext.bytes_le).symm.trans htip) (by simp)
    obtain rfl := ok_unique (fromTip_headOf hnext.bytes_le) htip
    have hpersist := persistHead_triple (storeOf codec universeId manifestHash documents)
      (bytesOf codec (documents ++ [next]))
      (some (headOf codec universeId manifestHash documents)) hfit hnext rfl
      headOf_universeId headOf_universeManifestHash
    refine Triple.bind ((poisoning_triple (R := OnDiskGrown codec universeId manifestHash
      documents (Admits codec universeId manifestHash documents rev hash next))
      (hpersist.fail ?_)).fail ?_) fun _ => ?_
    · rintro e medium ⟨hreplaced, hne⟩
      exact ⟨⟨_, hgrown, onDisk_of_line hnext hreplaced.history hreplaced.head⟩, hne⟩
    · intro e medium hstopped
      cases e with
      | refused reason => cases hstopped
      | failed | crashed => exact hstopped
    refine Triple.remember fun medium hmedium => ⟨_, hgrown, ⟨hnext, hmedium.2.1, hmedium.2.2, ?_⟩,
      List.getLast?_concat⟩
    show _ = storeOf codec universeId manifestHash (documents ++ [next])
    rw [hmedium.1]
    unfold storeOf
    rw [List.getLast?_concat, indexOf_concat]

/-! ## Recovery -/

theorem setLength_frame (length : Nat) (part : Option Nat) (files : HistoryFiles Byte) :
    (setLength length part files).head = files.head
      ∧ ((setLength length part files).history = files.history
        ∨ (setLength length part files).history = files.history.take length) := by
  unfold setLength
  rcases Effect.atomic_cases (fun files : HistoryFiles Byte =>
    { files with history := files.history.take length }) part files with h | h
  · rw [h]
    exact ⟨rfl, .inl rfl⟩
  · rw [h]
    exact ⟨rfl, .inr rfl⟩

variable {pinned : List CellDirectoryDocumentV3} {tail : List Byte}

theorem OnDisk.of_tail
    (h : Recorded codec universeId manifestHash documents) (hpinned : pinned <+: documents)
    (htail : codec.newline ∉ tail) (hline : tail.length ≤ maxDraftDirectoryHistoryLineBytes)
    (hbytes : (bytesOf codec documents ++ tail).length ≤ maxDraftDirectoryHistoryBytes)
    (hhistory : files.history = bytesOf codec documents ++ tail)
    (hhead : files.head = some (headOf codec universeId manifestHash pinned)) :
    OnDisk codec universeId manifestHash documents files where
  recorded := h
  history := ⟨tail, hhistory, htail, hline, hhistory ▸ hbytes⟩
  head := ⟨pinned, hpinned, hhead⟩

theorem OnDisk.of_whole
    (h : Recorded codec universeId manifestHash documents) (hpinned : pinned <+: documents)
    (hhistory : files.history = bytesOf codec documents)
    (hhead : files.head = some (headOf codec universeId manifestHash pinned)) :
    OnDisk codec universeId manifestHash documents files where
  recorded := h
  history := ⟨[], by rw [hhistory, List.append_nil], by simp, by simp, hhistory ▸ h.bytes_le⟩
  head := ⟨pinned, hpinned, hhead⟩

theorem length_bytesOf_le (h : pinned <+: documents) :
    (bytesOf codec pinned).length ≤ (bytesOf codec documents).length := by
  have hlonger : ¬ (bytesOf codec documents).length < (bytesOf codec pinned).length :=
    (length_bytesOf_lt_iff List.prefix_rfl h).not.mpr (Nat.not_lt.mpr h.length_le)
  exact Nat.not_lt.mp hlonger

theorem cutTail_triple (store : DraftCellDirectoryHistoryStoreV3)
    (h : Recorded codec universeId manifestHash documents) (hpinned : pinned <+: documents)
    (htail : codec.newline ∉ tail) (hline : tail.length ≤ maxDraftDirectoryHistoryLineBytes)
    (hbytes : (bytesOf codec documents ++ tail).length ≤ maxDraftDirectoryHistoryBytes) :
    let head := headOf codec universeId manifestHash pinned
    Triple (Stored store (bytesOf codec documents ++ tail) (some head))
      (cutTail head (bytesOf codec documents).length tail)
      (fun _ => Stored store (bytesOf codec documents) (some head))
      fun e medium => OnDisk codec universeId manifestHash documents medium.disk
        ∧ ∀ reason, e ≠ .refused reason := by
  intro head
  have hcut : ∀ {files : HistoryFiles Byte}, files.history = bytesOf codec documents →
      files.head = some head → OnDisk codec universeId manifestHash documents files :=
    .of_whole h hpinned
  unfold cutTail
  refine Triple.ite (fun hempty => ?_) fun _ => ?_
  · refine Triple.pure fun medium hmedium => ⟨hmedium.1, ?_, hmedium.2.2⟩
    rw [hmedium.2.1, hempty, List.append_nil]
  refine Triple.bind_check (fun e he => ?_) fun _ _ => ?_
  · rw [rejectIf_eq_error] at he
    omega
  refine Triple.bind_check (fun e he => ?_) fun _ _ => ?_
  · rw [rejectIf_eq_error, headOf_journalByteLength] at he
    have hle : (bytesOf codec pinned).length ≤ (bytesOf codec documents).length :=
      length_bytesOf_le hpinned
    omega
  refine Triple.bind (R := fun _ => Stored store (bytesOf codec documents) (some head))
    (Triple.perform_safe ?_ ?_) fun _ => Triple.perform_safe (fun _ _ hmedium => hmedium)
      fun _ _ _ hmedium => hcut hmedium.2.1 hmedium.2.2
  · rintro medium rest ⟨hmemory, hhistory, hhead⟩
    refine ⟨hmemory, ?_, hhead⟩
    show medium.disk.history.take _ = _
    rw [hhistory, List.take_left]
  · rintro medium part rest ⟨-, hhistory, hhead⟩
    obtain ⟨hsame, hkept | htaken⟩ :=
      setLength_frame (bytesOf codec documents).length (some part) medium.disk
    · exact .of_tail h hpinned htail hline hbytes (hkept.trans hhistory) (hsame.trans hhead)
    · rw [hhistory, List.take_left] at htaken
      exact hcut htaken (hsame.trans hhead)

variable [DecidableEq Byte]

theorem recover_triple_of (hfit : HeadsFit codec universeId manifestHash)
    (h : Recorded codec universeId manifestHash documents) (hpinned : pinned <+: documents)
    (htail : codec.newline ∉ tail) (hline : tail.length ≤ maxDraftDirectoryHistoryLineBytes)
    (hbytes : (bytesOf codec documents ++ tail).length ≤ maxDraftDirectoryHistoryBytes)
    (hstore : store.head = headOf codec universeId manifestHash pinned) :
    Triple (Stored store (bytesOf codec documents ++ tail)
        (some (headOf codec universeId manifestHash pinned)))
      (recover codec)
      (fun _ => Live codec universeId manifestHash documents)
      fun e medium => OnDisk codec universeId manifestHash documents medium.disk
        ∧ ∀ reason, e ≠ .refused reason := by
  unfold recover
  refine Triple.bind_memory fun found hfound => ?_
  rw [hfound.1, hstore]
  refine Triple.bind_get fun files hfiles => ?_
  rw [hfiles.2.1]
  have hle : (bytesOf codec pinned).length ≤ (bytesOf codec documents).length :=
    length_bytesOf_le hpinned
  refine Triple.bind_check (fun e he => ?_) fun _ _ => ?_
  · rw [rejectIf_eq_error] at he
    omega
  refine Triple.bind_check (fun e he => ?_) fun _ _ => ?_
  · rw [rejectIf_eq_error, headOf_journalByteLength, List.length_append] at he
    omega
  rw [splitLines_bytesOf htail]
  have hlines := recover_lines hpinned h List.prefix_rfl
  refine Triple.bind_check (fun e he => absurd (hlines.symm.trans he) (by simp))
    fun recovery hrecovery => ?_
  obtain rfl := ok_unique hlines hrecovery
  refine Triple.bind (cutTail_triple store h hpinned htail hline hbytes) fun _ => ?_
  refine Triple.bind_check (fun e he => ?_) fun _ _ => ?_
  · rw [rejectIf_eq_error] at he
    exact absurd he.1 (by simp [recoveryOf, hpinned.length_le])
  refine Triple.only (R := fun medium => medium.disk.history = bytesOf codec documents
      ∧ medium.disk.head = some (headOf codec universeId manifestHash documents))
    (fun _ => ?_) (fun hsame medium hmedium => ?_)
    (Triple.remember fun medium hmedium => ⟨h, hmedium.1, hmedium.2, rfl⟩)
  · refine (persistHead_triple store (bytesOf codec documents)
      (some (headOf codec universeId manifestHash pinned)) hfit h rfl
      (by rw [hstore, headOf_universeId]) (by rw [hstore, headOf_universeManifestHash])).weaken
      (fun _ hmedium => hmedium) (fun _ _ hmedium => hmedium.2) ?_
    rintro e medium ⟨hreplaced, hne⟩
    refine ⟨?_, hne⟩
    rcases hreplaced.head with hhead | hhead
    · exact .of_whole h hpinned hreplaced.history hhead
    · exact .of_whole h List.prefix_rfl hreplaced.history hhead
  · -- the head that was read is the one of all the lines
    rw [ne_eq, not_not] at hsame
    exact ⟨hmedium.2.1, hmedium.2.2.trans (congrArg some hsame.symm)⟩

/-- A recovery makes the files a live store of their documents, or is interrupted and leaves them
    to be recovered again. -/
theorem recover_triple (hfit : HeadsFit codec universeId manifestHash) :
    Triple (fun medium => OnDisk codec universeId manifestHash documents medium.disk
        ∧ medium.disk.head = some medium.memory.head)
      (recover codec)
      (fun _ => Live codec universeId manifestHash documents)
      fun e medium => OnDisk codec universeId manifestHash documents medium.disk
        ∧ ∀ reason, e ≠ .refused reason := by
  intro medium ⟨hdisk, hhead⟩
  obtain ⟨tail, hhistory, htail, hline, hbytes⟩ := hdisk.history
  obtain ⟨pinned, hpinned, hpin⟩ := hdisk.head
  have hstore : medium.memory.head = headOf codec universeId manifestHash pinned :=
    Option.mem_unique hhead hpin
  exact recover_triple_of hfit hdisk.recorded hpinned htail hline (hhistory ▸ hbytes) hstore medium
    ⟨rfl, hhistory, hpin⟩

end Verse.DirectoryV3
