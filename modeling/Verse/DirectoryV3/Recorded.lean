import Verse.DirectoryV3.Store

/-!
# What a history file says

The documents of a history determine its lines, its index, and every head it has had:
`linesOf`, `locationsOf` and `headOf` say how. `Recorded` says of which sequences of documents
that can be so, one document at a time, just as a store appends them.

Reading the lines back finds them again (`recover_lines`): whichever of its earlier heads the
file is read under, the loop of the recovery ends with the index and the head of all the lines.
-/

namespace Verse.DirectoryV3

open Lib Directory

variable {Byte : Type} (codec : HistoryCodec Byte)

/-! ## From documents to entries -/

/-- The entries of some documents after one that had this hash. -/
def entriesFrom (previousEntryHash : String) :
    List CellDirectoryDocumentV3 → List DraftDirectoryHistoryEntryV3
  | [] => []
  | document :: rest =>
    let entry := DraftDirectoryHistoryEntryV3.sealed codec previousEntryHash document
    entry :: entriesFrom entry.entryHash rest

def entriesOf (documents : List CellDirectoryDocumentV3) : List DraftDirectoryHistoryEntryV3 :=
  entriesFrom codec "" documents

/-- The hash the next entry will name. -/
def lastEntryHash (documents : List CellDirectoryDocumentV3) : String :=
  (entriesOf codec documents).getLast?.elim "" (·.entryHash)

def linesOf (documents : List CellDirectoryDocumentV3) : List (List Byte) :=
  (entriesOf codec documents).map codec.encodeEntry

def bytesOf (documents : List CellDirectoryDocumentV3) : List Byte :=
  joinLines codec.newline (linesOf codec documents)

/-- The entry of a document after others. -/
def nextEntry (documents : List CellDirectoryDocumentV3) (document : CellDirectoryDocumentV3) :
    DraftDirectoryHistoryEntryV3 :=
  DraftDirectoryHistoryEntryV3.sealed codec (lastEntryHash codec documents) document

variable {codec} {documents : List CellDirectoryDocumentV3} {document : CellDirectoryDocumentV3}

variable {previous : String}

theorem entriesFrom_concat :
    entriesFrom codec previous (documents ++ [document]) =
      entriesFrom codec previous documents ++ [DraftDirectoryHistoryEntryV3.sealed codec
        ((entriesFrom codec previous documents).getLast?.elim previous (·.entryHash)) document] := by
  induction documents generalizing previous with
  | nil => rfl
  | cons first rest ih =>
    rw [List.cons_append, entriesFrom, ih, entriesFrom]
    cases hrest : entriesFrom codec
      (DraftDirectoryHistoryEntryV3.sealed codec previous first).entryHash rest with
    | nil => rfl
    | cons entry entries =>
      obtain ⟨last, hlast⟩ : ∃ last, (entry :: entries).getLast? = some last :=
        ⟨_, List.getLast?_eq_some_getLast (by simp)⟩
      rw [List.getLast?_cons_cons, hlast]
      rfl

theorem entriesOf_concat :
    entriesOf codec (documents ++ [document]) =
      entriesOf codec documents ++ [nextEntry codec documents document] :=
  entriesFrom_concat

@[simp] theorem nextEntry_document : (nextEntry codec documents document).document = document := rfl

@[simp] theorem nextEntry_previousEntryHash :
    (nextEntry codec documents document).previousEntryHash = lastEntryHash codec documents := rfl

theorem lastEntryHash_concat :
    lastEntryHash codec (documents ++ [document]) =
      (nextEntry codec documents document).entryHash := by
  rw [lastEntryHash, entriesOf_concat, List.getLast?_concat]
  rfl

theorem linesOf_concat :
    linesOf codec (documents ++ [document]) =
      linesOf codec documents ++ [codec.encodeEntry (nextEntry codec documents document)] := by
  rw [linesOf, entriesOf_concat, List.map_append]
  rfl

theorem bytesOf_concat :
    bytesOf codec (documents ++ [document]) =
      bytesOf codec documents
        ++ (codec.encodeEntry (nextEntry codec documents document) ++ [codec.newline]) := by
  rw [bytesOf, linesOf_concat, joinLines_concat]
  rfl

theorem length_bytesOf_concat :
    (bytesOf codec (documents ++ [document])).length =
      (bytesOf codec documents).length
        + ((codec.encodeEntry (nextEntry codec documents document)).length + 1) := by
  rw [bytesOf_concat, List.length_append, List.length_append, List.length_singleton]

theorem entriesFrom_documents :
    (entriesFrom codec previous documents).map (·.document) = documents := by
  induction documents generalizing previous with
  | nil => rfl
  | cons first rest ih => rw [entriesFrom, List.map_cons, ih]; rfl

theorem length_entriesOf : (entriesOf codec documents).length = documents.length := by
  rw [← List.length_map (·.document), entriesOf, entriesFrom_documents]

theorem newline_not_mem_linesOf : ∀ line ∈ linesOf codec documents, codec.newline ∉ line := by
  intro line hline
  obtain ⟨entry, -, rfl⟩ := List.mem_map.mp hline
  exact codec.newline_not_mem entry

theorem length_le_bytesOf : documents.length ≤ (bytesOf codec documents).length := by
  calc documents.length = (linesOf codec documents).length := by
        rw [linesOf, List.length_map, length_entriesOf]
    _ ≤ (bytesOf codec documents).length := length_le_joinLines

/-! ## Heads -/

variable (codec) in
/-- The head of a history of some documents. -/
def headOf (universeId manifestHash : String)
    (documents : List CellDirectoryDocumentV3) : DraftDirectoryHistoryHeadV3 :=
  match documents.getLast? with
  | none => .emptyOf universeId manifestHash
  | some document =>
    { DraftDirectoryHistoryHeadV3.emptyOf universeId manifestHash with
      entryCount := documents.length
      directoryRevision := document.directoryRevision
      documentHash := document.documentHash
      entryHash := lastEntryHash codec documents
      journalByteLength := (bytesOf codec documents).length }

variable {universeId manifestHash : String}

@[simp] theorem headOf_nil :
    headOf codec universeId manifestHash [] = .emptyOf universeId manifestHash := rfl

@[simp] theorem headOf_universeId :
    (headOf codec universeId manifestHash documents).universeId = universeId := by
  unfold headOf
  split <;> rfl

@[simp] theorem headOf_universeManifestHash :
    (headOf codec universeId manifestHash documents).universeManifestHash =
      manifestHash := by
  unfold headOf
  split <;> rfl

@[simp] theorem headOf_entryCount :
    (headOf codec universeId manifestHash documents).entryCount = documents.length := by
  unfold headOf
  cases h : documents.getLast? with
  | none => rw [List.getLast?_eq_none_iff.mp h]; rfl
  | some document => rfl

@[simp] theorem headOf_journalByteLength :
    (headOf codec universeId manifestHash documents).journalByteLength =
      (bytesOf codec documents).length := by
  unfold headOf
  cases h : documents.getLast? with
  | none => rw [List.getLast?_eq_none_iff.mp h]; rfl
  | some document => rfl

@[simp] theorem headOf_entryHash :
    (headOf codec universeId manifestHash documents).entryHash =
      lastEntryHash codec documents := by
  unfold headOf
  cases h : documents.getLast? with
  | none => rw [List.getLast?_eq_none_iff.mp h]; rfl
  | some document => rfl

theorem headOf_concat :
    headOf codec universeId manifestHash (documents ++ [document]) =
      (headOf codec universeId manifestHash documents).tip
        (nextEntry codec documents document)
        ((bytesOf codec documents).length
          + ((codec.encodeEntry (nextEntry codec documents document)).length + 1)) := by
  rw [← length_bytesOf_concat]
  unfold DraftDirectoryHistoryHeadV3.tip
  rw [headOf_entryCount, headOf_universeId, headOf_universeManifestHash, nextEntry_document,
    ← lastEntryHash_concat]
  unfold headOf
  rw [List.getLast?_concat, List.length_append, List.length_singleton]
  rfl

/-! ## The index -/

variable (codec) in
/-- Where the lines of some entries are, after so many bytes. -/
def locationsFrom (offset : Nat) :
    List DraftDirectoryHistoryEntryV3 → List (Nat × DraftDirectoryHistoryLocationV3)
  | [] => []
  | entry :: rest =>
    (entry.document.directoryRevision,
      { offset
        lineLength := (codec.encodeEntry entry).length
        documentHash := entry.document.documentHash
        entryHash := entry.entryHash })
      :: locationsFrom (offset + ((codec.encodeEntry entry).length + 1)) rest

variable (codec) in
def locationsOf (documents : List CellDirectoryDocumentV3) :
    List (Nat × DraftDirectoryHistoryLocationV3) :=
  locationsFrom codec 0 (entriesOf codec documents)

theorem locationsFrom_concat {offset : Nat} {entries entry} :
    locationsFrom codec offset (entries ++ [entry]) =
      locationsFrom codec offset entries ++
        [(entry.document.directoryRevision,
          { offset := offset + (joinLines codec.newline (entries.map codec.encodeEntry)).length
            lineLength := (codec.encodeEntry entry).length
            documentHash := entry.document.documentHash
            entryHash := entry.entryHash })] := by
  induction entries generalizing offset with
  | nil => rfl
  | cons first rest ih =>
    rw [List.cons_append, locationsFrom, ih, locationsFrom, List.map_cons, joinLines_cons]
    simp only [List.cons_append, List.length_append, List.length_cons]
    congr 5
    omega

theorem locationsOf_concat :
    locationsOf codec (documents ++ [document]) =
      locationsOf codec documents ++
        [(document.directoryRevision,
          { offset := (bytesOf codec documents).length
            lineLength := (codec.encodeEntry (nextEntry codec documents document)).length
            documentHash := document.documentHash
            entryHash := (nextEntry codec documents document).entryHash })] := by
  rw [locationsOf, entriesOf_concat, locationsFrom_concat, Nat.zero_add]
  rfl

/-! ## Histories -/

/-- The document that may come after another, or first. -/
def Succeeds : Option CellDirectoryDocumentV3 → CellDirectoryDocumentV3 → Prop
  | none, next =>
    next.directoryRevision ≤ u64Max ∧ (next.migrationGenesis.isSome → next.directoryRevision = 1)
  | some current, next =>
    next.directoryRevision = current.directoryRevision + 1
      ∧ current.directoryRevision + 1 ≤ u64Max
      ∧ next.migrationGenesis = current.migrationGenesis

variable (codec) in
/-- The documents of a history, in the order in which they were appended. -/
inductive Recorded (universeId manifestHash : String) :
    List CellDirectoryDocumentV3 → Prop where
  | none : Recorded universeId manifestHash []
  | next {documents : List CellDirectoryDocumentV3} {document : CellDirectoryDocumentV3}
      (before : Recorded universeId manifestHash documents)
      (valid : document.validate codec.toDirectoryCodec = .ok ())
      (sameUniverse : document.universeId = universeId)
      (sameManifest : document.universeManifestHash = manifestHash)
      (succeeds : Succeeds documents.getLast? document)
      (line : (codec.encodeEntry (nextEntry codec documents document)).length
        ≤ maxDraftDirectoryHistoryLineBytes)
      (bytes : (bytesOf codec (documents ++ [document])).length ≤ maxDraftDirectoryHistoryBytes) :
      Recorded universeId manifestHash (documents ++ [document])

theorem validateSelf_nextEntry (hvalid : document.validate codec.toDirectoryCodec = .ok ())
    (hprevious : lastEntryHash codec documents ≠ "" →
      validBlake3Hex (lastEntryHash codec documents) = true) :
    (nextEntry codec documents document).validateSelf codec = .ok () := by
  simp only [DraftDirectoryHistoryEntryV3.validateSelf, bind_eq_ok, rejectIf_eq_ok, not_or,
    not_and, not_not]
  exact ⟨(), hvalid, rfl, hprevious, codec.entryHash_hex _, rfl⟩

theorem lastEntryHash_hex : lastEntryHash codec documents ≠ "" →
    validBlake3Hex (lastEntryHash codec documents) = true := by
  intro hne
  rcases List.eq_nil_or_concat documents with rfl | ⟨before, last, rfl⟩
  · exact absurd rfl hne
  · rw [List.concat_eq_append, lastEntryHash_concat]
    exact codec.entryHash_hex _

variable (h : Recorded codec universeId manifestHash documents)

include h

theorem Recorded.bytes_le :
    (bytesOf codec documents).length ≤ maxDraftDirectoryHistoryBytes := by
  cases h with
  | none => exact Nat.zero_le _
  | next _ _ _ _ _ _ bytes => exact bytes

variable {current : CellDirectoryDocumentV3}

theorem Recorded.last
    (hlast : documents.getLast? = some current) :
    current.validate codec.toDirectoryCodec = .ok () ∧ current.universeId = universeId
      ∧ current.universeManifestHash = manifestHash := by
  cases h with
  | none => cases hlast
  | next _ valid sameUniverse sameManifest _ _ _ =>
    rw [List.getLast?_concat] at hlast
    obtain rfl := Option.some.inj hlast
    exact ⟨valid, sameUniverse, sameManifest⟩

variable {pinned : List CellDirectoryDocumentV3}

theorem Recorded.of_isPrefix (hpre : pinned <+: documents) :
    Recorded codec universeId manifestHash pinned := by
  induction h with
  | none =>
    rw [List.prefix_nil.mp hpre]
    exact .none
  | next before valid sameUniverse sameManifest succeeds line bytes ih =>
    rcases List.prefix_concat_iff.mp hpre with rfl | hpre
    · exact .next before valid sameUniverse sameManifest succeeds line bytes
    · exact ih hpre

theorem Recorded.revision_le
    (hlast : documents.getLast? = some current) :
    ∀ p ∈ locationsOf codec documents, p.1 ≤ current.directoryRevision := by
  induction h generalizing current with
  | none => cases hlast
  | @next documents document before valid sameUniverse sameManifest succeeds line bytes ih =>
    rw [List.getLast?_concat] at hlast
    obtain rfl := Option.some.inj hlast
    intro p hp
    rw [locationsOf_concat] at hp
    rcases List.mem_append.mp hp with hp | hp
    · cases hbefore : documents.getLast? with
      | none =>
        rw [List.getLast?_eq_none_iff.mp hbefore] at hp
        cases hp
      | some prior =>
        rw [hbefore] at succeeds
        have := ih hbefore p hp
        have := succeeds.1
        omega
    · rw [List.mem_singleton.mp hp]

omit h

theorem length_bytesOf_lt {rest} (hrest : rest ≠ []) :
    (bytesOf codec pinned).length < (bytesOf codec (pinned ++ rest)).length := by
  induction rest using List.reverseRecOn with
  | nil => exact absurd rfl hrest
  | append_singleton rest last ih =>
    rw [← List.append_assoc, length_bytesOf_concat]
    by_cases hne : rest = []
    · subst hne
      rw [List.append_nil]
      omega
    · have := ih hne
      omega

/-! ## Reading the lines back -/

theorem decodeCanonical_nextEntry [DecidableEq Byte]
    (hvalid : document.validate codec.toDirectoryCodec = .ok ())
    (hline : (codec.encodeEntry (nextEntry codec documents document)).length
      ≤ maxDraftDirectoryHistoryLineBytes) :
    DraftDirectoryHistoryEntryV3.decodeCanonical codec
        (codec.encodeEntry (nextEntry codec documents document)) =
      .ok (nextEntry codec documents document) := by
  have hself : (nextEntry codec documents document).validateSelf codec = .ok () :=
    validateSelf_nextEntry hvalid lastEntryHash_hex
  simp only [DraftDirectoryHistoryEntryV3.decodeCanonical,
    DraftDirectoryHistoryEntryV3.encodeCanonical, bind_eq_ok, rejectIf_eq_ok, demand_eq_ok,
    pure_eq_ok, not_or, not_lt, not_not]
  exact ⟨(), ⟨codec.encode_ne_nil _, hline⟩, _, codec.decode_encode _, (), hself, _,
    ⟨(), hself, (), hline, rfl⟩, (), rfl, rfl⟩

/-! The index of the lines. -/

variable (codec) in
def indexOf (documents : List CellDirectoryDocumentV3) :
    OrdMap Nat DraftDirectoryHistoryLocationV3 :=
  OrdMap.ofList (locationsOf codec documents)

theorem indexOf_concat :
    indexOf codec (documents ++ [document]) =
      (indexOf codec documents).insert document.directoryRevision
        { offset := (bytesOf codec documents).length
          lineLength := (codec.encodeEntry (nextEntry codec documents document)).length
          documentHash := document.documentHash
          entryHash := (nextEntry codec documents document).entryHash } := by
  rw [indexOf, locationsOf_concat, OrdMap.ofList, List.foldl_append]
  rfl

theorem Recorded.entries_indexOf (h : Recorded codec universeId manifestHash documents) :
    (indexOf codec documents).entries = locationsOf codec documents := by
  induction h with
  | none => rfl
  | @next documents document before valid sameUniverse sameManifest succeeds line bytes ih =>
    rw [indexOf_concat, OrdMap.entries_insert_of_gt, ih, locationsOf_concat]
    rw [ih]
    intro p hp
    cases hbefore : documents.getLast? with
    | none =>
      rw [List.getLast?_eq_none_iff.mp hbefore] at hp
      cases hp
    | some prior =>
      rw [hbefore] at succeeds
      have := before.revision_le hbefore p hp
      have := succeeds.1
      omega

/-! The order of the histories a file has had. -/

variable {a b whole : List CellDirectoryDocumentV3}

theorem length_bytesOf_lt_iff (ha : a <+: whole)
    (hb : b <+: whole) :
    (bytesOf codec a).length < (bytesOf codec b).length ↔ a.length < b.length := by
  have hlt : ∀ {a b : List CellDirectoryDocumentV3}, a <+: whole → b <+: whole →
      a.length < b.length → (bytesOf codec a).length < (bytesOf codec b).length := by
    intro a b ha hb hlength
    obtain ⟨rest, rfl⟩ := List.prefix_of_prefix_length_le ha hb hlength.le
    refine length_bytesOf_lt ?_
    rintro rfl
    simp at hlength
  constructor
  · intro h
    by_contra hle
    rcases Nat.lt_or_eq_of_le (Nat.not_lt.mp hle) with hlength | hlength
    · exact absurd (hlt hb ha hlength) (Nat.not_lt.mpr h.le)
    · obtain rfl := (List.prefix_of_prefix_length_le ha hb hlength.ge).eq_of_length hlength.symm
      exact absurd h (Nat.lt_irrefl _)
  · exact hlt ha hb

theorem length_bytesOf_eq_iff (ha : a <+: whole)
    (hb : b <+: whole) : (bytesOf codec a).length = (bytesOf codec b).length ↔ a = b := by
  constructor
  · intro h
    have hab := (length_bytesOf_lt_iff ha hb).not.mp (Nat.not_lt.mpr h.ge)
    have hba := (length_bytesOf_lt_iff hb ha).not.mp (Nat.not_lt.mpr h.le)
    exact (List.prefix_of_prefix_length_le ha hb (Nat.not_lt.mp hba)).eq_of_length
      (Nat.le_antisymm (Nat.not_lt.mp hba) (Nat.not_lt.mp hab))
  · rintro rfl
    rfl

variable (codec universeId manifestHash) in
/-- What the recovery knows after the lines of some documents, read under the head of others. -/
def recoveryOf (pinned documents : List CellDirectoryDocumentV3) : Recovery where
  offset := (bytesOf codec documents).length
  priorRevision := documents.getLast?.map (·.directoryRevision)
  priorEntryHash := lastEntryHash codec documents
  derivedHead := headOf codec universeId manifestHash documents
  index := indexOf codec documents
  current := documents.getLast?
  headMatched := decide (pinned.length ≤ documents.length)
  pinnedMigrationGenesis := documents.getLast?.map (·.migrationGenesis)

theorem start_eq_recoveryOf :
    Recovery.start (headOf codec universeId manifestHash pinned) =
      recoveryOf codec universeId manifestHash pinned [] := by
  have hmatched : decide (pinned.length = 0 ∧ (bytesOf codec pinned).length = 0) =
      decide (pinned.length ≤ 0) := by
    rw [decide_eq_decide, Nat.le_zero, List.length_eq_zero_iff]
    constructor
    · exact fun h => h.1
    · rintro rfl
      exact ⟨rfl, rfl⟩
  unfold Recovery.start recoveryOf
  rw [headOf_universeId, headOf_universeManifestHash, headOf_entryCount,
    headOf_journalByteLength, hmatched]
  rfl

theorem fromTip_headOf
    (hbytes : (bytesOf codec (documents ++ [document])).length ≤ maxDraftDirectoryHistoryBytes) :
    (headOf codec universeId manifestHash documents).fromTip
        (nextEntry codec documents document) ((bytesOf codec documents).length
          + ((codec.encodeEntry (nextEntry codec documents document)).length + 1)) =
      .ok (headOf codec universeId manifestHash (documents ++ [document])) := by
  have hlength : (documents ++ [document]).length
      ≤ (bytesOf codec (documents ++ [document])).length := length_le_bytesOf
  rw [List.length_append, List.length_singleton] at hlength
  have hcount : documents.length + 1 ≤ u64Max := hlength.trans (hbytes.trans (by decide))
  have hcounted : checkedAdd documents.length 1 = some (documents.length + 1) :=
    checkedAdd_eq_some.mpr ⟨hcount, rfl⟩
  simp only [DraftDirectoryHistoryHeadV3.fromTip, bind_eq_ok, rejectIf_eq_ok, pure_eq_ok]
  exact ⟨(), by simp [hcounted], headOf_concat.symm⟩

theorem recoverRecord_next [DecidableEq Byte]
    (hpinned : pinned <+: whole) (hdocuments : documents ++ [document] <+: whole)
    (hvalid : document.validate codec.toDirectoryCodec = .ok ())
    (huniverse : document.universeId = universeId)
    (hmanifest : document.universeManifestHash = manifestHash)
    (hsucceeds : Succeeds documents.getLast? document)
    (hline : (codec.encodeEntry (nextEntry codec documents document)).length
      ≤ maxDraftDirectoryHistoryLineBytes)
    (hbytes : (bytesOf codec (documents ++ [document])).length ≤ maxDraftDirectoryHistoryBytes) :
    recoverRecord codec (headOf codec universeId manifestHash pinned)
        (recoveryOf codec universeId manifestHash pinned documents)
        (codec.encodeEntry (nextEntry codec documents document)) =
      .ok (recoveryOf codec universeId manifestHash pinned (documents ++ [document])) := by
  have hbefore : documents <+: whole := (List.prefix_append _ _).trans hdocuments
  have hoffset : (bytesOf codec (documents ++ [document])).length =
      (bytesOf codec documents).length
        + ((codec.encodeEntry (nextEntry codec documents document)).length + 1) :=
    length_bytesOf_concat
  simp only [recoverRecord, bind_eq_ok, rejectIf_eq_ok, pure_eq_ok]
  refine ⟨(), ?_, _, decodeCanonical_nextEntry hvalid hline, (), ?_, (), ?_, _,
    fromTip_headOf hbytes, (), ?_, (), ?_, ?_⟩
  · omega
  · -- the entry names the one before it, and its revision comes next
    simp only [recoveryOf, headOf_universeId, headOf_universeManifestHash, nextEntry_document,
      nextEntry_previousEntryHash, huniverse, hmanifest, ne_eq, not_true_eq_false, false_or]
    cases hlast : documents.getLast? with
    | none =>
      rw [hlast] at hsucceeds
      simpa [Succeeds] using hsucceeds.2
    | some current =>
      rw [hlast] at hsucceeds
      obtain ⟨hrevision, hle, -⟩ := hsucceeds
      have hrevised : checkedAdd current.directoryRevision 1 = some document.directoryRevision :=
        checkedAdd_eq_some.mpr ⟨hle, hrevision.symm⟩
      simp [-checkedAdd_eq_some, hrevised]
  · cases hlast : documents.getLast? with
    | none => simp [recoveryOf, hlast]
    | some current =>
      rw [hlast] at hsucceeds
      simp [recoveryOf, hlast, hsucceeds.2.2]
  · -- a head that ends where this line ends is the head of the lines up to here
    rintro ⟨hends, hdiffers⟩
    rw [headOf_journalByteLength] at hends
    obtain rfl := (length_bytesOf_eq_iff hdocuments hpinned).mp (hoffset.trans hends)
    exact hdiffers rfl
  · -- and none ends inside of it
    rintro ⟨hlow, hhigh⟩
    rw [headOf_journalByteLength] at hlow hhigh
    have hlow := (length_bytesOf_lt_iff hbefore hpinned).mp hlow
    have hhigh := (length_bytesOf_lt_iff hpinned hdocuments).mp (hoffset ▸ hhigh)
    rw [List.length_append, List.length_singleton] at hhigh
    omega
  · have hmatched : (decide (pinned.length ≤ documents.length)
        || decide ((bytesOf codec documents).length
            + ((codec.encodeEntry (nextEntry codec documents document)).length + 1)
          = (bytesOf codec pinned).length)) =
        decide (pinned.length ≤ (documents ++ [document]).length) := by
      rw [← hoffset, ← Bool.decide_or, decide_eq_decide, length_bytesOf_eq_iff hdocuments hpinned,
        List.length_append, List.length_singleton]
      constructor
      · rintro (hle | rfl)
        · omega
        · simp
      · intro hle
        rcases Nat.lt_or_eq_of_le hle with hlt | heq
        · exact .inl (by omega)
        · refine .inr ?_
          have hlengths : (documents ++ [document]).length ≤ pinned.length := by
            rw [List.length_append, List.length_singleton, heq]
          exact (List.prefix_of_prefix_length_le hdocuments hpinned hlengths).eq_of_length
            (by rw [List.length_append, List.length_singleton, heq])
    have hgenesis : (documents.getLast?.map (·.migrationGenesis)).or
        (some document.migrationGenesis) = some document.migrationGenesis := by
      cases hlast : documents.getLast? with
      | none => rfl
      | some current =>
        rw [hlast] at hsucceeds
        simp [hsucceeds.2.2]
    unfold recoveryOf
    simp only [List.getLast?_concat, Option.map_some, lastEntryHash_concat, indexOf_concat,
      hoffset, nextEntry_document, headOf_journalByteLength, hmatched, hgenesis]

theorem recover_lines [DecidableEq Byte] (hpinned : pinned <+: whole)
    (h : Recorded codec universeId manifestHash documents)
    (hdocuments : documents <+: whole) :
    (linesOf codec documents).foldlM
        (recoverRecord codec (headOf codec universeId manifestHash pinned))
        (Recovery.start (headOf codec universeId manifestHash pinned)) =
      .ok (recoveryOf codec universeId manifestHash pinned documents) := by
  induction h with
  | none => rw [start_eq_recoveryOf]; rfl
  | next before valid sameUniverse sameManifest succeeds line bytes ih =>
    have hbefore := (List.prefix_append _ _).trans hdocuments
    rw [linesOf_concat, List.foldlM_append, ih hbefore]
    refine (bind_eq_ok).mpr ⟨_, rfl, ?_⟩
    rw [List.foldlM_cons, recoverRecord_next hpinned hdocuments valid sameUniverse
      sameManifest succeeds line bytes]
    rfl

/-! ## Finding a document again -/

theorem linesOf_isPrefix (h : a <+: b) :
    linesOf codec a <+: linesOf codec b := by
  obtain ⟨rest, rfl⟩ := h
  induction rest using List.reverseRecOn with
  | nil => rw [List.append_nil]
  | append_singleton rest last ih =>
    rw [← List.append_assoc, linesOf_concat]
    exact ih.trans (List.prefix_append _ _)

theorem locationsOf_isPrefix (h : a <+: b) :
    locationsOf codec a <+: locationsOf codec b := by
  obtain ⟨rest, rfl⟩ := h
  induction rest using List.reverseRecOn with
  | nil => rw [List.append_nil]
  | append_singleton rest last ih =>
    rw [← List.append_assoc, locationsOf_concat]
    exact ih.trans (List.prefix_append _ _)

theorem Recorded.last_line
    (h : Recorded codec universeId manifestHash (documents ++ [document])) :
    document.validate codec.toDirectoryCodec = .ok ()
      ∧ (codec.encodeEntry (nextEntry codec documents document)).length
          ≤ maxDraftDirectoryHistoryLineBytes := by
  generalize hall : documents ++ [document] = all at h
  cases h with
  | none => simp at hall
  | next before valid sameUniverse sameManifest succeeds line bytes =>
    obtain ⟨rfl, hlast⟩ := List.append_inj' hall rfl
    obtain rfl : document = _ := by simpa using hlast
    exact ⟨valid, line⟩

variable {tail : List Byte}

variable {store : DraftCellDirectoryHistoryStoreV3}

/-- A document is found under its own revision and hash, whatever was appended since and whatever
    is being written. -/
theorem resolve_of_isPrefix [DecidableEq Byte]
    (h : Recorded codec universeId manifestHash whole)
    (hpre : documents ++ [document] <+: whole) (hindex : store.index = indexOf codec whole) :
    store.resolveDocument codec (bytesOf codec whole ++ tail) document.directoryRevision
      document.documentHash = .ok document := by
  obtain ⟨hvalid, hline⟩ := (h.of_isPrefix hpre).last_line
  have hlocation : store.index.get? document.directoryRevision = some
      { offset := (bytesOf codec documents).length
        lineLength := (codec.encodeEntry (nextEntry codec documents document)).length
        documentHash := document.documentHash
        entryHash := (nextEntry codec documents document).entryHash } := by
    rw [hindex, ← OrdMap.mem_entries, h.entries_indexOf]
    refine (locationsOf_isPrefix hpre).mem ?_
    rw [locationsOf_concat]
    exact List.mem_append_right _ (List.mem_singleton_self _)
  obtain ⟨after, hafter⟩ : linesOf codec (documents ++ [document]) <+: linesOf codec whole :=
    linesOf_isPrefix hpre
  rw [linesOf_concat, List.append_assoc, List.singleton_append] at hafter
  have hbytes : ((bytesOf codec whole ++ tail).drop (bytesOf codec documents).length).take
      (codec.encodeEntry (nextEntry codec documents document)).length =
        codec.encodeEntry (nextEntry codec documents document) := by
    rw [bytesOf, bytesOf, ← hafter]
    exact take_drop_joinLines
  simp only [DraftCellDirectoryHistoryStoreV3.resolveDocument, readExact, bind_eq_ok,
    rejectIf_eq_ok, demand_eq_ok, pure_eq_ok]
  refine ⟨_, hlocation, (), by simp, _, ⟨(), ?_, hbytes⟩, _,
    decodeCanonical_nextEntry hvalid hline, (), by simp, rfl⟩
  simp [hbytes]

/-- The index leads to the documents, in their order. -/
theorem forall₂_resolve [DecidableEq Byte]
    (h : Recorded codec universeId manifestHash whole)
    (hindex : store.index = indexOf codec whole) (hpre : documents <+: whole) :
    List.Forall₂ (fun location document =>
        store.resolveDocument codec (bytesOf codec whole ++ tail) location.1
          location.2.documentHash = .ok document)
      (locationsOf codec documents) documents := by
  induction documents using List.reverseRecOn with
  | nil => exact .nil
  | append_singleton documents last ih =>
    rw [locationsOf_concat]
    refine List.rel_append (ih ((List.prefix_append _ _).trans hpre)) (.cons ?_ .nil)
    exact resolve_of_isPrefix h hpre hindex

/-! ## The documents on disk -/

theorem splitLines_bytesOf [DecidableEq Byte] (htail : codec.newline ∉ tail) :
    splitLines codec.newline (bytesOf codec documents ++ tail) =
      (linesOf codec documents, tail) :=
  splitLines_append newline_not_mem_linesOf htail

theorem Recorded.writtenDocuments_eq [DecidableEq Byte]
    (h : Recorded codec universeId manifestHash documents) {files : HistoryFiles Byte}
    (hhistory : files.history = bytesOf codec documents ++ tail)
    (htail : codec.newline ∉ tail) : writtenDocuments codec files = documents := by
  rw [writtenDocuments, hhistory, splitLines_bytesOf htail]
  clear hhistory htail
  induction h with
  | none => rfl
  | next before valid sameUniverse sameManifest succeeds line bytes ih =>
    rw [linesOf_concat, List.filterMap_append, ih, List.filterMap_cons, List.filterMap_nil,
      decodeCanonical_nextEntry valid line]
    rfl

end Verse.DirectoryV3
