import Verse.DirectoryV3.History
import Verse.Lib.Lines
import Verse.Lib.Medium

/-!
# The history on disk

The directory keeps its documents in a file of lines, each an entry that names the hash of the
entry before it, and beside it a small head that says how far the file had been written and
synced when the head was replaced. The head is replaced by renaming a temporary file.

A commit writes the line, waits for it, and replaces the head; `recover` reads the lines back,
cuts off one that was not finished, and brings the head up to the last. A line that the head
pins must be there, and one beyond it counts as soon as it is whole.

What can fail here, or be the last thing the process does, is every step that writes or waits.
Files are read without error, except where there is nothing to read, which is a refusal like
any other. A file that was never created is empty. The alphabet of the
file is a parameter: the code's is the bytes, with `\n` for the end of a line.
-/

namespace Verse.DirectoryV3

open Lib Directory

/-! ## What is stored -/

structure DraftDirectoryHistoryEntryV3 where
  historySchemaVersion : Nat
  previousEntryHash : String
  document : CellDirectoryDocumentV3
  entryHash : String
deriving DecidableEq

structure Protocol19CompatibilityTuple where
  (protocolVersion projectionSchemaVersion worldSchemaVersion eventSchemaVersion : Nat)
  contentSchemaVersion : Nat
  contentManifestVersion : String
  (celestialRegistrySchemaVersion universeManifestSchemaVersion interestSchemaVersion : Nat)
  (operationFingerprintSchemaVersion lifecycleControlSchemaVersion : Nat)
  (productionOccurrenceSchemaVersion cellKeySchemaVersion directorySchemaVersion : Nat)
  transferPackageSchemaVersion : Nat
deriving DecidableEq, Repr

def Protocol19CompatibilityTuple.canonical : Protocol19CompatibilityTuple where
  protocolVersion := 19
  projectionSchemaVersion := 5
  worldSchemaVersion := 21
  eventSchemaVersion := 17
  contentSchemaVersion := 11
  contentManifestVersion := "p1.5.0"
  celestialRegistrySchemaVersion := 1
  universeManifestSchemaVersion := 5
  interestSchemaVersion := 3
  operationFingerprintSchemaVersion := 2
  lifecycleControlSchemaVersion := 2
  productionOccurrenceSchemaVersion := 1
  cellKeySchemaVersion := 1
  directorySchemaVersion := 3
  transferPackageSchemaVersion := 2

structure DraftDirectoryHistoryHeadV3 where
  historySchemaVersion : Nat
  compatibility : Protocol19CompatibilityTuple
  (universeId universeManifestHash : String)
  (entryCount directoryRevision : Nat)
  (documentHash entryHash : String)
  journalByteLength : Nat
deriving DecidableEq

structure DraftDirectoryHistoryLocationV3 where
  (offset lineLength : Nat)
  (documentHash entryHash : String)
deriving DecidableEq

/-- What the history relies on beyond the directory: how entries become lines and back, their
    hash, and the length of a head. An entry is read back as it was written, and its JSON is
    neither empty nor has the end of a line in it. -/
structure HistoryCodec (Byte : Type) extends DirectoryCodec where
  newline : Byte
  entryHash : DraftDirectoryHistoryEntryV3 → String
  entryHash_hex : ∀ entry, validBlake3Hex (entryHash entry) = true
  encodeEntry : DraftDirectoryHistoryEntryV3 → List Byte
  decodeEntry : List Byte → Option DraftDirectoryHistoryEntryV3
  decode_encode : ∀ entry, decodeEntry (encodeEntry entry) = some entry
  encode_ne_nil : ∀ entry, encodeEntry entry ≠ []
  newline_not_mem : ∀ entry, newline ∉ encodeEntry entry
  headLength : DraftDirectoryHistoryHeadV3 → Nat

def draftDirectoryHistorySchemaVersion : Nat := 1
def maxDraftDirectoryHistoryBytes : Nat := 512 * 1024 * 1024
def maxDraftDirectoryHistoryLineBytes : Nat := maxDraftDirectoryV3Bytes + 4096
def maxDraftDirectoryHistoryHeadBytes : Nat := 16 * 1024

variable {Byte : Type} [DecidableEq Byte] (codec : HistoryCodec Byte)

/-! ## Entries -/

namespace DraftDirectoryHistoryEntryV3

def calculateHash (entry : DraftDirectoryHistoryEntryV3) : String :=
  codec.entryHash { entry with entryHash := "" }

def validateSelf (entry : DraftDirectoryHistoryEntryV3) : Fallible Unit := do
  entry.document.validate codec.toDirectoryCodec
  rejectIf (entry.historySchemaVersion ≠ draftDirectoryHistorySchemaVersion
      ∨ (entry.previousEntryHash ≠ "" ∧ ¬ validBlake3Hex entry.previousEntryHash)
      ∨ ¬ validBlake3Hex entry.entryHash
      ∨ entry.entryHash ≠ entry.calculateHash codec)
    (.invalidDirectory "v3 directory history entry schema or hash is invalid")

/-- An entry under its own hash. -/
def sealed (previousEntryHash : String) (document : CellDirectoryDocumentV3) :
    DraftDirectoryHistoryEntryV3 :=
  let entry : DraftDirectoryHistoryEntryV3 :=
    { historySchemaVersion := draftDirectoryHistorySchemaVersion
      previousEntryHash
      document
      entryHash := "" }
  { entry with entryHash := entry.calculateHash codec }

def new (previousEntryHash : String) (document : CellDirectoryDocumentV3) :
    Fallible DraftDirectoryHistoryEntryV3 := do
  document.validate codec.toDirectoryCodec
  let entry := sealed codec previousEntryHash document
  entry.validateSelf codec
  return entry

def encodeCanonical (entry : DraftDirectoryHistoryEntryV3) : Fallible (List Byte) := do
  entry.validateSelf codec
  rejectIf (maxDraftDirectoryHistoryLineBytes < (codec.encodeEntry entry).length)
    (.invalidDirectory "v3 directory history entry exceeds its byte bound")
  return codec.encodeEntry entry

def decodeCanonical (bytes : List Byte) : Fallible DraftDirectoryHistoryEntryV3 := do
  rejectIf (bytes = [] ∨ maxDraftDirectoryHistoryLineBytes < bytes.length)
    (.invalidDirectory "v3 directory history entry exceeds its byte bound")
  let entry ← demand (codec.decodeEntry bytes)
    (.invalidDirectory "v3 directory history entry JSON is invalid")
  entry.validateSelf codec
  let encoded ← entry.encodeCanonical codec
  rejectIf (encoded ≠ bytes)
    (.invalidDirectory "v3 directory history entry bytes are not canonical")
  return entry

end DraftDirectoryHistoryEntryV3

/-! ## Heads -/

namespace DraftDirectoryHistoryHeadV3

/-- The head of a universe of which nothing has been written. -/
def emptyOf (universeId universeManifestHash : String) : DraftDirectoryHistoryHeadV3 where
  historySchemaVersion := draftDirectoryHistorySchemaVersion
  compatibility := .canonical
  universeId := universeId
  universeManifestHash := universeManifestHash
  entryCount := 0
  directoryRevision := 0
  documentHash := ""
  entryHash := ""
  journalByteLength := 0

def empty (document : CellDirectoryDocumentV3) : DraftDirectoryHistoryHeadV3 :=
  emptyOf document.universeId document.universeManifestHash

/-- The head after one more entry. -/
def tip (prior : DraftDirectoryHistoryHeadV3) (entry : DraftDirectoryHistoryEntryV3)
    (journalByteLength : Nat) : DraftDirectoryHistoryHeadV3 where
  historySchemaVersion := draftDirectoryHistorySchemaVersion
  compatibility := .canonical
  universeId := prior.universeId
  universeManifestHash := prior.universeManifestHash
  entryCount := prior.entryCount + 1
  directoryRevision := entry.document.directoryRevision
  documentHash := entry.document.documentHash
  entryHash := entry.entryHash
  journalByteLength := journalByteLength

def fromTip (prior : DraftDirectoryHistoryHeadV3) (entry : DraftDirectoryHistoryEntryV3)
    (journalByteLength : Nat) : Fallible DraftDirectoryHistoryHeadV3 := do
  rejectIf (checkedAdd prior.entryCount 1 = none)
    (.invalidDirectory "v3 directory history entry count exhausted")
  return prior.tip entry journalByteLength

/-- Nothing written. -/
def emptyTip (head : DraftDirectoryHistoryHeadV3) : Prop :=
  head.entryCount = 0 ∧ head.directoryRevision = 0 ∧ head.documentHash = ""
    ∧ head.entryHash = "" ∧ head.journalByteLength = 0

/-- Something written. -/
def populatedTip (head : DraftDirectoryHistoryHeadV3) : Prop :=
  0 < head.entryCount ∧ 0 < head.directoryRevision ∧ validBlake3Hex head.documentHash = true
    ∧ validBlake3Hex head.entryHash = true ∧ 0 < head.journalByteLength

instance (head : DraftDirectoryHistoryHeadV3) : Decidable head.emptyTip := by
  unfold emptyTip; infer_instance

instance (head : DraftDirectoryHistoryHeadV3) : Decidable head.populatedTip := by
  unfold populatedTip; infer_instance

def validateIdentity (head : DraftDirectoryHistoryHeadV3)
    (expectedUniverseId expectedManifestHash : String) : Fallible Unit :=
  rejectIf (head.historySchemaVersion ≠ draftDirectoryHistorySchemaVersion
      ∨ head.compatibility ≠ .canonical
      ∨ head.universeId ≠ expectedUniverseId
      ∨ head.universeManifestHash ≠ expectedManifestHash
      ∨ ¬ validBlake3Hex head.universeManifestHash
      ∨ ¬ (head.emptyTip ∨ head.populatedTip))
    (.invalidDirectory "v3 directory history head identity or compatibility is invalid")

end DraftDirectoryHistoryHeadV3

/-! ## The files and the store -/

/-- The files of a history: the lines, the head, and the temporary heads that were left behind,
    by name. -/
structure HistoryFiles (Byte : Type) where
  history : List Byte
  head : Option DraftDirectoryHistoryHeadV3
  temps : List Nat

def HistoryFiles.none : HistoryFiles Byte where
  history := []
  head := .none
  temps := []

/-- What the store has in memory. -/
structure DraftCellDirectoryHistoryStoreV3 where
  head : DraftDirectoryHistoryHeadV3
  current : Option CellDirectoryDocumentV3
  index : OrdMap Nat DraftDirectoryHistoryLocationV3
  poisoned : Bool

/-- A store that has read the head and nothing else. -/
def DraftCellDirectoryHistoryStoreV3.reading (head : DraftDirectoryHistoryHeadV3) :
    DraftCellDirectoryHistoryStoreV3 where
  head := head
  current := none
  index := OrdMap.empty
  poisoned := false

abbrev Storing (Byte α : Type) :=
  MediumProgram CellDirectoryError (HistoryFiles Byte) DraftCellDirectoryHistoryStoreV3 α

/-- `invalid`. -/
def invalidHistory (reason : String) : CellDirectoryError := .invalidDirectory reason

/-- More at the end of the history. -/
def appending (bytes : List Byte) : Effect (HistoryFiles Byte) := fun part files =>
  { files with history := files.history ++ (part.elim bytes bytes.take) }

/-- A temporary name that is not in use. -/
def HistoryFiles.freshTemp (files : HistoryFiles Byte) : Nat := files.temps.foldr max 0 + 1

def createTemp (temp : Nat) : Effect (HistoryFiles Byte) :=
  .atomic fun files => { files with temps := temp :: files.temps }

def removeTemp (temp : Nat) : Effect (HistoryFiles Byte) :=
  .atomic fun files => { files with temps := files.temps.filter (· ≠ temp) }

def renameTemp (temp : Nat) (head : DraftDirectoryHistoryHeadV3) : Effect (HistoryFiles Byte) :=
  .atomic fun files =>
    { files with head := some head, temps := files.temps.filter (· ≠ temp) }

def setLength (length : Nat) : Effect (HistoryFiles Byte) :=
  .atomic fun files => { files with history := files.history.take length }

def persistHead (head : DraftDirectoryHistoryHeadV3) : Storing Byte Unit := do
  let store ← memory
  check (head.validateIdentity store.head.universeId store.head.universeManifestHash)
  check (rejectIf (codec.headLength head = 0
      ∨ maxDraftDirectoryHistoryHeadBytes < codec.headLength head)
    (invalidHistory "v3 directory history head exceeds its byte bound"))
  let temp := (← get).disk.freshTemp
  onFailure (perform (removeTemp temp)) do
    perform (createTemp temp)
    -- the bytes of the temporary file, and its sync
    perform .none
    perform (renameTemp temp head)
    -- the sync of the directory
    perform .none

/-! ## Appending -/

/-- Whether the document is the current one again; if not, it must be the one to come next. -/
def DraftCellDirectoryHistoryStoreV3.compareAndSwap (store : DraftCellDirectoryHistoryStoreV3)
    (expectedRevision : Option Nat) (expectedDocumentHash : Option String)
    (next : CellDirectoryDocumentV3) : Fallible Bool :=
  match store.current with
  | none => do
    rejectIf (expectedRevision.isSome ∨ expectedDocumentHash.isSome ∨ store.head.entryCount ≠ 0
        ∨ store.index.entries ≠ [])
      (invalidHistory "v3 directory history genesis CAS is invalid")
    return false
  | some current => do
    rejectIf (expectedRevision ≠ some current.directoryRevision
        ∨ expectedDocumentHash ≠ some current.documentHash)
      (invalidHistory "v3 directory history compare-and-swap is stale")
    if next = current then return true
    else do
      rejectIf (checkedAdd current.directoryRevision 1 = none) .directoryRevisionExhausted
      rejectIf (next.directoryRevision ≠ current.directoryRevision + 1
          ∨ next.universeId ≠ current.universeId
          ∨ next.universeManifestHash ≠ current.universeManifestHash
          ∨ next.migrationGenesis ≠ current.migrationGenesis)
        (invalidHistory "v3 directory history successor revision or identity is invalid")
      return false

/-- From an error in here on, the store does not know what it wrote. -/
def poisoning {α : Type} (x : Storing Byte α) : Storing Byte α :=
  onFailure (remember fun store => { store with poisoned := true }) x

/-- The entry that a document becomes, and its line. -/
def DraftCellDirectoryHistoryStoreV3.prepareEntry (store : DraftCellDirectoryHistoryStoreV3)
    (next : CellDirectoryDocumentV3) :
    Fallible (DraftDirectoryHistoryEntryV3 × List Byte) := do
  rejectIf (next.universeId ≠ store.head.universeId
      ∨ next.universeManifestHash ≠ store.head.universeManifestHash)
    (invalidHistory "v3 directory history document disagrees with the pinned identity")
  let previousEntryHash := if store.head.entryCount = 0 then "" else store.head.entryHash
  let entry ← DraftDirectoryHistoryEntryV3.new codec previousEntryHash next
  let line ← entry.encodeCanonical codec
  return (entry, line)

def appendDocument (expectedRevision : Option Nat) (expectedDocumentHash : Option String)
    (next : CellDirectoryDocumentV3) : Storing Byte Unit := do
  let store ← memory
  check (rejectIf (store.poisoned = true)
    (invalidHistory "v3 directory history write outcome is uncertain; reopen before retry"))
  check (next.validate codec.toDirectoryCodec)
  let again ← check (store.compareAndSwap expectedRevision expectedDocumentHash next)
  if again then return ()
  else do
    let (entry, line) ← check (store.prepareEntry codec next)
    let offset := (← get).disk.history.length
    check (rejectIf (offset ≠ store.head.journalByteLength)
      (invalidHistory "v3 directory history journal and in-memory head diverged"))
    let resultingLength := offset + (line.length + 1)
    check (rejectIf (maxDraftDirectoryHistoryBytes < resultingLength)
      (invalidHistory "v3 directory history exceeds its byte bound"))
    poisoning do
      perform (appending line)
      perform (appending [codec.newline])
      -- the sync of the history
      perform .none
    let nextHead ← check (store.head.fromTip entry resultingLength)
    poisoning (persistHead codec nextHead)
    remember fun store =>
      { store with
        head := nextHead
        current := some next
        index := store.index.insert next.directoryRevision
          { offset
            lineLength := line.length
            documentHash := next.documentHash
            entryHash := entry.entryHash } }

/-! ## Recovery -/

/-- How far the lines have been read. -/
structure Recovery where
  offset : Nat
  priorRevision : Option Nat
  priorEntryHash : String
  derivedHead : DraftDirectoryHistoryHeadV3
  index : OrdMap Nat DraftDirectoryHistoryLocationV3
  current : Option CellDirectoryDocumentV3
  headMatched : Bool
  pinnedMigrationGenesis : Option (Option DirectoryMigrationGenesisV1)

def Recovery.start (head : DraftDirectoryHistoryHeadV3) : Recovery where
  offset := 0
  priorRevision := none
  priorEntryHash := ""
  derivedHead := .emptyOf head.universeId head.universeManifestHash
  index := OrdMap.empty
  current := none
  headMatched := decide (head.entryCount = 0 ∧ head.journalByteLength = 0)
  pinnedMigrationGenesis := none

/-- One line that is ended. -/
def recoverRecord (head : DraftDirectoryHistoryHeadV3) (recovery : Recovery)
    (record : List Byte) : Fallible Recovery := do
  rejectIf (maxDraftDirectoryHistoryLineBytes + 1 < record.length + 1)
    (invalidHistory "v3 directory history line exceeds its byte bound")
  let entry ← DraftDirectoryHistoryEntryV3.decodeCanonical codec record
  let document := entry.document
  rejectIf (entry.previousEntryHash ≠ recovery.priorEntryHash
      ∨ document.universeId ≠ head.universeId
      ∨ document.universeManifestHash ≠ head.universeManifestHash
      ∨ (recovery.priorRevision = none ∧ document.migrationGenesis.isSome
        ∧ document.directoryRevision ≠ 1)
      ∨ ∃ revision ∈ recovery.priorRevision,
          checkedAdd revision 1 ≠ some document.directoryRevision)
    (invalidHistory "v3 directory history chain, revision, or identity is invalid")
  rejectIf (∃ genesis ∈ recovery.pinnedMigrationGenesis, genesis ≠ document.migrationGenesis)
    (invalidHistory "v3 directory history changed its migration genesis")
  let offset := recovery.offset + (record.length + 1)
  let derivedHead ← recovery.derivedHead.fromTip entry offset
  rejectIf (offset = head.journalByteLength ∧ derivedHead ≠ head)
    (invalidHistory "v3 directory history head does not identify its exact record")
  rejectIf (recovery.offset < head.journalByteLength ∧ head.journalByteLength < offset)
    (invalidHistory "v3 directory history head is not on a record boundary")
  return {
    offset
    priorRevision := some document.directoryRevision
    priorEntryHash := entry.entryHash
    derivedHead
    index := recovery.index.insert document.directoryRevision
      { offset := recovery.offset
        lineLength := record.length
        documentHash := document.documentHash
        entryHash := entry.entryHash }
    current := some document
    headMatched := recovery.headMatched || decide (offset = head.journalByteLength)
    pinnedMigrationGenesis := recovery.pinnedMigrationGenesis.or (some document.migrationGenesis) }

/-- What follows the last line that is ended is cut off, unless the head pins it. -/
def cutTail (head : DraftDirectoryHistoryHeadV3) (offset : Nat) (tail : List Byte) :
    Storing Byte Unit :=
  if tail = [] then return ()
  else do
    check (rejectIf (maxDraftDirectoryHistoryLineBytes + 1 < tail.length)
      (invalidHistory "v3 directory history line exceeds its byte bound"))
    check (rejectIf (offset < head.journalByteLength)
      (invalidHistory "v3 directory history has a torn record inside its pinned prefix"))
    perform (setLength offset)
    -- the sync of the history
    perform .none

def recover : Storing Byte Unit := do
  let head := (← memory).head
  let history := (← get).disk.history
  check (rejectIf (maxDraftDirectoryHistoryBytes < history.length)
    (invalidHistory "v3 directory history exceeds its byte bound"))
  check (rejectIf (history.length < head.journalByteLength)
    (invalidHistory "v3 directory history is shorter than its pinned head"))
  let (lines, tail) := splitLines codec.newline history
  let recovery ← check (lines.foldlM (recoverRecord codec head) (Recovery.start head))
  cutTail head recovery.offset tail
  check (rejectIf (recovery.headMatched = false)
    (invalidHistory "v3 directory history cannot resolve its pinned head"))
  if recovery.derivedHead ≠ head then persistHead codec recovery.derivedHead
  remember fun _ =>
    { head := recovery.derivedHead
      current := recovery.current
      index := recovery.index
      poisoned := false }

/-! ## Reading back -/

/-- `read_exact` at an offset. -/
def readExact (history : List Byte) (location : DraftDirectoryHistoryLocationV3) :
    Fallible (List Byte) := do
  let bytes := (history.drop location.offset).take location.lineLength
  rejectIf (bytes.length ≠ location.lineLength) (invalidHistory "failed to fill whole buffer")
  return bytes

def DraftCellDirectoryHistoryStoreV3.resolveDocument (store : DraftCellDirectoryHistoryStoreV3)
    (history : List Byte) (directoryRevision : Nat) (documentHash : String) :
    Fallible CellDirectoryDocumentV3 := do
  let location ← demand (store.index.get? directoryRevision)
    (invalidHistory s!"v3 directory history has no revision {directoryRevision}")
  rejectIf (location.documentHash ≠ documentHash)
    (invalidHistory
      s!"v3 directory history revision {directoryRevision} has a different document hash")
  let bytes ← readExact history location
  let entry ← DraftDirectoryHistoryEntryV3.decodeCanonical codec bytes
  rejectIf (entry.document.directoryRevision ≠ directoryRevision
      ∨ entry.document.documentHash ≠ location.documentHash
      ∨ entry.entryHash ≠ location.entryHash)
    (invalidHistory "v3 directory history record changed after validated open")
  return entry.document

/-! ## Opening -/

def currentDocument (store : DraftCellDirectoryHistoryStoreV3) :
    Fallible CellDirectoryDocumentV3 :=
  demand store.current (invalidHistory "v3 directory history has no genesis document")

/-- `open`. -/
def openHistory (expectedUniverseId expectedManifestHash : String) : Storing Byte Unit := do
  match (← get).disk.head with
  | none => throw (.refused (invalidHistory "No such file or directory"))
  | some head =>
    check (head.validateIdentity expectedUniverseId expectedManifestHash)
    remember fun _ => .reading head
    recover codec
    let store ← memory
    let _ ← check (currentDocument store)
    return ()

/-- The head to begin with. -/
def initialHead (files : HistoryFiles Byte) (initial : CellDirectoryDocumentV3) :
    Fallible DraftDirectoryHistoryHeadV3 :=
  match files.head with
  | some head => do
    head.validateIdentity initial.universeId initial.universeManifestHash
    return head
  | none => do
    rejectIf (files.history ≠ [])
      (invalidHistory "v3 directory history has records but no durable head")
    return .empty initial

/-- A history is opened, after it was begun where there is none. -/
def openOrInitialize (initial : CellDirectoryDocumentV3) : Storing Byte Unit := do
  check (initial.validate codec.toDirectoryCodec)
  -- the directories, the lock file and an empty history
  perform .none
  let files := (← get).disk
  let head ← check (initialHead files initial)
  remember fun _ => .reading head
  if files.head = none then persistHead codec head
  recover codec
  let store ← memory
  match store.current with
  | none => appendDocument codec none none initial
  | some _ => do
    let differs : CellDirectoryError :=
      invalidHistory "v3 directory history genesis differs from initialization input"
    check (rejectIf (store.index.keys.head? ≠ some initial.directoryRevision) differs)
    let history := (← get).disk.history
    let genesis ← check (store.resolveDocument codec history initial.directoryRevision
      initial.documentHash)
    check (rejectIf (genesis ≠ initial) differs)

end Verse.DirectoryV3
