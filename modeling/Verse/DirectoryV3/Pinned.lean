import Verse.DirectoryV3.Lasting
import Verse.Lib.Chained

/-!
# What a head pins

A line of the history names the hash of the line before it, and its own hash covers the document
and that name. So the one hash in the head is the hash of all lines: two files that are opened
under heads of one entry hash hold the same lines, symbol for symbol (`histories_agree`), or two
of their lines hold different entries under one hash. Nothing is asked of the files but that they
open, whoever wrote them and wherever that was interrupted.
-/

namespace Verse.DirectoryV3

open Lib Directory DraftDirectoryHistoryEntryV3

variable {Byte : Type} [DecidableEq Byte] {codec : HistoryCodec Byte}
  {universeId universeManifestHash universeId' universeManifestHash' : String}
  {head head' : DraftDirectoryHistoryHeadV3} {recovery next : Recovery} {line : List Byte}
  {lines : List (List Byte)} {entry other : DraftDirectoryHistoryEntryV3}

theorem eq_of_sealed
    (hrest : ({ entry with entryHash := "" } : DraftDirectoryHistoryEntryV3)
      = { other with entryHash := "" })
    (hhash : entry.entryHash = other.entryHash) : entry = other := by
  obtain ⟨_, _, _, _⟩ := entry
  simp_all

/-- Two lines that hold different entries under one hash. -/
def LinesCollide (codec : HistoryCodec Byte) (line line' : List Byte) : Prop :=
  ∃ entry other, codec.decodeEntry line = some entry ∧ codec.decodeEntry line' = some other
    ∧ ({ entry with entryHash := "" } : DraftDirectoryHistoryEntryV3)
      ≠ { other with entryHash := "" }
    ∧ entry.calculateHash codec = other.calculateHash codec

/-- What a line that is read says of how far the reading was and is. -/
theorem entry_of_recoverRecord (h : recoverRecord codec head recovery line = .ok next) :
    ∃ entry, codec.decodeEntry line = some entry ∧ codec.encodeEntry entry = line
      ∧ (validBlake3Hex entry.entryHash = true ∧ entry.entryHash = entry.calculateHash codec)
      ∧ entry.previousEntryHash = recovery.priorEntryHash
      ∧ next.priorEntryHash = entry.entryHash ∧ next.derivedHead.entryHash = entry.entryHash := by
  simp only [recoverRecord, decodeCanonical, encodeCanonical, validateSelf,
    DraftDirectoryHistoryHeadV3.fromTip, bind_eq_ok, demand_eq_ok, rejectIf_eq_ok, pure_eq_ok,
    not_or, not_not, ne_eq] at h
  obtain ⟨_, -, entry, ⟨_, -, _, hdecoded, _, ⟨_, -, -, -, hhex, hhash⟩, _,
    ⟨_, -, _, -, rfl⟩, _, hencoded, rfl⟩, _, ⟨hprevious, -⟩, _, -, _, ⟨_, -, rfl⟩, _, -, _, -,
    rfl⟩ := h
  exact ⟨_, hdecoded, hencoded, ⟨hhex, hhash⟩, hprevious, rfl, rfl⟩

/-- A line settles the hash before it. -/
theorem chained_recoverRecord :
    ChainedLog (recoverRecord codec head) (recoverRecord codec head') Recovery.priorEntryHash
      Recovery.priorEntryHash fun _ line _ line' => LinesCollide codec line line' := by
  intro recovery next recovery' next' line line' hread hother hends
  obtain ⟨entry, hdecoded, hencoded, ⟨-, hhash⟩, hprevious, hprior, -⟩ :=
    entry_of_recoverRecord hread
  obtain ⟨other, hdecoded', hencoded', ⟨-, hhash'⟩, hprevious', hprior', -⟩ :=
    entry_of_recoverRecord hother
  have hsame : entry.entryHash = other.entryHash := hprior.symm.trans (hends.trans hprior')
  by_cases hrest : ({ entry with entryHash := "" } : DraftDirectoryHistoryEntryV3)
      = { other with entryHash := "" }
  · obtain rfl := eq_of_sealed hrest hsame
    exact .inl ⟨hencoded.symm.trans hencoded', hprevious.symm.trans hprevious'⟩
  · exact .inr ⟨entry, other, hdecoded, hdecoded', hrest, hhash.symm.trans (hsame.trans hhash')⟩

theorem priorEntryHash_ne_root (h : recoverRecord codec head recovery line = .ok next) :
    next.priorEntryHash ≠ "" := by
  obtain ⟨entry, -, -, ⟨hhex, -⟩, -, hprior, -⟩ := entry_of_recoverRecord h
  intro hroot
  rw [← hprior, hroot] at hhex
  exact absurd hhex (by decide)

/-- All lines are read, and the head in memory is the one that was derived from them. -/
def Reads (codec : HistoryCodec Byte) (lines : List (List Byte))
    (head : DraftDirectoryHistoryHeadV3) : Prop :=
  ∃ pinned recovery, runAll (recoverRecord codec pinned) (.start pinned) lines = .ok recovery
    ∧ recovery.derivedHead = head

/-- The head that is derived names the last line. -/
theorem priorEntryHash_of_run
    (hrun : runAll (recoverRecord codec head) (.start head) lines = .ok recovery) :
    recovery.derivedHead.entryHash = recovery.priorEntryHash := by
  refine preserved_of_run
    (P := fun recovery => recovery.derivedHead.entryHash = recovery.priorEntryHash) ?_ rfl hrun
  intro recovery line next _ hread
  obtain ⟨entry, -, -, -, -, hprior, hhead⟩ := entry_of_recoverRecord hread
  exact hhead.trans hprior.symm

/-- One entry hash is of one list of lines. -/
theorem Reads.eq_lines {lines'} (h : Reads codec lines head) (h' : Reads codec lines' head')
    (hsame : head.entryHash = head'.entryHash) :
    lines = lines' ∨ ∃ line ∈ lines, ∃ line' ∈ lines', LinesCollide codec line line' := by
  obtain ⟨pinned, recovery, hrun, rfl⟩ := h
  obtain ⟨pinned', recovery', hrun', rfl⟩ := h'
  rw [priorEntryHash_of_run hrun, priorEntryHash_of_run hrun'] at hsame
  rcases chained_recoverRecord.eq_of_runs priorEntryHash_ne_root priorEntryHash_ne_root hrun hrun'
    rfl rfl hsame with heq | hcollide
  · exact .inl heq
  · exact .inr hcollide.members

/-! ## Opening -/

/-- The lines of a file, without one that is not ended. -/
def endedLines (codec : HistoryCodec Byte) (files : HistoryFiles Byte) : List (List Byte) :=
  (splitLines codec.newline files.history).1

theorem triple_true {ε σ α : Type} {P : σ → Prop} {x : Program ε σ α} :
    Triple P x (fun _ _ => True) fun _ _ => True := by
  intro s _
  cases x s <;> trivial

theorem recover_reads :
    Triple (fun medium => endedLines codec medium.disk = lines) (recover codec)
      (fun _ medium => Reads codec lines medium.memory.head) fun _ _ => True := by
  unfold recover
  refine Triple.bind_memory fun store _ => Triple.bind_get fun found hlines => ?_
  refine Triple.bind triple_true fun _ => Triple.bind triple_true fun _ => ?_
  refine Triple.bind_check (fun _ _ _ _ => trivial) fun recovery hread => ?_
  have hreads : Reads codec lines recovery.derivedHead :=
    ⟨store.memory.head, recovery, hlines ▸ runAll_eq_foldlM.trans hread, rfl⟩
  -- cutting the tail and writing the head change nothing of what was read
  refine Triple.bind triple_true fun _ => Triple.bind triple_true fun _ => ?_
  exact Triple.only (fun _ => triple_true) (fun _ _ _ => trivial)
    (Triple.remember fun _ _ => hreads)

theorem openHistory_reads :
    Triple (fun medium => endedLines codec medium.disk = lines)
      (openHistory codec universeId universeManifestHash)
      (fun _ medium => Reads codec lines medium.memory.head) fun _ _ => True := by
  unfold openHistory
  refine Triple.bind_get fun found _ => ?_
  cases found.disk.head with
  | none => exact Triple.throw fun _ _ => trivial
  | some head =>
    refine Triple.bind_check (fun _ _ _ _ => trivial) fun _ _ => ?_
    refine Triple.bind (R := fun _ medium => endedLines codec medium.disk = lines)
      (Triple.remember fun _ hlines => hlines) fun _ => Triple.bind recover_reads fun _ => ?_
    refine Triple.bind_memory fun store _ => ?_
    exact Triple.bind_check (fun _ _ _ _ => trivial) fun _ _ => Triple.pure fun _ hreads => hreads

/-- Two histories that open under heads of one entry hash are the same lines. -/
theorem histories_agree {medium medium' opened opened' : HistoryMedium Byte}
    (hopen : openHistory codec universeId universeManifestHash medium = .ok () opened)
    (hopen' : openHistory codec universeId' universeManifestHash' medium' = .ok () opened')
    (hhead : opened.memory.head.entryHash = opened'.memory.head.entryHash) :
    endedLines codec medium.disk = endedLines codec medium'.disk
      ∨ ∃ line ∈ endedLines codec medium.disk, ∃ line' ∈ endedLines codec medium'.disk,
        LinesCollide codec line line' :=
  (openHistory_reads.ok rfl hopen).eq_lines (openHistory_reads.ok rfl hopen') hhead

/-- What a life of the proof universe has left opens under the head of its last document. -/
theorem opens_recovered {events : List HistoryEvent} {system : HistorySystem _}
    (hsystem : HistorySystem.unwritten.run proofHistoryCodec proofGenesis events = system)
    (hne : writtenDocuments proofHistoryCodec system.files ≠ []) :
    ∃ opened, openHistory proofHistoryCodec proofGenesis.universeId
        proofGenesis.universeManifestHash (system.files.unopened []) = .ok () opened
      ∧ opened.memory.head = headOf proofHistoryCodec proofGenesis.universeId
        proofGenesis.universeManifestHash (writtenDocuments proofHistoryCodec system.files) := by
  obtain ⟨documents, -, hsound⟩ := sound_run proofGenesis_founds events sound_unwritten
  rw [hsystem] at hsound
  obtain rfl := hsound.stands.written
  obtain ⟨opened, hopen, hlive⟩ := openHistory_ok proofGenesis_founds.fit hne hsound.stands
  exact ⟨opened, hopen, congrArg (·.head) hlive.store⟩

/-- The files before a crash and after it: a piece of a line more, and the same lines. -/
theorem histories_agree_torn :
    let whole := (HistorySystem.unwritten.run proofHistoryCodec proofGenesis recoveredOne).files
    let torn := (HistorySystem.unwritten.run proofHistoryCodec proofGenesis recoveredAndTorn).files
    whole.history ≠ torn.history
      ∧ (endedLines proofHistoryCodec whole = endedLines proofHistoryCodec torn
        ∨ ∃ line ∈ endedLines proofHistoryCodec whole, ∃ line' ∈ endedLines proofHistoryCodec torn,
          LinesCollide proofHistoryCodec line line') := by
  intro whole torn
  have hfiles : whole.history ≠ torn.history
      ∧ writtenDocuments proofHistoryCodec whole = writtenDocuments proofHistoryCodec torn
      ∧ (writtenDocuments proofHistoryCodec torn).length = 2 := by decide +kernel
  obtain ⟨hdiffer, hsame, hlength⟩ := hfiles
  have hne : writtenDocuments proofHistoryCodec torn ≠ [] := by
    intro hnone
    rw [hnone] at hlength
    cases hlength
  obtain ⟨opened, hopen, hhead⟩ := opens_recovered rfl (hsame ▸ hne)
  obtain ⟨opened', hopen', hhead'⟩ := opens_recovered rfl hne
  refine ⟨hdiffer, histories_agree hopen hopen' ?_⟩
  rw [hhead, hhead', hsame]

end Verse.DirectoryV3
