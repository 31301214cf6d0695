import Verse.DirectoryV3.Acting
import Verse.DirectoryV3.Immovable

/-!
# The life of a history

`Sound` is what the files and the process have in common with some documents at every moment of
a life of the history, however often it was interrupted. Every event keeps the documents, or
commits one after them (`sound_step`), so along a life they only ever grow (`sound_run`).

`history_is_durable` puts this in terms of the bytes on disk alone: the documents are those of
the lines that are ended, and opening the files finds these, under a head that names the last.
-/

namespace Verse.DirectoryV3

open Lib Directory Program

variable {Byte : Type} {codec : HistoryCodec Byte}
  {universeId manifestHash : String} {documents : List CellDirectoryDocumentV3}
  {genesis : CellDirectoryDocumentV3} {files : HistoryFiles Byte}

/-! ## What is found -/

/-- The head names the last line that is ended, and nothing comes after it. -/
structure NamesLast [DecidableEq Byte] (codec : HistoryCodec Byte)
    (head : DraftDirectoryHistoryHeadV3) (history : List Byte) : Prop where
  line : ∃ line ∈ (splitLines codec.newline history).1.getLast?, ∃ entry,
    DraftDirectoryHistoryEntryV3.decodeCanonical codec line = .ok entry
      ∧ head.directoryRevision = entry.document.directoryRevision
      ∧ head.documentHash = entry.document.documentHash ∧ head.entryHash = entry.entryHash
  entryCount : head.entryCount = (splitLines codec.newline history).1.length
  journalByteLength : head.journalByteLength = history.length

/-- What a process has that has opened the files of these documents. -/
structure Reopened [DecidableEq Byte] (codec : HistoryCodec Byte)
    (documents : List CellDirectoryDocumentV3) (medium : HistoryMedium Byte) : Prop where
  current : medium.memory.current = documents.getLast?
  certain : medium.memory.poisoned = false
  written : writtenDocuments codec medium.disk = documents
  head : medium.disk.head = some medium.memory.head
  named : NamesLast codec medium.memory.head medium.disk.history
  resolved : ∀ document ∈ documents, medium.memory.resolveDocument codec medium.disk.history
    document.directoryRevision document.documentHash = .ok document

variable {medium : HistoryMedium Byte}

theorem Live.written [DecidableEq Byte]
    (h : Live codec universeId manifestHash documents medium) :
    writtenDocuments codec medium.disk = documents :=
  h.recorded.writtenDocuments_eq (h.history.trans (List.append_nil _).symm) (by simp)

theorem namesLast_headOf [DecidableEq Byte]
    (h : Recorded codec universeId manifestHash documents)
    (hdocuments : documents ≠ []) :
    NamesLast codec (headOf codec universeId manifestHash documents)
      (bytesOf codec documents) := by
  have hlines : splitLines codec.newline (bytesOf codec documents) =
      (linesOf codec documents, []) := by
    rw [← List.append_nil (bytesOf codec documents)]
    exact splitLines_bytesOf (by simp)
  constructor
  · obtain ⟨before, last, rfl⟩ := (List.eq_nil_or_concat documents).resolve_left hdocuments
    rw [List.concat_eq_append] at h hlines ⊢
    obtain ⟨hvalid, hline⟩ := h.last_line
    refine ⟨codec.encodeEntry (nextEntry codec before last), ?_, _,
      decodeCanonical_nextEntry hvalid hline, ?_⟩
    · rw [hlines, linesOf_concat, List.getLast?_concat]
      rfl
    · simp only [headOf, List.getLast?_concat, lastEntryHash_concat, nextEntry_document, and_self]
  · rw [hlines, headOf_entryCount, linesOf, List.length_map, length_entriesOf]
  · rw [headOf_journalByteLength]

theorem Live.reopened [DecidableEq Byte]
    (h : Live codec universeId manifestHash documents medium) (hdocuments : documents ≠ []) :
    Reopened codec documents medium where
  current := by rw [h.store]; rfl
  certain := by rw [h.store]; rfl
  written := h.written
  head := by rw [h.head, h.store]; rfl
  named := by
    rw [h.store, h.history]
    exact namesLast_headOf h.recorded hdocuments
  resolved := by
    intro document hmem
    obtain ⟨before, after, rfl⟩ := List.append_of_mem hmem
    have hpre : before ++ [document] <+: before ++ document :: after :=
      ⟨after, by rw [List.append_assoc, List.singleton_append]⟩
    rw [h.store, h.history, ← List.append_nil (bytesOf codec _)]
    exact resolve_of_isPrefix h.recorded hpre rfl

/-! ## At every moment -/

/-- What a universe is founded on: its genesis document is valid, it may begin a history, and
    its heads can be written. -/
structure Founds (codec : HistoryCodec Byte) (genesis : CellDirectoryDocumentV3) : Prop where
  valid : genesis.validate codec.toDirectoryCodec = .ok ()
  begins : MayBegin genesis
  fit : HeadsFit codec genesis.universeId genesis.universeManifestHash

/-- What the files are, and what the process that has them open knows about them. -/
structure Sound (codec : HistoryCodec Byte) (genesis : CellDirectoryDocumentV3)
    (documents : List CellDirectoryDocumentV3) (system : HistorySystem Byte) : Prop where
  stands : Stands codec genesis.universeId genesis.universeManifestHash documents system.files
  first : ∀ first ∈ documents.head?, first = genesis
  process : ∀ store ∈ system.process, documents ≠ [] ∧ (store.poisoned = false →
    ∀ outcomes, Live codec genesis.universeId genesis.universeManifestHash documents
      { disk := system.files, memory := store, outcomes })

theorem Stands.written [DecidableEq Byte]
    (h : Stands codec universeId manifestHash documents files) :
    writtenDocuments codec files = documents := by
  rcases h with h | ⟨rfl, hhistory, -⟩
  · obtain ⟨tail, hhistory, htail, -⟩ := h.history
    exact h.recorded.writtenDocuments_eq hhistory htail
  · rw [writtenDocuments, hhistory]
    rfl

/-- The document an event commits after those that were written. -/
def Commits (codec : HistoryCodec Byte) (genesis : CellDirectoryDocumentV3)
    (documents : List CellDirectoryDocumentV3) :
    HistoryEvent → CellDirectoryDocumentV3 → Prop
  | .stageGenesis _, next => documents = [] ∧ next = genesis
  | .act op _, next => ∃ history history' : DirectoryHistory, history.documents = documents
    ∧ history.step codec.toDirectoryCodec op = .ok history'
    ∧ history'.documents = documents ++ [next]
  | .reopen _, _ | .quit, _ => False

theorem sound_unwritten : Sound codec genesis [] (HistorySystem.unwritten : HistorySystem Byte) where
  stands := .inr ⟨rfl, rfl, rfl⟩
  first := by simp
  process := by simp [HistorySystem.unwritten]

/-! ## One event -/

variable {documents' : List CellDirectoryDocumentV3}

theorem Begun.grown {outcomes} (h : Begun genesis documents documents') :
    Grown documents (Commits codec genesis documents (.stageGenesis outcomes)) documents' := by
  rcases h with rfl | ⟨rfl, rfl⟩
  · exact .inl rfl
  · exact .inr ⟨genesis, ⟨rfl, rfl⟩, rfl⟩

theorem Live.anyOutcomes (outcomes : List Outcome)
    (h : Live codec universeId manifestHash documents medium) :
    Live codec universeId manifestHash documents { medium with outcomes } :=
  { h with }

theorem Live.sound (h : Live codec genesis.universeId genesis.universeManifestHash documents medium)
    (hdocuments : documents ≠ []) (hfirst : ∀ first ∈ documents.head?, first = genesis) :
    Sound codec genesis documents { files := medium.disk, process := some medium.memory } where
  stands := .inl h.onDisk
  first := hfirst
  process := by
    intro store hstore
    obtain rfl := Option.some.inj hstore
    exact ⟨hdocuments, fun _ outcomes => h.anyOutcomes outcomes⟩

theorem Stands.sound
    (h : Stands codec genesis.universeId genesis.universeManifestHash documents files)
    (hfirst : ∀ first ∈ documents.head?, first = genesis) :
    Sound codec genesis documents { files, process := none } where
  stands := h
  first := hfirst
  process := by simp

theorem first_of_begun (h : Begun genesis documents documents')
    (hfirst : ∀ first ∈ documents.head?, first = genesis) :
    ∀ first ∈ documents'.head?, first = genesis := by
  rcases h with rfl | ⟨-, rfl⟩
  · exact hfirst
  · exact fun first hmem => (Option.some.inj hmem).symm

theorem sound_initialize [DecidableEq Byte]
    (hfounds : Founds codec genesis) (outcomes : List Outcome)
    (hstands : Stands codec genesis.universeId genesis.universeManifestHash documents files)
    (hfirst : ∀ first ∈ documents.head?, first = genesis) :
    ∃ documents', Begun genesis documents documents'
      ∧ Sound codec genesis documents'
          (HistorySystem.start (openOrInitialize codec genesis) files outcomes) := by
  have hrun := openOrInitialize_triple hfounds.fit hfounds.valid hfounds.begins hfirst
    (files.unopened outcomes) hstands
  unfold HistorySystem.start
  cases hopen : openOrInitialize codec genesis (files.unopened outcomes) with
  | ok _ medium =>
    rw [hopen] at hrun
    obtain ⟨documents', hbegun, hne, hlive⟩ := hrun
    exact ⟨documents', hbegun, hlive.sound hne (first_of_begun hbegun hfirst)⟩
  | error e medium =>
    rw [hopen] at hrun
    obtain ⟨⟨documents', hbegun, hstands'⟩, -⟩ := hrun
    exact ⟨documents', hbegun, hstands'.sound (first_of_begun hbegun hfirst)⟩

theorem sound_reopen [DecidableEq Byte] (hfounds : Founds codec genesis) (outcomes : List Outcome)
    (hstands : Stands codec genesis.universeId genesis.universeManifestHash documents files)
    (hfirst : ∀ first ∈ documents.head?, first = genesis) :
    Sound codec genesis documents
      (HistorySystem.start (openHistory codec genesis.universeId genesis.universeManifestHash)
        files outcomes) := by
  have hrun := openHistory_triple hfounds.fit (files.unopened outcomes) hstands
  unfold HistorySystem.start
  cases hopen : openHistory codec genesis.universeId genesis.universeManifestHash
    (files.unopened outcomes) with
  | ok _ medium =>
    rw [hopen] at hrun
    exact hrun.2.sound hrun.1 hfirst
  | error e medium =>
    rw [hopen] at hrun
    exact hrun.1.sound hfirst

/-- What an operation that a live store ends well has done, and what one does that is stopped. -/
structure ActsOn [DecidableEq Byte] (codec : HistoryCodec Byte)
    (documents : List CellDirectoryDocumentV3) (files : HistoryFiles Byte) (store : DraftCellDirectoryHistoryStoreV3) (op : DirectoryV3Op)
    (outcomes : List Outcome) : Prop where
  committed : ∀ medium, actOnDisk codec op { disk := files, memory := store, outcomes } =
      .ok () medium → ∃ history history' : DirectoryHistory, history.documents = documents
    ∧ history.step codec.toDirectoryCodec op = .ok history'
    ∧ writtenDocuments codec medium.disk = history'.documents
  refused : ∀ reason medium, actOnDisk codec op { disk := files, memory := store, outcomes } =
      .error (.refused reason) medium → medium.memory = store
    ∧ writtenDocuments codec medium.disk = documents
    ∧ ∀ history : DirectoryHistory, history.documents = documents →
        history.step codec.toDirectoryCodec op = .error reason
          ∨ ∃ next, Oversized codec documents next reason
  failed : ∀ medium, actOnDisk codec op { disk := files, memory := store, outcomes } =
      .error .failed medium → medium.memory.poisoned = true

theorem exists_history (hdocuments : documents ≠ []) :
    ∃ history : DirectoryHistory, history.documents = documents := by
  obtain ⟨before, last, rfl⟩ := (List.eq_nil_or_concat documents).resolve_left hdocuments
  exact ⟨{ earlier := before, current := last }, List.concat_eq_append.symm⟩

variable {store : DraftCellDirectoryHistoryStoreV3}

theorem actsOn_of_live [DecidableEq Byte] (hfit : HeadsFit codec universeId manifestHash)
    (hdocuments : documents ≠ [])
    (op : DirectoryV3Op) (outcomes : List Outcome)
    (hlive : Live codec universeId manifestHash documents
      { disk := files, memory := store, outcomes }) :
    ActsOn codec documents files store op outcomes := by
  have hacts : ∀ history : DirectoryHistory, history.documents = documents →
      Does codec universeId manifestHash history
        (history.step codec.toDirectoryCodec op) (actOnDisk codec op) :=
    fun history _ => does_actOnDisk hfit op
  obtain ⟨history, rfl⟩ := exists_history hdocuments
  constructor
  · intro medium hrun
    obtain ⟨history', hstep, hlive'⟩ := (hacts history rfl).ok hlive hrun
    exact ⟨history, history', rfl, hstep, hlive'.written⟩
  · intro reason medium hrun
    obtain ⟨-, hlive'⟩ := (hacts history rfl).error hlive hrun
    refine ⟨hlive'.store.trans hlive.store.symm, hlive'.written, fun other hother => ?_⟩
    obtain ⟨hrefused, -⟩ := (hacts other hother).error (hother ▸ hlive) hrun
    rwa [hother] at hrefused
  · intro medium hrun
    exact ((hacts history rfl).error hlive hrun).1

theorem grown_of_step (genesis : CellDirectoryDocumentV3) (outcomes : List Outcome)
    {history history' : DirectoryHistory} {op}
    (h : Recorded codec universeId manifestHash history.documents)
    (hstep : history.step codec.toDirectoryCodec op = .ok history') :
    Grown history.documents (Commits codec genesis history.documents (.act op outcomes))
      history'.documents := by
  obtain ⟨hvalid, -⟩ := h.last List.getLast?_concat
  cases step_cases (validate_eq_ok.mp hvalid) hstep with
  | unchanged => exact .inl rfl
  | @appended next _ _ => exact .inr ⟨next, ⟨history, _, rfl, hstep, rfl⟩, rfl⟩

theorem first_of_grown {R : CellDirectoryDocumentV3 → Prop}
    (h : Grown documents R documents')
    (hdocuments : documents ≠ []) (hfirst : ∀ first ∈ documents.head?, first = genesis) :
    documents' ≠ [] ∧ ∀ first ∈ documents'.head?, first = genesis := by
  rcases h with rfl | ⟨next, -, rfl⟩
  · exact ⟨hdocuments, hfirst⟩
  · refine ⟨by simp, fun first hmem => hfirst first ?_⟩
    rwa [List.head?_append_of_ne_nil _ hdocuments] at hmem

theorem OnDisk.sound_of_poisoned
    (h : OnDisk codec genesis.universeId genesis.universeManifestHash documents files)
    (hdocuments : documents ≠ []) (hfirst : ∀ first ∈ documents.head?, first = genesis)
    (hpoisoned : store.poisoned = true) :
    Sound codec genesis documents { files, process := some store } where
  stands := .inl h
  first := hfirst
  process := by
    intro store' hstore
    obtain rfl := Option.some.inj hstore
    exact ⟨hdocuments, fun hsure => absurd (hpoisoned.symm.trans hsure) (by simp)⟩

theorem sound_go [DecidableEq Byte] (hfounds : Founds codec genesis) (hdocuments : documents ≠ [])
    (hfirst : ∀ first ∈ documents.head?, first = genesis)
    (op : DirectoryV3Op) (outcomes : List Outcome)
    (hlive : Live codec genesis.universeId genesis.universeManifestHash documents
      { disk := files, memory := store, outcomes }) :
    ∃ documents', Grown documents (Commits codec genesis documents (.act op outcomes)) documents'
      ∧ Sound codec genesis documents'
          (HistorySystem.go (actOnDisk codec op) files store outcomes) := by
  obtain ⟨history, rfl⟩ := exists_history hdocuments
  have hrun := does_actOnDisk hfounds.fit op _ hlive
  unfold HistorySystem.go
  cases hact : actOnDisk codec op { disk := files, memory := store, outcomes } with
  | ok _ medium =>
    rw [hact] at hrun
    obtain ⟨history', hstep, hlive'⟩ := hrun
    have hgrown := grown_of_step genesis outcomes hlive.recorded hstep
    obtain ⟨hne, hfirst'⟩ := first_of_grown hgrown hdocuments hfirst
    exact ⟨_, hgrown, hlive'.sound hne hfirst'⟩
  | error e medium =>
    rw [hact] at hrun
    cases e with
    | refused reason => exact ⟨_, .inl rfl, hrun.2.sound hdocuments hfirst⟩
    | failed =>
      obtain ⟨hpoisoned, documents', hgrown, hdisk⟩ := hrun
      obtain ⟨hne, hfirst'⟩ := first_of_grown hgrown hdocuments hfirst
      exact ⟨documents', hgrown.mono fun next ⟨history', hstep, hnext⟩ =>
        ⟨history, history', rfl, hstep, hnext⟩, hdisk.sound_of_poisoned hne hfirst' hpoisoned⟩
    | crashed =>
      obtain ⟨documents', hgrown, hdisk⟩ := hrun
      obtain ⟨-, hfirst'⟩ := first_of_grown hgrown hdocuments hfirst
      exact ⟨documents', hgrown.mono fun next ⟨history', hstep, hnext⟩ =>
        ⟨history, history', rfl, hstep, hnext⟩, Stands.sound (.inl hdisk) hfirst'⟩

theorem go_of_poisoned [DecidableEq Byte] (hpoisoned : store.poisoned = true)
    (op : DirectoryV3Op) (outcomes : List Outcome) :
    HistorySystem.go (actOnDisk codec op) files store outcomes =
      { files, process := some store } := by
  have hidle : Refusing (fun medium => medium.disk = files ∧ medium.memory = store)
      (actOnDisk codec op) :=
    refusing_actOnDisk (fun medium hmedium => hmedium.2 ▸ hpoisoned) op
  have hrun := hidle { disk := files, memory := store, outcomes } ⟨rfl, rfl⟩
  unfold HistorySystem.go
  cases hact : actOnDisk codec op { disk := files, memory := store, outcomes } with
  | ok _ medium =>
    rw [hact] at hrun
    obtain ⟨rfl, rfl⟩ := hrun
    rfl
  | error e medium =>
    rw [hact] at hrun
    obtain ⟨⟨rfl, rfl⟩, reason, rfl⟩ := hrun
    rfl

theorem sound_step [DecidableEq Byte] (hfounds : Founds codec genesis) {system}
    (h : Sound codec genesis documents system) (event : HistoryEvent) :
    ∃ documents', Grown documents (Commits codec genesis documents event) documents'
      ∧ Sound codec genesis documents' (system.step codec genesis event) := by
  have hsame : Sound codec genesis documents system →
      ∃ documents', Grown documents (Commits codec genesis documents event) documents'
        ∧ Sound codec genesis documents' system := fun h => ⟨documents, .inl rfl, h⟩
  cases event with
  | stageGenesis outcomes =>
    rw [HistorySystem.step]
    cases hprocess : system.process with
    | some store => exact hsame h
    | none =>
      obtain ⟨documents', hbegun, hsound⟩ := sound_initialize hfounds outcomes h.stands h.first
      exact ⟨documents', hbegun.grown, hsound⟩
  | reopen outcomes =>
    rw [HistorySystem.step]
    cases hprocess : system.process with
    | some store => exact hsame h
    | none => exact ⟨documents, .inl rfl, sound_reopen hfounds outcomes h.stands h.first⟩
  | act op outcomes =>
    rw [HistorySystem.step]
    cases hprocess : system.process with
    | none => exact hsame h
    | some store =>
      obtain ⟨hdocuments, hlive⟩ := h.process store hprocess
      cases hpoisoned : store.poisoned with
      | false => exact sound_go hfounds hdocuments h.first op outcomes (hlive hpoisoned outcomes)
      | true =>
        refine ⟨documents, .inl rfl, ?_⟩
        show Sound codec genesis documents (HistorySystem.go _ _ _ _)
        rw [go_of_poisoned hpoisoned, ← hprocess]
        exact h
  | quit => exact ⟨documents, .inl rfl, h.stands.sound h.first⟩

/-! ## A life -/

theorem sound_run [DecidableEq Byte]
    (hfounds : Founds codec genesis) (events : List HistoryEvent) {system}
    (h : Sound codec genesis documents system) :
    ∃ documents', documents <+: documents'
      ∧ Sound codec genesis documents' (system.run codec genesis events) := by
  induction events generalizing documents system with
  | nil => exact ⟨documents, List.prefix_rfl, h⟩
  | cons event events ih =>
    obtain ⟨between, hgrown, hbetween⟩ := sound_step hfounds h event
    obtain ⟨documents', hpre, hsound⟩ := ih hbetween
    refine ⟨documents', .trans ?_ hpre, hsound⟩
    rcases hgrown with rfl | ⟨next, -, rfl⟩
    · exact List.prefix_rfl
    · exact List.prefix_append _ _

variable [DecidableEq Byte]

/-- Whatever a history has been through, and wherever that was interrupted: the documents whose
    lines are ended are kept in their order for ever after, opening the files finds all of them
    again under a head that names the last, every document is the one that an operation of the
    directory commits after those before it, and a process in which a write failed does not
    write again. -/
theorem history_is_durable (hfounds : Founds codec genesis) (events : List HistoryEvent) :
    let system := HistorySystem.unwritten.run codec genesis events
    let written := writtenDocuments codec system.files
    (written ≠ [] → ∃ medium,
        openHistory codec genesis.universeId genesis.universeManifestHash
          (system.files.unopened []) = .ok () medium ∧ Reopened codec written medium)
      ∧ ((∀ reason, ¬ Oversized codec [] genesis reason) → ∃ medium,
        openOrInitialize codec genesis (system.files.unopened []) = .ok () medium
          ∧ ∃ documents, Begun genesis written documents ∧ documents ≠ []
            ∧ Reopened codec documents medium)
      ∧ (∀ first ∈ written.head?, first = genesis)
      ∧ (∀ event, Grown written (Commits codec genesis written event)
          (writtenDocuments codec (system.step codec genesis event).files))
      ∧ (∀ later, written <+: writtenDocuments codec (system.run codec genesis later).files)
      ∧ ∀ store ∈ system.process, ∀ op outcomes,
          (store.poisoned = false → ActsOn codec written system.files store op outcomes)
            ∧ (store.poisoned = true → system.step codec genesis (.act op outcomes) = system) := by
  intro system written
  have hbegin : Sound codec genesis [] (HistorySystem.unwritten : HistorySystem Byte) :=
    sound_unwritten
  obtain ⟨documents, -, hsound⟩ := sound_run hfounds events hbegin
  obtain rfl : written = documents := hsound.stands.written
  refine ⟨fun hne => ?_, fun hsize => ?_, hsound.first, fun event => ?_, fun later => ?_, ?_⟩
  · obtain ⟨medium, hopen, hlive⟩ := openHistory_ok hfounds.fit hne hsound.stands
    exact ⟨medium, hopen, hlive.reopened hne⟩
  · obtain ⟨medium, hopen, documents, hbegun, hne, hlive⟩ := openOrInitialize_ok hfounds.fit
      hfounds.valid hfounds.begins hsound.first hsize hsound.stands
    exact ⟨medium, hopen, documents, hbegun, hne, hlive.reopened hne⟩
  · obtain ⟨documents', hgrown, hsound'⟩ := sound_step hfounds hsound event
    rwa [hsound'.stands.written]
  · obtain ⟨documents', hpre, hsound'⟩ := sound_run hfounds later hsound
    rwa [hsound'.stands.written]
  · intro store hstore op outcomes
    obtain ⟨hne, hlive⟩ := hsound.process store hstore
    refine ⟨fun hsure => actsOn_of_live hfounds.fit hne op outcomes (hlive hsure outcomes),
      fun hpoisoned => ?_⟩
    have hprocess : system.process = some store := hstore
    rw [HistorySystem.step, hprocess]
    show HistorySystem.go _ _ _ _ = _
    rw [go_of_poisoned hpoisoned, ← hprocess]

/-- An alphabet of entries, each a line of its own, and the end of a line. -/
def proofHistoryCodec : HistoryCodec (Option DraftDirectoryHistoryEntryV3) :=
  { proofCodec with
    newline := none
    entryHash := fun _ => zeroHash
    entryHash_hex := fun _ => by decide
    encodeEntry := fun entry => [some entry]
    decodeEntry := fun line => line.head?.join
    decode_encode := fun _ => rfl
    encode_ne_nil := fun _ => by simp
    newline_not_mem := fun _ => by simp
    headLength := fun _ => 1 }

theorem proofGenesis_founds : Founds proofHistoryCodec proofGenesis :=
  ⟨proofGenesis_isGenesis.valid, ⟨by decide, by simp [proofGenesis]⟩, by decide +kernel,
    fun _ _ _ _ _ => ⟨Nat.one_pos, show 1 ≤ maxDraftDirectoryHistoryHeadBytes by decide⟩⟩

/-- The proof universe is begun, and its first cell is recovered. -/
def recoveredOne : List HistoryEvent :=
  [.stageGenesis [], .act (.recover (proofCell false).1 1 "worker-1") []]

/-- The process crashes in the line of the other cell's recovery. -/
def recoveredAndTorn : List HistoryEvent :=
  recoveredOne ++ [.act (.recover (proofCell true).1 1 "worker-2") [.crashed 1]]

/-- The crash leaves a piece of a line, and the history opens with the two documents before it. -/
theorem history_is_durable_torn :
    let system := HistorySystem.unwritten.run proofHistoryCodec proofGenesis recoveredAndTorn
    let written := writtenDocuments proofHistoryCodec system.files
    system.process = none ∧ (splitLines none system.files.history).2 ≠ []
      ∧ written.map CellDirectoryDocumentV3.directoryRevision = [1, 2]
      ∧ ∃ medium, openHistory proofHistoryCodec proofGenesis.universeId
          proofGenesis.universeManifestHash (system.files.unopened []) = .ok () medium
        ∧ Reopened proofHistoryCodec written medium := by
  intro system written
  have hlife : (system.process = none ∧ (splitLines none system.files.history).2 ≠ [])
      ∧ written.map CellDirectoryDocumentV3.directoryRevision = [1, 2] := by decide +kernel
  obtain ⟨⟨hcrashed, htorn⟩, hrevisions⟩ := hlife
  have hne : written ≠ [] := by
    intro hnone
    rw [hnone] at hrevisions
    cases hrevisions
  exact ⟨hcrashed, htorn, hrevisions,
    (history_is_durable proofGenesis_founds recoveredAndTorn).1 hne⟩

end Verse.DirectoryV3
