import Verse.Directory.Retry
import Verse.Lib.Medium

/-!
# Committing to the disk

`commit_document` writes the next document to a temporary file, renames that to the directory's
file, waits for both, and only then remembers the document. Any of these steps may fail. Until
the rename nothing has happened to the directory's file, so an error leaves the old document on
the disk and in memory. From the rename on the file holds the next document, but an error is
still reported as if nothing had happened, and the process keeps the old one: its memory lags
behind its disk (`committed_iff`).

The steps of `write_json_atomic` are numbered in the order it takes them, from zero.
-/

namespace Verse.Directory

open Lib

/-- What a file holds: a document, or nothing that can be read as one. -/
abbrev Content := Option CellDirectoryDocument

/-- The file of the directory, and the temporary ones beside it. -/
structure DirectoryFiles where
  directory : Content
  temps : OrdMap Nat Content

/-- A temporary name that is not in use. -/
def DirectoryFiles.freshTemp (files : DirectoryFiles) : Nat := files.temps.keys.foldr max 0 + 1

/-- The files of a directory, and the document in memory. -/
abbrev DirectoryMedium := Medium DirectoryFiles CellDirectoryDocument

abbrev Committing (α : Type) := MediumProgram CellDirectoryError DirectoryFiles CellDirectoryDocument α

/-! ## The steps -/

def createTemp (temp : Nat) : Effect DirectoryFiles :=
  .atomic fun files => { files with temps := files.temps.insert temp none }

/-- A document that is not all written cannot be read. -/
def writeTemp (temp : Nat) (document : CellDirectoryDocument) : Effect DirectoryFiles :=
  .atomic fun files => { files with temps := files.temps.insert temp (some document) }

def renameTemp (temp : Nat) : Effect DirectoryFiles :=
  .atomic fun files =>
    match files.temps.get? temp with
    | none => files
    | some content => { directory := content, temps := files.temps.erase temp }

def removeTemp (temp : Nat) : Effect DirectoryFiles :=
  .atomic fun files => { files with temps := files.temps.erase temp }

/-- What `write_json_atomic` does: it creates a temporary file, writes it, waits for it, renames
    it, opens the directory it is in and waits for that. -/
def writeSteps (temp : Nat) (document : CellDirectoryDocument) : List (Effect DirectoryFiles) :=
  [createTemp temp, writeTemp temp document, .none, renameTemp temp, .none, .none]

/-- `write_json_atomic`. -/
def writeJsonAtomic (document : CellDirectoryDocument) : Committing Unit := do
  let temp := (← get).disk.freshTemp
  onFailure (perform (removeTemp temp)) (performAll (writeSteps temp document))

/-- An operation of the directory. What it finds on record it answers with at once; anything else
    it commits, and its answer is worth that of `commit_document`. -/
def execute (ids : CellIds) (op : DirectoryOp) : Committing DirectoryRecord := do
  let document ← memory
  let (next, record) ← check (respond ids document op)
  if next = document then return record
  else do
    writeJsonAtomic next
    remember fun _ => next
    return record

/-! ## What the file holds -/

section Steps

variable {temp step part : Nat} {document : CellDirectoryDocument} {files : DirectoryFiles}

/-- The step is taken when the directory's file already holds the new document. -/
def Renamed (step part : Nat) : Prop := step = 3 ∧ part ≠ 0 ∨ 3 < step

instance (step part : Nat) : Decidable (Renamed step part) := by
  unfold Renamed
  infer_instance

theorem renameTemp_written {temps : OrdMap Nat Content}
    (h : files.temps = temps.insert temp (some document)) :
    (renameTemp temp .none files).directory = some document := by
  show (match files.temps.get? temp with
    | none => files
    | some content => { directory := content, temps := files.temps.erase temp }).directory = _
  rw [h, OrdMap.get?_insert_self]

theorem all_writeSteps :
    (Effect.all (writeSteps temp document) files).directory = some document :=
  renameTemp_written rfl

theorem upTo_writeSteps (hstep : step < 6) :
    (Effect.upTo (writeSteps temp document) step part files).directory
      = if Renamed step part then some document else files.directory := by
  match step, hstep with
  | 0, _ => cases part <;> rfl
  | 1, _ => cases part <;> rfl
  | 2, _ => rfl
  | 3, _ =>
    cases part with
    | zero => rfl
    | succ part =>
      rw [if_pos (.inl ⟨rfl, Nat.succ_ne_zero part⟩)]
      exact renameTemp_written rfl
  | 4, _ =>
    rw [if_pos (.inr (by omega))]
    exact renameTemp_written rfl
  | 5, _ =>
    rw [if_pos (.inr (by omega))]
    exact renameTemp_written rfl

theorem removeTemp_directory {part} :
    (removeTemp temp part files).directory = files.directory := by
  unfold removeTemp
  rcases Effect.atomic_cases
    (fun files : DirectoryFiles => { files with temps := files.temps.erase temp }) part files
    with h | h
  · rw [h]
  · rw [h]

end Steps

/-! ## Failures -/

/-- A step fails when the directory's file already has its new document, and the process lives to
    report it. -/
def FailsRenamed (outcomes : List Outcome) : Prop :=
  ∃ step part, fault 6 outcomes = some (step, .failed part) ∧ Renamed step part
    ∧ ∀ p, outcomes[step + 1]? ≠ some (.crashed p)

section Writing

variable {medium : DirectoryMedium}
  {document : CellDirectoryDocument}

theorem writeJsonAtomic_eq : writeJsonAtomic document medium
    = onFailure (perform (removeTemp medium.disk.freshTemp))
        (performAll (writeSteps medium.disk.freshTemp document)) medium := rfl

/-- How a write that is not stopped ends. -/
theorem writeJsonAtomic_made (h : fault 6 medium.outcomes = none) :
    ∃ after, writeJsonAtomic document medium = .ok () after ∧ after.memory = medium.memory
      ∧ after.disk.directory = some document := by
  obtain ⟨rest, hrun⟩ : ∃ rest, (performAll (writeSteps medium.disk.freshTemp document)
      : Committing Unit) medium = .ok () { medium with
        disk := Effect.all (writeSteps medium.disk.freshTemp document) medium.disk
        outcomes := rest } := performAll_made h
  rw [writeJsonAtomic_eq, onFailure, hrun]
  exact ⟨_, rfl, rfl, all_writeSteps⟩

theorem writeJsonAtomic_crashed {step part : Nat}
    (h : fault 6 medium.outcomes = some (step, .crashed part)) :
    ∃ after, writeJsonAtomic document medium = .error .crashed after := by
  have hrun : (performAll (writeSteps medium.disk.freshTemp document) : Committing Unit) medium
      = .error .crashed _ := performAll_stopped h (.inr ⟨rfl, rfl⟩)
  rw [writeJsonAtomic_eq, onFailure, hrun]
  exact ⟨_, rfl⟩

/-- How a write that is stopped ends: the temporary file is removed if it can be, and the
    directory's file holds what it held when the step failed. -/
theorem writeJsonAtomic_failed {step part : Nat}
    (h : fault 6 medium.outcomes = some (step, .failed part)) :
    (∃ p after, medium.outcomes[step + 1]? = some (.crashed p)
        ∧ writeJsonAtomic document medium = .error .crashed after)
      ∨ (∀ p, medium.outcomes[step + 1]? ≠ some (.crashed p))
        ∧ ∃ after, writeJsonAtomic document medium = .error .failed after
          ∧ after.memory = medium.memory
          ∧ after.disk.directory
            = if Renamed step part then some document else medium.disk.directory := by
  have hrun : (performAll (writeSteps medium.disk.freshTemp document) : Committing Unit) medium
      = .error .failed { medium with
          disk := Effect.upTo (writeSteps medium.disk.freshTemp document) step part medium.disk
          outcomes := medium.outcomes.drop (step + 1) } :=
    performAll_stopped h (.inl ⟨rfl, rfl⟩)
  have hnext : medium.outcomes[step + 1]? = (medium.outcomes.drop (step + 1)).head? := by
    rw [List.head?_drop]
  rw [writeJsonAtomic_eq, onFailure, hrun, hnext]
  cases medium.outcomes.drop (step + 1) with
  | nil =>
    refine .inr ⟨fun p hp => (by cases hp), _, rfl, rfl, ?_⟩
    exact removeTemp_directory.trans (upTo_writeSteps (fault_lt h))
  | cons outcome rest =>
    cases outcome with
    | made | failed p' =>
      refine .inr ⟨fun p hp => (by cases hp), _, rfl, rfl, ?_⟩
      exact removeTemp_directory.trans (upTo_writeSteps (fault_lt h))
    | crashed p => exact .inl ⟨p, _, rfl, rfl⟩

end Writing

/-! ## Operations -/

section Operations

variable {ids : CellIds} {op : DirectoryOp} {medium : DirectoryMedium}

/-- The operation has something to commit: it is accepted, and finds no earlier success. -/
def Commits (ids : CellIds) (document : CellDirectoryDocument) (op : DirectoryOp) : Prop :=
  ∃ next record, respond ids document op = .ok (next, record) ∧ next ≠ document

/-- The file and the memory hold the same document. -/
def Agree (medium : DirectoryMedium) : Prop := medium.disk.directory = some medium.memory

/-- The operation was committed or it was not: if it returns, the new document is on the disk and
    in memory, and if it fails, the old one is. -/
def Committed (ids : CellIds) (op : DirectoryOp) (medium : DirectoryMedium) : Prop :=
  match execute ids op medium with
  | .ok record after =>
    respond ids medium.memory op = .ok (after.memory, record)
      ∧ after.disk.directory = some after.memory
  | .error .crashed _ => True
  | .error _ after =>
    after.memory = medium.memory ∧ after.disk.directory = some medium.memory

/-- What is done with an answer. -/
def settle (document : CellDirectoryDocument) (answer : CellDirectoryDocument × DirectoryRecord) :
    Committing DirectoryRecord :=
  if answer.1 = document then return answer.2
  else do
    writeJsonAtomic answer.1
    remember fun _ => answer.1
    return answer.2

theorem execute_eq : execute ids op medium
    = (check (respond ids medium.memory op) >>= settle medium.memory) medium := rfl

theorem execute_refused {e} (h : respond ids medium.memory op = .error e) :
    execute ids op medium = .error (.refused e) medium := by
  rw [execute_eq, Program.run_bind, run_check_error h]

variable {answer : CellDirectoryDocument × DirectoryRecord}

theorem execute_accepted (h : respond ids medium.memory op = .ok answer) :
    execute ids op medium = settle medium.memory answer medium := by
  rw [execute_eq, Program.run_bind, run_check_ok h]

theorem settle_same
    (h : answer.1 = medium.memory) : settle medium.memory answer medium = .ok answer.2 medium := by
  rw [settle, if_pos h]
  rfl

theorem settle_ok {after} (h : answer.1 ≠ medium.memory)
    (hwrite : writeJsonAtomic answer.1 medium = .ok () after) :
    settle medium.memory answer medium = .ok answer.2 { after with memory := answer.1 } := by
  rw [settle, if_neg h, Program.run_bind, hwrite]
  rfl

theorem settle_error {after stop} (h : answer.1 ≠ medium.memory)
    (hwrite : writeJsonAtomic answer.1 medium = .error stop after) :
    settle medium.memory answer medium = .error stop after := by
  rw [settle, if_neg h, Program.run_bind, hwrite]

theorem Commits.of_ne {document} (h : respond ids document op = .ok answer)
    (hne : answer.1 ≠ document) :
    Commits ids document op := ⟨answer.1, answer.2, h, hne⟩

/-- A failure when the file already holds the new document: the error is passed on, and the old
    document kept in memory. -/
theorem execute_of_failsRenamed (hcommits : Commits ids medium.memory op)
    (hfails : FailsRenamed medium.outcomes) :
    ∃ after next, execute ids op medium = .error .failed after ∧ after.memory = medium.memory
      ∧ after.disk.directory = some next ∧ next ≠ medium.memory := by
  obtain ⟨next, record, hrespond, hne⟩ := hcommits
  obtain ⟨step, part, hfault, hrenamed, hlives⟩ := hfails
  rcases @writeJsonAtomic_failed medium next _ _ hfault with
    ⟨p, -, hp, -⟩ | ⟨-, after, hwrite, hmemory, hfile⟩
  · exact absurd hp (hlives p)
  · rw [if_pos hrenamed] at hfile
    refine ⟨after, next, ?_, hmemory, hfile, hne⟩
    rw [execute_accepted hrespond]
    exact settle_error hne hwrite

theorem committed_of_writing
    (hagree : Agree medium) (hrespond : respond ids medium.memory op = .ok answer)
    (hne : answer.1 ≠ medium.memory) (hfails : ¬ FailsRenamed medium.outcomes) :
    Committed ids op medium := by
  unfold Committed
  rw [execute_accepted hrespond]
  cases hfault : fault 6 medium.outcomes with
  | none =>
    obtain ⟨after, hwrite, -, hfile⟩ := @writeJsonAtomic_made medium answer.1 hfault
    rw [settle_ok hne hwrite]
    exact ⟨hrespond, hfile⟩
  | some found =>
    obtain ⟨step, outcome⟩ := found
    cases outcome with
    | made => exact absurd hfault fault_ne_made
    | crashed part =>
      obtain ⟨after, hwrite⟩ := @writeJsonAtomic_crashed medium answer.1 _ _ hfault
      rw [settle_error hne hwrite]
      trivial
    | failed part =>
      rcases @writeJsonAtomic_failed medium answer.1 _ _ hfault with
        ⟨p, after, -, hwrite⟩ | ⟨hlives, after, hwrite, hmemory, hfile⟩
      · rw [settle_error hne hwrite]
        trivial
      · rw [settle_error hne hwrite]
        have hearly : ¬ Renamed step part := fun hrenamed =>
          hfails ⟨step, part, hfault, hrenamed, hlives⟩
        rw [if_neg hearly] at hfile
        exact ⟨hmemory, hfile.trans hagree⟩

theorem committed_of_not_failsRenamed (hagree : Agree medium)
    (h : ¬ (Commits ids medium.memory op ∧ FailsRenamed medium.outcomes)) :
    Committed ids op medium := by
  cases hrespond : respond ids medium.memory op with
  | error e =>
    unfold Committed
    rw [execute_refused hrespond]
    exact ⟨rfl, hagree⟩
  | ok answer =>
    by_cases hsame : answer.1 = medium.memory
    · unfold Committed
      rw [execute_accepted hrespond, settle_same hsame]
      exact ⟨by rw [hrespond, ← hsame], hagree⟩
    · exact committed_of_writing hagree hrespond hsame fun hfails =>
        h ⟨.of_ne hrespond hsame, hfails⟩

/-- From a directory whose file and memory agree: an operation is committed or it is not, unless
    it is one that has a document to commit and a step fails when the file already holds it. -/
theorem committed_iff (hagree : Agree medium) :
    Committed ids op medium ↔ ¬ (Commits ids medium.memory op ∧ FailsRenamed medium.outcomes) := by
  constructor
  · rintro hcommitted ⟨hcommits, hfails⟩
    obtain ⟨after, next, hrun, -, hfile, hne⟩ := execute_of_failsRenamed hcommits hfails
    rw [Committed, hrun] at hcommitted
    exact hne (Option.mem_unique hfile hcommitted.2)
  · exact committed_of_not_failsRenamed hagree

end Operations

/-! ## Runs -/

/-- The directory after an operation that returned, with a value or with an error. The outcomes
    are those its steps will meet. -/
def serve (ids : CellIds) (medium : DirectoryMedium) (request : DirectoryOp × List Outcome) :
    Except Unit DirectoryMedium :=
  match execute ids request.1 { medium with outcomes := request.2 } with
  | .ok _ after => .ok after
  | .error .crashed _ => .error ()
  | .error _ after => .ok after

/-- The request has a document to commit, and fails when the file already holds it. -/
def LeavesBehind (ids : CellIds) (medium : DirectoryMedium)
    (request : DirectoryOp × List Outcome) : Prop :=
  Commits ids medium.memory request.1 ∧ FailsRenamed request.2

section Runs

variable {ids : CellIds} {medium after : DirectoryMedium} {request : DirectoryOp × List Outcome}

theorem agree_serve_iff (hagree : Agree medium) (h : serve ids medium request = .ok after) :
    Agree after ↔ ¬ LeavesBehind ids medium request := by
  constructor
  · rintro hafter ⟨hcommits, hfails⟩
    obtain ⟨left, next, hrun, hmemory, hfile, hne⟩ :=
      @execute_of_failsRenamed ids request.1 { medium with outcomes := request.2 } hcommits hfails
    rw [serve, hrun] at h
    obtain rfl := Except.ok.inj h
    rw [Agree, hfile, hmemory] at hafter
    exact hne (Option.some.inj hafter)
  · intro hleaves
    have hcommitted := @committed_of_not_failsRenamed ids request.1
      { medium with outcomes := request.2 } hagree hleaves
    unfold serve at h
    unfold Committed at hcommitted
    split at h
    · rename_i hrun
      obtain rfl := Except.ok.inj h
      rw [hrun] at hcommitted
      exact hcommitted.2
    · cases h
    · rename_i stop left hstop hrun
      obtain rfl := Except.ok.inj h
      rw [hrun] at hcommitted
      cases stop with
      | crashed => exact absurd rfl hstop
      | refused e | failed => exact hcommitted.2.trans (by rw [hcommitted.1])

/-- A directory whose file and memory agree commits an operation whole or not at all, and they
    agree for as long as it runs, exactly where no operation that has a document to commit meets
    a failure after the rename. -/
theorem commits_whole_iff {ids : CellIds} {medium : DirectoryMedium} (hagree : Agree medium) :
    (∀ op, Committed ids op medium ↔
        ¬ (Commits ids medium.memory op ∧ FailsRenamed medium.outcomes))
      ∧ ∀ requests last, runAll (serve ids) medium requests = .ok last →
        (Throughout (serve ids) Agree medium requests ↔
          Along (serve ids) (fun medium request => ¬ LeavesBehind ids medium request) medium
            requests) := by
  refine ⟨fun _ => committed_iff hagree, fun requests last hrun => ?_⟩
  have htrivial : ∀ {s : DirectoryMedium} {i s'}, True → Agree s → serve ids s i = .ok s' → True :=
    fun _ _ _ => trivial
  exact throughout_iff_along htrivial (fun _ _ hs hstep => agree_serve_iff hs hstep) trivial
    hagree hrun

end Runs

/-! A fresh directory whose origin cell is claimed, on a disk that fails when the directory that
holds the file is waited for. -/

def claimOrigin : DirectoryOp := .claim cellOriginKey 0 "worker-origin" 5

/-- The document of a fresh directory of the two proof cells. -/
def proofDocument : CellDirectoryDocument :=
  freshDocument proofManifest
    ((canonicalAssignments proofCellIds proofManifest proofCellKeys).toOption.getD OrdMap.empty)

def proofDirectory (outcomes : List Outcome) : DirectoryMedium where
  disk := { directory := some proofDocument, temps := OrdMap.empty }
  memory := proofDocument
  outcomes := outcomes

/-- All steps are made but the last. -/
def lastFails : List Outcome := [.made, .made, .made, .made, .made, .failed 0]

theorem commits_claimOrigin : Commits proofCellIds proofDocument claimOrigin := by
  have hfound : (respond proofCellIds proofDocument claimOrigin).toOption.any
      (fun r => r.1 ≠ proofDocument) = true := by decide
  obtain ⟨⟨next, record⟩, hrespond, hne⟩ := exists_ok_of_any hfound
  exact ⟨next, record, hrespond, of_decide_eq_true hne⟩

theorem failsRenamed_lastFails : FailsRenamed lastFails :=
  ⟨5, 0, rfl, .inr (by omega), fun p hp => by cases hp⟩

theorem not_failsRenamed_early : ¬ FailsRenamed [.made, .failed 0] := by
  rintro ⟨step, part, hfault, hrenamed, -⟩
  cases hfault
  exact absurd hrenamed (by decide)

/-- A write that fails early leaves the directory as it was; of the two claims of the run, the
    first fails so, and the second is made. -/
theorem commits_whole_iff_claimOrigin :
    Committed proofCellIds claimOrigin (proofDirectory [.made, .failed 0])
      ∧ ∃ last, runAll (serve proofCellIds) (proofDirectory [])
          [(claimOrigin, [.made, .failed 0]), (claimOrigin, [])] = .ok last
        ∧ (Throughout (serve proofCellIds) Agree (proofDirectory [])
            [(claimOrigin, [.made, .failed 0]), (claimOrigin, [])] ↔
          Along (serve proofCellIds) (fun medium request => ¬ LeavesBehind proofCellIds medium request)
            (proofDirectory []) [(claimOrigin, [.made, .failed 0]), (claimOrigin, [])]) := by
  have hfailing : Agree (proofDirectory [.made, .failed 0]) := rfl
  have hquiet : Agree (proofDirectory []) := rfl
  refine ⟨((commits_whole_iff hfailing).1 _).mpr fun h => not_failsRenamed_early h.2, ?_⟩
  have hserved : (runAll (serve proofCellIds) (proofDirectory [])
      [(claimOrigin, [.made, .failed 0]), (claimOrigin, [])]).toOption.any (fun _ => true)
      = true := by decide +kernel
  obtain ⟨last, hlast, -⟩ := exists_ok_of_any hserved
  exact ⟨last, hlast, (commits_whole_iff hquiet).2 _ _ hlast⟩

/-- The claim fails, the file holds it, and the process goes on without it. -/
theorem not_committed_lastFails :
    Agree (proofDirectory lastFails)
      ∧ (∃ after next, execute proofCellIds claimOrigin (proofDirectory lastFails)
            = .error .failed after
          ∧ after.memory = proofDocument ∧ after.disk.directory = some next
          ∧ next ≠ proofDocument)
      ∧ ¬ Committed proofCellIds claimOrigin (proofDirectory lastFails) := by
  have hagree : Agree (proofDirectory lastFails) := rfl
  refine ⟨hagree, @execute_of_failsRenamed proofCellIds claimOrigin (proofDirectory lastFails)
    commits_claimOrigin failsRenamed_lastFails, fun h => ?_⟩
  exact (committed_iff hagree).mp h ⟨commits_claimOrigin, failsRenamed_lastFails⟩

end Verse.Directory
