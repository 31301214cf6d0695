import Verse.DirectoryV3.Durable

/-!
# Opening a history

Whatever the files of a history look like, opening them ends with the live store of their
documents, unless it is interrupted, and then it leaves files of the same documents: so it may
be tried as often as it takes. `Stands` is what the files look like from the beginning on, when
there may be no head yet and nothing else either.

Where nothing interrupts it, an opening succeeds (`openHistory_ok`); it has nothing to refuse.
-/

namespace Verse.DirectoryV3

open Lib Directory

variable {Byte : Type} {codec : HistoryCodec Byte}
  {universeId manifestHash : String} {documents : List CellDirectoryDocumentV3}
  {genesis : CellDirectoryDocumentV3}

variable (codec universeId manifestHash) in
/-- The files of a history that may not have been begun. -/
def Stands (documents : List CellDirectoryDocumentV3) (files : HistoryFiles Byte) : Prop :=
  OnDisk codec universeId manifestHash documents files
    ∨ (documents = [] ∧ files.history = [] ∧ files.head = none)

/-! ## Again -/

/-- Opening files again. They may not have documents yet, which is the one reason to refuse. -/
theorem openHistory_triple [DecidableEq Byte]
    (hfit : HeadsFit codec universeId manifestHash) :
    Triple (fun medium => Stands codec universeId manifestHash documents medium.disk)
      (openHistory codec universeId manifestHash)
      (fun _ medium => documents ≠ []
        ∧ Live codec universeId manifestHash documents medium)
      fun e medium => Stands codec universeId manifestHash documents medium.disk
        ∧ (documents ≠ [] → ∀ reason, e ≠ .refused reason) := by
  unfold openHistory
  refine Triple.bind_read fun found hstands => ?_
  obtain hdisk | ⟨rfl, hhistory, hnone⟩ := hstands
  swap
  · rw [hnone]
    refine Triple.throw fun medium hsame => ⟨?_, fun hne => absurd rfl hne⟩
    rw [hsame]
    exact .inr ⟨rfl, hhistory, hnone⟩
  obtain ⟨pinned, hpinned, hhead⟩ := hdisk.head
  rw [hhead]
  refine Triple.bind_check (fun e he => ?_) fun _ _ => ?_
  · have hidentity := validateIdentity_headOf hfit (hdisk.recorded.of_isPrefix hpinned)
    exact absurd (hidentity.symm.trans he) (by simp)
  refine Triple.bind (R := fun _ medium =>
      OnDisk codec universeId manifestHash documents medium.disk
        ∧ medium.disk.head = some medium.memory.head)
    (Triple.remember fun medium hsame => ?_) fun _ => ?_
  · rw [hsame]
    exact ⟨hdisk, hhead⟩
  refine Triple.bind ((recover_triple hfit).fail fun _ _ hstopped =>
    ⟨.inl hstopped.1, fun _ => hstopped.2⟩) fun _ => ?_
  refine Triple.bind_memory fun reopened hreopened => ?_
  rw [hreopened.store]
  refine Triple.bind_check (fun e he _ hlive => ?_) fun current hcurrent =>
    Triple.pure fun _ hlive => ⟨?_, hlive⟩
  · rw [currentDocument, demand_eq_error] at he
    exact ⟨.inl hlive.onDisk, fun hne => absurd (List.getLast?_eq_none_iff.mp he.1) hne⟩
  · rintro rfl
    rw [currentDocument, demand_eq_ok] at hcurrent
    cases hcurrent

/-! Nothing in it fails by itself. -/

variable {head : DraftDirectoryHistoryHeadV3}

theorem quiet_persistHead :
    Quiet (persistHead codec head) := by
  unfold persistHead
  refine Refusing.memory.bind fun _ => Refusing.check.bind fun _ => Refusing.check.bind fun _ =>
    Refusing.get.bind fun _ => Quiet.onFailure Quiet.perform ?_
  exact Quiet.perform.bind fun _ => Quiet.perform.bind fun _ => Quiet.perform.bind fun _ =>
    Quiet.perform

theorem quiet_cutTail {offset : Nat} {tail : List Byte} :
    Quiet (cutTail head offset tail) := by
  unfold cutTail
  refine Refusing.ite Refusing.pure ?_
  exact Refusing.check.bind fun _ => Refusing.check.bind fun _ => Quiet.perform.bind fun _ =>
    Quiet.perform

theorem quiet_recover [DecidableEq Byte] : Quiet (recover codec) := by
  unfold recover
  exact Refusing.memory.bind fun _ => Refusing.get.bind fun _ => Refusing.check.bind fun _ =>
    Refusing.check.bind fun _ => Refusing.check.bind fun recovery => quiet_cutTail.bind fun _ =>
    Refusing.check.bind fun _ => Refusing.only quiet_persistHead Quiet.remember

theorem quiet_openHistory [DecidableEq Byte]
    : Quiet (openHistory codec universeId manifestHash) := by
  unfold openHistory
  refine Refusing.get.bind fun found => ?_
  cases found.disk.head with
  | none => exact Refusing.refuse
  | some head =>
    refine Refusing.check.bind fun _ => Quiet.remember.bind fun _ => quiet_recover.bind fun _ =>
      Refusing.memory.bind fun _ => Refusing.check.bind fun _ => Refusing.pure

variable {files : HistoryFiles Byte}

theorem openHistory_ok [DecidableEq Byte] (hfit : HeadsFit codec universeId manifestHash)
    (hdocuments : documents ≠ [])
    (hstands : Stands codec universeId manifestHash documents files) :
    ∃ medium, openHistory codec universeId manifestHash (files.unopened []) =
        .ok () medium
      ∧ Live codec universeId manifestHash documents medium := by
  obtain ⟨_, medium, hrun, hopened, -⟩ :=
    exists_ok_of_quiet quiet_openHistory (openHistory_triple hfit)
      (fun reason _ hrefused => hrefused.2 hdocuments reason rfl) (show Stands codec universeId
        manifestHash documents (files.unopened []).disk from hstands) rfl
  exact ⟨medium, hrun, hopened.2⟩

/-! ## For the first time -/

/-- What an opening may add to the documents: the first, where there is none. -/
def Begun (genesis : CellDirectoryDocumentV3)
    (documents documents' : List CellDirectoryDocumentV3) : Prop :=
  documents' = documents ∨ (documents = [] ∧ documents' = [genesis])

variable (codec genesis) in
/-- The files of the documents after an opening that may have begun them. -/
def Standing (documents : List CellDirectoryDocumentV3) (files : HistoryFiles Byte) : Prop :=
  ∃ documents', Begun genesis documents documents'
    ∧ Stands codec genesis.universeId genesis.universeManifestHash documents' files

theorem Stands.standing
    (h : Stands codec genesis.universeId genesis.universeManifestHash documents files) :
    Standing codec genesis documents files :=
  ⟨documents, .inl rfl, h⟩

/-- The head that files are opened under: the one they have, or that of an empty history. -/
theorem initialHead_of_stands
    (hfit : HeadsFit codec genesis.universeId genesis.universeManifestHash)
    (h : Stands codec genesis.universeId genesis.universeManifestHash documents files) :
    ∃ head, initialHead files genesis = .ok head ∧
      ((files.head = some head
          ∧ OnDisk codec genesis.universeId genesis.universeManifestHash documents files)
        ∨ (files.head = none ∧ documents = [] ∧ files.history = []
          ∧ head = headOf codec genesis.universeId genesis.universeManifestHash [])) := by
  rcases h with hdisk | ⟨rfl, hhistory, hhead⟩
  · obtain ⟨pinned, hpinned, hhead⟩ := hdisk.head
    have hidentity := validateIdentity_headOf hfit (hdisk.recorded.of_isPrefix hpinned)
    refine ⟨_, ?_, .inl ⟨hhead, hdisk⟩⟩
    rw [initialHead, hhead]
    simp only [bind_eq_ok, pure_eq_ok]
    exact ⟨(), hidentity, trivial⟩
  · refine ⟨.empty genesis, ?_, .inr ⟨hhead, rfl, hhistory, rfl⟩⟩
    rw [initialHead, hhead]
    simp [hhistory, DraftDirectoryHistoryHeadV3.empty]

/-- An append to an empty history is of the document it begins with. -/
theorem begun_of_append {expectedRevision expectedDocumentHash documents'} (h : Grown []
      (Admits codec universeId manifestHash [] expectedRevision expectedDocumentHash genesis)
      documents') : Begun genesis [] documents' := by
  rcases h with rfl | ⟨next, ⟨rfl, -⟩, rfl⟩
  · exact .inl rfl
  · exact .inr ⟨rfl, rfl⟩

/-- An empty history declines the document it begins with only for its size. -/
theorem oversized_of_declines {reason} (hvalid : genesis.validate codec.toDirectoryCodec = .ok ())
    (h : Declines codec genesis.universeId genesis.universeManifestHash [] none none genesis
      reason) :
    Oversized codec [] genesis reason := by
  cases h with
  | invalid hinvalid => exact absurd (hvalid.symm.trans hinvalid) (by simp)
  | compareAndSwap _ hrefused =>
    have hswap : (storeOf codec genesis.universeId genesis.universeManifestHash
        []).compareAndSwap none none genesis = .ok false := rfl
    exact absurd (hswap.symm.trans hrefused) (by simp)
  | prepare _ _ hrefused =>
    rw [prepareEntry_eq hvalid rfl rfl] at hrefused
    simp only [bind_eq_error, rejectIf_eq_error, pure_eq_error, and_false, exists_false,
      or_false] at hrefused
    exact .inl ⟨hrefused.1, hrefused.2.symm⟩
  | full hfull => exact .inr ⟨hfull, rfl⟩

variable (codec genesis) in
/-- How an opening of files that may not have been begun is stopped. It may refuse only a genesis
    document that is too long for the file. -/
def Unopened (documents : List CellDirectoryDocumentV3) (stop : Stop CellDirectoryError)
    (medium : HistoryMedium Byte) : Prop :=
  Standing codec genesis documents medium.disk
    ∧ ∀ reason, stop = .refused reason → Oversized codec [] genesis reason

theorem appendGenesis_triple (hfit : HeadsFit codec genesis.universeId genesis.universeManifestHash)
    (hvalid : genesis.validate codec.toDirectoryCodec = .ok ()) (hbegin : MayBegin genesis) :
    Triple (Live codec genesis.universeId genesis.universeManifestHash [])
      (appendDocument codec none none genesis)
      (fun _ => Live codec genesis.universeId genesis.universeManifestHash [genesis])
      (Unopened codec genesis []) := by
  refine (appendDocument_triple hfit fun _ => hbegin).weaken (fun _ hlive => hlive) ?_ ?_
  · rintro _ medium ⟨documents', hgrown, hlive, hlast⟩
    rcases begun_of_append hgrown with rfl | ⟨-, rfl⟩
    · cases hlast
    · exact hlive
  · intro e medium hstopped
    have hstanding : OnDiskGrown codec genesis.universeId genesis.universeManifestHash []
        (Admits codec genesis.universeId genesis.universeManifestHash [] none none genesis)
        medium.disk → Standing codec genesis [] medium.disk := by
      rintro ⟨documents', hgrown, hdisk⟩
      exact ⟨documents', begun_of_append hgrown, .inl hdisk⟩
    cases e with
    | refused reason =>
      obtain ⟨hdeclines, hlive⟩ := hstopped
      refine ⟨hstanding ⟨[], .inl rfl, hlive.onDisk⟩, fun reason' hreason => ?_⟩
      obtain rfl := Stop.refused.inj hreason
      exact oversized_of_declines hvalid hdeclines
    | failed => exact ⟨hstanding hstopped.2, by simp⟩
    | crashed => exact ⟨hstanding hstopped, by simp⟩

theorem first_of_recorded [DecidableEq Byte] {first rest}
    (h : Recorded codec universeId manifestHash (first :: rest)) :
    (storeOf codec universeId manifestHash (first :: rest)).index.keys.head?
        = some first.directoryRevision
      ∧ (storeOf codec universeId manifestHash (first :: rest)).resolveDocument codec
          (bytesOf codec (first :: rest)) first.directoryRevision first.documentHash
            = .ok first := by
  constructor
  · show (indexOf codec (first :: rest)).keys.head? = _
    rw [OrdMap.keys, h.entries_indexOf]
    rfl
  · rw [← List.append_nil (bytesOf codec (first :: rest))]
    exact resolve_of_isPrefix h (show [] ++ [first] <+: first :: rest from
      List.prefix_append [first] rest) rfl

theorem openOrInitialize_triple [DecidableEq Byte]
    (hfit : HeadsFit codec genesis.universeId genesis.universeManifestHash)
    (hvalid : genesis.validate codec.toDirectoryCodec = .ok ()) (hbegin : MayBegin genesis)
    (hfirst : ∀ first ∈ documents.head?, first = genesis) :
    Triple (fun medium =>
        Stands codec genesis.universeId genesis.universeManifestHash documents medium.disk)
      (openOrInitialize codec genesis)
      (fun _ medium => ∃ documents', Begun genesis documents documents' ∧ documents' ≠ []
        ∧ Live codec genesis.universeId genesis.universeManifestHash documents' medium)
      (Unopened codec genesis documents) := by
  unfold openOrInitialize
  refine Triple.bind_check (fun _ he => absurd (hvalid.symm.trans he) (by simp)) fun _ _ => ?_
  refine Triple.bind (R := fun _ medium =>
      Stands codec genesis.universeId genesis.universeManifestHash documents medium.disk)
    (Triple.perform (fun _ _ hstands => hstands) (fun _ _ _ hstands => ⟨hstands.standing, by simp⟩)
      fun _ _ _ hstands => ⟨hstands.standing, by simp⟩) fun _ => ?_
  refine Triple.bind_read fun found hstands => ?_
  obtain ⟨head, hinitial, hhead⟩ := initialHead_of_stands hfit hstands
  refine Triple.bind_check (fun e he => absurd (hinitial.symm.trans he) (by simp))
    fun head' hinitial' => ?_
  obtain rfl := ok_unique hinitial' hinitial
  refine Triple.bind (R := fun _ medium => medium.memory = .reading head'
      ∧ medium.disk = found.disk)
    (Triple.remember fun medium hsame => ⟨rfl, congrArg Medium.disk hsame⟩) fun _ => ?_
  refine Triple.only (R := fun medium =>
      OnDisk codec genesis.universeId genesis.universeManifestHash documents medium.disk
        ∧ medium.disk.head = some medium.memory.head) (fun hnone => ?_) (fun hsome => ?_) ?_
  · -- the head of a history that has not begun
    obtain ⟨hhead, -⟩ | ⟨-, rfl, hhistory, rfl⟩ := hhead
    · exact absurd (hnone.symm.trans hhead) (by simp)
    have hpersist := persistHead_triple (.reading (headOf codec genesis.universeId
      genesis.universeManifestHash [])) [] none hfit .none rfl headOf_universeId
      headOf_universeManifestHash
    refine hpersist.weaken ?_ ?_ ?_
    · rintro medium ⟨hmemory, hdisk⟩
      exact ⟨hmemory, hdisk ▸ hhistory, hdisk ▸ hnone⟩
    · rintro _ medium ⟨hmemory, hhistory, hhead⟩
      refine ⟨.of_whole .none List.prefix_rfl hhistory hhead, ?_⟩
      rw [hmemory, hhead]
      rfl
    · rintro e medium ⟨hreplaced, hne⟩
      refine ⟨?_, fun reason hreason => absurd hreason (hne reason)⟩
      rcases hreplaced.head with hhead | hhead
      · exact Stands.standing (.inr ⟨rfl, hreplaced.history, hhead⟩)
      · exact Stands.standing (.inl (.of_whole .none List.prefix_rfl hreplaced.history hhead))
  · rintro medium ⟨hmemory, hdisk⟩
    obtain ⟨hhead, hondisk⟩ | ⟨hnone, -⟩ := hhead
    · rw [hdisk, hmemory]
      exact ⟨hondisk, hhead⟩
    · exact absurd hnone hsome
  refine Triple.bind ((recover_triple hfit).fail fun _ _ hstopped =>
    ⟨Stands.standing (.inl hstopped.1),
      fun reason hreason => absurd hreason (hstopped.2 reason)⟩) fun _ => ?_
  refine Triple.bind_memory fun reopened hreopened => ?_
  have hrecorded := hreopened.recorded
  rw [hreopened.store]
  cases documents with
  | nil =>
    refine (appendGenesis_triple hfit hvalid hbegin).post ?_
    exact fun _ _ hlive => ⟨[genesis], .inr ⟨rfl, rfl⟩, by simp, hlive⟩
  | cons first rest =>
    obtain rfl : first = genesis := hfirst first rfl
    obtain ⟨hkey, hresolve⟩ := first_of_recorded hrecorded
    cases hcurrent : (storeOf codec first.universeId first.universeManifestHash
        (first :: rest)).current with
    | none =>
      have hlast : (first :: rest).getLast? = none := hcurrent
      simp at hlast
    | some current =>
      -- the genesis document is the first in the index, and is found there
      refine Triple.bind_check (fun e he => ?_) fun _ _ => ?_
      · rw [rejectIf_eq_error] at he
        exact absurd hkey he.1
      refine Triple.bind_get fun files hfiles => ?_
      rw [hfiles.history]
      dsimp only
      rw [hresolve]
      refine Triple.bind_check (fun e he => absurd he (by simp)) fun found hfound =>
        Triple.check (fun _ _ medium hlive => ?_) fun e he => ?_
      · exact ⟨first :: rest, .inl rfl, by simp, hlive⟩
      · rw [rejectIf_eq_error] at he
        exact absurd (Except.ok.inj hfound).symm he.1

/-! Nothing in it fails by itself either. -/

theorem quiet_poisoning {α : Type} {x : Storing Byte α} (h : Quiet x) : Quiet (poisoning x) :=
  Quiet.onFailure Quiet.remember h

theorem quiet_appendDocument {rev : Option Nat} {hash : Option String}
    {next : CellDirectoryDocumentV3} : Quiet (appendDocument codec rev hash next) := by
  unfold appendDocument
  refine Refusing.memory.bind fun _ => Refusing.check.bind fun _ => Refusing.check.bind fun _ =>
    Refusing.check.bind fun again => Refusing.ite Refusing.pure ?_
  refine Refusing.check.bind fun prepared => Refusing.get.bind fun _ => Refusing.check.bind fun _ =>
    Refusing.check.bind fun _ => Refusing.bind (quiet_poisoning ?_) fun _ =>
    Refusing.check.bind fun _ => (quiet_poisoning quiet_persistHead).bind fun _ => Quiet.remember
  exact Quiet.perform.bind fun _ => Quiet.perform.bind fun _ => Quiet.perform

theorem quiet_openOrInitialize [DecidableEq Byte] : Quiet (openOrInitialize codec genesis) := by
  unfold openOrInitialize
  refine Refusing.check.bind fun _ => Quiet.perform.bind fun _ => Refusing.get.bind fun _ =>
    Refusing.check.bind fun _ => Quiet.remember.bind fun _ => Refusing.only quiet_persistHead ?_
  refine quiet_recover.bind fun _ => Refusing.memory.bind fun store => ?_
  cases store.current with
  | none => exact quiet_appendDocument
  | some current =>
    exact Refusing.check.bind fun _ => Refusing.get.bind fun _ => Refusing.check.bind fun _ =>
      Refusing.check

theorem openOrInitialize_ok [DecidableEq Byte]
    (hfit : HeadsFit codec genesis.universeId genesis.universeManifestHash)
    (hvalid : genesis.validate codec.toDirectoryCodec = .ok ()) (hbegin : MayBegin genesis)
    (hfirst : ∀ first ∈ documents.head?, first = genesis)
    (hsize : ∀ reason, ¬ Oversized codec [] genesis reason)
    (hstands : Stands codec genesis.universeId genesis.universeManifestHash documents files) :
    ∃ medium, openOrInitialize codec genesis (files.unopened []) = .ok () medium
      ∧ ∃ documents', Begun genesis documents documents' ∧ documents' ≠ []
        ∧ Live codec genesis.universeId genesis.universeManifestHash documents' medium := by
  obtain ⟨_, medium, hrun, hlive, -⟩ :=
    exists_ok_of_quiet quiet_openOrInitialize (openOrInitialize_triple hfit hvalid hbegin hfirst)
      (fun reason _ hrefused => hsize reason (hrefused.2 reason rfl))
      (show Stands codec genesis.universeId genesis.universeManifestHash documents
        (files.unopened []).disk from hstands) rfl
  exact ⟨medium, hrun, hlive⟩

end Verse.DirectoryV3
