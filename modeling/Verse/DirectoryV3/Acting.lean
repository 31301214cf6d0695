import Verse.DirectoryV3.Effect
import Verse.DirectoryV3.Opening

/-!
# Acting on a history

An operation on a live store does what the same operation does on the history of its documents
(`actOnDisk_triple`): it ends with the documents of the stepped history, and where it is stopped
the files have these or still the ones before. The index leads to the earlier documents in their
order, so looking through them on disk finds what looking through the history finds.

A store that has met an error writes nothing any more (`keeps_of_poisoned`).
-/

namespace Verse.DirectoryV3

open Lib Directory Program

variable {Byte : Type} {codec : HistoryCodec Byte}
  {universeId manifestHash : String} {history : DirectoryHistory}

/-! ## Looking back -/

/-- The documents that resolving the locations gives. -/
def Leads (resolve : Nat → String → Fallible CellDirectoryDocumentV3)
    (locations : List (Nat × DraftDirectoryHistoryLocationV3))
    (documents : List CellDirectoryDocumentV3) : Prop :=
  List.Forall₂ (fun location document =>
    resolve location.1 location.2.documentHash = .ok document) locations documents

variable {documents : List CellDirectoryDocumentV3}

variable {resolve : Nat → String → Fallible CellDirectoryDocumentV3} {cellId : String}
  {locations : List (Nat × DraftDirectoryHistoryLocationV3)}

theorem authorityPredecessorOnDisk_eq
    {expectedGeneration resultingGeneration : Nat}
    (h : Leads resolve locations documents)
    (prior : Option CellAssignmentRecord) :
    authorityPredecessorOnDisk resolve cellId expectedGeneration resultingGeneration prior
        locations =
      authorityTransitionPredecessor cellId expectedGeneration resultingGeneration prior
        documents := by
  induction h generalizing prior with
  | nil => rfl
  | @cons location document locations documents hresolve _ ih =>
    simp only [authorityPredecessorOnDisk, authorityTransitionPredecessor, hresolve, ih]
    rfl

variable {generation : Nat}

theorem releasePredecessorOnDisk_eq
    (h : Leads resolve locations documents)
    (prior : Option CellAssignmentRecord) :
    releasePredecessorOnDisk resolve cellId generation prior locations =
      releaseTransitionPredecessor cellId generation prior documents := by
  induction h generalizing prior with
  | nil => rfl
  | @cons location document locations documents hresolve _ ih =>
    simp only [releasePredecessorOnDisk, releaseTransitionPredecessor, hresolve, ih]
    rfl

theorem leads_of_recorded [DecidableEq Byte]
    (h : Recorded codec universeId manifestHash documents) :
    let store := storeOf codec universeId manifestHash documents
    Leads (store.resolveDocument codec (bytesOf codec documents)) store.index.entries documents := by
  intro store
  show List.Forall₂ _ (indexOf codec documents).entries documents
  rw [h.entries_indexOf, ← List.append_nil (bytesOf codec documents)]
  exact forall₂_resolve h rfl List.prefix_rfl

/-! ## Deciding and committing -/

/-- What a decision makes of a history. -/
def AuthorityDecision.onHistory (codec : DirectoryCodec) (history : DirectoryHistory) :
    AuthorityDecision → Fallible (DirectoryHistory × CellAssignmentRecord)
  | .retained assignment => .ok (history, assignment)
  | .replaced next assignment => do
    let history ← history.advance codec next
    return (history, assignment)

variable {cellKey : CellKeyV1} {holderId : String}

variable {transition : CellAuthorityTransitionV3}

theorem transitionCellAuthority_eq :
    transitionCellAuthority codec.toDirectoryCodec history cellKey generation holderId transition =
      decideTransition codec (.ok history.current)
        (fun cellId expected resulting =>
          authorityTransitionPredecessor cellId expected resulting none history.documents)
        cellKey generation holderId transition >>=
      AuthorityDecision.onHistory codec.toDirectoryCodec history := by
  unfold transitionCellAuthority decideTransition
  simp only [bind_assoc]
  congr 1; funext _
  congr 1; funext cellId
  rw [show (Except.ok history.current : Fallible CellDirectoryDocumentV3) = pure history.current
    from rfl, pure_bind]
  congr 1; funext assignment
  congr 1; funext resulting
  split_ifs with hsuccessor
  · simp only [bind_assoc]
    congr 1; funext predecessor
    split_ifs <;> rfl
  · simp only [bind_assoc]
    rfl

theorem releaseCell_eq :
    releaseCell codec.toDirectoryCodec history cellKey generation holderId =
      decideRelease codec (.ok history.current)
        (fun cellId generation =>
          releaseTransitionPredecessor cellId generation none history.documents)
        cellKey generation holderId >>=
      AuthorityDecision.onHistory codec.toDirectoryCodec history := by
  unfold releaseCell decideRelease
  simp only [bind_assoc]
  congr 1; funext _
  congr 1; funext cellId
  rw [show (Except.ok history.current : Fallible CellDirectoryDocumentV3) = pure history.current
    from rfl, pure_bind]
  congr 1; funext assignment
  split_ifs with hasleep
  · simp only [bind_assoc]
    congr 1; funext predecessor
    split_ifs <;> rfl
  · simp only [bind_assoc]
    rfl

/-! ## Appending what was decided -/

theorem storeOf_current :
    (storeOf codec universeId manifestHash history.documents).current =
      some history.current := by
  show history.documents.getLast? = _
  rw [DirectoryHistory.documents, List.getLast?_concat]

variable {next : CellDirectoryDocumentV3}

/-- The store admits a document to a history as the history commits it. -/
theorem commit_eq_compareAndSwap (universeId manifestHash : String) {rev : Nat}
    {hash : String} :
    history.commit codec.toDirectoryCodec rev hash next = (do
      next.validate codec.toDirectoryCodec
      let again ← (storeOf codec universeId manifestHash history.documents).compareAndSwap
        (some rev) (some hash) next
      if again then return history
      else return { earlier := history.documents, current := next }) := by
  unfold DirectoryHistory.commit DraftCellDirectoryHistoryStoreV3.compareAndSwap
  rw [storeOf_current]
  simp only [bind_assoc, Option.some.injEq, ne_eq]
  congr 1; funext _
  congr 1; funext _
  split_ifs with hsame
  · rfl
  · simp only [bind_assoc]
    rfl

/-- A document that is admitted is the next of the history. -/
theorem advance_of_admits {document}
    (h : Admits codec universeId manifestHash history.documents
      (some history.current.directoryRevision) (some history.current.documentHash) next document) :
    history.advance codec.toDirectoryCodec next =
      .ok { earlier := history.documents, current := document } := by
  obtain ⟨rfl, hvalid, hswap⟩ := h
  rw [DirectoryHistory.advance, commit_eq_compareAndSwap universeId manifestHash]
  simp only [bind_eq_ok]
  exact ⟨(), hvalid, false, hswap, rfl⟩

theorem advance_current (h : Recorded codec universeId manifestHash history.documents) :
    history.advance codec.toDirectoryCodec history.current = .ok history := by
  have hvalid := (h.last List.getLast?_concat).1
  simp [DirectoryHistory.advance, DirectoryHistory.commit, hvalid]

variable {rev : Option Nat} {hash : Option String}

theorem identity_of_compareAndSwap
    (h : (storeOf codec universeId manifestHash history.documents).compareAndSwap rev hash
      next = .ok false) :
    next.universeId = history.current.universeId
      ∧ next.universeManifestHash = history.current.universeManifestHash := by
  rw [DraftCellDirectoryHistoryStoreV3.compareAndSwap, storeOf_current] at h
  simp only [bind_eq_ok, rejectIf_eq_ok] at h
  obtain ⟨-, -, h⟩ := h
  split_ifs at h with hsame
  · cases h
  · simp only [bind_eq_ok, rejectIf_eq_ok, not_or, not_not] at h
    obtain ⟨-, -, -, ⟨-, huniverse, hmanifest, -⟩, -⟩ := h
    exact ⟨huniverse, hmanifest⟩

theorem advance_of_declines (h : Recorded codec universeId manifestHash history.documents)
    {reason} (hdeclines : Declines codec universeId manifestHash history.documents
      (some history.current.directoryRevision) (some history.current.documentHash) next reason) :
    history.advance codec.toDirectoryCodec next = .error reason
      ∨ Oversized codec history.documents next reason := by
  rw [DirectoryHistory.advance, commit_eq_compareAndSwap universeId manifestHash]
  cases hdeclines with
  | invalid hinvalid =>
    left
    rw [hinvalid]
    rfl
  | compareAndSwap hvalid hrefused =>
    left
    simp only [bind_eq_error]
    exact .inr ⟨(), hvalid, .inl hrefused⟩
  | prepare hvalid hswap hrefused =>
    obtain ⟨huniverse, hmanifest⟩ := identity_of_compareAndSwap hswap
    obtain ⟨-, hcurrentUniverse, hcurrentManifest⟩ := h.last List.getLast?_concat
    rw [prepareEntry_eq hvalid (huniverse.trans hcurrentUniverse)
      (hmanifest.trans hcurrentManifest)] at hrefused
    simp only [bind_eq_error, rejectIf_eq_error, pure_eq_error, and_false, exists_false,
      or_false] at hrefused
    exact .inr (.inl ⟨hrefused.1, hrefused.2.symm⟩)
  | full hfull => exact .inr (.inr ⟨hfull, rfl⟩)

/-! ## What a program does to a history -/

theorem Stopped.mono {R R' : CellDirectoryDocumentV3 → Prop} {S S' : CellDirectoryError → Prop}
    {stop medium} (h : Stopped codec universeId manifestHash documents R S stop medium)
    (hR : ∀ document, R document → R' document)
    (hS : Recorded codec universeId manifestHash documents →
      ∀ reason, S reason → S' reason) :
    Stopped codec universeId manifestHash documents R' S' stop medium := by
  have hgrown : OnDiskGrown codec universeId manifestHash documents R medium.disk →
      OnDiskGrown codec universeId manifestHash documents R' medium.disk :=
    fun ⟨documents', hgrown, hdisk⟩ => ⟨documents', hgrown.mono hR, hdisk⟩
  cases stop with
  | refused reason => exact ⟨hS h.2.recorded reason h.1, h.2⟩
  | failed => exact ⟨h.1, hgrown h.2⟩
  | crashed => exact hgrown h

/-- The program does to the files of a history what the outcome says of the history. -/
def Does {α : Type} (codec : HistoryCodec Byte) (universeId manifestHash : String)
    (history : DirectoryHistory) (outcome : Fallible DirectoryHistory) (x : Storing Byte α) : Prop :=
  Triple (Live codec universeId manifestHash history.documents) x
    (fun _ medium => ∃ history', outcome = .ok history'
      ∧ Live codec universeId manifestHash history'.documents medium)
    (Stopped codec universeId manifestHash history.documents
      (fun document => ∃ history', outcome = .ok history'
        ∧ history'.documents = history.documents ++ [document])
      fun reason => outcome = .error reason ∨ ∃ next, Oversized codec history.documents next reason)

variable {α β : Type} {outcome : Fallible DirectoryHistory}

variable {a : α}

theorem Does.nothing :
    Does codec universeId manifestHash history (.ok history)
      (pure a : Storing Byte α) :=
  Triple.pure fun _ hlive => ⟨history, rfl, hlive⟩

variable {x : Storing Byte α}

theorem Does.forget
    (h : Does codec universeId manifestHash history outcome x) :
    Does codec universeId manifestHash history outcome (Program.forget x) :=
  Triple.bind h fun _ => Triple.pure fun _ hdone => hdone

theorem Does.andReturn {b : β}
    (h : Does codec universeId manifestHash history outcome x) :
    Does codec universeId manifestHash history outcome (x >>= fun _ => pure b) :=
  Triple.bind h fun _ => Triple.pure fun _ hdone => hdone

theorem Does.check {y : Fallible α} {f : α → Fallible DirectoryHistory}
    {x : α → Storing Byte β}
    (h : ∀ a, y = .ok a → Does codec universeId manifestHash history (f a) (x a)) :
    Does codec universeId manifestHash history (y >>= f) (Lib.check y >>= x) := by
  cases y with
  | ok a =>
    refine Triple.bind_check (fun _ he => absurd he (by simp)) fun a' ha => ?_
    obtain rfl := Except.ok.inj ha
    exact h a rfl
  | error e =>
    refine Triple.bind_check (fun e' he _ hlive => ⟨.inl ?_, hlive⟩)
      fun a ha => absurd ha (by simp)
    exact congrArg Except.error (Except.error.inj he)

theorem Does.read {x : DraftCellDirectoryHistoryStoreV3 → Storing Byte α}
    (h : Recorded codec universeId manifestHash history.documents →
      Does codec universeId manifestHash history outcome
        (x (storeOf codec universeId manifestHash history.documents))) :
    Does codec universeId manifestHash history outcome (memory >>= x) := by
  refine Triple.bind_memory fun found hfound => ?_
  rw [hfound.store]
  exact h hfound.recorded

theorem Does.look {x : HistoryMedium Byte → Storing Byte α}
    (h : ∀ found, found.disk.history = bytesOf codec history.documents →
      Does codec universeId manifestHash history outcome (x found)) :
    Does codec universeId manifestHash history outcome (get >>= x) :=
  Triple.bind_get fun found hfound => h found hfound.history

theorem Does.checked {x : α → Storing Byte β}
    (h : Does codec universeId manifestHash history outcome (x a)) :
    Does codec universeId manifestHash history outcome (Lib.check (.ok a) >>= x) :=
  Does.check (f := fun _ => outcome) fun a' ha => by rwa [← Except.ok.inj ha]

theorem does_appendDocument (hfit : HeadsFit codec universeId manifestHash) :
    Does codec universeId manifestHash history
      (history.advance codec.toDirectoryCodec next)
      (appendDocument codec (some history.current.directoryRevision)
        (some history.current.documentHash) next) := by
  have hnonempty : history.documents = [] → MayBegin next := by
    simp [DirectoryHistory.documents]
  have hcommits : ∀ document, Admits codec universeId manifestHash history.documents
      (some history.current.directoryRevision) (some history.current.documentHash) next document →
      ∃ history', history.advance codec.toDirectoryCodec next = .ok history'
        ∧ history'.documents = history.documents ++ [document] :=
    fun document hadmits => ⟨_, advance_of_admits hadmits, rfl⟩
  refine (appendDocument_triple hfit hnonempty).weaken (fun _ hlive => hlive) ?_ ?_
  · rintro _ medium ⟨documents', rfl | ⟨document, hadmits, rfl⟩, hlive, hlast⟩
    · rw [DirectoryHistory.documents, List.getLast?_concat] at hlast
      obtain rfl := Option.some.inj hlast
      exact ⟨history, advance_current hlive.recorded, hlive⟩
    · obtain ⟨history', hadvance, hdocuments⟩ := hcommits document hadmits
      exact ⟨history', hadvance, hdocuments ▸ hlive⟩
  · exact fun e medium hstopped => hstopped.mono hcommits fun hrecorded reason hdeclines =>
      (advance_of_declines hrecorded hdeclines).imp_right fun hsize => ⟨next, hsize⟩

theorem does_carryOut (hfit : HeadsFit codec universeId manifestHash)
    (decision : AuthorityDecision) :
    Does codec universeId manifestHash history
      (Prod.fst <$> decision.onHistory codec.toDirectoryCodec history)
      (carryOut codec history.current decision) := by
  cases decision with
  | retained assignment => exact Does.nothing
  | replaced next assignment =>
    have h : Prod.fst <$> AuthorityDecision.onHistory codec.toDirectoryCodec history
        (.replaced next assignment) = history.advance codec.toDirectoryCodec next := by
      rw [AuthorityDecision.onHistory]
      cases history.advance codec.toDirectoryCodec next <;> rfl
    rw [h]
    exact (does_appendDocument hfit).andReturn

theorem currentDocument_storeOf :
    currentDocument (storeOf codec universeId manifestHash history.documents) =
      .ok history.current := by
  rw [currentDocument, storeOf_current]
  rfl

theorem does_transitionOnDisk [DecidableEq Byte]
    (hfit : HeadsFit codec universeId manifestHash) :
    Does codec universeId manifestHash history
      (Prod.fst <$> transitionCellAuthority codec.toDirectoryCodec history cellKey generation
        holderId transition)
      (transitionOnDisk codec cellKey generation holderId transition) := by
  rw [transitionCellAuthority_eq, map_bind]
  unfold transitionOnDisk
  refine Does.read fun hrecorded => Does.look fun found hhistory => ?_
  rw [currentDocument_storeOf, hhistory]
  simp only [authorityPredecessorOnDisk_eq (leads_of_recorded hrecorded)]
  exact Does.check fun decision _ => Does.checked (does_carryOut hfit decision)

theorem does_releaseOnDisk [DecidableEq Byte]
    (hfit : HeadsFit codec universeId manifestHash) :
    Does codec universeId manifestHash history
      (Prod.fst <$> releaseCell codec.toDirectoryCodec history cellKey generation holderId)
      (releaseOnDisk codec cellKey generation holderId) := by
  rw [releaseCell_eq, map_bind]
  unfold releaseOnDisk
  refine Does.read fun hrecorded => Does.look fun found hhistory => ?_
  rw [currentDocument_storeOf, hhistory]
  simp only [releasePredecessorOnDisk_eq (leads_of_recorded hrecorded)]
  exact Does.check fun decision _ => Does.checked (does_carryOut hfit decision)

/-! A stage of a transfer is staged on the current document and committed after it. -/

variable {staged : Fallible CellDirectoryDocumentV3} {op : DirectoryV3Op}

theorem step_of_stage (h : op.stage codec.toDirectoryCodec history.current = some staged) :
    history.step codec.toDirectoryCodec op =
      staged >>= history.advance codec.toDirectoryCodec := by
  cases op with
  | claim _ _ _ | recover _ _ _ | release _ _ _ => cases h
  | _ =>
    obtain rfl := Option.some.inj h
    rfl

theorem actOnDisk_of_stage [DecidableEq Byte]
    {current} (h : op.stage codec.toDirectoryCodec current = some staged) :
    actOnDisk codec op = stageOnDisk codec op := by
  cases op with
  | claim _ _ _ | recover _ _ _ | release _ _ _ => cases h
  | _ => rfl

theorem does_stageOnDisk (hfit : HeadsFit codec universeId manifestHash)
    (h : op.stage codec.toDirectoryCodec history.current = some staged) :
    Does codec universeId manifestHash history
      (staged >>= history.advance codec.toDirectoryCodec) (stageOnDisk codec op) := by
  unfold stageOnDisk
  refine Does.read fun hrecorded => ?_
  rw [currentDocument_storeOf]
  refine Does.checked ?_
  rw [h]
  exact Does.check fun next _ => does_appendDocument hfit

theorem does_actOnDisk [DecidableEq Byte] (hfit : HeadsFit codec universeId manifestHash)
    (op : DirectoryV3Op) :
    Does codec universeId manifestHash history
      (history.step codec.toDirectoryCodec op) (actOnDisk codec op) := by
  cases hstage : op.stage codec.toDirectoryCodec history.current with
  | some staged =>
    rw [step_of_stage hstage, actOnDisk_of_stage hstage]
    exact does_stageOnDisk hfit hstage
  | none =>
    cases op with
    | claim cellKey generation holderId | recover cellKey generation holderId =>
      exact (does_transitionOnDisk hfit).forget
    | release cellKey generation holderId => exact (does_releaseOnDisk hfit).forget
    | _ => cases hstage

/-! ## After an error -/

section

variable {P : HistoryMedium Byte → Prop}
  (hpoisoned : ∀ medium, P medium → medium.memory.poisoned = true)

include hpoisoned

theorem refusing_appendDocument
    : Refusing P (appendDocument codec rev hash next) := by
  unfold appendDocument
  refine Triple.bind_memory fun found hfound => ?_
  refine Triple.bind_check (fun reason _ _ hmedium => ⟨hmedium, reason, rfl⟩) fun _ hok => ?_
  rw [rejectIf_eq_ok] at hok
  exact absurd (hpoisoned found hfound) hok

theorem refusing_carryOut (current : CellDirectoryDocumentV3) (decision : AuthorityDecision) :
    Refusing P (carryOut codec current decision) := by
  cases decision with
  | retained assignment => exact Refusing.pure
  | replaced next assignment =>
    exact (refusing_appendDocument hpoisoned).bind fun _ => Refusing.pure

theorem refusing_stageOnDisk (op : DirectoryV3Op) : Refusing P (stageOnDisk codec op) := by
  unfold stageOnDisk
  refine Refusing.memory.bind fun store => Refusing.check.bind fun current => ?_
  cases op.stage codec.toDirectoryCodec current with
  | none => exact Refusing.pure
  | some staged => exact Refusing.check.bind fun _ => refusing_appendDocument hpoisoned

theorem refusing_transitionOnDisk [DecidableEq Byte]
    (cellKey : CellKeyV1) (generation : Nat) (holderId : String)
    (transition : CellAuthorityTransitionV3) :
    Refusing P (transitionOnDisk codec cellKey generation holderId transition) := by
  unfold transitionOnDisk
  exact Refusing.memory.bind fun store => Refusing.get.bind fun _ => Refusing.check.bind
    fun decision => Refusing.check.bind fun current =>
      refusing_carryOut hpoisoned current decision

theorem refusing_actOnDisk [DecidableEq Byte]
    (op : DirectoryV3Op) : Refusing P (actOnDisk codec op) := by
  cases op with
  | claim cellKey generation holderId | recover cellKey generation holderId =>
    exact (refusing_transitionOnDisk hpoisoned _ _ _ _).forget
  | release cellKey generation holderId =>
    refine Refusing.forget ?_
    unfold releaseOnDisk
    exact Refusing.memory.bind fun store => Refusing.get.bind fun _ => Refusing.check.bind
      fun decision => Refusing.check.bind fun current =>
        refusing_carryOut hpoisoned current decision
  | _ =>
    unfold actOnDisk
    exact refusing_stageOnDisk hpoisoned _

end

end Verse.DirectoryV3
