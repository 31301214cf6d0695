import Mathlib.Data.String.Basic
import Verse.LifecycleV2.Opening

/-!
# What an operation is named

An operation is named by its kind, a generation and a holder, and the name has to be short and
made of a few letters only. A holder that is named like a player always makes a stable name. Any
other holder is refused when the operation is asked for, so that no record has one: `Orderly`
keeps this along the life of a cell, beside what else a cell keeps that no validator looks at.
-/

namespace Verse.LifecycleV2

open Lib Directory DirectoryV3 LifecycleRecordV2

variable {codec : LifecycleCodec} {installation : Installation codec} {cell next : LifecycleCell}
  {record prior : LifecycleRecordV2} {assignment : ValidatedCurrentCellAssignmentV3}
  {frontier : LifecycleWorldFrontierV2} {now : Nat} {holderId : String}
  {kind : LifecycleAuthorityOperationKindV2} {generation : Nat}

/-! ## Names -/

variable {c : Char}

theorem utf8Size_of_isDigit (h : c.isDigit = true) : c.utf8Size = 1 := by
  have hle : c.val.toNat ≤ 57 := by
    simp only [Char.isDigit, Bool.and_eq_true, decide_eq_true_eq] at h
    exact UInt32.le_iff_toNat_le.mp h.2
  have hascii : c.val ≤ 0x7f := UInt32.le_iff_toNat_le.mpr (by
    show c.val.toNat ≤ 127
    omega)
  simp [Char.utf8Size, hascii]

theorem utf8Len_of_digits {cs : List Char} (h : ∀ c ∈ cs, c.isDigit = true) :
    String.utf8Len cs = cs.length := by
  induction cs with
  | nil => rfl
  | cons c cs ih =>
    rw [String.utf8Len_cons, utf8Size_of_isDigit (h c List.mem_cons_self),
      ih fun d hd => h d (List.mem_cons_of_mem c hd), List.length_cons]

theorem toList_toString (n : Nat) : (toString n).toList = Nat.toDigits 10 n := Nat.toList_repr

variable {n : Nat}

theorem isDigit_of_mem_toString (h : c ∈ (toString n).toList) :
    c.isDigit = true := by
  rw [toList_toString] at h
  exact Nat.isDigit_of_mem_toDigits (by decide) (by decide) h

theorem utf8ByteSize_toString_le {k : Nat} (hk : 0 < k) (h : n < 10 ^ k) :
    (toString n).utf8ByteSize ≤ k := by
  rw [← String.ofList_toList (s := toString n), String.utf8ByteSize_ofList,
    utf8Len_of_digits fun c hc => isDigit_of_mem_toString hc, toList_toString]
  exact (Nat.length_toDigits_le_iff (by decide) hk).mpr h

/-- A letter that the name of an operation may have. -/
def operationLetter (c : Char) : Bool := c.isAlphanum || c == '-' || c == '_' || c == '.'

/-- The holder is spelled in the letters of an operation. -/
def SpelledOut (holderId : String) : Prop := holderId.toList.all operationLetter = true

theorem spelledOut_iff : SpelledOut holderId ↔ holderId.toList.all
    (fun c => c.isAlphanum || (c == '-' || c == '_' || c == '.')) = true := by
  simp only [SpelledOut, operationLetter, List.all_eq_true, Bool.or_assoc]

theorem operationIdStable_iff : operationIdStable (lifecycleOperationId kind generation holderId) ↔
    (lifecycleOperationId kind generation holderId).utf8ByteSize ≤ 192 ∧ SpelledOut holderId := by
  refine and_congr_right fun _ => ?_
  have hkind : kind.word.toList.all operationLetter = true := by
    cases kind with
    | claim | recovery | release => decide
  have hgeneration : (toString generation).toList.all operationLetter = true :=
    List.all_eq_true.mpr fun c hc => by
      simp [operationLetter, Char.isAlphanum, isDigit_of_mem_toString hc]
  show (lifecycleOperationId kind generation holderId).toList.all operationLetter = true ↔ _
  simp only [lifecycleOperationId, String.toList_append, List.all_append, hkind, hgeneration,
    Bool.and_true, SpelledOut]
  rfl

theorem operationIdStable_of_validPlayerId (hgeneration : generation ≤ u64Max)
    (hholder : validPlayerId holderId = true) :
    operationIdStable (lifecycleOperationId kind generation holderId) := by
  simp only [validPlayerId, boundedText, Bool.and_eq_true, decide_eq_true_eq] at hholder
  obtain ⟨⟨-, hsize⟩, hletters⟩ := hholder
  refine operationIdStable_iff.mpr ⟨?_, ?_⟩
  · have hdigits : (toString generation).utf8ByteSize ≤ 20 :=
      utf8ByteSize_toString_le (by decide) (Nat.lt_of_le_of_lt hgeneration (by decide))
    have hword : kind.word.utf8ByteSize ≤ 7 := by
      cases kind with
      | claim | recovery | release => decide
    have hprefix : "lifecycle-".utf8ByteSize = 10 := by decide
    have hdash : "-".utf8ByteSize = 1 := by decide
    simp only [lifecycleOperationId, String.utf8ByteSize_append, hprefix, hdash]
    omega
  · exact spelledOut_iff.mpr hletters

/-- A holder that the directory and the lifecycle have both taken is named like a player. -/
theorem validPlayerId_of_validStableId (hstable : validStableId holderId = true)
    (hspelled : SpelledOut holderId) : validPlayerId holderId = true := by
  simp only [validStableId, validPlayerId, boundedText, Bool.and_eq_true] at hstable ⊢
  exact ⟨hstable.1, spelledOut_iff.mp hspelled⟩

theorem isWhitespace_of_operationLetter (h : operationLetter c = true) :
    isWhitespace c = false := by
  simp only [operationLetter, Char.isAlphanum, Char.isAlpha, Char.isUpper, Char.isLower,
    Char.isDigit, Bool.or_eq_true, Bool.and_eq_true, decide_eq_true_eq, beq_iff_eq, ge_iff_le,
    UInt32.le_iff_toNat_le] at h
  -- a letter or a digit is nowhere near the white space
  have hrange : ∀ low high : Nat, 0x20 < low → high < 0x85 → low ≤ c.toNat → c.toNat ≤ high →
      isWhitespace c = false := by
    intro low high hlow hhigh hle hge
    simp only [isWhitespace, Bool.or_eq_false_iff, Bool.and_eq_false_iff, decide_eq_false_iff_not]
    omega
  rcases h with ((((h | h) | h) | rfl) | rfl) | rfl
  · exact hrange 65 90 (by decide) (by decide) h.1 h.2
  · exact hrange 97 122 (by decide) (by decide) h.1 h.2
  · exact hrange 48 57 (by decide) (by decide) h.1 h.2
  all_goals rfl

theorem isBlank_of_validPlayerId (h : validPlayerId holderId = true) : isBlank holderId = false := by
  simp only [validPlayerId, boundedText, Bool.and_eq_true, Bool.not_eq_true',
    List.isEmpty_eq_false_iff] at h
  obtain ⟨⟨hne, -⟩, hletters⟩ := h
  obtain ⟨c, hc⟩ := List.exists_mem_of_ne_nil _ hne
  refine List.all_eq_false.mpr ⟨c, hc, ?_⟩
  rw [isWhitespace_of_operationLetter]
  · decide
  · simpa only [operationLetter, Bool.or_assoc] using List.all_eq_true.mp hletters c hc

/-! ## What a cell keeps -/

/-- The holders of the record are spelled out, and only a cell that is held has begun a commit. -/
structure LifecycleRecordV2.Proper (record : LifecycleRecordV2) : Prop where
  holder : ∀ holderId, record.holderId = some holderId → SpelledOut holderId
  operation : ∀ operation, record.authorityOperation = some operation →
    SpelledOut operation.holderId
  commit : record.pendingWorldCommit ≠ none → record.observedMode = .background

variable {transition : LifecycleTransitionV2}

theorem LifecycleRecordV2.Proper.of_apply
    (hproper : prior.Proper) (h : prior.apply codec assignment frontier now transition = .ok record) :
    record.Proper := by
  cases transition with
  | requestAuthority kind holderId =>
    obtain ⟨-, -, hkind, -, -, -, hstable, ⟨-, -, hcanonical, rfl⟩⟩ := requestAuthority_eq_ok.mp h
    refine ⟨hproper.holder, fun operation hoperation => ?_, fun hpending => ?_⟩
    · obtain rfl := Option.some.inj hoperation
      exact (operationIdStable_iff.mp hstable).2
    · -- a commit is pending only beside a recovery, which leaves the mode alone
      obtain rfl := hkind (Option.isSome_iff_ne_none.mpr hpending)
      exact hproper.commit hpending
  | finalizeAssigned =>
    obtain ⟨operation, hoperation, -, -, hholder, -, -, -, -, ⟨-, -, -, rfl⟩⟩ :=
      finalizeAssigned_eq_ok.mp h
    refine ⟨fun holderId hsome => ?_, fun _ hsome => (by cases hsome), fun _ => rfl⟩
    obtain rfl := Option.mem_unique hholder hsome
    exact hproper.operation operation hoperation
  | renewAndSetSchedule nextOccurrence =>
    obtain ⟨-, -, -, -, ⟨-, -, -, rfl⟩⟩ := renewAndSetSchedule_eq_ok.mp h
    exact ⟨hproper.holder, hproper.operation, hproper.commit⟩
  | beginWorldCommit =>
    obtain ⟨hlive, -, _, -, -, -, ⟨-, -, -, rfl⟩⟩ := beginWorldCommit_eq_ok.mp h
    exact ⟨hproper.holder, hproper.operation, fun _ => hlive.background⟩
  | acknowledgeWorldCommit nextOccurrence =>
    obtain ⟨-, _, -, -, -, -, ⟨-, -, -, rfl⟩⟩ := acknowledgeWorldCommit_eq_ok.mp h
    exact ⟨hproper.holder, hproper.operation, fun hpending => absurd rfl hpending⟩
  | finalizeSleeping =>
    obtain ⟨_, -, -, -, -, -, -, ⟨-, -, -, rfl⟩⟩ := finalizeSleeping_eq_ok.mp h
    exact ⟨fun _ hsome => (by cases hsome), fun _ hsome => (by cases hsome),
      fun hpending => absurd rfl hpending⟩

theorem worldFrontier_of_apply
    (hregistry : frontier.celestialRegistryHash = prior.celestialRegistryHash)
    (h : prior.apply codec assignment frontier now transition = .ok record) :
    record.worldFrontier = prior.worldFrontier ∨ record.worldFrontier = frontier := by
  cases transition with
  | requestAuthority kind holderId =>
    obtain ⟨-, -, -, -, -, -, -, ⟨-, -, -, rfl⟩⟩ := requestAuthority_eq_ok.mp h
    exact .inl rfl
  | finalizeAssigned =>
    obtain ⟨_, -, -, -, -, -, -, -, -, ⟨-, -, -, rfl⟩⟩ := finalizeAssigned_eq_ok.mp h
    exact .inl rfl
  | renewAndSetSchedule nextOccurrence =>
    obtain ⟨-, -, -, -, ⟨-, -, -, rfl⟩⟩ := renewAndSetSchedule_eq_ok.mp h
    exact .inl rfl
  | beginWorldCommit =>
    obtain ⟨-, -, _, -, -, -, ⟨-, -, -, rfl⟩⟩ := beginWorldCommit_eq_ok.mp h
    exact .inl rfl
  | acknowledgeWorldCommit nextOccurrence =>
    obtain ⟨-, _, -, -, -, -, ⟨-, -, -, rfl⟩⟩ := acknowledgeWorldCommit_eq_ok.mp h
    refine .inr ?_
    cases frontier
    cases hregistry
    rfl
  | finalizeSleeping =>
    obtain ⟨_, -, -, -, -, -, -, ⟨-, -, -, rfl⟩⟩ := finalizeSleeping_eq_ok.mp h
    exact .inl rfl

/-- The world is the record's own, and a world that has left the record behind is one that the
    record can be moved to. -/
structure Orderly (cell : LifecycleCell) : Prop where
  record : cell.current.Proper
  universeId : cell.world.base.universeId = cell.current.universeId
  cellId : cell.world.base.cellId = cell.current.cellId
  manifestHash : cell.world.base.universeManifestHash = cell.current.manifestHash
  populated : cell.world.lifecycleWorldFrontier ≠ cell.current.worldFrontier →
    Populated cell.world.lifecycleWorldFrontier

theorem Installation.orderly (installation : Installation codec) :
    Orderly installation.start := by
  have hpinned := installation.pinned
  have huniverse := (assignmentFromDocument_eq_ok.mp installation.assignment_current).2.2.2.1
  have hrecord := installation.record_eq
  refine ⟨⟨fun holderId hsome => ?_, fun operation hsome => ?_, fun hpending => ?_⟩, ?_, ?_, ?_,
    fun hmoved => absurd ?_ hmoved⟩
  · rw [Installation.start, hrecord] at hsome
    cases hsome
  · rw [Installation.start, hrecord] at hsome
    cases hsome
  · rw [Installation.start, hrecord] at hpending
    exact absurd rfl hpending
  · show installation.world.base.universeId = installation.record.universeId
    rw [hrecord, installation.world_universe, ← huniverse]
    rfl
  · show installation.world.base.cellId = installation.record.cellId
    rw [hrecord, installation.world_cell, ← hpinned.cellId]
    rfl
  · show installation.world.base.universeManifestHash = installation.record.manifestHash
    rw [hrecord, installation.world_manifest, ← hpinned.manifestHash]
    rfl
  · show installation.world.lifecycleWorldFrontier = installation.record.worldFrontier
    rw [hrecord]
    rfl

theorem populated_of_quantum {world after : ActivatedWorld} {quantum pending}
    (hcanonical : record.Canonical codec) (hpending : record.pendingWorldCommit = some pending)
    (hfrontier : world.lifecycleWorldFrontier = record.worldFrontier)
    (h : world.appendProductionOccurrence pending.occurrence now quantum = some after) :
    Populated after.lifecycleWorldFrontier := by
  obtain ⟨-, -, -, -, -, hafter⟩ := appendProductionOccurrence_eq_some h
  have hcursor := hcanonical.armed _ (hcanonical.armed_of_pending hpending)
  have hevent : world.base.eventSequence = record.lastWorldEventSequence :=
    congrArg (·.eventSequence) hfrontier
  rw [hafter]
  refine ⟨Nat.succ_pos _, quantum.eventHash_hex, quantum.stateHash_hex,
    quantum.activeWorldHash_hex, ?_, ?_⟩
  · rw [show world.base.productionClock.lifecycleGeneration = record.productionLifecycleGeneration
      from congrArg (·.productionLifecycleGeneration) hfrontier]
    exact hcanonical.fields.productionGeneration
  · show pending.occurrence.productionQuantumSequence ≤ world.base.eventSequence + 1
    rw [hcursor.sequence, hevent]
    exact Nat.succ_le_succ hcanonical.fields.acknowledged

theorem Orderly.step (horderly : Orderly cell) (hsound : Sound codec cell)
    (hstep : cell.Step codec next) : Orderly next := by
  cases hstep with
  | appended made accepted =>
    obtain ⟨assignment, -, hmade⟩ := transition_eq_ok.mp made
    have hidentity := (nextRecord_of_apply hmade).identity
    refine ⟨horderly.record.of_apply hmade,
      horderly.universeId.trans (congrArg (·.universeId) hidentity).symm,
      horderly.cellId.trans (congrArg (·.cellId) hidentity).symm,
      horderly.manifestHash.trans (congrArg (·.manifestHash) hidentity).symm, fun hmoved => ?_⟩
    rcases worldFrontier_of_apply hsound.world.registry hmade with hkept | hinstalled
    · exact horderly.populated fun hsame => hmoved (hsame.trans hkept.symm)
    · exact absurd hinstalled.symm hmoved
  | directory driven committed =>
    exact { horderly with }
  | world found authority awaited committed =>
    obtain ⟨-, -, huniverse, hcell, hmanifest, -⟩ := appendProductionOccurrence_eq_some committed
    exact ⟨horderly.record, huniverse.trans horderly.universeId, hcell.trans horderly.cellId,
      hmanifest.trans horderly.manifestHash, fun _ => populated_of_quantum hsound.canonical awaited
        (requireEventAppendAuthority_frontier authority) committed⟩

theorem Reached.orderly (h : Reached installation cell) : Orderly cell := by
  induction h with
  | start => exact installation.orderly
  | step before moved ih => exact ih.step before.sound moved

end Verse.LifecycleV2
