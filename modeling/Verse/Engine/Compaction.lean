import Verse.Engine.Frame
import Verse.Lib.Chained

/-!
# Operation histories are compacted

A history keeps the newest records of an actor and one hash for all those before them. `Since`
compares it with the history that would have kept everything: what was there at first and what
has been entered since are one list, whose oldest part has gone into the hash record by record
and whose rest is retained. Entering a record and giving up the oldest one both keep that, so it
holds after any calls (`histories_compacted`).

A call is followed here with the world as it leaves it, refused or not. The entry of the actor is
made before the sequence of the record is looked at, so a refusal may leave an empty history
behind (`Premature`).
-/

namespace Verse

open Lib

variable {host : Host} {history start : ActorOperationHistory}
  {records : List (Nat × ProcessedOperationRecord)}

/-! ## One history -/

/-- The hash of a history that gives up some records, the oldest first. -/
def compactedHash (host : Host) (hash : String)
    (records : List (Nat × ProcessedOperationRecord)) : String :=
  records.foldl (fun hash entry => host.compactionHash hash entry.1 entry.2) hash

/-- What is retained is within its bounds, and numbered without a gap up to the last sequence. -/
structure ActorOperationHistory.Canonical (host : Host) (history : ActorOperationHistory) :
    Prop where
  bounded : operationHistoryCrossesRetentionBound host history = false
  contiguous : history.retained.keys
    = List.range' (history.compactedThrough + 1) history.retained.size
  counted : history.committedThrough = history.compactedThrough + history.retained.size

/-- What a history has come to from what it was at first, after some more records. -/
structure Since (host : Host) (start : ActorOperationHistory)
    (records : List (Nat × ProcessedOperationRecord)) (history : ActorOperationHistory) :
    Prop where
  committed : history.committedThrough = start.committedThrough + records.length
  numbered : (start.retained.entries ++ records).map Prod.fst = List.range'
    (start.compactedThrough + 1) (start.retained.entries ++ records).length
  split : ∃ compacted, compacted ++ history.retained.entries = start.retained.entries ++ records
    ∧ history.compactedThrough = start.compactedThrough + compacted.length
    ∧ history.compactedHistoryHash = compactedHash host start.compactedHistoryHash compacted

theorem Since.refl (h : history.Canonical host) : Since host history [] history where
  committed := rfl
  numbered := by
    rw [List.append_nil]
    exact h.contiguous
  split := ⟨[], (List.append_nil _).symm, rfl, rfl⟩

theorem Since.canonical (h : Since host start records history) (hstart : start.Canonical host)
    (hbounded : operationHistoryCrossesRetentionBound host history = false) :
    history.Canonical host := by
  obtain ⟨compacted, hall, hthrough, -⟩ := h.split
  have hnumbered := h.numbered
  rw [← hall, List.length_append, List.range'_append_1.symm, List.map_append] at hnumbered
  have hlengths := congrArg List.length hall
  have hcounted := hstart.counted
  have hcommitted := h.committed
  simp only [List.length_append] at hlengths
  refine ⟨hbounded, ?_, ?_⟩
  · have hrest := (List.append_inj hnumbered (by simp)).2
    rw [hthrough]
    refine hrest.trans (congrArg (List.range' · _) ?_)
    omega
  · rw [OrdMap.size] at hcounted ⊢
    omega

theorem Since.compactOldest {sequence : Nat} {record rest} (h : Since host start records history)
    (hentries : history.retained.entries = (sequence, record) :: rest) :
    Since host start records (compactOldest host history sequence record) := by
  obtain ⟨compacted, hall, hthrough, hhash⟩ := h.split
  rw [hentries] at hall
  have hrest : (history.retained.erase sequence).entries = rest := by
    have hsorted := history.retained.sorted
    rw [hentries, OrdMap.Sorted, List.pairwise_cons] at hsorted
    show history.retained.entries.filter _ = rest
    rw [hentries, List.filter_cons_of_neg (by simp), List.filter_eq_self]
    intro entry hentry
    simpa using (hsorted.1 entry hentry).ne'
  have hsequence : sequence =
      start.compactedThrough + (compacted ++ [(sequence, record)]).length := by
    have hnumbered := congrArg (·[compacted.length]?) h.numbered
    simp only [← hall, List.map_append, List.map_cons, List.length_append,
      List.length_cons] at hnumbered
    rw [List.getElem?_append_right (by simp), List.getElem?_range' (by omega)] at hnumbered
    simp only [List.length_map, Nat.sub_self, List.getElem?_cons_zero,
      Option.some.injEq] at hnumbered
    simp only [List.length_append, List.length_singleton]
    omega
  refine ⟨h.committed, h.numbered, compacted ++ [(sequence, record)], ?_, hsequence, ?_⟩
  · rw [← hall, List.append_assoc]
    exact congrArg (fun entries => compacted ++ (sequence, record) :: entries) hrest
  · show host.compactionHash history.compactedHistoryHash sequence record = _
    rw [hhash, compactedHash, compactedHash, List.foldl_append]
    rfl

variable {fuel : Nat}

theorem Since.compactHistory (h : Since host start records history) :
    Since host start records (compactHistory host fuel history) := by
  induction fuel generalizing history with
  | zero => exact h
  | succ fuel ih =>
    rw [Verse.compactHistory]
    split
    · split
      · exact h
      · rename_i hentries
        exact ih (h.compactOldest hentries)
    · exact h

theorem crosses_compactHistory
    (hempty : operationHistoryCrossesRetentionBound host .fresh = false)
    (hfuel : history.retained.size ≤ fuel) :
    operationHistoryCrossesRetentionBound host (compactHistory host fuel history) = false := by
  have hnone : ∀ history : ActorOperationHistory, history.retained.entries = [] →
      operationHistoryCrossesRetentionBound host history = false := by
    intro history hentries
    have hretained : history.retained = OrdMap.empty := OrdMap.ext fun k => by
      rw [OrdMap.get?, hentries]
      rfl
    rw [operationHistoryCrossesRetentionBound, hretained]
    exact hempty
  induction fuel generalizing history with
  | zero => exact hnone history (List.eq_nil_of_length_eq_zero (Nat.le_zero.mp hfuel))
  | succ fuel ih =>
    rw [compactHistory]
    split
    · split
      · rename_i hentries
        exact hnone history hentries
      · rename_i sequence record rest hentries
        refine ih ?_
        have herased : (history.retained.erase sequence).size < history.retained.size := by
          show (history.retained.entries.filter _).length < history.retained.entries.length
          rw [hentries, List.filter_cons_of_neg (by simp)]
          exact Nat.lt_succ_of_le (List.length_filter_le _ _)
        exact Nat.le_of_lt_succ (herased.trans_le hfuel)
    · rename_i hwithin
      exact Bool.not_eq_true _ ▸ hwithin

/-- A history with one more record, within its bounds again. -/
def ActorOperationHistory.commit (host : Host) (history : ActorOperationHistory)
    (entry : Nat × ProcessedOperationRecord) : ActorOperationHistory :=
  compactHistory host (history.retained.insert entry.1 entry.2).size { history with
    committedThrough := entry.1
    retained := history.retained.insert entry.1 entry.2 }

variable {entry : Nat × ProcessedOperationRecord}

theorem Since.commit (hstart : start.Canonical host)
    (hhistory : history.Canonical host) (h : Since host start records history)
    (hnext : entry.1 = history.committedThrough + 1) :
    Since host start (records ++ [entry]) (history.commit host entry) := by
  refine Since.compactHistory ?_
  have hgrown : (history.retained.insert entry.1 entry.2).entries =
      history.retained.entries ++ [entry] := by
    refine OrdMap.entries_insert_of_gt fun prior hprior => ?_
    have hkey : prior.1 ∈ history.retained.keys := List.mem_map_of_mem hprior
    rw [hhistory.contiguous, List.mem_range'_1] at hkey
    have := hhistory.counted
    omega
  obtain ⟨compacted, hall, hthrough, hhash⟩ := h.split
  refine ⟨?_, ?_, compacted, ?_, hthrough, hhash⟩
  · rw [List.length_append, ← Nat.add_assoc, ← h.committed]
    exact hnext
  · have hfirst : entry.1 =
        start.compactedThrough + 1 + (start.retained.entries ++ records).length := by
      have hcommitted := h.committed
      have hcounted := hstart.counted
      rw [OrdMap.size] at hcounted
      rw [List.length_append]
      omega
    rw [← List.append_assoc, List.map_append, h.numbered,
      show ((start.retained.entries ++ records) ++ [entry]).length =
        (start.retained.entries ++ records).length + 1 from List.length_append,
      List.range'_1_concat, ← hfirst]
    rfl
  · rw [← List.append_assoc, ← hall, List.append_assoc]
    exact congrArg (compacted ++ ·) hgrown

/-- What a history comes to by records that are entered one at a time. -/
structure Compacted (host : Host) (start : ActorOperationHistory)
    (records : List (Nat × ProcessedOperationRecord)) (history : ActorOperationHistory) :
    Prop where
  canonical : history.Canonical host
  since : Since host start records history
  /-- Nothing but the records decides it, in whatever portions they came. -/
  replayed : history = records.foldl (·.commit host) start

theorem Compacted.commit (hstart : start.Canonical host)
    (hempty : operationHistoryCrossesRetentionBound host .fresh = false)
    (h : Compacted host start records history) (hnext : entry.1 = history.committedThrough + 1) :
    Compacted host start (records ++ [entry]) (history.commit host entry) where
  canonical := (h.since.commit hstart h.canonical hnext).canonical hstart
    (crosses_compactHistory hempty le_rfl)
  since := h.since.commit hstart h.canonical hnext
  replayed := by
    rw [List.foldl_append, ← h.replayed]
    rfl

/-! ## One call -/

namespace WorldState

variable {w : WorldState} {actorPlayerId : String} {record : ProcessedOperationRecord}

/-- What a call refuses a record for without a look at the history. -/
def Unidentified (w : WorldState) (record : ProcessedOperationRecord) : Prop :=
  isBlank record.operationId
    ∨ record.operationId.utf8ByteSize > 128
    ∨ validBlake3Hex record.intentFingerprint = false
    ∨ validBlake3Hex record.receiptOriginCellId = false
    ∨ record.receipt.operationId ≠ record.operationId
    ∨ record.receipt.eventSequence = 0
    ∨ (record.receiptOriginCellId = w.cellId ∧ record.receipt.eventSequence > w.eventSequence)
    ∨ isBlank record.receipt.code

instance (w : WorldState) (record : ProcessedOperationRecord) :
    Decidable (w.Unidentified record) := by
  unfold Unidentified; infer_instance

/-- `record_processed_operation` with the world it leaves: the history is made, if there is none,
    before the sequence of the record is looked at. -/
def recordProcessedOperationInPlace (host : Host) (w : WorldState) (actorPlayerId : String)
    (record : ProcessedOperationRecord) : Except String Unit × WorldState :=
  if w.Unidentified record then (.error "processed operation record identity is invalid", w)
  else
    let history := w.operationHistory actorPlayerId
    let entered := w.withHistory actorPlayerId history
    match checkedAdd history.committedThrough 1 with
    | none => (.error "operation sequence space is exhausted", entered)
    | some expected =>
      if record.receipt.operationSequence ≠ expected then
        (.error s!"operation sequence {record.receipt.operationSequence} does not match expected {expected}",
          entered)
      else if ∃ prior ∈ history.retained.values,
          prior.receiptOriginCellId = record.receiptOriginCellId
            ∧ prior.receipt.eventSequence ≥ record.receipt.eventSequence then
        (.error "processed operation receipt event sequences must advance monotonically within each origin cell",
          entered)
      else (.ok (), entered.withHistory actorPlayerId (history.commit host (expected, record)))

theorem withHistory_withHistory {later} :
    (w.withHistory actorPlayerId history).withHistory actorPlayerId later =
      w.withHistory actorPlayerId later := by
  simp only [withHistory, OrdMap.insert_insert]

/-- All that a call can come to. -/
inductive Recorded (host : Host) (w : WorldState) (actorPlayerId : String)
    (record : ProcessedOperationRecord) : Except String Unit × WorldState → Prop
  | unidentified {reason : String} (identity : w.Unidentified record) :
    Recorded host w actorPlayerId record (.error reason, w)
  | refused {reason : String} (identity : ¬ w.Unidentified record)
      (known : record.receipt.operationSequence ≠ 1
        ∨ w.processedOperations.get? actorPlayerId ≠ none) :
    Recorded host w actorPlayerId record
      (.error reason, w.withHistory actorPlayerId (w.operationHistory actorPlayerId))
  | entered (next : record.receipt.operationSequence
        = (w.operationHistory actorPlayerId).committedThrough + 1) :
    Recorded host w actorPlayerId record (.ok (), w.withHistory actorPlayerId
      ((w.operationHistory actorPlayerId).commit host
        ((w.operationHistory actorPlayerId).committedThrough + 1, record)))

theorem operationHistory_of_none (h : w.processedOperations.get? actorPlayerId = none) :
    w.operationHistory actorPlayerId = .fresh := by
  rw [operationHistory, h]
  rfl

theorem recorded (host : Host) (w : WorldState) (actorPlayerId : String)
    (record : ProcessedOperationRecord) :
    Recorded host w actorPlayerId record
      (w.recordProcessedOperationInPlace host actorPlayerId record) := by
  unfold recordProcessedOperationInPlace
  split
  · rename_i hidentity
    exact .unidentified hidentity
  rename_i hidentity
  dsimp only
  split
  · rename_i hfull
    refine .refused hidentity (.inr fun hnone => ?_)
    rw [operationHistory_of_none hnone] at hfull
    exact nomatch hfull
  rename_i expected hexpected
  obtain ⟨-, rfl⟩ := checkedAdd_eq_some.mp hexpected
  split
  · rename_i hother
    refine .refused hidentity ?_
    by_contra hneither
    rw [not_or, not_not, not_not] at hneither
    rw [operationHistory_of_none hneither.2] at hother
    exact hother hneither.1
  rename_i hnext
  split
  · rename_i hlater
    refine .refused hidentity (.inr fun hnone => ?_)
    obtain ⟨prior, hprior, -⟩ := hlater
    rw [operationHistory_of_none hnone] at hprior
    exact List.not_mem_nil hprior
  · rw [withHistory_withHistory]
    exact .entered (not_not.mp hnext)

/-- A refused call leaves every history as it was. -/
def Harmless (host : Host) (w : WorldState) (actorPlayerId : String)
    (record : ProcessedOperationRecord) : Prop :=
  ∀ reason, (w.recordProcessedOperationInPlace host actorPlayerId record).1 = .error reason →
    (w.recordProcessedOperationInPlace host actorPlayerId record).2.processedOperations
      = w.processedOperations

/-- The first record of an actor, and its sequence is not the first. -/
def Premature (w : WorldState) (actorPlayerId : String) (record : ProcessedOperationRecord) :
    Prop :=
  ¬ w.Unidentified record ∧ w.processedOperations.get? actorPlayerId = none
    ∧ record.receipt.operationSequence ≠ 1

theorem harmless_iff : w.Harmless host actorPlayerId record ↔ ¬ w.Premature actorPlayerId record := by
  unfold Harmless
  generalize hcall : w.recordProcessedOperationInPlace host actorPlayerId record = call
  cases hcall ▸ w.recorded host actorPlayerId record with
  | unidentified identity => exact ⟨fun _ h => h.1 identity, fun _ _ _ => rfl⟩
  | refused identity known =>
    constructor
    · rintro hsame ⟨-, hnone, -⟩
      have hadded := congrArg (·.get? actorPlayerId) (hsame _ rfl)
      dsimp only [withHistory] at hadded
      rw [OrdMap.get?_insert_self, hnone] at hadded
      exact nomatch hadded
    · intro hpremature _ _
      cases hhistory : w.processedOperations.get? actorPlayerId with
      | none =>
        refine absurd ⟨identity, hhistory, known.resolve_right ?_⟩ hpremature
        exact not_not.mpr hhistory
      | some history =>
        refine OrdMap.ext fun k => ?_
        rw [withHistory, operationHistory, hhistory, OrdMap.get?_insert]
        split
        · rename_i hkey
          rw [hkey, hhistory]
          rfl
        · rfl
  | entered next =>
    refine ⟨fun _ h => h.2.2 ?_, fun _ _ h => nomatch h⟩
    rw [next, operationHistory_of_none h.2.1]
    rfl

/-! ## Many calls -/

/-- A call, or anything else that happens to the world in between. -/
inductive HistoryMove where
  | record (actorPlayerId : String) (record : ProcessedOperationRecord)
  | elsewhere (w : WorldState)

/-- A call leaves what it made of the histories, also when it is refused. -/
def afterMove (host : Host) (w : WorldState) : HistoryMove → WorldState
  | .record actorPlayerId record =>
    (w.recordProcessedOperationInPlace host actorPlayerId record).2
  | .elsewhere w' => { w' with processedOperations := w.processedOperations }

/-- The record a move enters into the history of an actor, under its sequence. -/
def enteredBy (host : Host) (actorPlayerId : String) (w : WorldState) :
    HistoryMove → List (Nat × ProcessedOperationRecord)
  | .record caller record =>
    if caller = actorPlayerId ∧ (w.recordProcessedOperationInPlace host caller record).1.isOk then
      [((w.operationHistory actorPlayerId).committedThrough + 1, record)]
    else []
  | .elsewhere _ => []

/-- The records that a run enters into the history of an actor. -/
def enteredAlong (host : Host) (actorPlayerId : String) :
    WorldState → List HistoryMove → List (Nat × ProcessedOperationRecord)
  | _, [] => []
  | w, move :: moves =>
    enteredBy host actorPlayerId w move ++ enteredAlong host actorPlayerId (afterMove host w move) moves

variable {move : HistoryMove} {moves : List HistoryMove}

theorem operationHistory_withHistory (caller : String) :
    (w.withHistory caller history).operationHistory actorPlayerId =
      if caller = actorPlayerId then history else w.operationHistory actorPlayerId := by
  rw [operationHistory, withHistory, OrdMap.get?_insert]
  by_cases hcaller : caller = actorPlayerId
  · rw [if_pos hcaller, if_pos hcaller.symm]
    rfl
  · rw [if_neg hcaller, if_neg fun h => hcaller h.symm]
    rfl

theorem compacted_afterMove (hstart : start.Canonical host)
    (hempty : operationHistoryCrossesRetentionBound host .fresh = false)
    (h : Compacted host start records (w.operationHistory actorPlayerId)) :
    Compacted host start (records ++ enteredBy host actorPlayerId w move)
      ((afterMove host w move).operationHistory actorPlayerId) := by
  cases move with
  | elsewhere w' =>
    rw [enteredBy, List.append_nil]
    exact h
  | record caller record =>
    rw [enteredBy, afterMove]
    generalize hcall : w.recordProcessedOperationInPlace host caller record = call
    cases hcall ▸ w.recorded host caller record with
    | unidentified =>
      simpa [Except.isOk, Except.toBool] using h
    | refused =>
      have hsame : (w.withHistory caller (w.operationHistory caller)).operationHistory
          actorPlayerId = w.operationHistory actorPlayerId := by
        rw [operationHistory_withHistory]
        split
        · rename_i hcaller
          rw [hcaller]
        · rfl
      simpa [Except.isOk, Except.toBool, hsame] using h
    | entered =>
      rw [operationHistory_withHistory]
      by_cases hcaller : caller = actorPlayerId
      · rw [if_pos ⟨hcaller, rfl⟩, if_pos hcaller, hcaller]
        exact h.commit hstart hempty rfl
      · rw [if_neg fun hentered => hcaller hentered.1, if_neg hcaller, List.append_nil]
        exact h

theorem compacted_along (hstart : start.Canonical host)
    (hempty : operationHistoryCrossesRetentionBound host .fresh = false)
    (h : Compacted host start records (w.operationHistory actorPlayerId)) :
    Compacted host start (records ++ enteredAlong host actorPlayerId w moves)
      ((moves.foldl (afterMove host) w).operationHistory actorPlayerId) := by
  induction moves generalizing w records with
  | nil =>
    rw [enteredAlong, List.append_nil]
    exact h
  | cons move moves ih =>
    rw [enteredAlong, ← List.append_assoc]
    exact ih (compacted_afterMove hstart hempty h)

/-- What is asked of every call of a run. -/
def EachCall (host : Host) (asked : WorldState → String → ProcessedOperationRecord → Prop)
    (w : WorldState) (moves : List HistoryMove) : Prop :=
  Along (fun w move => (.ok (afterMove host w move) : Except Empty WorldState))
    (fun w move => ∀ actorPlayerId record, move = .record actorPlayerId record →
      asked w actorPlayerId record) w moves

theorem compacted_from (hempty : operationHistoryCrossesRetentionBound host .fresh = false)
    (hstart : (w.operationHistory actorPlayerId).Canonical host) (moves : List HistoryMove) :
    Compacted host (w.operationHistory actorPlayerId) (enteredAlong host actorPlayerId w moves)
      ((moves.foldl (afterMove host) w).operationHistory actorPlayerId) :=
  compacted_along hstart hempty ⟨hstart, .refl hstart, rfl⟩

/-- After any calls every history is compacted as it should be, and the refused ones among them
    have left all histories alone exactly if none was premature. -/
theorem histories_compacted_iff
    (hempty : operationHistoryCrossesRetentionBound host .fresh = false)
    (hstart : ∀ actorPlayerId, (w.operationHistory actorPlayerId).Canonical host)
    (moves : List HistoryMove) :
    (∀ actorPlayerId, Compacted host (w.operationHistory actorPlayerId)
        (enteredAlong host actorPlayerId w moves)
        ((moves.foldl (afterMove host) w).operationHistory actorPlayerId))
      ∧ (EachCall host (Harmless host) w moves ↔
        EachCall host (fun w actorPlayerId record => ¬ w.Premature actorPlayerId record)
          w moves) := by
  refine ⟨fun actorPlayerId => compacted_from hempty (hstart actorPlayerId) moves, ?_⟩
  rw [show Harmless host = fun w actorPlayerId record => ¬ w.Premature actorPlayerId record from
    funext₃ fun _ _ _ => propext harmless_iff]

/-! ## What the hash tells -/

/-- Two records with one hash, each put after a hash of its own. -/
def CompactionsCollide (host : Host) (hash : String) (entry : Nat × ProcessedOperationRecord)
    (hash' : String) (entry' : Nat × ProcessedOperationRecord) : Prop :=
  (hash, entry) ≠ (hash', entry')
    ∧ host.compactionHash hash entry.1 entry.2 = host.compactionHash hash' entry'.1 entry'.2

/-- The records that were there and those that a run enters. -/
def everEntered (host : Host) (actorPlayerId : String) (w : WorldState) (moves : List HistoryMove) :
    List (Nat × ProcessedOperationRecord) :=
  (w.operationHistory actorPlayerId).retained.entries ++ enteredAlong host actorPlayerId w moves

theorem chained_compactionHash :
    ChainedLog
      (fun hash entry => (.ok (host.compactionHash hash entry.1 entry.2) : Except Empty String))
      (fun hash entry => (.ok (host.compactionHash hash entry.1 entry.2) : Except Empty String))
      id id (CompactionsCollide host) := by
  intro hash next hash' next' entry entry' h h' hends
  cases h
  cases h'
  by_cases hsame : (hash, entry) = (hash', entry')
  · obtain ⟨rfl, rfl⟩ := Prod.mk.inj hsame
    exact .inl ⟨rfl, rfl⟩
  · exact .inr ⟨hsame, hends⟩

/-- Records that take one hash to one hash, as many on both sides. -/
theorem eq_of_compactedHash {hash : String} {entries entries' : List (Nat × ProcessedOperationRecord)}
    (hlength : entries.length = entries'.length)
    (hhash : compactedHash host hash entries = compactedHash host hash entries') :
    entries = entries' ∨ ∃ before entry before' entry', before ++ [entry] <+: entries
      ∧ before' ++ [entry'] <+: entries' ∧ CompactionsCollide host (compactedHash host hash before)
        entry (compactedHash host hash before') entry' := by
  rcases chained_compactionHash.suffix (runAll_total _ _ _) (runAll_total _ _ _) hhash with
    ⟨before, -, rfl, -⟩ | ⟨before, -, rfl, -⟩ | ⟨before, entry, before', entry', after, m, n, rfl,
      rfl, hm, hn, hcollides⟩
  · obtain rfl : before = [] := List.eq_nil_of_length_eq_zero (by simpa using hlength)
    exact .inl rfl
  · obtain rfl : before = [] := List.eq_nil_of_length_eq_zero (by simpa using hlength)
    exact .inl rfl
  · obtain rfl := ok_unique (runAll_total _ _ _) hm
    obtain rfl := ok_unique (runAll_total _ _ _) hn
    exact .inr ⟨before, entry, before', entry', by simp, by simp, hcollides⟩

variable {v : WorldState} {others : List HistoryMove}

/-- Two runs enter records that one hash comes of. -/
def RunsCompactAlike (host : Host) (actorPlayerId : String) (w : WorldState)
    (moves : List HistoryMove) (v : WorldState) (others : List HistoryMove) : Prop :=
  ∃ before entry before' entry',
    before ++ [entry] <+: everEntered host actorPlayerId w moves
      ∧ before' ++ [entry'] <+: everEntered host actorPlayerId v others
      ∧ CompactionsCollide host
        (compactedHash host (w.operationHistory actorPlayerId).compactedHistoryHash before) entry
        (compactedHash host (v.operationHistory actorPlayerId).compactedHistoryHash before') entry'

/-- A history tells what it has given up: two runs from one history of an actor that come to one
    history have entered the same records. -/
theorem operations_agree (hempty : operationHistoryCrossesRetentionBound host .fresh = false)
    (hstart : (w.operationHistory actorPlayerId).Canonical host)
    (hbegins : v.operationHistory actorPlayerId = w.operationHistory actorPlayerId)
    (hends : (moves.foldl (afterMove host) w).operationHistory actorPlayerId
      = (others.foldl (afterMove host) v).operationHistory actorPlayerId) :
    enteredAlong host actorPlayerId w moves = enteredAlong host actorPlayerId v others
      ∨ RunsCompactAlike host actorPlayerId w moves v others := by
  obtain ⟨compacted, hall, hthrough, hhash⟩ := (compacted_from hempty hstart moves).since.split
  obtain ⟨compacted', hall', hthrough', hhash'⟩ :=
    (compacted_from hempty (hbegins ▸ hstart) others).since.split
  rw [← hends] at hall' hthrough' hhash'
  rw [hbegins] at hthrough' hhash'
  have hlength : compacted.length = compacted'.length := by omega
  have hprefix : ∀ {given entries whole retained : List (Nat × ProcessedOperationRecord)},
      given <+: entries → entries ++ retained = whole → given <+: whole :=
    fun hgiven hwhole => hgiven.trans ⟨_, hwhole⟩
  rcases eq_of_compactedHash hlength (hhash.symm.trans hhash') with rfl |
    ⟨before, entry, before', entry', hbefore, hbefore', hcollide⟩
  · rw [hall, hbegins] at hall'
    exact .inl (List.append_cancel_left hall')
  · refine .inr ⟨before, entry, before', entry', hprefix hbefore hall, hprefix hbefore' hall', ?_⟩
    rwa [hbegins]

/-! ## An actor without a history -/

/-- A record of the player of the proof cell, from another cell. -/
def proofOperation (operationSequence : Nat) : ProcessedOperationRecord where
  operationId := "operation-1"
  intentFingerprint := proofHash
  receiptOriginCellId := proofHash
  receipt := ⟨operationSequence, "operation-1", operationSequence, "accepted", ""⟩

/-- A host with room for one record of an actor. -/
def crampedHost : Host := { proofHost with
  processedOperationRetainedBytes := fun retained =>
    retained.size * processedOperationRetainedBytesLimit }

theorem crampedHost_empty : operationHistoryCrossesRetentionBound crampedHost .fresh = false := by
  decide +kernel

/-- Three records in their order. -/
def threeOperations : List HistoryMove :=
  [1, 2, 3].map fun operationSequence => .record "player-1" (proofOperation operationSequence)

/-- Three records in their order, of which the first two are given up on the way. No call is
    premature. -/
theorem histories_compacted_three :
    let history :=
      (threeOperations.foldl (afterMove crampedHost) proofCell).operationHistory "player-1"
    Compacted crampedHost .fresh
        [(1, proofOperation 1), (2, proofOperation 2), (3, proofOperation 3)] history
      ∧ history.retained.keys = [3]
      ∧ EachCall crampedHost (Harmless crampedHost) proofCell threeOperations := by
  have hentered : enteredAlong crampedHost "player-1" proofCell threeOperations =
      [(1, proofOperation 1), (2, proofOperation 2), (3, proofOperation 3)] := by
    decide +kernel
  obtain ⟨hcompacted, hharmless⟩ := @histories_compacted_iff crampedHost proofCell
    crampedHost_empty (fun _ => ⟨crampedHost_empty, rfl, rfl⟩) threeOperations
  refine ⟨hentered ▸ hcompacted "player-1", by decide +kernel, hharmless.mpr ⟨?_, ?_⟩⟩
  · rintro _ _ ⟨⟩ hpremature
    exact hpremature.2.2 rfl
  · rintro _ ⟨⟩
    refine ⟨?_, ?_⟩
    · rintro _ _ ⟨⟩ hpremature
      exact absurd hpremature.2.1 (by decide +kernel)
    · rintro _ ⟨⟩
      refine ⟨?_, fun _ _ => trivial⟩
      rintro _ _ ⟨⟩ hpremature
      exact absurd hpremature.2.1 (by decide +kernel)

/-- The same three records, the first delivered twice: one history that has given up two. -/
theorem operations_agree_three :
    let again := .record "player-1" (proofOperation 1) :: threeOperations
    ((again.foldl (afterMove crampedHost) proofCell).operationHistory "player-1").retained.keys = [3]
      ∧ (enteredAlong crampedHost "player-1" proofCell threeOperations
          = enteredAlong crampedHost "player-1" proofCell again
        ∨ RunsCompactAlike crampedHost "player-1" proofCell threeOperations proofCell again) :=
  ⟨by decide +kernel, operations_agree crampedHost_empty ⟨crampedHost_empty, rfl, rfl⟩ rfl
    (by decide +kernel)⟩

/-- A record with a later sequence is refused, and leaves a history that no valid world has. -/
theorem not_harmless_later :
    ¬ EachCall proofHost (Harmless proofHost) proofCell [.record "player-1" (proofOperation 2)]
      ∧ ([.record "player-1" (proofOperation 2)].foldl (afterMove proofHost)
        proofCell).processedOperations.get? "player-1" = some .fresh
      ∧ validateHistory proofHost proofCell ("player-1", .fresh) =
        .error "operation history bounds and commitment must remain canonical" := by
  refine ⟨fun hharmless => ?_, by decide +kernel, by decide +kernel⟩
  exact harmless_iff.mp (hharmless.1 _ _ rfl) ⟨by decide +kernel, rfl, by decide⟩

end WorldState
end Verse
