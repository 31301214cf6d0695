import Verse.Engine.Locked
import Verse.Lib.Chained

/-!
# The journal of a cell

An event names the hash of the event before it, and its own hash covers all the rest of it. So
the two things a snapshot keeps of the journal, the sequence and the hash of the last event, tell
which events there were (`journals_agree`): a journal that is replayed from the beginning and one
that is replayed from a later world come to the same end only if the second is the end of the
first and was begun where the first then stood.

That holds up to two different events under one hash, which are then found in the two journals.
-/

namespace Verse

open Lib

variable {host : Host} {event other : CanonicalEvent}

/-- Two events under one hash that are not the same but for it. -/
def CanonicalEvent.Collides (host : Host) (event other : CanonicalEvent) : Prop :=
  ({ event with eventHash := "" } : CanonicalEvent) ≠ { other with eventHash := "" }
    ∧ event.calculateHash host = other.calculateHash host

theorem CanonicalEvent.eq_of_sealed
    (hrest : ({ event with eventHash := "" } : CanonicalEvent) = { other with eventHash := "" })
    (hhash : event.eventHash = other.eventHash) : event = other := by
  obtain ⟨_, _, _, _, _, _, _, _, _, _, _, _, _, _, _, _, _, _, _⟩ := event
  simp_all

namespace WorldState

variable {w w' v v' : WorldState} {events others : List CanonicalEvent}

/-- What the header of an accepted event says of the worlds before and after it. -/
theorem linked_of_applyEvent (h : w.applyEvent host event = .ok w') :
    event.previousEventHash = w.lastEventHash ∧ event.eventHash = event.calculateHash host
      ∧ w'.lastEventHash = event.eventHash ∧ w'.eventSequence = w.eventSequence + 1 := by
  have hsequence := (accepted_of_applyEvent h).frontier.1
  have hlast : w'.lastEventHash = event.eventHash := by
    cases accepted_of_applyEvent h with
    | intro hydrated admitted effect paid recorded weighed =>
      rw [recordOperation_frame recorded]
      rfl
  simp only [applyEvent, validateHeader, bind_eq_ok, rejectIf_eq_ok, not_not, ne_eq,
    Bool.not_eq_false] at h
  obtain ⟨_, ⟨_, _, _, _, _, _, _, hprevious, _, hhash, _⟩, _⟩ := h
  exact ⟨hprevious, by simpa [CanonicalEvent.hashIsValid] using hhash, hlast, hsequence⟩

/-- An event settles the hash before it. -/
theorem chained_applyEvent :
    ChainedLog (applyEvent host) (applyEvent host) lastEventHash lastEventHash
      fun _ event _ other => event.Collides host other := by
  intro w w' v v' event other happlied hother hends
  obtain ⟨hprevious, hhash, hlast, -⟩ := linked_of_applyEvent happlied
  obtain ⟨hprevious', hhash', hlast', -⟩ := linked_of_applyEvent hother
  have hsame : event.eventHash = other.eventHash := hlast.symm.trans (hends.trans hlast')
  by_cases hrest : ({ event with eventHash := "" } : CanonicalEvent)
      = { other with eventHash := "" }
  · obtain rfl := CanonicalEvent.eq_of_sealed hrest hsame
    exact .inl ⟨rfl, hprevious.symm.trans hprevious'⟩
  · exact .inr ⟨hrest, hhash.symm.trans (hsame.trans hhash')⟩

theorem eventSequence_of_run (hrun : runAll (applyEvent host) w events = .ok w') :
    w'.eventSequence = w.eventSequence + events.length :=
  count_of_run (fun happlied => (linked_of_applyEvent happlied).2.2.2) hrun

/-- Two journals that end at one hash and one sequence: the one that begins later is the end of
    the one that begins earlier, and begins where that one then stands. -/
theorem journals_agree (hrun : runAll (applyEvent host) w events = .ok w')
    (hother : runAll (applyEvent host) v others = .ok v')
    (hhash : w'.lastEventHash = v'.lastEventHash)
    (hsequence : w'.eventSequence = v'.eventSequence)
    (hearlier : w.eventSequence ≤ v.eventSequence) :
    (∃ before m, events = before ++ others ∧ runAll (applyEvent host) w before = .ok m
        ∧ m.eventSequence = v.eventSequence ∧ m.lastEventHash = v.lastEventHash)
      ∨ ∃ event ∈ events, ∃ other ∈ others, event.Collides host other := by
  have hcount := eventSequence_of_run hrun
  have hcount' := eventSequence_of_run hother
  rcases chained_applyEvent.suffix hrun hother hhash with ⟨before, m, rfl, hbefore, hmet⟩ |
    ⟨before, n, rfl, hbefore, hmet⟩ | hcollide
  · have hreached := eventSequence_of_run hbefore
    refine .inl ⟨before, m, rfl, hbefore, ?_, hmet⟩
    rw [List.length_append] at hcount
    omega
  · -- the other cannot be the longer: it begins no earlier and ends at the same sequence
    have hreached := eventSequence_of_run hbefore
    rw [List.length_append] at hcount'
    obtain rfl : before = [] := List.eq_nil_of_length_eq_zero (by omega)
    obtain rfl := Except.ok.inj hbefore
    rw [List.length_nil] at hcount'
    exact .inl ⟨[], w, rfl, rfl, by omega, hmet⟩
  · exact .inr hcollide.members

/-- The quantum alone, replayed from the world that has locked the player, and both events,
    replayed from the first world. -/
theorem journals_agree_tail : ∃ r : PaidLocked,
    (∃ before m, [r.locking, r.quantum] = before ++ [r.quantum]
        ∧ runAll (applyEvent proofHost) proofCell before = .ok m
        ∧ m.eventSequence = r.locked.eventSequence ∧ m.lastEventHash = r.locked.lastEventHash)
      ∨ ∃ event ∈ [r.locking, r.quantum], ∃ other ∈ [r.quantum],
          event.Collides proofHost other := by
  obtain ⟨r, ⟨-, -, hlocking, -, hquantum, -⟩, -⟩ := exists_paidLocked
  have hboth : runAll (applyEvent proofHost) proofCell [r.locking, r.quantum] = .ok r.paid := by
    simp [runAll, hlocking, hquantum]
  have htail : runAll (applyEvent proofHost) r.locked [r.quantum] = .ok r.paid := by
    simp [runAll, hquantum]
  have hearlier : proofCell.eventSequence ≤ r.locked.eventSequence := by
    rw [(linked_of_applyEvent hlocking).2.2.2]
    exact Nat.le_succ _
  exact ⟨r, journals_agree hboth htail rfl rfl hearlier⟩

/-! ## What is in a journal -/

/-- What a journal has to be that goes on from a world: numbered without a gap, each event naming
    the hash before it, under fences that never fall, of one cell of one universe. -/
structure Linked (w : WorldState) (events : List CanonicalEvent) : Prop where
  numbered : events.map CanonicalEvent.eventSequence
    = List.range' (w.eventSequence + 1) events.length
  chained : events.map CanonicalEvent.previousEventHash
    = (w.lastEventHash :: events.map CanonicalEvent.eventHash).take events.length
  fenced : (w.fencingToken :: events.map CanonicalEvent.authorityFencingToken).Pairwise (· ≤ ·)
  named : ∀ event ∈ events, event.universeId = w.universeId ∧ event.cellId = w.cellId

theorem Linked.cons (happlied : w.applyEvent host event = .ok v) (h : v.Linked events) :
    w.Linked (event :: events) := by
  have accepted := accepted_of_applyEvent happlied
  obtain ⟨hprevious, -, hlast, hsequence⟩ := linked_of_applyEvent happlied
  obtain ⟨-, -, hfence, hrises⟩ := accepted.frontier
  have hidentity := accepted.identity
  have hbound : event.eventSequence = w.eventSequence + 1 ∧ event.universeId = w.universeId
      ∧ event.cellId = w.cellId := by
    cases accepted with
    | intro hydrated admitted => exact ⟨admitted.next, admitted.bound⟩
  refine ⟨?_, ?_, ?_, ?_⟩
  · rw [List.map_cons, h.numbered, hbound.1, hsequence, List.length_cons, List.range'_succ]
  · rw [List.map_cons, h.chained, hprevious, hlast, List.map_cons, List.length_cons,
      List.take_succ_cons]
  · rw [List.map_cons, ← hfence]
    refine List.pairwise_cons.mpr ⟨fun fence hfences => ?_, h.fenced⟩
    rcases List.mem_cons.mp hfences with rfl | hlater
    · exact hrises
    · exact hrises.trans ((List.pairwise_cons.mp h.fenced).1 fence hlater)
  · intro later hlater
    rcases List.mem_cons.mp hlater with rfl | hrest
    · exact hbound.2
    · have hnamed := h.named later hrest
      exact ⟨hnamed.1.trans (congrArg (·.universeId) hidentity),
        hnamed.2.trans (congrArg (·.cellId) hidentity)⟩

/-- Whatever a cell accepts is a journal, and none of it is accepted a second time. -/
theorem journal_linked (hrun : runAll (applyEvent host) w events = .ok w') :
    w.Linked events ∧ ∀ event ∈ events, ∀ again, w'.applyEvent host event ≠ .ok again := by
  have hlinked : w.Linked events := by
    induction events generalizing w with
    | nil => exact ⟨rfl, rfl, List.pairwise_singleton _ _, fun _ h => absurd h List.not_mem_nil⟩
    | cons event rest ih =>
      obtain ⟨m, happlied, hrest⟩ := runAll_cons_eq_ok.mp hrun
      exact (ih hrest).cons happlied
  -- its number is among those of the journal, and the next one is past them
  refine ⟨hlinked, fun event hevent again hagain => ?_⟩
  have hold : event.eventSequence ∈ List.range' (w.eventSequence + 1) events.length :=
    hlinked.numbered ▸ List.mem_map_of_mem hevent
  have hnew : event.eventSequence = w'.eventSequence + 1 := by
    cases accepted_of_applyEvent hagain with
    | intro hydrated admitted => exact admitted.next
  have hcount := eventSequence_of_run hrun
  rw [List.mem_range'_1] at hold
  omega

/-- The lock and the quantum that pays are linked, and neither is accepted again. -/
theorem journal_linked_paid : ∃ r : PaidLocked, proofCell.Linked [r.locking, r.quantum]
    ∧ ∀ event ∈ [r.locking, r.quantum], ∀ again, r.paid.applyEvent proofHost event ≠ .ok again := by
  obtain ⟨r, ⟨-, -, hlocking, -, hquantum, -⟩, -⟩ := exists_paidLocked
  have hrun : runAll (applyEvent proofHost) proofCell [r.locking, r.quantum] = .ok r.paid := by
    simp [runAll, hlocking, hquantum]
  exact ⟨r, journal_linked hrun⟩

end WorldState
end Verse
