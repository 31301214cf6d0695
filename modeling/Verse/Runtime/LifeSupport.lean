import Verse.Runtime.Stages
import Verse.Runtime.Steered

/-!
# Life support by the millisecond

The milliseconds of a call are entered in the books once the call has got as far as life
support, and the books are closed before the first second is charged: what happens to those
seconds, and what production does after them, is not in the books. So over any sequence of calls
the seconds that fall due to a player who lives through it are those in the milliseconds counted,
however they were split. Each of them is charged once, in the order of the roster.
-/

namespace Verse.Runtime

open Lib Lib.Program

variable {Scene : Type} {site : Persistence.Site} {solver : Solver Scene} {w : WorldState}
  {playerId : String} {deltaMillis : Nat}

variable {impact : AdvanceImpact} {player : Player}

namespace Ticker

/-! ## The books -/

theorem mem_supported : playerId ∈ supported w ↔
    (∃ player, w.player.byId.get? playerId = some player)
      ∧ w.playerTransferLocks.contains playerId = false := by
  simp [supported, OrdMap.mem_keys]

theorem supported_nodup : (supported w).Nodup := OrdMap.keys_nodup.filter _

namespace Books

variable (w : WorldState) (deltaMillis : Nat) (books : Books) {books' : Books} {other : String}

theorem count_of_ne (hother : playerId ≠ other) :
    (books.count w deltaMillis other).elapsedMillis.get? playerId
        = books.elapsedMillis.get? playerId
      ∧ (books.count w deltaMillis other).dueSeconds.get? playerId
        = books.dueSeconds.get? playerId := by
  unfold count
  cases w.player.byId.get? other with
  | none => exact ⟨rfl, rfl⟩
  | some player =>
    dsimp only
    split_ifs
    · exact ⟨OrdMap.get?_insert_ne hother, OrdMap.get?_insert_ne hother⟩
    · exact ⟨OrdMap.get?_insert_ne hother, rfl⟩

variable {players : List String}

theorem foldl_count_of_not_mem (h : playerId ∉ players) :
    (players.foldl (count w deltaMillis) books).elapsedMillis.get? playerId
        = books.elapsedMillis.get? playerId
      ∧ (players.foldl (count w deltaMillis) books).dueSeconds.get? playerId
        = books.dueSeconds.get? playerId := by
  induction players generalizing books with
  | nil => exact ⟨rfl, rfl⟩
  | cons other rest ih =>
    rw [List.mem_cons, not_or] at h
    obtain ⟨hother, hrest⟩ := h
    obtain ⟨helapsed, hdue⟩ := ih (books.count w deltaMillis other) hrest
    obtain ⟨helapsed', hdue'⟩ := count_of_ne w deltaMillis books hother
    exact ⟨helapsed.trans helapsed', hdue.trans hdue'⟩

theorem count_congr
    (helapsed : books'.elapsedMillis.get? playerId = books.elapsedMillis.get? playerId)
    (hdue : books'.dueSeconds.get? playerId = books.dueSeconds.get? playerId) :
    (books'.count w deltaMillis playerId).elapsedMillis.get? playerId
        = (books.count w deltaMillis playerId).elapsedMillis.get? playerId
      ∧ (books'.count w deltaMillis playerId).dueSeconds.get? playerId
        = (books.count w deltaMillis playerId).dueSeconds.get? playerId := by
  unfold count
  cases w.player.byId.get? playerId with
  | none => exact ⟨helapsed, hdue⟩
  | some player =>
    dsimp only
    split_ifs
    · simp only [OrdMap.get?_insert_self, helapsed, and_self]
    · simp only [OrdMap.get?_insert_self, hdue, and_self]

/-- The page of a player depends on what has built up for it, and on nobody else. -/
theorem foldl_count_of_mem (hnodup : players.Nodup)
    (h : playerId ∈ players) :
    (players.foldl (count w deltaMillis) books).elapsedMillis.get? playerId
        = (books.count w deltaMillis playerId).elapsedMillis.get? playerId
      ∧ (players.foldl (count w deltaMillis) books).dueSeconds.get? playerId
        = (books.count w deltaMillis playerId).dueSeconds.get? playerId := by
  obtain ⟨before, after, rfl⟩ := List.append_of_mem h
  have hapart := List.disjoint_of_nodup_append hnodup
  have hbefore : playerId ∉ before := fun hmem => hapart hmem List.mem_cons_self
  have hafter : playerId ∉ after := (List.nodup_cons.mp (List.nodup_append.mp hnodup).2.1).1
  rw [List.foldl_append, List.foldl_cons]
  obtain ⟨helapsed, hdue⟩ := foldl_count_of_not_mem w deltaMillis books hbefore
  obtain ⟨helapsed', hdue'⟩ := foldl_count_of_not_mem w deltaMillis
    ((before.foldl (count w deltaMillis) books).count w deltaMillis playerId) hafter
  obtain ⟨hcount, hcount'⟩ := count_congr w deltaMillis books helapsed hdue
  exact ⟨helapsed'.trans hcount, hdue'.trans hcount'⟩

end Books

section

variable {player : Player} (deltaMillis : Nat) (elapsedMillis : OrdMap String Nat)

theorem booked_of_alive (hplayer : w.player.byId.get? playerId = some player)
    (hfree : w.playerTransferLocks.contains playerId = false) (halive : player.lifeState = .alive) :
    (booked w deltaMillis elapsedMillis).elapsedMillis.get? playerId
        = some (saturatingAddU32 ((elapsedMillis.get? playerId).getD 0) (clampedMillis deltaMillis)
            % 1000)
      ∧ (booked w deltaMillis elapsedMillis).dueSeconds.get? playerId
        = some (saturatingAddU32 ((elapsedMillis.get? playerId).getD 0) (clampedMillis deltaMillis)
            / 1000) := by
  obtain ⟨helapsed, hdue⟩ := Books.foldl_count_of_mem w deltaMillis ⟨elapsedMillis, .empty⟩
    supported_nodup (mem_supported.mpr ⟨⟨player, hplayer⟩, hfree⟩)
  have hpresent : w.player.byId.contains playerId = true :=
    OrdMap.contains_iff.mpr ⟨player, hplayer⟩
  simp only [booked, OrdMap.get?_filter, hpresent, hfree, Bool.not_false, Bool.and_self, if_true,
    helapsed, hdue]
  simp [Books.count, hplayer, halive]

theorem booked_of_gone (hplayer : w.player.byId.get? playerId = some player)
    (hfree : w.playerTransferLocks.contains playerId = false) (hgone : player.lifeState ≠ .alive) :
    (booked w deltaMillis elapsedMillis).elapsedMillis.get? playerId = some 0
      ∧ (booked w deltaMillis elapsedMillis).dueSeconds.get? playerId = none := by
  obtain ⟨helapsed, hdue⟩ := Books.foldl_count_of_mem w deltaMillis ⟨elapsedMillis, .empty⟩
    supported_nodup (mem_supported.mpr ⟨⟨player, hplayer⟩, hfree⟩)
  have hpresent : w.player.byId.contains playerId = true :=
    OrdMap.contains_iff.mpr ⟨player, hplayer⟩
  simp only [booked, OrdMap.get?_filter, hpresent, hfree, Bool.not_false, Bool.and_self, if_true,
    helapsed, hdue]
  simp [Books.count, hplayer, hgone]

end

/-! ## The seconds -/

section

variable {p q : WorldState → Prop} {books : OrdMap String Nat} {eventIdAt : Nat → String}
  {dueSeconds : OrdMap String Nat} {secondIndex : Nat} {impact : AdvanceImpact}

theorem chargeSecond_done (hidle : (dueSeconds.get? playerId).getD 0 ≤ secondIndex → ∀ w, p w → q w)
    (hgone : ∀ w player, w.player.byId.get? playerId = some player → player.lifeState ≠ .alive →
      p w → q w)
    (hsame : ∀ w, w.lifeSupportPayload site.host playerId = .ok none → p w → q w)
    (hcharge : ∀ event w w', w.lifeSupportPayload site.host playerId = .ok (some event.payload) →
      event.actorPlayerId = none → w.applyEvent site.host event = .ok w' → p w → q w') :
    Triple (Keeping p books)
      (chargeSecond site solver eventIdAt dueSeconds secondIndex impact playerId)
      (fun _ => Keeping q books) fun _ _ => True := by
  refine Triple.ite (fun hdue => .pure fun _ ht => ⟨hidle hdue _ ht.1, ht.2⟩) fun _ => ?_
  refine Triple.bind (R := fun t => Keeping (fun w => w = t.world ∧ p w) books)
    (.get fun _ ht => ⟨⟨rfl, ht.1⟩, ht.2⟩) fun t => ?_
  refine Triple.bind (R := fun player => Keeping (fun w => (w = t.world ∧ p w)
    ∧ t.world.player.byId.get? playerId = some player) books)
    (.lift (fun player hplayer _ ht => ⟨⟨ht.1, demand_eq_ok.mp hplayer⟩, ht.2⟩)
      fun _ _ _ _ => trivial) fun player => ?_
  refine Triple.ite (fun hlife => .pure ?_) fun _ => ?_
  · rintro t' ⟨⟨⟨hworld, hp⟩, hplayer⟩, hbooks⟩
    exact ⟨hgone _ player (hworld ▸ hplayer) hlife hp, hbooks⟩
  refine Triple.bind (R := fun payload => Keeping (fun w => (w = t.world ∧ p w)
    ∧ t.world.lifeSupportPayload site.host playerId = .ok payload) books)
    (.lift (fun payload hpayload _ ht => ⟨⟨ht.1.1, hpayload⟩, ht.2⟩) fun _ _ _ _ => trivial)
    fun payload => ?_
  cases payload with
  | none =>
    refine .pure ?_
    rintro t' ⟨⟨⟨hworld, hp⟩, hpayload⟩, hbooks⟩
    exact ⟨hsame _ (hworld ▸ hpayload) hp, hbooks⟩
  | some payload =>
    refine Triple.bind (commitSystemEvent_done ?_) fun _ => .pure fun _ ht => ht
    rintro event w w' rfl hsystem ⟨⟨rfl, hp⟩, hpayload⟩ happlied
    exact hcharge event _ w' hpayload hsystem happlied hp

variable {playerIds : List String}

variable {rounds : Nat}

/-- A condition no event of the system breaks outlives every second. -/
theorem chargeRounds_keeps
    (hclosed : ∀ {event w w'}, event.actorPlayerId = none → p w →
      w.applyEvent site.host event = .ok w' → p w') :
    Keeps (Keeping p books)
      ((List.range rounds).foldlM (chargeRound site solver eventIdAt dueSeconds playerIds)
        impact) := by
  refine Keeps.foldlM fun impact secondIndex => Keeps.foldlM fun impact playerId => ?_
  refine Keeps.ite .pure (Keeps.get.bind fun t => Keeps.lift.bind fun player =>
    .ite .pure (Keeps.lift.bind fun payload => ?_))
  cases payload with
  | none => exact .pure
  | some payload =>
    exact (commitSystemEvent_keeps fun _ hsystem => hclosed hsystem).bind fun _ => .pure

/-- A player breathes, in a cell whose players are under their own names. -/
def Lives (host : Host) (playerId : String) (air : Air) (oxygenMilli : Nat) (w : WorldState) :
    Prop :=
  w.Breathes host playerId air oxygenMilli ∧ w.Acknowledged

variable {air : Air} {oxygenMilli : Nat} (hplace : site.host.AirByPlace)

include hplace

theorem chargeSecond_self (hdue : secondIndex < (dueSeconds.get? playerId).getD 0) :
    Triple (Keeping (Lives site.host playerId air oxygenMilli) books)
      (chargeSecond site solver eventIdAt dueSeconds secondIndex impact playerId)
      (fun _ => Keeping (Lives site.host playerId air (air.breathed oxygenMilli)) books)
      fun _ _ => True := by
  refine chargeSecond_done (fun hidle => absurd hidle hdue.not_ge) ?_ ?_ ?_
  · rintro w player hplayer hgone ⟨hbreathes, hw⟩
    have hempty : oxygenMilli = 0 :=
      Nat.eq_zero_of_not_pos fun hpos => hgone ((hbreathes.alive_iff hplayer).mpr hpos)
    subst hempty
    exact ⟨hbreathes, hw⟩
  · rintro w hpayload ⟨hbreathes, hw⟩
    exact ⟨(hbreathes.breathed_eq hpayload).symm ▸ hbreathes, hw⟩
  · rintro event w w' hpayload hsystem happlied ⟨hbreathes, hw⟩
    exact ⟨hbreathes.charged hw hplace hpayload hsystem happlied,
      WorldState.acknowledged_of_applyEvent hw happlied⟩

theorem chargeSecond_beside {other : String}
    (hother : playerId = other → (dueSeconds.get? playerId).getD 0 ≤ secondIndex) :
    Triple (Keeping (Lives site.host playerId air oxygenMilli) books)
      (chargeSecond site solver eventIdAt dueSeconds secondIndex impact other)
      (fun _ => Keeping (Lives site.host playerId air oxygenMilli) books) fun _ _ => True := by
  by_cases hself : playerId = other
  · subst hself
    exact .ite (fun _ => .pure fun _ ht => ht) fun hdue => absurd (hother rfl) hdue
  · refine chargeSecond_done (fun _ _ h => h) (fun _ _ _ _ h => h) (fun _ _ h => h) ?_
    rintro event w w' hpayload hsystem happlied ⟨hbreathes, hw⟩
    exact ⟨hbreathes.beside hw hplace hself hpayload hsystem happlied,
      WorldState.acknowledged_of_applyEvent hw happlied⟩

theorem chargeRound_done (hnodup : playerIds.Nodup)
    (hmem : playerId ∈ playerIds) :
    Triple (Keeping (Lives site.host playerId air oxygenMilli) books)
      (chargeRound site solver eventIdAt dueSeconds playerIds impact secondIndex)
      (fun _ => Keeping (Lives site.host playerId air
        (if secondIndex < (dueSeconds.get? playerId).getD 0 then air.breathed oxygenMilli
          else oxygenMilli)) books) fun _ _ => True := by
  by_cases hdue : secondIndex < (dueSeconds.get? playerId).getD 0
  · rw [if_pos hdue]
    -- The player has been charged once the round has been past it.
    have hround : Triple (Keeping (Lives site.host playerId air
          (if playerId ∈ ([] : List String) then air.breathed oxygenMilli else oxygenMilli)) books)
        (chargeRound site solver eventIdAt dueSeconds playerIds impact secondIndex)
        (fun _ => Keeping (Lives site.host playerId air
          (if playerId ∈ playerIds then air.breathed oxygenMilli else oxygenMilli)) books)
        fun _ _ => True := by
      refine Triple.foldlM (I := fun before _ => Keeping (Lives site.host playerId air
        (if playerId ∈ before then air.breathed oxygenMilli else oxygenMilli)) books) ?_
      rintro before other rest impact rfl
      by_cases hself : playerId = other
      · subst hself
        have hfresh : playerId ∉ before := fun hbefore =>
          List.disjoint_of_nodup_append hnodup hbefore List.mem_cons_self
        simp only [hfresh, if_false, List.mem_append, List.mem_singleton, or_true, if_true]
        exact chargeSecond_self hplace hdue
      · simp only [List.mem_append, List.mem_singleton, hself, or_false]
        exact chargeSecond_beside hplace fun h => absurd h hself
    simpa only [List.not_mem_nil, if_false, hmem, if_true] using hround
  · rw [if_neg hdue]
    exact Triple.foldlM (I := fun _ _ => Keeping (Lives site.host playerId air oxygenMilli) books)
      fun _ _ _ _ _ => chargeSecond_beside hplace fun _ => not_lt.mp hdue

theorem chargeRounds_done (hnodup : playerIds.Nodup)
    (hmem : playerId ∈ playerIds) (hrounds : (dueSeconds.get? playerId).getD 0 ≤ rounds) :
    Triple (Keeping (Lives site.host playerId air oxygenMilli) books)
      ((List.range rounds).foldlM (chargeRound site solver eventIdAt dueSeconds playerIds) impact)
      (fun _ => Keeping (Lives site.host playerId air
        (air.breathed^[(dueSeconds.get? playerId).getD 0] oxygenMilli)) books)
      fun _ _ => True := by
  have hall : Triple (Keeping (Lives site.host playerId air
        (air.breathed^[min 0 ((dueSeconds.get? playerId).getD 0)] oxygenMilli)) books)
      ((List.range rounds).foldlM (chargeRound site solver eventIdAt dueSeconds playerIds) impact)
      (fun _ => Keeping (Lives site.host playerId air
        (air.breathed^[min (List.range rounds).length ((dueSeconds.get? playerId).getD 0)]
          oxygenMilli)) books) fun _ _ => True := by
    refine Triple.foldlM (I := fun before _ => Keeping (Lives site.host playerId air
      (air.breathed^[min before.length ((dueSeconds.get? playerId).getD 0)] oxygenMilli)) books) ?_
    intro before secondIndex rest impact hsplit
    have hindex : secondIndex = before.length := by
      have hget : (List.range rounds)[before.length]? = some secondIndex := by
        rw [hsplit, List.getElem?_append_right le_rfl, Nat.sub_self]
        rfl
      obtain ⟨hlt, heq⟩ := List.getElem?_eq_some_iff.mp hget
      rw [List.getElem_range] at heq
      exact heq.symm
    subst hindex
    have hnext : air.breathed^[min (before ++ [before.length]).length
          ((dueSeconds.get? playerId).getD 0)] oxygenMilli
        = if before.length < (dueSeconds.get? playerId).getD 0 then
            air.breathed (air.breathed^[min before.length ((dueSeconds.get? playerId).getD 0)]
              oxygenMilli)
          else air.breathed^[min before.length ((dueSeconds.get? playerId).getD 0)]
            oxygenMilli := by
      rw [List.length_append, List.length_singleton]
      split_ifs with hdue
      · rw [min_eq_left hdue.le, min_eq_left (Nat.succ_le_of_lt hdue), Function.iterate_succ_apply']
      · have hpast := not_lt.mp hdue
        rw [min_eq_right hpast, min_eq_right (hpast.trans (Nat.le_succ _))]
    rw [hnext]
    exact chargeRound_done hplace hnodup hmem
  rw [Nat.zero_min, Function.iterate_zero, id] at hall
  rwa [List.length_range, min_eq_right hrounds] at hall

end

/-- What has built up for a player. -/
def kept (t : Ticker Scene) (playerId : String) : Nat :=
  (t.lifeSupportElapsedMillis.get? playerId).getD 0

/-- The whole seconds due to a player in a call that has got as far as life support. -/
def dueTo (t : Ticker Scene) (deltaMillis : Nat) (playerId : String) : Nat :=
  ((booked t.world deltaMillis t.lifeSupportElapsedMillis).dueSeconds.get? playerId).getD 0

/-- The books of a call that has got as far as life support. -/
def entered (t : Ticker Scene) (deltaMillis : Nat) : OrdMap String Nat :=
  (booked t.world deltaMillis t.lifeSupportElapsedMillis).elapsedMillis

/-- A player life support looks after. -/
def LooksAfter (t : Ticker Scene) (playerId : String) : Prop := playerId ∈ supported t.world

variable {eventIdAt : Nat → String} {t : Ticker Scene}

/-- The stage closes the books of the world it starts in, and goes into its rounds. -/
theorem lifeSupportStage_spec
    {Q : AdvanceImpact → Ticker Scene → Prop}
    {E : RuntimeError → Ticker Scene → Prop}
    (hrounds : Triple (Keeping (· = t.world) (t.entered deltaMillis))
      ((List.range ((booked t.world deltaMillis t.lifeSupportElapsedMillis).dueSeconds.values.max?.getD
        0)).foldlM (chargeRound site solver eventIdAt
          (booked t.world deltaMillis t.lifeSupportElapsedMillis).dueSeconds (supported t.world))
        impact) Q E) :
    Triple (· = t) (lifeSupportStage site solver deltaMillis eventIdAt impact) Q E := by
  refine Triple.bind (R := fun read t' => read = t ∧ t' = t) (.get fun _ h => ⟨h, h⟩) fun read =>
    Triple.given ?_
  rintro rfl
  refine Triple.bind (.modify ?_) fun _ => hrounds
  rintro _ rfl
  exact ⟨rfl, rfl⟩

theorem lifeSupportStage_books
    (t : Ticker Scene) :
    Triple (· = t) (lifeSupportStage site solver deltaMillis eventIdAt impact)
      (fun _ t' => t'.lifeSupportElapsedMillis = t.entered deltaMillis)
      fun _ t' => t'.lifeSupportElapsedMillis = t.entered deltaMillis :=
  lifeSupportStage_spec ((chargeRounds_keeps (p := fun _ => True) fun _ _ _ => trivial).weaken
    (fun _ ht => ⟨trivial, ht.2⟩) (fun _ _ ht => ht.2) fun _ _ ht => ht.2)

theorem lifeSupportStage_done
    {air : Air} {oxygenMilli : Nat} (hplace : site.host.AirByPlace)
    (hsupported : t.LooksAfter playerId)
    (h : Lives site.host playerId air oxygenMilli t.world) :
    Triple (· = t) (lifeSupportStage site solver deltaMillis eventIdAt impact)
      (fun _ t' => Lives site.host playerId air
        (air.breathed^[t.dueTo deltaMillis playerId] oxygenMilli) t'.world)
      fun _ _ => True := by
  refine lifeSupportStage_spec ((chargeRounds_done hplace supported_nodup hsupported ?_).weaken
    (fun _ ht => ⟨ht.1 ▸ h, ht.2⟩) (fun _ _ ht => ht.1) fun _ _ _ => trivial)
  cases hdue : (booked t.world deltaMillis t.lifeSupportElapsedMillis).dueSeconds.get? playerId with
  | none => exact Nat.zero_le _
  | some due => exact List.le_max?_getD_of_mem (OrdMap.mem_values.mpr ⟨playerId, hdue⟩)

theorem saturatingAddU32_of_lt {elapsed : Nat} (h : elapsed < 1000) :
    saturatingAddU32 elapsed (clampedMillis deltaMillis) = elapsed + clampedMillis deltaMillis := by
  have hclamped : clampedMillis deltaMillis ≤ 250 := by
    unfold clampedMillis
    omega
  refine min_eq_left ?_
  unfold u32Max
  omega

theorem dueTo_of_alive (hsupported : t.LooksAfter playerId)
    (hplayer : t.world.player.byId.get? playerId = some player) (halive : player.lifeState = .alive)
    (hkept : t.kept playerId < 1000) :
    t.dueTo deltaMillis playerId = (t.kept playerId + clampedMillis deltaMillis) / 1000 := by
  obtain ⟨-, hdue⟩ := booked_of_alive deltaMillis t.lifeSupportElapsedMillis hplayer
    (mem_supported.mp hsupported).2 halive
  rw [dueTo, hdue, Option.getD_some, ← kept, saturatingAddU32_of_lt hkept]

end Ticker

/-! ## A call -/

variable {mid : Ticker Scene}

variable {e : RuntimeError} {t' : Ticker Scene}

namespace Advance

variable {call : Advance} {t : Ticker Scene} {p : WorldState → Prop} {books : OrdMap String Nat}

theorem reach_keeps (hmechanical : ∀ {event w w'}, WorldState.Mechanical event.payload →
      event.actorPlayerId = none → p w → w.applyEvent site.host event = .ok w' → p w') :
    Keeps (Ticker.Keeping p books) (call.reach site solver) :=
  Ticker.admitted_keeps.bind fun _ => Ticker.physicsStage_keeps hmechanical

theorem reach_books : Triple (· = t) (call.reach site solver)
    (fun _ t' => t'.lifeSupportElapsedMillis = t.lifeSupportElapsedMillis)
    fun _ t' => t'.lifeSupportElapsedMillis = t.lifeSupportElapsedMillis :=
  (reach_keeps (p := fun _ => True) fun _ _ _ _ => trivial).weaken
    (fun _ ht => ⟨trivial, ht ▸ rfl⟩) (fun _ _ ht => ht.2) fun _ _ ht => ht.2

theorem perform_of_error
    (h : call.reach site solver t = .error e t') : call.perform site solver t = .error e t' := by
  rw [perform, run_bind, h]

theorem final_perform_of_ok
    (h : call.reach site solver t = .ok impact mid) :
    (call.perform site solver).final t
      = (Ticker.lifeSupportStage site solver call.deltaMillis call.eventIdAt impact >>= fun impact =>
          Ticker.productionStage site call.turns impact).final mid := by
  rw [perform, Program.final, Program.final, run_bind, h]

/-- The books of a call that has got as far as life support, whatever comes of it. -/
theorem books_perform_of_ok
    (h : call.reach site solver t = .ok impact mid) :
    ((call.perform site solver).final t).lifeSupportElapsedMillis
      = mid.entered call.deltaMillis := by
  rw [final_perform_of_ok h]
  have hproduction : ∀ impact, Keeps
      (fun t' : Ticker Scene => t'.Keeping (fun _ => True) (mid.entered call.deltaMillis))
      (Ticker.productionStage site call.turns impact) := fun impact =>
    Ticker.productionStage_keeps fun _ _ _ _ => trivial
  have hends : Triple (· = mid)
      (Ticker.lifeSupportStage site solver call.deltaMillis call.eventIdAt impact >>= fun impact =>
        Ticker.productionStage site call.turns impact)
      (fun _ t' => t'.lifeSupportElapsedMillis = mid.entered call.deltaMillis)
      fun _ t' => t'.lifeSupportElapsedMillis = mid.entered call.deltaMillis :=
    .bind (Ticker.lifeSupportStage_books mid) fun impact => (hproduction impact).weaken
      (fun _ ht => ⟨trivial, ht⟩) (fun _ _ ht => ht.2) fun _ _ ht => ht.2
  exact hends.final rfl

/-- The milliseconds a call counts for. -/
def countedMillis (site : Persistence.Site) (solver : Solver Scene) (call : Advance)
    (t : Ticker Scene) : Nat :=
  match call.reach site solver t with
  | .ok _ _ => Ticker.clampedMillis call.deltaMillis
  | .error _ _ => 0

/-- The seconds that fall due to a player in a call. -/
def secondsDue (site : Persistence.Site) (solver : Solver Scene) (call : Advance)
    (playerId : String) (t : Ticker Scene) : Nat :=
  match call.reach site solver t with
  | .ok _ mid => mid.dueTo call.deltaMillis playerId
  | .error _ _ => 0

end Advance

/-! ## A sequence of calls -/

/-- Whole units are not lost at a remainder. -/
theorem carried_div (whole part : Nat) :
    whole / 1000 + (whole % 1000 + part) / 1000 = (whole + part) / 1000 := by
  omega

namespace Ticker

variable (site) (solver)

/-- What a sequence of calls leaves, each of them answered with a value or an error. -/
def afterAll (t : Ticker Scene) (calls : List Advance) : Ticker Scene :=
  calls.foldl (fun t call => (call.perform site solver).final t) t

/-- The milliseconds that a sequence of calls counts for. -/
def countedMillis (t : Ticker Scene) : List Advance → Nat
  | [] => 0
  | call :: rest => call.countedMillis site solver t
      + countedMillis ((call.perform site solver).final t) rest

/-- The seconds that fall due to a player in a sequence of calls. -/
def secondsDue (playerId : String) (t : Ticker Scene) : List Advance → Nat
  | [] => 0
  | call :: rest => call.secondsDue site solver playerId t
      + secondsDue playerId ((call.perform site solver).final t) rest

/-- A condition on the calls that get as far as life support, where they have got there. -/
def AtEveryStage (R : Advance → AdvanceImpact → Ticker Scene → Prop) (t : Ticker Scene) :
    List Advance → Prop
  | [] => True
  | call :: rest => (∀ impact mid, call.reach site solver t = .ok impact mid → R call impact mid)
      ∧ AtEveryStage R ((call.perform site solver).final t) rest

end Ticker

variable {t : Ticker Scene}

/-- The player is there, free and alive. -/
def Ticker.Sustains (t : Ticker Scene) (playerId : String) : Prop :=
  t.LooksAfter playerId
    ∧ ∃ player, t.world.player.byId.get? playerId = some player ∧ player.lifeState = .alive

variable {call : Advance}

theorem Advance.kept_perform_of_error
    (h : call.reach site solver t = .error e t') :
    ((call.perform site solver).final t).kept playerId = t.kept playerId := by
  rw [final, perform_of_error h, Ticker.kept, reach_books.error rfl h, Ticker.kept]

/-- What is kept is less than a second, of a player who is looked after. -/
theorem Advance.kept_perform_lt
    (h : call.reach site solver t = .ok impact mid) (hsupported : mid.LooksAfter playerId) :
    ((call.perform site solver).final t).kept playerId < 1000 := by
  obtain ⟨⟨player, hplayer⟩, hfree⟩ := Ticker.mem_supported.mp hsupported
  rw [Ticker.kept, books_perform_of_ok h, Ticker.entered]
  by_cases halive : player.lifeState = .alive
  · obtain ⟨hentered, -⟩ := Ticker.booked_of_alive call.deltaMillis mid.lifeSupportElapsedMillis
      hplayer hfree halive
    rw [hentered]
    exact Nat.mod_lt _ (by decide)
  · obtain ⟨hentered, -⟩ := Ticker.booked_of_gone call.deltaMillis mid.lifeSupportElapsedMillis
      hplayer hfree halive
    rw [hentered]
    exact Nat.zero_lt_succ _

/-- One call, for a player who is sustained where the call gets to it. -/
theorem Advance.counts (call : Advance) (hkept : t.kept playerId < 1000)
    (hsustained : ∀ impact mid, call.reach site solver t = .ok impact mid →
      mid.Sustains playerId) :
    call.secondsDue site solver playerId t
        = (t.kept playerId + call.countedMillis site solver t) / 1000
      ∧ ((call.perform site solver).final t).kept playerId
        = (t.kept playerId + call.countedMillis site solver t) % 1000 := by
  unfold secondsDue countedMillis
  cases hreach : call.reach site solver t with
  | error e t' =>
    rw [kept_perform_of_error hreach]
    exact ⟨(Nat.div_eq_of_lt hkept).symm, (Nat.mod_eq_of_lt hkept).symm⟩
  | ok impact mid =>
    obtain ⟨hsupported, player, hplayer, halive⟩ := hsustained impact mid hreach
    have hmid : mid.kept playerId = t.kept playerId := by
      rw [Ticker.kept, reach_books.ok rfl hreach, Ticker.kept]
    have hkept' : mid.kept playerId < 1000 := hmid ▸ hkept
    obtain ⟨hentered, -⟩ := Ticker.booked_of_alive call.deltaMillis mid.lifeSupportElapsedMillis
      hplayer (Ticker.mem_supported.mp hsupported).2 halive
    constructor
    · rw [← hmid]
      exact Ticker.dueTo_of_alive hsupported hplayer halive hkept'
    · rw [Ticker.kept, books_perform_of_ok hreach, Ticker.entered, hentered, Option.getD_some,
        ← Ticker.kept, Ticker.saturatingAddU32_of_lt hkept', hmid]

variable {calls : List Advance}

theorem Ticker.counts (hkept : t.kept playerId < 1000)
    (hsustained : AtEveryStage site solver (fun _ _ mid => mid.Sustains playerId) t calls) :
    secondsDue site solver playerId t calls
        = (t.kept playerId + countedMillis site solver t calls) / 1000
      ∧ (afterAll site solver t calls).kept playerId
        = (t.kept playerId + countedMillis site solver t calls) % 1000 := by
  induction calls generalizing t with
  | nil => exact ⟨(Nat.div_eq_of_lt hkept).symm, (Nat.mod_eq_of_lt hkept).symm⟩
  | cons call rest ih =>
    obtain ⟨hfirst, hrest⟩ := hsustained
    obtain ⟨hdue, hleft⟩ := Advance.counts call hkept hfirst
    have hleft' : ((call.perform site solver).final t).kept playerId < 1000 :=
      hleft ▸ Nat.mod_lt _ (by decide)
    obtain ⟨hdues, hlefts⟩ := ih hleft' hrest
    rw [hleft] at hdues hlefts
    constructor
    · rw [secondsDue, countedMillis, hdue, hdues, carried_div, Nat.add_assoc]
    · rw [afterAll, List.foldl_cons, ← afterAll, hlefts, countedMillis, Nat.mod_add_mod,
        Nat.add_assoc]

/-! ## What the calls breathe -/

/-- A player breathes, whatever air there is. -/
def Breathing (host : Host) (playerId : String) (oxygenMilli : Nat) (w : WorldState) : Prop :=
  ∃ air, Ticker.Lives host playerId air oxygenMilli w

variable {air : Air} {oxygenMilli : Nat}

theorem Breathing.mechanical {event : CanonicalEvent} {w' : WorldState}
    (hmechanical : WorldState.Mechanical event.payload) (hsystem : event.actorPlayerId = none)
    (h : Breathing site.host playerId oxygenMilli w)
    (happlied : w.applyEvent site.host event = .ok w') :
    Breathing site.host playerId oxygenMilli w' := by
  obtain ⟨air, hbreathes, hw⟩ := h
  obtain ⟨air', hbreathes'⟩ :=
    hbreathes.kept (WorldState.suitsKept_of_applyEvent hmechanical hsystem happlied)
  exact ⟨air', hbreathes', WorldState.acknowledged_of_applyEvent hw happlied⟩

theorem Breathing.lives (h : Breathing site.host playerId oxygenMilli w)
    (hair : ∀ player, w.player.byId.get? playerId = some player → player.lifeState = .alive →
      w.airOf site.host player = air) : Ticker.Lives site.host playerId air oxygenMilli w := by
  obtain ⟨air', hbreathes, hw⟩ := h
  refine ⟨?_, hw⟩
  cases hbreathes with
  | alive hplayer halive hoxygen => exact .alive hplayer halive hoxygen (hair _ hplayer halive)
  | gone hplayer hgone => exact .gone hplayer hgone

/-- A player is looked after in such air, and its seconds are charged without a failure. -/
structure Steady (site : Persistence.Site) (solver : Solver Scene) (playerId : String) (air : Air)
    (call : Advance) (impact : AdvanceImpact) (mid : Ticker Scene) : Prop where
  supported : mid.LooksAfter playerId
  air : ∀ player, mid.world.player.byId.get? playerId = some player → player.lifeState = .alive →
    mid.world.airOf site.host player = air
  charged : ∃ impact' t', Ticker.lifeSupportStage site solver call.deltaMillis call.eventIdAt impact
    mid = .ok impact' t'

theorem Advance.breathes
    (hplace : site.host.AirByPlace) (hreach : call.reach site solver t = .ok impact mid)
    (hsteady : Steady site solver playerId air call impact mid)
    (h : Breathing site.host playerId oxygenMilli mid.world) :
    Breathing site.host playerId (air.breathed^[mid.dueTo call.deltaMillis playerId] oxygenMilli)
      ((call.perform site solver).final t).world := by
  obtain ⟨impact', t', hcharged⟩ := hsteady.charged
  have hlives := (Ticker.lifeSupportStage_done hplace hsteady.supported
    (h.lives hsteady.air)).ok rfl hcharged
  have hfinal : (call.perform site solver).final t
      = (Ticker.productionStage site call.turns impact').final t' := by
    rw [final_perform_of_ok hreach, Program.final, Program.final, run_bind, hcharged]
  rw [hfinal]
  have hkeeps : Keeps (fun t : Ticker Scene => t.Keeping (Breathing site.host playerId
      (air.breathed^[mid.dueTo call.deltaMillis playerId] oxygenMilli))
        t'.lifeSupportElapsedMillis) (Ticker.productionStage site call.turns impact') :=
    Ticker.productionStage_keeps fun hmechanical hsystem h happlied =>
      Breathing.mechanical hmechanical hsystem h happlied
  exact (hkeeps.final ⟨⟨air, hlives⟩, rfl⟩).1

theorem Advance.reach_breathing
    (h : Breathing site.host playerId oxygenMilli t.world) :
    Triple (· = t) (call.reach site solver)
      (fun _ t' => Breathing site.host playerId oxygenMilli t'.world)
      fun _ t' => Breathing site.host playerId oxygenMilli t'.world := by
  have hkeeps : Keeps (fun t' : Ticker Scene => t'.Keeping
      (Breathing site.host playerId oxygenMilli) t.lifeSupportElapsedMillis)
      (call.reach site solver) :=
    reach_keeps fun hmechanical hsystem h happlied =>
      Breathing.mechanical hmechanical hsystem h happlied
  exact hkeeps.weaken (fun _ ht => ⟨ht ▸ h, ht ▸ rfl⟩) (fun _ _ ht => ht.1) fun _ _ ht => ht.1

/-- Over a sequence of calls in the same air, the oxygen of a player moves once for every second
    in the milliseconds counted; once it has run out there is nothing left to move. -/
theorem Ticker.breathes (hplace : site.host.AirByPlace)
    (hkept : t.kept playerId < 1000) (h : Breathing site.host playerId oxygenMilli t.world)
    (hsteady : AtEveryStage site solver (Steady site solver playerId air) t calls) :
    Breathing site.host playerId
      (air.breathed^[(t.kept playerId + countedMillis site solver t calls) / 1000] oxygenMilli)
      (afterAll site solver t calls).world := by
  induction calls generalizing t oxygenMilli with
  | nil =>
    rw [countedMillis, Nat.add_zero, Nat.div_eq_of_lt hkept]
    exact h
  | cons call rest ih =>
    obtain ⟨hfirst, hrest⟩ := hsteady
    rw [afterAll, List.foldl_cons, ← afterAll, countedMillis]
    cases hreach : call.reach site solver t with
    | error e t' =>
      have hfinal : (call.perform site solver).final t = t' := by
        rw [Program.final, Advance.perform_of_error hreach]
      have hsame : ((call.perform site solver).final t).kept playerId = t.kept playerId :=
        Advance.kept_perform_of_error hreach
      have hbreathing : Breathing site.host playerId oxygenMilli
          ((call.perform site solver).final t).world :=
        hfinal ▸ (Advance.reach_breathing h).error rfl hreach
      have hnothing : call.countedMillis site solver t = 0 := by
        rw [Advance.countedMillis, hreach]
      rw [hnothing, Nat.zero_add, ← hsame]
      exact ih (hsame ▸ hkept) hbreathing hrest
    | ok impact mid =>
      have hmid := (Advance.reach_breathing h).ok rfl hreach
      have hcharged := Advance.breathes hplace hreach (hfirst impact mid hreach) hmid
      rcases Nat.eq_zero_or_pos oxygenMilli with rfl | hpos
      · -- The player is gone, and nothing builds up for it any more.
        rw [Air.iterate_breathed_zero] at hcharged ⊢
        have hgone := ih (Advance.kept_perform_lt hreach (hfirst impact mid hreach).supported)
          hcharged hrest
        rwa [Air.iterate_breathed_zero] at hgone
      · have hsustained : mid.Sustains playerId := by
          obtain ⟨air', hbreathes, -⟩ := hmid
          have hsupported := (hfirst impact mid hreach).supported
          obtain ⟨⟨player, hplayer⟩, -⟩ := mem_supported.mp hsupported
          exact ⟨hsupported, player, hplayer, (hbreathes.alive_iff hplayer).mpr hpos⟩
        have honly : ∀ impact' mid', call.reach site solver t = .ok impact' mid' →
            mid'.Sustains playerId := by
          intro impact' mid' hreach'
          obtain ⟨-, rfl⟩ := EStateM.Result.ok.inj (hreach.symm.trans hreach')
          exact hsustained
        obtain ⟨hcounted, hleft⟩ := Advance.counts call hkept honly
        have hdue : mid.dueTo call.deltaMillis playerId
            = (t.kept playerId + call.countedMillis site solver t) / 1000 := by
          rw [← hcounted, Advance.secondsDue, hreach]
        have hnext := ih (hleft ▸ Nat.mod_lt _ (by decide)) hcharged hrest
        rw [hdue, ← Function.iterate_add_apply, hleft, Nat.add_comm _ (_ / 1000), carried_div,
          Nat.add_assoc] at hnext
        exact hnext

/-- Life support goes by the millisecond. A call that fails before it gets to life support is not
    in the books. Over any sequence of calls, failed ones among them, the seconds that fall due
    to a player who is sustained are those in the milliseconds counted, and less than a second is
    kept. A call that charges its seconds moves the oxygen of a player once for each of them;
    over a sequence of them in the same air the player is left with what the milliseconds
    counted leave it, so that it does not matter how they were split. -/
theorem life_support_by_the_millisecond (site : Persistence.Site) (solver : Solver Scene)
    (hplace : site.host.AirByPlace) {t : Ticker Scene} {playerId : String}
    (hkept : t.kept playerId < 1000) :
    (∀ (call : Advance) e t', call.reach site solver t = .error e t' →
      call.perform site solver t = .error e t'
        ∧ t'.lifeSupportElapsedMillis = t.lifeSupportElapsedMillis)
    ∧ (∀ calls, t.AtEveryStage site solver (fun _ _ mid => mid.Sustains playerId) calls →
      t.secondsDue site solver playerId calls
          = (t.kept playerId + t.countedMillis site solver calls) / 1000
        ∧ (t.afterAll site solver calls).kept playerId
          = (t.kept playerId + t.countedMillis site solver calls) % 1000)
    ∧ (∀ (call : Advance) impact mid air oxygenMilli,
      call.reach site solver t = .ok impact mid →
      Steady site solver playerId air call impact mid →
      Breathing site.host playerId oxygenMilli mid.world →
        Breathing site.host playerId
          (air.breathed^[mid.dueTo call.deltaMillis playerId] oxygenMilli)
          ((call.perform site solver).final t).world)
    ∧ ∀ calls air oxygenMilli, Breathing site.host playerId oxygenMilli t.world →
      t.AtEveryStage site solver (Steady site solver playerId air) calls →
        Breathing site.host playerId
          (air.breathed^[(t.kept playerId + t.countedMillis site solver calls) / 1000] oxygenMilli)
          (t.afterAll site solver calls).world
        ∧ ∀ calls', t.AtEveryStage site solver (Steady site solver playerId air) calls' →
          t.countedMillis site solver calls' = t.countedMillis site solver calls →
            Breathing site.host playerId
              (air.breathed^[(t.kept playerId + t.countedMillis site solver calls) / 1000]
                oxygenMilli)
              (t.afterAll site solver calls').world := by
  refine ⟨fun call e t' hreach => ⟨Advance.perform_of_error hreach,
    Advance.reach_books.error rfl hreach⟩, fun calls => Ticker.counts hkept,
    fun call impact mid air oxygenMilli => Advance.breathes hplace, ?_⟩
  intro calls air oxygenMilli hbreathing hsteady
  refine ⟨Ticker.breathes hplace hkept hbreathing hsteady, fun calls' hsteady' hcounted => ?_⟩
  rw [← hcounted]
  exact Ticker.breathes hplace hkept hbreathing hsteady'

/-! What a sequence of calls is asked to be can be read off the sequence. -/

instance : Decidable (t.LooksAfter playerId) :=
  inferInstanceAs (Decidable (playerId ∈ Ticker.supported t.world))

instance : Decidable (t.Sustains playerId) :=
  decidable_of_iff (t.LooksAfter playerId ∧ (t.world.player.byId.get? playerId).any fun player =>
    decide (player.lifeState = .alive)) (by simp [Ticker.Sustains, Option.any_eq_true])

instance {call : Advance} {impact : AdvanceImpact} :
    Decidable (Steady site solver playerId air call impact t) :=
  decidable_of_iff (t.LooksAfter playerId
    ∧ ((t.world.player.byId.get? playerId).all fun player =>
      decide (player.lifeState = .alive → t.world.airOf site.host player = air))
    ∧ ((Ticker.lifeSupportStage site solver call.deltaMillis call.eventIdAt impact).result
      t).toOption.isSome) (by
    rw [Option.all_eq_true, Program.result]
    constructor
    · rintro ⟨hsupported, hair, hcharged⟩
      refine ⟨hsupported, fun player hplayer => of_decide_eq_true (hair player hplayer), ?_⟩
      cases hrun : Ticker.lifeSupportStage site solver call.deltaMillis call.eventIdAt impact t with
      | ok impact' t' => exact ⟨impact', t', rfl⟩
      | error e t' =>
        rw [hrun] at hcharged
        cases hcharged
    · rintro ⟨hsupported, hair, impact', t', hcharged⟩
      refine ⟨hsupported, fun player hplayer => decide_eq_true (hair player hplayer), ?_⟩
      rw [hcharged]
      rfl)

instance decidableAtEveryStage (R : Advance → AdvanceImpact → Ticker Scene → Prop)
    [∀ call impact mid, Decidable (R call impact mid)] :
    (t : Ticker Scene) → (calls : List Advance) → Decidable (t.AtEveryStage site solver R calls)
  | _, [] => .isTrue trivial
  | t, call :: rest =>
    have := decidableAtEveryStage R ((call.perform site solver).final t) rest
    match hreach : call.reach site solver t with
    | .ok impact mid => decidable_of_iff
        (R call impact mid ∧ ((call.perform site solver).final t).AtEveryStage site solver R rest) (by
      refine and_congr_left' ⟨fun h impact' mid' hreach' => ?_, fun h => h impact mid hreach⟩
      obtain ⟨rfl, rfl⟩ := EStateM.Result.ok.inj (hreach.symm.trans hreach')
      exact h)
    | .error e t' => decidable_of_iff
        (((call.perform site solver).final t).AtEveryStage site solver R rest) (by
      refine (and_iff_right fun impact mid hreach' => ?_).symm
      cases hreach.symm.trans hreach')

/-! A player with a closed helmet where there is no air, in a cell that has just woken up. Its
second comes after a thousand milliseconds, but a call that stands for all of them counts for
two hundred and fifty. -/

def airlessSite : Persistence.Site :=
  { proofSite with host := { proofHost with breathable := fun _ _ => false } }

def awake : Option (Ticker Unit) :=
  match openForActivation airlessSite "holder-1" 0
    { disk := .empty, written := [], samples := List.replicate 200 (some 50000) } with
  | .ok cell _ => some (.opened restingSolver ((Call.activate 10).perform airlessSite |>.final cell))
  | .error _ _ => none

def wait (deltaMillis : Nat) : Advance where
  deltaMillis := deltaMillis
  hostedCells := none
  turns := 10
  eventIdAt := fun sequence => s!"event-{sequence}"

def spaceAir : Air where
  helmetClosed := true
  breathable := false

/-- Where nothing waits for the players of a cell, one of them breathes its own oxygen. -/
theorem breathing_of_idle {host : Host}
    (hidle : w.player.byId.entries.all fun entry => decide (entry.2.playerId = entry.1
      ∧ entry.2.pendingControlFrames = []
      ∧ entry.2.lastProcessedInputSequence ≤ entry.2.lastReceivedInputSequence))
    (hplayer : w.player.byId.get? playerId = some player) (halive : player.lifeState = .alive)
    (hoxygen : 0 < player.suitOxygenMilli) :
    Breathing host playerId player.suitOxygenMilli w :=
  ⟨_, .alive hplayer halive hoxygen rfl, .of_nothing_waits fun otherId other hother =>
    of_decide_eq_true (List.all_eq_true.mp hidle (otherId, other) (OrdMap.mem_entries.mpr hother))⟩

def inFourParts : List Advance := [wait 1000, wait 250, wait 250, wait 250]

def inTenParts : List Advance := List.replicate 10 (wait 100)

/-- The player before its second. -/
def Rested (t : Ticker Unit) : Prop :=
  (t.world.player.byId.entries.all fun entry => decide (entry.2.playerId = entry.1
      ∧ entry.2.pendingControlFrames = []
      ∧ entry.2.lastProcessedInputSequence ≤ entry.2.lastReceivedInputSequence)) = true
    ∧ ((t.world.player.byId.get? "player-1").any fun player =>
      decide (player.lifeState = .alive ∧ player.suitOxygenMilli = 1000)) = true
    ∧ t.kept "player-1" = 0

instance {t : Ticker Unit} : Decidable (Rested t) := inferInstanceAs (Decidable (_ ∧ _ ∧ _))

/-- A second in four parts or in ten costs the suit the same five thousandths of oxygen. -/
theorem life_support_by_the_millisecond_split : ∃ t : Ticker Unit, awake = some t
    ∧ t.secondsDue airlessSite restingSolver "player-1" inFourParts = 1
    ∧ Breathing airlessSite.host "player-1" 995
      (t.afterAll airlessSite restingSolver inFourParts).world
    ∧ Breathing airlessSite.host "player-1" 995
      (t.afterAll airlessSite restingSolver inTenParts).world := by
  have hrun : awake.any fun t => decide (Rested t
      ∧ t.AtEveryStage airlessSite restingSolver (fun _ _ mid => mid.Sustains "player-1") inFourParts
      ∧ t.AtEveryStage airlessSite restingSolver
        (Steady airlessSite restingSolver "player-1" spaceAir) inFourParts
      ∧ t.AtEveryStage airlessSite restingSolver
        (Steady airlessSite restingSolver "player-1" spaceAir) inTenParts
      ∧ t.countedMillis airlessSite restingSolver inFourParts = 1000
      ∧ t.countedMillis airlessSite restingSolver inTenParts = 1000) := by decide +kernel
  obtain ⟨t, hawake, hfacts⟩ := (Option.any_eq_true _ _).mp hrun
  obtain ⟨⟨hidle, hplayer, hkept⟩, hsustained, hfour, hten, hcounted, hcounted'⟩ :=
    of_decide_eq_true hfacts
  obtain ⟨player, hplayer, hsuit⟩ := (Option.any_eq_true _ _).mp hplayer
  obtain ⟨halive, hoxygen⟩ := of_decide_eq_true hsuit
  have hbreathing : Breathing airlessSite.host "player-1" 1000 t.world :=
    hoxygen ▸ breathing_of_idle hidle hplayer halive (hoxygen ▸ by decide)
  have hless : t.kept "player-1" < 1000 := hkept ▸ by decide
  obtain ⟨-, hcounts, -, hbreathes⟩ := life_support_by_the_millisecond airlessSite restingSolver
    (fun _ _ _ _ => rfl) hless
  obtain ⟨hleft, hsplit⟩ := hbreathes inFourParts spaceAir 1000 hbreathing hfour
  have hleft' := hsplit inTenParts hten (hcounted'.trans hcounted.symm)
  have hdue := (hcounts inFourParts hsustained).1
  rw [hkept, hcounted] at hdue hleft hleft'
  exact ⟨t, hawake, hdue, hleft, hleft'⟩

/-- The claimed second is not charged: all of it went by in one call. -/
theorem not_life_support_total : ∃ t : Ticker Unit, awake = some t
    ∧ t.kept "player-1" = 0
    ∧ t.AtEveryStage airlessSite restingSolver (fun _ _ mid => mid.Sustains "player-1") [wait 1000]
    ∧ (((wait 1000).perform airlessSite restingSolver).result t).toOption.isSome
    ∧ t.secondsDue airlessSite restingSolver "player-1" [wait 1000]
      ≠ ([wait 1000].map Advance.deltaMillis).sum / 1000 := by
  have hrun : awake.any fun t => decide (t.kept "player-1" = 0
      ∧ t.AtEveryStage airlessSite restingSolver (fun _ _ mid => mid.Sustains "player-1") [wait 1000]
      ∧ (((wait 1000).perform airlessSite restingSolver).result t).toOption.isSome
      ∧ t.secondsDue airlessSite restingSolver "player-1" [wait 1000]
        ≠ ([wait 1000].map Advance.deltaMillis).sum / 1000) := by decide +kernel
  obtain ⟨t, hawake, hfacts⟩ := (Option.any_eq_true _ _).mp hrun
  exact ⟨t, hawake, of_decide_eq_true hfacts⟩

end Verse.Runtime
