import Verse.Interest.Agree
import Verse.Interest.Privacy

/-!
# A session from its beginning

A session begins in agreement, so it stays in agreement as long as its turns are clean. The
session at the end is one whose first baseline is given up before the acknowledgement of it
arrives: the baseline that takes its place still counts as the first, so the acknowledgement is
neither awaited nor superseded.
-/

namespace Verse.Interest

open Lib
open Directory (CellKeyV1)

variable {source : ProjectionSource}

section Begun

variable {host : Projecting} {welcome : WelcomeBinding} {binding : ValidatedRegistry}
  {client : InterestVerifier} {message : ServerMessage} {player sessionEpoch : String}

variable {now : Nat}

theorem stageInitial_eq_ok {t t' : SessionTransport}
    (h : t.stageInitial host source OrdMap.empty now = .ok (message, t')) :
    ∃ next, (∃ baseline, message = .interestBaseline baseline) ∧
      projectInterestFrame host source t.acknowledgedProjection OrdMap.empty =
        .ok (message, next) ∧
      t' = t.withPending next message now
        ((t.initialRoute.map PendingFramePurpose.initialRoute).getD .ordinary) := by
  simp only [SessionTransport.stageInitial, bind_eq_ok] at h
  obtain ⟨⟨⟩, -, ⟨frame, next⟩, hproject, h⟩ := h
  cases frame with
  | interestBaseline baseline =>
    obtain ⟨rfl, rfl⟩ := Prod.mk.inj (Except.ok.inj h)
    refine ⟨next, ⟨baseline, rfl⟩, hproject, ?_⟩
    cases t.initialRoute <;> rfl
  | _ => cases h

variable {state : AppState host} {completedTransferId : String} {s : Session host}

theorem start_eq_ok
    (h : Session.start state sessionEpoch player completedTransferId client now = .ok s) :
    ∃ route source message transport, (route.isSome → state.twoCell = true) ∧
      state.projectionRevisionForAt route = .ok source ∧
      (SessionTransport.newAt host sessionEpoch player route now).stageInitial host source
        OrdMap.empty now = .ok (message, transport) ∧
      s = { state := state, transport := transport, lastHandoffTransferId := completedTransferId,
            closed := false, client := client, toClient := [message], toServer := [] } := by
  cases htwo : state.twoCell with
  | false =>
    simp only [Session.start, htwo, Bool.false_eq_true, if_false, bind_eq_ok, pure_eq_ok,
      exists_eq_left'] at h
    obtain ⟨source, hsource, ⟨message, transport⟩, hinitial, rfl⟩ := h
    exact ⟨none, source, message, transport, fun hsome => (by cases hsome), hsource, hinitial, rfl⟩
  | true =>
    simp only [Session.start, htwo, if_true, bind_eq_ok, pure_eq_ok] at h
    obtain ⟨route, -, source, hsource, ⟨message, transport⟩, hinitial, rfl⟩ := h
    exact ⟨route, source, message, transport, fun _ => rfl, hsource, hinitial, rfl⟩

theorem agreed_of_start
    (hshare : Sharing host client.config.limits)
    (hcommitted : client.committed = ⟨some welcome, some binding, none, none⟩)
    (hidle : client.pending = none) (hrole : welcome.role = .player player)
    (hworlds : ∀ key, Presentable client.config.limits welcome binding (state.cells key))
    (hlegible : ∀ message ∈ s.toClient, Legible host client.config message)
    (hendpoints : ∀ p, s.transport.pending = some p → p.projection.EndpointsShown)
    (h : Session.start state sessionEpoch player completedTransferId client now = .ok s) :
    Agreed host client.config welcome binding player sessionEpoch s := by
  obtain ⟨route, source, message, transport, htwo, hsource, hinitial, rfl⟩ := start_eq_ok h
  obtain rfl := AppState.cells_of_revision hsource
  obtain ⟨next, ⟨baseline, rfl⟩, hproject, rfl⟩ := stageInitial_eq_ok hinitial
  obtain ⟨view, hframed⟩ := framed_of_project hshare (hworlds _) kept_boundPlayer hrole hproject
    (hendpoints _ rfl)
  obtain ⟨_, hsame, haccepted⟩ := hframed.opens rfl
  obtain rfl := ServerMessage.interestBaseline.inj hsame
  have hlink : view.transferLink = none := hframed.link
  have htransition : transition host.wire client.config client.committed
      (.interestBaseline baseline) =
        .ok (.baseline, ⟨some welcome, some binding, some view, none⟩) := by
    simp only [transition, stageBaseline, hcommitted, demand_some, haccepted, hlink, whenSome,
      bind_eq_ok, pure_eq_ok, rejectIf_eq_ok, Except.ok.injEq, exists_eq_left', Prod.mk.injEq]
    exact ⟨_, ⟨(), by simp, (), trivial, rfl⟩, trivial, rfl⟩
  refine ⟨rfl, hidle, by rw [hcommitted], by rw [hcommitted], [.interestBaseline baseline], _, _,
    .took (hlegible _ List.mem_cons_self) htransition (.done _), .inl rfl, fun _ => ?_⟩
  have hroute : (((route.map PendingFramePurpose.initialRoute).getD .ordinary).route <|>
      (none : Option ResidentPlayerRoute) <|> route) = route := by
    cases route <;> rfl
  refine Level.staged (by rw [← hroute] at hframed; exact hframed) rfl rfl rfl rfl (.inl rfl)
    kept_boundPlayer ?_ ?_
  · refine ⟨fun hp => (by cases hp), ?_, fun _ _ _ _ => rfl, fun _ _ _ hack => absurd rfl hack⟩
    intro _ p hp r hr
    obtain rfl : route = some r := hr
    rw [← Option.some.inj hp]
    rfl
  · intro hsome
    refine htwo ?_
    rw [← hroute]
    exact hsome

/-- In a session whose turns are all clean, every frame and status is accepted by the client's
    verifier, and no acknowledgement is refused. -/
theorem both_ends_agree {state : AppState host} {completedTransferId : String} {now : Nat}
    {s : Session host} (hshare : Sharing host client.config.limits)
    (hcommitted : client.committed = ⟨some welcome, some binding, none, none⟩)
    (hidle : client.pending = none) (hrole : welcome.role = .player player)
    (hworlds : ∀ key, Presentable client.config.limits welcome binding (state.cells key))
    (hstart : Session.start state sessionEpoch player completedTransferId client now = .ok s)
    (hlegible : ∀ message ∈ s.toClient, Legible host client.config message)
    (hendpoints : ∀ p, s.transport.pending = some p → p.projection.EndpointsShown)
    (moves : List SessionMove) (hclean : Along Session.step Clean s moves) :
    Along Session.step Agrees s moves := by
  have hagreed := agreed_of_start hshare hcommitted hidle hrole hworlds hlegible hendpoints hstart
  clear hstart hlegible hendpoints
  induction moves generalizing s with
  | nil => trivial
  | cons m rest ih =>
    refine ⟨hagreed.agrees m, ?_⟩
    intro s' hs'
    obtain rfl : s.move m = s' := Except.ok.inj hs'
    exact ih (hclean.2 _ rfl) (hagreed.move hshare hrole hclean.1)

end Begun

/-! ## A pilot at a refinery

One player, near a refinery of its own with a batch in it, in one of two cells. The wire numbers
the messages of a session by what they are and by their epoch. -/

variable {m : SessionMove}

/-- Only publishing and residence change what a worker hosts. -/
theorem Session.cells_move {host} (s : Session host) (hm : ∀ key source, m ≠ .publish key source) :
    (s.move m).state.cells = s.state.cells := by
  have hfresh : ∀ (s : Session host) now, (s.stageFresh now).state = s.state := by
    intro s now
    simp only [stageFresh]
    split
    · rfl
    · split <;> rfl
  have hrequest : ∀ (s : Session host) now, (s.requestSnapshot now).state = s.state := by
    intro s now
    simp only [requestSnapshot]
    split_ifs
    · rfl
    · rfl
    · rfl
    · exact hfresh _ now
  have hacknowledge : ∀ (s : Session host) ack now,
      (s.acknowledgeInterest ack now).state = s.state := by
    intro s ack now
    simp only [acknowledgeInterest]
    split
    all_goals first
      | rfl
      | (split_ifs
         · rfl
         · exact hfresh _ now)
  cases m with
  | publish key source => exact absurd rfl (hm key source)
  | reside route => rfl
  | request => rfl
  | deliver =>
    rw [move, deliver]
    split
    · rfl
    · split <;> rfl
  | tick update now =>
    rw [move]
    split_ifs
    · rfl
    · simp only [tick]
      split_ifs
      · rfl
      · rw [hfresh]
      · rfl
      · split <;> rfl
      · split <;> rfl
  | handoff handoff now =>
    rw [move]
    split_ifs
    · rfl
    · rw [Session.handoff]
      split_ifs
      · rfl
      · split <;> rfl
  | receive now =>
    rw [move]
    split_ifs
    · rfl
    · rw [receive]
      split
      · rfl
      · rw [hrequest]
      · rw [hacknowledge]

namespace Overlap

/-- A text with its characters marked, so that its end is seen. -/
def marked (text : String) : List Char := text.toList.flatMap (fun c => ['+', c]) ++ ['.']

theorem marked_append_injective {a b : String} {rest rest' : List Char}
    (h : marked a ++ rest = marked b ++ rest') : a = b ∧ rest = rest' := by
  have hlists : ∀ {x y : List Char},
      x.flatMap (fun c => ['+', c]) ++ '.' :: rest = y.flatMap (fun c => ['+', c]) ++ '.' :: rest' →
        x = y ∧ rest = rest' := by
    intro x
    induction x with
    | nil => intro y h; cases y <;> simp_all
    | cons c x ih =>
      intro y h
      cases y with
      | nil => simp at h
      | cons d y =>
        simp only [List.flatMap_cons, List.cons_append, List.nil_append, List.cons.injEq,
          true_and] at h
        obtain ⟨rfl, hrest⟩ := h
        obtain ⟨rfl, hend⟩ := ih hrest
        exact ⟨rfl, hend⟩
  simp only [marked, List.append_assoc, List.cons_append, List.nil_append] at h
  obtain ⟨hab, hrest⟩ := hlists h
  exact ⟨String.toList_inj.mp hab, hrest⟩

def cellIdForKey (key : CellKeyV1) : String :=
  String.ofList (marked (toString key.schemaVersion) ++ (marked key.universeId ++
    (marked key.sectorX ++ (marked key.sectorY ++ (marked key.sectorZ ++
      (marked (toString key.cellX) ++ (marked (toString key.cellY) ++
        (marked (toString key.cellZ) ++ []))))))))

theorem cellIdForKey_injective : Function.Injective cellIdForKey := by
  intro a b h
  obtain ⟨h₁, h⟩ := marked_append_injective (String.ofList_injective h)
  obtain ⟨h₂, h⟩ := marked_append_injective h
  obtain ⟨h₃, h⟩ := marked_append_injective h
  obtain ⟨h₄, h⟩ := marked_append_injective h
  obtain ⟨h₅, h⟩ := marked_append_injective h
  obtain ⟨h₆, h⟩ := marked_append_injective h
  obtain ⟨h₇, h⟩ := marked_append_injective h
  obtain ⟨h₈, -⟩ := marked_append_injective h
  obtain ⟨_, _, _, _, _, _, _, _⟩ := a
  obtain ⟨_, _, _, _, _, _, _, _⟩ := b
  rw [CellKeyV1.mk.injEq]
  exact ⟨toString_nat_injective h₁, h₂, h₃, h₄, h₅, toString_nat_injective h₆,
    toString_nat_injective h₇, toString_nat_injective h₈⟩

def survey (id : String) : Surveying := { Workshop.surveying with
  host := { Workshop.host with
    cells := ⟨fun key => if key = Directory.cellOriginKey then some id else none, fun _ => "", by
      intro k k' id' h h'
      split at h <;> split at h' <;> simp_all⟩
    cellKeyFromAddress := fun _ => .ok Directory.cellOriginKey } }

def world (id : String) (address : UniverseAddress) : WorldState := { proofCell with
  cellId := id
  cellAddress := address }

/-- A source under another identity. -/
def named (id : String) (source : ProjectionSource) : ProjectionSource :=
  { source with canonical := { source.canonical with cellId := id } }

theorem identified (id : String) (address : UniverseAddress) :
    validateIdentity (survey id).host (world id address) = .ok () := by
  have hbodies : bodyBindingValid (world id address)
      ⟨"the-verse-local", proofHash, [("khepri-prime", false), ("origin-asteroid", true)]⟩
      (Directory.cellOriginKey = Directory.cellOriginKey) := by
    rw [bodyBindingValid, if_pos (by simp)]
    exact ⟨rfl, rfl, rfl, rfl⟩
  simp only [validateIdentity, bind_eq_ok, rejectIf_eq_ok, mapError_eq_ok, demand_eq_ok]
  refine ⟨(), not_not.mpr rfl, (), not_not.mpr rfl, (), ?_, _, rfl, _, rfl, _, rfl, id, ?_, ?_⟩
  · show ¬ ((1 : Nat) = 0 ∨ (0 : Nat) = 0 ∧ (0 : Nat) ≠ 0 ∨ 0 > 0 ∧ (0 : Nat) = 0)
    decide
  · exact (if_pos rfl : (if Directory.cellOriginKey = Directory.cellOriginKey then some id
      else none) = some id)
  · simp only [not_or, not_not]
    exact ⟨rfl, rfl, rfl, rfl, hbodies⟩

theorem roster (id : String) (address : UniverseAddress) :
    (world id address).validatePlayerRoster (survey id).host =
      (world "" address).validatePlayerRoster (survey "").host := by
  simp only [WorldState.validatePlayerRoster, identified]
  rfl

variable {address : UniverseAddress}

theorem source_named (id : String)
    (h : projectionSource (survey "") (world "" address) = .ok source) :
    projectionSource (survey id) (world id address) = .ok (named id source) := by
  have howners : projectionInventoryOwners (survey id) (world id address) =
      projectionInventoryOwners (survey "") (world "" address) := by
    rw [projectionInventoryOwners, roster]
    rfl
  have hsnapshot : (survey id).projectionSnapshot (world id address) =
      (fun canonical => { canonical with cellId := id }) <$>
        (survey "").projectionSnapshot (world "" address) := rfl
  simp only [projectionSource, bind_eq_ok, pure_eq_ok, mapError_eq_ok, howners, hsnapshot,
    map_eq_ok] at h ⊢
  obtain ⟨canonical, hcanonical, surveyed, hsurveyed, buckets, hbuckets, owners, howners', states,
    hstates, anchor, hanchor, position, hposition, rfl⟩ := h
  exact ⟨_, ⟨canonical, hcanonical, rfl⟩, surveyed, hsurveyed, buckets, hbuckets, owners, howners',
    states, hstates, anchor, hanchor, position, hposition, rfl⟩

def homeKey : CellKeyV1 := Directory.cellOriginKey

def awayKey : CellKeyV1 := { homeKey with cellX := 501 }

def sourceAt (key : CellKeyV1) : Option ProjectionSource :=
  (projectionSource (survey "") (world "" (cellAddressOfKey key))).toOption

theorem sourceAt_home : (sourceAt homeKey).isSome = true := by decide +kernel

theorem sourceAt_away : (sourceAt awayKey).isSome = true := by decide +kernel

def home : ProjectionSource := (sourceAt homeKey).get sourceAt_home

def away : ProjectionSource := (sourceAt awayKey).get sourceAt_away

def cell (key : CellKeyV1) : ProjectionSource :=
  named (cellIdForKey key) (if key = awayKey then away else home)

/-- A wire that reads these bytes. -/
def wire (parse : List UInt8 → Option ServerMessage) : Wire where
  hashing := ⟨fun _ => .ok proofHash, cellIdForKey⟩
  parseExact rawJson _ := demand (parse rawJson) ⟨.invalidJson, "drill"⟩
  sanitized _ := .ok ""
  validateRegistry _ _ _ _ := .error (unexpected "registry")

/-- What a message is, and of which epoch. -/
def encode : ServerMessage → List UInt8
  | .interestBaseline baseline =>
    [if baseline.cellAddress = cellAddressOfKey homeKey then 0
      else if baseline.interest.transferLink = none then 2 else 3,
      UInt8.ofNat baseline.interest.interestEpoch]
  | .interestDelta delta =>
    [if delta.cellAddress = cellAddressOfKey homeKey then 1 else 4,
      UInt8.ofNat delta.interest.interestEpoch]
  | .handoff status => [5, match status.phase with
    | .preparing => 0
    | .importing => 1
    | .verifyingDestination => 2]
  | _ => []

def host (parse : List UInt8 → Option ServerMessage) : Projecting where
  wire := wire parse
  encode := encode
  baselineDigest := id
  policy := ⟨4, 1, fun _ => .ok ⟨1, 1, 1, 4⟩⟩
  squaredDistanceUm _ _ := .ok 0
  nearby source _ := .ok source.candidates.keys
  validateCellKey key := rejectIf (key.schemaVersion ≠ cellKeySchemaVersion) "cell key schema"

/-- The cursor of a session before the baseline of an epoch. -/
def cursorAt (epoch : Nat) : InterestProjectionState :=
  { InterestProjectionState.boundPlayer (host fun _ => none) "session" "player-1" with
    interestEpoch := epoch
    baselineId := baselineIdOf (host fun _ => none) "session" epoch }

def link : InterestTransferLink := ⟨"transfer-east", awayKey, 2⟩

/-- A frame of this kind and epoch. -/
def frameAt (kind : UInt8) (epoch : Nat) : Option ServerMessage :=
  let project (source : ProjectionSource) (cursor : InterestProjectionState) :=
    projectInterestFrame (host fun _ => none) source cursor OrdMap.empty
  Prod.fst <$> Except.toOption (match kind with
    | 0 => project (cell homeKey) (cursorAt epoch)
    | 1 => project (cell homeKey) (cursorAt epoch) >>= fun frame => project (cell homeKey) frame.2
    | 2 => project (cell awayKey) (cursorAt epoch)
    | 3 => project (cell awayKey) { cursorAt epoch with transferLink := some link }
    | _ => project (cell awayKey) (cursorAt epoch) >>= fun frame => project (cell awayKey) frame.2)

def handoff : CompletedPlayerHandoff := ⟨"transfer-east", homeKey, awayKey, 2, by decide⟩

def parse (rawJson : List UInt8) : Option ServerMessage :=
  match rawJson with
  | [5, 0] => some (Session.handoffStatus handoff .preparing)
  | [5, 1] => some (Session.handoffStatus handoff .importing)
  | [5, 2] => some (Session.handoffStatus handoff .verifyingDestination)
  | [kind, epoch] => frameAt kind epoch.toNat
  | _ => none

def limits : ResourceLimits := ⟨9, 9, 9, 9, 9, 9, 9, 9, 9, 9, 9, 9⟩

def config : VerifierConfig :=
  ⟨.player "player-1", worldSchemaVersion, 1, 1, Content.manifestVersion, proofHash,
    "the-verse-local", proofHash, proofHash, limits⟩

def welcome : WelcomeBinding :=
  ⟨worldSchemaVersion, 1, 1, Content.manifestVersion, .player "player-1"⟩

def registry : ValidatedRegistry :=
  ⟨"the-verse-local", proofHash, proofHash, ⟨100000000000, 10000000000, 1000⟩,
    OrdMap.ofList [("khepri-prime", ⟨"Khepri Prime", .proof⟩),
      ("origin-asteroid", ⟨"Origin", .proof⟩)]⟩

def client : InterestVerifier := ⟨config, ⟨some welcome, some registry, none, none⟩, none, 1, 1⟩

def state (parse : List UInt8 → Option ServerMessage) : AppState (host parse) where
  twoCell := true
  home := homeKey
  cells := cell
  named _ := rfl
  resident := some ⟨homeKey, 1⟩

def started : Projected (Session (host parse)) :=
  Session.start (state parse) "session" "player-1" "" client 0

/-- The acknowledgement of the first baseline, which the client took in time but which arrives
    after the server gave it up. -/
def refuses (s : Session (host parse)) : Bool :=
  let s := (s.move .deliver).move (.tick false unacknowledgedFrameTimeout)
  match s.toServer with
  | [.acknowledgeInterest ack] => s.closed == false && s.treatment ack == .rejected
  | _ => false

theorem started_refuses : ∃ s, started = .ok s ∧ refuses s = true :=
  exists_ok_of_any (by decide +kernel)

/-! ### What the two ends take for granted -/

theorem sharing : Sharing (host parse) limits where
  hex := by
    intro material hash h
    obtain rfl : proofHash = hash := Except.ok.inj h
    decide
  baselines := fun _ _ h => h
  cells := cellIdForKey_injective
  keys := by
    intro key h
    have h' : rejectIf (key.schemaVersion ≠ cellKeySchemaVersion) "cell key schema" = .ok () := h
    simpa using h'
  room := by decide

/-- A source whose content suits the client. -/
def Suits (source : ProjectionSource) : Prop :=
  validateOuter welcome registry source.canonical.outer "world" = .ok () ∧
    (∀ player ∈ source.canonical.players,
      registry.validateAddress player.address "player" = .ok () ∧
        ∀ environment ∈ player.environment,
          registry.validateEnvironment environment "player" = .ok ()) ∧
    (∀ entry ∈ source.candidates.entries,
      validateEntity limits registry (entityOf ⟨entry.1, 0⟩ entry.2.payload) = .ok ()) ∧
    ∀ entry ∈ source.actorPrivate.entries,
      validateActorPrivate entry.2 limits registry = .ok () ∧
        (source.candidates.get? (toLex (entry.1, .player))).isSome

instance (source : ProjectionSource) : Decidable (Suits source) :=
  inferInstanceAs (Decidable (_ ∧ _ ∧ _ ∧ _))

theorem suits_home : Suits home := by decide +kernel

theorem suits_away : Suits away := by decide +kernel

theorem projectionSource_of_sourceAt {key : CellKeyV1}
    (h : sourceAt key = some source) :
    projectionSource (survey "") (world "" (cellAddressOfKey key)) = .ok source := by
  rw [sourceAt] at h
  cases hsource : projectionSource (survey "") (world "" (cellAddressOfKey key)) with
  | error e =>
    rw [hsource] at h
    cases h
  | ok found =>
    rw [hsource] at h
    rw [Option.some.inj h]

theorem presentable_named (id : String)
    (hsuits : Suits source)
    (hsource : projectionSource (survey "") (world "" address) = .ok source) :
    Presentable limits welcome registry (named id source) := by
  obtain ⟨houter, hplayers, hentities, hactors⟩ := hsuits
  exact {
    projected := ⟨_, _, source_named id hsource⟩
    outer := houter
    address := fun player hplayer => (hplayers player hplayer).1
    environment := fun player hplayer => (hplayers player hplayer).2
    entity := fun k candidate hget _ => hentities (k, candidate) (OrdMap.mem_entries.mpr hget)
    actor := fun player actor hget => hactors (player, actor) (OrdMap.mem_entries.mpr hget) }

theorem presentable (key : CellKeyV1) : Presentable limits welcome registry (cell key) := by
  rw [cell]
  split_ifs
  · exact presentable_named _ suits_away (projectionSource_of_sourceAt (Option.some_get _).symm)
  · exact presentable_named _ suits_home (projectionSource_of_sourceAt (Option.some_get _).symm)

/-! ### A session that is checked as it goes -/

/-- The client reads back what is projected, and every queued job is shown with its inventories. -/
def reads (frame : Projected (ServerMessage × InterestProjectionState)) : Bool :=
  match frame with
  | .error _ => true
  | .ok (message, next) => decide (parse (encode message) = some message ∧
    ∀ actor ∈ next.actorPrivate, actor.EndpointsShown)

variable {message : ServerMessage}

theorem legible_of_parse (h : parse (encode message) = some message) :
    Legible (host parse) config message := by
  refine ⟨?_, "", rfl⟩
  show demand (parse (encode message)) _ = _
  rw [h]
  rfl

theorem sendable_of_reads {next} (h : reads (.ok (message, next)) = true) :
    Sendable (host parse) config message next := by
  obtain ⟨hread, hshown⟩ := of_decide_eq_true h
  exact ⟨legible_of_parse hread, hshown⟩

/-- A turn that is clean by everything that can be seen of it. -/
def looksClean (s : Session (host parse)) (m : SessionMove) : Bool :=
  reads (s.transport.project s.state false) && reads (s.transport.project s.state true) &&
    (!s.stagesFresh m || s.transport.pending.all fun p => p.purpose.route.isNone) &&
    match m with
    | .publish _ _ => false
    | .handoff handoff _ => !s.transport.recoveryIsPending &&
      reads (s.transport.projectTransfer s.state handoff) &&
      [HandoffPhase.preparing, .importing, .verifyingDestination].all fun phase =>
        decide (parse (encode (Session.handoffStatus handoff phase)) =
          some (Session.handoffStatus handoff phase))
    | _ => true

def allLookClean (s : Session (host parse)) : List SessionMove → Bool
  | [] => true
  | m :: rest => looksClean s m && allLookClean (s.move m) rest

theorem clean_of_looksClean {s}
    (hagreed : Agreed (host parse) config welcome registry "player-1" "session" s)
    (hcells : s.state.cells = cell) (h : looksClean s m = true) : Clean s m := by
  simp only [looksClean, Bool.and_eq_true, Bool.or_eq_true, Bool.not_eq_true'] at h
  obtain ⟨⟨⟨hdelta, hbaseline⟩, hsettled⟩, hmove⟩ := h
  refine ⟨?_, ?_, ?_, ?_⟩
  · intro w b hw hb key
    obtain rfl := Option.mem_unique hagreed.welcomed hw
    obtain rfl := Option.mem_unique hagreed.registered hb
    rw [hagreed.configured, hcells]
    exact presentable key
  · intro fresh message next hproject
    rw [hagreed.configured]
    cases fresh with
    | false => exact sendable_of_reads (hproject ▸ hdelta)
    | true => exact sendable_of_reads (hproject ▸ hbaseline)
  · intro _ hfresh _ p hp route hpurpose
    rcases hsettled with hquiet | hsettled
    · rw [hfresh] at hquiet
      cases hquiet
    · rw [hp, Option.all_some, hpurpose] at hsettled
      cases hsettled
  · rintro handoff now rfl - -
    simp only [Bool.and_eq_true, Bool.not_eq_true'] at hmove
    obtain ⟨⟨hidle, htransfer⟩, hstatuses⟩ := hmove
    rw [hagreed.configured]
    refine ⟨?_, fun phase => legible_of_parse ?_, fun message next hproject =>
      sendable_of_reads (hproject ▸ htransfer)⟩
    · intro p hp
      rw [SessionTransport.recoveryIsPending, hp] at hidle
      exact hidle
    · have hphase : phase ∈ [HandoffPhase.preparing, .importing, .verifyingDestination] := by
        cases phase <;> decide
      exact of_decide_eq_true (List.all_eq_true.mp hstatuses phase hphase)

theorem along_of_allLookClean {s moves}
    (hagreed : Agreed (host parse) config welcome registry "player-1" "session" s)
    (hcells : s.state.cells = cell) (h : allLookClean s moves = true) :
    Along Session.step Clean s moves := by
  induction moves generalizing s with
  | nil => trivial
  | cons m rest ih =>
    rw [allLookClean, Bool.and_eq_true] at h
    have hclean := clean_of_looksClean hagreed hcells h.1
    refine ⟨hclean, fun s' hs' => ?_⟩
    obtain rfl : s.move m = s' := Except.ok.inj hs'
    refine ih (hagreed.move sharing rfl hclean) ?_ h.2
    rw [s.cells_move, hcells]
    rintro key source rfl
    simp [looksClean] at h

/-- A session with everything in it: the first baseline, a delta that is given up while its
    acknowledgement is on the way, the recovery from that, a handoff with its statuses and its
    destination baseline, a baseline the client asks for, and a delta of the destination. -/
def voyage : List SessionMove :=
  [.deliver, .receive 0, .tick true 1, .deliver, .tick false 40000, .receive 40001, .deliver,
    .receive 40002, .reside (some ⟨awayKey, 2⟩), .handoff handoff 40003, .deliver, .deliver,
    .deliver, .deliver, .receive 40004, .request, .receive 60000, .deliver, .receive 60001,
    .tick true 60002, .deliver, .receive 60003]

/-- The first baseline is read and shows everything, and so does every frame of the voyage; the
    client answers each of them. -/
def sails (s : Session (host parse)) : Bool :=
  s.toClient.all (fun message => decide (parse (encode message) = some message)) &&
    s.transport.pending.all (fun p => decide (∀ actor ∈ p.projection.actorPrivate,
      actor.EndpointsShown)) && allLookClean s voyage

theorem started_sails : ∃ s, started = .ok s ∧ sails s = true :=
  exists_ok_of_any (by decide +kernel)

end Overlap

/-- All through the voyage every frame is taken and every acknowledgement is of use. -/
theorem both_ends_agree_voyage : ∃ s, Overlap.started = .ok s ∧
    Along Session.step Agrees s Overlap.voyage := by
  obtain ⟨s, hstarted, hsails⟩ := Overlap.started_sails
  simp only [Overlap.sails, Bool.and_eq_true, List.all_eq_true] at hsails
  obtain ⟨⟨hread, hshown⟩, hclean⟩ := hsails
  have hcommitted : Overlap.client.committed =
      ⟨some Overlap.welcome, some Overlap.registry, none, none⟩ := rfl
  have hlegible : ∀ message ∈ s.toClient,
      Legible (Overlap.host Overlap.parse) Overlap.client.config message := fun message hmessage =>
    Overlap.legible_of_parse (of_decide_eq_true (hread message hmessage))
  have hendpoints : ∀ p, s.transport.pending = some p → p.projection.EndpointsShown := by
    intro p hp actor hactor
    rw [hp] at hshown
    exact of_decide_eq_true hshown actor hactor
  have hworlds : ∀ key, Presentable Overlap.client.config.limits Overlap.welcome Overlap.registry
      ((Overlap.state Overlap.parse).cells key) := Overlap.presentable
  have hagreed := agreed_of_start Overlap.sharing hcommitted rfl rfl hworlds hlegible hendpoints
    hstarted
  have hcells : s.state.cells = Overlap.cell := by
    obtain ⟨_, _, _, _, -, -, -, rfl⟩ := start_eq_ok hstarted
    rfl
  exact ⟨s, hstarted, both_ends_agree Overlap.sharing hcommitted rfl rfl hworlds hstarted hlegible
    hendpoints _ (Overlap.along_of_allLookClean hagreed hcells hclean)⟩

/-- An acknowledgement that arrives after the first baseline has been given up is refused,
    although the client took the baseline when it was current. -/
theorem late_first_acknowledgement_refused : ∃ s, Overlap.started = .ok s ∧
    ¬ Along Session.step Agrees s [.deliver, .tick false unacknowledgedFrameTimeout,
      .receive unacknowledgedFrameTimeout] := by
  obtain ⟨s, hstarted, hrefuses⟩ := Overlap.started_refuses
  refine ⟨s, hstarted, fun h => ?_⟩
  have hlast := ((h.2 _ rfl).2 _ rfl).1.acknowledged _ rfl
  unfold Overlap.refuses at hrefuses
  simp only at hrefuses
  split at hrefuses
  case h_1 ack hanswers =>
    rw [Bool.and_eq_true, beq_iff_eq, beq_iff_eq] at hrefuses
    exact hlast hrefuses.1 ack [] hanswers hrefuses.2
  case h_2 => cases hrefuses

end Verse.Interest
