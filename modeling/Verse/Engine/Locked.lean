import Verse.Engine.Carried
import Verse.Engine.Frame
import Verse.Lib.Run

/-!
# What happens to a locked player

Between the lock and the export a player stays in its cell and accepts no gameplay. Every
event but one respects this: a quantum of production pays the owner of a finished job, locked
or not, and the record that is paid is no longer the one in the package. `locked_spared_iff`
says that this is the only way, for every run.
-/

namespace Verse

open Lib

/-- The transfer's own export or abort. -/
def EventPayload.Settles (playerId transferId : String) : EventPayload → Prop
  | .playerTransferExported package _ | .playerTransferAborted package _ =>
    package.aggregateId = playerId ∧ package.transferId = transferId
  | _ => False

instance (playerId transferId : String) (payload : EventPayload) :
    Decidable (payload.Settles playerId transferId) := by
  cases payload <;> unfold EventPayload.Settles <;> exact inferInstance

namespace WorldState

variable {host : Host} {w w' : WorldState} {event : CanonicalEvent} {playerId : String}

/-- No machine of the quantum, if the event is one, pays this player. -/
def Unpaid (w : WorldState) (playerId : String) : EventPayload → Prop
  | .productionQuantumCommitted _ _ outcomes => ∀ outcome ∈ outcomes, ¬ w.Pays outcome playerId
  | _ => True

/-- The players an event has to leave alone. -/
def Untouched (w : WorldState) (payload : EventPayload) (playerId : String) : Prop :=
  (∃ lock, w.playerTransferLocks.get? playerId = some lock
      ∧ ¬ payload.Settles playerId lock.transferId)
    ∧ w.Unpaid playerId payload

/-! ## One event -/

variable {S : String → Prop}

theorem Solved.kept (h : Carried w) {stepCount stepPhase : Nat} {bodies players active}
    (solved : Solved host w stepCount bodies players)
    (hS : ∀ playerId, S playerId → playerId ∉ players.map PlayerPhysicsOutcome.playerId) :
    Kept S w (w.stepped stepCount stepPhase bodies players active) where
  carried := {
    players := by
      intro other record hrecord
      simp only [stepped, OrdMap.get?_foldl_modify_of_nodup solved.players_nodup,
        Option.map_eq_some_iff] at hrecord
      obtain ⟨player, hplayer, rfl⟩ := hrecord
      obtain ⟨inventory, hinventory, hdomain⟩ := h.players other player hplayer
      refine ⟨inventory, ?_, hdomain⟩
      cases players.find? fun outcome => decide (outcome.playerId = other) <;> exact hinventory
    locked := by
      intro other lock hlock
      obtain ⟨player, hplayer⟩ := h.locked other lock hlock
      simp [stepped, OrdMap.get?_foldl_modify, hplayer]
    cargo := by
      intro blockId grid block inventoryId ⟨gridId, hgrid, hblock⟩ hid
      simp only [stepped, OrdMap.get?_foldl_modify, Option.map_eq_some_iff] at hgrid
      obtain ⟨prior, hprior, rfl⟩ := hgrid
      refine h.cargo blockId prior block inventoryId ⟨gridId, hprior, ?_⟩ hid
      rwa [Grid.blocks_foldl_posed] at hblock }
  spares other hother := by
    refine ⟨?_, fun _ _ => rfl, rfl, rfl⟩
    have hnobody : players.filter (fun outcome => decide (outcome.playerId = other)) = [] := by
      rw [List.filter_eq_nil_iff]
      intro outcome hmem he
      exact hS other hother (List.mem_map.mpr ⟨outcome, hmem, of_decide_eq_true he⟩)
    simp only [stepped, OrdMap.get?_foldl_modify, hnobody, List.foldl_nil, Option.map_id']

variable {payload : EventPayload}

theorem not_untouched_of_unlocked
    (h : w.playerTransferLocks.get? playerId = none) : ¬ w.Untouched payload playerId := by
  rintro ⟨⟨lock, hlock, -⟩, -⟩
  rw [h] at hlock
  cases hlock

variable {lock : PlayerTransferLock}

theorem not_untouched_of_settled
    (h : w.playerTransferLocks.get? playerId = some lock)
    (hsettles : payload.Settles playerId lock.transferId) : ¬ w.Untouched payload playerId := by
  rintro ⟨⟨lock', hlock', hnot⟩, -⟩
  obtain rfl := Option.mem_unique h hlock'
  exact hnot hsettles

theorem Admitted.actor_not_untouched (admitted : Admitted host w event)
    (hby : event.actorPlayerId = some playerId) : ¬ w.Untouched event.payload playerId :=
  not_untouched_of_unlocked (admitted.human playerId hby).unlocked

theorem Admitted.spared_not_untouched (admitted : Admitted host w event)
    (hpassive : playerId ∈ passiveSubjects event.payload) :
    ¬ w.Untouched event.payload playerId :=
  not_untouched_of_unlocked (admitted.spared playerId hpassive)

variable {player : Player}

variable {inventory : InventoryRecord} {eventSequence : Nat} {dropped : Option InventoryRecord}
  {drop : Option DeathDrop}

theorem Collapse.kept (h : Carried w)
    (hplayer : w.player.byId.get? player.playerId = some player) (hS : ¬ S player.playerId)
    (collapse : Collapse w player inventory eventSequence dropped drop w') : Kept S w w' := by
  have hemptied : Kept S w (w.withContents player.inventoryId .empty) :=
    kept_withCarriedContents h hplayer hS
  cases collapse with
  | bare hempty => exact hemptied
  | dropping hcarried hdrop hfresh =>
    have hfiled : Kept S w ((w.withContents player.inventoryId .empty).withInventory
        (droppedInventory player inventory eventSequence).inventoryId
        (droppedInventory player inventory eventSequence)) :=
      hemptied.andThen fun h' => kept_withNewInventory h' (get?_withContents_eq_none.mpr hfresh)
    exact hfiled.andThen fun h' => .of_eq h' rfl rfl rfl rfl rfl

theorem Collapse.player_eq
    (collapse : Collapse w player inventory eventSequence dropped drop w') :
    w'.player = w.player := by
  cases collapse <;> rfl

theorem Owns.not_carries {actorId inventoryId : String}
    (h : Carried w) (howns : w.Owns actorId inventoryId) (hS : ¬ S actorId)
    (hin : S playerId) : ¬ w.Carries playerId inventoryId := by
  intro hcarries
  obtain ⟨inventory, hinventory, hdomain⟩ := h.domain_of_carries hcarries
  obtain ⟨inventory', hinventory', -, hreach⟩ := howns
  obtain rfl := Option.mem_unique hinventory hinventory'
  rw [hdomain] at hreach
  rcases hreach with ⟨hown, -⟩ | ⟨blockId, hcargo⟩
  · exact hS (InventoryDomain.player.inj hown ▸ hin)
  · cases hcargo

theorem kept_withNewBlock (h : Carried w) {gridId : String} {grid : Grid}
    {block : Block} (hgrid : w.grids.get? gridId = some grid)
    (hfresh : ∀ inventoryId, block.inventoryId = some inventoryId →
      w.inventories.get? inventoryId = none) :
    Kept S w ((w.withCargoInventory block).withGrid gridId
      { grid with blocks := grid.blocks.insert block.blockId block }) := by
  have hstocked : Kept S w (w.withCargoInventory block)
      ∧ (w.withCargoInventory block).grids = w.grids
      ∧ ∀ inventoryId, block.inventoryId = some inventoryId →
        (w.withCargoInventory block).Stowed inventoryId := by
    unfold withCargoInventory
    cases hid : block.inventoryId with
    | none => exact ⟨.refl h, rfl, by simp⟩
    | some inventoryId =>
      refine ⟨kept_withNewInventory h (hfresh inventoryId hid), rfl, ?_⟩
      intro key hkey
      cases hkey
      exact ⟨_, OrdMap.get?_insert_self, fun _ => InventoryDomain.noConfusion⟩
  obtain ⟨hkept, hgrids, hstowed⟩ := hstocked
  refine hkept.andThen fun h' => kept_withGrid h' fun key other inventoryId hget hlink => ?_
  rw [OrdMap.get?_insert] at hget
  split_ifs at hget
  · cases hget
    exact hstowed inventoryId hlink
  · exact h'.cargo key grid other inventoryId ⟨gridId, hgrids ▸ hgrid, hget⟩ hlink

variable {middle : WorldState}

theorem Kept.forgetContacts (h : Kept S w middle) :
    Kept S w (middle.forgetContacts playerId) :=
  h.andThen fun h' => .of_eq h' rfl rfl rfl rfl rfl

theorem Kept.withWitness {witness} (h : Kept S w middle) :
    Kept S w (middle.withWitness witness) :=
  h.andThen fun h' => .of_eq h' rfl rfl rfl rfl rfl

theorem Kept.forgetVoxelContacts {coordinate : IVec3}
    (h : Kept S w middle) : Kept S w (middle.forgetVoxelContacts coordinate) :=
  h.andThen fun h' => .of_eq h' rfl rfl rfl rfl rfl

/-- An event leaves every locked player alone, unless it is the transfer's own or a quantum that
    pays it. -/
theorem Effect.kept (h : Carried w) (admitted : Admitted host w event)
    (effect : Effect host w event w') : Kept (w.Untouched event.payload) w w' := by
  have hfenced : Kept (w.Untouched event.payload) w
      { w with fencingToken := event.authorityFencingToken } := .of_eq h rfl rfl rfl rfl rfl
  cases effect with
  | playerControlSet hpayload hby hactor | suitModeChanged hpayload hby hactor =>
    exact kept_withPlayer h hactor rfl (admitted.actor_not_untouched hby)
  | suitOxygenChanged hpayload hplayer hexpected =>
    refine kept_withPlayer h hplayer rfl (admitted.spared_not_untouched ?_)
    simp [hpayload, passiveSubjects]
  | @playerIncapacitated _ _ _ _ _ _ _ collapsed player inventory hpayload hplayer hinventory
      hdomain hcollapse =>
    have hfree : ¬ w.Untouched event.payload player.playerId :=
      admitted.spared_not_untouched (by simp [hpayload, passiveSubjects])
    have hplayer' : collapsed.player.byId.get? player.playerId = some player := by
      rw [hcollapse.player_eq]
      exact hplayer
    refine ((hcollapse.kept h hplayer hfree).andThen fun h' => ?_).forgetContacts
    exact kept_withPlayer h' hplayer' rfl hfree
  | playerRespawned hpayload hby hactor hexpected =>
    refine Kept.forgetContacts (kept_withPlayer h hactor ?_ (admitted.actor_not_untouched hby))
    rfl
  | @voxelMined coordinate material oreYield actorId actor inventory hpayload hby hactor =>
    have hdug : Kept (w.Untouched event.payload) w { w with
        voxels := w.voxels.remove coordinate
        ledger := { w.ledger with minedOre := w.ledger.minedOre + oreYield } } :=
      .of_eq h rfl rfl rfl rfl rfl
    refine Kept.forgetVoxelContacts (hdug.andThen fun h' => ?_)
    exact kept_withCarriedContents h' hactor (admitted.actor_not_untouched hby)
  | productionQueued hpayload hby hoperation hmachine hjob hqueue hrecipe hsource =>
    refine Kept.withQueues (kept_withContents h fun other _ => ?_)
    exact h.not_carries_of_stowed (stowed_of_cargoBlock hsource.2.1)
  | productionQuantumCommitted hpayload hexpected happlied =>
    obtain ⟨machines, hnodup, -, works⟩ := works_of_quantum (hpayload ▸ hexpected) happlied
    have hworked := works.kept h hnodup (S := w.Untouched event.payload) fun other hother outcome hmem => by
        have hunpaid := hother.2
        rw [hpayload] at hunpaid
        exact hunpaid outcome hmem
    exact hworked.andThen fun h' => .of_eq h' rfl rfl rfl rfl rfl
  | inventoryTransferred hpayload hby hdistinct hownsSource hownsDestination =>
    have hfree := admitted.actor_not_untouched hby
    refine (kept_withContents h fun other hother => ?_).andThen fun h' =>
      kept_withContents h' fun other hother hcarries => ?_
    · exact hownsSource.not_carries h hfree hother
    · exact hownsDestination.not_carries h hfree hother hcarries
  | @blockBuilt gridId block actorId actor grid inventory hpayload hby hframe hfreshBlock
      hfreshInventory hgrid howner hactor =>
    have hpaid : Kept (w.Untouched event.payload) w (w.withContents actor.inventoryId
        { inventory.contents with
          components := inventory.contents.components - block.componentCost }) :=
      kept_withCarriedContents h hactor (admitted.actor_not_untouched hby)
    have hbuilt := hpaid.andThen fun h' => kept_withNewBlock h' hgrid
      fun inventoryId hid => get?_withContents_eq_none.mpr (hfreshInventory inventoryId hid)
    exact hbuilt.andThen fun h' => .of_eq h' rfl rfl rfl rfl rfl
  | blockWelded hpayload hby hgrid howner hblock => exact kept_withBlock h hgrid hblock rfl
  | gridControlSet hpayload hby hgrid =>
    exact kept_withGrid h fun key other inventoryId hget hlink =>
      h.cargo key _ other inventoryId ⟨_, hgrid, hget⟩ hlink
  | @gridAnchorSet gridId anchored rewardCredited actorId grid hpayload hby hgrid =>
    refine kept_withGrid h fun key other inventoryId hget hlink => ?_
    refine h.cargo key grid other inventoryId ⟨gridId, hgrid, ?_⟩ hlink
    cases anchored <;> exact hget
  | blockDamaged hpayload hby hdamage happlied =>
    exact (damaged_of_applyDamage happlied).kept h
  | physicsStepCommitted hpayload happlied =>
    obtain ⟨solved, active, rfl⟩ := applyPhysicsStep_eq_ok happlied
    refine solved.kept h fun other hother hmem => ?_
    exact admitted.spared_not_untouched (by rwa [hpayload]) hother
  | @playerTransferPrepared package transfer applied hpayload hstaged =>
    obtain ⟨hok, -, ⟨rfl, -⟩ | ⟨hfree, -, -, ⟨hplayer, -⟩, rfl⟩⟩ := stagePreparedEvaLock_eq_ok hstaged
    · exact hfenced
    · exact hfenced.andThen fun h' =>
        kept_withLock h' hplayer (not_untouched_of_unlocked hfree)
  | playerTransferQuarantined hpayload hstaged =>
    obtain ⟨-, -, ⟨rfl, -⟩ | ⟨-, -, rfl⟩⟩ := stageEvaPlayerQuarantine_eq_ok hstaged
    · exact hfenced
    · exact hfenced.andThen fun h' => .of_eq h' rfl rfl rfl rfl rfl
  | @playerTransferAborted package transfer applied hpayload hstaged =>
    obtain ⟨-, -, ⟨-, -, rfl⟩ | ⟨-, -, rfl⟩ | ⟨-, hlock, -, rfl⟩⟩ :=
      stageAbortedEvaUnlock_eq_ok hstaged
    · exact hfenced.andThen fun h' => .of_eq h' rfl rfl rfl rfl rfl
    · exact hfenced
    · refine hfenced.andThen fun h' => kept_withoutLock h' ?_
      rw [hpayload]
      exact not_untouched_of_settled hlock ⟨rfl, rfl⟩
  | @playerTransferExported package transfer applied hpayload hstaged =>
    obtain ⟨hok, -, ⟨rfl, -⟩ | ⟨-, -, -, hlock, ⟨hplayer, -⟩, rfl⟩⟩ :=
      stageCommittedEvaExport_eq_ok hstaged
    · exact hfenced
    · refine Kept.withWitness (hfenced.andThen fun h' =>
        kept_withoutSubject h' hplayer hok.carried.1 ?_)
      rw [hpayload]
      exact not_untouched_of_settled hlock ⟨rfl, rfl⟩
  | @playerTransferImported package receipt transfer applied hpayload hstaged =>
    obtain ⟨hok, -, ⟨rfl, -⟩ | ⟨-, -, -, -, hlacks, rfl⟩⟩ := stageCommittedEvaImport_eq_ok hstaged
    · exact hfenced
    · refine Kept.withWitness (hfenced.andThen fun h' =>
        kept_withSubject h' hlacks hok.destination_inventoryId hok.carried.2.1 ?_)
      rintro ⟨⟨lock, hlock, -⟩, -⟩
      obtain ⟨player, hplayer⟩ := h.locked _ lock hlock
      cases hplayer.symm.trans hlacks.1

theorem Paid.kept (h : Carried w) (hS : ∀ actorId,
      event.actorPlayerId = some actorId → ¬ S actorId)
    (paid : Paid w event w') : Kept S w w' := by
  cases paid with
  | nothing => exact .refl h
  | actor hby hplayer => exact kept_withPlayer h hplayer rfl (hS _ hby)

theorem kept_recordOperation (h : Carried w) (hS : ∀ actorId,
      event.actorPlayerId = some actorId → ¬ S actorId)
    (hrecorded : w.recordOperation host event = .ok w') : Kept S w w' := by
  rcases recordOperation_eq_ok hrecorded with ⟨-, rfl⟩ | ⟨actorId, _, _, _, hby, -, -, -, hrecord⟩
  · exact .refl h
  · obtain ⟨-, rfl⟩ := recordProcessedOperation_eq_ok.mp hrecord
    exact kept_withHistory h (hS actorId hby)

theorem untouched_of_hydrated {hydrated cellAddress}
    (h : payload.hydrateSpatialPoses host cellAddress = .ok hydrated) :
    w.Untouched hydrated playerId ↔ w.Untouched payload playerId := by
  cases reposed_of_hydrated h with
  | playerTransferAborted hsame | playerTransferExported hsame =>
    simp only [Untouched, EventPayload.Settles, Unpaid, hsame.1, hsame.2]
  | _ => exact Iff.rfl

theorem Accepted.kept (h : Carried w) (accepted : Accepted host w event w') :
    Kept (w.Untouched event.payload) w w' := by
  cases accepted with
  | @intro payload applied credited hydrated admitted effect paid recorded weighed =>
    have hfree : ∀ actorPlayerId,
        ({ event with payload } : CanonicalEvent).actorPlayerId = some actorPlayerId →
        ¬ w.Untouched payload actorPlayerId := fun actorPlayerId hby =>
      admitted.actor_not_untouched hby
    have hcredited : Kept (w.Untouched payload) w credited :=
      (effect.kept h admitted).andThen fun h' => paid.kept h' hfree
    have hsealed : Kept (w.Untouched payload) w (credited.sealEvent { event with payload }) :=
      hcredited.andThen fun h' => .of_eq h' rfl rfl rfl rfl rfl
    have hkept := hsealed.andThen fun h' => kept_recordOperation h' hfree recorded
    exact ⟨hkept.carried, fun other hother =>
      hkept.spares other ((untouched_of_hydrated hydrated).mpr hother)⟩

/-- A quantum that pays a player changes its record, and nothing after it in the event puts the
    record back. -/
theorem Accepted.pays (h : Carried w) (accepted : Accepted host w event w')
    (hplayer : w.player.byId.get? playerId = some player)
    (hpaid : ¬ w.Unpaid playerId event.payload) :
    w'.player.byId.get? playerId ≠ some player := by
  cases hpayload : event.payload with
  | productionQuantumCommitted occurrence elapsedTicks outcomes =>
    simp only [hpayload, Unpaid, not_forall, not_not] at hpaid
    obtain ⟨outcome, hmem, hpays⟩ := hpaid
    cases accepted with
    | @intro payload applied credited hydrated admitted effect paid recorded weighed =>
      rw [hpayload] at hydrated
      obtain rfl := pure_eq_ok.mp hydrated
      have hsystem : event.actorPlayerId = none := by
        cases hby : event.actorPlayerId with
        | none => rfl
        | some actorId =>
          obtain ⟨_, _, _, _, -, -, -, -, hmessage, -⟩ := (admitted.human _ hby).operation
          cases hmessage
      have happlied : ∃ player', applied.player.byId.get? playerId = some player'
          ∧ player.Gained player' := by
        cases effect with
        | productionQuantumCommitted heq hexpected happlied =>
          obtain ⟨rfl, rfl, rfl⟩ := EventPayload.productionQuantumCommitted.inj heq
          obtain ⟨machines, hnodup, -, works⟩ := works_of_quantum hexpected happlied
          obtain ⟨player', hplayer', hgained⟩ := works.pays h hnodup hplayer hmem hpays
          exact ⟨player', hplayer', hgained⟩
        | _ => contradiction
      obtain ⟨player', hplayer', hgained⟩ := happlied
      have hcredited : credited = applied := by
        cases paid with
        | nothing => rfl
        | actor hby => cases hsystem.symm.trans hby
      rcases recordOperation_eq_ok recorded with ⟨-, rfl⟩ | ⟨_, _, _, _, hby, -⟩
      · show credited.player.byId.get? playerId ≠ some player
        rw [hcredited, hplayer']
        exact fun he => hgained.ne (Option.some.inj he)
      · cases hsystem.symm.trans hby
  | _ =>
    rw [hpayload] at hpaid
    exact absurd trivial hpaid

/-! ## Runs -/

/-- What the export compares with its package: the cell, the fence, the lock and the share. -/
def Exportable (w : WorldState) (package : PlayerTransferPackage) : Prop :=
  w.cellId = package.sourceCellId ∧ package.sourceFencingToken ≤ w.fencingToken
    ∧ w.playerTransferLocks.get? package.aggregateId = some (playerTransferLock package)
    ∧ holdsSubject w package package.sourcePlayer

instance (w : WorldState) (package : PlayerTransferPackage) :
    Decidable (w.Exportable package) :=
  inferInstanceAs (Decidable (_ ∧ _ ∧ _ ∧ _))

theorem spares_iff_unpaid (h : Carried w)
    (hlock : w.playerTransferLocks.get? playerId = some lock)
    (hopen : ¬ event.payload.Settles playerId lock.transferId)
    (hstep : w.applyEvent host event = .ok w') :
    Spares playerId w w' ↔ w.Unpaid playerId event.payload := by
  have accepted := accepted_of_applyEvent hstep
  constructor
  · intro hspares
    by_contra hpaid
    obtain ⟨player, hplayer⟩ := h.locked playerId lock hlock
    exact accepted.pays h hplayer hpaid (hspares.record.trans hplayer)
  · exact fun hunpaid => (accepted.kept h).spares playerId ⟨⟨lock, hlock, hopen⟩, hunpaid⟩

/-- An exportable subject stays exportable through an event exactly when the event leaves it
    alone. -/
theorem exportable_iff_spares {package} (hvalid : PackageOk host package) (h : w.Exportable package)
    (accepted : Accepted host w event w') :
    w'.Exportable package ↔ Spares package.aggregateId w w' := by
  obtain ⟨hcell, hfence, hlock, hplayer, hinventory, hhistory⟩ := h
  have hcell' : w'.cellId = w.cellId := congrArg CellIdentity.cellId accepted.identity
  constructor
  · intro ⟨_, _, hlock', hplayer', hinventory', hhistory'⟩
    refine ⟨hplayer'.trans hplayer.symm, fun inventoryId hcarries => ?_,
      hhistory'.trans hhistory.symm, hlock'.trans hlock.symm⟩
    obtain ⟨player, hrecord, rfl⟩ := hcarries
    obtain rfl := Option.mem_unique hplayer hrecord
    rw [← hvalid.carried.1]
    exact hinventory'.trans hinventory.symm
  · intro hspares
    have hcarries : w.Carries package.aggregateId package.inventory.inventoryId :=
      ⟨package.sourcePlayer, hplayer, hvalid.carried.1.symm⟩
    exact ⟨hcell'.trans hcell, hfence.trans accepted.frontier.2.2.2, hspares.lock.trans hlock,
      hspares.record.trans hplayer, (hspares.carried _ hcarries).trans hinventory,
      hspares.history.trans hhistory⟩

/-- From a locked player of a world that events have made from a valid one: every later event
    that is not the transfer's own export or abort leaves the share of the player alone, and the
    export goes on finding the exact subject of its package, as long as no finished machine job
    pays the player; and no longer. -/
theorem locked_spared_iff {start last : WorldState} {before after : List CanonicalEvent}
    {lock : PlayerTransferLock} (hvalid : start.validatePlayerRoster host = .ok ())
    (hbefore : runAll (applyEvent host) start before = .ok w)
    (hlock : w.playerTransferLocks.get? playerId = some lock)
    (hafter : runAll (applyEvent host) w after = .ok last)
    (hopen : ∀ event ∈ after, ¬ event.payload.Settles playerId lock.transferId) :
    (Throughout (applyEvent host) (Spares playerId w) w after ↔
        Along (applyEvent host) (fun s event => s.Unpaid playerId event.payload) w after)
      ∧ ∀ package, package.validate host = .ok () → package.aggregateId = playerId →
        w.Exportable package →
        (Throughout (applyEvent host) (fun s => s.Exportable package) w after ↔
          Along (applyEvent host) (fun s event => s.Unpaid playerId event.payload) w after) := by
  have hcarried : Carried w := preserved_of_run
    (fun h hstep => ((accepted_of_applyEvent hstep).kept h).carried)
    (carried_of_valid ((validatePlayerRoster_eq_ok host).mp hvalid)) hbefore
  constructor
  · refine throughout_iff_along (P := Carried)
      (fun h _ hstep => ((accepted_of_applyEvent hstep).kept h).carried) ?_ hcarried
      (.refl playerId w) hafter
    intro s event s' hmem h hspares hstep
    have hlock' := hspares.lock.trans hlock
    rw [← spares_iff_unpaid h hlock' (hopen event hmem) hstep]
    exact ⟨hspares.cancel, hspares.trans⟩
  · intro package hpackage haggregate hexportable
    refine throughout_iff_along (P := Carried)
      (fun h _ hstep => ((accepted_of_applyEvent hstep).kept h).carried) ?_ hcarried
      hexportable hafter
    intro s event s' hmem h hexportable' hstep
    subst haggregate
    have hlock' : s.playerTransferLocks.get? package.aggregateId = some lock := by
      rw [← hlock, hexportable'.2.2.1, hexportable.2.2.1]
    rw [← spares_iff_unpaid h hlock' (hopen event hmem) hstep]
    exact exportable_iff_spares (packageOk_of_validate hpackage) hexportable'
      (accepted_of_applyEvent hstep)

end WorldState

/-! A player is locked for its transfer and the refinery finishes its job a second later: the
record that is paid is no longer the one in the package, and the export refuses it for ever. -/

def proofContext : PlayerTransferContext where
  transferId := "transfer-player-1"
  sourceCellKey := Directory.cellOriginKey
  destinationCellKey := { Directory.cellOriginKey with cellX := 501 }
  sourceAssignmentGeneration := 1
  destinationAssignmentGeneration := 1
  sourceFencingToken := 5
  priorPlacementGeneration := 1
  resultingPlacementGeneration := 2

/-- What the directory has recorded of the transfer of a package. -/
def proofTransfer (package : PlayerTransferPackage) (phase : Directory.TransferPhase) :
    Directory.CellTransferRecord where
  transferId := package.transferId
  aggregateId := package.aggregateId
  aggregateKind := .player
  sourceCellKey := package.sourceCellKey
  sourceCellId := package.sourceCellId
  destinationCellKey := package.destinationCellKey
  destinationCellId := package.destinationCellId
  sourceAssignmentGeneration := package.sourceAssignmentGeneration
  destinationAssignmentGeneration := package.destinationAssignmentGeneration
  priorPlacementGeneration := package.priorPlacementGeneration
  resultingPlacementGeneration := package.resultingPlacementGeneration
  packageHash := package.packageHash
  quarantineReceiptHash := if phase = .prepared then none else some proofHash
  sourcePrepareProof := none
  destinationQuarantineProof := none
  importProof := none
  finalizationProof := none
  sourceAbortProof := none
  destinationAbortProof := none
  phase := phase

/-- A player that is locked and then paid. -/
structure PaidLocked where
  package : PlayerTransferPackage
  locking : CanonicalEvent
  locked : WorldState
  quantum : CanonicalEvent
  paid : WorldState

def paidLocked : Option PaidLocked := do
  let package ← (prepareEvaPlayerTransfer proofHost proofCell "player-1" proofContext).toOption
  let locking := systemEvent proofCell "transfer-player-1-prepared" 500
    (.playerTransferPrepared package (proofTransfer package .prepared))
  let locked ← (proofCell.applyEvent proofHost locking).toOption
  let payload ← (locked.productionQuantumPayload proofHost (firstOccurrence locked)).toOption
  let quantum := systemEvent locked "production-quantum" 1000 payload
  let paid ← (locked.applyEvent proofHost quantum).toOption
  return { package, locking, locked, quantum, paid }

namespace PaidLocked

/-- The player is locked by its own transfer, and the quantum, which is accepted, is not the
    transfer's. -/
def Runs (r : PaidLocked) : Prop :=
  proofCell.validatePlayerRoster proofHost = .ok ()
    ∧ (r.package.validate proofHost = .ok () ∧ r.package.aggregateId = "player-1")
    ∧ proofCell.applyEvent proofHost r.locking = .ok r.locked
    ∧ r.locked.playerTransferLocks.get? "player-1" = some (playerTransferLock r.package)
    ∧ r.locked.applyEvent proofHost r.quantum = .ok r.paid
    ∧ ¬ r.quantum.payload.Settles "player-1" (playerTransferLock r.package).transferId

instance (r : PaidLocked) : Decidable r.Runs :=
  inferInstanceAs (Decidable (_ ∧ _ ∧ _ ∧ _ ∧ _ ∧ _))

/-- Its record is no longer the one it was locked with, and its export is refused. -/
def Stranded (r : PaidLocked) : Prop :=
  r.locked.Exportable r.package ∧ ¬ r.paid.Exportable r.package
    ∧ r.paid.player.byId.get? "player-1" ≠ r.locked.player.byId.get? "player-1"
    ∧ stageCommittedEvaExport proofHost r.paid r.package (proofTransfer r.package .committed)
      = .error (.committedStateRejected "source world no longer matches the exact prepared package")

instance (r : PaidLocked) : Decidable r.Stranded :=
  inferInstanceAs (Decidable (_ ∧ _ ∧ _ ∧ _))

end PaidLocked

theorem exists_paidLocked : ∃ r : PaidLocked, r.Runs ∧ r.Stranded := by
  have h : paidLocked.any fun r => decide (r.Runs ∧ r.Stranded) := by decide +kernel
  cases hr : paidLocked with
  | none => simp [hr] at h
  | some r => exact ⟨r, by simpa [hr] using h⟩

namespace WorldState

/-- The quantum pays the owner that is locked. -/
theorem locked_spared_iff_paid : ∃ r : PaidLocked,
    (Throughout (applyEvent proofHost) (Spares "player-1" r.locked) r.locked [r.quantum] ↔
        Along (applyEvent proofHost) (fun s event => s.Unpaid "player-1" event.payload) r.locked
          [r.quantum])
      ∧ (Throughout (applyEvent proofHost) (fun s => s.Exportable r.package) r.locked [r.quantum] ↔
        Along (applyEvent proofHost) (fun s event => s.Unpaid "player-1" event.payload) r.locked
          [r.quantum]) := by
  obtain ⟨r, ⟨hvalid, hpackage, hlocking, hlock, hquantum, hopen⟩, hexportable, -⟩ :=
    exists_paidLocked
  have hbefore : runAll (applyEvent proofHost) proofCell [r.locking] = .ok r.locked := by
    simp [runAll, hlocking]
  have hafter : runAll (applyEvent proofHost) r.locked [r.quantum] = .ok r.paid := by
    simp [runAll, hquantum]
  have hothers : ∀ event ∈ [r.quantum],
      ¬ event.payload.Settles "player-1" (playerTransferLock r.package).transferId := by
    simpa using hopen
  obtain ⟨hspared, hexported⟩ := locked_spared_iff hvalid hbefore hlock hafter hothers
  exact ⟨r, hspared, hexported r.package hpackage.1 hpackage.2 hexportable⟩

/-- The quantum is accepted, the locked record is not the one in the package, and the export is
    refused after the directory commit. -/
theorem not_spared_paid : ∃ r : PaidLocked, r.Runs ∧ r.locked.Exportable r.package
    ∧ ¬ Spares "player-1" r.locked r.paid ∧ ¬ r.paid.Exportable r.package
    ∧ stageCommittedEvaExport proofHost r.paid r.package (proofTransfer r.package .committed)
      = .error (.committedStateRejected
          "source world no longer matches the exact prepared package") := by
  obtain ⟨r, hruns, hexportable, hlost, hrecord, hrefused⟩ := exists_paidLocked
  exact ⟨r, hruns, hexportable, fun hspares => hrecord hspares.record, hlost, hrefused⟩

/-- Nobody is locked before the transfer. -/
example : proofCell.playerTransferLocks.keys = [] := by decide

end WorldState
end Verse
