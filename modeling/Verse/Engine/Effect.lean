import Verse.Engine.Apply

/-!
# What an accepted event does

`applyEvent` is read backwards here, once. `Admitted` is what the header and the envelope
have established by the time a payload is looked at; `Effect` has one constructor for each
payload, with what its branch checked and the state it leaves; `Settled` is what the pay, the
career entry, the seal and the operation record change. Later files argue by cases on these
and unfold no branch.

The branches that call a function of their own (a quantum of production, damage, a physics
step, a step of a handoff) keep the call: each of those is read backwards in its own file.
-/

namespace Verse

open Lib
open Directory (CellTransferRecord)

namespace WorldState

variable {host : Host} {w w' : WorldState} {event : CanonicalEvent}

/-! ## The envelope -/

/-- The players a payload moves without being caused by them. -/
def passiveSubjects : EventPayload → List String
  | .suitOxygenChanged playerId .. | .playerIncapacitated playerId .. => [playerId]
  | .physicsStepCommitted _ _ _ _ players _ _ => players.map PlayerPhysicsOutcome.playerId
  | _ => []

/-- A human event is the next operation of a player who is present, free and alive, and
    answers exactly the request its fingerprint names. -/
structure HumanAdmitted (host : Host) (w : WorldState) (event : CanonicalEvent)
    (actorPlayerId : String) : Prop where
  operation : ∃ operationId operationSequence intentFingerprint message,
    event.operationId = some operationId
      ∧ event.operationSequence = some operationSequence
      ∧ event.intentFingerprint = some intentFingerprint
      ∧ w.validateOperationAttempt actorPlayerId operationSequence intentFingerprint = .ok none
      ∧ clientMessageForHumanEvent event.payload operationSequence operationId = .ok message
      ∧ w.clientIntentFingerprint host actorPlayerId message = .ok intentFingerprint
  unlocked : w.playerTransferLocks.get? actorPlayerId = none
  present : ∃ player, w.player.byId.get? actorPlayerId = some player
    ∧ (player.lifeState = .alive ∨ isRespawn event.payload)

/-- What the header and the envelope establish. -/
structure Admitted (host : Host) (w : WorldState) (event : CanonicalEvent) : Prop where
  next : event.eventSequence = w.eventSequence + 1
  counted : event.eventSequence ≤ u64Max
  bound : event.universeId = w.universeId ∧ event.cellId = w.cellId
  fence : 0 < event.authorityFencingToken ∧ w.fencingToken ≤ event.authorityFencingToken
  human : ∀ actorPlayerId, event.actorPlayerId = some actorPlayerId →
    HumanAdmitted host w event actorPlayerId
  system : event.actorPlayerId = none → event.operationId = none
  spared : ∀ playerId ∈ passiveSubjects event.payload, w.playerTransferLocks.get? playerId = none

theorem validateTransferLocks_eq_ok :
    w.validateTransferLocks event = .ok () ↔
      (∀ playerId, event.actorPlayerId = some playerId → w.playerTransferLocks.get? playerId = none)
        ∧ ∀ playerId ∈ passiveSubjects event.payload,
          w.playerTransferLocks.get? playerId = none := by
  unfold validateTransferLocks
  cases event.payload <;> simp [passiveSubjects]

theorem validateActorAlive_eq_ok :
    w.validateActorAlive event = .ok () ↔
      ∀ playerId, event.actorPlayerId = some playerId →
        ∃ player, w.player.byId.get? playerId = some player
          ∧ (player.lifeState = .alive ∨ isRespawn event.payload) := by
  unfold validateActorAlive
  cases event.actorPlayerId with
  | none => simp
  | some playerId =>
    simp only [bind_eq_ok, actor_eq_ok, rejectIf_eq_ok, Option.some.injEq, forall_eq', not_and_or,
      not_not, ne_eq, Bool.not_eq_false]

theorem validateActorEnvelope_eq_ok {human} (h : w.validateActorEnvelope event = .ok human) :
    (∀ envelope, human = some envelope →
        event.actorPlayerId = some envelope.actorPlayerId
          ∧ event.operationId = some envelope.operationId
          ∧ event.operationSequence = some envelope.operationSequence
          ∧ event.intentFingerprint = some envelope.intentFingerprint)
      ∧ (human = none → event.actorPlayerId = none ∧ event.operationId = none) := by
  unfold validateActorEnvelope at h
  split_ifs at h with hhuman hsystem
  · split at h
    case h_1 actorPlayerId operationId operationSequence fingerprint h₁ h₂ h₃ h₄ =>
      simp only [bind_eq_ok, rejectIf_eq_ok, pure_eq_ok] at h
      obtain ⟨-, -, rfl⟩ := h
      refine ⟨?_, by simp⟩
      rintro envelope ⟨⟩
      exact ⟨h₁, h₂, h₃, h₄⟩
    case h_2 => simp at h
  · simp only [bind_eq_ok, rejectIf_eq_ok, pure_eq_ok, not_or, not_not] at h
    obtain ⟨-, ⟨h₁, h₂, -⟩, rfl⟩ := h
    exact ⟨by simp, fun _ => ⟨h₁, h₂⟩⟩

theorem validateOperation_eq_ok {payload human}
    (h : w.validateOperation host payload human = .ok ()) :
    w.validateOperationAttempt human.actorPlayerId human.operationSequence
        human.intentFingerprint = .ok none
      ∧ ∃ message, clientMessageForHumanEvent payload human.operationSequence human.operationId
          = .ok message
        ∧ w.clientIntentFingerprint host human.actorPlayerId message
          = .ok human.intentFingerprint := by
  simp only [validateOperation, bind_eq_ok, rejectIf_eq_ok, ne_eq, not_not] at h
  obtain ⟨committed, hattempt, -, rfl, message, hmessage, fingerprint, hfingerprint, rfl⟩ := h
  exact ⟨hattempt, message, hmessage, hfingerprint⟩

theorem validateEnvelope_eq_ok (h : w.validateEnvelope host event = .ok ()) :
    ∃ human, w.validateActorEnvelope event = .ok human
      ∧ (∀ envelope, human = some envelope →
          w.validateOperation host event.payload envelope = .ok ())
      ∧ w.validateTransferLocks event = .ok () ∧ w.validatePayloadEnvelope event = .ok ()
      ∧ w.validateActorAlive event = .ok () ∧ w.validateFence event = .ok () := by
  rw [validateEnvelope, bind_eq_ok] at h
  obtain ⟨human, hactor, h⟩ := h
  refine ⟨human, hactor, ?_⟩
  cases human with
  | none =>
    simp only [bind_eq_ok] at h
    obtain ⟨⟨⟩, hlocks, ⟨⟩, hpayload, ⟨⟩, halive, hfence⟩ := h
    exact ⟨by simp, hlocks, hpayload, halive, hfence⟩
  | some envelope =>
    simp only [bind_eq_ok] at h
    obtain ⟨⟨⟩, hoperation, ⟨⟩, hlocks, ⟨⟩, hpayload, ⟨⟩, halive, hfence⟩ := h
    refine ⟨?_, hlocks, hpayload, halive, hfence⟩
    intro envelope' he
    cases he
    exact hoperation

theorem admitted_of_validate {payload} (hheader : w.validateHeader host event = .ok ())
    (henvelope : w.validateEnvelope host { event with payload } = .ok ()) :
    Admitted host w { event with payload } := by
  simp only [validateHeader, bind_eq_ok, rejectIf_eq_ok, plainAdd_eq_ok, ne_eq, not_or,
    not_not] at hheader
  obtain ⟨-, -, sequence, ⟨hcounted, rfl⟩, -, hnext, -, -, -, -, -, hbound, -⟩ := hheader
  obtain ⟨human, hactor, hoperation, hlocks, -, halive, hfence⟩ := validateEnvelope_eq_ok henvelope
  obtain ⟨hhuman, hsystem⟩ := validateActorEnvelope_eq_ok hactor
  obtain ⟨hunlocked, hspared⟩ := validateTransferLocks_eq_ok.mp hlocks
  simp only [validateFence, rejectIf_eq_ok, not_or, not_lt] at hfence
  refine ⟨hnext, hnext ▸ hcounted, hbound, ⟨Nat.pos_of_ne_zero hfence.1, hfence.2⟩, ?_, ?_, hspared⟩
  · intro actorPlayerId hby
    refine ⟨?_, hunlocked actorPlayerId hby, validateActorAlive_eq_ok.mp halive _ hby⟩
    cases human with
    | none => exact absurd ((hsystem rfl).1.symm.trans hby) (by simp)
    | some envelope =>
      obtain ⟨h₁, h₂, h₃, h₄⟩ := hhuman envelope rfl
      obtain rfl := Option.mem_unique h₁ hby
      obtain ⟨hattempt, message, hmessage, hfingerprint⟩ :=
        validateOperation_eq_ok (hoperation envelope rfl)
      exact ⟨_, _, _, message, h₂, h₃, h₄, hattempt, hmessage, hfingerprint⟩
  · intro hnobody
    cases human with
    | none => exact (hsystem rfl).2
    | some envelope =>
      exact absurd (((hhuman envelope rfl).1).symm.trans hnobody) (by simp)

/-! ## The payload -/

/-- The player an accepted control frame is queued on. -/
def controlled (actor : Player) (frame : PlayerControlFrame) : Player :=
  { actor with
    pendingControlFrames := actor.pendingControlFrames ++ [frame]
    lastReceivedInputSequence := frame.inputSequence }

/-- The identity of the drop a death leaves behind. -/
def deathDropId (player : Player) (eventSequence : Nat) : String :=
  s!"drop-{player.playerId}-{eventSequence}"

/-- The sealed inventory of that drop. -/
def droppedInventory (player : Player) (inventory : InventoryRecord) (eventSequence : Nat) :
    InventoryRecord where
  inventoryId := s!"inventory-{deathDropId player eventSequence}"
  domain := .dropped "player_oxygen_depleted" player.playerId
  contents := inventory.contents
  capacityLiters := inventory.capacityLiters

/-- The marker that leads to it. -/
def deathDropOf (player : Player) (eventSequence : Nat) : DeathDrop where
  dropId := deathDropId player eventSequence
  deathId := s!"death-{player.playerId}-{eventSequence}"
  inventoryId := s!"inventory-{deathDropId player eventSequence}"
  ownerPlayerId := player.playerId
  address := player.address
  position := player.position
  createdEventSequence := eventSequence
  cause := .oxygenDepleted

/-- Whether a player carried anything decides whether a drop is left. -/
inductive Collapse (w : WorldState) (player : Player) (inventory : InventoryRecord)
    (eventSequence : Nat) : Option InventoryRecord → Option DeathDrop → WorldState → Prop
  | bare (hempty : inventory.contents = .empty) :
      Collapse w player inventory eventSequence none none
        (w.withContents player.inventoryId .empty)
  | dropping (hcarried : inventory.contents ≠ .empty)
      (hdrop : w.deathDrops.get? (deathDropId player eventSequence) = none)
      (hinventory : w.inventories.get? s!"inventory-{deathDropId player eventSequence}" = none) :
      Collapse w player inventory eventSequence
        (some (droppedInventory player inventory eventSequence))
        (some (deathDropOf player eventSequence))
        ((w.withContents player.inventoryId .empty).withDeathDrop
          (droppedInventory player inventory eventSequence) (deathDropOf player eventSequence))

theorem oxygenIncapacitationPayload_eq_ok {playerId : String} {payload}
    (h : w.oxygenIncapacitationPayload host playerId = .ok payload) :
    ∃ player inventory droppedInventory deathDrop collapsed,
      w.player.byId.get? playerId = some player
        ∧ player.lifeState = .alive
        ∧ w.inventories.get? player.inventoryId = some inventory
        ∧ inventory.domain = .player player.playerId
        ∧ Collapse w player inventory (w.eventSequence + 1) droppedInventory deathDrop collapsed
        ∧ payload = .playerIncapacitated player.playerId
            s!"death-{player.playerId}-{w.eventSequence + 1}" .oxygenDepleted player.address
            player.position player.suitOxygenMilli droppedInventory deathDrop := by
  simp only [oxygenIncapacitationPayload, lifecyclePlayer, bind_eq_ok, demand_eq_ok,
    rejectIf_eq_ok, plainAdd_eq_ok, inventory_eq_ok, not_or, ne_eq, not_not] at h
  obtain ⟨player, hplayer, -, ⟨halive, -⟩, next, -, -, -, sequence, ⟨-, rfl⟩, inventory,
    hinventory, -, hdomain, h⟩ := h
  split_ifs at h with hempty
  · simp only [bind_eq_ok, pure_eq_ok, exists_eq_left'] at h
    subst h
    exact ⟨player, inventory, _, _, _, hplayer, halive, hinventory, hdomain, .bare hempty, rfl⟩
  · simp only [bind_eq_ok, rejectIf_eq_ok, pure_eq_ok, exists_eq_left', not_or,
      Bool.not_eq_true, OrdMap.contains_eq_false] at h
    obtain ⟨-, ⟨hdrop, hfresh⟩, rfl⟩ := h
    exact ⟨player, inventory, _, _, _, hplayer, halive, hinventory, hdomain,
      .dropping hempty hdrop hfresh, rfl⟩

/-- What a machine job has reserved comes out of cargo the actor owns and the machine reaches. -/
def Endpoint (w : WorldState) (actorPlayerId machineBlockId inventoryId : String) : Prop :=
  w.Owns actorPlayerId inventoryId ∧ w.cargoBlockForInventory inventoryId ≠ none
    ∧ w.productionRouteExists machineBlockId inventoryId

/-- The block a weld leaves. -/
def welded (block : Block) (newHealth : Nat) (completedConstruction : Bool) : Block :=
  { block with
    health := newHealth
    constructionComplete := block.constructionComplete || completedConstruction }

/-- One constructor for each payload that `applyPayload` accepts. -/
inductive Effect (host : Host) (w : WorldState) (event : CanonicalEvent) : WorldState → Prop
  | playerControlSet {movementEpoch linearInput angularInput boost dampeners jump expires}
      {inputSequence : Nat} {actorPlayerId : String} {actor : Player}
      (hpayload : event.payload = .playerControlSet movementEpoch inputSequence linearInput
        angularInput boost dampeners jump expires)
      (hby : event.actorPlayerId = some actorPlayerId)
      (hactor : w.player.byId.get? actorPlayerId = some actor) :
      Effect host w event (w.withPlayer actorPlayerId (controlled actor
        ⟨inputSequence, linearInput, angularInput, boost, dampeners, jump, expires⟩))
  | suitModeChanged {helmetClosed jetpackEnabled magneticBootsEnabled} {actorPlayerId : String}
      {actor : Player}
      (hpayload : event.payload = .suitModeChanged helmetClosed jetpackEnabled magneticBootsEnabled)
      (hby : event.actorPlayerId = some actorPlayerId)
      (hactor : w.player.byId.get? actorPlayerId = some actor) :
      Effect host w event (w.withPlayer actorPlayerId
        (suitMode actor helmetClosed jetpackEnabled magneticBootsEnabled))
  | suitOxygenChanged {playerId previousOxygenMilli newOxygenMilli} {player : Player}
      (hpayload : event.payload = .suitOxygenChanged playerId previousOxygenMilli newOxygenMilli)
      (hplayer : w.player.byId.get? playerId = some player)
      (hexpected : w.lifeSupportPayload host playerId = .ok (some event.payload)) :
      Effect host w event
        (w.withPlayer playerId { player with suitOxygenMilli := newOxygenMilli })
  | playerIncapacitated {deathId cause address position previousOxygenMilli droppedInventory
        deathDrop collapsed} {player : Player} {inventory : InventoryRecord}
      (hpayload : event.payload = .playerIncapacitated player.playerId deathId cause address
        position previousOxygenMilli droppedInventory deathDrop)
      (hplayer : w.player.byId.get? player.playerId = some player)
      (hinventory : w.inventories.get? player.inventoryId = some inventory)
      (hdomain : inventory.domain = .player player.playerId)
      (hcollapse : Collapse w player inventory (w.eventSequence + 1) droppedInventory deathDrop
        collapsed) :
      Effect host w event ((collapsed.withPlayer player.playerId
        (w.incapacitated host player deathId cause)).forgetContacts player.playerId)
  | playerRespawned {deathId address position suitOxygenMilli helmetClosed jetpackEnabled
        magneticBootsEnabled} {actorPlayerId : String} {actor : Player}
      (hpayload : event.payload = .playerRespawned deathId address position suitOxygenMilli
        helmetClosed jetpackEnabled magneticBootsEnabled)
      (hby : event.actorPlayerId = some actorPlayerId)
      (hactor : w.player.byId.get? actorPlayerId = some actor)
      (hexpected : w.playerRespawnPayload host actorPlayerId = .ok event.payload) :
      Effect host w event ((w.withPlayer actorPlayerId (w.respawned host actor address position
        suitOxygenMilli helmetClosed jetpackEnabled magneticBootsEnabled)).forgetContacts
          actorPlayerId)
  | voxelMined {coordinate material oreYield} {actorPlayerId : String} {actor : Player}
      {inventory : InventoryRecord}
      (hpayload : event.payload = .voxelMined coordinate material oreYield actor.inventoryId)
      (hby : event.actorPlayerId = some actorPlayerId)
      (hactor : w.player.byId.get? actorPlayerId = some actor)
      (hmaterial : w.voxels.material coordinate = some material)
      (hyield : oreYield = Content.voxelOreYield material)
      (hinventory : w.inventories.get? actor.inventoryId = some inventory)
      (hcapacity : inventory.canAdd .ore oreYield)
      (hsupport : w.supportsAnchor host coordinate = false)
      (hore : inventory.contents.ore + oreYield ≤ u64Max)
      (hmined : w.ledger.minedOre + oreYield ≤ u64Max) :
      Effect host w event ((({ w with
        voxels := w.voxels.remove coordinate
        ledger := { w.ledger with minedOre := w.ledger.minedOre + oreYield } }).withContents
          actor.inventoryId { inventory.contents with
            ore := inventory.contents.ore + oreYield }).forgetVoxelContacts coordinate)
  | productionQueued {job : ProductionJob} {actorPlayerId operationId : String} {grid : Grid}
      {machine : Block} {outputs : InventoryContents} {source : InventoryRecord}
      {contents : InventoryContents}
      (hpayload : event.payload = .productionQueued job)
      (hby : event.actorPlayerId = some actorPlayerId)
      (hoperation : event.operationId = some operationId)
      (hmachine : w.blockGrid job.machineBlockId = some (grid, machine))
      (hjob : job.jobId = s!"production-job-{event.eventSequence}"
        ∧ job.queuedEventSequence = event.eventSequence ∧ job.operationId = operationId
        ∧ job.ownerPlayerId = actorPlayerId ∧ grid.ownerPlayerId = actorPlayerId
        ∧ machine.constructionComplete
        ∧ Content.machineSupportsRecipe machine.kind job.recipe
        ∧ job.contentManifestVersion = w.contentManifestVersion
        ∧ job.progressTicks = 0 ∧ job.pendingOutputs = .empty
        ∧ ∀ prior ∈ w.jobs, prior.jobId ≠ job.jobId)
      (hqueue : (w.queueOf job.machineBlockId).length < Content.queueLimitPerMachine)
      (hrecipe : productionRecipeQuantities job.recipe job.batches
        = some (job.reservedInputs, outputs, job.durationTicks))
      (hsource : w.Endpoint actorPlayerId job.machineBlockId job.sourceInventoryId)
      (hdestination : w.Endpoint actorPlayerId job.machineBlockId job.destinationInventoryId)
      (hinventory : w.inventories.get? job.sourceInventoryId = some source)
      (hcontents : source.contents.subtract job.reservedInputs = some contents) :
      Effect host w event { w.withContents job.sourceInventoryId contents with
        productionQueues := w.productionQueues.insert job.machineBlockId
          (w.queueOf job.machineBlockId ++ [job]) }
  | productionQuantumCommitted {occurrence elapsedTicks outcomes} {applied : WorldState}
      (hpayload : event.payload = .productionQuantumCommitted occurrence elapsedTicks outcomes)
      (hexpected : w.productionQuantumPayload host occurrence = .ok event.payload)
      (happlied : w.applyOutcomes outcomes = .ok applied) :
      Effect host w event { applied with productionClock := { applied.productionClock with
        lastCommittedQuantumSequence := occurrence.productionQuantumSequence
        lastScheduledForUnixMs := occurrence.scheduledForUnixMs } }
  | inventoryTransferred {sourceInventoryId destinationInventoryId : String} {resource quantity}
      {actorPlayerId : String} {source destination : InventoryRecord}
      (hpayload : event.payload = .inventoryTransferred sourceInventoryId destinationInventoryId
        resource quantity)
      (hby : event.actorPlayerId = some actorPlayerId)
      (hdistinct : sourceInventoryId ≠ destinationInventoryId)
      (hownsSource : w.Owns actorPlayerId sourceInventoryId)
      (hownsDestination : w.Owns actorPlayerId destinationInventoryId)
      (hsource : w.inventories.get? sourceInventoryId = some source)
      (hdestination : w.inventories.get? destinationInventoryId = some destination)
      (hamount : quantity ≤ source.contents.amount resource)
      (hcapacity : destination.canAdd resource quantity)
      (hsum : destination.contents.amount resource + quantity ≤ u64Max) :
      Effect host w event ((w.withContents sourceInventoryId
        (source.contents.set resource (source.contents.amount resource - quantity))).withContents
          destinationInventoryId (destination.contents.set resource
            (destination.contents.amount resource + quantity)))
  | blockBuilt {gridId : String} {block : Block} {actorPlayerId : String} {actor : Player}
      {grid : Grid} {inventory : InventoryRecord}
      (hpayload : event.payload = .blockBuilt gridId actor.inventoryId block)
      (hby : event.actorPlayerId = some actorPlayerId)
      (hframe : block.orientation ≤ 3 ∧ block.health = divCeil block.maxHealth 4
        ∧ block.constructionComplete = false
        ∧ block.componentCost = (Content.block block.kind).componentCost
        ∧ block.blockId = s!"block-{event.eventSequence}"
        ∧ block.inventoryId
          = if block.kind = .cargo then some s!"inventory-{block.blockId}" else none)
      (hfreshBlock : ∀ grid ∈ w.grids.values, grid.blocks.get? block.blockId = none)
      (hfreshInventory : ∀ inventoryId, block.inventoryId = some inventoryId →
        w.inventories.get? inventoryId = none)
      (hgrid : w.grids.get? gridId = some grid)
      (howner : grid.ownerPlayerId = actorPlayerId)
      (hactor : w.player.byId.get? actorPlayerId = some actor)
      (howns : w.Owns actorPlayerId actor.inventoryId)
      (hplace : grid.blocks.size < Content.maxGridBlocks ∧ grid.blockAt block.coordinate = none)
      (hinventory : w.inventories.get? actor.inventoryId = some inventory)
      (hcomponents : block.componentCost ≤ inventory.contents.components)
      (hbuilt : w.ledger.builtBlocks + 1 ≤ u64Max) :
      Effect host w event { (((w.withContents actor.inventoryId { inventory.contents with
          components := inventory.contents.components - block.componentCost }).withCargoInventory
            block).withGrid gridId
              { grid with blocks := grid.blocks.insert block.blockId block }) with
        ledger := { w.ledger with builtBlocks := w.ledger.builtBlocks + 1 } }
  | blockWelded {gridId blockId previousHealth newHealth maxHealth completedConstruction}
      {actorPlayerId : String} {grid : Grid} {block : Block}
      (hpayload : event.payload = .blockWelded gridId blockId previousHealth newHealth maxHealth
        completedConstruction)
      (hby : event.actorPlayerId = some actorPlayerId)
      (hgrid : w.grids.get? gridId = some grid)
      (howner : grid.ownerPlayerId = actorPlayerId)
      (hblock : grid.blocks.get? blockId = some block)
      (hprevious : block.health = previousHealth ∧ block.maxHealth = maxHealth)
      (hdamaged : previousHealth < maxHealth)
      (hhealth : newHealth = min (previousHealth + divCeil maxHealth 4) maxHealth) :
      Effect host w event (w.withGrid gridId { grid with
        blocks := grid.blocks.insert blockId (welded block newHealth completedConstruction) })
  | gridControlSet {gridId : String} {linearInput angularInput dampeners} {actorPlayerId : String}
      {grid : Grid}
      (hpayload : event.payload = .gridControlSet gridId linearInput angularInput dampeners)
      (hby : event.actorPlayerId = some actorPlayerId)
      (hgrid : w.grids.get? gridId = some grid)
      (howner : grid.ownerPlayerId = actorPlayerId)
      (hfinite : linearInput.isFinite ∧ angularInput.isFinite)
      (hreleased : grid.anchored = false) :
      Effect host w event (w.withGrid gridId { grid with
        controlLinearInput := linearInput
        controlAngularInput := angularInput
        dampeners })
  | gridAnchorSet {gridId : String} {anchored rewardCredited} {actorPlayerId : String}
      {grid : Grid}
      (hpayload : event.payload = .gridAnchorSet gridId anchored rewardCredited)
      (hby : event.actorPlayerId = some actorPlayerId)
      (hgrid : w.grids.get? gridId = some grid)
      (howner : grid.ownerPlayerId = actorPlayerId)
      (htoggle : anchored ≠ grid.anchored)
      (htouches : anchored → grid.anchorTouches host w.voxels) :
      Effect host w event (w.withGrid gridId (anchorGrid grid anchored rewardCredited))
  | blockDamaged {gridId blockId : String} {damage} {actorPlayerId : String}
      {applied : WorldState}
      (hpayload : event.payload = .blockDamaged gridId blockId damage)
      (hby : event.actorPlayerId = some actorPlayerId)
      (hdamage : damage = Content.handToolDamage)
      (happlied : w.applyDamage host gridId blockId damage event.eventSequence = .ok applied) :
      Effect host w event applied
  | physicsStepCommitted {fixedStepHz stepCount remainingStepPhase bodies players contacts
        activeContactsAfter} {applied : WorldState}
      (hpayload : event.payload = .physicsStepCommitted fixedStepHz stepCount remainingStepPhase
        bodies players contacts activeContactsAfter)
      (happlied : w.applyPhysicsStep host fixedStepHz stepCount remainingStepPhase bodies players
        contacts activeContactsAfter = .ok applied) :
      Effect host w event applied
  | playerTransferPrepared {package transfer} {applied : WorldState}
      (hpayload : event.payload = .playerTransferPrepared package transfer)
      (hstaged : stagePreparedEvaLock host
        { w with fencingToken := event.authorityFencingToken } package transfer = .ok applied) :
      Effect host w event applied
  | playerTransferQuarantined {package receipt} {applied : WorldState}
      (hpayload : event.payload = .playerTransferQuarantined package receipt)
      (hstaged : stageEvaPlayerQuarantine host
        { w with fencingToken := event.authorityFencingToken } receipt.destinationFencingToken
          package = .ok (applied, receipt)) :
      Effect host w event applied
  | playerTransferAborted {package transfer} {applied : WorldState}
      (hpayload : event.payload = .playerTransferAborted package transfer)
      (hstaged : stageAbortedEvaUnlock host
        { w with fencingToken := event.authorityFencingToken } package transfer = .ok applied) :
      Effect host w event applied
  | playerTransferExported {package transfer} {applied : WorldState}
      (hpayload : event.payload = .playerTransferExported package transfer)
      (hstaged : stageCommittedEvaExport host
        { w with fencingToken := event.authorityFencingToken } package transfer = .ok applied) :
      Effect host w event applied
  | playerTransferImported {package receipt transfer} {applied : WorldState}
      (hpayload : event.payload = .playerTransferImported package receipt transfer)
      (hstaged : stageCommittedEvaImport host
        { w with fencingToken := event.authorityFencingToken } package receipt transfer = .ok applied) :
      Effect host w event applied

variable {actorPlayerId : String}

@[simp] theorem eventActor_eq_ok :
    eventActor event = .ok actorPlayerId ↔ event.actorPlayerId = some actorPlayerId :=
  demand_eq_ok

@[simp] theorem applyStaged_eq_ok {α : Type} {code : String} {staged} {a : α} :
    applyStaged code staged = .ok a ↔ staged = .ok a :=
  mapError_eq_ok

section branches

theorem effect_playerIncapacitated {playerId deathId cause address position previousOxygenMilli
      droppedInventory deathDrop}
    (hpayload : event.payload = .playerIncapacitated playerId deathId cause address position
      previousOxygenMilli droppedInventory deathDrop)
    (h : w.applyPlayerIncapacitated host event.payload playerId = .ok w') :
    Effect host w event w' := by
  simp only [applyPlayerIncapacitated, bind_eq_ok, rejectIf_eq_ok, ne_eq, not_not] at h
  obtain ⟨expected, hexpected, -, rfl, h⟩ := h
  obtain ⟨player, inventory, dropped, drop, collapsed, hplayer, -, hinventory, hdomain,
    hcollapse, heq⟩ := oxygenIncapacitationPayload_eq_ok hexpected
  rw [hpayload, EventPayload.playerIncapacitated.injEq] at heq
  obtain ⟨rfl, rfl, rfl, rfl, rfl, rfl, rfl, rfl⟩ := heq
  rw [hpayload] at h
  simp only [bind_eq_ok, actor_eq_ok, inventory_eq_ok, pure_eq_ok, hplayer, hinventory,
    Option.some.injEq, exists_eq_left'] at h
  subst h
  cases hcollapse with
  | bare hempty =>
    exact .playerIncapacitated hpayload hplayer hinventory hdomain (.bare hempty)
  | dropping hcarried hdrop hfresh =>
    exact .playerIncapacitated hpayload hplayer hinventory hdomain
      (.dropping hcarried hdrop hfresh)

theorem effect_voxelMined {actorPlayerId coordinate material oreYield inventoryId}
    (hpayload : event.payload = .voxelMined coordinate material oreYield inventoryId)
    (hby : event.actorPlayerId = some actorPlayerId)
    (h : w.applyVoxelMined host actorPlayerId coordinate material oreYield inventoryId = .ok w') :
    Effect host w event w' := by
  simp only [applyVoxelMined, bind_eq_ok, rejectIf_eq_ok, actor_eq_ok, inventory_eq_ok,
    demand_eq_ok, plainAdd_eq_ok, pure_eq_ok, ne_eq, not_not, Bool.not_eq_false,
    Bool.not_eq_true] at h
  obtain ⟨actor, hactor, -, rfl, canonical, hmaterial, -, rfl, ⟨⟩, -, -, rfl, inventory,
    hinventory, -, hcapacity, -, hsupport, ore, ⟨hore, rfl⟩, mined, ⟨hmined, rfl⟩, rfl⟩ := h
  exact .voxelMined hpayload hby hactor hmaterial rfl hinventory hcapacity hsupport hore hmined

@[simp] theorem ensureProductionEndpoint_eq_ok {actorPlayerId machineId inventoryId : String}
    {u : Unit} :
    w.ensureProductionEndpoint actorPlayerId machineId inventoryId = .ok u ↔
      w.Endpoint actorPlayerId machineId inventoryId := by
  simp [ensureProductionEndpoint, Endpoint, not_or]

theorem effect_productionQueued {job} (hpayload : event.payload = .productionQueued job)
    (hby : event.actorPlayerId = some actorPlayerId)
    (h : w.applyProductionQueued event actorPlayerId job = .ok w') :
    Effect host w event w' := by
  simp only [applyProductionQueued, bind_eq_ok, rejectIf_eq_ok, inventory_eq_ok, demand_eq_ok,
    pure_eq_ok, checkAll_eq_ok, Prod.exists, ne_eq, not_or, not_not, Bool.not_eq_false,
    not_exists, not_and, not_le, ensureProductionEndpoint_eq_ok, List.forall_mem_cons] at h
  obtain ⟨operationId, hoperation, grid, machine, hmachine, -, hjob, -, hqueue, inputs, outputs,
    duration, hrecipe, -, ⟨rfl, rfl⟩, -, ⟨hsource, hdestination, -⟩, source, hinventory,
    contents, hcontents, rfl⟩ := h
  exact .productionQueued hpayload hby hoperation hmachine hjob hqueue hrecipe hsource
    hdestination hinventory hcontents

theorem effect_inventoryTransferred
    {actorPlayerId sourceInventoryId destinationInventoryId resource quantity}
    (hpayload : event.payload = .inventoryTransferred sourceInventoryId destinationInventoryId
      resource quantity)
    (hby : event.actorPlayerId = some actorPlayerId)
    (h : w.applyInventoryTransferred actorPlayerId sourceInventoryId destinationInventoryId
      resource quantity = .ok w') :
    Effect host w event w' := by
  simp only [applyInventoryTransferred, bind_eq_ok, rejectIf_eq_ok, inventory_eq_ok,
    demand_eq_ok, pure_eq_ok, ensureActorOwnsInventory_eq_ok, checkedAdd_eq_some, not_or, not_lt,
    Bool.not_eq_false] at h
  obtain ⟨-, ⟨hdistinct, -⟩, -, hownsSource, -, hownsDestination, -, -, -, -, source, hsource,
    destination, hdestination, -, ⟨hamount, hcapacity⟩, sum, ⟨hsum, rfl⟩, rfl⟩ := h
  exact .inventoryTransferred hpayload hby hdistinct hownsSource hownsDestination hsource
    hdestination hamount hcapacity hsum

theorem effect_blockBuilt {actorPlayerId gridId componentInventoryId : String} {block : Block}
    (hpayload : event.payload = .blockBuilt gridId componentInventoryId block)
    (hby : event.actorPlayerId = some actorPlayerId)
    (h : w.applyBlockBuilt host event.eventSequence actorPlayerId gridId componentInventoryId
      block = .ok w') :
    Effect host w event w' := by
  simp only [applyBlockBuilt, bind_eq_ok, rejectIf_eq_ok, inventory_eq_ok, grid_eq_ok,
    actor_eq_ok, plainAdd_eq_ok, pure_eq_ok, ensureActorOwnsGrid_eq_ok,
    ensureActorOwnsInventory_eq_ok, ne_eq, not_or, not_not, not_lt, not_le, not_exists, not_and,
    Bool.not_eq_true, OrdMap.contains_eq_false, ge_iff_le] at h
  obtain ⟨-, ⟨h₁, h₂, h₃, h₄, h₅, h₆⟩, -, ⟨hfreshBlock, hfreshInventory⟩, grid, hgrid, actor,
    hactor, -, ⟨grid', hgrid', howner⟩, -, rfl, -, howns, -, ⟨hsize, hfree, -⟩, -, -, -, -,
    inventory, hinventory, -, hcomponents, built, ⟨hbuilt, rfl⟩, rfl⟩ := h
  obtain rfl := Option.mem_unique hgrid hgrid'
  exact .blockBuilt hpayload hby ⟨h₁, h₂, h₃, h₄, h₅, h₆⟩ hfreshBlock
    hfreshInventory hgrid howner hactor howns ⟨hsize, hfree⟩ hinventory
    hcomponents hbuilt

theorem effect_blockWelded {actorPlayerId gridId blockId previousHealth newHealth maxHealth
      completedConstruction}
    (hpayload : event.payload = .blockWelded gridId blockId previousHealth newHealth maxHealth
      completedConstruction)
    (hby : event.actorPlayerId = some actorPlayerId)
    (h : w.applyBlockWelded host actorPlayerId gridId blockId previousHealth newHealth maxHealth
      completedConstruction = .ok w') :
    Effect host w event w' := by
  simp only [applyBlockWelded, bind_eq_ok, rejectIf_eq_ok, grid_eq_ok, actor_eq_ok, demand_eq_ok,
    pure_eq_ok, ensureActorOwnsGrid_eq_ok, ne_eq, not_or, not_not, not_le, ge_iff_le] at h
  obtain ⟨actor, -, -, ⟨grid', hgrid', howner⟩, grid, hgrid, block, hblock, -, -, -, hprevious, -,
    hdamaged, -, hhealth, -, -, rfl⟩ := h
  obtain rfl := Option.mem_unique hgrid hgrid'
  exact .blockWelded hpayload hby hgrid howner hblock hprevious hdamaged hhealth

theorem effect_gridControlSet {actorPlayerId gridId linearInput angularInput dampeners}
    (hpayload : event.payload = .gridControlSet gridId linearInput angularInput dampeners)
    (hby : event.actorPlayerId = some actorPlayerId)
    (h : w.applyGridControlSet host actorPlayerId gridId linearInput angularInput dampeners
      = .ok w') :
    Effect host w event w' := by
  simp only [applyGridControlSet, ensureFinite, bind_eq_ok, rejectIf_eq_ok, grid_eq_ok,
    pure_eq_ok, ensureActorOwnsGrid_eq_ok, not_or, Bool.not_eq_false, Bool.not_eq_true] at h
  obtain ⟨-, ⟨grid', hgrid', howner⟩, -, hlinear, -, hangular, grid, hgrid, -, ⟨hreleased, -⟩,
    rfl⟩ := h
  obtain rfl := Option.mem_unique hgrid hgrid'
  exact .gridControlSet hpayload hby hgrid howner ⟨hlinear, hangular⟩ hreleased

theorem effect_gridAnchorSet {actorPlayerId gridId anchored rewardCredited}
    (hpayload : event.payload = .gridAnchorSet gridId anchored rewardCredited)
    (hby : event.actorPlayerId = some actorPlayerId)
    (h : w.applyGridAnchorSet host actorPlayerId gridId anchored rewardCredited = .ok w') :
    Effect host w event w' := by
  simp only [applyGridAnchorSet, bind_eq_ok, rejectIf_eq_ok, grid_eq_ok, pure_eq_ok,
    ensureActorOwnsGrid_eq_ok, not_or, not_and, Bool.not_eq_false] at h
  obtain ⟨-, ⟨grid', hgrid', howner⟩, grid, hgrid, -, ⟨htoggle, htouches, -⟩, rfl⟩ := h
  obtain rfl := Option.mem_unique hgrid hgrid'
  exact .gridAnchorSet hpayload hby hgrid howner htoggle fun ha => (htouches ha).2

end branches

theorem effect_of_applyPayload (h : w.applyPayload host event = .ok w') :
    Effect host w event w' := by
  unfold applyPayload at h
  cases hpayload : event.payload with
  | playerControlSet =>
    simp only [hpayload, applyPlayerControlSet, bind_eq_ok, eventActor_eq_ok, actor_eq_ok,
      pure_eq_ok] at h
    obtain ⟨actorPlayerId, hby, actor, hactor, -, -, -, -, -, -, -, -, rfl⟩ := h
    exact .playerControlSet hpayload hby hactor
  | suitModeChanged =>
    simp only [hpayload, applySuitModeChanged, bind_eq_ok, eventActor_eq_ok, actor_eq_ok,
      pure_eq_ok] at h
    obtain ⟨actorPlayerId, hby, actor, hactor, rfl⟩ := h
    exact .suitModeChanged hpayload hby hactor
  | suitOxygenChanged =>
    simp only [hpayload, applySuitOxygenChanged, bind_eq_ok, rejectIf_eq_ok, actor_eq_ok,
      pure_eq_ok, ne_eq, not_not] at h
    obtain ⟨expected, hexpected, -, rfl, player, hplayer, rfl⟩ := h
    exact .suitOxygenChanged hpayload hplayer (hpayload ▸ hexpected)
  | playerIncapacitated =>
    simp only [hpayload] at h
    exact effect_playerIncapacitated hpayload (hpayload ▸ h)
  | playerRespawned =>
    simp only [hpayload, applyPlayerRespawned, bind_eq_ok, eventActor_eq_ok, actor_eq_ok,
      rejectIf_eq_ok, ne_eq, not_not, pure_eq_ok] at h
    obtain ⟨actorPlayerId, hby, expected, hexpected, -, rfl, actor, hactor, rfl⟩ := h
    exact .playerRespawned hpayload hby hactor (hpayload ▸ hexpected)
  | voxelMined =>
    simp only [hpayload, bind_eq_ok, eventActor_eq_ok] at h
    obtain ⟨actorPlayerId, hby, h⟩ := h
    exact effect_voxelMined hpayload hby h
  | oreRefined | componentCrafted => simp [hpayload] at h
  | productionQueued =>
    simp only [hpayload, bind_eq_ok, eventActor_eq_ok] at h
    obtain ⟨actorPlayerId, hby, h⟩ := h
    exact effect_productionQueued hpayload hby h
  | productionQuantumCommitted =>
    simp only [hpayload, applyProductionQuantum, bind_eq_ok, rejectIf_eq_ok, ne_eq, not_not,
      pure_eq_ok] at h
    obtain ⟨-, -, expected, hexpected, -, rfl, applied, happlied, rfl⟩ := h
    exact .productionQuantumCommitted hpayload (hpayload ▸ hexpected) happlied
  | inventoryTransferred =>
    simp only [hpayload, bind_eq_ok, eventActor_eq_ok] at h
    obtain ⟨actorPlayerId, hby, h⟩ := h
    exact effect_inventoryTransferred hpayload hby h
  | blockBuilt =>
    simp only [hpayload, bind_eq_ok, eventActor_eq_ok] at h
    obtain ⟨actorPlayerId, hby, h⟩ := h
    exact effect_blockBuilt hpayload hby h
  | blockWelded =>
    simp only [hpayload, bind_eq_ok, eventActor_eq_ok] at h
    obtain ⟨actorPlayerId, hby, h⟩ := h
    exact effect_blockWelded hpayload hby h
  | gridControlSet =>
    simp only [hpayload, bind_eq_ok, eventActor_eq_ok] at h
    obtain ⟨actorPlayerId, hby, h⟩ := h
    exact effect_gridControlSet hpayload hby h
  | gridAnchorSet =>
    simp only [hpayload, bind_eq_ok, eventActor_eq_ok] at h
    obtain ⟨actorPlayerId, hby, h⟩ := h
    exact effect_gridAnchorSet hpayload hby h
  | blockDamaged =>
    simp only [hpayload, applyBlockDamaged, bind_eq_ok, eventActor_eq_ok, rejectIf_eq_ok, ne_eq,
      not_not] at h
    obtain ⟨actorPlayerId, hby, -, -, -, rfl, -, -, -, -, -, -, happlied⟩ := h
    exact .blockDamaged hpayload hby rfl happlied
  | physicsStepCommitted =>
    simp only [hpayload] at h
    exact .physicsStepCommitted hpayload h
  | playerTransferPrepared =>
    simp only [hpayload, applyStaged_eq_ok] at h
    exact .playerTransferPrepared hpayload h
  | playerTransferQuarantined =>
    simp only [hpayload, applyPlayerTransferQuarantined, bind_eq_ok, applyStaged_eq_ok,
      rejectIf_eq_ok, ne_eq, not_not, pure_eq_ok, Prod.exists] at h
    obtain ⟨staged, receipt, hstaged, -, rfl, rfl⟩ := h
    exact .playerTransferQuarantined hpayload hstaged
  | playerTransferAborted =>
    simp only [hpayload, applyStaged_eq_ok] at h
    exact .playerTransferAborted hpayload h
  | playerTransferExported =>
    simp only [hpayload, applyStaged_eq_ok] at h
    exact .playerTransferExported hpayload h
  | playerTransferImported =>
    simp only [hpayload, applyStaged_eq_ok] at h
    exact .playerTransferImported hpayload h

/-! ## Pay, seal and record -/

/-- What the pay and the career entry change: nothing, or those two fields of the actor. -/
inductive Paid (applied : WorldState) (event : CanonicalEvent) : WorldState → Prop
  | nothing : Paid applied event applied
  | actor {actorPlayerId : String} {player : Player} {experience : Nat} {career : CareerSnapshot}
      (hby : event.actorPlayerId = some actorPlayerId)
      (hplayer : applied.player.byId.get? actorPlayerId = some player) :
      Paid applied event (applied.withPlayer actorPlayerId { player with experience, career })

theorem payExperience_eq_ok {applied paid : WorldState}
    (h : applied.payExperience event = .ok paid) : Paid applied event paid := by
  unfold payExperience at h
  split_ifs at h
  · rw [pure_eq_ok] at h
    subst h
    exact .nothing
  · simp only [bind_eq_ok, eventActor_eq_ok, actor_eq_ok, pure_eq_ok] at h
    obtain ⟨actorPlayerId, hby, player, hplayer, rfl⟩ := h
    exact .actor hby hplayer

theorem Paid.recordCareer {applied paid credited} (hpaid : Paid applied event paid)
    (h : paid.recordCareer event = .ok credited) : Paid applied event credited := by
  unfold WorldState.recordCareer at h
  split_ifs at h
  · simp only [bind_eq_ok, eventActor_eq_ok, actor_eq_ok, pure_eq_ok] at h
    obtain ⟨actorPlayerId, hby, player, hplayer, career, -, rfl⟩ := h
    cases hpaid with
    | nothing => exact .actor hby hplayer
    | @actor actorPlayerId' player' experience _ hby' hplayer' =>
      obtain rfl := Option.mem_unique hby hby'
      have heq := hplayer
      simp only [withPlayer, OrdMap.get?_insert, if_true, Option.some.injEq] at heq
      subst heq
      simp only [withPlayer, OrdMap.insert_insert]
      exact .actor hby hplayer'
  · rw [pure_eq_ok] at h
    subst h
    exact hpaid

/-- The history an actor has once a record is entered and the oldest are given up. -/
def recordedHistory (host : Host) (w : WorldState) (actorPlayerId : String)
    (record : ProcessedOperationRecord) : ActorOperationHistory :=
  let history := w.operationHistory actorPlayerId
  let retained := history.retained.insert (history.committedThrough + 1) record
  compactHistory host retained.size { history with
    committedThrough := history.committedThrough + 1
    retained }

/-- What a record must be to be the next of an actor. -/
structure Recordable (w : WorldState) (actorPlayerId : String)
    (record : ProcessedOperationRecord) : Prop where
  named : isBlank record.operationId = false ∧ record.operationId.utf8ByteSize ≤ 128
  hashes : validBlake3Hex record.intentFingerprint ∧ validBlake3Hex record.receiptOriginCellId
  receipt : record.receipt.operationId = record.operationId ∧ 0 < record.receipt.eventSequence
    ∧ isBlank record.receipt.code = false
  past : record.receiptOriginCellId = w.cellId → record.receipt.eventSequence ≤ w.eventSequence
  next : record.receipt.operationSequence = (w.operationHistory actorPlayerId).committedThrough + 1
  counted : (w.operationHistory actorPlayerId).committedThrough + 1 ≤ u64Max
  later : ∀ prior ∈ (w.operationHistory actorPlayerId).retained.values,
    prior.receiptOriginCellId = record.receiptOriginCellId →
      prior.receipt.eventSequence < record.receipt.eventSequence

/-- A world with another history of an actor. -/
def withHistory (w : WorldState) (actorPlayerId : String) (history : ActorOperationHistory) :
    WorldState :=
  { w with processedOperations := w.processedOperations.insert actorPlayerId history }

theorem recordProcessedOperation_eq_ok {record} :
    w.recordProcessedOperation host actorPlayerId record = .ok w' ↔
      Recordable w actorPlayerId record
        ∧ w.withHistory actorPlayerId (recordedHistory host w actorPlayerId record) = w' := by
  simp only [recordProcessedOperation, bind_eq_ok, rejectIf_eq_ok, demand_eq_ok,
    checkedAdd_eq_some, pure_eq_ok, exists_const, not_or, not_and, not_exists, not_not, not_lt,
    ge_iff_le, not_le, gt_iff_lt, ne_eq, Bool.not_eq_true, Bool.not_eq_false]
  constructor
  · rintro ⟨⟨hid, hlong, hfingerprint, hcell, hname, hevent, hpast, hcode⟩, _, ⟨hcounted, rfl⟩,
      hnext, hlater, rfl⟩
    exact ⟨⟨⟨hid, hlong⟩, ⟨hfingerprint, hcell⟩, ⟨hname, Nat.pos_of_ne_zero hevent, hcode⟩, hpast,
      hnext, hcounted, hlater⟩, rfl⟩
  · rintro ⟨⟨⟨hid, hlong⟩, ⟨hfingerprint, hcell⟩, ⟨hname, hevent, hcode⟩, hpast, hnext, hcounted,
      hlater⟩, rfl⟩
    exact ⟨⟨hid, hlong, hfingerprint, hcell, hname, hevent.ne', hpast, hcode⟩, _, ⟨hcounted, rfl⟩,
      hnext, hlater, rfl⟩

theorem recordOperation_eq_ok (h : w.recordOperation host event = .ok w') :
    ((event.actorPlayerId = none ∨ event.operationId = none ∨ event.operationSequence = none
        ∨ event.intentFingerprint = none) ∧ w' = w)
      ∨ ∃ actorPlayerId operationId operationSequence intentFingerprint,
        event.actorPlayerId = some actorPlayerId ∧ event.operationId = some operationId
          ∧ event.operationSequence = some operationSequence
          ∧ event.intentFingerprint = some intentFingerprint
          ∧ w.recordProcessedOperation host actorPlayerId (operationRecord w.cellId event
              operationId operationSequence intentFingerprint) = .ok w' := by
  unfold recordOperation at h
  cases hactor : event.actorPlayerId with
  | none =>
    simp only [hactor, pure_eq_ok] at h
    exact .inl ⟨.inl rfl, h.symm⟩
  | some actorPlayerId =>
    cases hid : event.operationId with
    | none =>
      simp only [hactor, hid, pure_eq_ok] at h
      exact .inl ⟨.inr (.inl rfl), h.symm⟩
    | some operationId =>
      cases hsequence : event.operationSequence with
      | none =>
        simp only [hactor, hid, hsequence, pure_eq_ok] at h
        exact .inl ⟨.inr (.inr (.inl rfl)), h.symm⟩
      | some operationSequence =>
        cases hfingerprint : event.intentFingerprint with
        | none =>
          simp only [hactor, hid, hsequence, hfingerprint, pure_eq_ok] at h
          exact .inl ⟨.inr (.inr (.inr rfl)), h.symm⟩
        | some intentFingerprint =>
          simp only [hactor, hid, hsequence, hfingerprint, mapError_eq_ok] at h
          exact .inr ⟨_, _, _, _, rfl, rfl, rfl, rfl, h⟩

/-- The same package with its poses taken again. -/
def SamePackage (package package' : PlayerTransferPackage) : Prop :=
  package'.aggregateId = package.aggregateId ∧ package'.transferId = package.transferId

/-- What taking its poses again leaves of a payload: all of it, but in the payloads that have
    poses to take. -/
inductive Reposed : EventPayload → EventPayload → Prop
  | same {payload} : Reposed payload payload
  | playerIncapacitated {playerId deathId cause address position oxygen dropped drop position'
        drop'} :
      Reposed (.playerIncapacitated playerId deathId cause address position oxygen dropped drop)
        (.playerIncapacitated playerId deathId cause address position' oxygen dropped drop')
  | playerRespawned {deathId address position oxygen helmet jetpack boots position'} :
      Reposed (.playerRespawned deathId address position oxygen helmet jetpack boots)
        (.playerRespawned deathId address position' oxygen helmet jetpack boots)
  | physicsStepCommitted {fixedStepHz stepCount remaining bodies players contacts active bodies'
        players' contacts'} :
      Reposed (.physicsStepCommitted fixedStepHz stepCount remaining bodies players contacts active)
        (.physicsStepCommitted fixedStepHz stepCount remaining bodies' players' contacts' active)
  | playerTransferPrepared {package package' transfer} (hsame : SamePackage package package') :
      Reposed (.playerTransferPrepared package transfer) (.playerTransferPrepared package' transfer)
  | playerTransferQuarantined {package package' receipt} (hsame : SamePackage package package') :
      Reposed (.playerTransferQuarantined package receipt)
        (.playerTransferQuarantined package' receipt)
  | playerTransferAborted {package package' transfer} (hsame : SamePackage package package') :
      Reposed (.playerTransferAborted package transfer) (.playerTransferAborted package' transfer)
  | playerTransferExported {package package' transfer} (hsame : SamePackage package package') :
      Reposed (.playerTransferExported package transfer) (.playerTransferExported package' transfer)
  | playerTransferImported {package package' receipt transfer}
      (hsame : SamePackage package package') :
      Reposed (.playerTransferImported package receipt transfer)
        (.playerTransferImported package' receipt transfer)

theorem samePackage_of_hydrated {package package' : PlayerTransferPackage}
    (h : package.hydrateSpatialPoses host = .ok package') : SamePackage package package' := by
  simp only [PlayerTransferPackage.hydrateSpatialPoses, bind_eq_ok, pure_eq_ok] at h
  obtain ⟨-, -, -, -, -, -, -, -, rfl⟩ := h
  exact ⟨rfl, rfl⟩

theorem reposed_of_hydrated {payload hydrated : EventPayload} {cellAddress}
    (h : payload.hydrateSpatialPoses host cellAddress = .ok hydrated) :
    Reposed payload hydrated := by
  unfold EventPayload.hydrateSpatialPoses at h
  cases payload with
  | playerIncapacitated _ _ _ _ _ _ _ deathDrop =>
    cases deathDrop with
    | none =>
      simp only [bind_eq_ok, pure_eq_ok] at h
      obtain ⟨-, -, -, -, rfl⟩ := h
      exact .playerIncapacitated
    | some drop =>
      simp only [bind_eq_ok, pure_eq_ok] at h
      obtain ⟨-, -, -, -, -, -, rfl⟩ := h
      exact .playerIncapacitated
  | playerRespawned =>
    simp only [bind_eq_ok, pure_eq_ok] at h
    obtain ⟨-, -, rfl⟩ := h
    exact .playerRespawned
  | physicsStepCommitted =>
    simp only [bind_eq_ok, pure_eq_ok] at h
    obtain ⟨-, -, -, -, -, -, rfl⟩ := h
    exact .physicsStepCommitted
  | playerTransferPrepared | playerTransferQuarantined | playerTransferAborted
  | playerTransferExported | playerTransferImported =>
    simp only [bind_eq_ok, pure_eq_ok, mapError_eq_ok] at h
    obtain ⟨package', heq, rfl⟩ := h
    constructor
    exact samePackage_of_hydrated heq
  | _ =>
    rw [pure_eq_ok] at h
    exact h ▸ .same

/-- An accepted event, from end to end. The payload is the one whose poses were taken again
    from their addresses. -/
inductive Accepted (host : Host) (w : WorldState) (event : CanonicalEvent) (w' : WorldState) :
    Prop
  | intro {payload : EventPayload} {applied credited : WorldState}
      (hydrated : event.payload.hydrateSpatialPoses host w.cellAddress = .ok payload)
      (admitted : Admitted host w { event with payload })
      (effect : Effect host w { event with payload } applied)
      (paid : Paid applied { event with payload } credited)
      (recorded : (credited.sealEvent { event with payload }).recordOperation host
        { event with payload } = .ok w')
      (weighed : w'.weigh event.eventSequence = .ok ())

theorem accepted_of_applyEvent (h : w.applyEvent host event = .ok w') :
    Accepted host w event w' := by
  simp only [applyEvent, bind_eq_ok, mapError_eq_ok, pure_eq_ok] at h
  obtain ⟨⟨⟩, hheader, payload, hydrated, ⟨⟩, henvelope, next, hcommit, ⟨⟩, hweigh, rfl⟩ := h
  simp only [commitEvent, bind_eq_ok] at hcommit
  obtain ⟨applied, happlied, paid, hpaid, credited, hcredited, hrecorded⟩ := hcommit
  exact .intro hydrated (admitted_of_validate hheader henvelope)
    (effect_of_applyPayload happlied) ((payExperience_eq_ok hpaid).recordCareer hcredited)
    hrecorded hweigh

end WorldState
end Verse
