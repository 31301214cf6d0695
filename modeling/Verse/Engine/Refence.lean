import Verse.Engine.Frame
import Verse.Engine.Schedule

/-!
# The fence under an event

A process that takes a cell puts its own fence on the world it loaded, and a replay does not: it
goes from the fence of one event to the fence of the next. Both get to the same worlds, because
an event writes its own fence over the one it finds, and reads it only to see that it does not
go back. So that is all the fence of a world is good for.

Each branch of `applyEvent` commutes with changing the fence, and the transfers, which do read
it, are given the fence of the event to begin with.
-/

namespace Verse

open Lib

namespace WorldState

variable {host : Host} {w : WorldState} {event : CanonicalEvent} {f : Nat}

/-- A world under another fence. -/
def fenced (w : WorldState) (f : Nat) : WorldState := { w with fencingToken := f }

/-- A change of a world that neither reads its fence nor writes over it. -/
def IgnoresFence (change : WorldState → Intent WorldState) : Prop :=
  ∀ w f, change (w.fenced f) = (change w).map (fenced · f)

theorem map_bind {α β γ : Type} (x : Intent α) (k : α → Intent β) (g : β → γ) :
    (x >>= k).map g = x >>= fun a => (k a).map g := by
  cases x <;> rfl

theorem map_ite {α β : Type} (c : Prop) [Decidable c] (x y : Intent α) (g : α → β) :
    (if c then x else y).map g = if c then x.map g else y.map g := by
  split <;> rfl

variable {actorPlayerId : String}

theorem applyPlayerControlSet_fenced {movementEpoch inputSequence linearInput angularInput boost
    dampeners jump expires} :
    IgnoresFence (·.applyPlayerControlSet host actorPlayerId movementEpoch inputSequence linearInput
      angularInput boost dampeners jump expires) := by
  intro w f
  unfold applyPlayerControlSet
  simp only [map_bind]
  rfl

theorem applySuitModeChanged_fenced {helmetClosed jetpackEnabled magneticBootsEnabled} :
    IgnoresFence (·.applySuitModeChanged actorPlayerId helmetClosed jetpackEnabled
      magneticBootsEnabled) := by
  intro w f
  unfold applySuitModeChanged
  simp only [map_bind]
  rfl

variable {payload : EventPayload}

theorem applySuitOxygenChanged_fenced {playerId newOxygenMilli} :
    IgnoresFence (·.applySuitOxygenChanged host payload playerId newOxygenMilli) := by
  intro w f
  unfold applySuitOxygenChanged
  simp only [map_bind]
  rfl

theorem applyPlayerIncapacitated_fenced {playerId} :
    IgnoresFence (·.applyPlayerIncapacitated host payload playerId) := by
  intro w f
  unfold applyPlayerIncapacitated
  simp only [map_bind]
  show (w.oxygenIncapacitationPayload host playerId >>= _) = _
  congr 1
  funext expected
  congr 1
  funext u
  cases expected with
  | playerIncapacitated playerId deathId cause address position oxygen dropped deathDrop =>
    dsimp only
    simp only [map_bind]
    cases dropped <;> cases deathDrop <;> rfl
  | _ => rfl

theorem applyPlayerRespawned_fenced {address position suitOxygenMilli helmetClosed jetpackEnabled
    magneticBootsEnabled} :
    IgnoresFence (·.applyPlayerRespawned host payload actorPlayerId address position suitOxygenMilli
      helmetClosed jetpackEnabled magneticBootsEnabled) := by
  intro w f
  unfold applyPlayerRespawned
  simp only [map_bind]
  rfl

theorem applyVoxelMined_fenced {coordinate material oreYield inventoryId} :
    IgnoresFence (·.applyVoxelMined host actorPlayerId coordinate material oreYield
      inventoryId) := by
  intro w f
  unfold applyVoxelMined
  simp only [map_bind]
  rfl

variable {job : ProductionJob}

theorem applyProductionQueued_fenced :
    IgnoresFence (·.applyProductionQueued event actorPlayerId job) := by
  intro w f
  unfold applyProductionQueued
  simp only [map_bind]
  rfl

theorem applyInventoryTransferred_fenced {source destination resource quantity} :
    IgnoresFence (·.applyInventoryTransferred actorPlayerId source destination resource
      quantity) := by
  intro w f
  unfold applyInventoryTransferred
  simp only [map_bind]
  rfl

variable {gridId blockId : String}

theorem applyBlockWelded_fenced {previousHealth newHealth maxHealth completedConstruction} :
    IgnoresFence (·.applyBlockWelded host actorPlayerId gridId blockId previousHealth newHealth
      maxHealth completedConstruction) := by
  intro w f
  unfold applyBlockWelded
  simp only [map_bind]
  rfl

variable {eventSequence : Nat}

theorem applyBlockBuilt_fenced {inventoryId block} :
    IgnoresFence (·.applyBlockBuilt host eventSequence actorPlayerId gridId inventoryId block) := by
  intro w f
  unfold applyBlockBuilt withCargoInventory
  simp only [map_bind]
  cases block.inventoryId <;> rfl

theorem applyGridControlSet_fenced {linearInput angularInput dampeners} :
    IgnoresFence (·.applyGridControlSet host actorPlayerId gridId linearInput angularInput
      dampeners) := by
  intro w f
  unfold applyGridControlSet
  simp only [map_bind]
  rfl

theorem applyGridAnchorSet_fenced {anchored credited} :
    IgnoresFence (·.applyGridAnchorSet host actorPlayerId gridId anchored credited) := by
  intro w f
  unfold applyGridAnchorSet
  simp only [map_bind]
  rfl

theorem IgnoresFence.bind {change} (h : IgnoresFence change) {k}
    (hk : ∀ v : WorldState, k (v.fenced f) = (k v).map (fenced · f)) :
    change (w.fenced f) >>= k = (change w >>= k).map (fenced · f) := by
  rw [h w f]
  cases change w with
  | error e => rfl
  | ok v => exact hk v

/-! Damage and machine work go through several worlds on the way. -/

theorem recordDestroyed_fenced {removed} : IgnoresFence (·.recordDestroyed removed) := by
  intro w f
  unfold recordDestroyed
  simp only [map_bind]
  rfl

theorem dropCargo_fenced {removed : Block} {ownerPlayerId : String} :
    (w.fenced f).dropCargo removed ownerPlayerId = (w.dropCargo removed ownerPlayerId).fenced f := by
  unfold dropCargo
  cases removed.inventoryId <;> rfl

theorem dropQueue_fenced {ownerPlayerId} :
    IgnoresFence (·.dropQueue blockId ownerPlayerId eventSequence) := by
  intro w f
  dsimp only
  have hqueues : (w.fenced f).productionQueues = w.productionQueues := rfl
  unfold dropQueue
  rw [hqueues]
  cases w.productionQueues.get? blockId with
  | none => rfl
  | some queue =>
    simp only [map_bind]
    rfl

theorem splitDisconnectedGrid_fenced :
    IgnoresFence (·.splitDisconnectedGrid host gridId eventSequence) := by
  intro w f
  unfold splitDisconnectedGrid
  simp only [map_bind, map_ite]
  rfl

theorem applyDamage_fenced {damage} :
    IgnoresFence (·.applyDamage host gridId blockId damage eventSequence) := by
  intro w f
  dsimp only
  unfold applyDamage
  rw [map_bind]
  show (w.grid gridId >>= _) = _
  congr 1
  funext grid
  rw [map_bind]
  congr 1
  funext block
  rw [map_ite]
  congr 1
  show ((w.withGrid gridId { grid with blocks := grid.blocks.erase blockId }).fenced
    f).recordDestroyed block >>= _ = _
  refine recordDestroyed_fenced.bind fun v => ?_
  rw [dropCargo_fenced]
  exact dropQueue_fenced.bind fun v => splitDisconnectedGrid_fenced v f

theorem applyBlockDamaged_fenced {damage} :
    IgnoresFence (·.applyBlockDamaged host eventSequence actorPlayerId gridId blockId damage) := by
  intro w f
  unfold applyBlockDamaged
  simp only [map_bind, ← applyDamage_fenced w f]
  rfl

theorem recordCompletion_fenced : IgnoresFence (·.recordCompletion job) := by
  intro w f
  dsimp only
  unfold recordCompletion
  cases job.recipe <;> simp only [map_bind] <;> rfl

theorem creditOwner_fenced : IgnoresFence (·.creditOwner job) := by
  intro w f
  unfold creditOwner
  simp only [map_bind]
  rfl

theorem deliver_fenced {inventoryId outputs} : IgnoresFence (·.deliver inventoryId outputs) := by
  intro w f
  unfold deliver
  simp only [map_bind]
  rfl

theorem popProductionQueueHead_fenced {machineId : String} :
    (w.fenced f).popProductionQueueHead machineId
      = (w.popProductionQueueHead machineId).fenced f := by
  have hqueues : (w.fenced f).productionQueues = w.productionQueues := rfl
  unfold popProductionQueueHead
  rw [hqueues]
  rcases w.productionQueues.get? machineId with - | - | ⟨job, - | ⟨next, rest⟩⟩ <;> rfl

variable {outcome : ProductionMachineOutcome}

theorem applyProductionMachineOutcome_fenced :
    (w.fenced f).applyProductionMachineOutcome outcome
      = (w.applyProductionMachineOutcome outcome).map (fenced · f) := by
  unfold applyProductionMachineOutcome
  cases outcome.kind with
  | pausedPower | pausedRoute | pausedMachine | outputBlocked => rfl
  | advanced =>
    simp only [map_bind]
    rfl
  | completed =>
    dsimp only
    rw [map_bind]
    show (demand (w.queueHead outcome.machineBlockId) _ >>= _) = _
    congr 1
    funext job
    exact recordCompletion_fenced.bind fun v => creditOwner_fenced.bind fun v => rfl
  | completedAndDelivered =>
    dsimp only
    rw [map_bind]
    show (demand (w.queueHead outcome.machineBlockId) _ >>= _) = _
    congr 1
    funext job
    refine recordCompletion_fenced.bind fun v => creditOwner_fenced.bind fun v =>
      deliver_fenced.bind fun v => ?_
    rw [popProductionQueueHead_fenced]
    rfl
  | outputDelivered =>
    dsimp only
    refine deliver_fenced.bind fun v => ?_
    simp only [map_bind, popProductionQueueHead_fenced]
    rfl

theorem applyOutcome_fenced :
    (w.fenced f).applyOutcome outcome = (w.applyOutcome outcome).map (fenced · f) := by
  unfold applyOutcome
  rw [applyProductionMachineOutcome_fenced, map_ite]
  rfl

theorem applyOutcomes_fenced {outcomes} :
    (w.fenced f).applyOutcomes outcomes = (w.applyOutcomes outcomes).map (fenced · f) := by
  induction outcomes generalizing w with
  | nil => rfl
  | cons outcome rest ih =>
    rw [applyOutcomes, applyOutcomes, applyOutcome_fenced]
    cases w.applyOutcome outcome with
    | error e => rfl
    | ok v => exact ih

theorem planMachines_fenced {machines} :
    (w.fenced f).planMachines host machines = w.planMachines host machines := by
  induction machines generalizing w with
  | nil => rfl
  | cons machineId rest ih =>
    rw [planMachines, planMachines]
    unfold planMachine
    show (((w.productionMachineOutcome host machineId) >>= _) >>= _) = _
    cases w.productionMachineOutcome host machineId with
    | error e => rfl
    | ok outcome =>
      show ((w.fenced f).applyOutcome outcome >>= _) >>= _ = (w.applyOutcome outcome >>= _) >>= _
      rw [applyOutcome_fenced]
      cases w.applyOutcome outcome with
      | error e => rfl
      | ok v =>
        show (v.fenced f).planMachines host rest >>= _ = v.planMachines host rest >>= _
        rw [ih]

theorem scheduledMachines_fenced : (w.fenced f).scheduledMachines = w.scheduledMachines := by
  have hblockGrid : (w.fenced f).blockGrid = w.blockGrid := rfl
  have hqueues : (w.fenced f).productionQueues = w.productionQueues := rfl
  simp only [scheduledMachines, hblockGrid, hqueues]

theorem validateNextProductionOccurrence_fenced :
    (w.fenced f).validateNextProductionOccurrence = w.validateNextProductionOccurrence := by
  funext occurrence
  unfold validateNextProductionOccurrence fenced
  dsimp only

theorem productionQuantumPayload_fenced {occurrence} :
    (w.fenced f).productionQuantumPayload host occurrence
      = w.productionQuantumPayload host occurrence := by
  unfold productionQuantumPayload
  rw [scheduledMachines_fenced, validateNextProductionOccurrence_fenced]
  simp only [planMachines_fenced]

theorem applyProductionQuantum_fenced {occurrence elapsedTicks outcomes} :
    IgnoresFence (·.applyProductionQuantum host event occurrence elapsedTicks outcomes) := by
  intro w f
  dsimp only
  unfold applyProductionQuantum
  rw [productionQuantumPayload_fenced, applyOutcomes_fenced]
  simp only [map_bind]
  congr 1
  funext u
  congr 1
  funext expected
  congr 1
  funext u
  cases w.applyOutcomes outcomes <;> rfl

theorem foldl_fenced {α : Type} {step}
    (h : ∀ (v : WorldState) a, step (v.fenced f) a = (step v a).fenced f) (l : List α) :
    l.foldl step (w.fenced f) = (l.foldl step w).fenced f := by
  induction l generalizing w with
  | nil => rfl
  | cons a rest ih => rw [List.foldl_cons, List.foldl_cons, h, ih]

theorem physicsColliderExists_fenced : (w.fenced f).physicsColliderExists = w.physicsColliderExists := rfl

theorem validatePlayerLocomotionOutcome_fenced :
    (w.fenced f).validatePlayerLocomotionOutcome host = w.validatePlayerLocomotionOutcome host := by
  funext scheduled outcome resultingTick
  unfold validatePlayerLocomotionOutcome
  rw [physicsColliderExists_fenced]
  rfl

theorem validatePlayerOutcome_fenced :
    (w.fenced f).validatePlayerOutcome host = w.validatePlayerOutcome host := by
  funext stepCount earlier outcome
  unfold validatePlayerOutcome validatePlayerState
  rw [validatePlayerLocomotionOutcome_fenced]
  rfl

theorem validateBodyOutcome_fenced :
    (w.fenced f).validateBodyOutcome host = w.validateBodyOutcome host := rfl

theorem validateContact_fenced :
    (w.fenced f).validateContact host = w.validateContact host := by
  funext stepCount bodies players contact
  unfold validateContact
  rw [physicsColliderExists_fenced]
  rfl

theorem applyPhysicsStep_fenced {fixedStepHz stepCount stepPhase bodies players contacts
    activeAfter} :
    IgnoresFence (·.applyPhysicsStep host fixedStepHz stepCount stepPhase bodies players
      contacts activeAfter) := by
  intro w f
  dsimp only
  unfold applyPhysicsStep
  have hbodies : bodies.foldl withBody (w.fenced f) = (bodies.foldl withBody w).fenced f :=
    foldl_fenced (fun _ _ => rfl) bodies
  have hplayers : ∀ v : WorldState, players.foldl (withMovedPlayer (w.fenced f) stepCount) (v.fenced f)
      = (players.foldl (withMovedPlayer w stepCount) v).fenced f :=
    fun v => foldl_fenced (fun _ _ => rfl) players
  rw [validatePlayerOutcome_fenced, validateBodyOutcome_fenced, validateContact_fenced]
  simp only [map_bind, hbodies, hplayers]
  rfl

/-! ## The whole event -/

theorem applyPayload_fenced : (w.fenced f).applyPayload host event
      = (w.applyPayload host event).map (fenced · f)
    ∨ (w.fenced f).applyPayload host event = w.applyPayload host event := by
  have hactor : ∀ {k l : String → Intent WorldState}, (∀ id, k id = (l id).map (fenced · f)) →
      (eventActor event >>= k) = (eventActor event >>= l).map (fenced · f) := by
    intro k l hkl
    rw [map_bind]
    congr 1
    funext id
    exact hkl id
  unfold applyPayload
  cases event.payload with
  | playerControlSet => exact .inl (hactor fun _ => applyPlayerControlSet_fenced w f)
  | suitModeChanged => exact .inl (hactor fun _ => applySuitModeChanged_fenced w f)
  | suitOxygenChanged => exact .inl (applySuitOxygenChanged_fenced w f)
  | playerIncapacitated => exact .inl (applyPlayerIncapacitated_fenced w f)
  | playerRespawned => exact .inl (hactor fun _ => applyPlayerRespawned_fenced w f)
  | voxelMined => exact .inl (hactor fun _ => applyVoxelMined_fenced w f)
  | oreRefined | componentCrafted => exact .inl rfl
  | productionQueued => exact .inl (hactor fun _ => applyProductionQueued_fenced w f)
  | productionQuantumCommitted => exact .inl (applyProductionQuantum_fenced w f)
  | inventoryTransferred => exact .inl (hactor fun _ => applyInventoryTransferred_fenced w f)
  | blockBuilt => exact .inl (hactor fun _ => applyBlockBuilt_fenced w f)
  | blockWelded => exact .inl (hactor fun _ => applyBlockWelded_fenced w f)
  | gridControlSet => exact .inl (hactor fun _ => applyGridControlSet_fenced w f)
  | gridAnchorSet => exact .inl (hactor fun _ => applyGridAnchorSet_fenced w f)
  | blockDamaged => exact .inl (hactor fun _ => applyBlockDamaged_fenced w f)
  | physicsStepCommitted => exact .inl (applyPhysicsStep_fenced w f)
  | playerTransferPrepared | playerTransferQuarantined | playerTransferAborted
  | playerTransferExported | playerTransferImported => exact .inr rfl

theorem payExperience_fenced :
    (w.fenced f).payExperience event = (w.payExperience event).map (fenced · f) := by
  unfold payExperience
  simp only [map_bind, map_ite]
  rfl

theorem recordCareer_fenced :
    (w.fenced f).recordCareer event = (w.recordCareer event).map (fenced · f) := by
  unfold recordCareer
  simp only [map_bind, map_ite]
  rfl

/-- Once sealed, the fence a world came under is gone. -/
theorem commitEvent_fenced : (w.fenced f).commitEvent host event = w.commitEvent host event := by
  have hrest : ∀ v : WorldState,
      ((v.fenced f).payExperience event >>= fun paid => paid.recordCareer event >>= fun credited =>
        (credited.sealEvent event).recordOperation host event)
      = (v.payExperience event >>= fun paid => paid.recordCareer event >>= fun credited =>
        (credited.sealEvent event).recordOperation host event) := by
    intro v
    rw [payExperience_fenced]
    cases v.payExperience event with
    | error e => rfl
    | ok paid =>
      show ((paid.fenced f).recordCareer event >>= _) = (paid.recordCareer event >>= _)
      rw [recordCareer_fenced]
      cases paid.recordCareer event <;> rfl
  unfold commitEvent
  rcases @applyPayload_fenced host w event f with h | h
  · rw [h]
    cases w.applyPayload host event with
    | error e => rfl
    | ok v => exact hrest v
  · rw [h]

theorem validateEnvelope_fenced (hf : f ≤ event.authorityFencingToken)
    (hw : w.fencingToken ≤ event.authorityFencingToken) :
    (w.fenced f).validateEnvelope host event = w.validateEnvelope host event := by
  have hfence : (w.fenced f).validateFence event = w.validateFence event := by
    have hleft : ¬ event.authorityFencingToken < (w.fenced f).fencingToken := not_lt.mpr hf
    have hright : ¬ event.authorityFencingToken < w.fencingToken := not_lt.mpr hw
    simp only [validateFence, hleft, hright]
  unfold validateEnvelope
  rw [hfence]
  rfl

theorem applyEvent_fenced (hf : f ≤ event.authorityFencingToken)
    (hw : w.fencingToken ≤ event.authorityFencingToken) :
    (w.fenced f).applyEvent host event = w.applyEvent host event := by
  have henvelope : ∀ payload, (w.fenced f).validateEnvelope host { event with payload }
      = w.validateEnvelope host { event with payload } :=
    fun payload => validateEnvelope_fenced hf hw
  unfold applyEvent
  simp only [henvelope, commitEvent_fenced]
  rfl

theorem backgroundProductionIsRunnable_fenced :
    (w.fenced f).backgroundProductionIsRunnable host = w.backgroundProductionIsRunnable host := by
  have hany : ∀ machines, (w.fenced f).anyRunnable host machines = w.anyRunnable host machines := by
    intro machines
    induction machines with
    | nil => rfl
    | cons machineId rest ih =>
      rw [anyRunnable, anyRunnable, ih]
      rfl
  unfold backgroundProductionIsRunnable
  rw [scheduledMachines_fenced]
  simp only [hany]
  rfl

end WorldState
end Verse
