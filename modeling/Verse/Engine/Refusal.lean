import Verse.Engine.Apply

/-!
# What an event is refused for

Only the weighing at the end of an event refuses with a conservation violation. Every other
check refuses under a code of its own or stops the process, function by function, up to
`commitEvent_unweighed` and `validateEnvelope_unweighed`.
-/

namespace Verse

open Lib

/-- The refusal of the weighing. -/
@[simp] def IntentError.isViolation : IntentError → Bool
  | .conservationViolation _ => true
  | _ => false

/-- The computation does not refuse the way the weighing does. -/
def Unweighed {α : Type} (x : Intent α) : Prop := ∀ e, x = .error e → e.isViolation = false

section unweighed

variable {α β : Type}

variable {a : α}

@[simp] theorem unweighed_ok : Unweighed (.ok a) := fun _ h => by cases h

@[simp] theorem unweighed_pure : Unweighed (pure a) := fun _ h => by cases h

variable {e : IntentError}

@[simp] theorem unweighed_error :
    Unweighed (.error e : Intent α) ↔ e.isViolation = false :=
  ⟨fun h => h e rfl, fun h _ he => Except.error.inj he ▸ h⟩

variable {c : Prop}

@[simp] theorem unweighed_rejectIf [Decidable c] :
    Unweighed (rejectIf c e) ↔ (c → e.isViolation = false) := by
  unfold rejectIf
  by_cases h : c <;> simp [h]

@[simp] theorem unweighed_demand {o : Option α} :
    Unweighed (demand o e) ↔ (o = none → e.isViolation = false) := by
  cases o <;> simp [demand]

variable {x : Intent α} {f : α → Intent β}

@[simp] theorem unweighed_bind :
    Unweighed (x >>= f) ↔ Unweighed x ∧ ∀ a, x = .ok a → Unweighed (f a) := by
  cases x with
  | ok a | error e => simp [bind, Except.bind]

@[simp] theorem unweighed_map {f : α → β} : Unweighed (f <$> x) ↔ Unweighed x := by
  cases x <;> simp [Functor.map, Except.map]

@[simp] theorem unweighed_ite [Decidable c] {y : Intent α} :
    Unweighed (if c then x else y) ↔ (c → Unweighed x) ∧ (¬ c → Unweighed y) := by
  by_cases h : c <;> simp [h]

@[simp] theorem unweighed_plainAdd {a b : Nat} : Unweighed (plainAdd a b) := by
  unfold plainAdd
  split_ifs <;> simp

/-- What another layer refuses is passed on under a code. -/
theorem unweighed_mapError {ε : Type} {x : Except ε α} {f} (hf : ∀ e, (f e).isViolation = false) :
    Unweighed (x.mapError f) := by
  intro e h
  obtain ⟨source, -, rfl⟩ := mapError_eq_error.mp h
  exact hf source

variable {l : List α}

theorem unweighed_checkAll {check} (h : ∀ a, Unweighed (check a)) :
    Unweighed (checkAll check l) := by
  intro e herror
  obtain ⟨a, -, ha⟩ := checkAll_eq_error herror
  exact h a e ha

theorem unweighed_checkEach {check : List α → α → Intent Unit} {earlier : List α}
    (h : ∀ before a, Unweighed (check before a)) : Unweighed (checkEach check earlier l) := by
  intro e herror
  obtain ⟨before, a, -, ha⟩ := checkEach_eq_error herror
  exact h before a e ha

theorem unweighed_foldlM {step} {b : β} (h : ∀ b a, Unweighed (step b a)) :
    Unweighed (l.foldlM step b) := by
  intro e herror
  obtain ⟨b', a, -, ha⟩ := foldlM_eq_error herror
  exact h b' a e ha

theorem unweighed_mapM (h : ∀ a, Unweighed (f a)) :
    Unweighed (l.mapM f) := by
  intro e herror
  obtain ⟨a, -, ha⟩ := mapM_eq_error herror
  exact h a e ha

end unweighed

@[simp] theorem InventoryContents.add_unweighed {contents added : InventoryContents} :
    Unweighed (contents.add added) := by
  simp [add]

namespace WorldState

variable {host : Host} {w : WorldState} {event : CanonicalEvent} {payload : EventPayload}

/-! ## Every check refuses under a code -/

variable {actorPlayerId : String}

variable {gridId code : String}

section access

variable {inventoryId : String}

@[simp] theorem inventory_unweighed :
    Unweighed (w.inventory inventoryId) := by
  simp [inventory]

@[simp] theorem grid_unweighed : Unweighed (w.grid gridId) := by
  simp [grid]

@[simp] theorem actor_unweighed : Unweighed (w.actor actorPlayerId) := by
  simp [actor]

@[simp] theorem eventActor_unweighed : Unweighed (eventActor event) := by
  simp [eventActor]

@[simp] theorem ensureActorOwnsGrid_unweighed :
    Unweighed (w.ensureActorOwnsGrid actorPlayerId gridId) := by
  simp [ensureActorOwnsGrid]

@[simp] theorem ensureActorOwnsInventory_unweighed :
    Unweighed (w.ensureActorOwnsInventory actorPlayerId inventoryId) := by
  simp only [ensureActorOwnsInventory, unweighed_bind, inventory_unweighed, unweighed_rejectIf,
    IntentError.isViolation, implies_true, true_and]
  intro inventory _ _ _
  refine ⟨unweighed_mapError fun _ => rfl, fun _ _ _ _ => ?_⟩
  cases inventory.domain <;> simp

@[simp] theorem ensureInventoryFunctional_unweighed :
    Unweighed (w.ensureInventoryFunctional inventoryId) := by
  simp only [ensureInventoryFunctional, unweighed_bind, inventory_unweighed, true_and]
  intro inventory _
  cases inventory.domain <;> simp

variable {actor : Player}

@[simp] theorem ensureVoxelToolTarget_unweighed {coordinate : IVec3}
    {message : String} :
    Unweighed (w.ensureVoxelToolTarget host actor coordinate code message) := by
  unfold ensureVoxelToolTarget
  split <;> simp

@[simp] theorem ensureBlockToolTarget_unweighed {gridId blockId code message} :
    Unweighed (w.ensureBlockToolTarget host actor gridId blockId code message) := by
  unfold ensureBlockToolTarget
  split <;> simp

@[simp] theorem ensureBuildToolTarget_unweighed {gridId coordinate code message} :
    Unweighed (w.ensureBuildToolTarget host actor gridId coordinate code message) := by
  unfold ensureBuildToolTarget
  split <;> simp

variable {value : Vec3} {label : String}

@[simp] theorem ensureFinite_unweighed :
    Unweighed (ensureFinite value label) := by
  simp [ensureFinite]

@[simp] theorem ensureBoundedControl_unweighed :
    Unweighed (ensureBoundedControl host value label) := by
  simp [ensureBoundedControl]

end access

/-! ## The envelope -/

@[simp] theorem validateHeader_unweighed : Unweighed (w.validateHeader host event) := by
  simp [validateHeader]

@[simp] theorem validateActorEnvelope_unweighed : Unweighed (w.validateActorEnvelope event) := by
  unfold validateActorEnvelope
  split_ifs
  · split <;> simp
  · simp
  · simp

variable {operationSequence : Nat}

@[simp] theorem validateOperationAttempt_unweighed
    {intentFingerprint : String} :
    Unweighed (w.validateOperationAttempt actorPlayerId operationSequence intentFingerprint) := by
  simp only [validateOperationAttempt, unweighed_bind, unweighed_rejectIf, IntentError.isViolation,
    implies_true, true_and]
  intro _ _
  cases w.processedOperations.get? actorPlayerId with
  | none => simp
  | some history =>
    simp only [unweighed_bind, unweighed_rejectIf, IntentError.isViolation, implies_true, true_and]
    intro _ _
    cases history.retained.get? operationSequence <;> simp

@[simp] theorem clientMessageForHumanEvent_unweighed
    {operationId : String} :
    Unweighed (clientMessageForHumanEvent payload operationSequence operationId) := by
  cases payload <;> simp [clientMessageForHumanEvent]

@[simp] theorem clientIntentFingerprint_unweighed {message} :
    Unweighed (w.clientIntentFingerprint host actorPlayerId message) := by
  simp [clientIntentFingerprint]

@[simp] theorem validateOperation_unweighed {human} :
    Unweighed (w.validateOperation host payload human) := by
  simp [validateOperation]

@[simp] theorem validateTransferLocks_unweighed : Unweighed (w.validateTransferLocks event) := by
  unfold validateTransferLocks
  cases event.payload <;> simp

@[simp] theorem validatePayloadEnvelope_unweighed :
    Unweighed (w.validatePayloadEnvelope event) := by
  unfold validatePayloadEnvelope
  cases event.payload <;> simp

@[simp] theorem validateActorAlive_unweighed : Unweighed (w.validateActorAlive event) := by
  unfold validateActorAlive
  cases event.actorPlayerId <;> simp

@[simp] theorem validateEnvelope_unweighed : Unweighed (w.validateEnvelope host event) := by
  simp only [validateEnvelope, unweighed_bind, validateActorEnvelope_unweighed, true_and]
  intro human _
  cases human <;> simp [validateFence]

/-! ## The branches -/

section branches

variable {playerId : String}

@[simp] theorem nextSuitOxygen_unweighed :
    Unweighed (w.nextSuitOxygen host playerId) := by
  simp [nextSuitOxygen, lifecyclePlayer]

@[simp] theorem oxygenIncapacitationPayload_unweighed :
    Unweighed (w.oxygenIncapacitationPayload host playerId) := by
  simp [oxygenIncapacitationPayload, lifecyclePlayer]

@[simp] theorem lifeSupportPayload_unweighed :
    Unweighed (w.lifeSupportPayload host playerId) := by
  simp [lifeSupportPayload, lifecyclePlayer]

@[simp] theorem playerRespawnPayload_unweighed :
    Unweighed (w.playerRespawnPayload host playerId) := by
  simp only [playerRespawnPayload, lifecyclePlayer, unweighed_bind, unweighed_demand,
    IntentError.isViolation, implies_true, true_and]
  intro player _
  cases player.lifeState with
  | alive => simp
  | incapacitated =>
    simp only [unweighed_bind, inventory_unweighed, unweighed_rejectIf, unweighed_demand,
      unweighed_pure, IntentError.isViolation, implies_true, true_and, and_true]
    intro _ _ _ _ _ _
    exact unweighed_mapError fun _ => rfl

@[simp] theorem applyPlayerIncapacitated_unweighed :
    Unweighed (w.applyPlayerIncapacitated host payload playerId) := by
  simp only [applyPlayerIncapacitated, unweighed_bind, oxygenIncapacitationPayload_unweighed,
    unweighed_rejectIf, IntentError.isViolation, implies_true, true_and]
  intro expected _ _ _
  cases expected <;> simp

variable {occurrence : ProductionScheduleOccurrence}

@[simp] theorem validateNextProductionOccurrence_unweighed :
    Unweighed (w.validateNextProductionOccurrence occurrence) := by
  simp [validateNextProductionOccurrence]

@[simp] theorem productionMachineOutcome_unweighed {machineId : String} :
    Unweighed (w.productionMachineOutcome host machineId) := by
  simp [productionMachineOutcome, productionJobOutcome]

variable {job : ProductionJob}

@[simp] theorem recordCompletion_unweighed :
    Unweighed (w.recordCompletion job) := by
  unfold recordCompletion
  cases job.recipe <;> simp

@[simp] theorem applyOutcome_unweighed {outcome} :
    Unweighed (w.applyOutcome outcome) := by
  unfold applyOutcome applyProductionMachineOutcome
  cases outcome.kind <;> simp [creditOwner, deliver]

@[simp] theorem planMachines_unweighed {machines} :
    Unweighed (w.planMachines host machines) := by
  induction machines generalizing w with
  | nil => simp [planMachines]
  | cons machineId rest ih => simp [planMachines, planMachine, ih]

@[simp] theorem applyOutcomes_unweighed {outcomes} :
    Unweighed (w.applyOutcomes outcomes) := by
  induction outcomes generalizing w with
  | nil => simp [applyOutcomes]
  | cons outcome rest ih => simp [applyOutcomes, ih]

@[simp] theorem productionQuantumPayload_unweighed :
    Unweighed (w.productionQuantumPayload host occurrence) := by
  have hscheduled : Unweighed w.scheduledMachines := by
    simp only [scheduledMachines, unweighed_bind, unweighed_pure, implies_true, and_true]
    exact unweighed_mapM fun _ => by simp
  simp [productionQuantumPayload, hscheduled]

@[simp] theorem applyProductionQueued_unweighed :
    Unweighed (w.applyProductionQueued event actorPlayerId job) := by
  simp only [applyProductionQueued, unweighed_bind, unweighed_demand, unweighed_rejectIf,
    inventory_unweighed, unweighed_pure, IntentError.isViolation, implies_true, true_and, and_true]
  intros
  exact unweighed_checkAll fun _ => by simp [ensureProductionEndpoint]

@[simp] theorem queueContents_unweighed {queue} :
    Unweighed (queueContents queue) :=
  unweighed_foldlM fun _ _ => by simp

@[simp] theorem applyDamage_unweighed {blockId : String} {damage sequence : Nat} :
    Unweighed (w.applyDamage host gridId blockId damage sequence) := by
  have hqueue : ∀ (v : WorldState) ownerPlayerId,
      Unweighed (v.dropQueue blockId ownerPlayerId sequence) := by
    intro v ownerPlayerId
    unfold dropQueue
    cases v.productionQueues.get? blockId <;> simp
  simp [applyDamage, recordDestroyed, splitDisconnectedGrid, hqueue]

variable {outcome : PlayerPhysicsOutcome}

@[simp] theorem validatePlayerLocomotionOutcome_unweighed {scheduled : Player}
    {resultingTick : Nat} :
    Unweighed (w.validatePlayerLocomotionOutcome host scheduled outcome resultingTick) := by
  cases hsupport : outcome.locomotion.support <;> simp [validatePlayerLocomotionOutcome, hsupport]

variable {stepCount : Nat}

@[simp] theorem validatePlayerOutcome_unweighed {earlier} :
    Unweighed (w.validatePlayerOutcome host stepCount earlier outcome) := by
  have hcontinuous : ∀ prior, Unweighed ((host.playerMotionContinuity prior outcome
      stepCount).mapError fun refusal => IntentError.rejected refusal.1 refusal.2) :=
    fun prior => unweighed_mapError fun _ => rfl
  simp [validatePlayerOutcome, validatePlayerState, hcontinuous]

@[simp] theorem validateBodyOutcome_unweighed {earlier body} :
    Unweighed (w.validateBodyOutcome host stepCount earlier body) := by
  have hcontinuous : ∀ grid, Unweighed ((host.bodyMotionContinuity w.unfenced grid body
      stepCount).mapError fun refusal => IntentError.rejected refusal.1 refusal.2) :=
    fun grid => unweighed_mapError fun _ => rfl
  simp [validateBodyOutcome, hcontinuous]

@[simp] theorem validateContact_unweighed {bodies players contact} :
    Unweighed (w.validateContact host stepCount bodies players contact) := by
  cases hplayer : w.playerIdForContact (contactKey contact) <;> simp [validateContact, hplayer]

@[simp] theorem activeContactsAfter_unweighed {contacts} :
    Unweighed (w.activeContactsAfter stepCount contacts) :=
  unweighed_foldlM fun _ _ => unweighed_foldlM fun _ _ => by simp [stepContact]

@[simp] theorem applyPhysicsStep_unweighed {fixedStepHz stepCount stepPhase bodies players
      contacts activeAfter} :
    Unweighed (w.applyPhysicsStep host fixedStepHz stepCount stepPhase bodies players
      contacts activeAfter) := by
  have hplayers : Unweighed (checkEach (w.validatePlayerOutcome host stepCount) [] players) :=
    unweighed_checkEach fun _ _ => validatePlayerOutcome_unweighed
  have hbodies : Unweighed (checkEach (w.validateBodyOutcome host stepCount) [] bodies) :=
    unweighed_checkEach fun _ _ => validateBodyOutcome_unweighed
  have hcontacts : Unweighed (checkAll (w.validateContact host stepCount bodies players) contacts) :=
    unweighed_checkAll fun _ => validateContact_unweighed
  simp [applyPhysicsStep, hplayers, hbodies, hcontacts]

@[simp] theorem applyStaged_unweighed {α : Type} {staged : Handoff α} :
    Unweighed (applyStaged code staged) := by
  refine unweighed_mapError fun e => ?_
  split <;> rfl

@[simp] theorem applyPayload_unweighed : Unweighed (w.applyPayload host event) := by
  unfold applyPayload
  cases event.payload <;> simp [applyPlayerControlSet, applySuitModeChanged, applySuitOxygenChanged,
    applyPlayerRespawned, applyVoxelMined, applyProductionQuantum, applyInventoryTransferred,
    applyBlockBuilt, applyBlockWelded, applyGridControlSet, applyGridAnchorSet, applyBlockDamaged,
    applyPlayerTransferQuarantined]

end branches

/-! ## Pay and record -/

@[simp] theorem payExperience_unweighed : Unweighed (w.payExperience event) := by
  simp [payExperience]

@[simp] theorem recordCareer_unweighed : Unweighed (w.recordCareer event) := by
  have hcareer : ∀ career, Unweighed (advanceCareer event.payload career) := by
    intro career
    cases event.payload <;> simp [advanceCareer]
  simp [recordCareer, hcareer]

@[simp] theorem recordOperation_unweighed : Unweighed (w.recordOperation host event) := by
  unfold recordOperation
  split
  · exact unweighed_mapError fun _ => rfl
  · simp

@[simp] theorem commitEvent_unweighed : Unweighed (w.commitEvent host event) := by
  simp [commitEvent]

end WorldState
end Verse
