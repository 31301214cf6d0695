import Verse.Engine.Access

/-!
# Rewards and receipts

What an event pays the player that caused it, and the receipt the player is sent. Both are
functions of the payload alone.
-/

namespace Verse

namespace EventPayload

/-- `experience_reward`. -/
def experienceReward : EventPayload → Nat
  | .voxelMined _ _ oreYield _ => saturatingMul oreYield Content.rewardMinedOreUnit
  | .oreRefined _ batches => saturatingMul batches Content.rewardRefiningBatch
  | .componentCrafted _ quantity => saturatingMul quantity Content.rewardCraftedComponent
  | .inventoryTransferred .. => Content.rewardInventoryTransfer
  | .blockBuilt .. => Content.rewardFramePlaced
  | .blockWelded _ _ _ _ _ completedConstruction =>
    if completedConstruction then Content.rewardConstructionCompleted
    else Content.rewardWeldProgressOrRepair
  | .gridAnchorSet _ _ true => Content.rewardFirstAnchorEngagement
  | .blockDamaged .. => Content.rewardBlockDamage
  | .playerControlSet .. | .suitModeChanged .. | .suitOxygenChanged ..
  | .playerIncapacitated .. | .playerRespawned .. | .productionQueued ..
  | .productionQuantumCommitted .. | .gridControlSet .. | .gridAnchorSet _ _ false
  | .physicsStepCommitted .. | .playerTransferPrepared .. | .playerTransferQuarantined ..
  | .playerTransferAborted .. | .playerTransferExported .. | .playerTransferImported .. => 0

/-- The `Debug` name of a recipe. -/
def recipeName : ProductionRecipeKind → String
  | .refining => "Refining"
  | .component => "Component"

/-- The `Debug` name of a resource. -/
def resourceName : ResourceKind → String
  | .ore => "Ore"
  | .refinedMaterial => "RefinedMaterial"
  | .component => "Component"

/-- The `Debug` name of a block kind. -/
def blockKindName : BlockKind → String
  | .structural => "Structural"
  | .controlCore => "ControlCore"
  | .powerSource => "PowerSource"
  | .battery => "Battery"
  | .cargo => "Cargo"
  | .drill => "Drill"
  | .anchor => "Anchor"
  | .damageTest => "DamageTest"
  | .conveyor => "Conveyor"
  | .refinery => "Refinery"
  | .assembler => "Assembler"

/-- `receipt`: a code and a message. -/
def receipt : EventPayload → String × String
  | .playerControlSet _ inputSequence .. =>
    ("player_control_set", s!"Character control {inputSequence} accepted")
  | .suitModeChanged helmetClosed jetpackEnabled magneticBootsEnabled =>
    let helmet := if helmetClosed then "sealed" else "open"
    let jetpack := if jetpackEnabled then "online" else "offline"
    let boots := if magneticBootsEnabled then "armed" else "off"
    ("suit_mode_changed", s!"Helmet {helmet} — jetpack {jetpack} — magnetic boots {boots}")
  | .suitOxygenChanged _ _ newOxygenMilli =>
    ("suit_oxygen_changed", s!"Suit oxygen {newOxygenMilli / 10}%")
  | .playerIncapacitated .. =>
    ("player_incapacitated", "Life support failed — recovery required")
  | .playerRespawned .. =>
    ("player_respawned", "Recovery complete — suit inventory is empty")
  | .voxelMined _ _ oreYield _ => ("voxel_mined", s!"Mined {oreYield} ore")
  | .oreRefined _ batches =>
    ("ore_refined", s!"Refined {batches} batch(es) into {batches} material")
  | .componentCrafted _ quantity => ("component_crafted", s!"Crafted {quantity} component(s)")
  | .productionQueued job =>
    ("production_queued", s!"Queued {recipeName job.recipe} batch(es): {job.batches}")
  | .productionQuantumCommitted _ _ outcomes =>
    if outcomes.any fun outcome =>
        outcome.kind == .completed || outcome.kind == .completedAndDelivered
    then ("production_completed", "Machine work completed")
    else ("production_advanced", "Machine work advanced")
  | .inventoryTransferred _ _ resource quantity =>
    ("inventory_transferred", s!"Transferred {quantity} {resourceName resource}")
  | .blockBuilt _ _ block =>
    ("block_frame_placed", s!"Placed {blockKindName block.kind} frame")
  | .blockWelded _ _ _ newHealth maxHealth _ =>
    ("block_welded", s!"Welded block to {newHealth * 100 / maxHealth}% integrity")
  | .gridControlSet .. => ("grid_control_set", "Grid control accepted")
  | .gridAnchorSet _ anchored _ =>
    ("grid_anchor_set", if anchored then "Grid anchored" else "Grid released")
  | .blockDamaged .. => ("block_damaged", "Damage applied")
  | .physicsStepCommitted .. => ("physics_step_committed", "Physics step committed")
  | .playerTransferPrepared .. => ("player_transfer_prepared", "Player transfer prepared")
  | .playerTransferQuarantined .. =>
    ("player_transfer_quarantined", "Player transfer quarantined")
  | .playerTransferAborted .. => ("player_transfer_aborted", "Player transfer aborted")
  | .playerTransferExported .. => ("player_transfer_exported", "Player transfer exported")
  | .playerTransferImported .. => ("player_transfer_imported", "Player transfer imported")

end EventPayload

/-! ## Fingerprints -/

variable (host : Host)

/-- `client_message_floats_are_finite`. -/
def ClientMessage.floatsAreFinite : ClientMessage → Bool
  | .setPlayerControl _ _ _ _ linearInput angularInput _ _ _
  | .setGridControl _ _ _ linearInput angularInput _ =>
    linearInput.isFinite && angularInput.isFinite
  | _ => true

/-- `client_intent_fingerprint`: a hash of the message bound to the universe and the actor, so
    the same message by the same actor has it in every cell. -/
def WorldState.clientIntentFingerprint (w : WorldState) (actorPlayerId : String)
    (message : ClientMessage) : Intent String := do
  Lib.rejectIf (message.operation = none)
    (.rejected "not_a_mutating_intent" "only mutating client messages have intent fingerprints")
  Lib.rejectIf (message.floatsAreFinite = false)
    (.rejected "invalid_vector" "client intent floating-point fields must be finite")
  return host.clientIntentFingerprint w.universeId actorPlayerId message

/-- `client_message_for_human_event`: the request an event answers. -/
def clientMessageForHumanEvent (payload : EventPayload) (operationSequence : Nat)
    (operationId : String) : Intent ClientMessage :=
  match payload with
  | .playerControlSet movementEpoch inputSequence linearInput angularInput boost dampeners
      jump _ =>
    return .setPlayerControl operationSequence operationId movementEpoch inputSequence
      linearInput angularInput boost dampeners jump
  | .suitModeChanged helmetClosed jetpackEnabled magneticBootsEnabled =>
    return .setSuitMode operationSequence operationId helmetClosed jetpackEnabled
      magneticBootsEnabled
  | .playerRespawned .. => return .respawnPlayer operationSequence operationId
  | .voxelMined coordinate .. => return .mineVoxel operationSequence operationId coordinate
  | .oreRefined inventoryId batches =>
    return .refineOre operationSequence operationId inventoryId batches
  | .componentCrafted inventoryId quantity =>
    return .craftComponent operationSequence operationId inventoryId quantity
  | .productionQueued job =>
    return .queueProduction operationSequence operationId job.machineBlockId job.recipe
      job.batches job.sourceInventoryId job.destinationInventoryId
  | .inventoryTransferred sourceInventoryId destinationInventoryId resource quantity =>
    return .transferInventory operationSequence operationId sourceInventoryId
      destinationInventoryId resource quantity
  | .blockBuilt gridId _ block =>
    return .buildBlock operationSequence operationId gridId block.coordinate block.kind
      block.orientation
  | .blockWelded gridId blockId .. =>
    return .weldBlock operationSequence operationId gridId blockId
  | .gridControlSet gridId linearInput angularInput dampeners =>
    return .setGridControl operationSequence operationId gridId linearInput angularInput
      dampeners
  | .gridAnchorSet gridId .. => return .toggleGridAnchor operationSequence operationId gridId
  | .blockDamaged gridId blockId _ =>
    return .damageBlock operationSequence operationId gridId blockId
  | .suitOxygenChanged .. | .playerIncapacitated .. =>
    .error (.rejected "replay_lifecycle_envelope_invalid"
      "automatic life-support payload cannot use a human client envelope")
  | .physicsStepCommitted .. =>
    .error (.rejected "replay_physics_envelope_invalid"
      "physics payload cannot use a human client envelope")
  | .productionQuantumCommitted .. =>
    .error (.rejected "replay_production_envelope_invalid"
      "automatic production payload cannot use a human client envelope")
  | .playerTransferPrepared .. | .playerTransferQuarantined .. | .playerTransferAborted ..
  | .playerTransferExported .. | .playerTransferImported .. =>
    .error (.rejected "replay_transfer_envelope_invalid"
      "cross-cell transfer payload cannot use a human client envelope")

/-- `validate_operation_attempt`: `none` for the next operation of an actor, the stored receipt
    for a retained one with the same fingerprint, and a refusal otherwise. -/
def WorldState.validateOperationAttempt (w : WorldState) (actorPlayerId : String)
    (operationSequence : Nat) (intentFingerprint : String) : Intent (Option IntentReceipt) := do
  Lib.rejectIf (operationSequence = 0)
    (.rejected "operation_sequence_invalid" "operation sequence must be positive")
  match w.processedOperations.get? actorPlayerId with
  | none => do
    Lib.rejectIf (operationSequence ≠ 1)
      (.rejected "operation_sequence_gap" "operation sequence must begin at one for this actor")
    return none
  | some history => do
    Lib.rejectIf (operationSequence ≤ history.compactedThrough)
      (.rejected "operation_already_committed"
        "operation committed but its historical receipt has been compacted")
    match history.retained.get? operationSequence with
    | some record => do
      Lib.rejectIf (record.intentFingerprint ≠ intentFingerprint)
        (.rejected "operation_conflict"
          "operation sequence is already bound to a different client intent")
      return some record.receipt
    | none => do
      Lib.rejectIf (operationSequence ≤ history.committedThrough)
        (.rejected "operation_history_invalid"
          "canonical operation history is missing a committed retained record")
      let expected ← Lib.demand (checkedAdd history.committedThrough 1)
        (.rejected "operation_sequence_exhausted"
          "the actor operation sequence has reached its maximum value")
      Lib.rejectIf (operationSequence ≠ expected)
        (.rejected "operation_sequence_gap"
          s!"operation sequence must be the next committed value {expected}")
      return none

end Verse
