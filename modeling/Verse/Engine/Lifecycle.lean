import Verse.Engine.Access

/-!
# Life support, incapacitation and recovery

The cell computes each of these outcomes itself, from the player and its surroundings. A
player that runs out of oxygen drops everything carried into a sealed inventory of its own and
stays, incapacitated, until it asks for recovery at a point the cell chooses.
-/

namespace Verse

open Lib

variable (host : Host)

/-- `STARTER_INDUSTRY_GRID_ID`. -/
def starterIndustryGridId : String := "grid-industry-starter"

/-- `CAPITAL_MARKER`. -/
def capitalMarker : String := "block-capital-floor-0-0"

/-- `contact_key_involves_player_id`. -/
def contactKeyInvolvesPlayerId (pair : ContactPairKey) (playerId : String) : Bool :=
  pair.bodyA == playerBodyId playerId || pair.bodyB == playerBodyId playerId

/-- `reset_locomotion`. -/
def resetLocomotion (position : Vec3) (kind : LocomotionKind) (magneticBootsEnabled : Bool)
    (simulationTick : Nat) : PlayerLocomotionSnapshot where
  kind := kind
  up := host.radialUp position
  viewPitchRadians := .finite 0
  support := none
  jumpHeld := false
  jumpBufferExpiresAtSimulationTick := simulationTick
  supportGraceExpiresAtSimulationTick := simulationTick
  magneticBootsEnabled := magneticBootsEnabled
  magneticReattachAfterSimulationTick := simulationTick

/-- A player whose controls, velocities and contact are cleared at a tick. -/
def Player.halted (player : Player) (simulationTick : Nat) : Player :=
  { player with
    linearVelocity := Vec3.zero
    angularVelocity := Vec3.zero
    surfaceContact := false
    controlLinearInput := Vec3.zero
    controlAngularInput := Vec3.zero
    boost := false
    dampeners := true
    jump := false
    controlExpiresAtSimulationTick := simulationTick
    pendingControlFrames := [] }

namespace WorldState

/-- The player a lifecycle transition is about. -/
def lifecyclePlayer (w : WorldState) (playerId message : String) : Intent Player :=
  demand (w.player.byId.get? playerId) (.rejected "lifecycle_player_missing" message)

/-! ## Oxygen -/

/-- `next_suit_oxygen_after_one_second_for`. -/
def nextSuitOxygen (w : WorldState) (playerId : String) : Intent Nat := do
  let player ← w.lifecyclePlayer playerId
    "life support target is not present in the canonical roster"
  rejectIf (player.lifeState ≠ .alive ∨ player.suitOxygenMilli = 0)
    (.rejected "player_not_alive"
      "only an alive player with remaining oxygen has a life-support transition")
  let breathable := host.breathable w.unfenced player.position
  let delta : Int :=
    if !player.helmetClosed && breathable then Content.openBreathableDelta
    else if !player.helmetClosed then Content.openVacuumDelta
    else if breathable then Content.sealedBreathableDelta
    else Content.sealedVacuumDelta
  return (max 0 (min (player.suitOxygenMilli + delta) Content.suitOxygenCapacityMilli)).toNat

/-- `oxygen_incapacitation_payload_for`. -/
def oxygenIncapacitationPayload (w : WorldState) (playerId : String) : Intent EventPayload := do
  let player ← w.lifecyclePlayer playerId
    "life support target is not present in the canonical roster"
  rejectIf (player.lifeState ≠ .alive ∨ player.suitOxygenMilli = 0)
    (.rejected "player_not_alive"
      "only an alive player with remaining oxygen can become incapacitated")
  let next ← w.nextSuitOxygen host playerId
  rejectIf (next ≠ 0)
    (.rejected "oxygen_not_depleted"
      "the authoritative one-second life-support transition does not reach zero")
  let eventSequence ← plainAdd w.eventSequence 1
  let deathId := s!"death-{player.playerId}-{eventSequence}"
  let inventory ← w.inventory player.inventoryId
  rejectIf (inventory.domain ≠ .player player.playerId)
    (.rejected "player_inventory_domain_invalid"
      "the player inventory does not belong to the authoritative player")
  let dropped ←
    if inventory.contents ≠ .empty then do
      let dropId := s!"drop-{player.playerId}-{eventSequence}"
      let inventoryId := s!"inventory-{dropId}"
      rejectIf (w.deathDrops.contains dropId ∨ w.inventories.contains inventoryId)
        (.rejected "death_drop_identity_conflict"
          "the deterministic death-drop identity is already in use")
      let droppedInventory : InventoryRecord := {
        inventoryId
        domain := .dropped "player_oxygen_depleted" player.playerId
        contents := inventory.contents
        capacityLiters := inventory.capacityLiters }
      let deathDrop : DeathDrop := {
        dropId, deathId, inventoryId
        ownerPlayerId := player.playerId
        address := player.address
        position := player.position
        createdEventSequence := eventSequence
        cause := .oxygenDepleted }
      pure (some (droppedInventory, deathDrop))
    else pure none
  return .playerIncapacitated player.playerId deathId .oxygenDepleted player.address
    player.position player.suitOxygenMilli (dropped.map Prod.fst) (dropped.map Prod.snd)

/-- `life_support_payload_after_one_second_for`. -/
def lifeSupportPayload (w : WorldState) (playerId : String) : Intent (Option EventPayload) := do
  let player ← w.lifecyclePlayer playerId
    "life support target is not present in the canonical roster"
  let newOxygenMilli ← w.nextSuitOxygen host playerId
  if newOxygenMilli = player.suitOxygenMilli then return none
  else if newOxygenMilli = 0 then do
    let payload ← w.oxygenIncapacitationPayload host playerId
    return some payload
  else return some (.suitOxygenChanged playerId player.suitOxygenMilli newOxygenMilli)

/-! ## Recovery -/

def isCapitalStart (w : WorldState) : Bool :=
  match w.grids.get? starterIndustryGridId with
  | some grid => grid.blocks.contains capitalMarker
  | none => false

/-- `proof_recovery_position` of the content manifest. -/
def proofRecoveryPosition : Vec3 := ⟨.finite 12, .finite (9 / 2), .finite 10⟩

/-- The first clear point of the recovery corridor. -/
def recoveryPosition (w : WorldState) : Option Vec3 :=
  let origin :=
    match w.grids.get? starterIndustryGridId with
    | some grid => if w.isCapitalStart then host.capitalSpawn grid else proofRecoveryPosition
    | none => proofRecoveryPosition
  ((List.range 2049).map (host.recoveryPoint origin)).find?
    (host.proofRecoveryPositionIsClear w.unfenced)

/-- `player_respawn_payload_for`. -/
def playerRespawnPayload (w : WorldState) (playerId : String) : Intent EventPayload := do
  let player ← w.lifecyclePlayer playerId
    "respawn target is not present in the canonical roster"
  match player.lifeState with
  | .alive => .error (.rejected "player_already_alive" "the player is already alive")
  | .incapacitated deathId _ => do
    let inventory ← w.inventory player.inventoryId
    rejectIf (inventory.contents ≠ .empty)
      (.rejected "respawn_inventory_not_empty"
        "recovery requires the carried inventory to remain in its death drop")
    let position ← demand (w.recoveryPosition host)
      (.rejected "proof_recovery_region_exhausted"
        "the deterministic proof recovery corridor has no clear point")
    let address ← (host.addressFromLocalPosition w.cellAddress position).mapError fun source =>
      .rejected "respawn_address_invalid"
        s!"active-cell position cannot be canonicalized: {source}"
    return .playerRespawned deathId address position Content.respawnOxygenMilli
      (!w.isCapitalStart && Content.respawnHelmetClosed)
      (!w.isCapitalStart && Content.respawnJetpackEnabled) false

/-! ## Applying them -/

/-- A sealed inventory and the marker that leads to it. -/
def withDeathDrop (w : WorldState) (inventory : InventoryRecord) (drop : DeathDrop) :
    WorldState :=
  { w with
    inventories := w.inventories.insert inventory.inventoryId inventory
    deathDrops := w.deathDrops.insert drop.dropId drop }

/-- Contacts of one player's body are forgotten. -/
def forgetContacts (w : WorldState) (playerId : String) : WorldState :=
  { w with activeContactPairs := w.activeContactPairs.filter fun pair =>
      !contactKeyInvolvesPlayerId pair playerId }

/-- The incapacitated player: no oxygen, no jetpack, airborne and halted. -/
def incapacitated (w : WorldState) (player : Player) (deathId : String)
    (cause : PlayerDeathCause) : Player :=
  { player.halted w.simulationTick with
    suitOxygenMilli := 0
    jetpackEnabled := false
    locomotion := resetLocomotion host player.position .airborne false w.simulationTick
    lifeState := .incapacitated deathId cause }

/-- The recovered player: at the recovery point, in a new movement epoch. -/
def respawned (w : WorldState) (player : Player) (address : UniverseAddress) (position : Vec3)
    (suitOxygenMilli : Nat) (helmetClosed jetpackEnabled magneticBootsEnabled : Bool) :
    Player :=
  { player.halted w.simulationTick with
    address, position
    orientation := Quat.identity
    locomotion := resetLocomotion host position (if jetpackEnabled then .eva else .airborne)
      magneticBootsEnabled w.simulationTick
    movementEpoch := saturatingAdd player.movementEpoch 1
    lastReceivedInputSequence := 0
    lastProcessedInputSequence := 0
    suitOxygenMilli, helmetClosed, jetpackEnabled
    lifeState := .alive }

end WorldState
end Verse
