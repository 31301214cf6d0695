import Verse.Engine.Breath
import Verse.Lib.Loop
import Verse.Runtime.Advance
import Verse.Runtime.ExactlyOnce

/-!
# The stages of an advance

What an advance does beside life support, it does through events of two kinds: physics steps and
quanta of production. A condition on the world that neither of them breaks outlives those
stages, however they end, and the books of life support are not touched by them.
-/

namespace Verse.Runtime

open Lib Lib.Program

variable {Scene : Type} {site : Persistence.Site} {solver : Solver Scene}

namespace Ticker

variable {p q : WorldState → Prop} {books : OrdMap String Nat}

/-- A condition on the world, and the books as they are. -/
def Keeping (p : WorldState → Prop) (books : OrdMap String Nat) (t : Ticker Scene) : Prop :=
  p t.world ∧ t.lifeSupportElapsedMillis = books

theorem onCell_spec {α : Type} {x : Act α} {E : Cell → Prop}
    (h : Triple (At p) x (fun _ => At q) fun _ => E) :
    Triple (fun t : Ticker Scene => Keeping p books t) (onCell x) (fun _ => Keeping q books)
      fun _ t => E t.cell :=
  Triple.zoom fun _ ht => h.weaken (fun _ hcell => hcell ▸ ht.1) (fun _ _ hq => ⟨hq, ht.2⟩)
    fun _ _ he => he

theorem onCell_keeps {α : Type} {x : Act α} (h : Keeps (At p) x) :
    Keeps (fun t : Ticker Scene => Keeping p books t) (onCell x) :=
  Triple.zoom fun _ ht => h.weaken (fun _ hcell => hcell ▸ ht.1) (fun _ _ hq => ⟨hq, ht.2⟩)
    fun _ _ he => ⟨he, ht.2⟩

theorem onScene_keeps {α : Type} {x : Solve Scene α} : Keeps (Keeping p books) (onScene x) := by
  intro t ht
  unfold onScene
  cases x t.scene with
  | ok a scene | error stop scene => exact ht

theorem orHalt_keeps {α : Type} {x : Tick Scene α} (h : Keeps (Keeping p books) x) :
    Keeps (Keeping p books) (orHalt x) :=
  h.onError fun _ ht => ht

variable {eventIdAt : Nat → String} {payload : EventPayload}

theorem commitSystemEvent_keeps
    (hclosed : ∀ {event w w'}, event.payload = payload → event.actorPlayerId = none → p w →
      w.applyEvent site.host event = .ok w' → p w') :
    Keeps (Keeping p books) (commitSystemEvent site solver eventIdAt payload) :=
  Keeps.get.bind fun _ =>
    (onCell_keeps (Cell.commitSystemEventRecorded_keeps hclosed)).bind fun _ =>
      .ite (.modify fun _ ht => ht) .pure

theorem commitSystemEvent_done
    (hstep : ∀ {event w w'}, event.payload = payload → event.actorPlayerId = none → p w →
      w.applyEvent site.host event = .ok w' → q w') :
    Triple (Keeping p books) (commitSystemEvent site solver eventIdAt payload)
      (fun _ => Keeping q books) fun _ _ => True :=
  .bind (R := fun _ => Keeping p books) (.get fun _ ht => ht) fun _ =>
    .bind (onCell_spec (Cell.commitSystemEventRecorded_done hstep)) fun _ =>
      .ite (fun _ => .modify fun _ ht => ht) fun _ => .pure fun _ ht => ht

/-! ## The stages beside life support -/

theorem admitted_keeps : Keeps (fun t : Ticker Scene => Keeping p books t) admitted :=
  (onCell_keeps Cell.ensureRunning_keeps).bind fun _ =>
    (onCell_keeps Cell.ensureMode_keeps).bind fun _ => onCell_keeps Cell.renewLease_keeps

variable {hostedCells : Option (List Directory.CellKeyV1)}

theorem topologyAdmits_keeps :
    Keeps (fun t : Ticker Scene => Keeping p books t) (topologyAdmits site hostedCells payload) := by
  refine Keeps.get.bind fun t => ?_
  cases hostedCells with
  | none => exact .pure
  | some hostedCells => exact orHalt_keeps .lift

theorem rebuildScene_keeps : Keeps (Keeping p books) (rebuildScene site solver) :=
  (onCell_keeps Cell.ensureScene_keeps).bind fun _ => Keeps.get.bind fun _ =>
    (orHalt_keeps .lift).bind fun _ => .modify fun _ ht => ht

theorem mechanical_of_quantum
    (h : Cell.isProductionQuantum payload = true) : WorldState.Mechanical payload := by
  unfold Cell.isProductionQuantum at h
  split at h
  · trivial
  · cases h

section

variable (hmechanical : ∀ {event w w'}, WorldState.Mechanical event.payload →
  event.actorPlayerId = none → p w → w.applyEvent site.host event = .ok w' → p w')

include hmechanical

theorem committedPhysicsSteps_keeps {stepCount phaseBefore : Nat} :
    Keeps (Keeping p books)
      (committedPhysicsSteps site solver eventIdAt hostedCells stepCount phaseBefore) := by
  refine Keeps.bind (.modify fun _ ht => ⟨ht.1, ht.2⟩) fun _ =>
    (onCell_keeps Cell.ensureScene_keeps).bind fun _ => Keeps.get.bind fun t =>
    onScene_keeps.bind fun stepping => Keeps.lift.bind fun _ => ?_
  refine Triple.bind (R := fun payload t => WorldState.Mechanical payload ∧ Keeping p books t)
    (.lift (fun payload hpayload _ ht => ⟨?_, ht⟩) fun _ _ _ ht => ht) fun payload =>
      Triple.given fun hpayload => ?_
  · obtain ⟨bodies, players, -, rfl⟩ := physicsStepPayload_eq_ok hpayload
    trivial
  · have hsettles : ∀ admits, Keeps (Keeping p books)
        (settle site solver eventIdAt payload phaseBefore admits) := fun admits =>
      .ite (orHalt_keeps (commitSystemEvent_keeps fun hevent hsystem h happlied =>
        hmechanical (hevent ▸ hpayload) hsystem h happlied)) (.modify fun _ ht => ht)
    exact topologyAdmits_keeps.bind fun admits => (hsettles admits).bind fun _ =>
      rebuildScene_keeps.bind fun _ => .pure

theorem physicsStage_keeps {deltaMillis : Nat} :
    Keeps (Keeping p books) (physicsStage site solver deltaMillis eventIdAt hostedCells) :=
  -- the phase is nobody's business here, and the condition is shown part by part not to see it
  Keeps.get.bind fun _ => .ite .pure (.bind (.modify fun _ ht => ⟨ht.1, ht.2⟩) fun _ =>
    .ite .pure (committedPhysicsSteps_keeps hmechanical))

theorem productionStage_keeps {turns : Nat} {impact} :
    Keeps (fun t : Ticker Scene => Keeping p books t) (productionStage site turns impact) :=
  Keeps.get.bind fun _ => (onCell_keeps (Cell.advanceDueProduction_keeps
    fun hquantum hsystem h happlied =>
      hmechanical (mechanical_of_quantum hquantum) hsystem h happlied)).bind
      fun _ => Keeps.get.bind fun _ => .pure

end
end Ticker
end Verse.Runtime
