import Verse.LifecycleV2.Held
import Verse.LifecycleV2.Spec

/-!
# What holds of a cell at every moment

`Sound` is the invariant of a cell: its last record is canonical and bound to the document it
names, the directory stands where the record has it or has answered the operation the record
asks for, and the world stands where the record has it or has committed the pending quantum.

Each of the three parties has its own part of it. A transition of the record is the only thing
that moves more than one, and `Follows` says what it moves.
-/

namespace Verse.LifecycleV2

open Lib Directory DirectoryV3

variable {codec : LifecycleCodec} {cell : LifecycleCell} {record prior : LifecycleRecordV2}
  {assignment bound : ValidatedCurrentCellAssignmentV3} {history : DirectoryHistory}
  {frontier : LifecycleWorldFrontierV2}

/-! ## The record and the assignment it is bound to -/

/-- The record is at the generation, fence and holder of the assignment. -/
structure LifecycleRecordV2.BoundTo (record : LifecycleRecordV2)
    (assignment : ValidatedCurrentCellAssignmentV3) : Prop where
  names : record.namesAssignment assignment
  holder : record.holderMatches assignment.assignment

theorem validateDirectoryBinding_eq_ok {u : Unit} :
    record.validateDirectoryBinding history = .ok u ↔
      ∃ bound, record.boundAssignment history = .ok bound ∧ record.BoundTo bound := by
  simp only [LifecycleRecordV2.validateDirectoryBinding, bind_eq_ok, rejectIf_eq_ok, not_or,
    not_not]
  exact exists_congr fun _ => and_congr_right fun _ =>
    ⟨fun h => ⟨h.1, h.2⟩, fun h => ⟨h.names, h.holder⟩⟩

theorem boundAssignment_eq_ok : record.boundAssignment history = .ok bound ↔
    historicalCellAssignment history record.directoryRevision record.directoryDocumentHash
      record.cellId = .ok bound := by
  simp [LifecycleRecordV2.boundAssignment]

theorem cellAssignment_eq_ok : cell.assignment = .ok assignment ↔
    currentCellAssignment cell.history cell.current.cellId = .ok assignment := by
  simp [LifecycleCell.assignment]

theorem boundAssignment_atRest (hfiled : Filed codec.directory history)
    (h : record.boundAssignment history = .ok bound) :
    AtRest codec.directory record.cellId bound.assignment :=
  hfiled.atRest (boundAssignment_eq_ok.mp h)

/-- A record with a holder is bound to an assignment that is held. -/
theorem LifecycleRecordV2.BoundTo.held (h : record.BoundTo bound) (hlive : record.holderId.isSome) :
    bound.assignment.state = .assigned ∧ bound.assignment.holderId = record.holderId := by
  rcases h.holder with hassigned | ⟨-, -, hnone⟩
  · exact hassigned
  · rw [hnone] at hlive
    cases hlive

/-- A record without one is bound to an assignment at rest that is asleep. -/
theorem LifecycleRecordV2.BoundTo.asleep (h : record.BoundTo bound) {cellId : String}
    (hrest : AtRest codec.directory cellId bound.assignment) (hnone : record.holderId = none) :
    bound.assignment.state = .sleeping := by
  rcases h.holder with ⟨-, hholder⟩ | ⟨hstate, -⟩
  · rcases hrest.settled with ⟨hstate, -⟩ | ⟨-, hsome⟩
    · exact hstate
    · rw [hholder, hnone] at hsome
      cases hsome
  · exact hstate

/-! ## The directory and the operation under way -/

/-- The tip stands where the record has it, or has answered what the record asks for. -/
structure TipView (codec : LifecycleCodec) (record : LifecycleRecordV2)
    (assignment : ValidatedCurrentCellAssignmentV3) : Prop where
  universeId : assignment.universeId = record.universeId
  manifestHash : assignment.universeManifestHash = record.manifestHash
  cellKey : assignment.assignment.cellKey = record.cellKey
  cellId : assignment.assignment.cellId = record.cellId
  rest : AtRest codec.directory record.cellId assignment.assignment
  stable : ∀ holderId, assignment.assignment.holderId = some holderId →
    validStableId holderId = true
  stands : record.BoundTo assignment ∨ ∃ operation,
    record.authorityOperation = some operation ∧ record.answered assignment.assignment operation

theorem TipView.boundTo (h : TipView codec record assignment)
    (hidle : record.authorityOperation = none) : record.BoundTo assignment := by
  rcases h.stands with hbound | ⟨operation, hoperation, -⟩
  · exact hbound
  · rw [hidle] at hoperation
    cases hoperation

theorem TipView.of_boundTo (h : TipView codec prior assignment)
    (hcell : record.cellId = prior.cellId) (hbound : record.BoundTo assignment) :
    TipView codec record assignment where
  universeId := hbound.names.1
  manifestHash := hbound.names.2.1
  cellKey := hbound.names.2.2.1
  cellId := hbound.names.2.2.2.1
  rest := hcell ▸ h.rest
  stable := h.stable
  stands := .inl hbound

/-! ## The world and the commit under way -/

/-- The world stands where the record has it, or has committed the pending quantum. -/
structure WorldView (record : LifecycleRecordV2) (frontier : LifecycleWorldFrontierV2) : Prop where
  registry : frontier.celestialRegistryHash = record.celestialRegistryHash
  stands : frontier = record.worldFrontier ∨ ∃ pending,
    record.pendingWorldCommit = some pending ∧ pending.committedBy frontier

theorem WorldView.of_eq (h : frontier = record.worldFrontier) : WorldView record frontier where
  registry := by rw [h]; rfl
  stands := .inl h

theorem WorldView.requireWorldOrPendingSuccessor (h : WorldView record frontier) :
    record.requireWorldOrPendingSuccessor frontier = .ok () := by
  refine LifecycleRecordV2.requireWorldOrPendingSuccessor_eq_ok.mpr ?_
  rcases h.stands with hsame | ⟨pending, hpending, hcommitted⟩
  · exact .inl hsame
  · exact .inr ⟨pending, hpending, hcommitted, h.registry⟩

theorem WorldView.of_same (h : WorldView prior frontier)
    (hfrontier : record.worldFrontier = prior.worldFrontier)
    (hpending : record.pendingWorldCommit = prior.pendingWorldCommit) :
    WorldView record frontier where
  registry := h.registry.trans (congrArg (·.celestialRegistryHash) hfrontier).symm
  stands := by
    rw [hfrontier, hpending]
    exact h.stands

/-! ## The whole -/

structure Sound (codec : LifecycleCodec) (cell : LifecycleCell) : Prop where
  filed : Filed codec.directory cell.history
  canonical : cell.current.Canonical codec
  bound : ∃ bound, cell.current.boundAssignment cell.history = .ok bound
    ∧ cell.current.BoundTo bound
  tip : ∃ assignment, cell.assignment = .ok assignment ∧ TipView codec cell.current assignment
  world : WorldView cell.current cell.world.lifecycleWorldFrontier

/-- What is read at the tip is what the record will find when it names the tip. -/
theorem boundAssignment_of_tip (hfiled : Filed codec.directory cell.history)
    (hassignment : cell.assignment = .ok assignment) (hcell : record.cellId = cell.current.cellId)
    (hrevision : record.directoryRevision = assignment.directoryRevision)
    (hhash : record.directoryDocumentHash = assignment.directoryDocumentHash) :
    record.boundAssignment cell.history = .ok assignment := by
  rw [boundAssignment_eq_ok, hrevision, hhash, hcell]
  exact hfiled.historical (cellAssignment_eq_ok.mp hassignment)

end Verse.LifecycleV2
