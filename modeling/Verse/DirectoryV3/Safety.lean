import Mathlib.Logic.Relation
import Verse.DirectoryV3.Chain

/-!
# Bundles are moved whole, once and for good

What a directory guarantees to the cells that move aggregates through it, in any life of it that
begins with a genesis document: `Safe` says what is true of every document, `PlacementStep`,
`GenerationStep` and `RecordStep` what is true of every step, and between two points of a life
every record keeps what it says and passes along the phases. An abort undoes its prepare.
-/

namespace Verse.DirectoryV3

open Lib Directory

variable {codec : DirectoryCodec} {genesis document next : CellDirectoryDocumentV3}
  {op : DirectoryV3Op} {requested : CellTransferRecordV3}

/-! ## Every document -/

/-- What is true of a document that a directory reaches from a genesis document. -/
structure Safe (genesis document : CellDirectoryDocumentV3) : Prop where
  /-- An aggregate is in one unfinished transfer at most. -/
  exclusive : ∀ transferId transfer transferId' transfer',
    document.transfers.get? transferId = some transfer →
    document.transfers.get? transferId' = some transfer' →
    ¬ terminal transfer.phase → ¬ terminal transfer'.phase → transferId ≠ transferId' →
    ∀ member ∈ transfer.bundle.members, ∀ member' ∈ transfer'.bundle.members,
      member.aggregateId ≠ member'.aggregateId
  /-- The members of a transfer are all where its phase says. -/
  together : ∀ transferId transfer, document.transfers.get? transferId = some transfer →
    ∀ member ∈ transfer.bundle.members, ∃ placement,
      document.placements.get? member.aggregateId = some placement
        ∧ memberMatchesPhase placement member transfer transferId
  /-- An aggregate that is not at rest is a member of the transfer it names. -/
  bound : ∀ aggregateId placement transferId,
    document.placements.get? aggregateId = some placement →
    placement.activeTransferId = some transferId →
      ∃ transfer, document.transfers.get? transferId = some transfer ∧ ¬ released transfer.phase
        ∧ ∃ member ∈ transfer.bundle.members, member.aggregateId = aggregateId
  /-- No aggregate appears or disappears. -/
  present : ∀ aggregateId, (document.placements.get? aggregateId).isSome
    = (genesis.placements.get? aggregateId).isSome
  /-- The genesis has an aggregate in its first generation, or on its migration floor. -/
  origin : ∀ aggregateId origin, genesis.placements.get? aggregateId = some origin →
    origin.placementGeneration = 1
      ∨ ∃ g ∈ genesis.migrationGenesis, ∃ floor ∈ g.placementFloors.get? aggregateId,
          floor.placementGeneration = origin.placementGeneration
            ∧ floor.cellId = origin.cellId
  /-- The committed moves of an aggregate are a chain from there to where it is, which leaves
      each generation on the way once. -/
  chain : ∀ aggregateId placement, document.placements.get? aggregateId = some placement →
    ∃ origin, genesis.placements.get? aggregateId = some origin
      ∧ ∃ path, Chain aggregateId origin.placementGeneration origin.cellId path
          placement.placementGeneration placement.cellId
        ∧ path.Perm (movesOf document aggregateId)
        ∧ path.map (·.generation) = List.range' origin.placementGeneration
            (placement.placementGeneration - origin.placementGeneration)

theorem PlacementStep.isSome_eq (h : PlacementStep op document next) (aggregateId : String) :
    (next.placements.get? aggregateId).isSome = (document.placements.get? aggregateId).isSome := by
  cases h with
  | unmoved same => rw [same]
  | @moved transition transferId transfer stands onRecord ordered together =>
    by_cases hmember : ∃ member ∈ transfer.bundle.members, member.aggregateId = aggregateId
    · obtain ⟨member, hmem, rfl⟩ := hmember
      obtain ⟨placement, hbefore, -, hafter⟩ := together.members member hmem
      rw [hbefore, hafter]
      rfl
    · push Not at hmember
      rw [together.others aggregateId hmember]

variable {aggregateId transferId : String} {placement : AggregatePlacementRecord}

/-- An active member pins its transfer to a phase that has not let go of it. -/
theorem CellDirectoryDocumentV3.Valid.bound (h : document.Valid codec)
    (hdisjoint : Disjoint document)
    (hget : document.placements.get? aggregateId = some placement)
    (hactive : placement.activeTransferId = some transferId) :
    ∃ transfer, document.transfers.get? transferId = some transfer ∧ ¬ released transfer.phase
      ∧ ∃ member ∈ transfer.bundle.members, member.aggregateId = aggregateId := by
  obtain ⟨transfer, htransfer, member, hmember, rfl⟩ :=
    h.active aggregateId placement transferId hget hactive
  refine ⟨transfer, htransfer, ?_, member, hmember, rfl⟩
  intro hreleased
  obtain ⟨found, hfound, -, hmatches, -⟩ :=
    h.members transferId transfer htransfer member hmember
  obtain rfl := Option.mem_unique hget hfound
  have hlast := h.not_overtaken hdisjoint htransfer hmember hget hreleased
  unfold memberMatchesPhase at hmatches
  unfold Overtaken at hlast
  rcases hreleased with hphase | hphase | hphase <;> simp_all

/-- What is kept along a run: the document is reachable, and the placements go back to the
    genesis. -/
structure FromGenesis (codec : DirectoryCodec) (genesis : CellDirectoryDocumentV3)
    (history : DirectoryHistory) : Prop where
  settled : Settled codec history
  chained : Chained genesis history.current
  present : ∀ aggregateId, (history.current.placements.get? aggregateId).isSome
    = (genesis.placements.get? aggregateId).isSome

theorem IsGenesis.fromGenesis (h : IsGenesis codec genesis) :
    FromGenesis codec genesis (genesisHistory genesis) where
  settled := h.settled
  chained := h.chained
  present _ := rfl

variable {history result : DirectoryHistory}

theorem FromGenesis.step (h : FromGenesis codec genesis history)
    (hstep : history.step codec op = .ok result) : FromGenesis codec genesis result := by
  have hsettled := h.settled.step hstep
  cases step_cases h.settled.valid hstep with
  | unchanged => exact h
  | appended effect valid =>
    exact ⟨hsettled, h.chained.effect effect, fun aggregateId =>
      (effect.placementStep.isSome_eq aggregateId).trans (h.present aggregateId)⟩

variable {ops : List DirectoryV3Op}

theorem FromGenesis.run
    (h : FromGenesis codec genesis history) (hrun : run codec history ops = .ok result) :
    FromGenesis codec genesis result :=
  preserved_of_run (fun hinv hstep => FromGenesis.step hinv hstep) h hrun

theorem FromGenesis.safe (h : FromGenesis codec genesis history)
    (hgenesis : IsGenesis codec genesis) : Safe genesis history.current where
  exclusive id t id' t' hget hget' _ _ hne := h.settled.disjoint id t id' t' hget hget' hne
  together id t hget member hmember := by
    obtain ⟨placement, hplacement, -, hmatches, -⟩ := h.settled.valid.members id t hget member hmember
    exact ⟨placement, hplacement, hmatches⟩
  bound _ _ _ hget hactive := h.settled.valid.bound h.settled.disjoint hget hactive
  present := h.present
  origin _ _ hget := hgenesis.origin hget
  chain aggregateId placement hget := by
    obtain ⟨origin, horigin, path, hchain, hperm⟩ := h.chained aggregateId placement hget
    obtain ⟨hlast, hgenerations⟩ := hchain.generations
    refine ⟨origin, horigin, path, hchain, hperm, ?_⟩
    rw [hgenerations, hlast, Nat.add_sub_cancel_left]

/-! ## Every step -/

/-- An aggregate stays in its cell and its generation, or a commit takes it to the next one. -/
def GenerationStep (op : DirectoryV3Op) (before after : CellDirectoryDocumentV3) : Prop :=
  ∀ aggregateId placement, before.placements.get? aggregateId = some placement →
    ∃ placement', after.placements.get? aggregateId = some placement'
      ∧ (placement'.placementGeneration = placement.placementGeneration
          ∧ placement'.cellId = placement.cellId ∧ placement'.cellKey = placement.cellKey
        ∨ (∃ transferId root, op = .commit transferId root)
          ∧ placement'.placementGeneration = placement.placementGeneration + 1)

theorem DirectoryV3Op.commit_of_transition (h : op.transition = some .commit) :
    ∃ transferId root, op = .commit transferId root := by
  cases op with
  | commit transferId root => exact ⟨transferId, root, rfl⟩
  | _ => cases h

theorem PlacementStep.generationStep (h : PlacementStep op document next) :
    GenerationStep op document next := by
  intro aggregateId placement hget
  cases h with
  | unmoved same => exact ⟨placement, same ▸ hget, .inl ⟨rfl, rfl, rfl⟩⟩
  | @moved transition transferId transfer stands onRecord ordered together =>
    by_cases hmember : ∃ member ∈ transfer.bundle.members, member.aggregateId = aggregateId
    · obtain ⟨member, hmem, rfl⟩ := hmember
      obtain ⟨found, hbefore, hphase, hafter⟩ := together.members member hmem
      obtain rfl := Option.mem_unique hget hbefore
      refine ⟨_, hafter, ?_⟩
      by_cases hcommit : transition = .commit
      · subst hcommit
        obtain ⟨-, -, hgeneration, -, -⟩ := hphase
        refine .inr ⟨DirectoryV3Op.commit_of_transition stands, ?_⟩
        rw [hgeneration]
        exact ordered.advances_once member hmem
      · exact .inl (advance_still hcommit)
    · push Not at hmember
      exact ⟨placement, (together.others aggregateId hmember).trans hget, .inl ⟨rfl, rfl, rfl⟩⟩

theorem steps_of_step (hvalid : history.current.Valid codec)
    (h : history.step codec op = .ok result) :
    PlacementStep op history.current result.current
      ∧ GenerationStep op history.current result.current
      ∧ RecordStep history.current result.current := by
  cases step_cases hvalid h with
  | unchanged =>
    have hplacements : PlacementStep op history.current history.current := .unmoved rfl
    exact ⟨hplacements, hplacements.generationStep, .of_transfers_eq rfl⟩
  | appended effect valid =>
    exact ⟨effect.placementStep, effect.placementStep.generationStep, effect.recordStep⟩

/-! ## Between two points of a life -/

/-- What a later document still says of the transfers of an earlier one. -/
def RecordsKept (before after : CellDirectoryDocumentV3) : Prop :=
  ∀ transferId transfer, before.transfers.get? transferId = some transfer →
    ∃ transfer', after.transfers.get? transferId = some transfer'
      ∧ RecordKept transfer transfer'
      ∧ Relation.ReflTransGen PhaseEdge transfer.phase transfer'.phase

theorem RecordsKept.refl (document : CellDirectoryDocumentV3) : RecordsKept document document :=
  fun _ transfer hget => ⟨transfer, hget, .refl transfer, .refl⟩

theorem RecordsKept.trans {a b c} (hab : RecordsKept a b) (hbc : RecordsKept b c) :
    RecordsKept a c := by
  intro transferId transfer hget
  obtain ⟨middle, hmiddle, hkept, hphases⟩ := hab transferId transfer hget
  obtain ⟨last, hlast, hkept', hphases'⟩ := hbc transferId middle hmiddle
  exact ⟨last, hlast, hkept.trans hkept', hphases.trans hphases'⟩

theorem RecordStep.recordsKept (h : RecordStep document next) : RecordsKept document next := by
  intro transferId transfer hget
  obtain ⟨transfer', hget', hkept, hphase | hedge⟩ := h.kept transferId transfer hget
  · exact ⟨transfer', hget', hkept, hphase ▸ .refl⟩
  · exact ⟨transfer', hget', hkept, .single hedge⟩

theorem recordsKept_of_run
    (hvalid : history.current.Valid codec) (hrun : run codec history ops = .ok result) :
    RecordsKept history.current result.current :=
  relates_of_step (P := fun h => h.current.Valid codec)
    (R := fun before after => RecordsKept before.current after.current)
    (fun hvalid hstep => valid_of_step hvalid hstep)
    (fun hvalid hstep => (steps_of_step hvalid hstep).2.2.recordsKept)
    (fun history => .refl history.current) (fun {a b c} hab hbc => @RecordsKept.trans a.current b.current c.current hab hbc)
    hvalid hrun

/-! ## An abort undoes its prepare -/

variable {opened : DirectoryHistory}

theorem opened_of_prepare
    (h : history.step codec (.prepare requested) = .ok opened)
    (hnew : history.current.transfers.get? requested.transferId = none) :
    FreshRequest codec history.current requested
      ∧ opened.current.transfers.get? requested.transferId = some requested := by
  obtain ⟨next, hstage, hadvance⟩ := bind_eq_ok.mp h
  obtain ⟨hfresh, rfl, -, -⟩ := stageV3Prepare_of_new hstage hnew
  refine ⟨hfresh, ?_⟩
  rcases advance_of_valid hadvance with ⟨hsame, rfl⟩ | ⟨-, rfl⟩
  · rw [← hsame]
    exact OrdMap.get?_insert_self
  · exact OrdMap.get?_insert_self

theorem CellDirectoryDocumentV3.Valid.aggregateId_eq (h : document.Valid codec)
    (hget : document.placements.get? aggregateId = some placement) :
    placement.aggregateId = aggregateId := by
  have hplacement := h.placements aggregateId placement hget
  simp only [CellDirectoryDocumentV3.validatePlacement, bind_eq_ok, rejectIf_eq_ok, not_or,
    not_not] at hplacement
  obtain ⟨-, -, -, -, -, ⟨hid, -, -⟩, -⟩ := hplacement
  exact hid

variable {transfer : CellTransferRecordV3}

theorem Settled.placement_of_aborted (h : Settled codec history)
    (hget : history.current.transfers.get? transferId = some transfer)
    (hphase : transfer.phase = .aborted) {member} (hmember : member ∈ transfer.bundle.members) :
    history.current.placements.get? member.aggregateId = some
      { aggregateId := member.aggregateId
        aggregateKind := member.aggregateKind
        cellKey := transfer.sourceCellKey
        cellId := transfer.sourceCellId
        placementGeneration := member.priorPlacementGeneration
        state := .resident
        activeTransferId := none } := by
  obtain ⟨placement, hplacement, hkind, hmatches, -⟩ :=
    h.valid.members transferId transfer hget member hmember
  have hlast := h.valid.not_overtaken h.disjoint hget hmember hplacement (.inr (.inr hphase))
  have hid := h.valid.aggregateId_eq hplacement
  simp only [Overtaken, hphase] at hlast
  simp only [memberMatchesPhase, hphase] at hmatches
  obtain ⟨hstate, hkey, hcell, hgeneration, hactive⟩ := hmatches.resolve_left hlast
  obtain ⟨id, kind, key, cell, generation, state, active⟩ := placement
  simp only at hid hkind hkey hcell hgeneration hstate hactive
  rw [hplacement, hid, hkind, hkey, hcell, hgeneration, hstate, hactive]

theorem restored_of_aborted {later} (h : Settled codec history)
    (hnew : history.current.transfers.get? requested.transferId = none)
    (hopened : history.step codec (.prepare requested) = .ok opened)
    (hlater : run codec opened later = .ok result)
    (hget : result.current.transfers.get? requested.transferId = some transfer)
    (hphase : transfer.phase = .aborted) :
    ∀ member ∈ requested.bundle.members,
      result.current.placements.get? member.aggregateId
        = history.current.placements.get? member.aggregateId := by
  intro member hmember
  obtain ⟨hfresh, hrecord⟩ := opened_of_prepare hopened hnew
  have hsettled : Settled codec opened := h.step hopened
  have hsettled' : Settled codec result :=
    preserved_of_run (fun hinv hstep => Settled.step hinv hstep) hsettled hlater
  -- the record still says what was requested
  obtain ⟨found, hfound, hkept, -⟩ :=
    recordsKept_of_run hsettled.valid hlater requested.transferId requested hrecord
  obtain rfl := Option.mem_unique hget hfound
  obtain ⟨-, -, hkey, hcell, -, -, -, -, -, -, hbundle⟩ := hkept.material
  have hafter := hsettled'.placement_of_aborted hget hphase (hbundle ▸ hmember)
  obtain ⟨before, hbefore, hkind, hbkey, hbcell, hgeneration, hstate, hactive⟩ :=
    hfresh.resident member hmember
  have hid := h.valid.aggregateId_eq hbefore
  rw [hafter, hbefore]
  obtain ⟨id, kind, key, cell, generation, state, active⟩ := before
  simp only at hid hkind hbkey hbcell hgeneration hstate hactive
  rw [hid, hkind, hbkey, hbcell, hgeneration, hstate, hactive, ← hkey, ← hcell]
  rfl

/-- In every life of a directory that begins with a genesis document: every document is `Safe`,
    every step moves the members of one transfer together or nothing, moves a generation on by
    one and only in a commit, and keeps every record; at any two points the later records keep
    what the earlier ones say, their phases following the edges; and a transfer that was aborted
    has left every member as it was before its prepare. -/
theorem bundles_are_safe (hgenesis : IsGenesis codec genesis) {history : DirectoryHistory}
    {ops : List DirectoryV3Op} (hrun : run codec (genesisHistory genesis) ops = .ok history) :
    Safe genesis history.current
      ∧ (∀ op result, history.step codec op = .ok result →
          PlacementStep op history.current result.current
            ∧ GenerationStep op history.current result.current
            ∧ RecordStep history.current result.current)
      ∧ (∀ later result, run codec history later = .ok result →
          RecordsKept history.current result.current)
      ∧ ∀ requested opened later result transfer,
          history.current.transfers.get? requested.transferId = none →
          history.step codec (.prepare requested) = .ok opened →
          run codec opened later = .ok result →
          result.current.transfers.get? requested.transferId = some transfer →
          transfer.phase = .aborted →
          ∀ member ∈ requested.bundle.members,
            result.current.placements.get? member.aggregateId
              = history.current.placements.get? member.aggregateId := by
  have hreached : FromGenesis codec genesis history := hgenesis.fromGenesis.run hrun
  refine ⟨hreached.safe hgenesis, ?_, ?_, ?_⟩
  · intro op result hstep
    exact steps_of_step hreached.settled.valid hstep
  · intro later result hlater
    exact recordsKept_of_run hreached.settled.valid hlater
  · intro requested opened later result transfer hnew hopened hlater hget hphase
    exact restored_of_aborted hreached.settled hnew hopened hlater hget hphase

/-- The proof directory, from its genesis through a prepare that is aborted. -/
theorem bundles_are_safe_aborted :
    ∃ history, run proofCodec (genesisHistory proofGenesis) preparedAndAborted = .ok history
      ∧ Safe proofGenesis history.current := by
  obtain ⟨history, hrun, -⟩ := run_preparedAndAborted
  exact ⟨history, hrun, (bundles_are_safe proofGenesis_isGenesis hrun).1⟩

end Verse.DirectoryV3
