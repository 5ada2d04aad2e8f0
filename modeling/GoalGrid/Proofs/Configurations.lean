import GoalGrid.Proofs.Steps
/-!
# Configurations — the ones that can be made

A configuration is made as a new one, of given parts, by an operation on a
card or by copying one. All that are made are valid (`Produced.valid`), and
all that are valid can be made (`Valid.produced`).
-/

namespace GoalGrid

namespace Config

variable {config : Config}

/-- The configurations that can be made: new ones, ones with given parts,
and those of cards after an operation on a card, or a copy. -/
inductive Produced : Config → Prop where
  | create {size : GridSize} {header : Option String} {hasFree : Option Bool} {config : Config} :
      (Config.create size header hasFree).Yields config → Produced config
  | ofParts {size : GridSize} {header : String} {free : Option Position} {phase : Phase}
      {config : Config} : Config.ofParts size header free phase = .ok config → Produced config
  | apply {card : Card} {operation : Operation} {change : Change} :
      Produced card.config → (operation.apply card).Yields change → Produced change.card.config
  | copy {card : Card} {size : GridSize} {hasFree : Bool} {copy : CardCopy} :
      Produced card.config → (card.copy size hasFree).Yields copy → Produced copy.card.config

theorem ofParts_eq_ok_iff {size : GridSize} {header : String} {free : Option Position}
    {phase : Phase} : ofParts size header free phase = .ok config ↔
      ∃ normal, size.normalizeHeader header = .ok normal ∧
        (∀ p ∈ free, size.contains p = true) ∧ config = ⟨size, normal, free, phase⟩ := by
  rw [ofParts, bind_eq_ok_iff]
  refine exists_congr fun normal => and_congr_right fun _ => ?_
  cases free with
  | none => simp
  | some p =>
    simp only [check_bind_eq_ok_iff, GridSize.checkPosition_eq_ok_iff, return_eq_ok_iff,
      Option.mem_some_iff, forall_eq']

/-- A valid configuration is made of its own parts. -/
theorem Valid.ofParts (h : config.Valid) :
    Config.ofParts config.size config.header config.free config.phase = .ok config :=
  ofParts_eq_ok_iff.2 ⟨config.header, GridSize.normalHeader_iff.1 h.header, h.free, rfl⟩

/-- **Every configuration that is made is valid.** -/
theorem Produced.valid (h : Produced config) : config.Valid := by
  -- an operation keeps a configuration valid, and a copy has a new one
  induction h with
  | create h => exact valid_of_yields_create h
  | ofParts h =>
    obtain ⟨header, hheader, hfree, rfl⟩ := ofParts_eq_ok_iff.1 h
    exact ⟨GridSize.normalHeader_of_normalizeHeader hheader, hfree⟩
  | apply _ h hvalid => exact (Card.step_of_yields_apply h).valid hvalid
  | copy _ h _ => exact Card.valid_of_yields_copy h

/-- And every valid configuration is made, of its own parts. -/
theorem Valid.produced (h : config.Valid) : config.Produced :=
  .ofParts h.ofParts

end Config

end GoalGrid
