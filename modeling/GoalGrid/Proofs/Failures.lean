import GoalGrid.Proofs.Commands
/-!
# Failures — what a failed command leaves behind

A command that fails leaves every file as it was, with one exception, which
`differs_after_failure_iff` states exactly: an edit that does not look at
the layout saves a card that then cannot be shown.
-/

namespace GoalGrid

/-! ## Operations and boards -/

/-- The operation changes the card, if at all, without a look at how its
items lie. -/
def Operation.SkipsLayout (card : Card) : Operation → Prop
  | .remove _ | .setCompleted _ _ | .setHeader _ | .disableFree => True
  | .moveFree target => card.config.isFree target = true
  | .swap a b => card.config.isFree a = true ∧ card.config.isFree b = true
  | .add _ _ | .resize _ | .enableFree | .shuffle | .finalize => False

namespace Card

variable {card : Card} {change : Change} {operation : Operation}

theorem exists_board_of_yields_putFree {board : Board} {target : Position}
    (h : (card.putFree board target).Yields change) :
    ∃ board, Board.ofCard change.card = .ok board := by
  obtain ⟨-, -, -, -, hholds⟩ := of_yields_putFree h
  exact exists_board_of_holds hholds

theorem exists_board_of_yields_moveFree {target : Position}
    (h : (card.moveFree target).Yields change) (hfree : card.config.isFree target = false) :
    ∃ board, Board.ofCard change.card = .ok board := by
  obtain ⟨-, -, current, hcurrent, ⟨rfl, -⟩ | ⟨-, board, -, hput⟩⟩ := of_yields_moveFree h
  · simp [Config.isFree, hcurrent] at hfree
  · exact exists_board_of_yields_putFree hput

/-- **An operation gives a card that can be shown**, unless it skips the
layout. -/
theorem exists_board_or_skipsLayout (h : (operation.apply card).Yields change) :
    (∃ board, Board.ofCard change.card = .ok board) ∨ operation.SkipsLayout card := by
  cases operation with
  | remove | setCompleted | setHeader | disableFree => exact .inr trivial
  | add content position =>
    exact .inl (exists_board_of_holds (of_yields_add (Edit.yields_card h)).2.2.2)
  | resize size =>
    obtain ⟨-, hempty, -, hitems⟩ := of_yields_resize (Edit.yields_card h)
    exact .inl (exists_board_of_holds (kept_iff.1 (kept_of_items_eq_nil (hitems.trans hempty))))
  | enableFree =>
    obtain ⟨-, -, board, target, -, -, hput⟩ := of_yields_enableFree h
    exact .inl (exists_board_of_yields_putFree hput)
  | moveFree target =>
    cases hfree : card.config.isFree target with
    | true => exact .inr hfree
    | false => exact .inl (exists_board_of_yields_moveFree h hfree)
  | shuffle =>
    exact .inl (exists_board_of_holds (of_yields_shuffle (Edit.yields_card h)).2.2.2)
  | swap a b =>
    obtain ⟨-, -, -, hcases⟩ := of_yields_swap (Edit.yields_card h)
    rcases hcases with ⟨hsame, hfree | hboard⟩ | ⟨target, moved, hfree, hmove, hcard⟩ |
      ⟨-, -, hholds⟩
    · exact .inr hfree
    · exact .inl (hsame ▸ hboard)
    · exact .inl (hcard ▸ exists_board_of_yields_moveFree hmove hfree)
    · exact .inl (exists_board_of_holds hholds)
  | finalize =>
    obtain ⟨-, hboard, -, hcard⟩ :=
      finalize_eq_ok_iff.1 (Edit.yields_ofExcept.1 (Edit.yields_card h))
    rw [hcard]
    -- the phase is no part of what a card promises
    refine .inl (Board.isOk_ofCard_iff.2 fun promise hpromise => ?_)
    rw [← Board.isOk_ofCard_iff.1 hboard promise hpromise]
    cases promise <;> rfl

end Card

/-! ## Failures -/

namespace Settings

open GoalGrid.Action (outcome_bind outcome_load)

variable {s : Settings} {path : String} {card : Card} {w : World}
variable {w' : World} {cause : AppError} {command : Command}

/-- When saving and showing fails, either nothing is saved, or the saved
card has no board. -/
theorem files_of_saveAndShow_error (h : (s.saveAndShow path card).outcome w = (.error cause, w')) :
    w'.files = w.files ∨ (¬ ∃ board, Board.ofCard card = .ok board) ∧
      w.files.writeText path (Snapshot.card.pretty card) = .ok w'.files := by
  rw [outcome_saveAndShow] at h
  rcases hwrite : w.files.writeText path (Snapshot.card.pretty card) with fault | files
  · rw [hwrite] at h
    obtain ⟨-, rfl⟩ := Prod.mk.inj h
    exact .inl rfl
  · rw [hwrite] at h
    obtain ⟨hshown, rfl⟩ := Prod.mk.inj h
    refine .inr ⟨fun hboard => ?_, rfl⟩
    obtain ⟨text, htext⟩ : ∃ text, card.render s.cellWidth = .ok text :=
      Card.exists_render_of_board hboard
    rw [htext] at hshown
    cases hshown

theorem files_of_saveAndShow_error_of_board (hboard : ∃ board, Board.ofCard card = .ok board)
    (h : (s.saveAndShow path card).outcome w = (.error cause, w')) : w'.files = w.files :=
  (files_of_saveAndShow_error h).resolve_right fun hunshown => hunshown.1 hboard

theorem files_of_create_error {size : Option Nat} {header : Option String} {noFree force : Bool}
    (h : (s.create path size header noFree force).outcome w = (.error cause, w')) :
    w'.files = w.files := by
  rw [outcome_create] at h
  split at h
  · obtain ⟨-, rfl⟩ := Prod.mk.inj h
    rfl
  · split at h
    · obtain ⟨-, rfl⟩ := Prod.mk.inj h
      rfl
    · split at h
      · obtain ⟨-, rfl⟩ := Prod.mk.inj h
        rfl
      · have hfiles := files_of_saveAndShow_error_of_board (Card.exists_board_of_holds
          (Card.kept_iff.1 (Card.kept_of_items_eq_nil rfl))) h
        exact hfiles

theorem files_of_copy_error {out : String} {size : Option Nat} {noFree : Bool}
    (h : (s.copy path out size noFree).outcome w = (.error cause, w')) : w'.files = w.files := by
  rw [outcome_copy] at h
  split at h
  · obtain ⟨-, rfl⟩ := Prod.mk.inj h
    rfl
  · split at h
    · obtain ⟨-, rfl⟩ := Prod.mk.inj h
      rfl
    · split at h
      · obtain ⟨-, rfl⟩ := Prod.mk.inj h
        rfl
      · rename_i copy generator hcopy
        have hsound := Card.sound_of_yields_copy ⟨w.generator, congrArg Prod.fst hcopy⟩
        have hboard := Card.exists_board_of_holds (Card.kept_iff.1 hsound.toKept)
        split at h
        · obtain ⟨-, rfl⟩ := Prod.mk.inj h
          rfl
        · split at h
          · rename_i hshown
            obtain ⟨-, rfl⟩ := Prod.mk.inj h
            have hfiles := files_of_saveAndShow_error_of_board hboard hshown
            exact hfiles
          · cases (Prod.mk.inj h).1

/-- **What a failure leaves**: the files as they were, or with the card
that an operation has made saved and not shown. -/
theorem files_after_failure (h : (s.execute path command).outcome w = (.error cause, w')) :
    w'.files = w.files ∨ ∃ old operation change, w.files.card path = .ok old ∧
      command.operation? = some (.ok operation) ∧
      ((operation.apply old).outcome w.generator).1 = .ok change ∧
      (¬ ∃ board, Board.ofCard change.card = .ok board) ∧
      w.files.writeText path (Snapshot.card.pretty change.card) = .ok w'.files := by
  rcases hoperation : command.operation? with _ | operation
  · -- whatever else is saved has a board, and is shown
    left
    cases command with
    | create size header noFree force => exact files_of_create_error h
    | copy out size noFree => exact files_of_copy_error h
    | print =>
      rw [execute, outcome_bind, outcome_load] at h
      split at h
      · rename_i hload
        obtain ⟨-, rfl⟩ := Prod.mk.inj hload
        exact congrArg World.files (Prod.mk.inj h).2.symm
      · rename_i hload
        rw [← (Prod.mk.inj h).2, ← (Prod.mk.inj hload).2]
    | bingos =>
      rw [execute, outcome_bind, outcome_load] at h
      split at h
      · cases (Prod.mk.inj h).1
      · rename_i hload
        rw [← (Prod.mk.inj h).2, ← (Prod.mk.inj hload).2]
    | _ => cases hoperation
  · obtain ⟨remark, hexecute⟩ : ∃ remark, s.execute path command = s.edit path operation remark :=
      execute_of_operation? hoperation
    rw [hexecute, outcome_edit] at h
    split at h
    · obtain ⟨-, rfl⟩ := Prod.mk.inj h
      exact .inl rfl
    · obtain ⟨-, rfl⟩ := Prod.mk.inj h
      exact .inl rfl
    · rename_i old operation hold
      split at h
      · obtain ⟨-, rfl⟩ := Prod.mk.inj h
        exact .inl rfl
      · rename_i change generator hchange
        split at h
        · rename_i hshown
          obtain ⟨-, rfl⟩ := Prod.mk.inj h
          rcases files_of_saveAndShow_error hshown with hsame | ⟨hboard, hwrite⟩
          · exact .inl hsame
          · exact .inr ⟨old, operation, change, hold, rfl, by rw [hchange], hboard, hwrite⟩
        · cases (Prod.mk.inj h).1

/-- **When a failed command has changed a file**: exactly when the command
applies an operation that skips the layout to the card in the file, and the
operation gives a card that has no board and another text. Every other
failure leaves every file as it was. -/
theorem differs_after_failure_iff :
    (∃ cause w', (s.execute path command).outcome w = (.error cause, w') ∧
      ∃ location, w'.files.find? location ≠ w.files.find? location) ↔
    ∃ text old operation change, w.files.readText path = .ok text ∧
      Snapshot.card.decode text = .ok old ∧ command.operation? = some (.ok operation) ∧
      operation.SkipsLayout old ∧ ((operation.apply old).outcome w.generator).1 = .ok change ∧
      (¬ ∃ board, Board.ofCard change.card = .ok board) ∧
      text ≠ Snapshot.card.pretty change.card := by
  constructor
  · rintro ⟨cause, w', h, location, hdiffers⟩
    rcases files_after_failure h with hsame | ⟨old, operation, change, hold, hoperation, hchange,
      hboard, hwrite⟩
    · exact absurd (by rw [hsame]) hdiffers
    · obtain ⟨text, htext, hdecode⟩ := FileTree.card_eq_ok_iff.1 hold
      have hskips := (Card.exists_board_or_skipsLayout ⟨w.generator, hchange⟩).resolve_left hboard
      exact ⟨text, old, operation, change, htext, hdecode, hoperation, hskips, hchange, hboard,
        (FileTree.exists_find?_ne_iff htext hwrite).1 ⟨location, hdiffers⟩⟩
  · rintro ⟨text, old, operation, change, htext, hdecode, hoperation, -, hchange, hboard, hne⟩
    have hold : w.files.card path = .ok old := FileTree.card_eq_ok_iff.2 ⟨text, htext, hdecode⟩
    obtain ⟨files, hwrite⟩ : ∃ files,
        w.files.writeText path (Snapshot.card.pretty change.card) = .ok files :=
      (FileTree.accepts_of_readBytes (FileTree.readText_eq_ok_iff.1 htext)).exists_writeBytes _
    obtain ⟨remark, hexecute⟩ : ∃ remark,
        s.execute path command = s.edit path (.ok operation) remark :=
      execute_of_operation? hoperation
    obtain ⟨cause, hcause⟩ : ∃ cause, Board.ofCard change.card = .error cause := by
      rcases hofCard : Board.ofCard change.card with cause | board
      · exact ⟨cause, rfl⟩
      · exact absurd ⟨board, hofCard⟩ hboard
    have houtcome : (operation.apply old).outcome w.generator =
        (.ok change, ((operation.apply old).outcome w.generator).2) := Prod.ext hchange rfl
    -- the save succeeds, and what is shown next fails for the reason there is no board
    refine ⟨.refused cause, ⟨files, ((operation.apply old).outcome w.generator).2⟩, ?_,
      (FileTree.exists_find?_ne_iff htext hwrite).2 hne⟩
    rw [hexecute, outcome_edit, hold]
    dsimp only
    rw [houtcome]
    dsimp only
    rw [outcome_saveAndShow]
    dsimp only
    rw [hwrite, Card.render_eq_error_iff.2 hcause]
    rfl

/-- A new header for a card with an item on FREE: the command fails, and the
file is another one. -/
theorem header_fails_and_changes_file :
    let files : FileTree := { entries := [(["card.json"],
      .file "[[2, \"BI\", \x7b\"enabled\": 0\x7d], [[0, \"A\"]]]".toUTF8)] }
    let result := (execute {} "card.json" (.header "q")).outcome ⟨files, .ofWords []⟩
    result.1 = .error (.refused (.positionOccupied ⟨0⟩)) ∧
      result.2.files.readText "card.json" ≠ files.readText "card.json" := by
  decide +kernel

end Settings

end GoalGrid
