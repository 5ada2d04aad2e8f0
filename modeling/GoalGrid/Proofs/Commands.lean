import GoalGrid.App.Execute
import GoalGrid.Proofs.Files
import GoalGrid.Proofs.Steps
/-!
# Commands — what a command comes to

One equation for each kind of command: what it gives, and what it leaves
of the files and the generator.
-/

namespace GoalGrid

/-! ## Edits among the commands -/

/-- The operation that a command applies to the card in the file. -/
def Command.operation? : Command → Option (Except CardError Operation)
  | .add content position => some (.ok (.add content position))
  | .remove p => some (.ok (.remove p))
  | .complete p undo => some (.ok (.setCompleted p !undo))
  | .header text => some (.ok (.setHeader text))
  | .resize n => some (Operation.resize <$> GridSize.ofSide n)
  | .enableFree => some (.ok .enableFree)
  | .disableFree => some (.ok .disableFree)
  | .moveFree p => some (.ok (.moveFree p))
  | .shuffle => some (.ok .shuffle)
  | .swap a b => some (.ok (.swap a b))
  | .finalize => some (.ok .finalize)
  | .create _ _ _ _ | .print | .bingos | .copy _ _ _ => none

namespace Card

variable {card : Card}

/-- Showing a card fails when it has no board. -/
theorem render_eq_error_iff {cellWidth : Nat} {cause : CardError} :
    card.render cellWidth = .error cause ↔ Board.ofCard card = .error cause := by
  rw [render]
  cases Board.ofCard card <;> simp [bind, Except.bind, pure, Except.pure]

theorem exists_render_of_board {cellWidth : Nat} (h : ∃ board, Board.ofCard card = .ok board) :
    ∃ text, card.render cellWidth = .ok text := by
  obtain ⟨board, hboard⟩ := h
  exact ⟨_, by rw [render, hboard]; rfl⟩

end Card

/-! ## Outcomes -/

/-- The card in a file. -/
def FileTree.card (t : FileTree) (path : String) : Except AppError Card :=
  match t.readText path with
  | .error cause => .error (.unreadable path cause)
  | .ok text => (Snapshot.card.decode text).mapError fun _ => .noCard path

theorem FileTree.card_eq_ok_iff {t : FileTree} {path : String} {card : Card} :
    t.card path = .ok card ↔
      ∃ text, t.readText path = .ok text ∧ Snapshot.card.decode text = .ok card := by
  rw [FileTree.card]
  rcases t.readText path with cause | text
  · simp
  · simp only [Except.ok.injEq, exists_eq_left']
    cases Snapshot.card.decode text <;> simp [Except.mapError]

namespace Action

variable {path : String} {card : Card} {w : World}

theorem outcome_load : (load path).outcome w = (w.files.card path, w) := by
  rw [load, outcome_bind, FileTree.card]
  show outcome (match w.files.readText path with | .error cause => _ | .ok text => _) w = _
  split
  · rfl
  · cases Snapshot.card.decode _ <;> rfl

theorem outcome_save : (save path card).outcome w =
    match w.files.writeText path (Snapshot.card.pretty card) with
    | .error cause => (.error (.unwritable path cause), w)
    | .ok files => (.ok (), { w with files }) := by
  rw [save, outcome_bind]
  show outcome (match w.files.writeText path (Snapshot.card.pretty card) with
    | .error cause => _ | .ok files => _) w = _
  split <;> rfl

end Action

namespace Settings

open GoalGrid.Action (outcome_bind outcome_load outcome_save outcome_ofEdit outcome_check)

variable {s : Settings} {path : String} {card : Card} {w : World}

theorem outcome_saveAndShow : (s.saveAndShow path card).outcome w =
    match w.files.writeText path (Snapshot.card.pretty card) with
    | .error cause => (.error (.unwritable path cause), w)
    | .ok files => ((card.render s.cellWidth).mapError .refused, { w with files }) := by
  rw [saveAndShow, outcome_bind, outcome_save]
  cases w.files.writeText path (Snapshot.card.pretty card) <;> rfl

/-- A card with a board is saved and shown where a file can be written. -/
theorem exists_saveAndShow {t : FileTree} (haccepts : t.Accepts path)
    (hboard : ∃ board, Board.ofCard card = .ok board) (generator : Generator) :
    ∃ table files, card.render s.cellWidth = .ok table ∧
      t.writeText path (Snapshot.card.pretty card) = .ok files ∧
      (s.saveAndShow path card).outcome ⟨t, generator⟩ = (.ok table, ⟨files, generator⟩) := by
  obtain ⟨files, hwrite⟩ : ∃ files, t.writeText path (Snapshot.card.pretty card) = .ok files :=
    haccepts.exists_writeBytes _
  obtain ⟨table, htable⟩ : ∃ table, card.render s.cellWidth = .ok table :=
    Card.exists_render_of_board hboard
  exact ⟨table, files, htable, hwrite, by rw [outcome_saveAndShow, hwrite, htable]; rfl⟩

/-- **What an edit comes to.** -/
theorem outcome_edit {operation : Except CardError Operation} {remark : Change → String} :
    (s.edit path operation remark).outcome w =
      match w.files.card path, operation with
      | .error cause, _ => (.error cause, w)
      | .ok _, .error cause => (.error (.refused cause), w)
      | .ok card, .ok operation =>
        match (operation.apply card).outcome w.generator with
        | (.error cause, generator) => (.error (.refused cause), { w with generator })
        | (.ok change, generator) =>
          match (s.saveAndShow path change.card).outcome { w with generator } with
          | (.error cause, w) => (.error cause, w)
          | (.ok shown, w) => (.ok (shown ++ remark change), w) := by
  rw [edit, outcome_bind, outcome_load]
  rcases w.files.card path with cause | card
  · rfl
  · dsimp only
    rw [outcome_bind, outcome_check]
    rcases operation with cause | operation
    · rfl
    · dsimp only [Except.mapError]
      rw [outcome_bind, outcome_ofEdit]
      rcases (operation.apply card).outcome w.generator with ⟨cause | change, generator⟩
      · rfl
      · dsimp only [Except.mapError]
        rw [outcome_bind]
        rcases (s.saveAndShow path change.card).outcome _ with ⟨cause | shown, w⟩ <;> rfl

/-- The size that a command asks for, or the default one. -/
def sizeOr (default : Except AppError GridSize) : Option Nat → Except AppError GridSize
  | some n => (GridSize.ofSide n).mapError .refused
  | none => default

theorem outcome_sizeOr {default : Except AppError GridSize} {size : Option Nat}
    {f : GridSize → Action String} :
    (match size with
      | some n => Action.check (GridSize.ofSide n) >>= f
      | none => Action.ofExcept default >>= f).outcome w =
      match sizeOr default size with
      | .error cause => (.error cause, w)
      | .ok size => (f size).outcome w := by
  -- both ways to a size are one check, which leaves the world alone
  have hchosen : ∀ chosen : Except AppError GridSize, (Action.ofExcept chosen >>= f).outcome w =
      match chosen with
      | .error cause => (.error cause, w)
      | .ok size => (f size).outcome w := by
    rintro (cause | size) <;> rfl
  cases size <;> exact hchosen _

/-- **What starting a card comes to.** -/
theorem outcome_create {size : Option Nat} {header : Option String} {noFree force : Bool} :
    (s.create path size header noFree force).outcome w =
      if w.files.exists? path && !force then (.error (.wouldReplace path), w)
      else
        match sizeOr (s.gridSize.mapError .settings) size with
        | .error cause => (.error cause, w)
        | .ok size =>
          match (Config.create size header (some (!noFree && s.defaultFree))).outcome
            w.generator with
          | (.error cause, generator) => (.error (.refused cause), { w with generator })
          | (.ok config, generator) => (s.saveAndShow path { config }).outcome
              { w with generator } := by
  rw [create, outcome_bind, Action.outcome_fileExists]
  dsimp only
  split
  · rfl
  · refine outcome_sizeOr.trans ?_
    rcases sizeOr (s.gridSize.mapError .settings) size with cause | size
    · rfl
    · dsimp only
      rw [outcome_bind, outcome_ofEdit]
      rcases (Config.create size header _).outcome w.generator with ⟨cause | config, generator⟩
      · rfl
      · rfl

/-- What is printed below a copy. -/
def copyRemark (card : Card) (copy : CardCopy) : String :=
  if copy.truncated then
    s!"Only {copy.card.items.length} of {card.items.length} goals fit on the new card.\n"
  else ""

/-- **What copying a card comes to**: the cells are drawn before the other
file is looked for. -/
theorem outcome_copy {out : String} {size : Option Nat} {noFree : Bool} :
    (s.copy path out size noFree).outcome w =
      match w.files.card path with
      | .error cause => (.error cause, w)
      | .ok card =>
        match sizeOr (.ok card.config.size) size with
        | .error cause => (.error cause, w)
        | .ok size =>
          match (card.copy size (!noFree)).outcome w.generator with
          | (.error cause, generator) => (.error (.refused cause), { w with generator })
          | (.ok copy, generator) =>
            if w.files.exists? out then (.error (.copyExists out), { w with generator })
            else
              match (s.saveAndShow out copy.card).outcome { w with generator } with
              | (.error cause, w) => (.error cause, w)
              | (.ok shown, w) => (.ok (shown ++ copyRemark card copy), w) := by
  rw [Settings.copy, outcome_bind, outcome_load]
  rcases w.files.card path with cause | card
  · rfl
  · dsimp only
    refine outcome_sizeOr.trans ?_
    rcases sizeOr (.ok card.config.size) size with cause | size
    · rfl
    · dsimp only
      rw [outcome_bind, outcome_ofEdit]
      rcases (card.copy size (!noFree)).outcome w.generator with ⟨cause | copy, generator⟩
      · rfl
      · dsimp only [Except.mapError]
        rw [outcome_bind, Action.outcome_fileExists]
        dsimp only
        split
        · rfl
        · rw [outcome_bind]
          rcases (s.saveAndShow out copy.card).outcome _ with ⟨cause | shown, w⟩
          · rfl
          · dsimp only [copyRemark]
            split
            · rfl
            · rw [String.append_empty]
              rfl

/-- A command with an operation is an edit with it. -/
theorem execute_of_operation? {command : Command} {operation : Except CardError Operation}
    (h : command.operation? = some operation) :
    ∃ remark, s.execute path command = s.edit path operation remark := by
  cases command with
  | create | print | bingos | copy => cases h
  | _ =>
    obtain rfl := Option.some.inj h
    exact ⟨_, rfl⟩

end Settings

end GoalGrid
