import GoalGrid.Session
import GoalGrid.Proofs.Snapshot
import GoalGrid.Proofs.Writes
/-!
# Refinement — cards in files and cards in memory

The program keeps its card in a file and reads it anew for every command;
a session keeps it in memory. `Session.obey` carries a command out on a
session, with the operation of the card that the command stands for and
nothing else. Run side by side, the two never part (`obeys_of_run`):
saving and loading lose nothing, showing a saved card never fails, and the
generator moves on alike on both sides, whether or not a command fails.
-/

namespace GoalGrid

/-! ## Commands in memory -/

/-- Why a command fails in memory. -/
inductive Refusal where
  /-- There is no card, or the card refuses. -/
  | session (cause : SessionError)
  /-- The settings are at fault. -/
  | settings (cause : SettingsError)
  /-- A new card would replace the card. -/
  | cardExists
  /-- A copy would replace a file. -/
  | copyExists (out : String)

/-- The failure of the program that corresponds to a refusal. -/
def Refusal.appError (path : String) : Refusal → AppError
  | session .noCard => .unreadable path .notFound
  | session (.refused cause) => .refused cause
  | settings cause => .settings cause
  | cardExists => .wouldReplace path
  | copyExists out => .copyExists out

namespace Session

/-- The answer to a command that a step of the session gives: the card to
be shown, or why there is none. -/
def answer {α : Type} (shown : α → Card) :
    Except SessionError α × Session → Except Refusal (Option Card) × Session
  | (.ok x, s) => (.ok (some (shown x)), s)
  | (.error cause, s) => (.error (.session cause), s)

/-- Applies an operation, if there is one, to the card in memory. -/
def applied (s : Session) (operation : Except CardError Operation) :
    Except Refusal (Option Card) × Session :=
  match s.card, operation with
  | none, _ => (.error (.session .noCard), s)
  | some _, .error cause => (.error (.session (.refused cause)), s)
  | some _, .ok operation => answer Change.card (s.change operation)

/-- Looks at the card in memory. -/
def looked (s : Session) (shown : Card → Option Card) : Except Refusal (Option Card) × Session :=
  match s.card with
  | none => (.error (.session .noCard), s)
  | some card => (.ok (shown card), s)

/-- The size that is asked for, or the one of the settings. -/
def chosenSize (settings : Settings) : Option Nat → Except Refusal GridSize
  | some n => (GridSize.ofSide n).mapError fun cause => .session (.refused cause)
  | none => settings.gridSize.mapError .settings

/-- Starts a new card in memory, in place of another one only if that is
forced. -/
def started (settings : Settings) (s : Session) (size : Option Nat) (header : Option String)
    (noFree force : Bool) : Except Refusal (Option Card) × Session :=
  if s.card.isSome && !force then (.error .cardExists, s)
  else
    match chosenSize settings size with
    | .error cause => (.error cause, s)
    | .ok size => answer id (s.create size header (some (!noFree && settings.defaultFree)))

/-- The size that is asked for, or the one of the card. -/
def copiedSize (card : Card) : Option Nat → Except CardError GridSize
  | some n => GridSize.ofSide n
  | none => .ok card.config.size

/-- Copies the card in memory, to be put where nothing is present. -/
def copied (present : String → Bool) (s : Session) (out : String) (size : Option Nat)
    (noFree : Bool) : Except Refusal (Option Card) × Session :=
  match s.card with
  | none => (.error (.session .noCard), s)
  | some card =>
    match copiedSize card size with
    | .error cause => (.error (.session (.refused cause)), s)
    | .ok size =>
      match answer CardCopy.card (s.copy size (!noFree) false) with
      | (.error cause, s) => (.error cause, s)
      | (.ok copy, s) => if present out then (.error (.copyExists out), s) else (.ok copy, s)

/-- Carries a command out on the card in memory, and gives the card that is
to be shown, if the command shows one. Nothing is looked up in files but
whether there is one for a copy already, with `present`. -/
def obey (settings : Settings) (present : String → Bool) (s : Session) :
    Command → Except Refusal (Option Card) × Session
  | .create size header noFree force => s.started settings size header noFree force
  | .print => s.looked some
  | .add content position => s.applied (.ok (.add content position))
  | .remove p => s.applied (.ok (.remove p))
  | .complete p undo => s.applied (.ok (.setCompleted p !undo))
  | .header text => s.applied (.ok (.setHeader text))
  | .resize n => s.applied (Operation.resize <$> GridSize.ofSide n)
  | .enableFree => s.applied (.ok .enableFree)
  | .disableFree => s.applied (.ok .disableFree)
  | .moveFree p => s.applied (.ok (.moveFree p))
  | .shuffle => s.applied (.ok .shuffle)
  | .swap a b => s.applied (.ok (.swap a b))
  | .bingos => s.looked fun _ => none
  | .finalize => s.applied (.ok .finalize)
  | .copy out size noFree => s.copied present out size noFree

theorem obey_of_operation? {settings : Settings} {present : String → Bool} {s : Session}
    {command : Command} {operation : Except CardError Operation}
    (h : command.operation? = some operation) :
    s.obey settings present command = s.applied operation := by
  cases command with
  | create | print | bingos | copy => cases h
  | _ =>
    obtain rfl := Option.some.inj h
    rfl

end Session

/-- When the command makes a copy, there is something under its path, or a
file can be written there. -/
def Command.Ready (t : FileTree) : Command → Prop
  | .copy out _ _ => t.Ready out
  | _ => True

theorem Command.Ready.of_grows {t t' : FileTree} {command : Command} (h : command.Ready t)
    (hgrows : FileTree.Grows t t') : command.Ready t' := by
  cases command with
  | copy => exact FileTree.Ready.of_grows h hgrows
  | _ => trivial

/-! ## What is to agree -/

/-- What the program prints or complains of fits the answer in memory: the
text begins with the card that is shown, and failures correspond. -/
inductive Agrees (settings : Settings) (path : String) :
    Except AppError String → Except Refusal (Option Card) → Prop where
  | shows {card : Card} {table remark : String} :
      card.render settings.cellWidth = .ok table →
        Agrees settings path (.ok (table ++ remark)) (.ok (some card))
  | lists {text : String} : Agrees settings path (.ok text) (.ok none)
  | fails (refusal : Refusal) :
      Agrees settings path (.error (refusal.appError path)) (.error refusal)

/-- The file holds the card in memory, if there is one, as it is saved, and
can be written; the generators are the same. -/
structure Mirrors (path : String) (w : World) (s : Session) : Prop where
  generator : w.generator = s.generator
  accepts : w.files.Accepts path
  absent : s.card = none → w.files.exists? path = false
  saved : ∀ card ∈ s.card, w.files.readText path = .ok (Snapshot.card.pretty card)
  sound : ∀ card ∈ s.card, card.Sound

/-- A command has come to the same on both sides, and if it failed, the
file is as it was. -/
structure Matches (settings : Settings) (path : String) (w : World)
    (result : Except AppError String × World)
    (answer : Except Refusal (Option Card) × Session) : Prop where
  mirrors : Mirrors path result.2 answer.2
  agrees : Agrees settings path result.1 answer.1
  unchanged : ∀ cause, result.1 = .error cause →
    result.2.files.readBytes path = w.files.readBytes path

/-! ## One command -/

theorem Card.Sound.proper {card : Card} (h : card.Sound) : card.Proper where
  config := h.config.produced
  items item hitem :=
    ⟨GridSize.fitsWord_of_contains (h.inRange item hitem), h.notBlank item hitem⟩

theorem Card.Sound.exists_board {card : Card} (h : card.Sound) :
    ∃ board, Board.ofCard card = .ok board :=
  (Card.sound_iff h.config).1 h

section

variable {settings : Settings} {path : String} {w w' : World} {s' : Session}

/-- A command that shows a card has come to the same. -/
theorem Matches.shows {card : Card} {table remark : String} (h : Mirrors path w' s')
    (htable : card.render settings.cellWidth = .ok table) :
    Matches settings path w (.ok (table ++ remark), w') (.ok (some card), s') :=
  ⟨h, .shows htable, fun _ hfails => by cases hfails⟩

/-- So has one that prints something else. -/
theorem Matches.lists {text : String} (h : Mirrors path w' s') :
    Matches settings path w (.ok text, w') (.ok none, s') :=
  ⟨h, .lists, fun _ hfails => by cases hfails⟩

end

namespace Mirrors

variable {settings : Settings} {path : String} {w : World} {s : Session} {card : Card}

/-- **What is loaded is the card in memory.** -/
theorem card_eq (h : Mirrors path w s) (hcard : s.card = some card) :
    w.files.card path = .ok card :=
  FileTree.card_eq_ok_iff.2 ⟨_, h.saved card hcard,
    (Snapshot.restores_card (h.sound card hcard).proper).pretty⟩

theorem card_eq_error (h : Mirrors path w s) (hcard : s.card = none) :
    w.files.card path = .error (.unreadable path .notFound) := by
  rw [FileTree.card, h.accepts.readText_eq_notFound (h.absent hcard)]

theorem exists?_eq (h : Mirrors path w s) : w.files.exists? path = s.card.isSome := by
  rcases hcard : s.card with _ | card
  · exact h.absent hcard
  · obtain ⟨place, hplace, hentry⟩ := FileTree.readBytes_eq_ok_iff.1
      (FileTree.readText_eq_ok_iff.1 (h.saved card hcard))
    exact FileTree.exists?_eq_true_iff.2 ⟨place, hplace, by rw [hentry]; rfl⟩

/-- A failure leaves the files alone … -/
theorem fails (h : Mirrors path w s) (refusal : Refusal) :
    Matches settings path w (.error (refusal.appError path), w) (.error refusal, s) :=
  ⟨h, .fails refusal, fun _ _ => rfl⟩

/-- … and may come after a draw on both sides. -/
theorem failsDrawn (h : Mirrors path w s) (refusal : Refusal) (generator : Generator) :
    Matches settings path w (.error (refusal.appError path), { w with generator })
      (.error refusal, { s with generator }) :=
  ⟨⟨rfl, h.accepts, h.absent, h.saved, h.sound⟩, .fails refusal, fun _ _ => rfl⟩

/-- **A sound card that is saved is the card in memory.** -/
theorem exists_saved (h : Mirrors path w s) (hsound : card.Sound) (generator : Generator) :
    ∃ table files, card.render settings.cellWidth = .ok table ∧
      (settings.saveAndShow path card).outcome { w with generator } =
        (.ok table, ⟨files, generator⟩) ∧
      Mirrors path ⟨files, generator⟩ ⟨some card, generator⟩ := by
  obtain ⟨table, files, htable, hwrite, hshown⟩ :=
    Settings.exists_saveAndShow h.accepts hsound.exists_board generator
  refine ⟨table, files, htable, hshown, rfl, ?_, nofun, ?_, ?_⟩
  · exact h.accepts.of_sameDirectories (FileTree.Grows.of_writeBytes hwrite).toSameDirectories
  · intro _ hcard
    obtain rfl := Option.some.inj hcard
    exact FileTree.readText_of_writeText hwrite
  · intro _ hcard
    obtain rfl := Option.some.inj hcard
    exact hsound

/-- **A card that is saved where there was nothing** leaves the card in
memory what the file holds. -/
theorem exists_savedElsewhere {out : String} (h : Mirrors path w s) (hpresent : s.card ≠ none)
    (haccepts : w.files.Accepts out) (hnew : w.files.exists? out = false) (hsound : card.Sound)
    (generator : Generator) :
    ∃ table files, card.render settings.cellWidth = .ok table ∧
      (settings.saveAndShow out card).outcome { w with generator } =
        (.ok table, ⟨files, generator⟩) ∧
      Mirrors path ⟨files, generator⟩ { s with generator } := by
  obtain ⟨table, files, htable, hwrite, hshown⟩ :=
    Settings.exists_saveAndShow haccepts hsound.exists_board generator
  refine ⟨table, files, htable, hshown, rfl, ?_, fun hcard => absurd hcard hpresent, ?_, h.sound⟩
  · exact h.accepts.of_sameDirectories (FileTree.Grows.of_writeBytes hwrite).toSameDirectories
  · exact fun old hold => FileTree.readText_eq_ok_iff.2 (FileTree.readBytes_of_writeBytes_new hwrite
      hnew (FileTree.readText_eq_ok_iff.1 (h.saved old hold)))

/-- **An edit on both sides.** -/
theorem applied (h : Mirrors path w s) (operation : Except CardError Operation)
    (remark : Change → String) :
    Matches settings path w ((settings.edit path operation remark).outcome w)
      (s.applied operation) := by
  rw [Settings.outcome_edit]
  unfold Session.applied
  rcases hcard : s.card with _ | card
  · rw [h.card_eq_error hcard]
    exact h.fails (.session .noCard)
  · rw [h.card_eq hcard]
    rcases operation with cause | operation
    · exact h.fails (.session (.refused cause))
    · dsimp only
      rw [Session.change, Session.onCard, hcard]
      dsimp only
      rw [Session.perform, h.generator]
      -- both sides apply the operation to the same card with the same generator
      rcases hchange : (operation.apply card).outcome s.generator with ⟨cause | change, generator⟩
      · exact h.failsDrawn (.session (.refused cause)) generator
      · have hstep := Card.step_of_yields_apply ⟨s.generator, congrArg Prod.fst hchange⟩
        obtain ⟨table, files, htable, hshown, hmirrors⟩ :=
          h.exists_saved (hstep.sound (h.sound card hcard)) generator
        dsimp only
        rw [hshown]
        exact .shows hmirrors htable

theorem printed (h : Mirrors path w s) :
    Matches settings path w ((settings.execute path .print).outcome w) (s.looked some) := by
  rw [Settings.execute, Action.outcome_bind, Action.outcome_load]
  unfold Session.looked
  rcases hcard : s.card with _ | card
  · rw [h.card_eq_error hcard]
    exact h.fails (.session .noCard)
  · rw [h.card_eq hcard]
    obtain ⟨table, htable⟩ : ∃ table, card.render settings.cellWidth = .ok table :=
      Card.exists_render_of_board (h.sound card hcard).exists_board
    have hshown : (settings.display card).outcome w = (.ok (table ++ ""), w) := by
      rw [Settings.display, Action.outcome_check, htable, String.append_empty]
      rfl
    dsimp only
    rw [hshown]
    exact .shows h htable

theorem listed (h : Mirrors path w s) :
    Matches settings path w ((settings.execute path .bingos).outcome w)
      (s.looked fun _ => none) := by
  rw [Settings.execute, Action.outcome_bind, Action.outcome_load]
  unfold Session.looked
  rcases hcard : s.card with _ | card
  · rw [h.card_eq_error hcard]
    exact h.fails (.session .noCard)
  · rw [h.card_eq hcard]
    exact .lists h

/-- **A new card on both sides.** -/
theorem started (h : Mirrors path w s) (size : Option Nat) (header : Option String)
    (noFree force : Bool) :
    Matches settings path w ((settings.create path size header noFree force).outcome w)
      (s.started settings size header noFree force) := by
  have hsize : Settings.sizeOr (settings.gridSize.mapError .settings) size =
      (Session.chosenSize settings size).mapError (Refusal.appError path) := by
    cases size with
    | none => rw [Settings.sizeOr, Session.chosenSize]; cases settings.gridSize <;> rfl
    | some n => rw [Settings.sizeOr, Session.chosenSize]; cases GridSize.ofSide n <;> rfl
  rw [Settings.outcome_create, h.exists?_eq, hsize]
  unfold Session.started
  split
  · exact h.fails .cardExists
  · rcases Session.chosenSize settings size with refusal | size
    · exact h.fails refusal
    · dsimp only [Except.mapError]
      rw [Session.create, Session.perform, Edit.outcome_bind, h.generator]
      rcases hconfig : (Config.create size header (some (!noFree && settings.defaultFree))).outcome
        s.generator with ⟨cause | config, generator⟩
      · exact h.failsDrawn (.session (.refused cause)) generator
      · have hvalid := Config.valid_of_yields_create ⟨s.generator, congrArg Prod.fst hconfig⟩
        have hsound : Card.Sound { config } := ⟨Card.kept_of_items_eq_nil rfl, hvalid⟩
        obtain ⟨table, files, htable, hshown, hmirrors⟩ := h.exists_saved hsound generator
        dsimp only
        rw [hshown, ← String.append_empty (s := table)]
        exact .shows hmirrors htable

/-- **A copy on both sides.** -/
theorem copied (h : Mirrors path w s) {out : String} (hready : w.files.Ready out)
    (size : Option Nat) (noFree : Bool) :
    Matches settings path w ((settings.copy path out size noFree).outcome w)
      (s.copied w.files.exists? out size noFree) := by
  rw [Settings.outcome_copy]
  unfold Session.copied
  rcases hcard : s.card with _ | card
  · rw [h.card_eq_error hcard]
    exact h.fails (.session .noCard)
  · have hsize : Settings.sizeOr (.ok card.config.size) size =
        (Session.copiedSize card size).mapError .refused := by
      cases size <;> rfl
    rw [h.card_eq hcard]
    dsimp only
    rw [hsize]
    rcases Session.copiedSize card size with cause | size
    · exact h.fails (.session (.refused cause))
    · dsimp only [Except.mapError]
      rw [Session.copy, Session.onCard, hcard]
      dsimp only
      rw [Session.perform, h.generator]
      rcases hcopy : (card.copy size (!noFree)).outcome s.generator with ⟨cause | copy, generator⟩
      · exact h.failsDrawn (.session (.refused cause)) generator
      · have hsound := Card.sound_of_yields_copy ⟨s.generator, congrArg Prod.fst hcopy⟩
        dsimp only [Session.answer]
        -- the other file is looked for after the draw, so both sides have moved on
        split
        · exact h.failsDrawn (.copyExists out) generator
        · rename_i hnew
          obtain ⟨table, files, htable, hshown, hmirrors⟩ :=
            h.exists_savedElsewhere (by simp [hcard]) (hready.resolve_left hnew)
              (Bool.eq_false_iff.2 hnew) hsound generator
          rw [hshown]
          exact .shows hmirrors htable

/-- **A command comes to the same on both sides.** -/
theorem step (h : Mirrors path w s) (settings : Settings) {command : Command}
    (hready : command.Ready w.files) :
    Matches settings path w ((settings.execute path command).outcome w)
      (s.obey settings w.files.exists? command) := by
  rcases hoperation : command.operation? with _ | operation
  · cases command with
    | create size header noFree force => exact h.started size header noFree force
    | print => exact h.printed
    | bingos => exact h.listed
    | copy out size noFree => exact h.copied hready size noFree
    | _ => cases hoperation
  · obtain ⟨remark, hexecute⟩ : ∃ remark,
        settings.execute path command = settings.edit path operation remark :=
      Settings.execute_of_operation? hoperation
    rw [hexecute, Session.obey_of_operation? hoperation]
    exact h.applied operation remark

end Mirrors

/-! ## Runs -/

/-- The world and the session after these commands, carried out on both
sides one by one. -/
def Settings.runBoth (settings : Settings) (path : String) :
    World × Session → List Command → World × Session
  | both, [] => both
  | (w, s), command :: commands =>
    settings.runBoth path (((settings.execute path command).outcome w).2,
      (s.obey settings w.files.exists? command).2) commands

/-- **The two sides never part.** -/
theorem Mirrors.run {path : String} {w : World} {s : Session} (h : Mirrors path w s)
    (settings : Settings) {commands : List Command}
    (hready : ∀ command ∈ commands, command.Ready w.files) :
    Mirrors path (settings.runBoth path (w, s) commands).1
        (settings.runBoth path (w, s) commands).2 ∧
      FileTree.Grows w.files (settings.runBoth path (w, s) commands).1.files := by
  -- the sides after one command are where the rest starts, and copies find their places there
  induction commands generalizing w s with
  | nil => exact ⟨h, .refl _⟩
  | cons command commands ih =>
    have hstep := h.step settings (hready command List.mem_cons_self)
    have hgrows : FileTree.Grows w.files ((settings.execute path command).outcome w).2.files :=
      Settings.grows_execute command w
    have hready' : ∀ other ∈ commands,
        other.Ready ((settings.execute path command).outcome w).2.files := fun other hother =>
      (hready other (List.mem_cons_of_mem command hother)).of_grows hgrows
    obtain ⟨hmirrors, hrest⟩ := ih hstep.mirrors hready'
    exact ⟨hmirrors, hgrows.trans hrest⟩

/-- A start: the program and the session have the same generator, and the
card file can be written. Either there is no card and no file, or the file
is what has been saved of the card; the card has a board, and a
configuration that has been made, as every one has. -/
structure Starts (path : String) (w : World) (s : Session) : Prop where
  generator : w.generator = s.generator
  accepts : w.files.Accepts path
  absent : s.card = none → w.files.exists? path = false
  produced : ∀ card ∈ s.card, card.config.Produced
  board : ∀ card ∈ s.card, ∃ board, Board.ofCard card = .ok board
  saved : ∀ card ∈ s.card, w.files.readText path = .ok (Snapshot.card.pretty card)

theorem Starts.mirrors {path : String} {w : World} {s : Session} (h : Starts path w s) :
    Mirrors path w s where
  generator := h.generator
  accepts := h.accepts
  absent := h.absent
  saved := h.saved
  sound card hcard := (Card.sound_iff (h.produced card hcard).valid).2 (h.board card hcard)

end GoalGrid
