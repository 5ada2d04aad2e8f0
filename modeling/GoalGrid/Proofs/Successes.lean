import GoalGrid.Proofs.Decoding
import GoalGrid.Proofs.Refinement
/-!
# Successes — what a command that succeeds leaves behind

Loading a card does not look at how its items lie, and neither does every
operation; but showing one does. So when a command has shown a card, that
card keeps every promise, and as saving and loading lose nothing, so does
the card in the file: after every success but that of listing bingos
(`sound_card_after_success`), whatever the files were before.
-/

namespace GoalGrid

open Edit (Yields)

/-- The file under the path holds a card that keeps every promise. -/
def FileTree.HoldsCard (t : FileTree) (path : String) : Prop :=
  ∃ text card, t.readText path = .ok text ∧ Snapshot.card.decode text = .ok card ∧
    ∀ promise : Invariant, promise.holds card = true

namespace FileTree

variable {t t' : FileTree} {path out : String} {card : Card}

/-- A card that is loaded has a valid configuration, whoever wrote the file. -/
theorem valid_of_card (h : t.card path = .ok card) : card.config.Valid := by
  obtain ⟨text, -, hdecode⟩ := card_eq_ok_iff.1 h
  have hproper : card.Proper := Snapshot.Kind.card.gives.readAll hdecode
  exact hproper.config.valid

/-- A file holds such a card when the card in it has a board. -/
theorem holdsCard_of_board (h : t.card path = .ok card)
    (hboard : ∃ board, Board.ofCard card = .ok board) : t.HoldsCard path := by
  have hsound := (Card.sound_iff (valid_of_card h)).2 hboard
  obtain ⟨text, htext, hdecode⟩ := card_eq_ok_iff.1 h
  exact ⟨text, card, htext, hdecode, Card.kept_iff.1 hsound.toKept⟩

/-- **A sound card that is written is held.** -/
theorem holdsCard_of_writeText (hsound : card.Sound)
    (h : t.writeText path (Snapshot.card.pretty card) = .ok t') : t'.HoldsCard path :=
  ⟨_, card, readText_of_writeText h, (Snapshot.decode_encode .card card hsound.proper).2,
    Card.kept_iff.1 hsound.toKept⟩

/-- Writing where there was nothing leaves the card that a file holds. -/
theorem HoldsCard.of_writeText_new (h : t.HoldsCard path) {text : String}
    (hwrite : t.writeText out text = .ok t') (hnew : t.exists? out = false) :
    t'.HoldsCard path := by
  obtain ⟨text, card, htext, hdecode, hholds⟩ := h
  have hbytes := readBytes_of_writeBytes_new hwrite hnew (readText_eq_ok_iff.1 htext)
  exact ⟨text, card, readText_eq_ok_iff.2 hbytes, hdecode, hholds⟩

end FileTree

namespace Settings

open GoalGrid.Action (outcome_bind outcome_load)

variable {s : Settings} {path out : String} {card : Card} {command : Command}
variable {w w' : World} {shown : String}

theorem exists_board_of_render {cellWidth : Nat} (h : card.render cellWidth = .ok shown) :
    ∃ board, Board.ofCard card = .ok board := by
  rcases hboard : Board.ofCard card with cause | board
  · rw [Card.render_eq_error_iff.2 hboard] at h
    cases h
  · exact ⟨board, rfl⟩

/-- **What has been saved and shown is sound**, and it is what the file holds. -/
theorem sound_of_saveAndShow (hconfig : card.config.Valid)
    (h : (s.saveAndShow path card).outcome w = (.ok shown, w')) :
    card.Sound ∧ w.files.writeText path (Snapshot.card.pretty card) = .ok w'.files := by
  rw [outcome_saveAndShow] at h
  rcases hwrite : w.files.writeText path (Snapshot.card.pretty card) with fault | files
  · rw [hwrite] at h
    cases (Prod.mk.inj h).1
  · rw [hwrite] at h
    obtain ⟨hshown, rfl⟩ := Prod.mk.inj h
    rcases hrender : card.render s.cellWidth with cause | table
    · rw [hrender] at hshown
      cases hshown
    · exact ⟨(Card.sound_iff hconfig).2 (exists_board_of_render hrender), rfl⟩

theorem holdsCard_of_saveAndShow (hconfig : card.config.Valid)
    (h : (s.saveAndShow path card).outcome w = (.ok shown, w')) : w'.files.HoldsCard path := by
  obtain ⟨hsound, hwrite⟩ := sound_of_saveAndShow hconfig h
  exact FileTree.holdsCard_of_writeText hsound hwrite

theorem holdsCard_of_print (h : (s.execute path .print).outcome w = (.ok shown, w')) :
    w'.files.HoldsCard path := by
  rw [execute, outcome_bind, outcome_load] at h
  rcases hcard : w.files.card path with cause | card
  · rw [hcard] at h
    cases (Prod.mk.inj h).1
  · rw [hcard] at h
    obtain ⟨hshown, rfl⟩ := Prod.mk.inj h
    rcases hrender : card.render s.cellWidth with cause | table
    · rw [hrender] at hshown
      cases hshown
    · exact FileTree.holdsCard_of_board hcard (exists_board_of_render hrender)

theorem holdsCard_of_create {size : Option Nat} {header : Option String} {noFree force : Bool}
    (h : (s.create path size header noFree force).outcome w = (.ok shown, w')) :
    w'.files.HoldsCard path := by
  rw [outcome_create] at h
  split at h
  · cases (Prod.mk.inj h).1
  · split at h
    · cases (Prod.mk.inj h).1
    · split at h
      · cases (Prod.mk.inj h).1
      · rename_i config generator hconfig
        have hvalid := Config.valid_of_yields_create ⟨w.generator, congrArg Prod.fst hconfig⟩
        exact holdsCard_of_saveAndShow hvalid h

theorem holdsCard_of_edit {operation : Except CardError Operation} {remark : Change → String}
    (h : (s.edit path operation remark).outcome w = (.ok shown, w')) :
    w'.files.HoldsCard path := by
  rw [outcome_edit] at h
  split at h
  · cases (Prod.mk.inj h).1
  · cases (Prod.mk.inj h).1
  · rename_i card operation hcard
    split at h
    · cases (Prod.mk.inj h).1
    · rename_i change generator hchange
      -- the operation keeps the configuration valid, and what is shown has a board
      have hstep := Card.step_of_yields_apply ⟨w.generator, congrArg Prod.fst hchange⟩
      have hvalid := hstep.valid (FileTree.valid_of_card hcard)
      split at h
      · cases (Prod.mk.inj h).1
      · rename_i table last hshown
        obtain ⟨-, rfl⟩ := Prod.mk.inj h
        exact holdsCard_of_saveAndShow hvalid hshown

/-- A copy leaves a sound card in both files: the one that is copied was
looked at for that, and its file is another one. -/
theorem holdsCard_of_copy {size : Option Nat} {noFree : Bool}
    (h : (s.copy path out size noFree).outcome w = (.ok shown, w')) :
    w'.files.HoldsCard path ∧ w'.files.HoldsCard out := by
  rw [outcome_copy] at h
  split at h
  · cases (Prod.mk.inj h).1
  · rename_i card hcard
    split at h
    · cases (Prod.mk.inj h).1
    · split at h
      · cases (Prod.mk.inj h).1
      · rename_i copy generator hcopy
        have hyields : (card.copy _ (!noFree)).Yields copy :=
          ⟨w.generator, congrArg Prod.fst hcopy⟩
        split at h
        · cases (Prod.mk.inj h).1
        · rename_i hnew
          split at h
          · cases (Prod.mk.inj h).1
          · rename_i table last hshown
            obtain ⟨-, rfl⟩ := Prod.mk.inj h
            obtain ⟨hsound, hwrite⟩ :=
              sound_of_saveAndShow (Card.valid_of_yields_copy hyields) hshown
            have hheld := FileTree.holdsCard_of_board hcard (Card.of_yields_copy hyields).1
            exact ⟨hheld.of_writeText_new hwrite (by simpa using hnew),
              FileTree.holdsCard_of_writeText hsound hwrite⟩

/-- **Success means a sound card.** Whatever the files are, when a command
other than that for listing bingos succeeds, the card file then holds a card
that keeps every promise, and after a copy the other file does so too. -/
theorem sound_card_after_success (hcommand : command ≠ .bingos)
    (h : (s.execute path command).outcome w = (.ok shown, w')) :
    w'.files.HoldsCard path ∧
      ∀ out size noFree, command = .copy out size noFree → w'.files.HoldsCard out := by
  cases command with
  | create size header noFree force => exact ⟨holdsCard_of_create h, nofun⟩
  | print => exact ⟨holdsCard_of_print h, nofun⟩
  | bingos => exact absurd rfl hcommand
  | copy out size noFree =>
    obtain ⟨hsource, hcopy⟩ := holdsCard_of_copy h
    refine ⟨hsource, fun out' size' noFree' hsame => ?_⟩
    obtain ⟨rfl, -, -⟩ := Command.copy.inj hsame
    exact hcopy
  | _ => exact ⟨holdsCard_of_edit h, nofun⟩

/-- Removing both goals of one cell: the card file broke a promise before. -/
theorem sound_card_after_success_removed :
    let files : FileTree := { entries := [(["card.json"],
      .file "[[2, \"BI\", \x7b\"enabled\": 0\x7d], [[1, \"run\"], [1, \"swim\"]]]".toUTF8)] }
    let result := (execute {} "card.json" (.remove ⟨1⟩)).outcome ⟨files, .ofWords []⟩
    (∃ card, files.card "card.json" = .ok card ∧
        Invariant.positionsUnique.holds card = false) ∧
      result.1.isOk = true ∧ result.2.files.HoldsCard "card.json" := by
  intro files result
  have hloaded : files.card "card.json" = .ok ⟨⟨.two, "BI", some ⟨0⟩, .draft⟩,
      [⟨⟨1⟩, "run", false⟩, ⟨⟨1⟩, "swim", false⟩]⟩ := by decide +kernel
  have hok : result.1.isOk = true := by decide +kernel
  refine ⟨⟨_, hloaded, by decide⟩, hok, ?_⟩
  rcases hresult : result with ⟨cause | shown, w'⟩
  · rw [hresult] at hok
    cases hok
  · exact (sound_card_after_success (by simp) hresult).1

end Settings

end GoalGrid
