import GoalGrid.Proofs.Decoding
import GoalGrid.Proofs.Finality
import GoalGrid.Proofs.Writes
/-!
# Frozen files — what becomes of a finalized card in a file

A command reads its card anew from the file, so a finalized card in a file
refuses every edit but a marking, under whatever path the file is edited.
New cards and copies go where there was nothing, unless that is forced. So
each command leaves the file as it was, or with the same card and one mark
more (`HoldsRemarked.of_writes`), and no run of commands changes more of it
than marks (`frozen_of_run`), whatever else is in the files and however
its items lie.
-/

namespace GoalGrid

open Edit (Yields)

/-! ## Runs of the program -/

/-- A call of the program: a command, the card file that it is for, and the
settings. -/
structure Call where
  settings : Settings
  path : String
  command : Command
  /-- The generator that the call starts with, unless it goes on with the one
  that was left. -/
  generator : Option Generator

namespace World

/-- The world that a call finds. -/
def foundBy (w : World) (call : Call) : World :=
  { w with generator := call.generator.getD w.generator }

/-- The world after a call, whether it has failed or not. -/
def after (w : World) (call : Call) : World :=
  ((call.settings.execute call.path call.command).outcome (w.foundBy call)).2

/-- The world after calls, one by one. -/
def run (w : World) (calls : List Call) : World :=
  calls.foldl after w

theorem writes_after (w : World) (call : Call) :
    call.command.Writes call.path w.files (w.after call).files :=
  Settings.writes_execute call.settings call.path call.command (w.foundBy call)

end World

/-- The command starts a new card even in place of a file. -/
def Command.Forced : Command → Prop
  | .create _ _ _ force => force = true
  | _ => False

/-! ## Marks on finalized cards -/

namespace Card

variable {card : Card}

/-- **What an operation makes of a finalized card** is that card with marks. -/
theorem exists_marks_of_yields {operation : Operation} {change : Change}
    (hfinal : card.config.phase = .finalized) (h : (operation.apply card).Yields change) :
    ∃ marks, change.card = card.remarked marks := by
  by_cases hother : ∀ p done, operation ≠ .setCompleted p done
  · have hrefused : operation.apply card = throw .alreadyFinalized :=
      Operation.applyIn_of_finalized hfinal hother .debug
    rw [hrefused] at h
    exact absurd h Edit.not_yields_throw
  · simp only [not_forall, not_not] at hother
    obtain ⟨p, done, rfl⟩ := hother
    exact ⟨_, eq_remarked_of_setCompleted (Edit.yields_ofExcept.1 (Edit.yields_card h))⟩

/-- A card that may be saved may be saved with marks. -/
theorem Proper.remarked (h : card.Proper) (marks : List (Position × Bool)) :
    (card.remarked marks).Proper := by
  refine ⟨h.config, fun item hitem => ?_⟩
  obtain ⟨old, hold, rfl⟩ := List.mem_map.1 hitem
  exact ⟨(h.items old hold).position, (h.items old hold).notBlank⟩

end Card

/-! ## Marks on cards in files -/

/-- The file under the path holds the card, with marks on it. -/
def FileTree.HoldsRemarked (t : FileTree) (path : String) (card : Card) : Prop :=
  ∃ marks, t.card path = .ok (card.remarked marks)

namespace FileTree

variable {t t' : FileTree} {path other : String} {card : Card} {command : Command}

theorem holdsRemarked_of_card (h : t.card path = .ok card) : t.HoldsRemarked path card :=
  ⟨[], by rw [Card.remarked_nil]; exact h⟩

namespace HoldsRemarked

/-- A card goes where there was nothing, and so not into the file. -/
theorem of_writeText_new (h : t.HoldsRemarked path card) {text : String}
    (hwrite : t.writeText other text = .ok t') (hnew : t.exists? other = false) :
    t'.HoldsRemarked path card := by
  obtain ⟨marks, hheld⟩ := h
  obtain ⟨held, hread, hdecode⟩ := card_eq_ok_iff.1 hheld
  exact ⟨marks, card_eq_ok_iff.2 ⟨held, readText_of_writeText_new hwrite hnew hread, hdecode⟩⟩

/-- **An edit of a file** leaves a finalized card in another file as it was,
and one in the same file with marks. -/
theorem of_edited (h : t.HoldsRemarked path card) (hfinal : card.config.phase = .finalized)
    {operation : Operation} {edited : Card} {change : Change} (hcard : t.card other = .ok edited)
    (hyields : (operation.apply edited).Yields change)
    (hwrite : t.writeText other (Snapshot.card.pretty change.card) = .ok t') :
    t'.HoldsRemarked path card := by
  obtain ⟨marks, hheld⟩ := h
  obtain ⟨held, hread, hdecode⟩ := card_eq_ok_iff.1 hheld
  rcases readText_of_writeText_cases hwrite hread with hsame | ⟨hthere, hwritten⟩
  · exact ⟨marks, card_eq_ok_iff.2 ⟨held, hsame, hdecode⟩⟩
  · -- the other path leads to the same file, so that its card is the one that has been edited
    obtain rfl : edited = card.remarked marks := by
      have hloaded : t.card other = .ok (card.remarked marks) :=
        card_eq_ok_iff.2 ⟨held, hthere, hdecode⟩
      exact Except.ok.inj (hcard.symm.trans hloaded)
    have hstill : (card.remarked marks).config.phase = .finalized := hfinal
    obtain ⟨later, hchange⟩ := Card.exists_marks_of_yields hstill hyields
    rw [Card.remarked_remarked] at hchange
    have hproper : (card.remarked marks).Proper := @Snapshot.proper_of_decode .card _ _ hdecode
    have hsaved := (Snapshot.decode_encode .card _ (hproper.remarked later)).2
    rw [Card.remarked_remarked, ← hchange] at hsaved
    exact ⟨marks ++ later, card_eq_ok_iff.2 ⟨_, hwritten, hchange ▸ hsaved⟩⟩

/-- **A command leaves marks on a finalized card**, and nothing else, unless
it forces a new card. -/
theorem of_writes (h : t.HoldsRemarked path card) (hfinal : card.config.phase = .finalized)
    (hwrites : command.Writes other t t') (hforced : ¬ command.Forced) :
    t'.HoldsRemarked path card := by
  cases hwrites with
  | nothing => exact h
  | created hnew hwrite => exact h.of_writeText_new hwrite (hnew (Bool.eq_false_iff.2 hforced))
  | edited _ hcard hyields hwrite => exact h.of_edited hfinal hcard hyields hwrite
  | copied hnew hwrite => exact h.of_writeText_new hwrite hnew

end HoldsRemarked

end FileTree

/-! ## Runs -/

namespace World

variable {w : World} {path : String} {card : Card} {calls : List Call}

/-- **A run leaves marks on a finalized card**, and nothing else. -/
theorem holdsRemarked_run (h : w.files.HoldsRemarked path card)
    (hfinal : card.config.phase = .finalized) (hforced : ∀ call ∈ calls, ¬ call.command.Forced) :
    (w.run calls).files.HoldsRemarked path card := by
  induction calls generalizing w with
  | nil => exact h
  | cons call calls ih =>
    have hfirst := h.of_writes hfinal (w.writes_after call) (hforced call List.mem_cons_self)
    exact ih hfirst fun later hlater => hforced later (List.mem_cons_of_mem call hlater)

/-- **A finalized card in a file is frozen.** Whatever the files are, when a
file holds a finalized card, it still does so after any calls of the program
that force no new card, whichever card files and generators they are for and
whether they fail or not: with the same configuration and the same goals in
the same cells and in the same order. -/
theorem frozen_of_run (h : w.files.card path = .ok card) (hfinal : card.config.phase = .finalized)
    (hforced : ∀ call ∈ calls, ¬ call.command.Forced) :
    ∃ reached, (w.run calls).files.card path = .ok reached ∧
      reached.config = card.config ∧ reached.layout = card.layout := by
  obtain ⟨marks, hreached⟩ :=
    holdsRemarked_run (FileTree.holdsRemarked_of_card h) hfinal hforced
  exact ⟨_, hreached, rfl, Card.layout_remarked⟩

/-- A file with two goals in one cell, where a marking under another path
is saved before it fails; then a header, a new card and a copy onto the file,
and another file edited in between. -/
theorem frozen_of_run_marked :
    let files : FileTree := { entries := [(["card.json"], .file
        "[[2, \"BI\", \x7b\"enabled\": 0\x7d, \"finalized\"], [[1, \"run\"], [1, \"swim\"]]]".toUTF8),
      (["b.json"], .file "[[2, \"BI\", \"disabled\"], [[3, \"read\"]]]".toUTF8)] }
    let w : World := ⟨files, .ofWords []⟩
    let marking : Call := ⟨{}, "./card.json", .complete ⟨1⟩ false, none⟩
    let calls : List Call := [marking, ⟨{}, "card.json", .header "q", none⟩,
      ⟨{}, "b.json", .swap ⟨0⟩ ⟨3⟩, none⟩, ⟨{}, "card.json", .create none none false false, none⟩,
      ⟨{}, "b.json", .copy "card.json" none false, some (.ofWords [7])⟩]
    let card : Card := ⟨⟨.two, "BI", some ⟨0⟩, .finalized⟩,
      [⟨⟨1⟩, "run", false⟩, ⟨⟨1⟩, "swim", false⟩]⟩
    w.files.card "card.json" = .ok card ∧
      ((marking.settings.execute marking.path marking.command).outcome w).1 =
        .error (.refused (.positionOccupied ⟨1⟩)) ∧
      ∃ reached, (w.run calls).files.card "card.json" = .ok reached ∧
        reached.config = card.config ∧ reached.layout = card.layout := by
  intro files w marking calls card
  have hloaded : w.files.card "card.json" = .ok card := by decide +kernel
  have hforced : ∀ call ∈ calls, ¬ call.command.Forced := by
    simp [calls, marking, Command.Forced]
  exact ⟨hloaded, by decide +kernel, frozen_of_run hloaded rfl hforced⟩

end World

end GoalGrid
