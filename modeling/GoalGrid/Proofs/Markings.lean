import GoalGrid.Proofs.Bingos
import GoalGrid.Proofs.Finality
/-!
# Markings — bingos while goals are reached

Marking an item as completed or not changes one cell among those that count as
complete (`countsAsComplete_completed`, `countsAsComplete_undone`), and the
bingos follow the cells: more of them make more bingos, in the same order
(`bingos_sublist`), and one cell less takes away those through it
(`bingos_eq_filter`). After any number of markings an item counts as its last
mark says, so that nothing else of the run shows in the bingos
(`bingos_follow_last_marks`).
-/

namespace GoalGrid

theorem lastMark_singleton {p q : Position} {done : Bool} :
    lastMark [(p, done)] q = if q = p then some done else none := by
  by_cases h : q = p
  · simp [lastMark, h]
  · simp [lastMark, h, Ne.symm h]

namespace Card

variable {card card' : Card} {marks marks' : List (Position × Bool)} {line : Line} {p q : Position}

/-! ## Complete cells -/

/-- **After marks** an item counts as the last one on its cell says, and as it
did before where there is none. -/
theorem countsAsComplete_remarked : (card.remarked marks).CountsAsComplete q ↔
    card.config.isFree q = true ∨ ∃ item ∈ card.items, item.position = q ∧
      (lastMark marks q).getD item.completed = true := by
  refine or_congr Iff.rfl ⟨?_, ?_⟩
  · rintro ⟨_, hitem, hcompleted, rfl⟩
    obtain ⟨old, hold, rfl⟩ := List.mem_map.1 hitem
    exact ⟨old, hold, rfl, hcompleted⟩
  · rintro ⟨old, hold, rfl, hcompleted⟩
    exact ⟨_, List.mem_map_of_mem hold, hcompleted, rfl⟩

/-- A mark on one cell leaves the others as they are. -/
theorem countsAsComplete_remarked_of_ne {done : Bool} (h : q ≠ p) :
    (card.remarked [(p, done)]).CountsAsComplete q ↔ card.CountsAsComplete q := by
  rw [countsAsComplete_remarked, lastMark_singleton, if_neg h, CountsAsComplete]
  simp only [Option.getD_none, and_comm]

/-- **A goal that is reached** counts as complete, and so does what did before. -/
theorem countsAsComplete_completed (hheld : ∃ item ∈ card.items, item.position = p) :
    (card.remarked [(p, true)]).CountsAsComplete q ↔ q = p ∨ card.CountsAsComplete q := by
  by_cases h : q = p
  · subst h
    obtain ⟨item, hitem, hposition⟩ := hheld
    refine iff_of_true (countsAsComplete_remarked.2 (.inr ⟨item, hitem, hposition, ?_⟩)) (.inl rfl)
    rw [lastMark_singleton, if_pos rfl, Option.getD_some]
  · rw [countsAsComplete_remarked_of_ne h, or_iff_right h]

/-- **A goal that is taken back** no longer counts, and what else did still does. -/
theorem countsAsComplete_undone (hfree : card.config.isFree p = false) :
    (card.remarked [(p, false)]).CountsAsComplete q ↔ q ≠ p ∧ card.CountsAsComplete q := by
  by_cases h : q = p
  · subst h
    rw [countsAsComplete_remarked, lastMark_singleton, if_pos rfl]
    simp [hfree]
  · rw [countsAsComplete_remarked_of_ne h, and_iff_right h]

/-! ## Bingos -/

/-- The flags of a line are set when its cells are on the grid and complete. -/
theorem all_isFlagged_iff : (line.positions card.config.size).all (isFlagged card.completeFlags) ↔
    ∀ p ∈ line.positions card.config.size,
      card.config.size.contains p = true ∧ card.CountsAsComplete p := by
  simp only [List.all_eq_true, isFlagged_completeFlags]

/-- **More complete cells make more bingos**, in the same order. -/
theorem bingos_sublist (hsize : card'.config.size = card.config.size)
    (h : ∀ p, card.CountsAsComplete p → card'.CountsAsComplete p) :
    card.bingos.Sublist card'.bingos := by
  rw [bingos, bingos, hsize]
  refine List.monotone_filter_right _ fun line hline => ?_
  have hcells := all_isFlagged_iff.1 hline
  rw [← hsize] at hcells ⊢
  exact all_isFlagged_iff.2 fun p hp => ⟨(hcells p hp).1, h p (hcells p hp).2⟩

/-- **One complete cell less takes away the bingos through it**, and no other. -/
theorem bingos_eq_filter (hsize : card'.config.size = card.config.size)
    (h : ∀ q, card'.CountsAsComplete q ↔ q ≠ p ∧ card.CountsAsComplete q) :
    card'.bingos = card.bingos.filter fun line => p ∉ line.positions card.config.size := by
  rw [bingos, bingos, List.filter_filter, hsize]
  refine List.filter_congr fun line _ => ?_
  rw [Bool.eq_iff_iff, Bool.and_eq_true, decide_eq_true_iff, ← hsize, all_isFlagged_iff, hsize,
    all_isFlagged_iff]
  simp only [h]
  constructor
  · exact fun hcells => ⟨fun hp => (hcells p hp).2.1 rfl,
      fun q hq => ⟨(hcells q hq).1, (hcells q hq).2.2⟩⟩
  · rintro ⟨hnot, hcells⟩ q hq
    exact ⟨(hcells q hq).1, fun heq => hnot (heq ▸ hq), (hcells q hq).2⟩

/-- A bingo that one complete cell more has made goes through it. -/
theorem mem_positions_of_mem_bingos (hsize : card'.config.size = card.config.size)
    (h : ∀ q, card'.CountsAsComplete q ↔ q = p ∨ card.CountsAsComplete q)
    (hnew : line ∈ card'.bingos) (hnone : line ∉ card.bingos) :
    p ∈ line.positions card.config.size := by
  obtain ⟨hline, hcells⟩ := mem_bingos_iff.1 hnew
  rw [hsize] at hline hcells
  by_contra hnot
  refine hnone (mem_bingos_iff.2 ⟨hline, fun q hq => ?_⟩)
  exact ((h q).1 (hcells q hq)).resolve_left fun heq => hnot (heq ▸ hq)

/-! ## Markings -/

/-- An item that a card has can be marked, which leaves one mark. -/
theorem setCompleted_eq_remarked (hrange : card.config.size.contains p = true)
    (hheld : ∃ item ∈ card.items, item.position = p) (done : Bool) :
    card.setCompleted p done = .ok (card.remarked [(p, done)]) := by
  have hholds : card.holdsAt p = true := by simpa [holdsAt] using hheld
  obtain ⟨marked, hmarked⟩ : ∃ marked, card.setCompleted p done = .ok marked :=
    ⟨_, setCompleted_eq_ok_iff.2 ⟨⟨hrange, hholds⟩, rfl⟩⟩
  rw [hmarked, eq_remarked_of_setCompleted hmarked]

/-- Marks that agree in the last one on each cell leave the same card. -/
theorem remarked_congr (h : ∀ p, lastMark marks p = lastMark marks' p) :
    card.remarked marks = card.remarked marks' := by
  simp only [remarked, h]

end Card

/-- The step marks an item as completed or not. -/
def SessionStep.IsMarking (step : SessionStep) : Prop :=
  ∃ p done, step = .change (.setCompleted p done)

namespace Session

variable {s : Session} {card : Card} {steps : List (Generator × SessionStep)}

/-- **A run of markings** leaves its marks and nothing else, in any phase. -/
theorem card_run_of_markings (hcard : s.card = some card)
    (hsteps : ∀ step ∈ steps, step.2.IsMarking) :
    (s.run steps).card = some (card.remarked (s.marks steps)) := by
  refine card_run_of_leavesMark hcard fun step hstep s card hcard _ => ?_
  obtain ⟨p, done, hmarking⟩ := hsteps step hstep
  rw [hmarking]
  exact card_after_setCompleted p done hcard

end Session

namespace Card

/-- **Bingos come and go with the goals of their cells.** On a card with a
board, in any phase, an item can be marked as completed, and then all bingos
remain, in the same order, and every new one goes through its cell; and it can
be marked as not completed, and then the bingos are those that do not go
through its cell. After a run of markings, refused ones among them, a line is a
bingo when each cell of it is FREE or the cell of an item that the last mark on
it completed, or that was completed at the start and has no mark; so that runs
with the same last marks lead to the same bingos. -/
theorem bingos_follow_last_marks (card : Card) :
    ((∃ board, Board.ofCard card = .ok board) → ∀ p, (∃ item ∈ card.items, item.position = p) →
      (∃ completed, card.setCompleted p true = .ok completed ∧
        card.bingos.Sublist completed.bingos ∧
        ∀ line ∈ completed.bingos, line ∉ card.bingos → p ∈ line.positions card.config.size) ∧
      ∃ undone, card.setCompleted p false = .ok undone ∧
        undone.bingos = card.bingos.filter fun line => p ∉ line.positions card.config.size) ∧
    ∀ (s : Session) (steps : List (Generator × SessionStep)), s.card = some card →
      (∀ step ∈ steps, step.2.IsMarking) →
      ∃ reached, (s.run steps).card = some reached ∧
        (∀ line, line ∈ reached.bingos ↔ line ∈ card.config.size.lines ∧
          ∀ p ∈ line.positions card.config.size, card.config.isFree p = true ∨
            ∃ item ∈ card.items, item.position = p ∧
              (lastMark (s.marks steps) p).getD item.completed = true) ∧
        ∀ (s' : Session) (steps' : List (Generator × SessionStep)), s'.card = some card →
          (∀ step ∈ steps', step.2.IsMarking) →
          (∀ p, lastMark (s'.marks steps') p = lastMark (s.marks steps) p) →
          ∃ reached', (s'.run steps').card = some reached' ∧ reached'.bingos = reached.bingos := by
  refine ⟨fun hboard p hheld => ?_, fun s steps hcard hsteps => ?_⟩
  · obtain ⟨item, hitem, rfl⟩ := hheld
    obtain ⟨hrange, hfree⟩ := Config.admits_iff.1 (admits_of_board hboard hitem)
    have hheld : ∃ other ∈ card.items, other.position = item.position := ⟨item, hitem, rfl⟩
    have hsize (marks) : (card.remarked marks).config.size = card.config.size := rfl
    refine ⟨⟨_, setCompleted_eq_remarked hrange hheld true, ?_, fun line hnew hnone => ?_⟩,
      ⟨_, setCompleted_eq_remarked hrange hheld false, ?_⟩⟩
    · exact bingos_sublist (hsize _) fun q hq => (countsAsComplete_completed hheld).2 (.inr hq)
    · exact mem_positions_of_mem_bingos (hsize _) (fun q => countsAsComplete_completed hheld)
        hnew hnone
    · exact bingos_eq_filter (hsize _) fun q => countsAsComplete_undone hfree
  · refine ⟨_, Session.card_run_of_markings hcard hsteps, fun line => ?_,
      fun s' steps' hcard' hsteps' hlast => ?_⟩
    · simp only [mem_bingos_iff, countsAsComplete_remarked]
      rfl
    · refine ⟨_, Session.card_run_of_markings hcard' hsteps', ?_⟩
      rw [remarked_congr hlast]

/-- Two bingos through FREE: one is made and one is taken back; and a mark that
is taken back, and two that are refused, do not show. -/
theorem bingos_follow_last_marks_crossing :
    let g := Generator.ofWords []
    let card : Card := ⟨⟨.three, "BIN", some ⟨4⟩, .finalized⟩, [⟨⟨5⟩, "run", false⟩,
      ⟨⟨3⟩, "swim", true⟩, ⟨⟨8⟩, "read", true⟩, ⟨⟨0⟩, "cook", true⟩]⟩
    let s : Session := ⟨some card, g⟩
    let steps := [(g, .change (.setCompleted ⟨5⟩ true)), (g, .change (.setCompleted ⟨7⟩ true)),
      (g, .change (.setCompleted ⟨5⟩ false)), (g, .change (.setCompleted ⟨9⟩ true)),
      (g, .change (.setCompleted ⟨5⟩ true))]
    let steps' := [(g, .change (.setCompleted ⟨5⟩ true))]
    card.bingos = [⟨.diagonal, 0⟩] ∧
      (∃ undone, card.setCompleted ⟨8⟩ false = .ok undone ∧ undone.bingos = []) ∧
      s.marks steps = [(⟨5⟩, true), (⟨5⟩, false), (⟨5⟩, true)] ∧
      ∃ reached reached', (s.run steps).card = some reached ∧
        (s.run steps').card = some reached' ∧ reached'.bingos = reached.bingos ∧
        ⟨.row, 1⟩ ∈ reached.bingos := by
  intro g card s steps steps'
  have hbingos : card.bingos = [⟨.diagonal, 0⟩] := by decide
  have hmarks : s.marks steps = [(⟨5⟩, true), (⟨5⟩, false), (⟨5⟩, true)] := by decide +kernel
  have hmarks' : s.marks steps' = [(⟨5⟩, true)] := by decide +kernel
  have hlast (p : Position) : lastMark (s.marks steps') p = lastMark (s.marks steps) p := by
    rw [hmarks, hmarks']
    by_cases h : (⟨5⟩ : Position) = p <;> simp [lastMark, h]
  obtain ⟨hsingle, hrun⟩ := bingos_follow_last_marks card
  obtain ⟨-, undone, hundone, hleft⟩ := hsingle ⟨_, rfl⟩ ⟨8⟩ ⟨⟨⟨8⟩, "read", true⟩, by decide, rfl⟩
  obtain ⟨reached, hreached, hlines, hsame⟩ := hrun s steps rfl
    (by simp [steps, SessionStep.IsMarking])
  obtain ⟨reached', hreached', heq⟩ := hsame s steps' rfl
    (by simp [steps', SessionStep.IsMarking]) hlast
  refine ⟨hbingos, ⟨undone, hundone, ?_⟩, hmarks, reached, reached', hreached, hreached', heq, ?_⟩
  · rw [hleft, hbingos]
    decide
  · rw [hlines, hmarks]
    decide

end Card

end GoalGrid
