import GoalGrid.Proofs.Fields
import GoalGrid.Proofs.Runs
/-!
# Tables — when the lines of a table are its lines

A table is written as lines of one length, each with a line break behind it.
Splitting it at its line breaks gives these lines back exactly when there is no
line break within one (`isTable_iff`), and there can only be one in what the
card shows: in its header, or in the text of a cell as far as the field goes.
Texts are trimmed at their ends and are otherwise free, so a session can make a
card with such a text (`goal_breaks_table`); every other card is a table
(`Session.isTable_unless_line_break`).
-/

namespace GoalGrid

/-! ## Lines -/

section

variable {lines fields : List (List Char)} {cs : List Char} {width length : Nat}

/-- The text is split at its line breaks into this many lines, all of this
length, and there is nothing behind the last line break. -/
def IsTable (text : List Char) (count length : Nat) : Prop :=
  ∃ lines, text.splitOn '\n' = lines ++ [[]] ∧ lines.length = count ∧
    ∀ line ∈ lines, line.length = length

theorem splitOn_flatMap_lines :
    (lines.flatMap (· ++ ['\n'])).splitOn '\n' = lines.flatMap (·.splitOn '\n') ++ [[]] := by
  induction lines with
  | nil => rfl
  | cons line lines ih =>
    rw [List.flatMap_cons, List.append_assoc, List.singleton_append, List.splitOn_append_cons_self,
      ih, List.flatMap_cons, List.append_assoc]

/-- **Lines of one length are a table** exactly when none of them is broken: a
broken one would give a line that is shorter. -/
theorem isTable_iff (h : ∀ line ∈ lines, line.length = length) :
    IsTable (lines.flatMap (· ++ ['\n'])) lines.length length ↔ ∀ line ∈ lines, '\n' ∉ line := by
  rw [IsTable, splitOn_flatMap_lines]
  constructor
  · rintro ⟨parts, hparts, -, hlength⟩ line hline hbreak
    obtain rfl := List.append_cancel_right hparts
    obtain ⟨before, after, rfl, hbefore⟩ := List.eq_append_cons_of_mem hbreak
    have hpart : before ∈ lines.flatMap (·.splitOn '\n') := by
      refine List.mem_flatMap.2 ⟨_, hline, ?_⟩
      rw [List.splitOn_append_cons_self_of_not_mem hbefore]
      exact List.mem_cons_self
    have hshort := hlength before hpart
    have hwhole := h _ hline
    rw [List.length_append, List.length_cons] at hwhole
    omega
  · intro hwhole
    have hsame : lines.flatMap (·.splitOn '\n') = lines := by
      rw [List.flatMap_congr fun line hline => List.splitOn_eq_singleton (hwhole line hline)]
      exact List.flatMap_singleton' lines
    exact ⟨lines, by rw [hsame], rfl, h⟩

/-! ## Line breaks in fields -/

theorem mem_leftField : '\n' ∈ leftField width cs ↔ '\n' ∈ cs.take width := by
  simp [leftField]

theorem mem_centerField : '\n' ∈ centerField width cs ↔ '\n' ∈ cs := by
  simp [centerField]

theorem mem_barText : '\n' ∈ barText fields ↔ ∃ field ∈ fields, '\n' ∈ field := by
  simp [barText, framed]

theorem not_mem_ruleText {side : Nat} : '\n' ∉ ruleText side width := by
  simp [ruleText]

end

/-! ## Cards -/

/-- No line break is among the characters that the card shows in fields of this
width. -/
structure Card.ShowsNoLineBreak (card : Card) (width : Nat) : Prop where
  header : '\n' ∉ card.config.header.toList
  cells : ∀ p, card.config.size.contains p = true → '\n' ∉ (card.textAt p).toList.take width

namespace Board

variable {card : Card} {config : Config} {board : Board} {items : List Item} {cellWidth width : Nat}

/-- A row and the rule below it, without their line breaks. -/
def rowTexts (board : Board) (items : List Item) (width row : Nat) : List (List Char) :=
  [barText (board.rowFields items width row), ruleText board.size.side width]

/-- The lines of a table. -/
def tableLines (board : Board) (header : String) (items : List Item) (width : Nat) :
    List (List Char) :=
  barText (headFields board.size header width) :: ruleText board.size.side width ::
    (List.range board.size.side).flatMap (board.rowTexts items width)

theorem toList_display_eq_lines : (board.display config items cellWidth).toList =
    (board.tableLines config.header items (fieldWidth cellWidth)).flatMap (· ++ ['\n']) := by
  have hrow : ∀ row, board.rowLines items (fieldWidth cellWidth) row =
      (board.rowTexts items (fieldWidth cellWidth) row).flatMap (· ++ ['\n']) := by
    intro row
    simp [rowLines, rowTexts, barLine_eq, ruleLine_eq]
  rw [toList_display, tableLines, List.flatMap_cons, List.flatMap_cons, List.flatMap_assoc,
    List.append_assoc, funext hrow]
  rfl

theorem length_tableLines {header : String} :
    (board.tableLines header items width).length = 2 * board.size.side + 2 := by
  have hrow : ∀ row ∈ List.range board.size.side, (board.rowTexts items width row).length = 2 :=
    fun _ _ => rfl
  rw [tableLines, List.length_cons, List.length_cons, length_flatMap_of_forall hrow,
    List.length_range, Nat.mul_comm]

/-- Whatever holds of the first line, of the rule and of every row holds of
every line. -/
theorem forall_mem_tableLines {P : List Char → Prop} {header : String} :
    (∀ line ∈ board.tableLines header items width, P line) ↔
      P (barText (headFields board.size header width)) ∧ P (ruleText board.size.side width) ∧
        ∀ row < board.size.side, P (barText (board.rowFields items width row)) := by
  simp only [tableLines, rowTexts, List.forall_mem_cons, List.forall_mem_flatMap, List.mem_range,
    List.not_mem_nil, false_imp_iff, implies_true, and_true]
  refine and_congr_right fun _ => and_congr_right fun hrule => ?_
  exact forall₂_congr fun _ _ => and_iff_left hrule

theorem length_of_mem_tableLines {header : String} (hwidth : 1 ≤ width) :
    ∀ line ∈ board.tableLines header items width,
      line.length = 1 + board.size.side * (width + 3) := by
  refine forall_mem_tableLines.2 ⟨?_, length_ruleText, fun row _ => ?_⟩
  · rw [length_barText (length_of_mem_headFields hwidth), headFields, List.length_map,
      List.length_range]
  · rw [length_barText length_of_mem_rowFields, rowFields, List.length_map, List.length_range]

theorem mem_barText_headFields {size : GridSize} {header : String}
    (h : header.length ≤ size.side) :
    '\n' ∈ barText (headFields size header width) ↔ '\n' ∈ header.toList := by
  simp only [mem_barText, headFields, List.mem_map, List.mem_range, exists_exists_and_eq_and,
    mem_centerField, Option.mem_toList]
  rw [List.mem_iff_getElem?]
  refine exists_congr fun column => and_iff_right_of_imp fun hchar => ?_
  obtain ⟨hlt, -⟩ := List.getElem?_eq_some_iff.1 hchar
  exact Nat.lt_of_lt_of_le hlt (String.length_toList ▸ h)

theorem mem_barText_rowFields {row : Nat} : '\n' ∈ barText (board.rowFields items width row) ↔
    ∃ column < board.size.side,
      '\n' ∈ (cellText items (board.get? (board.size.positionAt row column))).take width := by
  simp only [mem_barText, rowFields, List.mem_map, List.mem_range, exists_exists_and_eq_and,
    mem_leftField]

/-- **A card is shown as a table** when it shows no line break, and only then. -/
theorem isTable_display_iff (hheader : card.config.header.length ≤ card.config.size.side)
    (hboard : ofCard card = .ok board) :
    IsTable (board.display card.config card.items cellWidth).toList
      (2 * card.config.size.side + 2) (1 + card.config.size.side * (fieldWidth cellWidth + 3)) ↔
      card.ShowsNoLineBreak (fieldWidth cellWidth) := by
  have hsize : board.size = card.config.size := size_of_ofCard hboard
  rw [toList_display_eq_lines, ← hsize, ← length_tableLines,
    isTable_iff (length_of_mem_tableLines one_le_fieldWidth), forall_mem_tableLines,
    mem_barText_headFields (hsize ▸ hheader), hsize]
  simp only [mem_barText_rowFields, hsize, not_exists, not_and]
  constructor
  · rintro ⟨hletters, -, hcells⟩
    refine ⟨hletters, fun p hp => ?_⟩
    have hcolumn := card.config.size.columnOf_lt p
    have hcell := hcells _ (GridSize.contains_iff_rowOf_lt.1 hp) _ hcolumn
    rwa [(GridSize.positionAt_eq_iff hcolumn).2 ⟨rfl, rfl⟩, cellText_of_ofCard hboard hp] at hcell
  · rintro ⟨hletters, hcells⟩
    refine ⟨hletters, not_mem_ruleText, fun row hrow column hcolumn => ?_⟩
    have hcontains := GridSize.contains_positionAt hrow hcolumn
    rw [cellText_of_ofCard hboard hcontains]
    exact hcells _ hcontains

end Board

/-! ## Sessions -/

namespace Session

variable {s s' : Session} {card : Card}

/-- **When the table of a card is a table.** Whatever the steps of a session
are, the card that it comes to has a board, and that is shown as `2 n + 2` lines
of one length, for `n` columns, and nothing behind them: unless there is a line
break in the header, or in the text of a cell before the field ends. Then the
lines that the text is split into are others. -/
theorem isTable_unless_line_break {size : GridSize} {header : Option String}
    {hasFree : Option Bool} (h : s.create size header hasFree = (.ok card, s'))
    (steps : List (Generator × SessionStep)) (cellWidth : Nat) :
    ∃ reached board, (s'.run steps).card = some reached ∧ Board.ofCard reached = .ok board ∧
      (IsTable (board.display reached.config reached.items cellWidth).toList
        (2 * reached.config.size.side + 2)
        (1 + reached.config.size.side * (max cellWidth 4 + 3)) ↔
        reached.ShowsNoLineBreak (max cellWidth 4)) := by
  obtain ⟨hcard, hsound, -⟩ := sound_of_create h
  obtain ⟨reached, hreached, hsound⟩ := forall_card_run (P := Card.Sound)
    (fun hsound hstep => hstep.sound hsound) (fun _ hcopy => Card.sound_of_yields_copy hcopy)
    steps hcard hsound
  obtain ⟨board, hboard⟩ := (Card.sound_iff hsound.config).1 hsound
  exact ⟨reached, board, hreached, hboard,
    Board.isTable_display_iff hsound.config.header.fits hboard⟩

/-- A goal with a line break that the field has no room for, in a card that is
shown as a table. -/
theorem isTable_unless_line_break_cut :
    let g := Generator.ofWords []
    let s := (Session.create ⟨none, g⟩ .two (some "é") (some false)).2
    let steps := [(g, .change (.add "run\nfar" (some ⟨3⟩)))]
    let reached : Card := ⟨⟨.two, "É", none, .draft⟩, [⟨⟨3⟩, "run\nfar", false⟩]⟩
    let board : Board := ⟨.two, [.empty, .empty, .empty, .item 0]⟩
    (s.run steps).card = some reached ∧ Board.ofCard reached = .ok board ∧
      IsTable (board.display reached.config reached.items 7).toList 6 21 := by
  intro g s steps reached board
  have hcreate : Session.create ⟨none, g⟩ .two (some "é") (some false) =
      (.ok { config := ⟨.two, "É", none, .draft⟩ }, s) := rfl
  have hrun : (s.run steps).card = some reached := by decide +kernel
  have hboard : Board.ofCard reached = .ok board := by decide +kernel
  have htexts : ∀ i < 4, '\n' ∉ (reached.textAt ⟨i⟩).toList.take 7 := by decide +kernel
  have hshows : reached.ShowsNoLineBreak 7 :=
    ⟨by decide +kernel, fun p hp => htexts p.index (GridSize.contains_iff.1 hp)⟩
  obtain ⟨card, laid, hcard, hlaid, htable⟩ := isTable_unless_line_break hcreate steps 7
  obtain rfl := Option.some.inj (hcard.symm.trans hrun)
  obtain rfl := Except.ok.inj (hlaid.symm.trans hboard)
  exact ⟨hrun, hboard, htable.2 hshows⟩

/-- **A goal that breaks the table.** The goal is accepted, the line break in it
is shown, and the card comes out in seven lines, two of them too short. -/
theorem goal_breaks_table :
    let g := Generator.ofWords []
    let s := (Session.create ⟨none, g⟩ .two none (some false)).2
    let steps := [(g, .change (.add "a\nb" (some ⟨0⟩)))]
    ∃ reached board, (s.run steps).card = some reached ∧ Board.ofCard reached = .ok board ∧
      ¬ IsTable (board.display reached.config reached.items 6).toList 6 19 := by
  intro g s steps
  let reached : Card := ⟨⟨.two, "BI", none, .draft⟩, [⟨⟨0⟩, "a\nb", false⟩]⟩
  let board : Board := ⟨.two, [.item 0, .empty, .empty, .empty]⟩
  refine ⟨reached, board, by decide +kernel, by decide +kernel, ?_⟩
  rintro ⟨lines, hlines, hcount, -⟩
  have hparts :
      ((board.display reached.config reached.items 6).toList.splitOn '\n').length = 8 := by
    decide +kernel
  rw [hlines, List.length_append, hcount] at hparts
  exact absurd hparts (by decide)

end Session

end GoalGrid
