import GoalGrid.Card.Display
import GoalGrid.Proofs.Bingos
import GoalGrid.Proofs.Configurations
/-!
# Fields — where the texts of a table stand

Every line of a table has the same length, whatever is written in it: a text
is cut or filled up to the width of its field (`length_leftField`), and fields
and bars make lines of one length (`length_barLine`, `length_ruleLine`). So
each field has its place in the whole text, between two bars: that of a cell
holds the text of the cell, and the ones of the first line the characters of
the header (`fields_of_display`).
-/

namespace GoalGrid

/-! ## One field -/

section

variable {width start c : Nat} {cs field text : List Char} {fields : List (List Char)}

/-- The text stands in the middle of the field; an odd blank is on its right. -/
def CenteredIn (field text : List Char) : Prop :=
  ∃ left right, field = List.replicate left ' ' ++ text ++ List.replicate right ' ' ∧
    (right = left ∨ right = left + 1)

/-- A field of this width begins at this place of the text, with a blank and a
bar on either side. -/
def FieldAt (text : List Char) (start width : Nat) (field : List Char) : Prop :=
  ∃ before after, text = before ++ ['|', ' '] ++ field ++ [' ', '|'] ++ after ∧
    before.length + 2 = start ∧ field.length = width

theorem FieldAt.append (h : FieldAt text start width field) (before after : List Char) :
    FieldAt (before ++ text ++ after) (before.length + start) width field := by
  obtain ⟨front, back, rfl, rfl, hwidth⟩ := h
  refine ⟨before ++ front, back ++ after, by simp, ?_, hwidth⟩
  rw [List.length_append, Nat.add_assoc]

theorem leftField_eq_rightpad : leftField width cs = (cs.take width).rightpad width ' ' := rfl

theorem length_leftField : (leftField width cs).length = width := by
  rw [leftField_eq_rightpad, List.length_rightpad]
  exact Nat.max_eq_left (List.length_take_le width cs)

theorem length_centerField (h : cs.length ≤ width) : (centerField width cs).length = width := by
  simp only [centerField, List.length_append, List.length_replicate]
  omega

theorem centeredIn_centerField : CenteredIn (centerField width cs) cs :=
  ⟨(width - cs.length) / 2, _, rfl, by omega⟩

/-! ## One line -/

/-- A field with what stands around it, up to the bar behind it. -/
def framed (field : List Char) : List Char :=
  ' ' :: field ++ [' ', '|']

/-- Fields between bars. -/
def barText (fields : List (List Char)) : List Char :=
  '|' :: fields.flatMap framed

/-- The rule below them. -/
def ruleText (side width : Nat) : List Char :=
  '+' :: (List.range side).flatMap fun _ => List.replicate (width + 2) '-' ++ ['+']

theorem barLine_eq : barLine fields = barText fields ++ ['\n'] := rfl

theorem ruleLine_eq {side : Nat} : ruleLine side width = ruleText side width ++ ['\n'] := rfl

theorem length_flatMap_of_forall {α β : Type} {xs : List α} {f : α → List β} {k : Nat}
    (h : ∀ x ∈ xs, (f x).length = k) : (xs.flatMap f).length = xs.length * k := by
  rw [List.length_flatMap, List.map_congr_left h, List.map_const', List.sum_replicate_nat]

/-- Among texts of one length, each has its place. -/
theorem exists_flatMap_range_eq {α : Type} {f : Nat → List α} {n i k : Nat}
    (h : ∀ x, (f x).length = k) (hi : i < n) : ∃ before after,
      (List.range n).flatMap f = before ++ f i ++ after ∧ before.length = i * k := by
  have hlt : i < (List.range n).length := by rwa [List.length_range]
  refine ⟨((List.range n).take i).flatMap f, ((List.range n).drop (i + 1)).flatMap f, ?_, ?_⟩
  · have hdrop := List.drop_eq_getElem_cons hlt
    rw [List.getElem_range] at hdrop
    rw [List.append_assoc, ← List.flatMap_cons, ← hdrop, ← List.flatMap_append,
      List.take_append_drop]
  · rw [length_flatMap_of_forall fun x _ => h x, List.length_take_of_le hlt.le]

theorem length_barText (h : ∀ field ∈ fields, field.length = width) :
    (barText fields).length = 1 + fields.length * (width + 3) := by
  have hframed : ∀ field ∈ fields, (framed field).length = width + 3 := by
    intro field hfield
    simp only [framed, List.length_append, List.length_cons, List.length_nil, h field hfield]
  rw [barText, List.length_cons, length_flatMap_of_forall hframed, Nat.add_comm]

theorem length_ruleText {side : Nat} : (ruleText side width).length = 1 + side * (width + 3) := by
  have hpart : ∀ x ∈ List.range side,
      (List.replicate (width + 2) '-' ++ ['+']).length = width + 3 := by simp
  rw [ruleText, List.length_cons, length_flatMap_of_forall hpart, List.length_range, Nat.add_comm]

theorem length_barLine (h : ∀ field ∈ fields, field.length = width) :
    (barLine fields).length = fields.length * (width + 3) + 2 := by
  rw [barLine_eq, List.length_append, length_barText h, List.length_singleton]
  omega

theorem length_ruleLine {side : Nat} : (ruleLine side width).length = side * (width + 3) + 2 := by
  rw [ruleLine_eq, List.length_append, length_ruleText, List.length_singleton]
  omega

/-- There is a bar at the end of the line, and so before each field. -/
theorem exists_barText_eq_append (fields : List (List Char)) :
    ∃ before, barText fields = before ++ ['|'] := by
  rcases List.eq_nil_or_concat fields with rfl | ⟨fields, last, rfl⟩
  · exact ⟨[], rfl⟩
  · exact ⟨barText fields ++ ' ' :: last ++ [' '], by simp [barText, framed]⟩

theorem barLine_append_cons {before after : List (List Char)} :
    barLine (before ++ field :: after) =
      barText before ++ framed field ++ (after.flatMap framed ++ ['\n']) := by
  simp [barLine_eq, barText]

/-- **The fields of a line stand at equal distances.** -/
theorem fieldAt_barLine (h : ∀ field ∈ fields, field.length = width)
    (hfield : fields[c]? = some field) :
    FieldAt (barLine fields) (2 + c * (width + 3)) width field := by
  obtain ⟨hc, rfl⟩ := List.getElem?_eq_some_iff.1 hfield
  have hbefore : (barText (fields.take c)).length = 1 + c * (width + 3) := by
    rw [length_barText fun field hfield => h field (List.mem_of_mem_take hfield),
      List.length_take_of_le hc.le]
  obtain ⟨before, hbar⟩ := exists_barText_eq_append (fields.take c)
  have hlength : before.length + 2 = 2 + c * (width + 3) := by
    rw [hbar, List.length_append, List.length_singleton] at hbefore
    omega
  refine ⟨before, (fields.drop (c + 1)).flatMap framed ++ ['\n'], ?_, hlength,
    h _ (List.getElem_mem hc)⟩
  calc barLine fields
      = barLine (fields.take c ++ fields[c] :: fields.drop (c + 1)) := by
        rw [← List.drop_eq_getElem_cons hc, List.take_append_drop]
    _ = before ++ ['|'] ++ framed fields[c] ++
          ((fields.drop (c + 1)).flatMap framed ++ ['\n']) := by
        rw [barLine_append_cons, hbar]
    _ = _ := by
        simp [framed]

end

/-! ## The whole table -/

theorem GridSize.contains_positionAt {size : GridSize} {row column : Nat} (hrow : row < size.side)
    (hcolumn : column < size.side) : size.contains (size.positionAt row column) = true := by
  rwa [contains_iff_rowOf_lt, ((positionAt_eq_iff hcolumn).1 rfl).1]

/-- What a card shows in a cell: FREE, or the item in it, behind a box that is
ticked when the item is completed. -/
def Card.textAt (card : Card) (p : Position) : String :=
  if card.config.isFree p then "FREE"
  else
    match card.items.find? (·.position = p) with
    | some item => (if item.completed then "[x]" else "[ ]") ++ " " ++ item.content
    | none => ""

namespace Board

variable {card : Card} {config : Config} {board : Board} {items : List Item} {p : Position}
variable {width cellWidth row : Nat}

/-- The width of the fields, when this one is asked for. -/
def fieldWidth (cellWidth : Nat) : Nat :=
  max cellWidth minWidth

/-- The fields of the first line. -/
def headFields (size : GridSize) (header : String) (width : Nat) : List (List Char) :=
  (List.range size.side).map fun column => centerField width (header.toList[column]?.toList)

/-- The fields of a row. -/
def rowFields (board : Board) (items : List Item) (width row : Nat) : List (List Char) :=
  (List.range board.size.side).map fun column =>
    leftField width (cellText items (board.get? (board.size.positionAt row column)))

/-- A row and the rule below it. -/
def rowLines (board : Board) (items : List Item) (width row : Nat) : List Char :=
  barLine (board.rowFields items width row) ++ ruleLine board.size.side width

theorem toList_display : (board.display config items cellWidth).toList =
    barLine (headFields board.size config.header (fieldWidth cellWidth)) ++
      ruleLine board.size.side (fieldWidth cellWidth) ++
      (List.range board.size.side).flatMap (board.rowLines items (fieldWidth cellWidth)) :=
  String.toList_ofList

/-- **The text of a cell is what the card shows in it.** -/
theorem cellText_of_ofCard (h : ofCard card = .ok board) (hp : card.config.size.contains p = true) :
    cellText card.items (board.get? p) = (card.textAt p).toList := by
  rw [Card.textAt]
  cases hfree : card.config.isFree p with
  | true =>
    rw [(get?_eq_free_iff h).2 ⟨hp, hfree⟩]
    rfl
  | false =>
    cases hfind : card.items.find? (·.position = p) with
    | some item =>
      obtain ⟨i, hi⟩ := List.mem_iff_getElem?.1 (List.mem_of_find?_eq_some hfind)
      have hposition : item.position = p := by simpa using List.find?_some hfind
      rw [(get?_eq_item_iff h).2 ⟨item, hi, hposition⟩, cellText, hi]
      cases hdone : item.completed <;> simp [Item.shown, hdone]
    | none =>
      have hnone : ∀ item ∈ card.items, item.position ≠ p := by
        simpa using hfind
      have hempty : board.isEmpty p = true :=
        (isEmpty_iff h).2 ⟨Config.admits_iff.2 ⟨hp, hfree⟩, hnone⟩
      rw [eq_of_beq hempty]
      rfl

/-! ### Lengths and places -/

theorem length_of_mem_headFields {size : GridSize} {header : String} (hwidth : 1 ≤ width) :
    ∀ field ∈ headFields size header width, field.length = width := by
  intro field hfield
  obtain ⟨column, -, rfl⟩ := List.mem_map.1 hfield
  exact length_centerField (Nat.le_trans Option.length_toList_le hwidth)

theorem length_of_mem_rowFields :
    ∀ field ∈ board.rowFields items width row, field.length = width := by
  intro field hfield
  obtain ⟨column, -, rfl⟩ := List.mem_map.1 hfield
  exact length_leftField

theorem length_headLine {size : GridSize} {header : String} (hwidth : 1 ≤ width) :
    (barLine (headFields size header width)).length = size.side * (width + 3) + 2 := by
  rw [length_barLine (length_of_mem_headFields hwidth), headFields, List.length_map,
    List.length_range]

theorem length_rowLines : (board.rowLines items width row).length =
    2 * (board.size.side * (width + 3) + 2) := by
  rw [rowLines, List.length_append, length_barLine length_of_mem_rowFields, length_ruleLine,
    rowFields, List.length_map, List.length_range, Nat.two_mul]

theorem one_le_fieldWidth : 1 ≤ fieldWidth cellWidth :=
  Nat.le_trans (by decide) (Nat.le_max_right cellWidth minWidth)

/-- Two lines for the header and two for every row. -/
theorem length_display : (board.display config items cellWidth).toList.length =
    (2 * board.size.side + 2) * (board.size.side * (fieldWidth cellWidth + 3) + 2) := by
  rw [toList_display, List.length_append, List.length_append, length_headLine one_le_fieldWidth,
    length_ruleLine, length_flatMap_of_forall fun _ _ => length_rowLines, List.length_range,
    Nat.add_mul, Nat.mul_assoc, Nat.mul_left_comm]
  omega

/-- **The place of a header field**, which is in the first line. -/
theorem fieldAt_display_head {column : Nat} (hcolumn : column < board.size.side) :
    FieldAt (board.display config items cellWidth).toList
      (2 + column * (fieldWidth cellWidth + 3)) (fieldWidth cellWidth)
      (centerField (fieldWidth cellWidth) config.header.toList[column]?.toList) := by
  have hfield : (headFields board.size config.header (fieldWidth cellWidth))[column]? =
      some (centerField (fieldWidth cellWidth) config.header.toList[column]?.toList) := by
    rw [headFields, List.getElem?_map, List.getElem?_range hcolumn, Option.map_some]
  have hline := fieldAt_barLine (length_of_mem_headFields one_le_fieldWidth) hfield
  rw [toList_display, List.append_assoc]
  have hplace := hline.append []
  rw [List.length_nil, Nat.zero_add] at hplace
  exact hplace _

/-- **The place of the field of a cell**: above its line there are the two of
the header, and two for each row above. -/
theorem fieldAt_display_cell {column : Nat} (hrow : row < board.size.side)
    (hcolumn : column < board.size.side) :
    FieldAt (board.display config items cellWidth).toList
      ((2 + 2 * row) * (board.size.side * (fieldWidth cellWidth + 3) + 2) + 2 +
        column * (fieldWidth cellWidth + 3))
      (fieldWidth cellWidth)
      (leftField (fieldWidth cellWidth)
        (cellText items (board.get? (board.size.positionAt row column)))) := by
  have hfield : (board.rowFields items (fieldWidth cellWidth) row)[column]? =
      some (leftField (fieldWidth cellWidth)
        (cellText items (board.get? (board.size.positionAt row column)))) := by
    rw [rowFields, List.getElem?_map, List.getElem?_range hcolumn, Option.map_some]
  have hline := fieldAt_barLine length_of_mem_rowFields hfield
  obtain ⟨above, below, hrows, habove⟩ : ∃ above below,
      (List.range board.size.side).flatMap (board.rowLines items (fieldWidth cellWidth)) =
        above ++ board.rowLines items (fieldWidth cellWidth) row ++ below ∧
      above.length = row * (2 * (board.size.side * (fieldWidth cellWidth + 3) + 2)) :=
    exists_flatMap_range_eq (fun _ => length_rowLines) hrow
  have htext : (board.display config items cellWidth).toList =
      barLine (headFields board.size config.header (fieldWidth cellWidth)) ++
        ruleLine board.size.side (fieldWidth cellWidth) ++ above ++
        barLine (board.rowFields items (fieldWidth cellWidth) row) ++
        (ruleLine board.size.side (fieldWidth cellWidth) ++ below) := by
    rw [toList_display, hrows, rowLines]
    simp only [List.append_assoc]
  have hlength : (barLine (headFields board.size config.header (fieldWidth cellWidth)) ++
      ruleLine board.size.side (fieldWidth cellWidth) ++ above).length =
        (2 + 2 * row) * (board.size.side * (fieldWidth cellWidth + 3) + 2) := by
    rw [List.length_append, List.length_append, length_headLine one_le_fieldWidth,
      length_ruleLine, habove, Nat.add_mul, Nat.mul_assoc 2, Nat.mul_left_comm row]
    omega
  rw [htext, Nat.add_assoc, ← hlength]
  exact hline.append _ _

end Board

/-! ## Cards -/

namespace Card

variable {card : Card} {board : Board}

/-- **The fields of a table have fixed places.** A card with `n` columns that
has a board is shown in `2 n + 2` lines of the same length, and in them are
fields of the width asked for or of the smallest one. In the two lines of a
row, which come after those of the header and of the rows above, the field of
each column holds what the card shows in the cell, cut at the width or filled
up with blanks; in the first line it holds the character of the header that is
for the column, in the middle, and there is a column for every character. A
bar stands on either side of each field, whatever the texts are. -/
theorem fields_of_display (hconfig : card.config.Produced) (hboard : Board.ofCard card = .ok board)
    (cellWidth : Nat) :
    let n := card.config.size.side
    let width := max cellWidth 4
    let line := n * (width + 3) + 2
    let table := (board.display card.config card.items cellWidth).toList
    table.length = (2 * n + 2) * line ∧
      (∀ row < n, ∀ column < n,
        FieldAt table ((2 + 2 * row) * line + 2 + column * (width + 3)) width
          (((card.textAt (card.config.size.positionAt row column)).toList.take width).rightpad
            width ' ')) ∧
      card.config.header.length ≤ n ∧
      ∀ column < n, ∃ field, CenteredIn field card.config.header.toList[column]?.toList ∧
        FieldAt table (2 + column * (width + 3)) width field := by
  intro n width line table
  have hsize : board.size = card.config.size := Board.size_of_ofCard hboard
  have hside : n = board.size.side := congrArg GridSize.side hsize.symm
  refine ⟨?_, fun row hrow column hcolumn => ?_, hconfig.valid.header.fits,
    fun column hcolumn => ⟨centerField width _, centeredIn_centerField, ?_⟩⟩
  · have hlength : table.length = (2 * board.size.side + 2) * (board.size.side * (width + 3) + 2) :=
      Board.length_display
    rwa [← hside] at hlength
  · have hfield : FieldAt table ((2 + 2 * row) * (board.size.side * (width + 3) + 2) + 2 +
        column * (width + 3)) width (leftField width (Board.cellText card.items
          (board.get? (board.size.positionAt row column)))) :=
      Board.fieldAt_display_cell (hrow.trans_eq hside) (hcolumn.trans_eq hside)
    rwa [← hside, hsize, Board.cellText_of_ofCard hboard
      (GridSize.contains_positionAt hrow hcolumn)] at hfield
  · exact Board.fieldAt_display_head (hcolumn.trans_eq hside)

/-- FREE below the only character of the header, and a completed item in the
last cell, whose text is cut within the table and has a line break in it. -/
theorem fields_of_display_cut :
    let card : Card := ⟨⟨.two, "B", some ⟨0⟩, .draft⟩, [⟨⟨3⟩, "é\nlong", true⟩]⟩
    let board : Board := ⟨.two, [.free, .empty, .empty, .item 0]⟩
    let table := (board.display card.config card.items 6).toList
    Board.ofCard card = .ok board ∧ table.length = 6 * 20 ∧
      FieldAt table (2 * 20 + 2) 6 "FREE  ".toList ∧
      FieldAt table (4 * 20 + 2 + 9) 6 "[x] é\n".toList ∧
      ∃ field, CenteredIn field ['B'] ∧ FieldAt table 2 6 field := by
  intro card board table
  have hconfig : Config.ofParts .two " b" (some ⟨0⟩) .draft = .ok card.config := by decide +kernel
  have hboard : Board.ofCard card = .ok board := by decide +kernel
  have hfree : ((card.textAt ⟨0⟩).toList.take 6).rightpad 6 ' ' = "FREE  ".toList := by
    decide +kernel
  have hitem : ((card.textAt ⟨3⟩).toList.take 6).rightpad 6 ' ' = "[x] é\n".toList := by
    decide +kernel
  have hletter : card.config.header.toList[0]?.toList = ['B'] := by decide +kernel
  obtain ⟨hlength, hcells, -, hhead⟩ := fields_of_display (.ofParts hconfig) hboard 6
  exact ⟨hboard, hlength, hfree ▸ hcells 0 (by decide) 0 (by decide),
    hitem ▸ hcells 1 (by decide) 1 (by decide), hletter ▸ hhead 0 (by decide)⟩

end Card

end GoalGrid
