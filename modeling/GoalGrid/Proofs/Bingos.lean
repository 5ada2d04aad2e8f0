import GoalGrid.Card.Bingo
import GoalGrid.Proofs.Cells
/-!
# Bingos — which lines are complete

The bingos of a card are the lines all of whose cells count as complete, in
the order of the lines (`Card.mem_bingos_iff`): the flags of the cells say
no more than that (`Card.isFlagged_completeFlags`), however many items there
are at a position and wherever it is. A line has one cell for each place
along it, and these are the cells that its row, its column or its diagonal
goes through (`Line.mem_positions_iff`). On a card with a board, the bingos
are the lines that the board shows complete (`Card.bingos_are_complete_lines`).
-/

namespace GoalGrid

/-! ## Rows and columns -/

namespace GridSize

variable {size : GridSize} {p : Position} {row column : Nat}

theorem side_pos (size : GridSize) : 0 < size.side := by
  cases size <;> decide

theorem contains_iff : size.contains p = true ↔ p.index < size.total :=
  decide_eq_true_iff

theorem contains_iff_rowOf_lt : size.contains p = true ↔ size.rowOf p < size.side := by
  rw [contains_iff, total, rowOf, Nat.div_lt_iff_lt_mul size.side_pos]

theorem columnOf_lt (size : GridSize) (p : Position) : size.columnOf p < size.side :=
  Nat.mod_lt _ size.side_pos

/-- **A position is known by its row and its column.** -/
theorem positionAt_eq_iff (h : column < size.side) :
    size.positionAt row column = p ↔ size.rowOf p = row ∧ size.columnOf p = column := by
  constructor
  · rintro rfl
    have hrow : (row * size.side + column) / size.side = row := by
      rw [Nat.mul_comm, Nat.mul_add_div size.side_pos, Nat.div_eq_of_lt h, Nat.add_zero]
    exact ⟨hrow, Nat.mul_add_mod_of_lt h⟩
  · rintro ⟨rfl, rfl⟩
    exact congrArg Position.mk (Nat.div_add_mod' p.index size.side)

theorem nodup_lines (size : GridSize) : size.lines.Nodup := by
  cases size <;> decide

end GridSize

/-! ## The cells of a line -/

namespace Line

variable {size : GridSize} {line : Line} {p : Position} {i : Nat}

/-- The line goes through the cell. Diagonal 0 falls to the right from the
first cell, the other one to the left from the end of the first row. -/
def Through (line : Line) (size : GridSize) (p : Position) : Prop :=
  match line.kind with
  | .row => size.rowOf p = line.index
  | .column => size.columnOf p = line.index
  | .diagonal =>
    if line.index = 0 then size.rowOf p = size.columnOf p
    else size.rowOf p + size.columnOf p + 1 = size.side

/-- The place along the line that a cell on it has. -/
def placeOf (line : Line) (size : GridSize) (p : Position) : Nat :=
  match line.kind with
  | .row => size.columnOf p
  | .column | .diagonal => size.rowOf p

theorem placeOf_lt (h : size.contains p = true) : line.placeOf size p < size.side := by
  have hrow := GridSize.contains_iff_rowOf_lt.1 h
  have hcolumn := size.columnOf_lt p
  rw [placeOf]
  cases line.kind <;> assumption

theorem index_lt (hline : line ∈ size.lines) (hkind : line.kind ≠ .diagonal) :
    line.index < size.side := by
  have hindex := GridSize.mem_lines_iff.1 hline
  obtain ⟨kind, index⟩ := line
  cases kind with
  | row | column => exact hindex
  | diagonal => exact absurd rfl hkind

/-- **A cell has one place along the line**, if the line goes through it. -/
theorem cellAt_eq_iff (hline : line ∈ size.lines) (hi : i < size.side) :
    line.cellAt size i = p ↔
      size.contains p = true ∧ line.Through size p ∧ line.placeOf size p = i := by
  have hindex := index_lt hline
  obtain ⟨kind, index⟩ := line
  rw [GridSize.contains_iff_rowOf_lt]
  cases kind with
  | row =>
    have hindex : index < size.side := hindex nofun
    simp only [cellAt, Through, placeOf, GridSize.positionAt_eq_iff hi]
    omega
  | column =>
    have hindex : index < size.side := hindex nofun
    simp only [cellAt, Through, placeOf, GridSize.positionAt_eq_iff hindex]
    omega
  | diagonal =>
    have hback : size.side - 1 - i < size.side := by omega
    simp only [cellAt, Through, placeOf]
    split_ifs
    · rw [GridSize.positionAt_eq_iff hi]
      omega
    · rw [GridSize.positionAt_eq_iff hback]
      omega

theorem length_positions (line : Line) (size : GridSize) :
    (line.positions size).length = size.side := by
  rw [positions, List.length_map, List.length_range]

/-- **The cells of a line are those on the grid that it goes through.** -/
theorem mem_positions_iff (hline : line ∈ size.lines) :
    p ∈ line.positions size ↔ size.contains p = true ∧ line.Through size p := by
  rw [positions, List.mem_map]
  constructor
  · rintro ⟨i, hi, hcell⟩
    obtain ⟨hrange, hthrough, -⟩ := (cellAt_eq_iff hline (List.mem_range.1 hi)).1 hcell
    exact ⟨hrange, hthrough⟩
  · rintro ⟨hrange, hthrough⟩
    have hplace : line.placeOf size p < size.side := placeOf_lt hrange
    exact ⟨_, List.mem_range.2 hplace, (cellAt_eq_iff hline hplace).2 ⟨hrange, hthrough, rfl⟩⟩

theorem nodup_positions (hline : line ∈ size.lines) : (line.positions size).Nodup := by
  refine List.Nodup.map_on (fun i hi j hj heq => ?_) List.nodup_range
  obtain ⟨-, -, hplace⟩ := (cellAt_eq_iff hline (List.mem_range.1 hi)).1 rfl
  obtain ⟨-, -, hsame⟩ := (cellAt_eq_iff hline (List.mem_range.1 hj)).1 heq.symm
  exact hplace.symm.trans hsame

end Line

/-! ## Flags -/

section Flags

variable {flags : List Bool} {config : Config} {items : List Item} {p q : Position}

theorem isFlagged_replicate (n : Nat) : isFlagged (List.replicate n false) q = false := by
  by_cases h : q.index < n <;> simp [isFlagged, h]

theorem isFlagged_setFlag : isFlagged (setFlag flags p) q = true ↔
    isFlagged flags q = true ∨ q.index < flags.length ∧ p = q := by
  by_cases h : p = q
  · subst h
    by_cases hlt : p.index < flags.length <;> simp [isFlagged, setFlag, hlt]
  · have hindex : p.index ≠ q.index := fun heq => h (congrArg Position.mk heq)
    simp [isFlagged, setFlag, List.getElem?_set_ne hindex, h]

/-- **Going through the items flags their cells**, each once or more. -/
theorem isFlagged_foldl_setFlag :
    isFlagged (items.foldl (fun flags item => setFlag flags item.position) flags) q = true ↔
      isFlagged flags q = true ∨ q.index < flags.length ∧ ∃ item ∈ items, item.position = q := by
  induction items generalizing flags with
  | nil => simp
  | cons item items ih =>
    rw [List.foldl_cons, ih, isFlagged_setFlag, setFlag, List.length_set, or_assoc,
      ← and_or_left]
    simp only [List.mem_cons, exists_eq_or_imp]

theorem length_freeFlags (config : Config) : config.freeFlags.length = config.size.total := by
  rw [Config.freeFlags]
  split <;> simp [setFlag]

theorem isFlagged_freeFlags : isFlagged config.freeFlags p = true ↔
    config.size.contains p = true ∧ config.isFree p = true := by
  rw [Config.freeFlags, Config.isFree, GridSize.contains_iff, beq_iff_eq]
  split
  · rename_i free hfree
    rw [isFlagged_setFlag, isFlagged_replicate, List.length_replicate, hfree, Option.some.injEq]
    simp
  · rename_i hnone
    simp [isFlagged_replicate, hnone]

end Flags

/-! ## Complete cells -/

/-- The cell is FREE, or the position of a completed item. -/
def Card.CountsAsComplete (card : Card) (p : Position) : Prop :=
  card.config.isFree p = true ∨ ∃ item ∈ card.items, item.completed = true ∧ item.position = p

/-- The board shows FREE in the cell, or a completed one of the items. -/
def Board.ShowsComplete (board : Board) (items : List Item) (p : Position) : Prop :=
  board.get? p = some .free ∨
    ∃ i item, board.get? p = some (.item i) ∧ items[i]? = some item ∧ item.completed = true

/-- **The board of a card shows which cells count as complete.** -/
theorem Board.showsComplete_iff {card : Card} {board : Board} {p : Position}
    (h : Board.ofCard card = .ok board) (hrange : card.config.size.contains p = true) :
    board.ShowsComplete card.items p ↔ card.CountsAsComplete p := by
  refine or_congr ((Board.get?_eq_free_iff h).trans (and_iff_right hrange)) ?_
  simp only [Board.get?_eq_item_iff h]
  constructor
  · rintro ⟨i, item, ⟨other, hother, rfl⟩, hitem, hcompleted⟩
    obtain rfl := Option.some.inj (hother.symm.trans hitem)
    exact ⟨other, List.mem_of_getElem? hother, hcompleted, rfl⟩
  · rintro ⟨item, hitem, hcompleted, rfl⟩
    obtain ⟨i, hi⟩ := List.mem_iff_getElem?.1 hitem
    exact ⟨i, item, ⟨item, hi, rfl⟩, hi, hcompleted⟩

/-! ## Bingos -/

namespace Card

variable {card : Card} {board : Board} {line : Line} {p : Position}

/-- **The flags say which cells of the grid count as complete.** -/
theorem isFlagged_completeFlags : isFlagged card.completeFlags p = true ↔
    card.config.size.contains p = true ∧ card.CountsAsComplete p := by
  rw [completeFlags, isFlagged_foldl_setFlag, isFlagged_freeFlags, length_freeFlags,
    ← GridSize.contains_iff, ← and_or_left, CountsAsComplete]
  simp only [List.mem_filter, and_assoc]

/-- **A bingo is a line all of whose cells count as complete.** -/
theorem mem_bingos_iff : line ∈ card.bingos ↔ line ∈ card.config.size.lines ∧
    ∀ p ∈ line.positions card.config.size, card.CountsAsComplete p := by
  rw [bingos, List.mem_filter, List.all_eq_true]
  refine and_congr_right fun hline => forall₂_congr fun p hp => ?_
  rw [isFlagged_completeFlags]
  exact and_iff_right ((Line.mem_positions_iff hline).1 hp).1

/-- **A bingo is a line that the board shows complete.** -/
theorem mem_bingos_iff_of_ofCard (h : Board.ofCard card = .ok board) :
    line ∈ card.bingos ↔ line ∈ card.config.size.lines ∧
      ∀ p ∈ line.positions card.config.size, board.ShowsComplete card.items p := by
  rw [mem_bingos_iff]
  refine and_congr_right fun hline => forall₂_congr fun p hp => ?_
  exact (Board.showsComplete_iff h ((Line.mem_positions_iff hline).1 hp).1).symm

/-- **Bingos are the complete lines.** Whatever the items of a card are, its
bingos are lines of the grid in their order, none of them twice, and among
these lines those all of whose cells are FREE or the position of a completed
item. The cells of a line are as many as the grid has rows, all different,
and those on the grid that the line goes through. When the card has a board,
a line is a bingo exactly when each cell of it shows FREE or a completed item
there. -/
theorem bingos_are_complete_lines (card : Card) :
    card.bingos.Sublist card.config.size.lines ∧ card.bingos.Nodup ∧
    (∀ line, line ∈ card.bingos ↔ line ∈ card.config.size.lines ∧
      ∀ p ∈ line.positions card.config.size, card.CountsAsComplete p) ∧
    (∀ line ∈ card.config.size.lines,
      (line.positions card.config.size).length = card.config.size.side ∧
      (line.positions card.config.size).Nodup ∧
      ∀ p, p ∈ line.positions card.config.size ↔
        card.config.size.contains p = true ∧ line.Through card.config.size p) ∧
    ∀ board, Board.ofCard card = .ok board → ∀ line, line ∈ card.bingos ↔
      line ∈ card.config.size.lines ∧
        ∀ p ∈ line.positions card.config.size, board.ShowsComplete card.items p := by
  have hsublist : card.bingos.Sublist card.config.size.lines := List.filter_sublist
  refine ⟨hsublist, card.config.size.nodup_lines.sublist hsublist, fun line => mem_bingos_iff,
    fun line hline => ?_, fun board hboard line => mem_bingos_iff_of_ofCard hboard⟩
  exact ⟨line.length_positions _, Line.nodup_positions hline, fun p => Line.mem_positions_iff hline⟩

/-- A row with FREE in it is a bingo, and one with a goal not yet reached is
none. -/
theorem bingos_are_complete_lines_row :
    let card : Card := ⟨⟨.three, "BIN", some ⟨4⟩, .finalized⟩, [⟨⟨5⟩, "run", true⟩,
      ⟨⟨0⟩, "swim", false⟩, ⟨⟨3⟩, "read", true⟩, ⟨⟨1⟩, "cook", true⟩, ⟨⟨2⟩, "sing", true⟩]⟩
    card.bingos = [⟨.row, 1⟩] ∧ ∃ board, Board.ofCard card = .ok board ∧
      (∀ p ∈ Line.positions ⟨.row, 1⟩ .three, board.ShowsComplete card.items p) ∧
      ¬ ∀ p ∈ Line.positions ⟨.row, 0⟩ .three, board.ShowsComplete card.items p := by
  intro card
  have hbingos : card.bingos = [⟨.row, 1⟩] := by decide
  obtain ⟨board, hboard⟩ : ∃ board, Board.ofCard card = .ok board := ⟨_, rfl⟩
  obtain ⟨-, -, -, -, hshown⟩ := bingos_are_complete_lines card
  refine ⟨hbingos, board, hboard, ?_, fun hrow => ?_⟩
  · have hmem : ⟨.row, 1⟩ ∈ card.bingos := by rw [hbingos, List.mem_singleton]
    exact ((hshown board hboard _).1 hmem).2
  · have hmem : ⟨.row, 0⟩ ∈ card.bingos := (hshown board hboard _).2 ⟨by decide, hrow⟩
    rw [hbingos] at hmem
    exact absurd hmem (by decide)

/-- One completed item at a position is enough, and one off the grid does
nothing. -/
example : Card.bingos ⟨⟨.two, "BI", some ⟨3⟩, .draft⟩,
    [⟨⟨1⟩, "run", false⟩, ⟨⟨4⟩, "swim", true⟩, ⟨⟨1⟩, "read", true⟩]⟩ = [⟨.column, 1⟩] := by
  decide

end Card

end GoalGrid
