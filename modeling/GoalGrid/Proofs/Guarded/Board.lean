import GoalGrid.Proofs.Fields
import GoalGrid.Proofs.Guarded.Edit
import GoalGrid.Proofs.Lockstep
/-!
# Guarded boards — laying out, looking for bingos, drawing

Laying a card out, looking for its bingos and drawing its table, with a guard
at each place of a list that is read or written. With FREE on the grid no guard
stops any of them, whatever the items are: a board has a cell for every
position of its grid (`Board.Whole`), its cells name items of the card that it
is the board of, and the lines stay on the grid (`runsAs_ofCard`, `bingos_eq`,
`display_eq`). With FREE off the grid the first place of all is missing
(`ofCard_faults_iff`).
-/

namespace GoalGrid

/-! ## Boards with a cell for every position -/

namespace Board

variable {board placed : Board} {card : Card} {config : Config} {items : List Item} {p : Position}
variable {cell : Cell} {index : Nat}

/-- The board has a cell for every position of its grid. -/
def Whole (board : Board) : Prop :=
  board.cells.length = board.size.total

theorem Whole.lt_iff (h : board.Whole) :
    p.index < board.cells.length ↔ board.size.contains p = true := by
  rw [h, GridSize.contains_iff]

theorem Whole.put (h : board.Whole) : (board.put p cell).Whole :=
  List.length_set.trans h

theorem whole_vacant (size : GridSize) : (vacant size).Whole :=
  List.length_replicate

theorem whole_ofConfig (config : Config) : (ofConfig config).Whole := by
  rw [ofConfig]
  split
  · exact (whole_vacant _).put
  · exact whole_vacant _

theorem Whole.placeAll (h : board.Whole) (hplaced : board.placeAll index items = .ok placed) :
    placed.Whole := by
  induction items generalizing board index with
  | nil =>
    obtain rfl := Except.ok.inj hplaced
    exact h
  | cons item items ih =>
    obtain ⟨first, hfirst, hrest⟩ := placeAll_cons_eq_ok_iff.1 hplaced
    obtain ⟨-, rfl⟩ := place_eq_ok_iff.1 hfirst
    exact ih h.put hrest

/-- **The board of a card has a cell for every position.** -/
theorem whole_of_ofCard (h : ofCard card = .ok board) : board.Whole :=
  (whole_ofConfig card.config).placeAll h

end Board

namespace Guarded

open Edit (ofExcept_bind)

variable {card : Card} {config : Config} {board : Board} {items : List Item}
variable {index : Nat}

/-! ## Boards -/

/-- The list with another entry at the place of FREE, if there is a FREE cell. -/
def setFree {α : Type} (config : Config) (xs : List α) (x : α) : Guarded (List α) :=
  match config.free with
  | some p => setAt xs p.index x
  | none => pure xs

/-- The board of a configuration without items. -/
def ofConfig (config : Config) : Guarded Board := do
  let cells ← setFree config (Board.vacant config.size).cells .free
  return ⟨config.size, cells⟩

/-- Puts an item into its cell, as the item with this number. -/
def place (board : Board) (index : Nat) (item : Item) : Guarded Board := do
  let item ← Edit.ofExcept item.checked
  Edit.ofExcept (board.size.checkPosition item.position)
  let cell ← entryAt board.cells item.position.index
  if cell = .empty then
    let cells ← setAt board.cells item.position.index (.item index)
    return { board with cells }
  else
    throw (.positionOccupied item.position)

/-- Puts the items into their cells, numbered from `index` on. -/
def placeAll (board : Board) (index : Nat) : List Item → Guarded Board
  | [] => pure board
  | item :: items => do
    let board ← place board index item
    placeAll board (index + 1) items

/-- The board of a card, unless its items do not fit together. -/
def ofCard (card : Card) : Guarded Board := do
  let board ← ofConfig card.config
  placeAll board 0 card.items

/-- FREE on the grid has a place in every list with an entry for each cell. -/
theorem setFree_eq {α : Type} {xs : List α} (hfree : config.FreeOnGrid)
    (hlength : xs.length = config.size.total) (x : α) :
    setFree config xs x = pure (config.free.elim xs fun p => xs.set p.index x) := by
  rw [setFree]
  cases hp : config.free with
  | none => rfl
  | some p =>
    have hlt : p.index < xs.length := by
      rw [hlength]
      exact GridSize.contains_iff.1 (hfree p hp)
    exact setAt_eq hlt

theorem ofConfig_eq (hfree : config.FreeOnGrid) :
    ofConfig config = pure (Board.ofConfig config) := by
  rw [ofConfig, setFree_eq hfree (Board.whole_vacant config.size), pure_bind, Board.ofConfig]
  cases config.free <;> rfl

theorem runsAs_place (hwhole : board.Whole) (item : Item) :
    (place board index item).RunsAs (Edit.ofExcept (board.place index item)) := by
  rw [Board.place, ofExcept_bind]
  refine runsAs_ofEdit.bind fun item _ => ?_
  rw [ofExcept_bind]
  refine runsAs_ofEdit.bind fun _ hrange => ?_
  -- the cell is looked up only after the check, so that it is there
  have hrange := GridSize.checkPosition_eq_ok_iff.1 (Edit.yields_ofExcept.1 hrange)
  have hlt := hwhole.lt_iff.2 hrange
  have hcell := List.getElem?_eq_getElem hlt
  rw [entryAt_eq hcell, pure_bind, Board.isEmpty, Board.get?, hcell, setAt_eq hlt]
  by_cases hempty : board.cells[item.position.index] = .empty
  · rw [if_pos hempty, if_pos (by simp [hempty])]
    exact runsAs_pure
  · rw [if_neg hempty, if_neg (by simp [hempty])]
    exact runsAs_throw

theorem runsAs_placeAll (hwhole : board.Whole) :
    (placeAll board index items).RunsAs (Edit.ofExcept (board.placeAll index items)) := by
  -- every item that is placed changes the board for the rest, so the board is arbitrary
  induction items generalizing board index with
  | nil => exact runsAs_pure
  | cons item items ih =>
    rw [Board.placeAll, ofExcept_bind]
    refine (runsAs_place hwhole item).bind fun first hfirst => ih ?_
    obtain ⟨-, rfl⟩ := Board.place_eq_ok_iff.1 (Edit.yields_ofExcept.1 hfirst)
    exact hwhole.put

/-- **Laying out a card** misses no cell. -/
theorem runsAs_ofCard (hfree : card.config.FreeOnGrid) :
    (ofCard card).RunsAs (Edit.ofExcept (Board.ofCard card)) := by
  rw [ofCard, ofConfig_eq hfree, pure_bind]
  exact runsAs_placeAll (Board.whole_ofConfig card.config)

/-- **FREE off the grid** is the only thing that makes laying out a card miss
a cell. -/
theorem ofCard_faults_iff : (∃ g fault, (ofCard card).outcome g = .error fault) ↔
    ¬ card.config.FreeOnGrid := by
  constructor
  · rintro ⟨g, fault, hfault⟩ hfree
    rw [runsAs_ofCard hfree g] at hfault
    cases hfault
  · intro hoff
    simp only [Config.FreeOnGrid, not_forall] at hoff
    obtain ⟨p, hp, hrange⟩ := hoff
    have hlt : ¬ p.index < (Board.vacant card.config.size).cells.length := fun hlt =>
      hrange ((Board.whole_vacant card.config.size).lt_iff.1 hlt)
    obtain ⟨g⟩ : Nonempty Generator := inferInstance
    refine ⟨g, .noPlace p.index (Board.vacant card.config.size).cells.length, ?_⟩
    simp only [ofCard, ofConfig, setFree, Option.mem_def.1 hp, setAt, if_neg hlt]
    rfl

/-! ## Bingos -/

/-- The lines all of whose flags are set, in their order. -/
def flaggedLines (size : GridSize) (flags : List Bool) : List Line → Guarded (List Line)
  | [] => pure []
  | line :: lines => do
    let flagged ← (line.positions size).allM fun p => entryAt flags p.index
    let lines ← flaggedLines size flags lines
    return if flagged then line :: lines else lines

/-- The lines all of whose cells are complete. Items off the grid are passed
over, which needs no guard. -/
def bingos (card : Card) : Guarded (List Line) := do
  let size := card.config.size
  let flags ← setFree card.config (List.replicate size.total false) true
  let flags := (card.items.filter (·.completed)).foldl
    (fun flags item => setFlag flags item.position) flags
  flaggedLines size flags size.lines

theorem entryAt_flags {flags : List Bool} {p : Position} (h : p.index < flags.length) :
    entryAt flags p.index = pure (isFlagged flags p) := by
  have hflag := List.getElem?_eq_getElem h
  rw [entryAt_eq hflag, isFlagged, hflag]
  simp

/-- Flags for all positions of the grid are enough for its lines. -/
theorem flaggedLines_eq {size : GridSize} {flags : List Bool} {lines : List Line}
    (hlength : flags.length = size.total) (hlines : lines ⊆ size.lines) :
    flaggedLines size flags lines =
      pure (lines.filter fun line => (line.positions size).all (isFlagged flags)) := by
  induction lines with
  | nil => rfl
  | cons line lines ih =>
    obtain ⟨hline, hrest⟩ := List.cons_subset.1 hlines
    have hflags : ∀ p ∈ line.positions size,
        entryAt flags p.index = pure (isFlagged flags p) := by
      intro p hp
      refine entryAt_flags ?_
      rw [hlength, ← GridSize.contains_iff]
      exact ((Line.mem_positions_iff hline).1 hp).1
    rw [flaggedLines, allM_eq hflags, pure_bind, ih hrest, pure_bind, List.filter_cons]

theorem length_foldl_setFlag {flags : List Bool} :
    (items.foldl (fun flags item => setFlag flags item.position) flags).length = flags.length := by
  induction items generalizing flags with
  | nil => rfl
  | cons item items ih => exact ih.trans List.length_set

/-- **Looking for bingos** misses no flag. -/
theorem bingos_eq (hfree : card.config.FreeOnGrid) : bingos card = pure card.bingos := by
  have hlength : card.completeFlags.length = card.config.size.total :=
    length_foldl_setFlag.trans (length_freeFlags card.config)
  have hflags : setFree card.config (List.replicate card.config.size.total false) true =
      pure card.config.freeFlags := by
    rw [setFree_eq hfree List.length_replicate, Config.freeFlags]
    cases card.config.free <;> rfl
  simp only [bingos, hflags, pure_bind]
  exact flaggedLines_eq hlength (List.Subset.refl _)

/-! ## The table -/

/-- The text of a cell. -/
def cellText (items : List Item) : Cell → Guarded (List Char)
  | .free => pure "FREE".toList
  | .item index => do
    let item ← entryAt items index
    return item.shown
  | .empty => pure []

/-- The fields of a row. -/
def rowFields (board : Board) (items : List Item) (width row : Nat) :
    Guarded (List (List Char)) :=
  (List.range board.size.side).mapM fun column => do
    let cell ← entryAt board.cells (board.size.positionAt row column).index
    return leftField width (← cellText items cell)

/-- The table of a board, with fields of the width asked for or the smallest
one. -/
def display (board : Board) (config : Config) (items : List Item) (cellWidth : Nat) :
    Guarded String := do
  let width := Board.fieldWidth cellWidth
  let rule := ruleLine board.size.side width
  let rows ← (List.range board.size.side).mapM fun row => do
    return barLine (← rowFields board items width row) ++ rule
  return String.ofList <|
    barLine (Board.headFields board.size config.header width) ++ rule ++ rows.flatten

theorem cellText_eq {cell : Cell} (h : ∀ i, cell = .item i → i < items.length) :
    cellText items cell = pure (Board.cellText items (some cell)) := by
  cases cell with
  | empty | free => rfl
  | item i =>
    have hitem := List.getElem?_eq_getElem (h i rfl)
    rw [cellText, entryAt_eq hitem, pure_bind, Board.cellText, hitem]
    rfl

/-- A cell of the board of a card that holds an item holds one of its items. -/
theorem lt_length_of_get? {p : Position} (hboard : Board.ofCard card = .ok board)
    (hcell : board.get? p = some (.item index)) : index < card.items.length := by
  obtain ⟨item, hitem, -⟩ := (Board.get?_eq_item_iff hboard).1 hcell
  exact (List.getElem?_eq_some_iff.1 hitem).1

theorem rowFields_eq (hboard : Board.ofCard card = .ok board) (width : Nat) {row : Nat}
    (hrow : row < board.size.side) :
    rowFields board card.items width row = pure (board.rowFields card.items width row) := by
  refine mapM_eq fun column hcolumn => ?_
  have hrange := GridSize.contains_positionAt hrow (List.mem_range.1 hcolumn)
  have hcell := List.getElem?_eq_getElem ((Board.whole_of_ofCard hboard).lt_iff.2 hrange)
  rw [entryAt_eq hcell, pure_bind, Board.get?, hcell, cellText_eq, pure_bind]
  intro i hi
  exact lt_length_of_get? hboard (hcell.trans (congrArg some hi))

/-- **Drawing the board of a card** misses no cell and no item. -/
theorem display_eq (hboard : Board.ofCard card = .ok board) (config : Config) (cellWidth : Nat) :
    display board config card.items cellWidth =
      pure (board.display config card.items cellWidth) := by
  have hrows : ∀ row ∈ List.range board.size.side,
      (do return barLine (← rowFields board card.items (Board.fieldWidth cellWidth) row) ++
        ruleLine board.size.side (Board.fieldWidth cellWidth) : Guarded (List Char)) =
      pure (board.rowLines card.items (Board.fieldWidth cellWidth) row) := by
    intro row hrow
    rw [rowFields_eq hboard _ (List.mem_range.1 hrow), pure_bind]
    rfl
  rw [display, mapM_eq hrows, pure_bind]
  rfl

end Guarded

end GoalGrid
