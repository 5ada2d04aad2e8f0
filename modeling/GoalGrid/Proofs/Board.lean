import GoalGrid.Card.Board
import GoalGrid.Proofs.Checks
import Mathlib.Data.List.Nodup
/-!
# Boards — laying a card out is checking its items

`Board.ofCard` puts one item after another into its cell and stops at the
first that does not fit. It comes to an end exactly when the items fit
together (`isOk_ofCard_iff`): none is blank, each is on the grid and not
on FREE, and no two share a cell. Then they are no more than the card can
hold (`length_le_capacity`), so that a card with a board keeps every
promise once FREE is on its grid.
-/

namespace GoalGrid

namespace Board

variable {board board' : Board} {item : Item} {items : List Item} {p q : Position} {index : Nat}

/-! ## One item -/

@[simp] theorem size_put {cell : Cell} : (board.put p cell).size = board.size := rfl

/-- A cell with something in it is the only one that is no longer empty. -/
theorem isEmpty_put {cell : Cell} (hcell : cell ≠ .empty) :
    (board.put p cell).isEmpty q = true ↔ q ≠ p ∧ board.isEmpty q = true := by
  simp only [isEmpty, get?, put, beq_iff_eq, List.getElem?_set]
  by_cases h : p = q
  · subst h
    by_cases hlt : p.index < board.cells.length
    · simp [hlt, hcell]
    · simp [hlt]
  · have hne : p.index ≠ q.index := fun he => h (by cases p; cases q; simpa using he)
    simp [hne, Ne.symm h]

/-- **An item is placed** when it is not blank and its cell is an empty one
of the grid. -/
theorem place_eq_ok_iff : board.place index item = .ok board' ↔
    (Text.isBlankText item.content = false ∧ board.size.contains item.position = true ∧
      board.isEmpty item.position = true) ∧
      board' = board.put item.position (.item index) := by
  rw [place, bind_eq_ok_iff]
  simp only [Item.checked_eq_ok_iff]
  constructor
  · rintro ⟨_, ⟨hblank, rfl⟩, h⟩
    rw [check_bind_eq_ok_iff, GridSize.checkPosition_eq_ok_iff] at h
    obtain ⟨hcontains, h⟩ := h
    split at h
    · exact ⟨⟨hblank, hcontains, by assumption⟩, return_eq_ok_iff.1 h⟩
    · cases h
  · rintro ⟨⟨hblank, hcontains, hempty⟩, rfl⟩
    refine ⟨item, ⟨hblank, rfl⟩, ?_⟩
    rw [check_bind_eq_ok_iff, GridSize.checkPosition_eq_ok_iff, if_pos hempty]
    exact ⟨hcontains, rfl⟩

/-! ## All items -/

theorem placeAll_cons_eq_ok_iff : board.placeAll index (item :: items) = .ok board' ↔
    ∃ placed, board.place index item = .ok placed ∧
      placed.placeAll (index + 1) items = .ok board' := by
  rw [placeAll, bind_eq_ok_iff]

/-- Items fit on a board: none is blank, their cells are empty ones of the
grid, and no two share a cell. -/
structure Fits (board : Board) (items : List Item) : Prop where
  notBlank : ∀ item ∈ items, Text.isBlankText item.content = false
  inRange : ∀ item ∈ items, board.size.contains item.position = true
  empty : ∀ item ∈ items, board.isEmpty item.position = true
  distinct : (items.map Item.position).Nodup

theorem fits_cons_iff (index : Nat) : board.Fits (item :: items) ↔
    (Text.isBlankText item.content = false ∧ board.size.contains item.position = true ∧
      board.isEmpty item.position = true) ∧ (board.put item.position (.item index)).Fits items := by
  constructor
  · intro h
    refine ⟨⟨h.notBlank item (by simp), h.inRange item (by simp), h.empty item (by simp)⟩, ?_⟩
    have hdistinct := List.nodup_cons.1 h.distinct
    refine ⟨fun other hmem => h.notBlank other (by simp [hmem]),
      fun other hmem => h.inRange other (by simp [hmem]), fun other hmem => ?_, hdistinct.2⟩
    refine (isEmpty_put (by simp)).2 ⟨fun heq => ?_, h.empty other (by simp [hmem])⟩
    exact hdistinct.1 (heq ▸ List.mem_map_of_mem hmem)
  · rintro ⟨⟨hblank, hcontains, hempty⟩, h⟩
    have hothers := fun other hmem => (isEmpty_put (by simp)).1 (h.empty other hmem)
    refine ⟨?_, ?_, ?_, ?_⟩
    · simpa [hblank] using h.notBlank
    · simpa [hcontains] using h.inRange
    · simpa [hempty] using fun other hmem => (hothers other hmem).2
    · -- the cell of the first item is no longer empty for the others
      refine List.nodup_cons.2 ⟨fun hmem => ?_, h.distinct⟩
      obtain ⟨other, hother, heq⟩ := List.mem_map.1 hmem
      exact (hothers other hother).1 heq

/-- **Items are placed one after another exactly when they fit.** -/
theorem isOk_placeAll_iff : (∃ placed, board.placeAll index items = .ok placed) ↔
    board.Fits items := by
  -- every item that is placed changes the board for the rest, so the board is arbitrary
  induction items generalizing board index with
  | nil => exact ⟨fun _ => ⟨by simp, by simp, by simp, by simp⟩, fun _ => ⟨board, rfl⟩⟩
  | cons item items ih =>
    have hrest (next : Board) := @ih next (index + 1)
    rw [fits_cons_iff index, ← hrest]
    constructor
    · rintro ⟨placed, h⟩
      obtain ⟨first, hfirst, hrest⟩ := placeAll_cons_eq_ok_iff.1 h
      obtain ⟨hitem, rfl⟩ := place_eq_ok_iff.1 hfirst
      exact ⟨hitem, placed, hrest⟩
    · rintro ⟨hitem, placed, hrest⟩
      exact ⟨placed, placeAll_cons_eq_ok_iff.2 ⟨_, place_eq_ok_iff.2 ⟨hitem, rfl⟩, hrest⟩⟩

theorem size_of_placeAll (h : board.placeAll index items = .ok board') :
    board'.size = board.size := by
  induction items generalizing board index with
  | nil =>
    obtain rfl := Except.ok.inj h
    rfl
  | cons item items ih =>
    obtain ⟨first, hfirst, hrest⟩ := placeAll_cons_eq_ok_iff.1 h
    obtain ⟨-, rfl⟩ := place_eq_ok_iff.1 hfirst
    rw [ih hrest, size_put]

/-! ## Cards -/

variable {card : Card} {config : Config}

@[simp] theorem size_ofConfig : (ofConfig config).size = config.size := by
  rw [ofConfig]
  split <;> rfl

theorem size_of_ofCard (h : ofCard card = .ok board) : board.size = card.config.size := by
  rw [size_of_placeAll h, size_ofConfig]

theorem isEmpty_vacant {size : GridSize} : (vacant size).isEmpty p = size.contains p := by
  by_cases h : p.index < size.total <;>
    simp [isEmpty, get?, vacant, GridSize.contains, h]

/-- Without items, every cell of the grid but FREE is empty. -/
theorem isEmpty_ofConfig : (ofConfig config).isEmpty p = true ↔
    config.size.contains p = true ∧ config.isFree p = false := by
  rw [ofConfig, Config.isFree]
  cases config.free with
  | none => simp [isEmpty_vacant]
  | some free =>
    have hother : (some free == some p) = false ↔ p ≠ free := by
      rw [beq_eq_false_iff_ne, ne_eq, Option.some.injEq, eq_comm]
    rw [isEmpty_put (by simp), isEmpty_vacant, hother, and_comm]

/-- **A card has a board exactly when its items fit together**, which four
of its promises say. -/
theorem isOk_ofCard_iff : (∃ board, ofCard card = .ok board) ↔
    ∀ promise : Invariant, promise ≠ .withinCapacity → promise.holds card = true := by
  rw [ofCard, isOk_placeAll_iff]
  constructor
  · rintro ⟨hblank, hrange, hempty, hdistinct⟩ promise hpromise
    cases promise with
    | positionsInRange => simpa [Invariant.holds] using hrange
    | positionsUnique => simpa [Invariant.holds] using hdistinct
    | freeVacant =>
      simpa [Invariant.holds] using fun item hmem => (isEmpty_ofConfig.1 (hempty item hmem)).2
    | withinCapacity => exact absurd rfl hpromise
    | contentPresent => simpa [Invariant.holds] using hblank
  · intro h
    have hrange := h .positionsInRange (by simp)
    have hfree := h .freeVacant (by simp)
    simp only [Invariant.holds, List.all_eq_true, Bool.not_eq_true'] at hrange hfree
    refine ⟨?_, ?_, fun item hmem => isEmpty_ofConfig.2 ⟨hrange item hmem, hfree item hmem⟩, ?_⟩
    · simpa [Invariant.holds] using h .contentPresent (by simp)
    · simpa using hrange
    · simpa [Invariant.holds] using h .positionsUnique (by simp)

end Board

/-! ## Capacity -/

namespace GridSize

theorem mem_positions {size : GridSize} {p : Position} :
    p ∈ size.positions ↔ size.contains p = true := by
  simp only [positions, contains, List.mem_map, List.mem_range, decide_eq_true_eq]
  exact ⟨by rintro ⟨i, hi, rfl⟩; exact hi, fun h => ⟨p.index, h, rfl⟩⟩

theorem nodup_positions {size : GridSize} : size.positions.Nodup :=
  List.nodup_range.map fun _ _ h => by simpa using h

@[simp] theorem length_positions {size : GridSize} : size.positions.length = size.total := by
  simp [positions]

end GridSize

namespace Config

variable {config : Config}

/-- FREE, if there is one, is on the grid. -/
def FreeOnGrid (config : Config) : Prop :=
  ∀ p ∈ config.free, config.size.contains p = true

theorem freeOnGrid_of_free {p : Position} (hfree : config.free = some p)
    (hp : config.size.contains p = true) : config.FreeOnGrid := by
  intro q hq
  obtain rfl := Option.some.inj (hfree.symm.trans hq)
  exact hp

/-- The cells where an item may be, in increasing order. -/
def openPositions (config : Config) : List Position :=
  config.size.positions.filter fun p => !config.isFree p

theorem mem_openPositions {p : Position} :
    p ∈ config.openPositions ↔ config.admits p = true := by
  rw [openPositions, List.mem_filter, GridSize.mem_positions, admits, Bool.and_eq_true]

theorem nodup_openPositions : config.openPositions.Nodup :=
  GridSize.nodup_positions.filter _

/-- **There are as many cells for items as the capacity says.** -/
theorem length_openPositions (h : config.FreeOnGrid) :
    config.openPositions.length = config.capacity := by
  rw [openPositions, capacity, GridSize.capacity, hasFree]
  cases hfree : config.free with
  | none => simp [isFree, hfree]
  | some free =>
    have hmem : free ∈ config.size.positions := GridSize.mem_positions.2 (h free hfree)
    -- the cells that are not FREE are all cells with one erased
    have herase := List.length_erase_of_mem hmem
    rw [GridSize.nodup_positions.erase_eq_filter, GridSize.length_positions] at herase
    have hother : (fun p => !config.isFree p) = (· != free) := by
      funext p
      rw [isFree, hfree, Option.some_beq_some, bne, BEq.comm]
    simpa [hother] using herase

/-- No grid has more than 25 cells. -/
theorem capacity_le (config : Config) : config.capacity ≤ 25 := by
  have htotal : config.size.total ≤ 25 := by
    cases config.size <;> decide
  rw [capacity, GridSize.capacity]
  split
  · exact Nat.le_trans (Nat.sub_le ..) htotal
  · exact htotal

end Config

namespace Card

variable {card : Card}

theorem exists_board_of_holds (h : ∀ promise : Invariant, promise.holds card = true) :
    ∃ board, Board.ofCard card = .ok board :=
  Board.isOk_ofCard_iff.2 fun promise _ => h promise

/-- The items of a card with a board are at different positions. -/
theorem nodup_positions_of_board (h : ∃ board, Board.ofCard card = .ok board) :
    (card.items.map Item.position).Nodup := by
  simpa [Invariant.holds] using Board.isOk_ofCard_iff.1 h .positionsUnique (by simp)

/-- **Items that fit together are no more than the card can hold**: their
cells are different ones, and all of them are open. -/
theorem length_le_capacity (hfree : card.config.FreeOnGrid)
    (h : ∃ board, Board.ofCard card = .ok board) : card.items.length ≤ card.config.capacity := by
  have hholds := Board.isOk_ofCard_iff.1 h
  have hrange := hholds .positionsInRange (by simp)
  have hvacant := hholds .freeVacant (by simp)
  have hdistinct := nodup_positions_of_board h
  simp only [Invariant.holds, List.all_eq_true] at hrange hvacant
  rw [← Config.length_openPositions hfree, ← List.length_map (f := Item.position)]
  refine hdistinct.length_le_of_subset fun p hp => ?_
  obtain ⟨item, hmem, rfl⟩ := List.mem_map.1 hp
  exact List.mem_filter.2 ⟨GridSize.mem_positions.2 (hrange item hmem), hvacant item hmem⟩

/-- **A card with a board keeps every promise.** -/
theorem holds_of_ofCard (hfree : card.config.FreeOnGrid)
    (h : ∃ board, Board.ofCard card = .ok board) (promise : Invariant) :
    promise.holds card = true := by
  by_cases hpromise : promise = .withinCapacity
  · subst hpromise
    simpa [Invariant.holds] using length_le_capacity hfree h
  · exact Board.isOk_ofCard_iff.1 h promise hpromise

end Card

end GoalGrid
