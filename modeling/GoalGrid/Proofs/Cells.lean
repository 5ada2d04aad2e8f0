import GoalGrid.Proofs.Board
/-!
# Cells — what a board shows, and why a card has none

The board of a card shows the card: a cell holds the item that is at its
position (`get?_eq_item_iff`), and it is empty when an item may be there
and none is (`isEmpty_iff`). When a card has no
board, the cause is the fault of the first item that did not fit, and it
names a promise that the card breaks (`blames_of_ofCard`). So laying a
card out and checking its promises come to the same
(`ofCard_agrees_with_verify`).
-/

namespace GoalGrid

theorem Config.admits_iff {config : Config} {p : Position} : config.admits p = true ↔
    config.size.contains p = true ∧ config.isFree p = false := by
  rw [admits, Bool.and_eq_true, Bool.not_eq_true']

/-- The items of a card with a board are where items may be. -/
theorem Card.admits_of_board {card : Card} {item : Item}
    (h : ∃ board, Board.ofCard card = .ok board) (hitem : item ∈ card.items) :
    card.config.admits item.position = true := by
  have hrange := Board.isOk_ofCard_iff.1 h .positionsInRange (by simp)
  have hvacant := Board.isOk_ofCard_iff.1 h .freeVacant (by simp)
  simp only [Invariant.holds, List.all_eq_true, Bool.not_eq_true'] at hrange hvacant
  exact Config.admits_iff.2 ⟨hrange item hitem, hvacant item hitem⟩

/-- A cell that may have an item and has none. -/
def Card.Vacant (card : Card) (p : Position) : Prop :=
  card.config.admits p = true ∧ ∀ item ∈ card.items, item.position ≠ p

namespace Board

variable {board placed : Board} {item : Item} {items : List Item} {p q : Position} {index i : Nat}
variable {cause : CardError} {card : Card} {config : Config}

/-! ## Cells after placing -/

theorem get?_put_of_ne {cell : Cell} (h : q ≠ p) : (board.put p cell).get? q = board.get? q := by
  have hindex : p.index ≠ q.index := fun heq => h (by cases p; cases q; simpa using heq.symm)
  simp only [get?, put]
  exact List.getElem?_set_ne hindex

/-- What is put into an empty cell is there. -/
theorem get?_put_of_isEmpty {cell : Cell} (h : board.isEmpty p = true) :
    (board.put p cell).get? p = some cell := by
  have hlt : p.index < board.cells.length := by
    rw [isEmpty, beq_iff_eq] at h
    exact (List.getElem?_eq_some_iff.1 h).1
  simp only [get?, put]
  exact List.getElem?_set_self hlt

/-- **Placing items leaves every other cell as it was.** -/
theorem get?_of_placeAll_of_forall_ne (h : board.placeAll index items = .ok placed)
    (hq : ∀ item ∈ items, item.position ≠ q) : placed.get? q = board.get? q := by
  induction items generalizing board index with
  | nil =>
    obtain rfl := Except.ok.inj h
    rfl
  | cons item items ih =>
    obtain ⟨first, hfirst, hrest⟩ := placeAll_cons_eq_ok_iff.1 h
    obtain ⟨-, rfl⟩ := place_eq_ok_iff.1 hfirst
    rw [ih hrest fun other hother => hq other (List.mem_cons_of_mem _ hother)]
    exact get?_put_of_ne fun heq => hq item List.mem_cons_self heq.symm

/-- **An item that has been placed is in its cell.** -/
theorem get?_of_placeAll (h : board.placeAll index items = .ok placed)
    (hitem : items[i]? = some item) : placed.get? item.position = some (.item (index + i)) := by
  induction items generalizing board index i with
  | nil => simp at hitem
  | cons first items ih =>
    obtain ⟨next, hnext, hrest⟩ := placeAll_cons_eq_ok_iff.1 h
    obtain ⟨⟨-, -, hempty⟩, rfl⟩ := place_eq_ok_iff.1 hnext
    cases i with
    | zero =>
      obtain rfl : first = item := by simpa using hitem
      -- the items after it find its cell taken, so that none of them is there
      have hothers : ∀ other ∈ items, other.position ≠ first.position := by
        intro other hother
        have hfits := isOk_placeAll_iff.1 ⟨placed, hrest⟩
        exact ((isEmpty_put (by simp)).1 (hfits.empty other hother)).1
      rw [get?_of_placeAll_of_forall_ne hrest hothers]
      exact get?_put_of_isEmpty hempty
    | succ i =>
      have hlater := ih hrest (by simpa using hitem)
      rw [hlater, Nat.add_right_comm, Nat.add_assoc]

/-- A cell is empty after placing items when it was before and none of them
is there. -/
theorem isEmpty_of_placeAll (h : board.placeAll index items = .ok placed) :
    placed.isEmpty q = true ↔ board.isEmpty q = true ∧ ∀ item ∈ items, item.position ≠ q := by
  by_cases hq : ∀ item ∈ items, item.position ≠ q
  · rw [isEmpty, get?_of_placeAll_of_forall_ne h hq, isEmpty]
    exact (and_iff_left hq).symm
  · refine iff_of_false (fun hempty => hq fun item hitem heq => ?_) fun hboth => hq hboth.2
    obtain ⟨i, hi, rfl⟩ := List.mem_iff_getElem.1 hitem
    have hcell := get?_of_placeAll h (List.getElem?_eq_getElem hi)
    rw [heq] at hcell
    simp [isEmpty, hcell] at hempty

/-! ## Cells of a card -/

/-- Without items, FREE is in its cell and every other cell of the grid is
empty. -/
theorem get?_ofConfig : (ofConfig config).get? p =
    if config.size.contains p then some (if config.isFree p then .free else .empty) else none := by
  have hvacant : (vacant config.size).get? p =
      if config.size.contains p then some .empty else none := by
    by_cases hp : p.index < config.size.total <;> simp [get?, vacant, GridSize.contains, hp]
  rw [ofConfig, Config.isFree]
  cases config.free with
  | none => simp [hvacant]
  | some free =>
    by_cases hp : p = free
    · subst hp
      by_cases hrange : config.size.contains p = true
      · have hempty : (vacant config.size).isEmpty p = true := isEmpty_vacant.trans hrange
        simp [get?_put_of_isEmpty hempty, hrange]
      · have hoff : config.size.total ≤ p.index := by simpa [GridSize.contains] using hrange
        simp [get?, put, vacant, hrange, hoff]
    · have hne : ¬ free = p := fun heq => hp heq.symm
      simp [get?_put_of_ne hp, hvacant, hne]

theorem get?_ofConfig_ne_item : (ofConfig config).get? p ≠ some (.item i) := by
  rw [get?_ofConfig]
  split_ifs <;> simp

/-- **A cell holds the item that is at its position.** -/
theorem get?_eq_item_iff (h : ofCard card = .ok board) :
    board.get? p = some (.item i) ↔ ∃ item, card.items[i]? = some item ∧ item.position = p := by
  constructor
  · intro hcell
    by_cases hp : ∀ item ∈ card.items, item.position ≠ p
    · rw [get?_of_placeAll_of_forall_ne h hp] at hcell
      exact absurd hcell get?_ofConfig_ne_item
    · simp only [not_forall, not_not] at hp
      obtain ⟨item, hitem, rfl⟩ := hp
      obtain ⟨j, hj, rfl⟩ := List.mem_iff_getElem.1 hitem
      have hitem := List.getElem?_eq_getElem hj
      have hthere := get?_of_placeAll h hitem
      obtain rfl : j = i := by simpa [hthere] using hcell
      exact ⟨_, hitem, rfl⟩
  · rintro ⟨item, hitem, rfl⟩
    simpa using get?_of_placeAll h hitem

/-- **A cell shows FREE** when it is the FREE cell of the grid. -/
theorem get?_eq_free_iff (h : ofCard card = .ok board) : board.get? p = some .free ↔
    card.config.size.contains p = true ∧ card.config.isFree p = true := by
  by_cases hp : ∀ item ∈ card.items, item.position ≠ p
  · rw [get?_of_placeAll_of_forall_ne h hp, get?_ofConfig]
    split_ifs <;> simp_all
  · -- the cell of an item shows the item, and is not FREE
    simp only [not_forall, not_not] at hp
    obtain ⟨item, hitem, rfl⟩ := hp
    obtain ⟨i, hi⟩ := List.mem_iff_getElem?.1 hitem
    have hcell := (get?_eq_item_iff h).2 ⟨item, hi, rfl⟩
    have hopen := Card.admits_of_board ⟨board, h⟩ hitem
    simp [hcell, (Config.admits_iff.1 hopen).2]

/-- A cell shows no item when none is at its position. -/
theorem forall_get?_ne_item_iff (h : ofCard card = .ok board) :
    (∀ i, board.get? p ≠ some (.item i)) ↔ ∀ item ∈ card.items, item.position ≠ p := by
  constructor
  · intro hcell item hitem hposition
    obtain ⟨i, hi⟩ := List.mem_iff_getElem?.1 hitem
    exact hcell i ((get?_eq_item_iff h).2 ⟨item, hi, hposition⟩)
  · intro hnone i hcell
    obtain ⟨item, hi, hposition⟩ := (get?_eq_item_iff h).1 hcell
    exact hnone item (List.mem_of_getElem? hi) hposition

/-- **A cell is empty** when it may have an item and has none. -/
theorem isEmpty_iff (h : ofCard card = .ok board) : board.isEmpty p = true ↔ card.Vacant p := by
  rw [isEmpty_of_placeAll h, isEmpty_ofConfig, ← Config.admits_iff, Card.Vacant]

theorem mem_emptyPositions_iff (h : ofCard card = .ok board) :
    p ∈ board.emptyPositions ↔ card.Vacant p := by
  rw [emptyPositions, List.mem_filter, GridSize.mem_positions, isEmpty_iff h, size_of_ofCard h]
  exact ⟨And.right, fun hvacant => ⟨(Config.admits_iff.1 hvacant.1).1, hvacant⟩⟩

/-- A board is full when no cell of it is empty. -/
theorem isFull_iff : board.isFull = true ↔ ∀ p, board.isEmpty p = false := by
  simp only [isFull, isEmpty, get?, List.all_eq_true, bne_iff_ne, beq_eq_false_iff_ne]
  constructor
  · exact fun h p hempty => h .empty (List.mem_of_getElem? hempty) rfl
  · rintro h cell hcell rfl
    obtain ⟨i, hi⟩ := List.mem_iff_getElem?.1 hcell
    exact h ⟨i⟩ hi

/-! ## Refusals -/

/-- What keeps an item from being placed. -/
theorem place_eq_error (h : board.place index item = .error cause) :
    (Text.isBlankText item.content = true ∧ cause = .emptyContent) ∨
    (board.size.contains item.position = false ∧
      cause = .positionOutOfRange item.position board.size.total) ∨
    (board.size.contains item.position = true ∧ board.isEmpty item.position = false ∧
      cause = .positionOccupied item.position) := by
  by_cases hblank : Text.isBlankText item.content = true
  · rw [place, Item.checked, if_pos hblank] at h
    exact .inl ⟨hblank, (Except.error.inj h).symm⟩
  · rw [place, Item.checked, if_neg hblank] at h
    by_cases hrange : board.size.contains item.position = true
    · refine .inr (.inr ⟨hrange, ?_⟩)
      by_cases hempty : board.isEmpty item.position = true
      · simp [bind, Except.bind, GridSize.checkPosition, hrange, hempty, pure, Except.pure] at h
      · simp only [bind, Except.bind, GridSize.checkPosition, hrange, hempty, if_true] at h
        exact ⟨by simpa using hempty, (Except.error.inj h).symm⟩
    · simp only [bind, Except.bind, GridSize.checkPosition, hrange] at h
      exact .inr (.inl ⟨by simpa using hrange, (Except.error.inj h).symm⟩)

/-- **Placing items stops at the first that cannot be placed**: the ones
before it are on the board by then. -/
theorem exists_of_placeAll_eq_error (h : board.placeAll index items = .error cause) :
    ∃ before item after placed, items = before ++ item :: after ∧
      board.placeAll index before = .ok placed ∧
      placed.place (index + before.length) item = .error cause := by
  -- every item that is placed changes the board for the rest, so the board is arbitrary
  induction items generalizing board index with
  | nil => cases h
  | cons first items ih =>
    cases hfirst : board.place index first with
    | error fault =>
      rw [placeAll, hfirst] at h
      obtain rfl := Except.error.inj h
      exact ⟨[], first, items, board, rfl, rfl, hfirst⟩
    | ok next =>
      rw [placeAll, hfirst] at h
      obtain ⟨before, item, after, placed, rfl, hplaced, hitem⟩ := ih h
      refine ⟨first :: before, item, after, placed, rfl, ?_, ?_⟩
      · exact placeAll_cons_eq_ok_iff.2 ⟨next, hfirst, hplaced⟩
      · rw [List.length_cons, Nat.add_comm before.length, ← Nat.add_assoc]
        exact hitem

end Board

/-! ## Boards and promises -/

namespace Card

variable {card : Card} {cause : CardError}

/-- The cause names a promise that the card breaks, and the item at fault. -/
inductive Blames (card : Card) : CardError → Prop where
  | blank {item : Item} : item ∈ card.items → Text.isBlankText item.content = true →
      Invariant.contentPresent.holds card = false → card.Blames .emptyContent
  | offGrid {item : Item} : item ∈ card.items → card.config.size.contains item.position = false →
      Invariant.positionsInRange.holds card = false →
      card.Blames (.positionOutOfRange item.position card.config.size.total)
  | onFree {item : Item} : item ∈ card.items → card.config.isFree item.position = true →
      Invariant.freeVacant.holds card = false → card.Blames (.positionOccupied item.position)
  | shared {item other : Item} : [other, item].Sublist card.items →
      other.position = item.position → Invariant.positionsUnique.holds card = false →
      card.Blames (.positionOccupied item.position)

/-- **A card without a board breaks the promise that the cause names.** -/
theorem blames_of_ofCard (h : Board.ofCard card = .error cause) : card.Blames cause := by
  obtain ⟨before, item, after, placed, hitems, hplaced, hitem⟩ :=
    Board.exists_of_placeAll_eq_error h
  have hmem : item ∈ card.items := by simp [hitems]
  have hsize : placed.size = card.config.size := by
    rw [Board.size_of_placeAll hplaced, Board.size_ofConfig]
  rcases Board.place_eq_error hitem with ⟨hblank, rfl⟩ | ⟨hrange, rfl⟩ | ⟨hrange, htaken, rfl⟩
  · refine .blank hmem hblank ?_
    simp only [Invariant.holds, List.all_eq_false, Bool.not_eq_true', Bool.not_eq_false]
    exact ⟨item, hmem, hblank⟩
  · rw [hsize] at hrange ⊢
    refine .offGrid hmem hrange ?_
    simp only [Invariant.holds, List.all_eq_false, Bool.not_eq_true]
    exact ⟨item, hmem, hrange⟩
  · rw [hsize] at hrange
    by_cases hfree : card.config.isFree item.position = true
    · refine .onFree hmem hfree ?_
      simp only [Invariant.holds, List.all_eq_false, Bool.not_eq_true', Bool.not_eq_false]
      exact ⟨item, hmem, hfree⟩
    · -- the cell was empty at the start, so an item that came before is there
      have hstart : (Board.ofConfig card.config).isEmpty item.position = true :=
        Board.isEmpty_ofConfig.2 ⟨hrange, by simpa using hfree⟩
      have hbefore : ¬ ∀ other ∈ before, other.position ≠ item.position := fun hothers =>
        absurd ((Board.isEmpty_of_placeAll hplaced).2 ⟨hstart, hothers⟩) (by simp [htaken])
      simp only [not_forall, not_not] at hbefore
      obtain ⟨other, hother, hsame⟩ := hbefore
      have hpair : [other, item].Sublist card.items := by
        rw [hitems]
        exact (List.singleton_sublist.2 hother).append
          ((List.nil_sublist after).cons_cons item)
      refine .shared hpair hsame ?_
      have htwice : ¬ (card.items.map Item.position).Nodup := by
        intro hnodup
        have hboth := hnodup.sublist (hpair.map Item.position)
        simp [hsame] at hboth
      simpa [Invariant.holds] using htwice

/-- **Laying a card out and checking its promises agree.** A card with FREE
on its grid has a board exactly when the check passes, which is when it
keeps all five promises; the one about capacity follows from the other
four; and when it has no board, the cause names a promise that it breaks. -/
theorem ofCard_agrees_with_verify (hfree : card.config.FreeOnGrid) :
    ((∃ board, Board.ofCard card = .ok board) ↔ ∃ checked, card.verify = .ok checked) ∧
    ((∃ checked, card.verify = .ok checked) ↔
      ∀ promise : Invariant, promise.holds card = true) ∧
    ((∀ promise : Invariant, promise ≠ .withinCapacity → promise.holds card = true) →
      Invariant.withinCapacity.holds card = true) ∧
    ∀ cause, Board.ofCard card = .error cause → card.Blames cause := by
  have hverify : (∃ checked, card.verify = .ok checked) ↔
      ∀ promise : Invariant, promise.holds card = true := by
    simp only [verify_eq_ok_iff, exists_and_left, exists_eq, and_true]
  refine ⟨?_, hverify, fun hfour => ?_, fun cause => blames_of_ofCard⟩
  · rw [hverify]
    constructor
    · exact fun hboard promise => holds_of_ofCard hfree hboard promise
    · exact fun hall => Board.isOk_ofCard_iff.2 fun promise _ => hall promise
  · exact holds_of_ofCard hfree (Board.isOk_ofCard_iff.2 hfour) .withinCapacity

/-- A card with two items in one cell, one of them blank and listed last. -/
theorem ofCard_agrees_with_verify_shared :
    let card : Card := ⟨⟨.two, "BI", some ⟨3⟩, .draft⟩,
      [⟨⟨1⟩, "run", false⟩, ⟨⟨1⟩, "swim", true⟩, ⟨⟨0⟩, " ", false⟩]⟩
    card.config.FreeOnGrid ∧ Board.ofCard card = .error (.positionOccupied ⟨1⟩) ∧
      card.Blames (.positionOccupied ⟨1⟩) ∧ ¬ ∃ checked, card.verify = .ok checked := by
  intro card
  have hfree : card.config.FreeOnGrid := by
    intro p hp
    obtain rfl := Option.some.inj hp
    rfl
  have hboard : Board.ofCard card = .error (.positionOccupied ⟨1⟩) := rfl
  obtain ⟨hagree, -, -, hblames⟩ := ofCard_agrees_with_verify hfree
  refine ⟨hfree, hboard, hblames _ hboard, fun hchecked => ?_⟩
  obtain ⟨board, hok⟩ := hagree.2 hchecked
  rw [hboard] at hok
  cases hok

end Card

end GoalGrid
