import GoalGrid.Proofs.Layouts
/-!
# Vacancies — how many cells are empty

The open cells of a card, those where an item may be, are the empty cells of
its board and the cells of its items (`emptyPositions_append_perm`). So there
are as many vacancies as items are missing from the capacity
(`length_emptyPositions`), and a card has a vacant cell exactly when it can
hold another item (`exists_vacant_iff`). The board is full when no item is
missing (`isFull_iff_length`), and that is when a draft can be finalized
(`board_counts_exactly`).
-/

namespace GoalGrid

theorem Board.nodup_emptyPositions {board : Board} : board.emptyPositions.Nodup :=
  GridSize.nodup_positions.filter _

/-- The empty cells are listed row by row, as all cells are. -/
theorem Board.pairwise_emptyPositions (board : Board) :
    board.emptyPositions.Pairwise fun p q => p.index < q.index := by
  have hall : board.size.positions.Pairwise fun p q => p.index < q.index :=
    List.pairwise_map.2 List.pairwise_lt_range
  exact hall.filter _

namespace Card

variable {card : Card} {board : Board}

/-- **Every open cell is empty or the cell of an item**, and no cell is both. -/
theorem emptyPositions_append_perm (hfree : card.config.FreeOnGrid)
    (hboard : Board.ofCard card = .ok board) :
    (board.emptyPositions ++ card.items.map Item.position).Perm card.config.openPositions := by
  have hkept := kept_of_ofCard hfree hboard
  have hnodup : (board.emptyPositions ++ card.items.map Item.position).Nodup := by
    refine List.nodup_append.2 ⟨Board.nodup_emptyPositions, hkept.distinct, ?_⟩
    rintro p hempty _ hitem rfl
    obtain ⟨item, hmem, hposition⟩ := List.mem_map.1 hitem
    exact ((Board.mem_emptyPositions_iff hboard).1 hempty).2 item hmem hposition
  refine (List.perm_ext_iff_of_nodup hnodup Config.nodup_openPositions).2 fun p => ?_
  rw [List.mem_append, Config.mem_openPositions, Board.mem_emptyPositions_iff hboard, List.mem_map]
  constructor
  · rintro (hvacant | ⟨item, hitem, rfl⟩)
    · exact hvacant.1
    · exact hkept.admits hitem
  · intro hopen
    by_cases hheld : ∃ item ∈ card.items, item.position = p
    · exact .inr hheld
    · exact .inl ⟨hopen, fun item hitem hposition => hheld ⟨item, hitem, hposition⟩⟩

/-- **The empty cells and the items together are as many as the capacity.** -/
theorem length_emptyPositions (hfree : card.config.FreeOnGrid)
    (hboard : Board.ofCard card = .ok board) :
    board.emptyPositions.length + card.items.length = card.config.capacity := by
  have hlength := (emptyPositions_append_perm hfree hboard).length_eq
  rwa [List.length_append, List.length_map, Config.length_openPositions hfree] at hlength

/-- No cell is empty when the card holds as many items as it can. -/
theorem emptyPositions_eq_nil_iff (hfree : card.config.FreeOnGrid)
    (hboard : Board.ofCard card = .ok board) :
    board.emptyPositions = [] ↔ card.items.length = card.config.capacity := by
  have hlength := length_emptyPositions hfree hboard
  rw [← List.length_eq_zero_iff]
  omega

/-- When no cell is empty, every open one holds an item. -/
theorem exists_item_of_emptyPositions (hboard : Board.ofCard card = .ok board)
    (hfull : board.emptyPositions = []) {p : Position} (hopen : card.config.admits p = true) :
    ∃ item ∈ card.items, item.position = p := by
  by_contra hnone
  have hvacant : card.Vacant p := ⟨hopen, by simpa using hnone⟩
  have hempty := (Board.mem_emptyPositions_iff hboard).2 hvacant
  rw [hfull] at hempty
  cases hempty

/-- **A cell is vacant exactly when there is room for another item.** -/
theorem exists_vacant_iff (hfree : card.config.FreeOnGrid)
    (hboard : ∃ board, Board.ofCard card = .ok board) :
    (∃ p, card.Vacant p) ↔ card.items.length < card.config.capacity := by
  obtain ⟨board, hboard⟩ := hboard
  have hlength := length_emptyPositions hfree hboard
  have hroom : card.items.length < card.config.capacity ↔ 0 < board.emptyPositions.length := by
    omega
  rw [hroom, List.length_pos_iff_exists_mem]
  simp only [Board.mem_emptyPositions_iff hboard]

/-! ## Full boards -/

/-- **A board is full when the card holds as many items as it can.** -/
theorem isFull_iff_length (hfree : card.config.FreeOnGrid)
    (hboard : Board.ofCard card = .ok board) :
    board.isFull = true ↔ card.items.length = card.config.capacity := by
  rw [← emptyPositions_eq_nil_iff hfree hboard, List.eq_nil_iff_forall_not_mem, Board.isFull_iff]
  refine forall_congr' fun p => ?_
  rw [Board.mem_emptyPositions_iff hboard, ← Board.isEmpty_iff hboard, Bool.not_eq_true]

/-- A draft that is not full is not finalized. -/
theorem finalize_eq_error (hdraft : card.config.phase = .draft)
    (hboard : Board.ofCard card = .ok board)
    (hmissing : card.items.length ≠ card.config.capacity) :
    card.finalize = .error (.capacityNotMet card.items.length card.config.capacity) := by
  rw [finalize, Config.checkDraft_eq_ok_iff.2 hdraft, hboard]
  exact if_neg hmissing

/-- **The board, the capacity and the items count alike.** The empty cells of
a board are in increasing order the cells where an item may be and none is;
they are as many as items are missing from the capacity, which the items never
exceed; and the board is full when none is missing. Then, and only then, a
draft can be finalized, which changes its phase only; when items are missing
it is refused with their number and the capacity. -/
theorem board_counts_exactly (hfree : card.config.FreeOnGrid)
    (hboard : Board.ofCard card = .ok board) :
    board.emptyPositions.Pairwise (fun p q => p.index < q.index) ∧
    (∀ p, p ∈ board.emptyPositions ↔
      card.config.admits p = true ∧ ∀ item ∈ card.items, item.position ≠ p) ∧
    card.items.length ≤ card.config.capacity ∧
    board.emptyPositions.length = card.config.capacity - card.items.length ∧
    (board.isFull = true ↔ card.items.length = card.config.capacity) ∧
    (∀ final, card.finalize = .ok final ↔ card.config.phase = .draft ∧ board.isFull = true ∧
      final = { card with config := { card.config with phase := .finalized } }) ∧
    (card.config.phase = .draft → board.isFull = false →
      card.finalize = .error (.capacityNotMet card.items.length card.config.capacity)) := by
  have hlength := length_emptyPositions hfree hboard
  have hfull := isFull_iff_length hfree hboard
  have hlaid : ∃ board, Board.ofCard card = .ok board := ⟨board, hboard⟩
  refine ⟨board.pairwise_emptyPositions, fun p => Board.mem_emptyPositions_iff hboard,
    by omega, by omega, hfull, fun final => ?_, fun hdraft hnotFull => ?_⟩
  · rw [finalize_eq_ok_iff, hfull, and_iff_right hlaid]
  · refine finalize_eq_error hdraft hboard fun hlength => ?_
    exact absurd (hfull.2 hlength) (by simp [hnotFull])

/-- One item is missing, and then none. -/
theorem board_counts_exactly_missing :
    let card : Card := ⟨⟨.two, "BI", some ⟨2⟩, .draft⟩, [⟨⟨3⟩, "run", true⟩, ⟨⟨0⟩, "swim", false⟩]⟩
    let board : Board := ⟨.two, [.item 1, .empty, .free, .item 0]⟩
    let full : Card := { card with items := card.items ++ [⟨⟨1⟩, "read", false⟩] }
    card.config.FreeOnGrid ∧ Board.ofCard card = .ok board ∧ board.emptyPositions = [⟨1⟩] ∧
      board.emptyPositions.length = card.config.capacity - card.items.length ∧
      card.finalize = .error (.capacityNotMet 2 3) ∧
      full.finalize = .ok { full with config := { full.config with phase := .finalized } } := by
  intro card board full
  have hfree : card.config.FreeOnGrid := Config.freeOnGrid_of_free rfl rfl
  have hboard : Board.ofCard card = .ok board := rfl
  have hfreeFull : full.config.FreeOnGrid := hfree
  have hboardFull : Board.ofCard full = .ok (board.put ⟨1⟩ (.item 2)) := rfl
  obtain ⟨-, -, -, hlength, -, -, hmissing⟩ := board_counts_exactly hfree hboard
  obtain ⟨-, -, -, -, -, hfinal, -⟩ := board_counts_exactly hfreeFull hboardFull
  exact ⟨hfree, hboard, rfl, hlength, hmissing rfl rfl, (hfinal _).2 ⟨rfl, rfl, rfl⟩⟩

end Card

end GoalGrid
