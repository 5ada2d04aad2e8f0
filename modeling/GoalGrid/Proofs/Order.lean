import GoalGrid.Card.Display
import GoalGrid.Proofs.Bingos
import GoalGrid.Proofs.Cells
import GoalGrid.Proofs.Lockstep
import GoalGrid.Proofs.Steps
import GoalGrid.Random.Seeded
/-!
# Order — what the order of the items can change

Two cards with the same items in another order (`Card.Reordered`) show the
same thing in every cell, though their boards number the items differently
(`Card.Reordered.get?_cases`). So every operation treats them alike and
leaves them with the same items again, shuffling and copying make the very
same card of both, and they have the same bingos and the same text
(`order_is_unobservable`). Where an edit does list items one after another,
it orders them by their positions first, and these are different ones
(`Card.Reordered.byPosition_eq`).
-/

namespace GoalGrid

open Edit (Lockstep lockstep_self lockstep_pure lockstep_bind_self ofExcept_bind)

/-- The second card has the items of the first one in some order. -/
structure Card.Reordered (card card' : Card) : Prop where
  config : card'.config = card.config
  items : card'.items.Perm card.items

/-- The same change, but for the order of the items. -/
def Change.Reordered : Change → Change → Prop :=
  Change.Related Card.Reordered fun displaced displaced' => displaced' = displaced

/-! ## Lists -/

/-- Replacing an entry, wherever it is, gives the same entries. -/
theorem set_perm_set {α : Type} {xs xs' : List α} {i i' : Nat} {x : α} (h : xs'.Perm xs)
    (hx : xs[i]? = some x) (hx' : xs'[i']? = some x) (y : α) :
    (xs'.set i' y).Perm (xs.set i y) := by
  obtain ⟨hi, rfl⟩ := List.getElem?_eq_some_iff.1 hx
  obtain ⟨hi', hsame⟩ := List.getElem?_eq_some_iff.1 hx'
  have herased : (xs'.eraseIdx i').Perm (xs.eraseIdx i) := by
    refine List.Perm.cons_inv (a := xs[i]) ?_
    calc xs[i] :: xs'.eraseIdx i'
        _ |>.Perm xs' := hsame ▸ List.getElem_cons_eraseIdx_perm hi'
        _ |>.Perm xs := h
        _ |>.Perm (xs[i] :: xs.eraseIdx i) := (List.getElem_cons_eraseIdx_perm hi).symm
  calc xs'.set i' y
      _ |>.Perm (y :: xs'.eraseIdx i') := List.set_perm_cons_eraseIdx hi' y
      _ |>.Perm (y :: xs.eraseIdx i) := herased.cons y
      _ |>.Perm (xs.set i y) := (List.set_perm_cons_eraseIdx hi y).symm

namespace Card

namespace Reordered

variable {card card' : Card} {board board' : Board}

/-! ## What is the same of both cards -/

/-- **The order is no part of what edits ask about items.** -/
theorem likeness : Likeness Reordered where
  config h := h.config
  length h := h.items.length_eq
  holdsAt h p := h.items.any_eq
  holds h promise := by
    cases promise with
    | positionsInRange | freeVacant | contentPresent =>
      simp only [Invariant.holds, h.config, h.items.all_eq]
    | positionsUnique => simp only [Invariant.holds, (h.items.map Item.position).nodup_iff]
    | withinCapacity => simp only [Invariant.holds, h.config, h.items.length_eq]
  reconfigured h config := ⟨rfl, h.items⟩
  removed h p := ⟨h.config, h.items.filter _⟩
  exchanged h a b := ⟨h.config, h.items.map _⟩

theorem exists_board (h : card.Reordered card') (hboard : ∃ board, Board.ofCard card = .ok board) :
    ∃ board, Board.ofCard card' = .ok board := by
  refine Board.isOk_ofCard_iff.2 fun promise hpromise => ?_
  rw [likeness.holds h]
  exact Board.isOk_ofCard_iff.1 hboard promise hpromise

/-- **A cell holds the same** on both boards: the same item, under the number
that it has in each list, or the same thing that is no item. -/
theorem get?_cases (h : card.Reordered card') (hboard : Board.ofCard card = .ok board)
    (hboard' : Board.ofCard card' = .ok board') (p : Position) :
    (∃ item i i', board.get? p = some (.item i) ∧ card.items[i]? = some item ∧
      board'.get? p = some (.item i') ∧ card'.items[i']? = some item) ∨
    board'.get? p = board.get? p ∧ ∀ i, board.get? p ≠ some (.item i) := by
  by_cases hheld : ∃ item ∈ card.items, item.position = p
  · obtain ⟨item, hitem, hp⟩ := hheld
    obtain ⟨i, hi⟩ := List.mem_iff_getElem?.1 hitem
    obtain ⟨i', hi'⟩ := List.mem_iff_getElem?.1 (h.items.mem_iff.2 hitem)
    exact .inl ⟨item, i, i', (Board.get?_eq_item_iff hboard).2 ⟨item, hi, hp⟩, hi,
      (Board.get?_eq_item_iff hboard').2 ⟨item, hi', hp⟩, hi'⟩
  · simp only [not_exists, not_and] at hheld
    have hheld' : ∀ item ∈ card'.items, item.position ≠ p :=
      fun item hitem => hheld item (h.items.mem_iff.1 hitem)
    -- such a cell is as it was before any item was placed
    rw [Board.get?_of_placeAll_of_forall_ne hboard hheld,
      Board.get?_of_placeAll_of_forall_ne hboard' hheld', h.config]
    exact .inr ⟨rfl, fun i => Board.get?_ofConfig_ne_item⟩

theorem isEmpty_eq (h : card.Reordered card') (hboard : Board.ofCard card = .ok board)
    (hboard' : Board.ofCard card' = .ok board') (p : Position) :
    board'.isEmpty p = board.isEmpty p := by
  rcases h.get?_cases hboard hboard' p with ⟨item, i, i', hcell, -, hcell', -⟩ | ⟨hsame, -⟩
  · simp [Board.isEmpty, hcell, hcell']
  · rw [Board.isEmpty, Board.isEmpty, hsame]

theorem size_eq (h : card.Reordered card') (hboard : Board.ofCard card = .ok board)
    (hboard' : Board.ofCard card' = .ok board') : board'.size = board.size := by
  rw [Board.size_of_ofCard hboard, Board.size_of_ofCard hboard', h.config]

theorem emptyPositions_eq (h : card.Reordered card') (hboard : Board.ofCard card = .ok board)
    (hboard' : Board.ofCard card' = .ok board') :
    board'.emptyPositions = board.emptyPositions := by
  rw [Board.emptyPositions, Board.emptyPositions, h.size_eq hboard hboard']
  exact List.filter_congr fun p _ => h.isEmpty_eq hboard hboard' p

/-- The cell for a new item is chosen by what is empty. -/
theorem cellFor_eq (h : card.Reordered card') (hboard : Board.ofCard card = .ok board)
    (hboard' : Board.ofCard card' = .ok board') (position : Option Position) :
    cellFor board' position = cellFor board position := by
  cases position with
  | none => rw [cellFor, cellFor, h.emptyPositions_eq hboard hboard']
  | some p =>
    simp only [cellFor, h.size_eq hboard hboard', h.isEmpty_eq hboard hboard']

/-- **Ordered by their positions, the items are in one order only**, since
no two of them share a position. -/
theorem byPosition_eq (h : card.Reordered card')
    (hboard : ∃ board, Board.ofCard card = .ok board) :
    byPosition card'.items = byPosition card.items := by
  have hdistinct := nodup_positions_of_board hboard
  have hperm := (byPosition_perm card'.items).trans (h.items.trans (byPosition_perm _).symm)
  refine hperm.eq_of_pairwise (fun a b ha hb hab hba => ?_) (pairwise_byPosition _)
    (pairwise_byPosition _)
  -- two items at one position are the same item
  have hindex : a.position.index = b.position.index := Nat.le_antisymm hab hba
  have ha := h.items.mem_iff.1 ((byPosition_perm card'.items).mem_iff.1 ha)
  have hb := (byPosition_perm card.items).mem_iff.1 hb
  exact List.inj_on_of_nodup_map hdistinct ha hb (congrArg Position.mk hindex)

/-! ## Edits -/

theorem lockstep_clearFor (h : card.Reordered card') (hboard : Board.ofCard card = .ok board)
    (hboard' : Board.ofCard card' = .ok board') (target : Position) :
    Lockstep Change.Reordered (card.clearFor board target) (card'.clearFor board' target) := by
  rcases h.get?_cases hboard hboard' target with ⟨item, i, i', hcell, hitem, hcell', hitem'⟩ |
    ⟨hsame, hnone⟩
  · rw [clearFor_of_get? hcell hitem, clearFor_of_get? hcell' hitem',
      h.emptyPositions_eq hboard hboard']
    refine lockstep_bind_self fun destination _ => lockstep_pure ⟨⟨h.config, ?_⟩, rfl⟩
    exact set_perm_set h.items hitem hitem' (item.movedTo destination)
  · rw [clearFor_of_get?_ne hnone, clearFor_of_get?_ne fun i => hsame ▸ hnone i]
    exact lockstep_pure ⟨h, rfl⟩

theorem boardsAlike (h : card.Reordered card') (hboard : ∃ board, Board.ofCard card = .ok board) :
    BoardsAlike Reordered (fun displaced displaced' => displaced' = displaced) card card' := by
  obtain ⟨board', hboard'⟩ := h.exists_board hboard
  obtain ⟨board, hboard⟩ := hboard
  have hfull : board'.isFull = board.isFull := by
    rw [Bool.eq_iff_iff]
    simp only [Board.isFull_iff, h.isEmpty_eq hboard hboard']
  rw [BoardsAlike, hboard, hboard']
  exact lockstep_pure ⟨h.emptyPositions_eq hboard hboard', hfull, h.cellFor_eq hboard hboard',
    h.lockstep_clearFor hboard hboard'⟩

variable (build : Build)

/-- **Shuffling makes the same card of both.** -/
theorem shuffleIn_eq (h : card.Reordered card')
    (hboard : ∃ board, Board.ofCard card = .ok board) :
    card'.shuffleIn build = card.shuffleIn build := by
  refine Lockstep.eq ?_
  rw [shuffleIn, shuffleIn, h.config, h.byPosition_eq hboard]
  exact lockstep_bind_self fun _ _ => (h.boardsAlike hboard).bind fun _ _ _ => lockstep_self

/-- **Copying makes the same copy of both.** -/
theorem copyIn_eq (h : card.Reordered card') (hboard : ∃ board, Board.ofCard card = .ok board)
    (size : GridSize) (hasFree : Bool) :
    card'.copyIn build size hasFree = card.copyIn build size hasFree := by
  refine Lockstep.eq ?_
  rw [copyIn, copyIn, h.config, h.byPosition_eq hboard, h.items.length_eq]
  exact (h.boardsAlike hboard).bind fun _ _ _ => lockstep_self

theorem lockstep_setCompleted (h : card.Reordered card') (p : Position) (done : Bool) :
    Lockstep Reordered (Edit.ofExcept (card.setCompleted p done))
      (Edit.ofExcept (card'.setCompleted p done)) := by
  rw [setCompleted, setCompleted, likeness.checkHeld_eq h]
  simp only [ofExcept_bind]
  exact lockstep_bind_self fun _ _ => lockstep_pure ⟨h.config, h.items.map _⟩

/-- **Every operation treats both cards alike.** -/
theorem lockstep_applyIn (h : card.Reordered card')
    (hboard : ∃ board, Board.ofCard card = .ok board) (operation : Operation) :
    Lockstep Change.Reordered (operation.applyIn build card) (operation.applyIn build card') := by
  have hboards := h.boardsAlike hboard
  refine likeness.lockstep_applyIn build h hboards rfl operation ?_ ?_ ?_
  · rw [h.shuffleIn_eq build hboard]
    exact lockstep_self.mono fun shuffled _ hsame => hsame ▸ ⟨rfl, .refl _⟩
  · rintro content position rfl
    refine likeness.lockstep_addIn build h hboards position fun _ p => ?_
    exact likeness.lockstep_check build ⟨h.config, h.items.append_right _⟩
  · rintro p done rfl
    exact h.lockstep_setCompleted p done

/-! ## What is shown -/

theorem bingos_eq (h : card.Reordered card') : card'.bingos = card.bingos := by
  have hflags : isFlagged card'.completeFlags = isFlagged card.completeFlags := by
    funext p
    rw [Bool.eq_iff_iff, isFlagged_completeFlags, isFlagged_completeFlags, CountsAsComplete,
      CountsAsComplete, h.config]
    simp only [h.items.mem_iff]
  rw [bingos, bingos, hflags, h.config]

theorem display_eq (h : card.Reordered card') (hboard : Board.ofCard card = .ok board)
    (hboard' : Board.ofCard card' = .ok board') (cellWidth : Nat) :
    board'.display card'.config card'.items cellWidth =
      board.display card.config card.items cellWidth := by
  have htext : ∀ p, Board.cellText card'.items (board'.get? p) =
      Board.cellText card.items (board.get? p) := by
    intro p
    rcases h.get?_cases hboard hboard' p with ⟨item, i, i', hcell, hitem, hcell', hitem'⟩ |
      ⟨hsame, hnone⟩
    · rw [hcell, hcell', Board.cellText, Board.cellText, hitem, hitem']
    · rw [hsame]
      rcases hcell : board.get? p with _ | ⟨_ | _ | i⟩
      · rfl
      · rfl
      · rfl
      · exact absurd hcell (hnone i)
  simp only [Board.display, h.config, h.size_eq hboard hboard', htext]

end Reordered

end Card

/-- **The order of the items is not to be seen.** When a card has a board,
so does every card with its items in another order, in either build: every
operation is refused for the same cause on both or leaves the same card but
for the order of the items, with the same displacement and the same
generator; shuffling and copying make the same card or copy, with the items
in the same order; the bingos are the same, and so is the text that the
boards are shown as. -/
theorem order_is_unobservable {card card' : Card} (h : card.Reordered card')
    (hboard : ∃ board, Board.ofCard card = .ok board) (build : Build) :
    (∀ operation : Operation,
      Lockstep Change.Reordered (operation.applyIn build card) (operation.applyIn build card')) ∧
    card'.shuffleIn build = card.shuffleIn build ∧
    (∀ size hasFree, card'.copyIn build size hasFree = card.copyIn build size hasFree) ∧
    card'.bingos = card.bingos ∧
    ∃ board board', Board.ofCard card = .ok board ∧ Board.ofCard card' = .ok board' ∧
      ∀ cellWidth, board'.display card'.config card'.items cellWidth =
        board.display card.config card.items cellWidth := by
  refine ⟨h.lockstep_applyIn build hboard, h.shuffleIn_eq build hboard,
    h.copyIn_eq build hboard, h.bingos_eq, ?_⟩
  obtain ⟨board', hboard'⟩ := h.exists_board hboard
  obtain ⟨board, hboard⟩ := hboard
  exact ⟨board, board', hboard, hboard', h.display_eq hboard hboard'⟩

/-- FREE put onto the item that one card lists first and the other last. -/
theorem order_is_unobservable_displaced :
    let g := Generator.ofWords []
    let card : Card := ⟨⟨.two, "BI", some ⟨3⟩, .draft⟩, [⟨⟨1⟩, "run", true⟩, ⟨⟨0⟩, "swim", false⟩]⟩
    let card' : Card := ⟨⟨.two, "BI", some ⟨3⟩, .draft⟩, [⟨⟨0⟩, "swim", false⟩, ⟨⟨1⟩, "run", true⟩]⟩
    card.Reordered card' ∧ (∃ board, Board.ofCard card = .ok board) ∧
      (((Operation.moveFree ⟨1⟩).apply card).outcome g).1 =
        .ok ⟨⟨⟨.two, "BI", some ⟨1⟩, .draft⟩, [⟨⟨2⟩, "run", true⟩, ⟨⟨0⟩, "swim", false⟩]⟩,
          some ⟨"run", ⟨1⟩, ⟨2⟩⟩⟩ ∧
      (∃ change change' rest, ((Operation.moveFree ⟨1⟩).apply card).outcome g = (.ok change, rest) ∧
        ((Operation.moveFree ⟨1⟩).apply card').outcome g = (.ok change', rest) ∧
        change.Reordered change') ∧
      card'.shuffle.outcome g = card.shuffle.outcome g := by
  intro g card card'
  have h : card.Reordered card' := ⟨rfl, .swap ..⟩
  have hboard : ∃ board, Board.ofCard card = .ok board := ⟨_, rfl⟩
  have hmoved : (((Operation.moveFree ⟨1⟩).apply card).outcome g).1 =
      .ok ⟨⟨⟨.two, "BI", some ⟨1⟩, .draft⟩, [⟨⟨2⟩, "run", true⟩, ⟨⟨0⟩, "swim", false⟩]⟩,
        some ⟨"run", ⟨1⟩, ⟨2⟩⟩⟩ := by decide +kernel
  obtain ⟨halike, hshuffle, -⟩ := order_is_unobservable h hboard .debug
  refine ⟨h, hboard, hmoved, ?_, congrArg (Edit.outcome · g) hshuffle⟩
  rcases halike (.moveFree ⟨1⟩) g with hchange | ⟨cause, rest, hrefused, -⟩
  · exact hchange
  · have hrefused : (((Operation.moveFree ⟨1⟩).apply card).outcome g).1 = .error cause :=
      congrArg Prod.fst hrefused
    rw [hmoved] at hrefused
    cases hrefused

end GoalGrid
