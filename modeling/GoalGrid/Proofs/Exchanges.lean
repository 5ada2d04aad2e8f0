import GoalGrid.Proofs.FreeCell
/-!
# Exchanges — two cells trade what they hold

Which of two cells is named first makes no difference to their exchange
(`swapIn_comm`), and none of the three ways it can go shows: unless FREE
would come to lie on an item, both cells end up with what the other one
held, be it an item, FREE or nothing (`swapIn_eq_pure`,
`get?_withExchanged`). So nothing is drawn, and exchanging the cells again
gives the card back (`exchanged_and_back`).
-/

namespace GoalGrid.Card

variable {card : Card} {board after : Board} {a b p : Position} (build : Build)

/-! ## Which cell is named first -/

theorem exchanged_comm (a b : Position) : exchanged a b = exchanged b a := by
  rw [exchanged_eq_swap, exchanged_eq_swap, Equiv.swap_comm]

theorem withExchanged_comm (card : Card) (a b : Position) :
    card.withExchanged a b = card.withExchanged b a := by
  rw [withExchanged, withExchanged, exchanged_comm]

/-- When one of two positions is on the grid, the order of their checks does
not matter. -/
theorem checkPosition_bind_comm {size : GridSize}
    (h : size.contains a = true ∨ size.contains b = true) :
    (size.checkPosition a >>= fun _ => size.checkPosition b) =
      size.checkPosition b >>= fun _ => size.checkPosition a := by
  rw [GridSize.checkPosition, GridSize.checkPosition]
  cases ha : size.contains a <;> cases hb : size.contains b
  · simp [ha, hb] at h
  all_goals rfl

/-- **Exchanging `a` and `b` is exchanging `b` and `a`**, refusals included. -/
theorem swapIn_comm (card : Card)
    (h : card.config.size.contains a = true ∨ card.config.size.contains b = true) :
    card.swapIn build a b = card.swapIn build b a := by
  rw [swapIn, swapIn, checkPosition_bind_comm h]
  refine congrArg _ (funext fun _ => ?_)
  -- the cases: neither cell is FREE, only the second, only the first, both
  cases card.config.isFree a <;> cases card.config.isFree b
  · by_cases heq : a = b
    · rw [heq]
    · dsimp only
      rw [exchanged_comm, if_neg heq, if_neg (Ne.symm heq)]
  all_goals rfl

/-! ## What the cells hold afterwards -/

/-- One of the cells is FREE, and the other one holds an item. -/
def FreeMeetsItem (card : Card) (a b : Position) : Prop :=
  card.config.isFree a = true ∧ card.holdsAt b = true ∨
    card.config.isFree b = true ∧ card.holdsAt a = true

theorem holdsAt_withExchanged :
    (card.withExchanged a b).holdsAt p = card.holdsAt (exchanged a b p) := by
  have hcomp : (fun item : Item => (item.movedTo (exchanged a b item.position)).position == p) =
      fun item => item.position == exchanged a b p := by
    funext item
    rw [Bool.eq_iff_iff, beq_iff_eq, beq_iff_eq, Item.movedTo]
    exact ⟨fun heq => by rw [← heq, exchanged_exchanged],
      fun heq => by rw [heq, exchanged_exchanged]⟩
  rw [holdsAt, holdsAt, withExchanged, List.any_map, ← hcomp]
  rfl

/-- Items whose cells stay where they are stay as they are. -/
theorem map_movedTo_eq_self {items : List Item} {f : Position → Position}
    (h : ∀ item ∈ items, f item.position = item.position) :
    items.map (fun item => item.movedTo (f item.position)) = items := by
  have hsame : ∀ item ∈ items, item.movedTo (f item.position) = id item :=
    fun item hitem => congrArg item.movedTo (h item hitem)
  rw [List.map_congr_left hsame, List.map_id]

theorem withExchanged_withExchanged (card : Card) (a b : Position) :
    (card.withExchanged a b).withExchanged a b = card := by
  have hback : exchanged a b ∘ exchanged a b = id := funext (exchanged_exchanged a b)
  have hfree : (card.config.free.map (exchanged a b)).map (exchanged a b) = card.config.free := by
    rw [Option.map_map, hback, Option.map_id_apply]
  have hitems : (card.withExchanged a b).items.map
      (fun item => item.movedTo (exchanged a b item.position)) = card.items := by
    rw [withExchanged, List.map_map]
    exact map_movedTo_eq_self (f := exchanged a b ∘ exchanged a b) fun item _ => by rw [hback, id]
  rw [withExchanged, hitems]
  simp only [withExchanged, hfree]

/-- FREE and a cell without an item: FREE goes there, and no item moves. -/
theorem withExchanged_of_free (ha : card.config.free = some a)
    (hnotFree : ∀ item ∈ card.items, item.position ≠ a)
    (hnone : ∀ item ∈ card.items, item.position ≠ b) :
    card.withExchanged a b = { card with config := { card.config with free := some b } } := by
  have hitems := map_movedTo_eq_self fun item hitem =>
    exchanged_of_ne (hnotFree item hitem) (hnone item hitem)
  rw [withExchanged, hitems, ha, Option.map_some, exchanged, if_pos rfl]

/-- **Every cell holds what the cell that takes its place held before**, items
under the same numbers. -/
theorem get?_withExchanged (hboard : Board.ofCard card = .ok board)
    (hafter : Board.ofCard (card.withExchanged a b) = .ok after)
    (ha : card.config.size.contains a = true) (hb : card.config.size.contains b = true) :
    after.get? p = board.get? (exchanged a b p) := by
  by_cases hheld : ∃ item ∈ card.items, item.position = exchanged a b p
  · obtain ⟨item, hitem, hposition⟩ := hheld
    obtain ⟨i, hi⟩ := List.mem_iff_getElem?.1 hitem
    have hmoved : (card.withExchanged a b).items[i]? = some (item.movedTo p) := by
      rw [withExchanged, List.getElem?_map, hi, Option.map_some, hposition, exchanged_exchanged]
    rw [(Board.get?_eq_item_iff hboard).2 ⟨item, hi, hposition⟩]
    exact (Board.get?_eq_item_iff hafter).2 ⟨_, hmoved, rfl⟩
  · -- such a cell is as it was before any item was placed
    have hnone : ∀ item ∈ card.items, item.position ≠ exchanged a b p := by simpa using hheld
    have hnoneAfter : ∀ item ∈ (card.withExchanged a b).items, item.position ≠ p := by
      rintro _ hitem rfl
      obtain ⟨old, hold, rfl⟩ := List.mem_map.1 hitem
      exact hnone old hold (exchanged_exchanged a b old.position).symm
    rw [Board.get?_of_placeAll_of_forall_ne hafter hnoneAfter,
      Board.get?_of_placeAll_of_forall_ne hboard hnone, Board.get?_ofConfig, Board.get?_ofConfig,
      isFree_withExchanged, contains_exchanged ha hb]
    rfl

/-! ## Exchanges -/

section Exchanges

variable (hdraft : card.config.phase = .draft) (hfree : card.config.FreeOnGrid)
  (hboard : Board.ofCard card = .ok board) (ha : card.config.size.contains a = true)
  (hb : card.config.size.contains b = true)
include hdraft hfree hboard ha hb

/-- FREE trades places with a cell without an item. -/
theorem swapIn_eq_pure_of_free (hfreeA : card.config.isFree a = true)
    (hheld : card.holdsAt b = false) : card.swapIn build a b = pure (card.withExchanged a b) := by
  have hkept := kept_of_ofCard hfree hboard
  have hcurrent : card.config.free = some a := by simpa [Config.isFree] using hfreeA
  have hnone := holdsAt_eq_false_iff.1 hheld
  rw [withExchanged_of_free hcurrent
    (fun item hitem => Config.ne_of_admits hcurrent (hkept.admits hitem)) hnone]
  rw [swapIn, Config.checkDraft_eq_ok_iff.2 hdraft, GridSize.checkPosition_eq_ok_iff.2 ha,
    GridSize.checkPosition_eq_ok_iff.2 hb, hfreeA]
  cases hfreeB : card.config.isFree b with
  | true =>
    -- both cells are FREE, so that they are one
    have hsame : card.config.free = some b := by simpa [Config.isFree] using hfreeB
    rw [← hsame]
    rfl
  | false =>
    have hne : a ≠ b := by
      rintro rfl
      exact absurd hfreeA (by simp [hfreeB])
    have hmove := moveFreeIn_eq_ite build hdraft hcurrent hb hboard
    rw [if_neg hne, putFreeIn_eq build hfree hboard hb, ← putFreeIn_eq .release hfree hboard hb,
      putFreeIn_eq_pure hboard hnone] at hmove
    rw [hmove]
    rfl

/-- **Cells trade what they hold**, and nothing is drawn, unless FREE would
come to lie on an item. -/
theorem swapIn_eq_pure (hmeets : ¬ card.FreeMeetsItem a b) :
    card.swapIn build a b = pure (card.withExchanged a b) := by
  rw [FreeMeetsItem, not_or, not_and, not_and, Bool.not_eq_true, Bool.not_eq_true] at hmeets
  cases hfreeA : card.config.isFree a with
  | true => exact swapIn_eq_pure_of_free build hdraft hfree hboard ha hb hfreeA (hmeets.1 hfreeA)
  | false =>
    cases hfreeB : card.config.isFree b with
    | true =>
      rw [swapIn_comm build card (.inl ha), withExchanged_comm]
      exact swapIn_eq_pure_of_free build hdraft hfree hboard hb ha hfreeB (hmeets.2 hfreeB)
    | false =>
      have hkept := (kept_of_ofCard hfree hboard).withExchanged hfree ha hb
      rw [withExchanged_of_not_free hfreeA hfreeB] at hkept ⊢
      rw [swapIn, Config.checkDraft_eq_ok_iff.2 hdraft, GridSize.checkPosition_eq_ok_iff.2 ha,
        GridSize.checkPosition_eq_ok_iff.2 hb, hfreeA, hfreeB, hboard]
      by_cases heq : a = b
      · have hstays : ∀ item ∈ card.items, exchanged a b item.position = item.position :=
          fun item _ => by rw [← heq, exchanged_eq_swap, Equiv.swap_self, Equiv.refl_apply]
        rw [map_movedTo_eq_self hstays, if_pos heq]
        rfl
      · rw [if_neg heq]
        exact congrArg Edit.ofExcept (Build.check_of_kept hkept build)

end Exchanges

/-- A card after two of its cells have traded what they hold: FREE and the
items that were in one of them are in the other, and nothing else is changed,
the order of the items and their goals included. -/
structure ExchangedTo (card : Card) (a b : Position) (after : Card) : Prop where
  config : after.config = { card.config with free := card.config.free.map (exchanged a b) }
  items : after.items = card.items.map fun item => item.movedTo (exchanged a b item.position)
  cells : ∀ board, Board.ofCard card = .ok board → ∃ laid, Board.ofCard after = .ok laid ∧
    ∀ p, laid.get? p = board.get? (exchanged a b p)

/-- **Two cells trade what they hold, and back.** When one of them is on the
grid, it makes no difference which is named first, whatever the card and the
build are. On a draft with a board, two cells of the grid trade what they
hold, with nothing drawn, unless one is FREE and the other one holds an item;
and when they are exchanged again, the card is what it was. -/
theorem exchanged_and_back (card : Card) (a b : Position) :
    (card.config.size.contains a = true ∨ card.config.size.contains b = true →
      card.swapIn build a b = card.swapIn build b a) ∧
    (card.config.phase = .draft → card.config.FreeOnGrid →
      (∃ board, Board.ofCard card = .ok board) →
      card.config.size.contains a = true → card.config.size.contains b = true →
      ¬ card.FreeMeetsItem a b → ∃ after, card.ExchangedTo a b after ∧
        (∀ g, (card.swapIn build a b).outcome g = (.ok after, g)) ∧
        ∀ g, (after.swapIn build a b).outcome g = (.ok card, g)) := by
  refine ⟨swapIn_comm build card, fun hdraft hfree hboard ha hb hmeets => ?_⟩
  obtain ⟨board, hboard⟩ := hboard
  have hkept := (kept_of_ofCard hfree hboard).withExchanged hfree ha hb
  obtain ⟨laid, hlaid⟩ := exists_board_of_holds (kept_iff.1 hkept)
  refine ⟨card.withExchanged a b, ⟨rfl, rfl, fun board hboard => ?_⟩, fun g => ?_, fun g => ?_⟩
  · exact ⟨laid, hlaid, fun p => get?_withExchanged hboard hlaid ha hb⟩
  · rw [swapIn_eq_pure build hdraft hfree hboard ha hb hmeets, Edit.outcome_pure]
  · -- now each of the cells holds what the other one held
    have hmeetsAfter : ¬ (card.withExchanged a b).FreeMeetsItem a b := by
      rw [FreeMeetsItem, isFree_withExchanged, isFree_withExchanged, holdsAt_withExchanged,
        holdsAt_withExchanged, exchanged_eq_swap, Equiv.swap_apply_left, Equiv.swap_apply_right]
      exact fun h => hmeets h.symm
    have hdraftAfter : (card.withExchanged a b).config.phase = .draft := hdraft
    have hfreeAfter := freeOnGrid_withExchanged hfree ha hb
    rw [swapIn_eq_pure build hdraftAfter hfreeAfter hlaid ha hb hmeetsAfter,
      withExchanged_withExchanged, Edit.outcome_pure]

/-- FREE trades places with an empty cell; and a cell off the grid is refused
whichever place it has. -/
theorem exchanged_and_back_free :
    let g := Generator.ofWords []
    let card : Card := ⟨⟨.two, "BI", some ⟨0⟩, .draft⟩, [⟨⟨1⟩, "run", true⟩]⟩
    let after : Card := ⟨⟨.two, "BI", some ⟨2⟩, .draft⟩, [⟨⟨1⟩, "run", true⟩]⟩
    card.ExchangedTo ⟨0⟩ ⟨2⟩ after ∧ (card.swap ⟨0⟩ ⟨2⟩).outcome g = (.ok after, g) ∧
      (after.swap ⟨0⟩ ⟨2⟩).outcome g = (.ok card, g) ∧ card.swap ⟨4⟩ ⟨2⟩ = card.swap ⟨2⟩ ⟨4⟩ := by
  intro g card after
  have hfree : card.config.FreeOnGrid := Config.freeOnGrid_of_free rfl rfl
  have hmeets : ¬ card.FreeMeetsItem ⟨0⟩ ⟨2⟩ := by
    rintro (⟨-, hheld⟩ | ⟨hfree, -⟩)
    · exact absurd hheld (by decide)
    · exact absurd hfree (by decide)
  obtain ⟨-, hback⟩ := exchanged_and_back .debug card ⟨0⟩ ⟨2⟩
  obtain ⟨hcomm, -⟩ := exchanged_and_back .debug card ⟨4⟩ ⟨2⟩
  obtain ⟨made, hmade, hthere, hagain⟩ := hback rfl hfree ⟨_, rfl⟩ rfl rfl hmeets
  have houtcome : ((card.swap ⟨0⟩ ⟨2⟩).outcome g).1 = .ok after := by decide +kernel
  obtain rfl : made = after :=
    Except.ok.inj ((congrArg Prod.fst (hthere g)).symm.trans houtcome)
  exact ⟨hmade, hthere g, hagain g, hcomm (.inr rfl)⟩

end GoalGrid.Card
