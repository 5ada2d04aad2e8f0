import GoalGrid.Proofs.Cells
import GoalGrid.Proofs.Steps
import Mathlib.Logic.Equiv.Basic
/-!
# Layouts — what laying out anew keeps

Every edit that lays the items of a card out anew starts from a card with
a board, and the layout that it makes keeps the promises again: with an
item more in an empty cell (`Kept.append`), with FREE in a cell from which
the item has moved away (`MakesRoom.kept`), with two cells
exchanged (`Kept.withExchanged`), with the items shuffled over their cells
(`Kept.rearrange`), or with goals put into different open cells
(`kept_placedGoals`). Each time four promises are shown of the new layout;
the one about capacity follows (`kept_of_open`).
-/

namespace GoalGrid

open Edit (Yields)

namespace Card

variable {card : Card} {board : Board} {p : Position}

/-- **A layout keeps the promises** when its items are in different open
cells and have a text. -/
theorem kept_of_open (hfree : card.config.FreeOnGrid)
    (hopen : ∀ item ∈ card.items, card.config.admits item.position = true)
    (hdistinct : (card.items.map Item.position).Nodup)
    (hblank : ∀ item ∈ card.items, Text.isBlankText item.content = false) : card.Kept := by
  have hboard : ∃ board, Board.ofCard card = .ok board := by
    refine Board.isOk_ofCard_iff.2 fun promise hpromise => ?_
    cases promise with
    | positionsInRange =>
      simpa [Invariant.holds] using fun item hitem => (Config.admits_iff.1 (hopen item hitem)).1
    | positionsUnique => simpa [Invariant.holds] using hdistinct
    | freeVacant =>
      simpa [Invariant.holds] using fun item hitem => (Config.admits_iff.1 (hopen item hitem)).2
    | withinCapacity => exact absurd rfl hpromise
    | contentPresent => simpa [Invariant.holds] using hblank
  exact kept_iff.2 (holds_of_ofCard hfree hboard)

theorem kept_of_ofCard (hfree : card.config.FreeOnGrid) (h : Board.ofCard card = .ok board) :
    card.Kept :=
  kept_iff.2 (holds_of_ofCard hfree ⟨board, h⟩)

theorem Kept.admits (h : card.Kept) {item : Item} (hitem : item ∈ card.items) :
    card.config.admits item.position = true :=
  Config.admits_iff.2 ⟨h.inRange item hitem, h.vacant item hitem⟩

/-! ## One item -/

/-- **An item in a vacant cell** can be added. -/
theorem Kept.append (h : card.Kept) (hfree : card.config.FreeOnGrid) {item : Item}
    (hvacant : card.Vacant item.position) (hblank : Text.isBlankText item.content = false) :
    Kept { card with items := card.items ++ [item] } := by
  obtain ⟨hopen, hnone⟩ := hvacant
  refine kept_of_open hfree (fun other hother => ?_) ?_ fun other hother => ?_
  · rcases List.mem_append.1 hother with hold | hnew
    · exact h.admits hold
    · rw [List.mem_singleton.1 hnew]
      exact hopen
  · have hnotMem : item.position ∉ card.items.map Item.position := fun hmem => by
      obtain ⟨other, hother, heq⟩ := List.mem_map.1 hmem
      exact hnone other hother heq
    rw [List.map_append, List.map_singleton]
    exact List.nodup_append.2 ⟨h.distinct, List.nodup_singleton _, by
      rintro q hq _ hnew rfl
      exact hnotMem (List.mem_singleton.1 hnew ▸ hq)⟩
  · rcases List.mem_append.1 hother with hold | hnew
    · exact h.notBlank other hold
    · rw [List.mem_singleton.1 hnew]
      exact hblank

/-- The cell for a new item is vacant. -/
theorem vacant_of_yields_cellFor (hboard : Board.ofCard card = .ok board)
    {position : Option Position} (h : (cellFor board position).Yields p) : card.Vacant p := by
  cases position with
  | none => exact (Board.mem_emptyPositions_iff hboard).1 (Edit.mem_of_yields_chooseOr h)
  | some wanted =>
    have hcell := Edit.yields_ofExcept.1 h
    rw [check_bind_eq_ok_iff] at hcell
    split at hcell
    · obtain rfl := return_eq_ok_iff.1 hcell.2
      exact (Board.isEmpty_iff hboard).1 (by assumption)
    · cases hcell.2

/-- Every item of a card on which one has moved is one of the others, or
has the text of that one in the new cell. -/
theorem mem_withMoved {index : Nat} {item other : Item}
    (hother : other ∈ (card.withMoved index item p).items) :
    other ∈ card.items ∨ other = item.movedTo p :=
  List.mem_or_eq_of_mem_set hother

/-- **An item can move to a vacant cell**, and leaves its cell without one. -/
theorem Kept.withMoved (h : card.Kept) (hfree : card.config.FreeOnGrid) {index : Nat} {item : Item}
    (hitem : card.items[index]? = some item) (hvacant : card.Vacant p) :
    (card.withMoved index item p).Kept ∧
      ∀ other ∈ (card.withMoved index item p).items, other.position ≠ item.position := by
  obtain ⟨hopen, hnone⟩ := hvacant
  have hmem : item ∈ card.items := List.mem_of_getElem? hitem
  have hpositions : (card.withMoved index item p).items.map Item.position =
      (card.items.map Item.position).set index p := List.map_set
  have hnotMem : p ∉ card.items.map Item.position := fun hp => by
    obtain ⟨other, hother, heq⟩ := List.mem_map.1 hp
    exact hnone other hother heq
  have hdistinct : ((card.withMoved index item p).items.map Item.position).Nodup := by
    rw [hpositions]
    exact h.distinct.set hnotMem
  refine ⟨kept_of_open hfree (fun other hother => ?_) hdistinct fun other hother => ?_, ?_⟩
  · rcases mem_withMoved hother with hold | rfl
    · exact h.admits hold
    · exact hopen
  · rcases mem_withMoved hother with hold | rfl
    · exact h.notBlank other hold
    · exact h.notBlank item hmem
  · intro other hother heq
    -- an item at another place in the list has another position
    obtain ⟨i, hi, rfl⟩ := List.mem_iff_getElem.1 hother
    have hlength : i < card.items.length := by simpa [Card.withMoved] using hi
    have hplace : (card.withMoved index item p).items[i] =
        if index = i then item.movedTo p else card.items[i] := List.getElem_set ..
    rw [hplace] at heq
    split at heq
    · exact hnone item hmem heq.symm
    · rename_i hne
      have hsame : (card.items.map Item.position)[i]? =
          (card.items.map Item.position)[index]? := by
        rw [List.getElem?_map, List.getElem?_map, hitem, List.getElem?_eq_getElem hlength]
        exact congrArg some heq
      exact hne ((List.getElem?_inj (by simpa using hlength) h.distinct).1 hsame).symm

/-! ## FREE -/

/-- **FREE can be put** into a cell of the grid without an item. -/
theorem Kept.with_free (h : card.Kept) (hrange : card.config.size.contains p = true)
    (hnone : ∀ item ∈ card.items, item.position ≠ p) :
    Kept { card with config := { card.config with free := some p } } := by
  have hfree : Config.FreeOnGrid { card.config with free := some p } := by
    intro q hq
    obtain rfl := Option.some.inj hq
    exact hrange
  refine kept_of_open hfree (fun item hitem => ?_) h.distinct h.notBlank
  have hne : p ≠ item.position := fun heq => hnone item hitem heq.symm
  exact Config.admits_iff.2 ⟨h.inRange item hitem, by simpa [Config.isFree] using hne⟩

/-- Without a center FREE goes to a vacant cell. -/
theorem vacant_of_yields_freeTarget (hboard : Board.ofCard card = .ok board)
    (hcenter : card.config.size.center = none)
    (h : (Config.freeTarget card.config.size board.emptyPositions).Yields p) : card.Vacant p := by
  rcases Config.of_yields_freeTarget h with hthere | hmem
  · exact absurd (hcenter.symm.trans hthere) nofun
  · exact (Board.mem_emptyPositions_iff hboard).1 hmem

/-- How the items of a card make room in a cell: they stay as they are when
none is there, and else the one that is there moves to a vacant cell, with its
text and its mark and without leaving its place in the list. -/
inductive MakesRoom (card : Card) (p : Position) : List Item → Option Displacement → Prop where
  | stays : (∀ item ∈ card.items, item.position ≠ p) → MakesRoom card p card.items none
  | moves {index : Nat} {item : Item} {destination : Position} :
      card.items[index]? = some item → item.position = p → card.Vacant destination →
      MakesRoom card p (card.items.set index (item.movedTo destination))
        (some ⟨item.content, p, destination⟩)

/-- In a cell without an item there is room for FREE. -/
theorem clearFor_of_forall_ne (hboard : Board.ofCard card = .ok board)
    (hnone : ∀ item ∈ card.items, item.position ≠ p) : card.clearFor board p = pure { card } :=
  clearFor_of_get?_ne ((Board.forall_get?_ne_item_iff hboard).2 hnone)

/-- **The item in the cell moves to any of the empty cells**: its own is none
of them. -/
theorem exists_clearFor_eq (hboard : Board.ofCard card = .ok board) {item : Item}
    (hmem : item ∈ card.items) (hposition : item.position = p) :
    ∃ index, card.items[index]? = some item ∧ card.clearFor board p = do
      let destination ← Edit.chooseOr .cardFull board.emptyPositions
      return { card := card.withMoved index item destination
               displaced := some ⟨item.content, p, destination⟩ } := by
  obtain ⟨index, hitem⟩ := List.mem_iff_getElem?.1 hmem
  have hcell := (Board.get?_eq_item_iff hboard).2 ⟨item, hitem, hposition⟩
  have hothers : board.emptyPositions.filter (· ≠ p) = board.emptyPositions := by
    refine List.filter_eq_self.2 fun q hempty => decide_eq_true fun heq => ?_
    have hvacant := (Board.mem_emptyPositions_iff hboard).1 hempty
    exact hvacant.2 item hmem (hposition.trans heq.symm)
  refine ⟨index, hitem, ?_⟩
  rw [clearFor_of_get? hcell hitem, hothers]
  rfl

/-- **Room for FREE** is made by the items, and the configuration stays. -/
theorem makesRoom_of_yields_clearFor {target : Position} {cleared : Change}
    (hboard : Board.ofCard card = .ok board) (h : (card.clearFor board target).Yields cleared) :
    cleared.card.config = card.config ∧
      card.MakesRoom target cleared.card.items cleared.displaced := by
  by_cases hheld : ∃ item ∈ card.items, item.position = target
  · obtain ⟨item, hmem, hposition⟩ := hheld
    obtain ⟨index, hitem, hclear⟩ := exists_clearFor_eq hboard hmem hposition
    rw [hclear] at h
    obtain ⟨destination, hchoice, h⟩ := Yields.of_bind h
    have hempty := Edit.mem_of_yields_chooseOr hchoice
    obtain rfl := Edit.yields_pure.1 h
    exact ⟨rfl, .moves hitem hposition ((Board.mem_emptyPositions_iff hboard).1 hempty)⟩
  · have hnone : ∀ item ∈ card.items, item.position ≠ target := by simpa using hheld
    rw [clearFor_of_forall_ne hboard hnone] at h
    obtain rfl := Edit.yields_pure.1 h
    exact ⟨rfl, .stays hnone⟩

/-- **FREE can be put into a cell in which room has been made.** -/
theorem MakesRoom.kept {items : List Item} {displaced : Option Displacement}
    (h : card.MakesRoom p items displaced) (hkept : card.Kept) (hfree : card.config.FreeOnGrid)
    (hrange : card.config.size.contains p = true) :
    Kept ⟨{ card.config with free := some p }, items⟩ := by
  cases h with
  | stays hnone => exact hkept.with_free hrange hnone
  | moves hitem hposition hvacant =>
    subst hposition
    obtain ⟨hmoved, hnone⟩ := hkept.withMoved hfree hitem hvacant
    exact hmoved.with_free hrange hnone

theorem kept_of_yields_clearFor {target : Position} {cleared : Change}
    (hfree : card.config.FreeOnGrid) (hboard : Board.ofCard card = .ok board)
    (hrange : card.config.size.contains target = true)
    (h : (card.clearFor board target).Yields cleared) :
    Kept { cleared.card with config := { card.config with free := some target } } :=
  (makesRoom_of_yields_clearFor hboard h).2.kept (kept_of_ofCard hfree hboard) hfree hrange

/-! ## All items -/

/-- Exchanging two positions is a transposition. -/
theorem exchanged_eq_swap (a b : Position) : exchanged a b = Equiv.swap a b :=
  funext fun p => (Equiv.swap_apply_def a b p).symm

theorem exchanged_exchanged (a b p : Position) : exchanged a b (exchanged a b p) = p := by
  rw [exchanged_eq_swap, Equiv.swap_apply_self]

/-- The card with FREE and the items of two cells exchanged. -/
def withExchanged (card : Card) (a b : Position) : Card :=
  ⟨{ card.config with free := card.config.free.map (exchanged a b) },
    card.items.map fun item => item.movedTo (exchanged a b item.position)⟩

section Exchanges

variable {a b q : Position}

theorem exchanged_of_ne (ha : q ≠ a) (hb : q ≠ b) : exchanged a b q = q := by
  rw [exchanged, if_neg ha, if_neg hb]

theorem contains_exchanged {size : GridSize} (ha : size.contains a = true)
    (hb : size.contains b = true) : size.contains (exchanged a b q) = size.contains q := by
  rw [exchanged]
  split_ifs with h h'
  · rw [h, ha, hb]
  · rw [h', ha, hb]
  · rfl

theorem freeOnGrid_withExchanged (hfree : card.config.FreeOnGrid)
    (ha : card.config.size.contains a = true) (hb : card.config.size.contains b = true) :
    (card.withExchanged a b).config.FreeOnGrid := by
  intro q hq
  obtain ⟨p, hp, rfl⟩ := Option.map_eq_some_iff.1 hq
  exact (contains_exchanged ha hb).trans (hfree p hp)

theorem isFree_withExchanged :
    (card.withExchanged a b).config.isFree q = card.config.isFree (exchanged a b q) := by
  rw [Config.isFree, Config.isFree, withExchanged, Bool.eq_iff_iff, beq_iff_eq, beq_iff_eq,
    Option.map_eq_some_iff]
  constructor
  · rintro ⟨p, hfree, rfl⟩
    rw [hfree, exchanged_exchanged]
  · exact fun hfree => ⟨exchanged a b q, hfree, exchanged_exchanged a b q⟩

theorem map_position_withExchanged : (card.withExchanged a b).items.map Item.position =
    (card.items.map Item.position).map (exchanged a b) := by
  rw [withExchanged, List.map_map, List.map_map]
  rfl

/-- **Two cells of the grid can be exchanged.** -/
theorem Kept.withExchanged (h : card.Kept) (hfree : card.config.FreeOnGrid)
    (ha : card.config.size.contains a = true) (hb : card.config.size.contains b = true) :
    (card.withExchanged a b).Kept := by
  refine kept_of_open (freeOnGrid_withExchanged hfree ha hb) (fun item hitem => ?_) ?_
    fun item hitem => ?_
  · obtain ⟨old, hold, rfl⟩ := List.mem_map.1 hitem
    refine Config.admits_iff.2 ⟨(contains_exchanged ha hb).trans (h.inRange old hold), ?_⟩
    rw [isFree_withExchanged]
    exact (exchanged_exchanged a b old.position).symm ▸ h.vacant old hold
  · rw [map_position_withExchanged]
    refine h.distinct.map ?_
    exact Function.LeftInverse.injective (exchanged_exchanged a b)
  · obtain ⟨old, hold, rfl⟩ := List.mem_map.1 hitem
    exact h.notBlank old hold

/-- Exchanging two cells that are not FREE leaves FREE where it is. -/
theorem withExchanged_of_not_free (ha : card.config.isFree a = false)
    (hb : card.config.isFree b = false) : card.withExchanged a b = { card with
      items := card.items.map fun item => item.movedTo (exchanged a b item.position) } := by
  have hsame : card.config.free.map (exchanged a b) = card.config.free := by
    cases hfree : card.config.free with
    | none => rfl
    | some p =>
      have hpa : p ≠ a := by rintro rfl; simp [Config.isFree, hfree] at ha
      have hpb : p ≠ b := by rintro rfl; simp [Config.isFree, hfree] at hb
      rw [Option.map_some, exchanged_of_ne hpa hpb]
  rw [withExchanged, hsame]

end Exchanges

/-- Items that are put into the cells of others are in these cells. -/
theorem map_position_zipWith_movedTo {shuffled slots : List Item}
    (hlength : shuffled.length = slots.length) :
    (List.zipWith (fun item slot : Item => item.movedTo slot.position) shuffled slots).map
      Item.position = slots.map Item.position := by
  refine List.ext_getElem (by simp [hlength]) fun i hi hi' => ?_
  simp [Item.movedTo]

/-- **The items can be put into their cells in another order.** -/
theorem Kept.rearrange (h : card.Kept) (hfree : card.config.FreeOnGrid) {shuffled slots : List Item}
    (hshuffled : shuffled.Perm card.items) (hslots : slots.Perm card.items) : Kept { card with
      items := List.zipWith (fun item slot => item.movedTo slot.position) shuffled slots } := by
  have hlength : shuffled.length = slots.length := hshuffled.length_eq.trans hslots.length_eq.symm
  have hpositions := map_position_zipWith_movedTo hlength
  have hmem : ∀ item ∈ List.zipWith (fun item slot : Item => item.movedTo slot.position)
      shuffled slots, ∃ goal ∈ card.items, ∃ slot ∈ card.items,
        item = goal.movedTo slot.position := by
    intro item hitem
    obtain ⟨i, hi, rfl⟩ := List.mem_iff_getElem.1 hitem
    rw [List.getElem_zipWith]
    have hgoal := hshuffled.mem_iff.1 (List.getElem_mem (List.lt_length_left_of_zipWith hi))
    have hslot := hslots.mem_iff.1 (List.getElem_mem (List.lt_length_right_of_zipWith hi))
    exact ⟨_, hgoal, _, hslot, rfl⟩
  refine kept_of_open hfree (fun item hitem => ?_) ?_ fun item hitem => ?_
  · obtain ⟨goal, -, slot, hslot, rfl⟩ := hmem item hitem
    have hadmits := h.admits hslot
    exact hadmits
  · rw [hpositions]
    exact (hslots.map Item.position).nodup_iff.2 h.distinct
  · obtain ⟨goal, hgoal, slot, -, rfl⟩ := hmem item hitem
    exact h.notBlank goal hgoal

/-- Goals take the cells one after another, as far as there are goals. -/
theorem map_position_placedGoals (goals : List Item) (cells : List Position) :
    (placedGoals goals cells).map Item.position = cells.take goals.length := by
  refine List.ext_getElem (by simp [placedGoals]) fun i hi hi' => ?_
  simp [placedGoals]

/-- **Goals can be put into different open cells.** -/
theorem kept_placedGoals {config : Config} (hfree : config.FreeOnGrid) {goals : List Item}
    {cells : List Position} (hblank : ∀ goal ∈ goals, Text.isBlankText goal.content = false)
    (hopen : ∀ q ∈ cells, config.admits q = true) (hdistinct : cells.Nodup) :
    Kept { config, items := placedGoals goals cells } := by
  have hpositions := map_position_placedGoals goals cells
  refine kept_of_open hfree (fun item hitem => ?_) ?_ fun item hitem => ?_
  · have hcell : item.position ∈ cells.take goals.length :=
      hpositions ▸ List.mem_map_of_mem hitem
    exact hopen _ (List.mem_of_mem_take hcell)
  · rw [hpositions]
    exact hdistinct.sublist (List.take_sublist ..)
  · obtain ⟨i, hi, rfl⟩ := List.mem_iff_getElem.1 hitem
    have hgoal := hblank _ (List.getElem_mem (List.lt_length_left_of_zipWith hi))
    simpa [placedGoals] using hgoal

end Card

end GoalGrid
