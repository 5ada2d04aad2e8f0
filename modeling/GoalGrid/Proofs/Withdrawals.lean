import GoalGrid.Proofs.Additions
import GoalGrid.Proofs.FreeCell
/-!
# Withdrawals — FREE taken off, and put back

Taking FREE off a draft looks at no item, and is safe all the same: on a card
with a board no item is in the FREE cell, so that items are placed alike
whatever that cell holds (`placeAll_put`). The new board is the old one with
the cell empty (`ofCard_withoutFree`), there is room for one item more, and
the cell takes an item, or FREE again (`free_taken_off_and_back`). In the
middle of an odd grid FREE comes back to where it was.
-/

namespace GoalGrid

namespace Board

variable {board placed : Board} {items : List Item} {p q : Position} {cell other : Cell}
variable {index : Nat} {config : Config} {free : Position}

/-! ## Cells without an item -/

theorem put_comm (h : p ≠ q) :
    (board.put p cell).put q other = (board.put q other).put p cell := by
  have hindex : p.index ≠ q.index := fun heq => h (by cases p; cases q; simpa using heq)
  rw [put, put, put, put, List.set_comm _ _ hindex]

/-- **Items are placed alike whatever another cell holds.** -/
theorem placeAll_put (h : board.placeAll index items = .ok placed)
    (hp : ∀ item ∈ items, item.position ≠ p) :
    (board.put p cell).placeAll index items = .ok (placed.put p cell) := by
  induction items generalizing board index with
  | nil =>
    obtain rfl := Except.ok.inj h
    rfl
  | cons item items ih =>
    obtain ⟨first, hfirst, hrest⟩ := placeAll_cons_eq_ok_iff.1 h
    obtain ⟨⟨hblank, hrange, hempty⟩, rfl⟩ := place_eq_ok_iff.1 hfirst
    have hne := hp item List.mem_cons_self
    have hempty' : (board.put p cell).isEmpty item.position = true := by
      rwa [isEmpty, get?_put_of_ne hne, ← isEmpty]
    refine placeAll_cons_eq_ok_iff.2 ⟨_, place_eq_ok_iff.2 ⟨⟨hblank, hrange, hempty'⟩, rfl⟩, ?_⟩
    rw [put_comm hne.symm]
    exact ih hrest fun other hother => hp other (List.mem_cons_of_mem _ hother)

/-- The board of a configuration without FREE has its cell empty. -/
theorem ofConfig_without_free (hcurrent : config.free = some free) :
    ofConfig { config with free := none } = (ofConfig config).put free .empty := by
  rw [ofConfig, ofConfig, hcurrent]
  simp [put, vacant, List.set_replicate_self]

end Board

/-- Without FREE a card holds one item more. -/
theorem Config.capacity_without_free {config : Config} {free : Position}
    (hcurrent : config.free = some free) :
    { config with free := none : Config }.capacity = config.capacity + 1 := by
  have hcells : 0 < config.size.total := by cases config.size <;> decide
  simp only [capacity, hasFree, hcurrent, GridSize.capacity]
  exact (Nat.sub_add_cancel hcells).symm

namespace Card

variable {card : Card} {board : Board} {free : Position} (build : Build)

/-- The card without a FREE cell. -/
def withoutFree (card : Card) : Card :=
  { card with config := { card.config with free := none } }

theorem freeOnGrid_withoutFree : card.withoutFree.config.FreeOnGrid := by
  intro p hp
  cases hp

/-! ## A card without its FREE cell -/

section

variable (hfree : card.config.FreeOnGrid) (hcurrent : card.config.free = some free)
  (hboard : Board.ofCard card = .ok board)
include hfree hcurrent hboard

/-- No item is in the FREE cell. -/
theorem position_ne_free : ∀ item ∈ card.items, item.position ≠ free :=
  fun _ hitem => Config.ne_of_admits hcurrent ((kept_of_ofCard hfree hboard).admits hitem)

/-- **Taking FREE off empties its cell**, and changes no other one. -/
theorem ofCard_withoutFree : Board.ofCard card.withoutFree = .ok (board.put free .empty) := by
  have hempty := Board.ofConfig_without_free hcurrent
  have hnone := position_ne_free hfree hcurrent hboard
  rw [Board.ofCard, withoutFree, hempty]
  exact Board.placeAll_put hboard hnone

/-- The cell that FREE leaves is vacant. -/
theorem vacant_withoutFree : card.withoutFree.Vacant free := by
  have hnone := position_ne_free hfree hcurrent hboard
  exact ⟨Config.admits_iff.2 ⟨hfree free hcurrent, rfl⟩, hnone⟩

end

/-- **FREE goes back** to the middle of the grid, where no item is in the way. -/
theorem enableFreeIn_withoutFree (hdraft : card.config.phase = .draft)
    (hfree : card.config.FreeOnGrid) (hcurrent : card.config.free = some free)
    (hboard : Board.ofCard card = .ok board) (hcenter : card.config.size.center = some free) :
    card.withoutFree.enableFreeIn build = pure { card } := by
  have hdraftWithout : card.withoutFree.config.phase = .draft := hdraft
  have hboardWithout := ofCard_withoutFree hfree hcurrent hboard
  have hnone := (vacant_withoutFree hfree hcurrent hboard).2
  have hfreeWithout : card.withoutFree.config.FreeOnGrid := freeOnGrid_withoutFree
  have hcenterWithout : card.withoutFree.config.size.center = some free := hcenter
  rw [enableFreeIn_eq build hfreeWithout, ← enableFreeIn_eq .release hfreeWithout,
    enableFreeIn_eq_bind .release hdraftWithout rfl hboardWithout, Config.freeTarget,
    hcenterWithout]
  dsimp only
  rw [pure_bind, putFreeIn_eq_pure hboardWithout hnone, withoutFree, ← hcurrent]

/-- **FREE can be taken off every draft, and put back.** On a draft with FREE
and a board, FREE is taken off whatever the items are. The card still has a
board: its cells are the old ones but that of FREE, which is empty, and there
is room for one item more. Every text that is not blank can be added there,
and FREE can be put on the card again, whatever the generator is. When FREE was
in the middle of an odd grid, that gives the card back as it was, with nothing
displaced and nothing drawn. -/
theorem free_taken_off_and_back (hdraft : card.config.phase = .draft)
    (hfree : card.config.FreeOnGrid) (hcurrent : card.config.free = some free)
    (hboard : Board.ofCard card = .ok board) :
    card.disableFree = .ok card.withoutFree ∧
    (∃ after, Board.ofCard card.withoutFree = .ok after ∧ after.get? free = some .empty ∧
      ∀ p, p ≠ free → after.get? p = board.get? p) ∧
    card.withoutFree.config.capacity = card.config.capacity + 1 ∧
    (∀ content, Text.trim content ≠ "" → ∀ g,
      (card.withoutFree.addIn build content (some free)).outcome g =
        (.ok (card.withoutFree.withAdded content free), g)) ∧
    (∀ g, ∃ target change, ((card.withoutFree.enableFreeIn build).outcome g).1 = .ok change ∧
      card.withoutFree.FreeEnabled target change) ∧
    (card.config.size.center = some free → ∀ g,
      (card.withoutFree.enableFreeIn build).outcome g = (.ok ⟨card, none⟩, g)) := by
  have hhasFree : card.config.hasFree = true := by simp [Config.hasFree, hcurrent]
  have hdraftWithout : card.withoutFree.config.phase = .draft := hdraft
  have hfreeWithout : card.withoutFree.config.FreeOnGrid := freeOnGrid_withoutFree
  have hboardWithout := ofCard_withoutFree hfree hcurrent hboard
  have hvacant := vacant_withoutFree hfree hcurrent hboard
  refine ⟨disableFree_eq_ok_iff.2 ⟨hdraft, hhasFree, rfl⟩, ⟨_, hboardWithout, ?_, ?_⟩,
    Config.capacity_without_free hcurrent, fun content hcontent g => ?_, fun g => ?_,
    fun hcenter g => ?_⟩
  · exact beq_iff_eq.1 ((Board.isEmpty_iff hboardWithout).2 hvacant)
  · exact fun p hp => Board.get?_put_of_ne hp
  · rw [addIn_eq_pure build hdraftWithout hfreeWithout hboardWithout hcontent hvacant,
      Edit.outcome_pure]
  · -- the cell that FREE has left is empty, so that there is room for FREE somewhere
    have hroom := List.ne_nil_of_mem ((Board.mem_emptyPositions_iff hboardWithout).2 hvacant)
    obtain ⟨change, hchange⟩ := sure_enableFreeIn hdraftWithout rfl hboardWithout hroom g
    rw [enableFreeIn_eq .release hfreeWithout] at hchange
    obtain ⟨target, henabled⟩ := freeEnabled_of_yields hboardWithout ⟨g, hchange⟩
    refine ⟨target, change, ?_, henabled⟩
    rw [enableFreeIn_eq build hfreeWithout]
    exact hchange
  · rw [enableFreeIn_withoutFree build hdraft hfree hcurrent hboard hcenter, Edit.outcome_pure]

/-- A full card, where FREE leaves the one cell that is empty then; and FREE in
the middle of a grid. -/
theorem free_taken_off_and_back_full :
    let g := Generator.ofWords [7]
    let full : Card := ⟨⟨.two, "BI", some ⟨2⟩, .draft⟩,
      [⟨⟨3⟩, "run", true⟩, ⟨⟨0⟩, "swim", false⟩, ⟨⟨1⟩, "read", false⟩]⟩
    let off : Card := ⟨⟨.two, "BI", none, .draft⟩, full.items⟩
    let middle : Card := ⟨⟨.three, "BIN", some ⟨4⟩, .draft⟩, [⟨⟨8⟩, "run", true⟩]⟩
    full.disableFree = .ok off ∧ off.config.capacity = full.config.capacity + 1 ∧
      (off.add " cook" (some ⟨2⟩)).outcome g = (.ok (off.withAdded " cook" ⟨2⟩), g) ∧
      (∃ target change, (off.enableFree.outcome g).1 = .ok change ∧
        off.FreeEnabled target change) ∧
      middle.withoutFree.enableFree.outcome g = (.ok ⟨middle, none⟩, g) := by
  intro g full off middle
  have hfree : full.config.FreeOnGrid := Config.freeOnGrid_of_free rfl rfl
  have hfreeMiddle : middle.config.FreeOnGrid := Config.freeOnGrid_of_free rfl rfl
  have hboard : Board.ofCard full = .ok ⟨.two, [.item 1, .item 2, .free, .item 0]⟩ := rfl
  have hboardMiddle : Board.ofCard middle =
      .ok ⟨.three, [.empty, .empty, .empty, .empty, .free, .empty, .empty, .empty, .item 0]⟩ := rfl
  obtain ⟨hoff, -, hroom, hadd, hagain, -⟩ :=
    free_taken_off_and_back .debug rfl hfree rfl hboard
  obtain ⟨-, -, -, -, -, hback⟩ :=
    free_taken_off_and_back .debug rfl hfreeMiddle rfl hboardMiddle
  exact ⟨hoff, hroom, hadd " cook" (by decide) g, hagain g, hback rfl g⟩

end Card

end GoalGrid
