import GoalGrid.Card.Operation
import GoalGrid.Proofs.Checks
/-!
# Edits — what they can yield

An edit yields a result when some generator makes it give that. This file
says what each edit of a card can yield, guards included, and forgets
which generator it takes: one lemma per edit, from which what edits keep
is read off without opening them again.
-/

namespace GoalGrid

instance : Nonempty Generator := ⟨⟨⟨fun _ => 0, 0⟩, 0⟩⟩

namespace Edit

variable {α β : Type} {x : α} {y : β} {cause : CardError}

/-- An edit yields a result when some generator makes it give that. -/
def Yields (e : Edit α) (x : α) : Prop :=
  ∃ g, (e.outcome g).1 = .ok x

@[simp] theorem yields_pure {x' : α} : (pure x : Edit α).Yields x' ↔ x = x' := by
  simp [Yields]

@[simp] theorem not_yields_throw : ¬ (throw cause : Edit α).Yields x := by
  simp [Yields]

@[simp] theorem yields_ofExcept {result : Except CardError α} :
    (ofExcept result).Yields x ↔ result = .ok x := by
  simp [Yields]

theorem yields_ofDraw {f : Generator → α × Generator} (h : (ofDraw f).Yields x) :
    ∃ g, (f g).1 = x := by
  obtain ⟨g, hg⟩ := h
  exact ⟨g, Except.ok.inj hg⟩

/-- **What an edit after an edit yields**: the first one yields something,
and the second one yields the result from there. -/
theorem Yields.of_bind {e : Edit α} {f : α → Edit β} (h : (e >>= f).Yields y) :
    ∃ x, e.Yields x ∧ (f x).Yields y := by
  obtain ⟨g, hg⟩ := h
  rw [outcome_bind] at hg
  rcases he : e.outcome g with ⟨cause | x, g'⟩
  · rw [he] at hg
    cases hg
  · rw [he] at hg
    exact ⟨x, ⟨g, by rw [he]⟩, g', hg⟩

/-- An edit that yields something has passed the check at its start. -/
theorem Yields.of_guard {c : Prop} [Decidable c] {f : PUnit → Edit α}
    (h : (if c then throw cause >>= f else f ⟨⟩).Yields x) : ¬ c ∧ (f ⟨⟩).Yields x := by
  split at h
  · obtain ⟨_, hthrow, -⟩ := h.of_bind
    exact absurd hthrow not_yields_throw
  · exact ⟨by assumption, h⟩

/-- A choice yields an entry of the list. -/
theorem mem_of_yields_chooseOr {xs : List α} (h : (chooseOr cause xs).Yields x) : x ∈ xs := by
  obtain ⟨choice, hdraw, h⟩ := h.of_bind
  obtain ⟨g, rfl⟩ := yields_ofDraw hdraw
  rw [Generator.choose] at h
  by_cases hempty : xs.isEmpty = true
  · rw [if_pos hempty] at h
    exact absurd h not_yields_throw
  · rw [if_neg hempty] at h
    dsimp only at h
    split at h
    · rename_i entry hentry
      obtain rfl := yields_pure.1 h
      exact List.mem_of_getElem? hentry
    · exact absurd h not_yields_throw

/-- An edit that displaces nothing yields the card that it makes. -/
theorem yields_card {e : Edit Card} {change : Change}
    (h : (do return { card := ← e } : Edit Change).Yields change) : e.Yields change.card := by
  obtain ⟨card, hcard, h⟩ := h.of_bind
  obtain rfl := yields_pure.1 h
  exact hcard

end Edit

open Edit (Yields)

/-! ## Configurations -/

namespace Config

variable {config config' : Config} {size : GridSize}

/-- FREE goes to the center, or to a cell of the list. -/
theorem of_yields_freeTarget {vacant : List Position} {p : Position}
    (h : (freeTarget size vacant).Yields p) : size.center = some p ∨ p ∈ vacant := by
  rw [freeTarget] at h
  split at h
  · obtain rfl := Edit.yields_pure.1 h
    exact .inl (by assumption)
  · exact .inr (Edit.mem_of_yields_chooseOr h)

/-- **A new configuration** is a draft of its size with the header in
normal form, and with FREE on the grid if it is wanted. -/
theorem of_yields_create {header : Option String} {hasFree : Option Bool}
    (h : (create size header hasFree).Yields config) :
    size.normalizeHeader (header.getD size.defaultHeader) = .ok config.header ∧
      config.size = size ∧ config.phase = .draft ∧ config.hasFree = hasFree.getD true ∧
      ∀ p ∈ config.free, size.contains p = true := by
  obtain ⟨text, htext, h⟩ := Yields.of_bind h
  rw [Edit.yields_ofExcept] at htext
  split at h
  · rename_i hfree
    obtain ⟨target, htarget, h⟩ := h.of_bind
    obtain rfl := Edit.yields_pure.1 h
    refine ⟨htext, rfl, rfl, hfree.symm, fun p hp => ?_⟩
    obtain rfl := Option.some.inj hp
    rcases of_yields_freeTarget htarget with hcenter | hmem
    · exact GridSize.contains_of_center hcenter
    · simp only [GridSize.positions, List.mem_map, List.mem_range] at hmem
      obtain ⟨i, hi, rfl⟩ := hmem
      exact decide_eq_true hi
  · rename_i hfree
    obtain rfl := Edit.yields_pure.1 h
    exact ⟨htext, rfl, rfl, (by simpa using hfree : hasFree.getD true = false).symm, by simp⟩

end Config

/-! ## The FREE cell -/

namespace Card

variable {card card' : Card} {board : Board} {change : Change} {target : Position}

/-- In a cell without an item there is room for FREE. -/
theorem clearFor_of_get?_ne (h : ∀ i, board.get? target ≠ some (.item i)) :
    card.clearFor board target = pure { card } := by
  rw [clearFor]
  split
  · rename_i i hcell
    exact absurd hcell (h i)
  · rfl

/-- Room for FREE in the cell of an item: the item moves to another cell. -/
theorem clearFor_of_get? {i : Nat} {item : Item} (hcell : board.get? target = some (.item i))
    (hitem : card.items[i]? = some item) :
    card.clearFor board target = do
      let destination ← Edit.chooseOr .cardFull (board.emptyPositions.filter (· ≠ target))
      return { card := { card with items := card.items.set i (item.movedTo destination) }
               displaced := some ⟨item.content, target, destination⟩ } := by
  rw [clearFor, hcell]
  dsimp only
  rw [displace, hitem]

/-- A card after an item has moved to another cell. -/
def withMoved (card : Card) (index : Nat) (item : Item) (p : Position) : Card :=
  { card with items := card.items.set index (item.movedTo p) }

/-- **Making room** leaves the card alone, or moves the item in the cell to
another empty one. -/
theorem of_yields_clearFor (h : (card.clearFor board target).Yields change) :
    change = { card } ∨ ∃ index item destination,
      board.get? target = some (.item index) ∧ card.items[index]? = some item ∧
      destination ∈ board.emptyPositions ∧ destination ≠ target ∧
      change = ⟨card.withMoved index item destination,
        some ⟨item.content, target, destination⟩⟩ := by
  rw [clearFor] at h
  split at h
  · rename_i index hcell
    obtain ⟨destination, hchoice, h⟩ := Yields.of_bind h
    obtain ⟨hempty, hne⟩ := List.mem_filter.1 (Edit.mem_of_yields_chooseOr hchoice)
    -- the board may be one of another card, so that the number need not be one of an item
    split at h
    · rename_i item hitem
      obtain rfl := Edit.yields_pure.1 h
      exact .inr ⟨index, item, destination, hcell, hitem, hempty, by simpa using hne, rfl⟩
    · obtain rfl := Edit.yields_pure.1 h
      exact .inl rfl
  · obtain rfl := Edit.yields_pure.1 h
    exact .inl rfl

/-- **Putting FREE into a cell** makes room and changes nothing else but
where FREE is; the card that comes out keeps every promise. -/
theorem of_yields_putFree (h : (card.putFree board target).Yields change) :
    ∃ cleared, (card.clearFor board target).Yields cleared ∧
      change.card = { cleared.card with config := { card.config with free := some target } } ∧
      change.displaced = cleared.displaced ∧
      ∀ promise : Invariant, promise.holds change.card = true := by
  obtain ⟨cleared, hcleared, h⟩ := Yields.of_bind h
  obtain ⟨card', hcard', h⟩ := h.of_bind
  obtain ⟨hholds, rfl⟩ := verify_eq_ok_iff.1 (Edit.yields_ofExcept.1 hcard')
  obtain rfl := Edit.yields_pure.1 h
  exact ⟨cleared, hcleared, rfl, rfl, hholds⟩

theorem of_yields_enableFree (h : card.enableFree.Yields change) :
    card.config.phase = .draft ∧ card.config.hasFree = false ∧
      ∃ board target, Board.ofCard card = .ok board ∧
        (Config.freeTarget card.config.size board.emptyPositions).Yields target ∧
        (card.putFree board target).Yields change := by
  obtain ⟨⟨⟩, hdraft, h⟩ := Yields.of_bind h
  obtain ⟨hfree, h⟩ := Yields.of_guard h
  obtain ⟨board, hboard, h⟩ := h.of_bind
  obtain ⟨target, htarget, h⟩ := h.of_bind
  exact ⟨Config.checkDraft_eq_ok_iff.1 (Edit.yields_ofExcept.1 hdraft), by simpa using hfree,
    board, target, Edit.yields_ofExcept.1 hboard, htarget, h⟩

theorem disableFree_eq_ok_iff : card.disableFree = .ok card' ↔
    card.config.phase = .draft ∧ card.config.hasFree = true ∧
      card' = { card with config := { card.config with free := none } } := by
  rw [disableFree, check_bind_eq_ok_iff, Config.checkDraft_eq_ok_iff]
  refine and_congr_right fun _ => ?_
  split
  · rw [return_eq_ok_iff]
    exact ⟨fun h => ⟨by assumption, h⟩, And.right⟩
  · exact ⟨fun h => (nomatch h), fun h => absurd h.1 (by assumption)⟩

/-- Moving FREE to where it is changes nothing; any other move puts it there. -/
theorem of_yields_moveFree (h : (card.moveFree target).Yields change) :
    card.config.phase = .draft ∧ card.config.size.contains target = true ∧
      ∃ current, card.config.free = some current ∧
        (current = target ∧ change = { card } ∨ current ≠ target ∧
          ∃ board, Board.ofCard card = .ok board ∧ (card.putFree board target).Yields change) := by
  obtain ⟨⟨⟩, hdraft, h⟩ := Yields.of_bind h
  have hdraft := Config.checkDraft_eq_ok_iff.1 (Edit.yields_ofExcept.1 hdraft)
  split at h
  · exact absurd h Edit.not_yields_throw
  · rename_i current hcurrent
    obtain ⟨⟨⟩, hrange, h⟩ := h.of_bind
    have hrange := GridSize.checkPosition_eq_ok_iff.1 (Edit.yields_ofExcept.1 hrange)
    refine ⟨hdraft, hrange, current, hcurrent, ?_⟩
    split at h
    · obtain rfl := Edit.yields_pure.1 h
      exact .inl ⟨by assumption, rfl⟩
    · obtain ⟨board, hboard, h⟩ := h.of_bind
      exact .inr ⟨by assumption, board, Edit.yields_ofExcept.1 hboard, h⟩

/-! ## Header, size and items -/

theorem setHeader_eq_ok_iff {text : String} : card.setHeader text = .ok card' ↔
    card.config.phase = .draft ∧ ∃ header, card.config.size.normalizeHeader text = .ok header ∧
      card' = { card with config := { card.config with header } } := by
  rw [setHeader, check_bind_eq_ok_iff, Config.checkDraft_eq_ok_iff, bind_eq_ok_iff]
  simp only [return_eq_ok_iff]

theorem of_yields_resize {size : GridSize} (h : (card.resize size).Yields card') :
    card.config.phase = .draft ∧ card.items = [] ∧
      (Config.create size (some (GridSize.resizedHeader card.config.header card.config.size size))
        (some card.config.hasFree)).Yields card'.config ∧ card'.items = card.items := by
  obtain ⟨⟨⟩, hdraft, h⟩ := Yields.of_bind h
  obtain ⟨hempty, h⟩ := Yields.of_guard h
  obtain ⟨config, hconfig, h⟩ := h.of_bind
  obtain rfl := Edit.yields_pure.1 h
  exact ⟨Config.checkDraft_eq_ok_iff.1 (Edit.yields_ofExcept.1 hdraft), by simpa using hempty,
    hconfig, rfl⟩

/-- **Adding** puts one item with the trimmed text at the end of the list. -/
theorem of_yields_add {content : String} {position : Option Position}
    (h : (card.add content position).Yields card') :
    card.config.phase = .draft ∧ Text.trim content ≠ "" ∧
      (∃ board p, Board.ofCard card = .ok board ∧ board.isFull = false ∧
        (cellFor board position).Yields p ∧ card' = { card with
          items := card.items ++ [{ position := p, content := Text.trim content }] }) ∧
      ∀ promise : Invariant, promise.holds card' = true := by
  obtain ⟨⟨⟩, hdraft, h⟩ := Yields.of_bind h
  obtain ⟨hcontent, h⟩ := Yields.of_guard h
  obtain ⟨board, hboard, h⟩ := h.of_bind
  obtain ⟨hfull, h⟩ := Yields.of_guard h
  obtain ⟨p, hp, h⟩ := h.of_bind
  obtain ⟨hholds, rfl⟩ := verify_eq_ok_iff.1 (Edit.yields_ofExcept.1 h)
  exact ⟨Config.checkDraft_eq_ok_iff.1 (Edit.yields_ofExcept.1 hdraft), by simpa using hcontent,
    ⟨board, p, Edit.yields_ofExcept.1 hboard, by simpa using hfull, hp, rfl⟩, hholds⟩

theorem checkHeld_eq_ok_iff {p : Position} : card.checkHeld p = .ok () ↔
    card.config.size.contains p = true ∧ card.holdsAt p = true := by
  rw [checkHeld, check_bind_eq_ok_iff, GridSize.checkPosition_eq_ok_iff]
  refine and_congr_right fun _ => ?_
  split <;> simp_all

theorem remove_eq_ok_iff {p : Position} : card.remove p = .ok card' ↔
    card.config.phase = .draft ∧ (card.config.size.contains p = true ∧ card.holdsAt p = true) ∧
      card' = { card with items := card.items.filter fun item => item.position != p } := by
  rw [remove, check_bind_eq_ok_iff, check_bind_eq_ok_iff, Config.checkDraft_eq_ok_iff,
    checkHeld_eq_ok_iff, return_eq_ok_iff]

theorem setCompleted_eq_ok_iff {p : Position} {done : Bool} : card.setCompleted p done = .ok card' ↔
    (card.config.size.contains p = true ∧ card.holdsAt p = true) ∧
      card' = { card with
        items := card.items.map fun item =>
          if item.position = p then item.marked done else item } := by
  rw [setCompleted, check_bind_eq_ok_iff, checkHeld_eq_ok_iff, return_eq_ok_iff]

/-! ## Arranging, finalizing and copying -/

/-- **Shuffling** puts the items that a shuffle of them gives, one after
another, into the cells that they occupied. -/
theorem of_yields_shuffle (h : card.shuffle.Yields card') :
    card.config.phase = .draft ∧ (∃ board, Board.ofCard card = .ok board) ∧
      (∃ g, card' = ⟨card.config, List.zipWith (fun item slot => item.movedTo slot.position)
        (Random.shuffle (byPosition card.items) g).1 (byPosition card.items)⟩) ∧
      ∀ promise : Invariant, promise.holds card' = true := by
  obtain ⟨⟨⟩, hdraft, h⟩ := Yields.of_bind h
  obtain ⟨board, hboard, h⟩ := h.of_bind
  obtain ⟨shuffled, hdraw, h⟩ := h.of_bind
  obtain ⟨g, rfl⟩ := Edit.yields_ofDraw hdraw
  obtain ⟨hholds, rfl⟩ := verify_eq_ok_iff.1 (Edit.yields_ofExcept.1 h)
  exact ⟨Config.checkDraft_eq_ok_iff.1 (Edit.yields_ofExcept.1 hdraft),
    ⟨board, Edit.yields_ofExcept.1 hboard⟩, ⟨g, rfl⟩, hholds⟩

/-- **Exchanging two cells** moves FREE if one of them is FREE, and else
takes the items of each to the other. When both are FREE, it looks at no
items. -/
theorem of_yields_swap {a b : Position} (h : (card.swap a b).Yields card') :
    card.config.phase = .draft ∧ card.config.size.contains a = true ∧
      card.config.size.contains b = true ∧
      (card' = card ∧ (card.config.isFree a = true ∧ card.config.isFree b = true ∨
        ∃ board, Board.ofCard card = .ok board) ∨
      (∃ target change, card.config.isFree target = false ∧
        (card.moveFree target).Yields change ∧ card' = change.card) ∨
      (∃ board, Board.ofCard card = .ok board) ∧ card' = { card with
        items := card.items.map fun item => item.movedTo (exchanged a b item.position) } ∧
      ∀ promise : Invariant, promise.holds card' = true) := by
  obtain ⟨⟨⟩, hchecks, h⟩ := Yields.of_bind h
  have hchecks := Edit.yields_ofExcept.1 hchecks
  rw [check_bind_eq_ok_iff, check_bind_eq_ok_iff, Config.checkDraft_eq_ok_iff,
    GridSize.checkPosition_eq_ok_iff, GridSize.checkPosition_eq_ok_iff] at hchecks
  refine ⟨hchecks.1, hchecks.2.1, hchecks.2.2, ?_⟩
  -- the cases: both cells are FREE, only the first, only the second, neither
  split at h
  · exact .inl ⟨(Edit.yields_pure.1 h).symm, .inl ⟨by assumption, by assumption⟩⟩
  · obtain ⟨change, hchange, h⟩ := h.of_bind
    exact .inr (.inl ⟨b, change, by assumption, hchange, (Edit.yields_pure.1 h).symm⟩)
  · obtain ⟨change, hchange, h⟩ := h.of_bind
    exact .inr (.inl ⟨a, change, by assumption, hchange, (Edit.yields_pure.1 h).symm⟩)
  · obtain ⟨board, hboard, h⟩ := h.of_bind
    split at h
    · exact .inl ⟨(Edit.yields_pure.1 h).symm, .inr ⟨board, Edit.yields_ofExcept.1 hboard⟩⟩
    · obtain ⟨hholds, rfl⟩ := verify_eq_ok_iff.1 (Edit.yields_ofExcept.1 h)
      exact .inr (.inr ⟨⟨board, Edit.yields_ofExcept.1 hboard⟩, rfl, hholds⟩)

theorem finalize_eq_ok_iff : card.finalize = .ok card' ↔
    card.config.phase = .draft ∧ (∃ board, Board.ofCard card = .ok board) ∧
      card.items.length = card.config.capacity ∧
      card' = { card with config := { card.config with phase := .finalized } } := by
  rw [finalize, check_bind_eq_ok_iff, Config.checkDraft_eq_ok_iff, bind_eq_ok_iff]
  refine and_congr_right fun _ => ?_
  split <;> simp_all

/-- The goals of a card as the items of its copy, in cells that are drawn. -/
def copiedGoals (card : Card) (config : Config) (g : Generator) : List Item :=
  let goals := (byPosition card.items).take config.capacity
  let vacant := config.size.positions.filter fun p => !config.isFree p
  placedGoals goals (Random.pick (Random.slots goals.length vacant.length g).1 vacant)

/-- **A copy** is a new draft, which keeps every promise, with goals of the
card in cells that are drawn. -/
theorem of_yields_copy {size : GridSize} {hasFree : Bool} {copy : CardCopy}
    (h : (card.copy size hasFree).Yields copy) :
    (∃ board, Board.ofCard card = .ok board) ∧
      (Config.create size (some (GridSize.resizedHeader card.config.header card.config.size size))
        (some hasFree)).Yields copy.card.config ∧
      (∃ g, copy.card.items = card.copiedGoals copy.card.config g) ∧
      copy.truncated = decide (copy.card.config.capacity < card.items.length) ∧
      ∀ promise : Invariant, promise.holds copy.card = true := by
  obtain ⟨board, hboard, h⟩ := Yields.of_bind h
  obtain ⟨config, hconfig, h⟩ := h.of_bind
  obtain ⟨slots, hdraw, h⟩ := h.of_bind
  obtain ⟨copied, hcopied, h⟩ := h.of_bind
  obtain ⟨hholds, rfl⟩ := verify_eq_ok_iff.1 (Edit.yields_ofExcept.1 hcopied)
  obtain rfl := Edit.yields_pure.1 h
  obtain ⟨g, rfl⟩ := Edit.yields_ofDraw hdraw
  obtain ⟨-, rfl, -⟩ := Config.of_yields_create hconfig
  exact ⟨⟨board, Edit.yields_ofExcept.1 hboard⟩, hconfig, ⟨g, rfl⟩, rfl, hholds⟩

end Card

end GoalGrid
