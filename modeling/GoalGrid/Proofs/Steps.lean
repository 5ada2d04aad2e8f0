import GoalGrid.Proofs.NormalForm
import GoalGrid.Proofs.Board
import GoalGrid.Proofs.Draws
import GoalGrid.Proofs.Yields
import Mathlib.Data.List.Sort
/-!
# Steps — what one operation does to a card

`Card.Step` lists what an operation can make of a card, and
`step_of_yields_apply` says that the list is complete. The edits that lay
items out anew are one entry of it (`Laid`): what they share is that they
end with a check of the promises. What operations keep is read off the
list: valid configurations (`Step.valid`), whatever the items are, and
sound cards (`Step.sound`).
-/

namespace GoalGrid

open Edit (Yields)

/-! ## Sound cards -/

/-- A configuration with a header in normal form and FREE, if there is one,
on its grid. -/
structure Config.Valid (config : Config) : Prop where
  header : config.size.NormalHeader config.header
  free : config.FreeOnGrid

namespace Card

variable {card card' : Card}

/-- What the five promises say. -/
structure Kept (card : Card) : Prop where
  inRange : ∀ item ∈ card.items, card.config.size.contains item.position = true
  distinct : (card.items.map Item.position).Nodup
  vacant : ∀ item ∈ card.items, card.config.isFree item.position = false
  capacity : card.items.length ≤ card.config.capacity
  notBlank : ∀ item ∈ card.items, Text.isBlankText item.content = false

theorem kept_iff : card.Kept ↔ ∀ promise : Invariant, promise.holds card = true := by
  constructor
  · rintro ⟨hrange, hdistinct, hvacant, hcapacity, hblank⟩ promise
    cases promise <;> simpa [Invariant.holds]
  · intro h
    exact ⟨by simpa [Invariant.holds] using h .positionsInRange,
      by simpa [Invariant.holds] using h .positionsUnique,
      by simpa [Invariant.holds] using h .freeVacant,
      by simpa [Invariant.holds] using h .withinCapacity,
      by simpa [Invariant.holds] using h .contentPresent⟩

/-- A card with a valid configuration that keeps every promise. -/
structure Sound (card : Card) : Prop extends card.Kept where
  config : card.config.Valid

/-- A card all of whose texts are trimmed. -/
def Tidy (card : Card) : Prop :=
  ∀ item ∈ card.items, Text.trim item.content = item.content

/-- **A card with a valid configuration is sound when it has a board.** -/
theorem sound_iff (hconfig : card.config.Valid) :
    card.Sound ↔ ∃ board, Board.ofCard card = .ok board := by
  constructor
  · exact fun h => exists_board_of_holds (kept_iff.1 h.toKept)
  · exact fun h => ⟨kept_iff.2 (holds_of_ofCard hconfig.free h), hconfig⟩

/-! ## Layouts -/

/-- Which goal is where, in the order of the items. -/
def layout (card : Card) : List (Position × String) :=
  card.items.map fun item => (item.position, item.content)

theorem exists_of_layout_eq (h : card'.layout = card.layout) {item : Item}
    (hitem : item ∈ card'.items) :
    ∃ old ∈ card.items, old.position = item.position ∧ old.content = item.content := by
  have hentry : (item.position, item.content) ∈ card.layout := h ▸ List.mem_map_of_mem hitem
  obtain ⟨old, hold, heq⟩ := List.mem_map.1 hentry
  exact ⟨old, hold, congrArg Prod.fst heq, congrArg Prod.snd heq⟩

/-- **The promises are about the layout**: the header, the phase and the
marks have no part in them. -/
theorem Kept.of_layout_eq (h : card.Kept) (hsize : card'.config.size = card.config.size)
    (hfree : card'.config.free = card.config.free) (hlayout : card'.layout = card.layout) :
    card'.Kept := by
  -- three promises are about each item, two about the list of all items
  refine ⟨fun item hitem => ?_, ?_, fun item hitem => ?_, ?_, fun item hitem => ?_⟩
  · obtain ⟨old, hold, hposition, -⟩ := exists_of_layout_eq hlayout hitem
    rw [hsize, ← hposition]
    exact h.inRange old hold
  · have hpositions := congrArg (List.map Prod.fst) hlayout
    simp only [layout, List.map_map] at hpositions
    exact hpositions ▸ h.distinct
  · obtain ⟨old, hold, hposition, -⟩ := exists_of_layout_eq hlayout hitem
    rw [Config.isFree, hfree, ← hposition]
    exact h.vacant old hold
  · have hlength := congrArg List.length hlayout
    simp only [layout, List.length_map] at hlength
    rw [hlength, Config.capacity, Config.hasFree, hsize, hfree]
    exact h.capacity
  · obtain ⟨old, hold, -, hcontent⟩ := exists_of_layout_eq hlayout hitem
    rw [← hcontent]
    exact h.notBlank old hold

/-- Fewer items keep the promises. -/
theorem Kept.of_sublist (h : card.Kept) {items : List Item} (hitems : items.Sublist card.items) :
    Kept { card with items } where
  inRange item hitem := h.inRange item (hitems.subset hitem)
  distinct := h.distinct.sublist (hitems.map _)
  vacant item hitem := h.vacant item (hitems.subset hitem)
  capacity := Nat.le_trans hitems.length_le h.capacity
  notBlank item hitem := h.notBlank item (hitems.subset hitem)

theorem kept_of_items_eq_nil (h : card.items = []) : card.Kept := by
  constructor <;> simp [h]

theorem capacity_le_without_free (config : Config) :
    config.capacity ≤ { config with free := none : Config }.capacity := by
  rw [Config.capacity, Config.capacity, GridSize.capacity, GridSize.capacity]
  split
  · exact Nat.sub_le ..
  · exact Nat.le_refl _

/-- Taking FREE off keeps the promises. -/
theorem Kept.without_free (h : card.Kept) :
    Kept { card with config := { card.config with free := none } } where
  inRange := h.inRange
  distinct := h.distinct
  vacant item _ := by simp [Config.isFree]
  capacity := Nat.le_trans h.capacity (capacity_le_without_free card.config)
  notBlank := h.notBlank

/-- Marking changes nothing of the layout. -/
theorem layout_marked {p : Position} {done : Bool} {items : List Item} :
    (items.map fun item => if item.position = p then item.marked done else item).map
      (fun item => (item.position, item.content)) =
    items.map fun item => (item.position, item.content) := by
  rw [List.map_map]
  refine List.map_congr_left fun item _ => ?_
  rw [Function.comp_apply]
  split <;> rfl

/-! ## The list of steps -/

/-- Every text on the second card is one of the first card, or trimmed. -/
def KeepsTexts (card card' : Card) : Prop :=
  ∀ item ∈ card'.items, Text.trim item.content = item.content ∨
    ∃ old ∈ card.items, old.content = item.content

/-- The items of a draft laid out anew, and FREE perhaps put elsewhere. -/
structure Laid (card card' : Card) : Prop where
  draft : card.config.phase = .draft
  size : card'.config.size = card.config.size
  header : card'.config.header = card.config.header
  phase : card'.config.phase = card.config.phase
  free : card'.config.free = card.config.free ∨
    ∃ p, card'.config.free = some p ∧ card.config.size.contains p = true
  texts : card.KeepsTexts card'
  holds : ∀ promise : Invariant, promise.holds card' = true

/-- What an operation can make of a card. -/
inductive Step (card : Card) : Card → Prop where
  | same : card.config.phase = .draft → Step card card
  | laid {card' : Card} : card.Laid card' → Step card card'
  | remove {card' : Card} {p : Position} : card.remove p = .ok card' → Step card card'
  | setCompleted {card' : Card} {p : Position} {done : Bool} :
      card.setCompleted p done = .ok card' → Step card card'
  | setHeader {card' : Card} {text : String} : card.setHeader text = .ok card' → Step card card'
  | resize {card' : Card} {size : GridSize} : (card.resize size).Yields card' → Step card card'
  | disableFree {card' : Card} : card.disableFree = .ok card' → Step card card'
  | finalize {card' : Card} : card.finalize = .ok card' → Step card card'

/-! ## Texts -/

theorem keepsTexts_of_subset (h : ∀ item ∈ card'.items, ∃ old ∈ card.items,
    old.content = item.content) : card.KeepsTexts card' :=
  fun item hitem => .inr (h item hitem)

/-- Ordering items by their positions is insertion sort. -/
theorem byPosition_eq_insertionSort (items : List Item) :
    byPosition items = items.insertionSort fun a b => a.position.index ≤ b.position.index := by
  have hinsert : insertByPosition =
      List.orderedInsert fun a b : Item => a.position.index ≤ b.position.index := by
    funext item items
    induction items with
    | nil => rfl
    | cons other items ih => rw [insertByPosition, List.orderedInsert_cons, ih]
  rw [byPosition, hinsert]
  rfl

/-- It loses none of them. -/
theorem byPosition_perm (items : List Item) : (byPosition items).Perm items := by
  rw [byPosition_eq_insertionSort]
  exact List.perm_insertionSort _ items

/-- Ordering items by their positions puts earlier positions first. -/
theorem pairwise_byPosition (items : List Item) :
    (byPosition items).Pairwise fun a b => a.position.index ≤ b.position.index := by
  have htotal : Std.Total fun a b : Item => a.position.index ≤ b.position.index :=
    ⟨fun a b => Nat.le_total ..⟩
  have htrans : IsTrans Item fun a b => a.position.index ≤ b.position.index :=
    ⟨fun a b c => Nat.le_trans⟩
  rw [byPosition_eq_insertionSort]
  exact List.pairwise_insertionSort _ items

/-- Items at different positions come out strictly in order. -/
theorem pairwise_lt_byPosition {items : List Item} (h : (items.map Item.position).Nodup) :
    (byPosition items).Pairwise fun a b => a.position.index < b.position.index := by
  have hdistinct := ((byPosition_perm items).map Item.position).nodup_iff.2 h
  refine ((pairwise_byPosition items).and (List.pairwise_map.1 hdistinct)).imp ?_
  rintro a b ⟨hle, hne⟩
  exact Nat.lt_of_le_of_ne hle fun heq => hne (congrArg Position.mk heq)

end Card

/-! ## Every operation is on the list -/

namespace Card

variable {card card' : Card} {change : Change} {board : Board} {target : Position}

/-- Making room for FREE keeps the configuration and the texts. -/
theorem keepsTexts_of_yields_clearFor (h : (card.clearFor board target).Yields change) :
    change.card.config = card.config ∧ card.KeepsTexts change.card := by
  rcases of_yields_clearFor h with rfl | ⟨index, item, destination, -, hitem, -, -, rfl⟩
  · exact ⟨rfl, keepsTexts_of_subset fun item hmem => ⟨item, hmem, rfl⟩⟩
  · refine ⟨rfl, keepsTexts_of_subset fun other hmem => ?_⟩
    rcases List.mem_or_eq_of_mem_set hmem with hold | rfl
    · exact ⟨other, hold, rfl⟩
    · exact ⟨item, List.mem_of_getElem? hitem, rfl⟩

theorem laid_of_yields_putFree (hdraft : card.config.phase = .draft)
    (hrange : card.config.size.contains target = true)
    (h : (card.putFree board target).Yields change) : card.Laid change.card := by
  obtain ⟨cleared, hcleared, hcard, -, hholds⟩ := of_yields_putFree h
  obtain ⟨-, htexts⟩ := keepsTexts_of_yields_clearFor hcleared
  refine ⟨hdraft, ?_, ?_, ?_, .inr ⟨target, ?_, hrange⟩, ?_, hholds⟩
  all_goals rw [hcard]
  exact htexts

/-- FREE goes to a cell of the grid. -/
theorem contains_of_yields_freeTarget (hboard : Board.ofCard card = .ok board)
    (h : (Config.freeTarget card.config.size board.emptyPositions).Yields target) :
    card.config.size.contains target = true := by
  rcases Config.of_yields_freeTarget h with hcenter | hmem
  · exact GridSize.contains_of_center hcenter
  · rw [← Board.size_of_ofCard hboard]
    exact GridSize.mem_positions.1 (List.mem_filter.1 hmem).1

theorem step_of_yields_enableFree (h : card.enableFree.Yields change) : card.Step change.card := by
  obtain ⟨hdraft, -, board, target, hboard, htarget, hput⟩ := of_yields_enableFree h
  exact .laid (laid_of_yields_putFree hdraft (contains_of_yields_freeTarget hboard htarget) hput)

theorem step_of_yields_moveFree (h : (card.moveFree target).Yields change) :
    card.Step change.card := by
  obtain ⟨hdraft, hrange, current, -, ⟨-, rfl⟩ | ⟨-, board, -, hput⟩⟩ := of_yields_moveFree h
  · exact .same hdraft
  · exact .laid (laid_of_yields_putFree hdraft hrange hput)

theorem step_of_yields_add {content : String} {position : Option Position}
    (h : (card.add content position).Yields card') : card.Step card' := by
  obtain ⟨hdraft, -, ⟨board, p, -, -, -, rfl⟩, hholds⟩ := of_yields_add h
  refine .laid ⟨hdraft, rfl, rfl, rfl, .inl rfl, fun item hitem => ?_, hholds⟩
  rcases List.mem_append.1 hitem with hold | hnew
  · exact .inr ⟨item, hold, rfl⟩
  · rw [List.mem_singleton.1 hnew]
    exact .inl (Text.trim_trim content)

theorem step_of_yields_shuffle (h : card.shuffle.Yields card') : card.Step card' := by
  obtain ⟨hdraft, -, ⟨g, rfl⟩, hholds⟩ := of_yields_shuffle h
  refine .laid ⟨hdraft, rfl, rfl, rfl, .inl rfl, keepsTexts_of_subset fun item hitem => ?_, hholds⟩
  obtain ⟨i, hi, rfl⟩ := List.mem_iff_getElem.1 hitem
  -- the text comes from the shuffled list and the cell from the list in its old order
  rw [List.getElem_zipWith]
  have hperm := (Random.shuffle_perm (byPosition card.items) g).trans (byPosition_perm card.items)
  exact ⟨_, hperm.mem_iff.1 (List.getElem_mem _), rfl⟩

theorem step_of_yields_swap {a b : Position} (h : (card.swap a b).Yields card') :
    card.Step card' := by
  obtain ⟨hdraft, -, -, hcases⟩ := of_yields_swap h
  rcases hcases with ⟨rfl, -⟩ | ⟨target, change, -, hmove, rfl⟩ | ⟨-, rfl, hholds⟩
  · exact .same hdraft
  · exact step_of_yields_moveFree hmove
  · refine .laid ⟨hdraft, rfl, rfl, rfl, .inl rfl, keepsTexts_of_subset ?_, hholds⟩
    intro item hitem
    obtain ⟨old, hold, rfl⟩ := List.mem_map.1 hitem
    exact ⟨old, hold, rfl⟩

/-- **The list is complete.** -/
theorem step_of_yields_apply {operation : Operation}
    (h : (operation.apply card).Yields change) : card.Step change.card := by
  cases operation with
  | add => exact step_of_yields_add (Edit.yields_card h)
  | remove => exact .remove (Edit.yields_ofExcept.1 (Edit.yields_card h))
  | setCompleted => exact .setCompleted (Edit.yields_ofExcept.1 (Edit.yields_card h))
  | setHeader => exact .setHeader (Edit.yields_ofExcept.1 (Edit.yields_card h))
  | resize => exact .resize (Edit.yields_card h)
  | enableFree => exact step_of_yields_enableFree h
  | disableFree => exact .disableFree (Edit.yields_ofExcept.1 (Edit.yields_card h))
  | moveFree => exact step_of_yields_moveFree h
  | shuffle => exact step_of_yields_shuffle (Edit.yields_card h)
  | swap => exact step_of_yields_swap (Edit.yields_card h)
  | finalize => exact .finalize (Edit.yields_ofExcept.1 (Edit.yields_card h))

end Card

/-! ## What steps keep -/

namespace Config

variable {config : Config}

theorem valid_of_yields_create {size : GridSize} {header : Option String} {hasFree : Option Bool}
    (h : (create size header hasFree).Yields config) : config.Valid := by
  obtain ⟨hheader, rfl, -, -, hfree⟩ := of_yields_create h
  exact ⟨GridSize.normalHeader_of_normalizeHeader hheader, hfree⟩

end Config

namespace Card

variable {card card' : Card}

/-- **A step keeps a configuration valid**, whatever the items are. -/
theorem Step.valid (h : card.Step card') (hvalid : card.config.Valid) : card'.config.Valid := by
  cases h with
  | same => exact hvalid
  | laid h =>
    refine ⟨by rw [h.size, h.header]; exact hvalid.header, fun p hp => ?_⟩
    rw [h.size]
    rcases h.free with hfree | ⟨target, hfree, hrange⟩
    · exact hvalid.free p (hfree ▸ hp)
    · obtain rfl := Option.some.inj (hfree.symm.trans hp)
      exact hrange
  | remove h =>
    obtain ⟨-, -, rfl⟩ := remove_eq_ok_iff.1 h
    exact hvalid
  | setCompleted h =>
    obtain ⟨-, rfl⟩ := setCompleted_eq_ok_iff.1 h
    exact hvalid
  | setHeader h =>
    obtain ⟨-, header, hheader, rfl⟩ := setHeader_eq_ok_iff.1 h
    exact ⟨GridSize.normalHeader_of_normalizeHeader hheader, hvalid.free⟩
  | resize h => exact Config.valid_of_yields_create (of_yields_resize h).2.2.1
  | disableFree h =>
    obtain ⟨-, -, rfl⟩ := disableFree_eq_ok_iff.1 h
    exact ⟨hvalid.header, by simp [Config.FreeOnGrid]⟩
  | finalize h =>
    obtain ⟨-, -, -, rfl⟩ := finalize_eq_ok_iff.1 h
    exact ⟨hvalid.header, hvalid.free⟩

/-- **A step keeps the promises.** -/
theorem Step.kept (h : card.Step card') (hkept : card.Kept) : card'.Kept := by
  cases h with
  | same => exact hkept
  | laid h => exact kept_iff.2 h.holds
  | remove h =>
    obtain ⟨-, -, rfl⟩ := remove_eq_ok_iff.1 h
    exact hkept.of_sublist List.filter_sublist
  | setCompleted h =>
    obtain ⟨-, rfl⟩ := setCompleted_eq_ok_iff.1 h
    exact hkept.of_layout_eq rfl rfl layout_marked
  | setHeader h =>
    obtain ⟨-, header, -, rfl⟩ := setHeader_eq_ok_iff.1 h
    exact hkept.of_layout_eq rfl rfl rfl
  | resize h =>
    obtain ⟨-, hempty, -, hitems⟩ := of_yields_resize h
    exact kept_of_items_eq_nil (hitems.trans hempty)
  | disableFree h =>
    obtain ⟨-, -, rfl⟩ := disableFree_eq_ok_iff.1 h
    exact hkept.without_free
  | finalize h =>
    obtain ⟨-, -, -, rfl⟩ := finalize_eq_ok_iff.1 h
    exact hkept.of_layout_eq rfl rfl rfl

/-- **A step keeps a card sound.** -/
theorem Step.sound (h : card.Step card') (hsound : card.Sound) : card'.Sound :=
  ⟨h.kept hsound.toKept, h.valid hsound.config⟩

/-- **A step keeps a card tidy**: what comes in is trimmed, and nothing else
comes in. -/
theorem Step.tidy (h : card.Step card') (htidy : card.Tidy) : card'.Tidy := by
  intro item hitem
  -- only laying items out anew brings in a text, and `Laid` says that it is trimmed
  cases h with
  | same => exact htidy item hitem
  | laid h =>
    rcases h.texts item hitem with htrim | ⟨old, hold, htext⟩
    · exact htrim
    · rw [← htext]
      exact htidy old hold
  | remove h =>
    obtain ⟨-, -, rfl⟩ := remove_eq_ok_iff.1 h
    exact htidy item (List.mem_of_mem_filter hitem)
  | setCompleted h =>
    obtain ⟨-, rfl⟩ := setCompleted_eq_ok_iff.1 h
    obtain ⟨old, hold, rfl⟩ := List.mem_map.1 hitem
    rw [apply_ite Item.content, Item.marked, ite_self]
    exact htidy old hold
  | setHeader h =>
    obtain ⟨-, header, -, rfl⟩ := setHeader_eq_ok_iff.1 h
    exact htidy item hitem
  | resize h =>
    obtain ⟨-, -, -, hitems⟩ := of_yields_resize h
    exact htidy item (hitems ▸ hitem)
  | disableFree h =>
    obtain ⟨-, -, rfl⟩ := disableFree_eq_ok_iff.1 h
    exact htidy item hitem
  | finalize h =>
    obtain ⟨-, -, -, rfl⟩ := finalize_eq_ok_iff.1 h
    exact htidy item hitem

/-! ## Copies -/

variable {size : GridSize} {hasFree : Bool} {copy : CardCopy}

/-- A copy has a valid configuration, whatever it is a copy of. -/
theorem valid_of_yields_copy (h : (card.copy size hasFree).Yields copy) :
    copy.card.config.Valid :=
  Config.valid_of_yields_create (of_yields_copy h).2.1

/-- **A copy is sound**, whatever it is a copy of. -/
theorem sound_of_yields_copy (h : (card.copy size hasFree).Yields copy) : copy.card.Sound :=
  ⟨kept_iff.2 (of_yields_copy h).2.2.2.2, valid_of_yields_copy h⟩

/-- **A copy of a tidy card is tidy.** -/
theorem tidy_of_yields_copy (h : (card.copy size hasFree).Yields copy) (htidy : card.Tidy) :
    copy.card.Tidy := by
  obtain ⟨-, -, ⟨g, hitems⟩, -, -⟩ := of_yields_copy h
  intro item hitem
  rw [hitems, copiedGoals, placedGoals] at hitem
  obtain ⟨i, hi, rfl⟩ := List.mem_iff_getElem.1 hitem
  have hgoal := htidy _ ((byPosition_perm card.items).mem_iff.1 (List.mem_of_mem_take
    (List.getElem_mem (List.lt_length_left_of_zipWith hi))))
  rw [List.getElem_zipWith]
  exact hgoal

end Card

end GoalGrid
