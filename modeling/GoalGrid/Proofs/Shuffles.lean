import GoalGrid.Proofs.Chance
import GoalGrid.Proofs.Goals
import GoalGrid.Proofs.Picks
/-!
# Shuffles — the goals over the same cells, in every order

A draft with a board can be shuffled whatever the generator is: the cells
that hold items stay the same and the goals are put into them in another
order, each with its mark (`shuffledTo_inCellsOf`). Which order it is, the
numbers that are drawn decide (`outcome_shuffleIn`): they and the orders of
the items correspond one to one, since no two items are the same, and every
list of numbers is drawn from some words (`Random.exists_rearrangement`), so
that no order is out of reach (`shuffled_in_every_order`).
-/

namespace GoalGrid

namespace Random

variable {m : Nat} {slots : List Nat}

/-- The numbers drawn to rearrange `m` entries are ones for picking all of
them but one. -/
theorem rearrangement_mem_slotLists (m : Nat) (g : Generator) :
    (rearrangement (m - 1) g).1 ∈ SlotLists m (m - 1) := by
  have hmore (n : Nat) : (rearrangement n g).1 ∈ SlotLists (n + 1) n := by
    induction n generalizing g with
    | zero => exact ⟨rfl, trivial⟩
    | succ n ih =>
      obtain ⟨hlength, hbelow⟩ := ih (g.draw .bits32 (n + 2)).2
      exact ⟨congrArg (· + 1) hlength, g.draw_lt .bits32 (Nat.succ_pos _), hbelow⟩
  cases m with
  | zero => exact ⟨rfl, trivial⟩
  | succ n => exact hmore n

/-- **Every list of numbers for rearranging is drawn** from some words. -/
theorem exists_rearrangement (h : slots ∈ SlotLists m (m - 1)) (hm : m ≤ DrawWidth.bits32.range) :
    ∃ words, ∀ g : Generator, g.Begins words → (rearrangement (m - 1) g).1 = slots := by
  obtain ⟨hlength, hbelow⟩ := h
  rw [← hlength]
  induction slots generalizing m with
  | nil => exact ⟨[], fun _ _ => rfl⟩
  | cons s slots ih =>
    rw [List.length_cons] at hlength
    obtain ⟨first, hfirst⟩ := Generator.exists_draw hbelow.1 hm
    obtain ⟨rest, hrest⟩ := ih (by omega) (by omega) hbelow.2
    refine ⟨first ++ rest, fun g hg => ?_⟩
    obtain ⟨hg, hafter⟩ := hg.of_append
    obtain rfl : m = slots.length + 2 := by omega
    simp only [List.length_cons, rearrangement, hfirst g hg, hrest _ hafter]

end Random

namespace Card

variable {card shuffled : Card} {items : List Item}

/-- What a card is after shuffling: the goals of the card, none lost and none
doubled, in the cells that held items, and in the order of these. -/
structure ShuffledTo (card shuffled : Card) : Prop where
  config : shuffled.config = card.config
  sorted : shuffled.items.Pairwise fun a b => a.position.index < b.position.index
  positions : (shuffled.items.map Item.position).Perm (card.items.map Item.position)
  goals : shuffled.goals.Perm card.goals

/-- The card with these items, one after another, in its cells with items. -/
def inCellsOf (card : Card) (items : List Item) : Card :=
  ⟨card.config, List.zipWith (fun item slot => item.movedTo slot.position) items
    (byPosition card.items)⟩

/-- Moving items into other cells keeps the goals. -/
theorem goals_inCellsOf (h : items.Perm card.items) :
    (card.inCellsOf items).goals = items.map Item.goal := by
  have hlength := h.length_eq.trans (byPosition_perm card.items).length_eq.symm
  refine List.ext_getElem (by simp [goals, inCellsOf, hlength]) fun i hi hi' => ?_
  simp [goals, inCellsOf, Item.movedTo, Item.goal]

/-- **Its items in another order, in its cells with items**, are the card
shuffled. -/
theorem shuffledTo_inCellsOf (hdistinct : (card.items.map Item.position).Nodup)
    (h : items.Perm card.items) : card.ShuffledTo (card.inCellsOf items) := by
  have hsorted := byPosition_perm card.items
  have hpositions : (card.inCellsOf items).items.map Item.position =
      (byPosition card.items).map Item.position :=
    map_position_zipWith_movedTo (h.length_eq.trans hsorted.length_eq.symm)
  refine ⟨rfl, ?_, ?_, ?_⟩
  · -- the order is one of the positions only
    have hincreasing : ((byPosition card.items).map Item.position).Pairwise
        fun p q => p.index < q.index := List.pairwise_map.2 (pairwise_lt_byPosition hdistinct)
    rwa [← hpositions, List.pairwise_map] at hincreasing
  · rw [hpositions]
    exact hsorted.map Item.position
  · rw [goals_inCellsOf h]
    exact h.map Item.goal

/-- **Shuffling puts the items in the order of the numbers drawn**, in either
build. -/
theorem outcome_shuffleIn (hdraft : card.config.phase = .draft) (hfree : card.config.FreeOnGrid)
    (hboard : ∃ board, Board.ofCard card = .ok board) (build : Build) (g : Generator) :
    ((card.shuffleIn build).outcome g).1 = .ok (card.inCellsOf (Random.rearrange
      (Random.rearrangement (card.items.length - 1) g).1 (byPosition card.items))) := by
  obtain ⟨board, hboard⟩ := hboard
  rw [shuffleIn_eq build hfree, ← shuffleIn_eq .release hfree, shuffleIn,
    Config.checkDraft_eq_ok_iff.2 hdraft, hboard, ← (byPosition_perm card.items).length_eq]
  rfl

/-- **A draft with a board is shuffled into every order, each by one list of
numbers**, whatever its items and the build are. With every generator the
goals are shuffled over the cells that held items, in the order of the
numbers that it draws; the lists of numbers that can be drawn and the orders
of the items correspond one to one; and each order is the one that some words
lead to. -/
theorem shuffled_in_every_order (hdraft : card.config.phase = .draft)
    (hfree : card.config.FreeOnGrid) (hboard : ∃ board, Board.ofCard card = .ok board)
    (build : Build) :
    (∀ g, let drawn := (Random.rearrangement (card.items.length - 1) g).1
      drawn ∈ Random.SlotLists card.items.length (card.items.length - 1) ∧ ∃ shuffled,
        ((card.shuffleIn build).outcome g).1 = .ok shuffled ∧ card.ShuffledTo shuffled ∧
        shuffled = card.inCellsOf (Random.rearrange drawn (byPosition card.items))) ∧
    Set.BijOn (Random.rearrange · (byPosition card.items))
      (Random.SlotLists card.items.length (card.items.length - 1))
      {items | items.Perm (byPosition card.items)} ∧
    ∀ items, items.Perm (byPosition card.items) → ∃ words,
      ((card.shuffleIn build).outcome (Generator.ofWords words)).1 =
        .ok (card.inCellsOf items) := by
  have hdistinct := nodup_positions_of_board hboard
  have hsorted := byPosition_perm card.items
  have houtcome := outcome_shuffleIn hdraft hfree hboard build
  have hbij : Set.BijOn (Random.rearrange · (byPosition card.items))
      (Random.SlotLists card.items.length (card.items.length - 1))
      {items | items.Perm (byPosition card.items)} := by
    rw [← hsorted.length_eq]
    refine Random.bijOn_rearrange ?_
    exact List.Nodup.of_map Item.position ((hsorted.map Item.position).nodup_iff.2 hdistinct)
  refine ⟨fun g => ⟨Random.rearrangement_mem_slotLists _ g, _, houtcome g, ?_, rfl⟩, hbij,
    fun items hitems => ?_⟩
  · exact shuffledTo_inCellsOf hdistinct ((Random.rearrange_perm _ _).trans hsorted)
  · obtain ⟨slots, hslots, rfl⟩ := hbij.surjOn hitems
    have hcapacity := (length_le_capacity hfree hboard).trans card.config.capacity_le
    have hrange : 25 ≤ DrawWidth.bits32.range := by decide
    obtain ⟨words, hwords⟩ := Random.exists_rearrangement hslots (hcapacity.trans hrange)
    refine ⟨words, ?_⟩
    rw [houtcome, hwords _ (Generator.begins_ofWords words)]

/-- Three goals that are not listed in the order of their cells: a shuffle of
them, and some words that leave them in the order of their cells. -/
theorem shuffled_in_every_order_three :
    let g := Generator.ofWords []
    let card : Card := ⟨⟨.two, "BI", some ⟨1⟩, .draft⟩,
      [⟨⟨3⟩, "run", true⟩, ⟨⟨0⟩, "swim", false⟩, ⟨⟨2⟩, "read", false⟩]⟩
    let shuffled : Card := ⟨card.config,
      [⟨⟨0⟩, "read", false⟩, ⟨⟨2⟩, "run", true⟩, ⟨⟨3⟩, "swim", false⟩]⟩
    (card.shuffle.outcome g).1 = .ok shuffled ∧ card.ShuffledTo shuffled ∧
      shuffled = card.inCellsOf
        (Random.rearrange (Random.rearrangement 2 g).1 (byPosition card.items)) ∧
      Set.BijOn (Random.rearrange · (byPosition card.items)) (Random.SlotLists 3 2)
        {items | items.Perm (byPosition card.items)} ∧
      ∃ words, (card.shuffle.outcome (Generator.ofWords words)).1 =
        .ok ⟨card.config, [⟨⟨0⟩, "swim", false⟩, ⟨⟨2⟩, "read", false⟩, ⟨⟨3⟩, "run", true⟩]⟩ := by
  intro g card shuffled
  have hfree : card.config.FreeOnGrid := Config.freeOnGrid_of_free rfl rfl
  have hboard : ∃ board, Board.ofCard card = .ok board := ⟨_, rfl⟩
  obtain ⟨hshuffle, hbij, hreach⟩ := shuffled_in_every_order rfl hfree hboard .debug
  obtain ⟨-, made, hmade, hthere, hdrawn⟩ := hshuffle g
  have houtcome : (card.shuffle.outcome g).1 = .ok shuffled := by decide +kernel
  obtain rfl := Except.ok.inj (hmade.symm.trans houtcome)
  exact ⟨houtcome, hthere, hdrawn, hbij, hreach _ (.refl _)⟩

end Card

end GoalGrid
