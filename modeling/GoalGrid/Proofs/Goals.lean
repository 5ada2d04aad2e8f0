import GoalGrid.Proofs.Lockstep
import GoalGrid.Proofs.Steps
import GoalGrid.Random.Seeded
/-!
# Goals — what decides no layout

An item is a goal in a cell, and only the cells decide where edits put
items. Two cards that have goals with the same numbers in the same places
(`Card.Alike`) stay so under every edit, with every generator: so items
that differ in their texts and marks move alike, and each of them takes
its own text and mark along (`layout_ignores_goals`). What an edit of a list
does, it does to the numbered places (`byPosition_itemsAt`,
`Random.shuffle_map`), whatever the goals are.
-/

namespace GoalGrid

open Edit (Lockstep lockstep_self lockstep_pure lockstep_ofDraw lockstep_bind_self)
open List (Perm Subperm)

/-- What an item is apart from its cell. -/
structure Goal where
  content : String
  completed : Bool := false
deriving DecidableEq, Repr

namespace Goal

/-- The goal as an item of the cell. -/
def inCell (goal : Goal) (p : Position) : Item :=
  ⟨p, goal.content, goal.completed⟩

/-- The goal, not reached yet. -/
def unmarked (goal : Goal) : Goal :=
  ⟨goal.content, false⟩

end Goal

/-- The goal that the item puts into its cell. -/
def Item.goal (item : Item) : Goal :=
  ⟨item.content, item.completed⟩

/-! ## One layout -/

/-- The cards have one configuration, and one by one their items are in the
same cells. -/
structure Card.SameLayout (card card' : Card) : Prop where
  config : card'.config = card.config
  positions : card'.items.map Item.position = card.items.map Item.position

/-- No item of the card is blank. -/
def Card.Worded (card : Card) : Prop :=
  ∀ item ∈ card.items, Text.isBlankText item.content = false

/-- A board does not look at goals that are not blank. -/
theorem Board.placeAll_congr {items items' : List Item} {board : Board} {index : Nat}
    (hpositions : items'.map Item.position = items.map Item.position)
    (h : ∀ item ∈ items, Text.isBlankText item.content = false)
    (h' : ∀ item ∈ items', Text.isBlankText item.content = false) :
    board.placeAll index items' = board.placeAll index items := by
  induction items generalizing items' board index with
  | nil =>
    obtain rfl := List.map_eq_nil_iff.1 hpositions
    rfl
  | cons item items ih =>
    obtain ⟨item', items', rfl, hposition, hpositions⟩ := List.map_eq_cons_iff.1 hpositions
    rw [List.forall_mem_cons] at h h'
    have hplace : board.place index item' = board.place index item := by
      simp only [place, Item.checked, h.1, h'.1, hposition, bind, Except.bind, Bool.false_eq_true,
        if_false]
    rw [placeAll, placeAll, hplace]
    exact congrArg (board.place index item >>= ·) (funext fun _ => ih hpositions h.2 h'.2)

namespace Card.SameLayout

variable {card card' : Card}

theorem length_eq (h : card.SameLayout card') : card'.items.length = card.items.length := by
  simpa using congrArg List.length h.positions

/-- A question about the positions of items has one answer. -/
theorem any_position_eq (h : card.SameLayout card') (f : Position → Bool) :
    (card'.items.any fun item => f item.position) = card.items.any fun item => f item.position := by
  simpa [Function.comp_def] using congrArg (List.any · f) h.positions

theorem all_position_eq (h : card.SameLayout card') (f : Position → Bool) :
    (card'.items.all fun item => f item.position) = card.items.all fun item => f item.position := by
  simpa [Function.comp_def] using congrArg (List.all · f) h.positions

/-- **The promises are about positions**, and about texts that are not blank. -/
theorem holds_eq (h : card.SameLayout card') (hworded : card.Worded) (hworded' : card'.Worded)
    (promise : Invariant) : promise.holds card' = promise.holds card := by
  cases promise with
  | positionsInRange =>
    rw [Invariant.holds, Invariant.holds, h.config]
    exact h.all_position_eq _
  | positionsUnique => rw [Invariant.holds, Invariant.holds, h.positions]
  | freeVacant =>
    rw [Invariant.holds, Invariant.holds, h.config]
    exact h.all_position_eq fun p => !card.config.isFree p
  | withinCapacity => rw [Invariant.holds, Invariant.holds, h.config, h.length_eq]
  | contentPresent =>
    have hholds : Invariant.contentPresent.holds card = true := by
      simpa [Invariant.holds, Card.Worded] using hworded
    have hholds' : Invariant.contentPresent.holds card' = true := by
      simpa [Invariant.holds, Card.Worded] using hworded'
    rw [hholds, hholds']

/-- **Cards with one layout have one board**, if any. -/
theorem ofCard_eq (h : card.SameLayout card') (hworded : card.Worded) (hworded' : card'.Worded) :
    Board.ofCard card' = Board.ofCard card := by
  rw [Board.ofCard, Board.ofCard, h.config]
  exact Board.placeAll_congr h.positions hworded hworded'

end Card.SameLayout

/-! ## Numbered places -/

/-- The items that put goals, named by their numbers, into cells. -/
def itemsAt (goal : Nat → Goal) (places : List (Nat × Position)) : List Item :=
  places.map fun place => (goal place.1).inCell place.2

/-- No goal with one of the numbers is blank. -/
def WordedGoals (goal : Nat → Goal) (numbers : List Nat) : Prop :=
  ∀ i ∈ numbers, Text.isBlankText (goal i).content = false

/-- The cards have goals with the same numbers in the same places, each
number at most once. -/
def Card.Alike (goal goal' : Nat → Goal) (numbers : List Nat) (card card' : Card) : Prop :=
  ∃ config places, (places.map Prod.fst).Subperm numbers ∧
    card = ⟨config, itemsAt goal places⟩ ∧ card' = ⟨config, itemsAt goal' places⟩

section Places

variable {goal : Nat → Goal} {numbers : List Nat} {places : List (Nat × Position)}

theorem positions_itemsAt : (itemsAt goal places).map Item.position = places.map Prod.snd := by
  rw [itemsAt, List.map_map]
  rfl

theorem WordedGoals.card (h : WordedGoals goal numbers)
    (hplaces : (places.map Prod.fst).Subperm numbers) (config : Config) :
    Card.Worded ⟨config, itemsAt goal places⟩ := by
  intro item hitem
  obtain ⟨place, hplace, rfl⟩ := List.mem_map.1 hitem
  exact h place.1 (hplaces.subset (List.mem_map_of_mem hplace))

@[simp] theorem length_itemsAt : (itemsAt goal places).length = places.length :=
  List.length_map _

theorem getElem?_itemsAt (i : Nat) : (itemsAt goal places)[i]? =
    places[i]?.map fun place => (goal place.1).inCell place.2 :=
  List.getElem?_map

theorem take_itemsAt (k : Nat) : (itemsAt goal places).take k = itemsAt goal (places.take k) :=
  List.map_take.symm

theorem filter_itemsAt (f : Position → Bool) :
    (itemsAt goal places).filter (fun item => f item.position) =
      itemsAt goal (places.filter fun place => f place.2) :=
  List.filter_map

/-- An item moves when the number of its goal does. -/
theorem set_itemsAt (i : Nat) (place : Nat × Position) (p : Position) :
    (itemsAt goal places).set i (((goal place.1).inCell place.2).movedTo p) =
      itemsAt goal (places.set i (place.1, p)) := by
  rw [itemsAt, itemsAt, List.map_set]
  rfl

theorem map_movedTo_itemsAt (f : Position → Position) :
    ((itemsAt goal places).map fun item => item.movedTo (f item.position)) =
      itemsAt goal (places.map fun place => (place.1, f place.2)) := by
  rw [itemsAt, itemsAt, List.map_map, List.map_map]
  rfl

/-- Ordering items by their positions orders the places. -/
theorem byPosition_itemsAt (goal : Nat → Goal) (places : List (Nat × Position)) :
    Card.byPosition (itemsAt goal places) =
      itemsAt goal (places.insertionSort fun a b => a.2.index ≤ b.2.index) := by
  rw [Card.byPosition_eq_insertionSort]
  exact (List.map_insertionSort _ (s := fun a b : Item => a.position.index ≤ b.position.index)
    _ places fun a _ b _ => Iff.rfl).symm

/-- Putting the goals of some places into the cells of others. -/
theorem zipWith_movedTo_itemsAt (goal : Nat → Goal) (shuffled slots : List (Nat × Position)) :
    List.zipWith (fun item slot : Item => item.movedTo slot.position) (itemsAt goal shuffled)
      (itemsAt goal slots) =
    itemsAt goal (List.zipWith (fun place slot => (place.1, slot.2)) shuffled slots) := by
  rw [itemsAt, itemsAt, itemsAt, List.zipWith_map, List.map_zipWith]
  rfl

/-- Putting the goals of some places into other cells, as new items. -/
theorem placedGoals_itemsAt (goal : Nat → Goal) (cells : List Position) :
    Card.placedGoals (itemsAt goal places) cells =
      itemsAt (fun i => (goal i).unmarked)
        (List.zipWith (fun place p => (place.1, p)) places cells) := by
  rw [Card.placedGoals, itemsAt, itemsAt, List.zipWith_map_left, List.map_zipWith]
  rfl

/-- In such places there are only numbers that were there before. -/
theorem numbers_zipWith_sublist {β : Type} (cell : β → Position) (slots : List β) :
    ((List.zipWith (fun place slot => (place.1, cell slot)) places slots).map Prod.fst).Sublist
      (places.map Prod.fst) := by
  have hnumbers : (List.zipWith (fun place slot => (place.1, cell slot)) places slots).map
      Prod.fst = (places.map Prod.fst).take slots.length := by
    refine List.ext_getElem (by simp [Nat.min_comm]) fun i hi hi' => ?_
    simp
  rw [hnumbers]
  exact List.take_sublist ..

end Places

/-! ## Edits -/

/-- The two ends of a displacement. -/
def Displacement.ends (d : Displacement) : Position × Position :=
  (d.source, d.target)

/-- The displacements, if there are any, go from one cell to one other. -/
def SameEnds (displaced displaced' : Option Displacement) : Prop :=
  displaced'.map Displacement.ends = displaced.map Displacement.ends

namespace Card.Alike

variable {goal goal' : Nat → Goal} {numbers : List Nat} {card card' : Card}

theorem sameLayout (h : card.Alike goal goal' numbers card') : card.SameLayout card' := by
  obtain ⟨config, places, -, rfl, rfl⟩ := h
  exact ⟨rfl, positions_itemsAt.trans positions_itemsAt.symm⟩

/-- **Whatever gives way to FREE has one number.** -/
theorem lockstep_clearFor (h : card.Alike goal goal' numbers card') (board : Board)
    (target : Position) :
    Lockstep (Change.Related (Alike goal goal' numbers) SameEnds) (card.clearFor board target)
      (card'.clearFor board target) := by
  rw [clearFor, clearFor]
  split
  · rename_i index _
    refine lockstep_bind_self fun destination _ => ?_
    obtain ⟨config, places, hplaces, rfl, rfl⟩ := h
    simp only [getElem?_itemsAt]
    rcases hplace : places[index]? with _ | place
    · exact lockstep_pure ⟨⟨config, places, hplaces, rfl, rfl⟩, rfl⟩
    · -- the number of the goal goes to the new cell
      simp only [Option.map_some, set_itemsAt]
      refine lockstep_pure ⟨⟨config, _, ?_, rfl, rfl⟩, rfl⟩
      have hnumber : (places.map Prod.fst)[index]? = some place.1 := by
        rw [List.getElem?_map, hplace, Option.map_some]
      obtain ⟨hindex, hnumber⟩ := List.getElem?_eq_some_iff.1 hnumber
      rw [List.map_set, ← hnumber, List.set_getElem_self]
      exact hplaces
  · exact lockstep_pure ⟨h, rfl⟩

variable (build : Build) (hgoal : WordedGoals goal numbers) (hgoal' : WordedGoals goal' numbers)
include hgoal hgoal'

theorem worded (h : card.Alike goal goal' numbers card') : card.Worded ∧ card'.Worded := by
  obtain ⟨config, places, hplaces, rfl, rfl⟩ := h
  exact ⟨hgoal.card hplaces config, hgoal'.card hplaces config⟩

/-- **What edits ask about items is about positions.** -/
theorem likeness : Likeness (Alike goal goal' numbers) where
  config h := h.sameLayout.config
  length h := h.sameLayout.length_eq
  holdsAt h p := h.sameLayout.any_position_eq (· == p)
  holds h := h.sameLayout.holds_eq (h.worded hgoal hgoal').1 (h.worded hgoal hgoal').2
  reconfigured h config := by
    obtain ⟨-, places, hplaces, rfl, rfl⟩ := h
    exact ⟨config, places, hplaces, rfl, rfl⟩
  removed h p := by
    obtain ⟨config, places, hplaces, rfl, rfl⟩ := h
    simp only [filter_itemsAt (· != p)]
    exact ⟨config, _, (List.filter_sublist.map Prod.fst).subperm.trans hplaces, rfl, rfl⟩
  exchanged h a b := by
    obtain ⟨config, places, hplaces, rfl, rfl⟩ := h
    simp only [map_movedTo_itemsAt]
    refine ⟨config, _, ?_, rfl, rfl⟩
    rw [List.map_map]
    exact hplaces

theorem ofCard_eq (h : card.Alike goal goal' numbers card') :
    Board.ofCard card' = Board.ofCard card :=
  h.sameLayout.ofCard_eq (h.worded hgoal hgoal').1 (h.worded hgoal hgoal').2

theorem boardsAlike (h : card.Alike goal goal' numbers card') :
    BoardsAlike (Alike goal goal' numbers) SameEnds card card' := by
  rw [BoardsAlike, h.ofCard_eq hgoal hgoal']
  refine lockstep_self.mono fun board board' hsame => ?_
  subst hsame
  exact ⟨rfl, rfl, fun _ => rfl, h.lockstep_clearFor board'⟩

/-- **A new goal** goes to one cell on both cards. -/
theorem lockstep_addIn (h : card.Alike goal goal' numbers card') (content : String)
    (position : Option Position) :
    Lockstep (fun added added' => ∃ p,
        added = { card with items := card.items ++ [⟨p, Text.trim content, false⟩] } ∧
        added' = { card' with items := card'.items ++ [⟨p, Text.trim content, false⟩] })
      (card.addIn build content position) (card'.addIn build content position) := by
  refine (likeness hgoal hgoal').lockstep_addIn build h (h.boardsAlike hgoal hgoal') position
    fun hcontent p => Edit.lockstep_check build ?_ ⟨p, rfl, rfl⟩
  have hblank : Text.isBlankText (Text.trim content) = false := Text.isBlankText_trim hcontent
  obtain ⟨hworded, hworded'⟩ := h.worded hgoal hgoal'
  refine SameLayout.holds_eq ⟨h.sameLayout.config, ?_⟩
    (List.forall_mem_append.2 ⟨hworded, List.forall_mem_singleton.2 hblank⟩)
    (List.forall_mem_append.2 ⟨hworded', List.forall_mem_singleton.2 hblank⟩)
  rw [List.map_append, List.map_append, h.sameLayout.positions]

/-- **Shuffling gives the cells to the numbers.** -/
theorem lockstep_shuffleIn (h : card.Alike goal goal' numbers card') :
    Lockstep (Alike goal goal' numbers) (card.shuffleIn build) (card'.shuffleIn build) := by
  rw [shuffleIn, shuffleIn, h.sameLayout.config, h.ofCard_eq hgoal hgoal']
  refine lockstep_bind_self fun _ _ => lockstep_bind_self fun _ _ => ?_
  obtain ⟨config, places, hplaces, rfl, rfl⟩ := h
  simp only [byPosition_itemsAt]
  let sorted := places.insertionSort fun a b => a.2.index ≤ b.2.index
  have hdraw : Lockstep (fun items items' => ∃ shuffled : List (Nat × Position),
      shuffled.Perm places ∧ items = itemsAt goal shuffled ∧ items' = itemsAt goal' shuffled)
      (Edit.ofDraw (Random.shuffle (itemsAt goal sorted)))
      (Edit.ofDraw (Random.shuffle (itemsAt goal' sorted))) := by
    refine lockstep_ofDraw fun g => ?_
    rw [itemsAt, itemsAt, Random.shuffle_map, Random.shuffle_map]
    have hperm := (Random.shuffle_perm sorted g).trans (List.perm_insertionSort _ places)
    exact ⟨⟨(Random.shuffle sorted g).1, hperm, rfl, rfl⟩, rfl⟩
  refine hdraw.bind ?_
  rintro _ _ ⟨shuffled, hshuffled, rfl, rfl⟩
  simp only [zipWith_movedTo_itemsAt]
  refine (likeness hgoal hgoal').lockstep_check build ⟨config, _, ?_, rfl, rfl⟩
  exact (numbers_zipWith_sublist Prod.snd sorted).subperm.trans
    ((hshuffled.map Prod.fst).subperm.trans hplaces)

/-- **Copying gives cells to the numbers**, and takes the marks off. -/
theorem lockstep_copyIn (h : card.Alike goal goal' numbers card') (size : GridSize)
    (hasFree : Bool) :
    Lockstep (fun copy copy' => copy'.truncated = copy.truncated ∧
        copy.card.Alike (fun i => (goal i).unmarked) (fun i => (goal' i).unmarked) numbers copy'.card)
      (card.copyIn build size hasFree) (card'.copyIn build size hasFree) := by
  rw [copyIn, copyIn, h.sameLayout.config, h.ofCard_eq hgoal hgoal', h.sameLayout.length_eq]
  refine lockstep_bind_self fun _ _ => lockstep_bind_self fun config _ => ?_
  obtain ⟨-, places, hplaces, rfl, rfl⟩ := h
  simp only [byPosition_itemsAt, take_itemsAt, length_itemsAt, placedGoals_itemsAt]
  refine lockstep_bind_self fun slots _ => ?_
  have hworded : WordedGoals (fun i => (goal i).unmarked) numbers := hgoal
  have hworded' : WordedGoals (fun i => (goal' i).unmarked) numbers := hgoal'
  refine ((likeness hworded hworded').lockstep_check build ⟨config, _, ?_, rfl, rfl⟩).bind
    fun copied copied' hcopied => lockstep_pure ⟨rfl, hcopied⟩
  refine (numbers_zipWith_sublist id _).subperm.trans ?_
  have hsorted := (List.perm_insertionSort (fun a b => a.2.index ≤ b.2.index) places).map Prod.fst
  exact ((List.take_sublist ..).map Prod.fst).subperm.trans (hsorted.subperm.trans hplaces)

/-- **Every operation that sets no mark** keeps the numbers together with
their cells; adding is left to `lockstep_addIn`. -/
theorem lockstep_applyIn (h : card.Alike goal goal' numbers card') (operation : Operation)
    (hadd : ∀ content position, operation ≠ .add content position)
    (hmark : ∀ p done, operation ≠ .setCompleted p done) :
    Lockstep (Change.Related (Alike goal goal' numbers) SameEnds) (operation.applyIn build card)
      (operation.applyIn build card') :=
  (likeness hgoal hgoal').lockstep_applyIn build h (h.boardsAlike hgoal hgoal') rfl operation
    (h.lockstep_shuffleIn build hgoal hgoal')
    (fun content position hsame => absurd hsame (hadd content position))
    (fun p done hsame => absurd hsame (hmark p done))

end Card.Alike

/-! ## Layouts and goals -/

/-- The goals of the items, in their order. -/
def Card.goals (card : Card) : List Goal :=
  card.items.map Item.goal

/-- The goals that the operation brings in. -/
def Operation.newGoals : Operation → List Goal
  | .add content _ => [⟨Text.trim content, false⟩]
  | _ => []

/-- The cards have one layout, and their goals come from the same places of
two lists of goals, no two from one place, with the new ones after them. -/
structure Card.SameOrigins (goals goals' new : List Goal) (card card' : Card) : Prop
    extends card.SameLayout card' where
  origins : ∃ origins : List Nat, origins.Nodup ∧
    card.goals.map some = (origins.map fun i => goals[i]?) ++ new.map some ∧
    card'.goals.map some = (origins.map fun i => goals'[i]?) ++ new.map some

/-- The goal with this number in the list. -/
def nthGoal (goals : List Goal) (i : Nat) : Goal :=
  goals[i]?.getD ⟨"", false⟩

section Numbering

variable {goals goals' : List Goal} {card card' : Card}

theorem getElem?_of_lt {i : Nat} (hi : i < goals.length) :
    goals[i]? = some (nthGoal goals i) := by
  rw [nthGoal, List.getElem?_eq_getElem hi, Option.getD_some]

theorem nthGoal_unmarked (goals : List Goal) :
    (fun i => (nthGoal goals i).unmarked) = nthGoal (goals.map Goal.unmarked) := by
  funext i
  rw [nthGoal, nthGoal, List.getElem?_map]
  cases goals[i]? <;> rfl

/-- All goals, by their numbers. -/
theorem map_some_eq_range (goals : List Goal) :
    goals.map some = (List.range goals.length).map fun i => goals[i]? := by
  refine List.ext_getElem (by simp) fun i hi hi' => ?_
  simp

@[simp] theorem Card.length_goals (card : Card) : card.goals.length = card.items.length :=
  List.length_map _

theorem Card.nthGoal_goals {i : Nat} (hi : i < card.items.length) :
    nthGoal card.goals i = card.items[i].goal := by
  simp [nthGoal, goals, hi]

/-- Items are their goals, numbered from the first one on, in their cells. -/
theorem Card.itemsAt_goals (card : Card) :
    itemsAt (nthGoal card.goals)
      ((List.range card.items.length).zip (card.items.map Item.position)) = card.items := by
  refine List.ext_getElem (by simp) fun i hi hi' => ?_
  simp only [itemsAt, List.getElem_map, List.getElem_zip, List.getElem_range, nthGoal_goals hi']
  rfl

theorem Card.Worded.numbered (h : card.Worded) :
    WordedGoals (nthGoal card.goals) (List.range card.items.length) := by
  intro i hi
  rw [nthGoal_goals (List.mem_range.1 hi)]
  exact h _ (List.getElem_mem _)

/-- Cards with one layout have goals with the same numbers in the same places. -/
theorem Card.SameLayout.alike (h : card.SameLayout card') :
    card.Alike (nthGoal card.goals) (nthGoal card'.goals) (List.range card.items.length) card' := by
  refine ⟨card.config, (List.range card.items.length).zip (card.items.map Item.position), ?_, ?_, ?_⟩
  · rw [List.map_fst_zip (by simp)]
  · exact congrArg (Card.mk card.config) card.itemsAt_goals.symm
  · rw [← h.config, ← h.positions, ← h.length_eq]
    exact congrArg (Card.mk card'.config) card'.itemsAt_goals.symm

/-- The numbers say where the goals come from. -/
theorem Card.Alike.sameOrigins {k : Nat}
    (h : card.Alike (nthGoal goals) (nthGoal goals') (List.range k) card')
    (hk : k ≤ goals.length) (hk' : k ≤ goals'.length) :
    card.SameOrigins goals goals' [] card' := by
  refine ⟨h.sameLayout, ?_⟩
  obtain ⟨config, places, hplaces, rfl, rfl⟩ := h
  have hgoals : ∀ {goals : List Goal}, k ≤ goals.length →
      (Card.goals ⟨config, itemsAt (nthGoal goals) places⟩).map some =
        ((places.map Prod.fst).map fun i => goals[i]?) ++ [] := by
    intro goals hk
    rw [Card.goals, itemsAt, List.map_map, List.map_map, List.map_map, List.append_nil]
    refine List.map_congr_left fun place hplace => ?_
    have hlt := List.mem_range.1 (hplaces.subset (List.mem_map_of_mem hplace))
    exact (getElem?_of_lt (by omega)).symm
  refine ⟨places.map Prod.fst, ?_, hgoals hk, hgoals hk'⟩
  obtain ⟨numbers, hnumbers, hsublist⟩ := hplaces
  exact hnumbers.nodup_iff.1 (List.nodup_range.sublist hsublist)

/-- With a new item in one cell on both cards, the other goals stay. -/
theorem Card.SameLayout.sameOrigins_append (h : card.SameLayout card') (item : Item) :
    Card.SameOrigins card.goals card'.goals [item.goal]
      { card with items := card.items ++ [item] } { card' with items := card'.items ++ [item] } := by
  refine ⟨⟨h.config, ?_⟩, List.range card.goals.length, List.nodup_range, ?_, ?_⟩
  · rw [List.map_append, List.map_append, h.positions]
  · rw [← map_some_eq_range]
    simp [Card.goals]
  · have hlength : card.goals.length = card'.goals.length := by simp [h.length_eq]
    rw [hlength, ← map_some_eq_range]
    simp [Card.goals]

end Numbering

/-- **No layout depends on what the goals are.** Take two cards with one
layout and any goals that are not blank. In either build and with every
generator, every operation that sets no mark is refused for the same cause
on both, or gives both one layout and leaves one generator; and then the
goals of both come, text and mark, from the same places of the goals that
the cards had, no two from one place, with the goal that was added after
them. The same holds of copies, where the marks are off. -/
theorem layout_ignores_goals {card card' : Card} (h : card.SameLayout card')
    (hworded : card.Worded) (hworded' : card'.Worded) (build : Build) :
    (∀ operation : Operation, (∀ p done, operation ≠ .setCompleted p done) →
      Lockstep (fun change change' =>
          change.card.SameOrigins card.goals card'.goals operation.newGoals change'.card ∧
          SameEnds change.displaced change'.displaced)
        (operation.applyIn build card) (operation.applyIn build card')) ∧
    ∀ size hasFree,
      Lockstep (fun copy copy' =>
          copy.card.SameOrigins (card.goals.map Goal.unmarked) (card'.goals.map Goal.unmarked) []
            copy'.card ∧
          copy'.truncated = copy.truncated)
        (card.copyIn build size hasFree) (card'.copyIn build size hasFree) := by
  have hgoals := hworded.numbered
  have hgoals' : WordedGoals (nthGoal card'.goals) (List.range card.items.length) :=
    h.length_eq ▸ hworded'.numbered
  refine ⟨fun operation hmark => ?_, fun size hasFree => ?_⟩
  · by_cases hadd : ∃ content position, operation = .add content position
    · obtain ⟨content, position, rfl⟩ := hadd
      refine (h.alike.lockstep_addIn build hgoals hgoals' content position).bind ?_
      rintro _ _ ⟨p, rfl, rfl⟩
      exact lockstep_pure ⟨h.sameOrigins_append ⟨p, Text.trim content, false⟩, rfl⟩
    · simp only [not_exists] at hadd
      have hnew : operation.newGoals = [] := by
        cases operation with
        | add content position => exact absurd rfl (hadd content position)
        | _ => rfl
      rw [hnew]
      refine (h.alike.lockstep_applyIn build hgoals hgoals' operation hadd hmark).mono
        fun change change' halike => ⟨?_, halike.displaced⟩
      exact halike.card.sameOrigins (by simp) (by simp [h.length_eq])
  · refine (h.alike.lockstep_copyIn build hgoals hgoals' size hasFree).mono
      fun copy copy' halike => ⟨?_, halike.1⟩
    obtain ⟨-, halike⟩ := halike
    rw [nthGoal_unmarked, nthGoal_unmarked] at halike
    exact halike.sameOrigins (by simp) (by simp [h.length_eq])

/-- FREE put onto the first item of two cards with other goals and marks. -/
theorem layout_ignores_goals_displaced :
    let g := Generator.ofWords []
    let config : Config := ⟨.two, "BI", some ⟨3⟩, .draft⟩
    let card : Card := ⟨config, [⟨⟨1⟩, "run", true⟩, ⟨⟨0⟩, "swim", false⟩]⟩
    let card' : Card := ⟨config, [⟨⟨1⟩, "read", false⟩, ⟨⟨0⟩, "sleep", true⟩]⟩
    card.SameLayout card' ∧
      (((Operation.moveFree ⟨1⟩).apply card').outcome g).1 =
        .ok ⟨⟨⟨.two, "BI", some ⟨1⟩, .draft⟩, [⟨⟨2⟩, "read", false⟩, ⟨⟨0⟩, "sleep", true⟩]⟩,
          some ⟨"read", ⟨1⟩, ⟨2⟩⟩⟩ ∧
      ∃ change change' rest, ((Operation.moveFree ⟨1⟩).apply card).outcome g = (.ok change, rest) ∧
        ((Operation.moveFree ⟨1⟩).apply card').outcome g = (.ok change', rest) ∧
        change.card.SameOrigins card.goals card'.goals [] change'.card := by
  intro g config card card'
  have h : card.SameLayout card' := ⟨rfl, rfl⟩
  have hmoved : (((Operation.moveFree ⟨1⟩).apply card').outcome g).1 =
      .ok ⟨⟨⟨.two, "BI", some ⟨1⟩, .draft⟩, [⟨⟨2⟩, "read", false⟩, ⟨⟨0⟩, "sleep", true⟩]⟩,
        some ⟨"read", ⟨1⟩, ⟨2⟩⟩⟩ := by decide +kernel
  have hworded : card.Worded := by unfold Card.Worded; decide +kernel
  have hworded' : card'.Worded := by unfold Card.Worded; decide +kernel
  refine ⟨h, hmoved, ?_⟩
  have halike := (layout_ignores_goals h hworded hworded' .debug).1 (.moveFree ⟨1⟩) (by simp) g
  rcases halike with ⟨change, change', rest, hchange, hchange', horigins, -⟩ | ⟨cause, rest, -, hrefused⟩
  · exact ⟨change, change', rest, hchange, hchange', horigins⟩
  · have hrefused : (((Operation.moveFree ⟨1⟩).apply card').outcome g).1 = .error cause :=
      congrArg Prod.fst hrefused
    rw [hmoved] at hrefused
    cases hrefused

/-- A text given with a blank before it: the item that is added has the
trimmed text, and no item has the text as it was given. -/
theorem added_text_is_trimmed :
    let card : Card := ⟨⟨.two, "BI", none, .draft⟩, []⟩
    let added : Card := ⟨⟨.two, "BI", none, .draft⟩, [⟨⟨0⟩, "run", false⟩]⟩
    ((card.add " run" (some ⟨0⟩)).outcome (.ofWords [])).1 = .ok added ∧
      ∀ item ∈ added.items, item.content ≠ " run" := by
  decide +kernel

end GoalGrid
