import GoalGrid.Proofs.Configurations
import GoalGrid.Proofs.Guarded.Board
import GoalGrid.Proofs.Picks
/-!
# Guarded operations — no access is out of range

The operations on a card and its copies, on guarded boards, with a guard at
each place of a list that they read or take away and at each range that they
draw from. With a configuration that can be made none of these guards stops
them, nor one on the boards that they lay out, whatever the items, the
positions, the size and the generator are (`every_access_in_range`). What it
takes beside the board: an item in a cell is one of the items of the card, and
while goals are left to be placed there are cells left to draw from
(`runsAs_placeGoals`).
-/

namespace GoalGrid

open Edit (ofExcept_bind)

namespace Guarded

variable {card : Card} {board : Board} (build : Build)

/-! ## The FREE cell -/

/-- Makes room in the cell for FREE. -/
def clearFor (card : Card) (board : Board) (target : Position) : Guarded Change :=
  match board.get? target with
  | some (.item index) => do
    let candidates := board.emptyPositions.filter (· ≠ target)
    let destination ← Edit.chooseOr .cardFull candidates
    let item ← entryAt card.items index
    return {
      card := card.withMoved index item destination
      displaced := some ⟨item.content, target, destination⟩ }
  | _ => pure { card }

/-- Puts FREE into the cell, once there is room, and checks the card. -/
def putFreeIn (card : Card) (board : Board) (target : Position) : Guarded Change := do
  let change ← clearFor card board target
  let moved : Card :=
    { change.card with config := { card.config with free := some target } }
  let card ← Edit.ofExcept (build.check moved)
  return { change with card }

/-- The draft with a FREE cell. -/
def enableFreeIn (card : Card) : Guarded Change := do
  Edit.ofExcept card.config.checkDraft
  if card.config.hasFree then throw .alreadyEnabled
  let board ← ofCard card
  let target ← Config.freeTarget card.config.size board.emptyPositions
  putFreeIn build card board target

/-- The draft with its FREE cell moved. -/
def moveFreeIn (card : Card) (target : Position) : Guarded Change := do
  Edit.ofExcept card.config.checkDraft
  match card.config.free with
  | none => throw .notEnabled
  | some current =>
    Edit.ofExcept (card.config.size.checkPosition target)
    if current = target then return { card }
    let board ← ofCard card
    putFreeIn build card board target

/-- **Making room for FREE** misses no item. -/
theorem runsAs_clearFor (hboard : Board.ofCard card = .ok board) (target : Position) :
    (clearFor card board target).RunsAs (card.clearFor board target) := by
  rw [clearFor]
  split
  · rename_i index hcell
    have hitem := List.getElem?_eq_getElem (lt_length_of_get? hboard hcell)
    rw [Card.clearFor_of_get? hcell hitem]
    refine runsAs_ofEdit.bind fun destination _ => ?_
    rw [entryAt_eq hitem, pure_bind]
    exact runsAs_pure
  · rename_i hnone
    rw [Card.clearFor_of_get?_ne hnone]
    exact runsAs_pure

theorem runsAs_putFreeIn (hboard : Board.ofCard card = .ok board) (target : Position) :
    (putFreeIn build card board target).RunsAs (card.putFreeIn build board target) :=
  (runsAs_clearFor hboard target).bind fun _ _ => runsAs_ofEdit.bind fun _ _ => runsAs_pure

theorem runsAs_enableFreeIn (hfree : card.config.FreeOnGrid) :
    (enableFreeIn build card).RunsAs (card.enableFreeIn build) := by
  refine runsAs_ofEdit.bind fun _ _ => RunsAs.guard fun _ => ?_
  refine (runsAs_ofCard hfree).bind fun board hboard => runsAs_ofEdit.bind fun target _ => ?_
  exact runsAs_putFreeIn build (Edit.yields_ofExcept.1 hboard) target

theorem runsAs_moveFreeIn (hfree : card.config.FreeOnGrid) (target : Position) :
    (moveFreeIn build card target).RunsAs (card.moveFreeIn build target) := by
  refine runsAs_ofEdit.bind fun _ _ => ?_
  cases card.config.free with
  | none => exact runsAs_throw
  | some current =>
    refine runsAs_ofEdit.bind fun _ _ => ?_
    split
    · exact runsAs_pure
    · refine (runsAs_ofCard hfree).bind fun board hboard => ?_
      exact runsAs_putFreeIn build (Edit.yields_ofExcept.1 hboard) target

/-! ## Items -/

/-- The draft with one item more. -/
def addIn (card : Card) (content : String) (position : Option Position) : Guarded Card := do
  Edit.ofExcept card.config.checkDraft
  let content := Text.trim content
  if content.isEmpty then throw .emptyContent
  let board ← ofCard card
  if board.isFull then throw .cardFull
  let p ← Card.cellFor board position
  Edit.ofExcept (build.check { card with items := card.items ++ [{ position := p, content }] })

/-- The draft with its items shuffled over the cells that they occupy. -/
def shuffleIn (card : Card) : Guarded Card := do
  Edit.ofExcept card.config.checkDraft
  let _ ← ofCard card
  let sorted := Card.byPosition card.items
  let shuffled ← Edit.ofDraw (Random.shuffle sorted)
  let items := List.zipWith (fun item slot => item.movedTo slot.position) shuffled sorted
  Edit.ofExcept (build.check { card with items })

/-- The draft with the contents of two cells exchanged. -/
def swapIn (card : Card) (a b : Position) : Guarded Card := do
  Edit.ofExcept do
    card.config.checkDraft
    card.config.size.checkPosition a
    card.config.size.checkPosition b
  match card.config.isFree a, card.config.isFree b with
  | true, true => return card
  | true, false => return (← moveFreeIn build card b).card
  | false, true => return (← moveFreeIn build card a).card
  | false, false =>
    let _ ← ofCard card
    if a = b then return card
    let items := card.items.map fun item => item.movedTo (Card.exchanged a b item.position)
    Edit.ofExcept (build.check { card with items })

/-- The finalized card. -/
def finalize (card : Card) : Guarded Card := do
  Edit.ofExcept card.config.checkDraft
  let _ ← ofCard card
  if card.items.length = card.config.capacity then
    return { card with config := { card.config with phase := .finalized } }
  else
    throw (.capacityNotMet card.items.length card.config.capacity)

theorem runsAs_addIn (hfree : card.config.FreeOnGrid) (content : String)
    (position : Option Position) :
    (addIn build card content position).RunsAs (card.addIn build content position) := by
  refine runsAs_ofEdit.bind fun _ _ => RunsAs.guard fun _ => ?_
  refine (runsAs_ofCard hfree).bind fun board _ => RunsAs.guard fun _ => ?_
  exact runsAs_ofEdit.bind fun _ _ => runsAs_ofEdit

theorem runsAs_shuffleIn (hfree : card.config.FreeOnGrid) :
    (shuffleIn build card).RunsAs (card.shuffleIn build) := by
  refine runsAs_ofEdit.bind fun _ _ => (runsAs_ofCard hfree).bind fun _ _ => ?_
  exact runsAs_ofEdit.bind fun _ _ => runsAs_ofEdit

theorem runsAs_swapIn (hfree : card.config.FreeOnGrid) (a b : Position) :
    (swapIn build card a b).RunsAs (card.swapIn build a b) := by
  refine runsAs_ofEdit.bind fun _ _ => ?_
  cases card.config.isFree a <;> cases card.config.isFree b
  · refine (runsAs_ofCard hfree).bind fun _ _ => ?_
    dsimp only
    split
    · exact runsAs_pure
    · exact runsAs_ofEdit
  · exact (runsAs_moveFreeIn build hfree a).bind fun _ _ => runsAs_pure
  · exact (runsAs_moveFreeIn build hfree b).bind fun _ _ => runsAs_pure
  · exact runsAs_pure

theorem runsAs_finalize (hfree : card.config.FreeOnGrid) :
    (finalize card).RunsAs (Edit.ofExcept card.finalize) := by
  rw [Card.finalize, ofExcept_bind]
  refine runsAs_ofEdit.bind fun _ _ => ?_
  rw [ofExcept_bind]
  refine (runsAs_ofCard hfree).bind fun _ _ => ?_
  split
  · exact runsAs_pure
  · exact runsAs_throw

/-! ## Operations -/

/-- What the operation makes of a card. The other operations read and write no
place by its number. -/
def applyIn (card : Card) : Operation → Guarded Change
  | .add content position => return { card := ← addIn build card content position }
  | .enableFree => enableFreeIn build card
  | .moveFree target => moveFreeIn build card target
  | .shuffle => return { card := ← shuffleIn build card }
  | .swap a b => return { card := ← swapIn build card a b }
  | .finalize => return { card := ← finalize card }
  | operation => operation.applyIn build card

/-- **No operation misses a place.** -/
theorem runsAs_applyIn (hfree : card.config.FreeOnGrid) (operation : Operation) :
    (applyIn build card operation).RunsAs (operation.applyIn build card) := by
  have hkeep : ∀ {x : Guarded Card} {e : Edit Card}, x.RunsAs e →
      (do return { card := ← x } : Guarded Change).RunsAs (do return { card := ← e }) :=
    fun hx => hx.bind fun _ _ => runsAs_pure
  cases operation with
  | add content position => exact hkeep (runsAs_addIn build hfree content position)
  | enableFree => exact runsAs_enableFreeIn build hfree
  | moveFree target => exact runsAs_moveFreeIn build hfree target
  | shuffle => exact hkeep (runsAs_shuffleIn build hfree)
  | swap a b => exact hkeep (runsAs_swapIn build hfree a b)
  | finalize => exact hkeep (runsAs_finalize hfree)
  | remove | setCompleted | setHeader | resize | disableFree => exact runsAs_ofEdit

/-! ## Copies -/

/-- The goals put as new items into cells that are drawn, each cell taken from
those that are left. -/
def placeGoals : List Item → List Position → Guarded (List Item)
  | [], _ => pure []
  | goal :: goals, vacant => do
    let slot ← drawBelow vacant.length
    let (p, vacant) ← takeAt vacant slot
    let placed ← placeGoals goals vacant
    return { position := p, content := goal.content } :: placed

/-- A new draft with the goals of the card. -/
def copyIn (card : Card) (size : GridSize) (hasFree : Bool) : Guarded CardCopy := do
  let _ ← ofCard card
  let header := GridSize.resizedHeader card.config.header card.config.size size
  let config ← Config.create size (some header) (some hasFree)
  let vacant := size.positions.filter fun p => !config.isFree p
  let goals := (Card.byPosition card.items).take config.capacity
  let items ← placeGoals goals vacant
  let copied ← Edit.ofExcept (build.check { config, items })
  return { card := copied, truncated := config.capacity < card.items.length }

/-- The goals put into cells after all the draws. -/
def drawnGoals (goals : List Item) (vacant : List Position) : Edit (List Item) := do
  let slots ← Edit.ofDraw (Random.slots goals.length vacant.length)
  return Card.placedGoals goals (Random.pick slots vacant)

theorem runsAs_drawBelow {bound : Nat} (h : 0 < bound) :
    (drawBelow bound).RunsAs (Edit.ofDraw (·.draw .bits64 bound)) := by
  rw [drawBelow, if_neg h.ne']
  exact runsAs_ofEdit

/-- The first goal takes one of the cells, and the others are put into those
that are left. -/
theorem drawnGoals_cons {goal : Item} {goals : List Item} {vacant : List Position} :
    drawnGoals (goal :: goals) vacant = do
      let slot ← Edit.ofDraw (·.draw .bits64 vacant.length)
      let slots ← Edit.ofDraw (Random.slots goals.length (vacant.length - 1))
      return Card.placedGoals (goal :: goals) (Random.pick (slot :: slots) vacant) :=
  rfl

/-- **While goals are left there are cells left**, and each draw is the place
of one of them. -/
theorem runsAs_placeGoals {goals : List Item} {vacant : List Position}
    (h : goals.length ≤ vacant.length) :
    (placeGoals goals vacant).RunsAs (drawnGoals goals vacant) := by
  -- each goal takes a cell away, so the cells are arbitrary
  induction goals generalizing vacant with
  | nil => exact fun _ => rfl
  | cons goal goals ih =>
    rw [List.length_cons] at h
    rw [drawnGoals_cons]
    refine (runsAs_drawBelow (Nat.zero_lt_of_lt h)).bind fun slot hslot => ?_
    have hlt : slot < vacant.length := by
      obtain ⟨g, rfl⟩ := Edit.yields_ofDraw hslot
      exact g.draw_lt .bits64 (Nat.zero_lt_of_lt h)
    have hleft := Random.length_swapRemove hlt
    have hroom : goals.length ≤ (Random.swapRemove vacant slot).length := by omega
    rw [takeAt_eq hlt, pure_bind, ← hleft]
    simp only [Random.pick_cons hlt]
    exact (ih hroom).bind (k := fun placed => pure (_ :: placed)) fun _ _ => runsAs_pure

/-- **No copy misses a place**, and none draws from an empty range. -/
theorem runsAs_copyIn (hfree : card.config.FreeOnGrid) (size : GridSize) (hasFree : Bool) :
    (copyIn build card size hasFree).RunsAs (card.copyIn build size hasFree) := by
  refine (runsAs_ofCard hfree).bind fun _ _ => runsAs_ofEdit.bind fun config hconfig => ?_
  have hopen := (Config.valid_of_yields_create hconfig).free
  obtain ⟨-, rfl, -⟩ := Config.of_yields_create hconfig
  -- no more goals are taken than the new card has open cells, however many there are
  have hroom : ((Card.byPosition card.items).take config.capacity).length ≤
      config.openPositions.length := by
    rw [Config.length_openPositions hopen]
    exact List.length_take_le ..
  exact (runsAs_placeGoals hroom).bind fun _ _ => runsAs_ofEdit.bind fun _ _ => runsAs_pure

end Guarded

/-- **No access is out of range.** With a configuration that can be made and any
items, in both builds, every operation and every copy, looking for bingos and
laying the card out come with every generator to the same end with guards as
without, and so to no fault: no place of a list is missed that is read, written
or taken away, and no number is drawn from an empty range. The same holds of
making room for FREE in any cell of the board of the card, and of drawing that
board with the items of the card, at any width. -/
theorem every_access_in_range {card : Card} (h : card.config.Produced) (build : Build) :
    (∀ operation : Operation,
      (Guarded.applyIn build card operation).RunsAs (operation.applyIn build card)) ∧
    (∀ size hasFree,
      (Guarded.copyIn build card size hasFree).RunsAs (card.copyIn build size hasFree)) ∧
    (Guarded.bingos card).RunsAs (pure card.bingos) ∧
    (Guarded.ofCard card).RunsAs (Edit.ofExcept (Board.ofCard card)) ∧
    ∀ board, Board.ofCard card = .ok board →
      (∀ target, (Guarded.clearFor card board target).RunsAs (card.clearFor board target)) ∧
      ∀ config cellWidth, (Guarded.display board config card.items cellWidth).RunsAs
        (pure (board.display config card.items cellWidth)) := by
  have hfree := h.valid.free
  refine ⟨Guarded.runsAs_applyIn build hfree, Guarded.runsAs_copyIn build hfree, ?_,
    Guarded.runsAs_ofCard hfree, fun board hboard => ⟨Guarded.runsAs_clearFor hboard, ?_⟩⟩
  · rw [Guarded.bingos_eq hfree]
    exact Guarded.runsAs_pure
  · intro config cellWidth
    rw [Guarded.display_eq hboard config cellWidth]
    exact Guarded.runsAs_pure

/-- FREE put onto an item, and a copy with fewer cells than goals. -/
theorem every_access_in_range_displaced :
    let g := Generator.ofWords []
    let card : Card := ⟨⟨.three, "OK", some ⟨4⟩, .draft⟩, [⟨⟨8⟩, "run", true⟩,
      ⟨⟨0⟩, "swim", true⟩, ⟨⟨5⟩, "read", false⟩, ⟨⟨2⟩, "cook", false⟩]⟩
    let change : Change := ⟨⟨⟨.three, "OK", some ⟨5⟩, .draft⟩, [⟨⟨8⟩, "run", true⟩,
      ⟨⟨0⟩, "swim", true⟩, ⟨⟨1⟩, "read", false⟩, ⟨⟨2⟩, "cook", false⟩]⟩,
      some ⟨"read", ⟨5⟩, ⟨1⟩⟩⟩
    let copy : CardCopy := ⟨⟨⟨.two, "OK", some ⟨0⟩, .draft⟩, [⟨⟨1⟩, "swim", false⟩,
      ⟨⟨3⟩, "cook", false⟩, ⟨⟨2⟩, "read", false⟩]⟩, true⟩
    card.config.Produced ∧
      (∃ rest,
        (Guarded.applyIn .debug card (.moveFree ⟨5⟩)).outcome g = .ok (.ok change, rest)) ∧
      (∃ rest, (Guarded.copyIn .debug card .two true).outcome g = .ok (.ok copy, rest)) ∧
      ∃ board, Board.ofCard card = .ok board ∧
        (Guarded.display board card.config card.items 9).outcome g =
          .ok (.ok (board.display card.config card.items 9), g) := by
  intro g card change copy
  have hmade : card.config.Produced := by
    have hparts : Config.ofParts .three "ok" (some ⟨4⟩) .draft = .ok card.config := rfl
    exact .ofParts hparts
  obtain ⟨board, hboard⟩ : ∃ board, Board.ofCard card = .ok board := ⟨_, rfl⟩
  obtain ⟨hoperations, hcopies, -, -, hdrawn⟩ := every_access_in_range hmade .debug
  obtain ⟨-, hdrawn⟩ := hdrawn board hboard
  have hchange : (((Operation.moveFree ⟨5⟩).apply card).outcome g).1 = .ok change := by
    decide +kernel
  have hcopy : ((card.copy .two true).outcome g).1 = .ok copy := by decide +kernel
  exact ⟨hmade, (hoperations _).exists_outcome hchange, (hcopies .two true).exists_outcome hcopy,
    board, hboard, hdrawn card.config 9 g⟩

/-- The guards are there: the board of a card, drawn without its items, misses
the first of them. -/
example (g : Generator) : (Guarded.display
    ((Board.ofConfig ⟨.two, "BI", none, .draft⟩).put ⟨1⟩ (.item 0))
    ⟨.two, "BI", none, .draft⟩ [] 4).outcome g = .error (.noPlace 0 0) := by
  rfl

end GoalGrid
