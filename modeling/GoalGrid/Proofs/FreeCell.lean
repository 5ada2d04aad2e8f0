import GoalGrid.Proofs.Chance
import GoalGrid.Proofs.Vacancies
/-!
# The FREE cell — where it goes, and what gives way

FREE can be put into a cell unless an item is there and has nowhere to go
(`sure_putFreeIn`, `putFreeIn_eq_throw`). So a draft without FREE is given
one unless every cell holds an item (`free_enabled_unless_full`), and FREE
can be moved to every cell of the grid but the cell of an item on a card that
is full (`free_moved_unless_full`). Each time the card that comes out is
described as a whole: the configuration has FREE in its new cell, and the
items have made room for it (`MakesRoom`).
-/

namespace GoalGrid

open Edit (sure_chooseOr sure_pure Sure Yields)

/-- The center is the middle cell of the middle row of a grid with an odd
side. -/
theorem GridSize.of_center {size : GridSize} {p : Position} (h : size.center = some p) :
    size.side % 2 = 1 ∧ p = size.positionAt (size.side / 2) (size.side / 2) := by
  cases size <;> simp only [center, Option.some.injEq, reduceCtorEq] at h <;> subst h <;>
    exact ⟨rfl, rfl⟩

/-- FREE is in no open cell. -/
theorem Config.ne_of_admits {config : Config} {current p : Position}
    (hcurrent : config.free = some current) (h : config.admits p = true) : p ≠ current := by
  rintro rfl
  have hnot := (admits_iff.1 h).2
  simp [isFree, hcurrent] at hnot

namespace Card

variable {card : Card} {board : Board} {change : Change} {current target : Position}
variable {items : List Item} {displaced : Option Displacement} (build : Build)

/-! ## Room -/

/-- In a cell without an item there is room already. -/
theorem MakesRoom.eq_of_forall_ne (h : card.MakesRoom target items displaced)
    (hnone : ∀ item ∈ card.items, item.position ≠ target) :
    items = card.items ∧ displaced = none := by
  cases h with
  | stays => exact ⟨rfl, rfl⟩
  | moves hitem hposition => exact absurd hposition (hnone _ (List.mem_of_getElem? hitem))

/-- What gives way goes to a cell that was vacant, which is another one. -/
theorem MakesRoom.vacant_of_displaced {d : Displacement}
    (h : card.MakesRoom target items (some d)) : card.Vacant d.target ∧ d.target ≠ target := by
  cases h with
  | moves hitem hposition hvacant =>
    exact ⟨hvacant, fun heq => hvacant.2 _ (List.mem_of_getElem? hitem) (hposition.trans heq.symm)⟩

/-- **There is room for FREE** in a cell without an item, and in every cell
when one is empty. -/
theorem sure_putFreeIn (hboard : Board.ofCard card = .ok board)
    (hroom : (∃ item ∈ card.items, item.position = target) → board.emptyPositions ≠ []) :
    (card.putFreeIn .release board target).Sure := by
  by_cases hheld : ∃ item ∈ card.items, item.position = target
  · have hsomewhere := hroom hheld
    obtain ⟨item, hmem, hposition⟩ := hheld
    obtain ⟨index, -, hclear⟩ := exists_clearFor_eq hboard hmem hposition
    rw [putFreeIn, hclear]
    refine Sure.bind ((sure_chooseOr hsomewhere).bind fun _ _ => sure_pure) fun cleared _ => ?_
    exact (sure_check_release _).bind fun _ _ => sure_pure
  · have hnone : ∀ item ∈ card.items, item.position ≠ target := by simpa using hheld
    rw [putFreeIn_eq_pure hboard hnone]
    exact sure_pure

/-- **There is no room for FREE** in the cell of an item when none is empty. -/
theorem putFreeIn_eq_throw (hboard : Board.ofCard card = .ok board)
    (hheld : ∃ item ∈ card.items, item.position = target) (hfull : board.emptyPositions = []) :
    card.putFreeIn build board target = throw .cardFull := by
  obtain ⟨item, hmem, hposition⟩ := hheld
  obtain ⟨index, -, hclear⟩ := exists_clearFor_eq hboard hmem hposition
  rw [putFreeIn, hclear, hfull, Edit.chooseOr_nil]
  rfl

/-- The cells of the items after making room are open ones. -/
theorem MakesRoom.admits (h : card.MakesRoom target items displaced) (hkept : card.Kept) :
    ∀ item ∈ items, card.config.admits item.position = true := by
  cases h with
  | stays => exact fun item hitem => hkept.admits hitem
  | moves hitem hposition hvacant =>
    intro other hother
    rcases mem_withMoved hother with hold | rfl
    · exact hkept.admits hold
    · exact hvacant.1

/-- What a card is once FREE has been put into the cell: it has a board
again, and the items have made room, the one that gave way in a vacant cell. -/
structure FreePut (card : Card) (target : Position) (change : Change) : Prop where
  config : change.card.config = { card.config with free := some target }
  board : ∃ after, Board.ofCard change.card = .ok after
  items : card.MakesRoom target change.card.items change.displaced
  apart : ∀ d ∈ change.displaced, card.Vacant d.target ∧ d.target ≠ target

theorem freePut_of_yields_putFree (hboard : Board.ofCard card = .ok board)
    (h : (card.putFree board target).Yields change) : card.FreePut target change := by
  obtain ⟨cleared, hcleared, hcard, hdisplaced, hholds⟩ := of_yields_putFree h
  obtain ⟨-, hroom⟩ := makesRoom_of_yields_clearFor hboard hcleared
  have hitems : card.MakesRoom target change.card.items change.displaced := by
    rw [hcard, hdisplaced]
    exact hroom
  refine ⟨by rw [hcard], exists_board_of_holds hholds, hitems, ?_⟩
  intro d hd
  rw [Option.mem_def.1 hd] at hitems
  exact hitems.vacant_of_displaced

/-- FREE is put into a cell that has room for it. -/
theorem exists_freePut (hfree : card.config.FreeOnGrid) (hboard : Board.ofCard card = .ok board)
    (hrange : card.config.size.contains target = true)
    (hroom : (∃ item ∈ card.items, item.position = target) → board.emptyPositions ≠ [])
    (g : Generator) : ∃ change,
      ((card.putFreeIn build board target).outcome g).1 = .ok change ∧
        card.FreePut target change := by
  obtain ⟨change, hchange⟩ := sure_putFreeIn hboard hroom g
  rw [putFreeIn_eq .release hfree hboard hrange] at hchange
  rw [putFreeIn_eq build hfree hboard hrange]
  exact ⟨change, hchange, freePut_of_yields_putFree hboard ⟨g, hchange⟩⟩

/-! ## FREE on a draft without it -/

/-- FREE on a draft that had none: on an odd grid in the middle, and on an
even one where nothing was, so that nothing moves. -/
structure FreeEnabled (card : Card) (target : Position) (change : Change) : Prop
    extends card.FreePut target change where
  middle : card.config.size.side % 2 = 1 →
    target = card.config.size.positionAt (card.config.size.side / 2) (card.config.size.side / 2)
  even : card.config.size.side % 2 = 0 →
    card.Vacant target ∧ change.card.items = card.items ∧ change.displaced = none

theorem enableFreeIn_eq_bind (hdraft : card.config.phase = .draft) (hnone : card.config.free = none)
    (hboard : Board.ofCard card = .ok board) : card.enableFreeIn build =
      Config.freeTarget card.config.size board.emptyPositions >>= card.putFreeIn build board := by
  have hwithout : ¬ card.config.hasFree = true := by simp [Config.hasFree, hnone]
  rw [enableFreeIn, Config.checkDraft_eq_ok_iff.2 hdraft, hboard, if_neg hwithout]
  rfl

theorem freeEnabled_of_yields (hboard : Board.ofCard card = .ok board)
    (h : card.enableFree.Yields change) : ∃ target, card.FreeEnabled target change := by
  obtain ⟨-, -, _, target, hsame, htarget, hput⟩ := of_yields_enableFree h
  obtain rfl := Except.ok.inj (hboard.symm.trans hsame)
  have hthere := freePut_of_yields_putFree hboard hput
  refine ⟨target, hthere, fun hodd => ?_, fun heven => ?_⟩
  · obtain ⟨center, hcenter⟩ := GridSize.exists_center_iff.2 hodd
    rw [Config.freeTarget, hcenter] at htarget
    obtain rfl := Edit.yields_pure.1 htarget
    exact (GridSize.of_center hcenter).2
  · have hcenter : card.config.size.center = none := by
      rw [Option.eq_none_iff_forall_ne_some]
      exact fun center hcenter => by simp [(GridSize.of_center hcenter).1] at heven
    have hvacant := vacant_of_yields_freeTarget hboard hcenter htarget
    exact ⟨hvacant, hthere.items.eq_of_forall_ne hvacant.2⟩

/-- **On a full card FREE has no place**: the center is an item's, and no
other cell is empty. -/
theorem enableFreeIn_eq_throw (hdraft : card.config.phase = .draft)
    (hnone : card.config.free = none) (hboard : Board.ofCard card = .ok board)
    (hfull : board.emptyPositions = []) : card.enableFreeIn build = throw .cardFull := by
  rw [enableFreeIn_eq_bind build hdraft hnone hboard, Config.freeTarget, hfull]
  cases hcenter : card.config.size.center with
  | none => rfl
  | some center =>
    have hopen : card.config.admits center = true :=
      Config.admits_iff.2 ⟨GridSize.contains_of_center hcenter, by simp [Config.isFree, hnone]⟩
    exact putFreeIn_eq_throw build hboard (exists_item_of_emptyPositions hboard hfull hopen) hfull

theorem sure_enableFreeIn (hdraft : card.config.phase = .draft) (hnone : card.config.free = none)
    (hboard : Board.ofCard card = .ok board) (hroom : board.emptyPositions ≠ []) :
    (card.enableFreeIn .release).Sure := by
  rw [enableFreeIn_eq_bind .release hdraft hnone hboard]
  have htarget : (Config.freeTarget card.config.size board.emptyPositions).Sure := by
    rw [Config.freeTarget]
    split
    · exact sure_pure
    · exact sure_chooseOr hroom
  exact htarget.bind fun target _ => sure_putFreeIn hboard fun _ => hroom

/-- **A draft without FREE is given it unless it is full**, whatever its
items, the build and the generator are: in the middle of an odd grid, where
the item that is there gives way, and in a vacant cell of an even one. -/
theorem free_enabled_unless_full (hdraft : card.config.phase = .draft)
    (hnone : card.config.free = none) (hboard : ∃ board, Board.ofCard card = .ok board)
    (g : Generator) :
    (card.items.length < card.config.size.total ↔ ∃ p, card.Vacant p) ∧
    (card.items.length < card.config.size.total → ∃ target change,
      ((card.enableFreeIn build).outcome g).1 = .ok change ∧ card.FreeEnabled target change) ∧
    (¬ card.items.length < card.config.size.total →
      (card.enableFreeIn build).outcome g = (.error .cardFull, g)) := by
  have hfree : card.config.FreeOnGrid := by simp [Config.FreeOnGrid, hnone]
  have hcapacity : card.config.capacity = card.config.size.total := by
    simp [Config.capacity, Config.hasFree, hnone, GridSize.capacity]
  have hvacant := exists_vacant_iff hfree hboard
  rw [hcapacity] at hvacant
  obtain ⟨board, hboard⟩ := hboard
  have hlength := length_emptyPositions hfree hboard
  refine ⟨hvacant.symm, fun hroom => ?_, fun hfull => ?_⟩
  · have hempty : board.emptyPositions ≠ [] := by
      rw [← List.length_pos_iff]
      omega
    obtain ⟨change, hchange⟩ := sure_enableFreeIn hdraft hnone hboard hempty g
    rw [enableFreeIn_eq .release hfree] at hchange
    obtain ⟨target, henabled⟩ := freeEnabled_of_yields hboard ⟨g, hchange⟩
    refine ⟨target, change, ?_, henabled⟩
    rw [enableFreeIn_eq build hfree]
    exact hchange
  · have hempty : board.emptyPositions = [] := by
      rw [← List.length_eq_zero_iff]
      omega
    rw [enableFreeIn_eq_throw build hdraft hnone hboard hempty, Edit.outcome_throw]

/-- The item in the middle gives way; without an empty cell it cannot. -/
theorem free_enabled_unless_full_displaced :
    let g := Generator.ofWords []
    let card : Card := ⟨⟨.three, "BIN", none, .draft⟩,
      [⟨⟨4⟩, "run", true⟩, ⟨⟨0⟩, "swim", false⟩]⟩
    let change : Change := ⟨⟨⟨.three, "BIN", some ⟨4⟩, .draft⟩,
      [⟨⟨1⟩, "run", true⟩, ⟨⟨0⟩, "swim", false⟩]⟩, some ⟨"run", ⟨4⟩, ⟨1⟩⟩⟩
    let full : Card := ⟨⟨.two, "BI", none, .draft⟩, [⟨⟨2⟩, "run", true⟩, ⟨⟨0⟩, "swim", false⟩,
      ⟨⟨1⟩, "read", false⟩, ⟨⟨3⟩, "cook", false⟩]⟩
    (card.enableFree.outcome g).1 = .ok change ∧ card.FreeEnabled ⟨4⟩ change ∧
      full.enableFree.outcome g = (.error .cardFull, g) := by
  intro g card change full
  have hboard : ∃ board, Board.ofCard card = .ok board := ⟨_, rfl⟩
  have hboardFull : ∃ board, Board.ofCard full = .ok board := ⟨_, rfl⟩
  obtain ⟨-, hroom, -⟩ := free_enabled_unless_full .debug rfl rfl hboard g
  obtain ⟨-, -, hfull⟩ := free_enabled_unless_full .debug rfl rfl hboardFull g
  obtain ⟨target, made, hmade, henabled⟩ := hroom (by decide)
  have hchange : (card.enableFree.outcome g).1 = .ok change := by decide +kernel
  obtain rfl : made = change := Except.ok.inj (hmade.symm.trans hchange)
  obtain rfl := Option.some.inj (congrArg Config.free henabled.config)
  exact ⟨hchange, henabled, hfull (by decide)⟩

/-! ## FREE moved -/

/-- FREE after a move: the cell that it left, if it left one, is empty on the
new board, and what gave way has not gone there. -/
structure FreeMoved (card : Card) (current target : Position) (change : Change) : Prop
    extends card.FreePut target change where
  left : current ≠ target → ∀ after, Board.ofCard change.card = .ok after →
    after.isEmpty current = true
  elsewhere : ∀ d ∈ change.displaced, d.target ≠ current

theorem freeMoved_of_freePut (hfree : card.config.FreeOnGrid)
    (hboard : Board.ofCard card = .ok board) (hcurrent : card.config.free = some current)
    (h : card.FreePut target change) : card.FreeMoved current target change := by
  have hkept := kept_of_ofCard hfree hboard
  refine ⟨h, fun hne after hafter => ?_, fun d hd => ?_⟩
  · refine (Board.isEmpty_iff hafter).2 ⟨?_, fun item hitem => ?_⟩
    · rw [h.config, Config.admits_iff]
      exact ⟨hfree current hcurrent, by simpa [Config.isFree] using hne.symm⟩
    · exact Config.ne_of_admits hcurrent (h.items.admits hkept item hitem)
  · exact Config.ne_of_admits hcurrent (h.apart d hd).1.1

/-- FREE has been put into the cell where it is, without a change. -/
theorem freePut_self (hfree : card.config.FreeOnGrid) (hboard : Board.ofCard card = .ok board)
    (hcurrent : card.config.free = some current) : card.FreePut current { card } := by
  have hkept := kept_of_ofCard hfree hboard
  refine ⟨by rw [← hcurrent], ⟨board, hboard⟩, .stays fun item hitem => ?_, fun d hd => nomatch hd⟩
  exact Config.ne_of_admits hcurrent (hkept.admits hitem)

variable (hdraft : card.config.phase = .draft) (hcurrent : card.config.free = some current)
include hdraft hcurrent

theorem moveFreeIn_eq_throw (hrange : card.config.size.contains target = false) :
    card.moveFreeIn build target =
      throw (.positionOutOfRange target card.config.size.total) := by
  have hcheck : card.config.size.checkPosition target =
      .error (.positionOutOfRange target card.config.size.total) := by
    simp [GridSize.checkPosition, hrange]
  rw [moveFreeIn, Config.checkDraft_eq_ok_iff.2 hdraft, hcurrent, hcheck]
  rfl

/-- On the grid FREE moves unless it is there already. -/
theorem moveFreeIn_eq_ite (hrange : card.config.size.contains target = true)
    (hboard : Board.ofCard card = .ok board) : card.moveFreeIn build target =
      if current = target then pure { card } else card.putFreeIn build board target := by
  rw [moveFreeIn, Config.checkDraft_eq_ok_iff.2 hdraft, hcurrent,
    GridSize.checkPosition_eq_ok_iff.2 hrange, hboard]
  rfl

omit hdraft hcurrent

/-- **FREE moves to every cell of the grid that has room for it**, whatever
the items, the build and the generator are: a cell off the grid is refused,
and so is the cell of an item on a full card. The cell that it leaves is
empty then, and an item that was in the way is in a cell that was vacant. -/
theorem free_moved_unless_full (hdraft : card.config.phase = .draft)
    (hcurrent : card.config.free = some current) (hfree : card.config.FreeOnGrid)
    (hboard : ∃ board, Board.ofCard card = .ok board) (target : Position) (g : Generator) :
    (card.config.size.contains target = false → (card.moveFreeIn build target).outcome g =
      (.error (.positionOutOfRange target card.config.size.total), g)) ∧
    (card.config.size.contains target = true →
      ((∃ item ∈ card.items, item.position = target) ∧ card.items.length = card.config.capacity →
        (card.moveFreeIn build target).outcome g = (.error .cardFull, g)) ∧
      (¬ ((∃ item ∈ card.items, item.position = target) ∧
          card.items.length = card.config.capacity) →
        ∃ change, ((card.moveFreeIn build target).outcome g).1 = .ok change ∧
          card.FreeMoved current target change)) := by
  obtain ⟨board, hboard⟩ := hboard
  have hempty := emptyPositions_eq_nil_iff hfree hboard
  refine ⟨fun hrange => ?_, fun hrange => ?_⟩
  · rw [moveFreeIn_eq_throw build hdraft hcurrent hrange, Edit.outcome_throw]
  rw [moveFreeIn_eq_ite build hdraft hcurrent hrange hboard]
  constructor
  · rintro ⟨⟨item, hitem, hposition⟩, hfull⟩
    have hadmits := (kept_of_ofCard hfree hboard).admits hitem
    have hne : current ≠ target := fun heq =>
      Config.ne_of_admits hcurrent hadmits (hposition.trans heq.symm)
    rw [if_neg hne, putFreeIn_eq_throw build hboard ⟨item, hitem, hposition⟩ (hempty.2 hfull),
      Edit.outcome_throw]
  · intro hroom
    by_cases heq : current = target
    · subst heq
      have hput := freePut_self hfree hboard hcurrent
      rw [if_pos rfl]
      exact ⟨_, rfl, freeMoved_of_freePut hfree hboard hcurrent hput⟩
    · have hsomewhere : (∃ item ∈ card.items, item.position = target) →
          board.emptyPositions ≠ [] := fun hheld hnone => hroom ⟨hheld, hempty.1 hnone⟩
      obtain ⟨change, hchange, hput⟩ := exists_freePut build hfree hboard hrange hsomewhere g
      rw [if_neg heq]
      exact ⟨change, hchange, freeMoved_of_freePut hfree hboard hcurrent hput⟩

/-- FREE moved onto an item, which does not go to where FREE was. -/
theorem free_moved_unless_full_displaced :
    let g := Generator.ofWords []
    let card : Card := ⟨⟨.two, "BI", some ⟨0⟩, .draft⟩,
      [⟨⟨3⟩, "run", true⟩, ⟨⟨1⟩, "swim", false⟩]⟩
    let change : Change := ⟨⟨⟨.two, "BI", some ⟨3⟩, .draft⟩,
      [⟨⟨2⟩, "run", true⟩, ⟨⟨1⟩, "swim", false⟩]⟩, some ⟨"run", ⟨3⟩, ⟨2⟩⟩⟩
    ((card.moveFree ⟨3⟩).outcome g).1 = .ok change ∧ card.FreeMoved ⟨0⟩ ⟨3⟩ change ∧
      (card.moveFree ⟨4⟩).outcome g = (.error (.positionOutOfRange ⟨4⟩ 4), g) := by
  intro g card change
  have hboard : ∃ board, Board.ofCard card = .ok board := ⟨_, rfl⟩
  have hfree : card.config.FreeOnGrid := by
    intro p hp
    obtain rfl := Option.some.inj hp
    rfl
  obtain ⟨-, honGrid⟩ := free_moved_unless_full .debug rfl rfl hfree hboard ⟨3⟩ g
  obtain ⟨hoffGrid, -⟩ := free_moved_unless_full .debug rfl rfl hfree hboard ⟨4⟩ g
  obtain ⟨made, hmade, hmoved⟩ := (honGrid rfl).2 (by decide)
  have hchange : ((card.moveFree ⟨3⟩).outcome g).1 = .ok change := by decide +kernel
  obtain rfl : made = change := Except.ok.inj (hmade.symm.trans hchange)
  exact ⟨hchange, hmoved, hoffGrid rfl⟩

end Card

end GoalGrid
