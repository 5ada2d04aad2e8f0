import GoalGrid.Proofs.Additions
import GoalGrid.Proofs.Chance
/-!
# Fillings — drafts can be filled and finalized

While a draft is not full, chance finds a vacant cell for the next item
(`exists_outcome_addIn`), and the card that comes out is a draft with a board
again. So items can be added one after another as long as there is room
(`exists_outcome_fillIn`). Room, the refusal to finalize and the refusal of
another item end at the same moment: with the last item that the card can hold
(`filled_then_finalized`).
-/

namespace GoalGrid.Card

open Edit (sure_chooseOr)

variable {card reached : Card} {board : Board} {p : Position} {content : String}
variable {texts : List String} (build : Build)

/-- The draft with an item for each of the texts, one after another, each in an
empty cell at random. -/
def fillIn (build : Build) (card : Card) (texts : List String) : Edit Card :=
  texts.foldlM (fun card text => card.addIn build text none) card

/-- A card after an item has been added for each of the texts: the new items
follow the old ones, trimmed and not completed, and all fit together. -/
structure FilledUp (card : Card) (texts : List String) (reached : Card) : Prop where
  config : reached.config = card.config
  items : ∃ cells : List Position, cells.length = texts.length ∧ reached.items = card.items ++
    List.zipWith (fun text p => { position := p, content := Text.trim text }) texts cells
  board : ∃ board, Board.ofCard reached = .ok board

theorem FilledUp.length (h : card.FilledUp texts reached) :
    reached.items.length = card.items.length + texts.length := by
  obtain ⟨cells, hcells, hitems⟩ := h.items
  rw [hitems, List.length_append, List.length_zipWith, hcells, Nat.min_self]

/-- The card with an item more is filled up from there. -/
theorem FilledUp.cons {text : String} (h : (card.withAdded text p).FilledUp texts reached) :
    card.FilledUp (text :: texts) reached := by
  obtain ⟨cells, hcells, hitems⟩ := h.items
  refine ⟨h.config, ⟨p :: cells, congrArg (· + 1) hcells, ?_⟩, h.board⟩
  rw [hitems, withAdded, List.append_assoc]
  rfl

section Filling

variable (hdraft : card.config.phase = .draft) (hfree : card.config.FreeOnGrid)
include hdraft hfree

/-- **There is a cell for the next item** while the card is not full, and the
card has a board again with it. -/
theorem exists_outcome_addIn (hboard : Board.ofCard card = .ok board)
    (hcontent : Text.trim content ≠ "") (hroom : card.items.length < card.config.capacity)
    (g : Generator) : ∃ p rest,
      (card.addIn build content none).outcome g = (.ok (card.withAdded content p), rest) ∧
      ∃ laid, Board.ofCard (card.withAdded content p) = .ok laid := by
  have hsome : board.emptyPositions ≠ [] := fun hnone =>
    Nat.ne_of_lt hroom ((emptyPositions_eq_nil_iff hfree hboard).1 hnone)
  have hsure : (cellFor board none).Sure := sure_chooseOr hsome
  obtain ⟨p, hp⟩ := hsure g
  have hvacant : card.Vacant p := vacant_of_yields_cellFor hboard ⟨g, hp⟩
  have hkept : (card.withAdded content p).Kept :=
    (kept_of_ofCard hfree hboard).append hfree hvacant (Text.isBlankText_trim hcontent)
  rcases houtcome : (cellFor board none).outcome g with ⟨result, rest⟩
  rw [houtcome] at hp
  obtain rfl : result = .ok p := hp
  refine ⟨p, rest, ?_, exists_board_of_holds (kept_iff.1 hkept)⟩
  rw [addIn_eq_bind build hdraft hfree hboard hcontent (Nat.ne_of_lt hroom), Edit.outcome_bind,
    houtcome]
  rfl

/-- **Items can be added one after another** as long as there is room. -/
theorem exists_outcome_fillIn (hboard : ∃ board, Board.ofCard card = .ok board)
    (htexts : ∀ text ∈ texts, Text.trim text ≠ "")
    (hroom : card.items.length + texts.length ≤ card.config.capacity) (g : Generator) :
    ∃ reached rest, (card.fillIn build texts).outcome g = (.ok reached, rest) ∧
      card.FilledUp texts reached := by
  -- each item leaves another card for the rest, and the generator where it stands then
  induction texts generalizing card g with
  | nil => exact ⟨card, g, rfl, rfl, ⟨[], rfl, (List.append_nil _).symm⟩, hboard⟩
  | cons text texts ih =>
    obtain ⟨board, hboard⟩ := hboard
    obtain ⟨htext, htexts⟩ := List.forall_mem_cons.1 htexts
    rw [List.length_cons] at hroom
    obtain ⟨p, rest, hadd, hnext⟩ :=
      exists_outcome_addIn build hdraft hfree hboard htext (by omega) g
    have hlength : (card.withAdded text p).items.length = card.items.length + 1 :=
      List.length_append
    have hdraftNext : (card.withAdded text p).config.phase = .draft := hdraft
    have hroomNext : (card.withAdded text p).items.length + texts.length ≤
        (card.withAdded text p).config.capacity := by
      rw [hlength]
      exact (Nat.add_right_comm ..).trans_le hroom
    obtain ⟨reached, last, hfill, hfilled⟩ := ih hdraftNext hfree hnext htexts hroomNext rest
    refine ⟨reached, last, ?_, hfilled.cons⟩
    rw [fillIn, List.foldlM_cons, Edit.outcome_bind, hadd]
    exact hfill

end Filling

/-- **Every draft can be filled and finalized.** With as many texts as items
are missing, none of them blank, items are added one after another whatever
the generator is. Before each of them the card is refused to be finalized, for
the items that are missing then; after the last one it is finalized, and takes
no further item, wherever it is to go. -/
theorem filled_then_finalized (hdraft : card.config.phase = .draft)
    (hfree : card.config.FreeOnGrid) (hboard : ∃ board, Board.ofCard card = .ok board)
    (hcount : texts.length = card.config.capacity - card.items.length)
    (htexts : ∀ text ∈ texts, Text.trim text ≠ "") (g : Generator) :
    (∀ before text after, texts = before ++ text :: after → ∃ reached rest next last,
      (card.fillIn build before).outcome g = (.ok reached, rest) ∧
      card.FilledUp before reached ∧
      reached.finalize =
        .error (.capacityNotMet (card.items.length + before.length) card.config.capacity) ∧
      (reached.addIn build text none).outcome rest = (.ok next, last)) ∧
    ∃ reached rest, (card.fillIn build texts).outcome g = (.ok reached, rest) ∧
      card.FilledUp texts reached ∧
      reached.finalize =
        .ok { reached with config := { reached.config with phase := .finalized } } ∧
      ∀ content, Text.trim content ≠ "" → ∀ position g,
        (reached.addIn build content position).outcome g = (.error .cardFull, g) := by
  have hcapacity := length_le_capacity hfree hboard
  refine ⟨fun before text after htext => ?_, ?_⟩
  · have hlength : texts.length = before.length + (after.length + 1) := by
      rw [htext, List.length_append, List.length_cons]
    have hbefore : ∀ text ∈ before, Text.trim text ≠ "" :=
      fun text hmem => htexts text (by simp [htext, hmem])
    obtain ⟨reached, rest, hfill, hfilled⟩ :=
      exists_outcome_fillIn build hdraft hfree hboard hbefore (by omega) g
    obtain ⟨laid, hlaid⟩ := hfilled.board
    have hheld := hfilled.length
    rw [← hfilled.config] at hdraft hfree hcount hcapacity ⊢
    have hroom : reached.items.length < reached.config.capacity := by omega
    obtain ⟨p, last, hadd, -⟩ :=
      exists_outcome_addIn build hdraft hfree hlaid (htexts text (by simp [htext])) hroom rest
    refine ⟨reached, rest, _, last, hfill, hfilled, ?_, hadd⟩
    rw [finalize_eq_error hdraft hlaid (Nat.ne_of_lt hroom), hheld]
  · obtain ⟨reached, rest, hfill, hfilled⟩ :=
      exists_outcome_fillIn build hdraft hfree hboard htexts (by omega) g
    obtain ⟨laid, hlaid⟩ := hfilled.board
    have hheld := hfilled.length
    rw [← hfilled.config] at hdraft hfree hcount hcapacity
    have hfull : reached.items.length = reached.config.capacity := by omega
    refine ⟨reached, rest, hfill, hfilled, finalize_eq_ok_iff.2 ⟨hdraft, ⟨laid, hlaid⟩, hfull, rfl⟩,
      fun content hcontent position g => ?_⟩
    rw [addIn_eq_throw build hdraft hfree hlaid hcontent hfull, Edit.outcome_throw]

/-- A card with one item of three, and FREE in its last cell. -/
theorem filled_then_finalized_two :
    let g := Generator.ofWords []
    let card : Card := ⟨⟨.two, "BI", some ⟨3⟩, .draft⟩, [⟨⟨1⟩, "run", true⟩]⟩
    let filled : Card := { card with
      items := [⟨⟨1⟩, "run", true⟩, ⟨⟨0⟩, "swim", false⟩, ⟨⟨2⟩, "read", false⟩] }
    ((card.fillIn .debug ["swim ", "read"]).outcome g).1 = .ok filled ∧
      card.finalize = .error (.capacityNotMet 1 3) ∧
      filled.finalize = .ok { filled with config := { filled.config with phase := .finalized } } ∧
      ∀ position, (filled.add "cook" position).outcome g = (.error .cardFull, g) := by
  intro g card filled
  have hfree : card.config.FreeOnGrid := Config.freeOnGrid_of_free rfl rfl
  have hcount : ["swim ", "read"].length = card.config.capacity - card.items.length := rfl
  obtain ⟨hbefore, reached, rest, hfill, -, hfinal, hfull⟩ :=
    filled_then_finalized .debug rfl hfree ⟨_, rfl⟩ hcount (by decide) g
  have hfilled : ((card.fillIn .debug ["swim ", "read"]).outcome g).1 = .ok filled := by
    decide +kernel
  obtain rfl : reached = filled :=
    Except.ok.inj ((congrArg Prod.fst hfill).symm.trans hfilled)
  obtain ⟨start, _, _, _, hstart, -, hmissing, -⟩ := hbefore [] "swim " ["read"] rfl
  obtain rfl : card = start := Except.ok.inj (congrArg Prod.fst hstart)
  exact ⟨hfilled, hmissing, hfinal, fun position => hfull "cook" (by decide) position g⟩

end GoalGrid.Card
