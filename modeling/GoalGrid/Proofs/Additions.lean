import GoalGrid.Proofs.Builds
import GoalGrid.Proofs.Vacancies
/-!
# Additions — items that come and go

An item is added to a draft in the cell that is found for it, as long as the
card is not full (`addIn_eq_ite`): a given cell is found when it is vacant
(`cellFor_some_of_vacant`). Taking an item out leaves all others, since none of
them is in its cell (`Kept.remove_eq`). So what is added can be taken out
again, and what is taken out can be added again (`added_where_vacant`).
-/

namespace GoalGrid.Card

variable {card : Card} {board : Board} {item : Item} {p : Position} {content : String}
variable (build : Build)

/-- The card with one item more at the end of its list, not yet completed. -/
def withAdded (card : Card) (content : String) (p : Position) : Card :=
  { card with items := card.items ++ [{ position := p, content := Text.trim content }] }

/-! ## Adding an item -/

section Adding

variable (hdraft : card.config.phase = .draft) (hfree : card.config.FreeOnGrid)
  (hboard : Board.ofCard card = .ok board) (hcontent : Text.trim content ≠ "")
include hdraft hfree hboard hcontent

/-- **An item is added** in the cell that is found for it, unless the card is
full; the check at the end is never in the way. -/
theorem addIn_eq_ite (position : Option Position) : card.addIn build content position =
    if card.items.length = card.config.capacity then throw .cardFull
    else cellFor board position >>= fun p => pure (card.withAdded content p) := by
  have hnotEmpty : ¬ (Text.trim content).isEmpty = true := by simpa using hcontent
  have hfull := isFull_iff_length hfree hboard
  rw [addIn_eq build hfree, ← addIn_eq .release hfree, addIn, Config.checkDraft_eq_ok_iff.2 hdraft,
    hboard, if_neg hnotEmpty]
  by_cases h : board.isFull = true
  · rw [if_pos (hfull.1 h)]
    exact if_pos h
  · rw [if_neg fun hlength => h (hfull.2 hlength)]
    exact if_neg h

/-- A full card takes no item, wherever it is to go. -/
theorem addIn_eq_throw (hlength : card.items.length = card.config.capacity)
    (position : Option Position) : card.addIn build content position = throw .cardFull := by
  rw [addIn_eq_ite build hdraft hfree hboard hcontent, if_pos hlength]

/-- While the card is not full, it is all about the cell. -/
theorem addIn_eq_bind (hlength : card.items.length ≠ card.config.capacity)
    (position : Option Position) : card.addIn build content position =
      cellFor board position >>= fun p => pure (card.withAdded content p) := by
  rw [addIn_eq_ite build hdraft hfree hboard hcontent, if_neg hlength]

end Adding

/-- A card with a vacant cell is not full. -/
theorem length_ne_of_vacant (hfree : card.config.FreeOnGrid)
    (hboard : ∃ board, Board.ofCard card = .ok board) (h : card.Vacant p) :
    card.items.length ≠ card.config.capacity :=
  Nat.ne_of_lt ((exists_vacant_iff hfree hboard).1 ⟨p, h⟩)

section Cells

variable (hboard : Board.ofCard card = .ok board)
include hboard

/-- **A given cell is found** when it is vacant … -/
theorem cellFor_some_of_vacant (h : card.Vacant p) : cellFor board (some p) = pure p := by
  have hrange : board.size.contains p = true := by
    rw [Board.size_of_ofCard hboard]
    exact (Config.admits_iff.1 h.1).1
  rw [cellFor, GridSize.checkPosition_eq_ok_iff.2 hrange, if_pos ((Board.isEmpty_iff hboard).2 h)]
  rfl

/-- … and refused for being off the grid … -/
theorem cellFor_some_of_off_grid (h : card.config.size.contains p = false) :
    cellFor board (some p) = throw (.positionOutOfRange p card.config.size.total) := by
  rw [cellFor, Board.size_of_ofCard hboard, GridSize.checkPosition, h]
  rfl

/-- … or for being FREE or the cell of an item. -/
theorem cellFor_some_of_taken (hrange : card.config.size.contains p = true) (h : ¬ card.Vacant p) :
    cellFor board (some p) = throw (.positionOccupied p) := by
  rw [cellFor, Board.size_of_ofCard hboard, GridSize.checkPosition_eq_ok_iff.2 hrange,
    if_neg fun hempty => h ((Board.isEmpty_iff hboard).1 hempty)]
  rfl

end Cells

/-- **An item is added to a vacant cell**, and nothing is drawn for it. -/
theorem addIn_eq_pure (hdraft : card.config.phase = .draft) (hfree : card.config.FreeOnGrid)
    (hboard : Board.ofCard card = .ok board) (hcontent : Text.trim content ≠ "")
    (h : card.Vacant p) : card.addIn build content (some p) = pure (card.withAdded content p) := by
  have hlength := length_ne_of_vacant hfree ⟨board, hboard⟩ h
  rw [addIn_eq_bind build hdraft hfree hboard hcontent hlength, cellFor_some_of_vacant hboard h]
  rfl

/-- Why no item is added at a position: the card is full, or else the position
is off the grid, or else the cell is taken. -/
def refusalAt (card : Card) (p : Position) : CardError :=
  if card.items.length = card.config.capacity then .cardFull
  else if card.config.size.contains p then .positionOccupied p
  else .positionOutOfRange p card.config.size.total

/-- **No item is added anywhere else**, and nothing is drawn. -/
theorem addIn_eq_throw_refusalAt (hdraft : card.config.phase = .draft)
    (hfree : card.config.FreeOnGrid) (hboard : Board.ofCard card = .ok board)
    (hcontent : Text.trim content ≠ "") (h : ¬ card.Vacant p) :
    card.addIn build content (some p) = throw (card.refusalAt p) := by
  rw [refusalAt]
  split_ifs with hlength hrange
  · exact addIn_eq_throw build hdraft hfree hboard hcontent hlength (some p)
  · rw [addIn_eq_bind build hdraft hfree hboard hcontent hlength,
      cellFor_some_of_taken hboard hrange h]
    rfl
  · rw [addIn_eq_bind build hdraft hfree hboard hcontent hlength,
      cellFor_some_of_off_grid hboard (by simpa using hrange)]
    rfl

/-! ## Taking an item out -/

/-- A draft gives up what is at a position of the grid. -/
theorem remove_eq_of_mem (hdraft : card.config.phase = .draft)
    (hrange : card.config.size.contains p = true)
    (hheld : ∃ item ∈ card.items, item.position = p) : card.remove p =
      .ok { card with items := card.items.filter fun item => item.position != p } :=
  remove_eq_ok_iff.2 ⟨hdraft, ⟨hrange, by simpa [holdsAt] using hheld⟩, rfl⟩

theorem filter_position_ne_eq_self {items : List Item} (h : ∀ item ∈ items, item.position ≠ p) :
    (items.filter fun item => item.position != p) = items :=
  List.filter_eq_self.2 fun item hitem => bne_iff_ne.2 (h item hitem)

/-- **What is added to a vacant cell can be taken out again.** -/
theorem remove_withAdded (hdraft : card.config.phase = .draft) (h : card.Vacant p) :
    (card.withAdded content p).remove p = .ok card := by
  have hadded : ∃ item ∈ (card.withAdded content p).items, item.position = p :=
    ⟨_, List.mem_append_right _ (List.mem_singleton_self _), rfl⟩
  have hdraft : (card.withAdded content p).config.phase = .draft := hdraft
  rw [remove_eq_of_mem hdraft (Config.admits_iff.1 h.1).1 hadded, withAdded, List.filter_append,
    filter_position_ne_eq_self h.2]
  simp

/-- The other items of a card are in other cells than one of them. -/
theorem Kept.position_ne {before after : List Item} (h : card.Kept)
    (hitems : card.items = before ++ item :: after) :
    ∀ other ∈ before ++ after, other.position ≠ item.position := by
  have hdistinct := h.distinct
  rw [hitems, (List.perm_middle.map Item.position).nodup_iff, List.map_cons,
    List.nodup_cons] at hdistinct
  exact fun other hother heq => hdistinct.1 (heq ▸ List.mem_map_of_mem hother)

/-- **Taking an item out leaves the others**, in their order. -/
theorem Kept.remove_eq {before after : List Item} (h : card.Kept)
    (hdraft : card.config.phase = .draft) (hitems : card.items = before ++ item :: after) :
    card.remove item.position = .ok { card with items := before ++ after } := by
  have hmem : item ∈ card.items := by simp [hitems]
  rw [remove_eq_of_mem hdraft (h.inRange item hmem) ⟨item, hmem, rfl⟩, hitems,
    List.filter_append, List.filter_cons_of_neg (by simp), ← List.filter_append,
    filter_position_ne_eq_self (h.position_ne hitems)]

/-- The cell of an item is vacant once the item has been taken out. -/
theorem Kept.vacant_of_removed {before after : List Item} (h : card.Kept)
    (hitems : card.items = before ++ item :: after) :
    Vacant { card with items := before ++ after } item.position :=
  ⟨h.admits (by simp [hitems]), h.position_ne hitems⟩

/-- A card from which an item has been taken out has a board again. -/
theorem Kept.exists_board_removed {before after : List Item} (h : card.Kept)
    (hitems : card.items = before ++ item :: after) :
    ∃ board, Board.ofCard { card with items := before ++ after } = .ok board := by
  have hfewer : (before ++ after).Sublist card.items := by simp [hitems]
  exact exists_board_of_holds (kept_iff.1 (h.of_sublist hfewer))

/-- **An item goes where nothing is, and comes out again.** A text that is not
blank can be added to a draft with a board exactly at a position that may have
an item and has none. Then it is at the end of the list, trimmed and not
completed, and taking it out gives the card back. Otherwise it is refused:
because the card is full, wherever it is to go; else because the position is
off the grid; else because the cell is taken. And every item can be taken out,
which leaves all others in their order, and its text can be added again in its
place. -/
theorem added_where_vacant (hdraft : card.config.phase = .draft) (hfree : card.config.FreeOnGrid)
    (hboard : ∃ board, Board.ofCard card = .ok board) :
    (∀ content, Text.trim content ≠ "" → ∀ p g,
      ((∃ added, ((card.addIn build content (some p)).outcome g).1 = .ok added) ↔
        card.config.admits p = true ∧ ∀ item ∈ card.items, item.position ≠ p) ∧
      (card.Vacant p →
        (card.addIn build content (some p)).outcome g = (.ok (card.withAdded content p), g) ∧
          (card.withAdded content p).remove p = .ok card) ∧
      (¬ card.Vacant p →
        (card.addIn build content (some p)).outcome g = (.error (card.refusalAt p), g))) ∧
    ∀ before item after, card.items = before ++ item :: after →
      let rest : Card := { card with items := before ++ after }
      card.remove item.position = .ok rest ∧
        ∀ g, (rest.addIn build item.content (some item.position)).outcome g =
          (.ok (rest.withAdded item.content item.position), g) := by
  obtain ⟨board, hboard⟩ := hboard
  have hkept := kept_of_ofCard hfree hboard
  refine ⟨fun content hcontent p g => ?_, fun before item after hitems => ?_⟩
  · have hadded (h : card.Vacant p) := addIn_eq_pure build hdraft hfree hboard hcontent h
    have hrefused (h : ¬ card.Vacant p) :=
      addIn_eq_throw_refusalAt build hdraft hfree hboard hcontent h
    refine ⟨⟨fun ⟨added, hok⟩ => ?_, fun h => ⟨card.withAdded content p, ?_⟩⟩, fun h => ⟨?_, ?_⟩,
      fun h => ?_⟩
    · by_contra h
      rw [hrefused h] at hok
      cases hok
    · rw [hadded h, Edit.outcome_pure]
    · rw [hadded h, Edit.outcome_pure]
    · exact remove_withAdded hdraft h
    · rw [hrefused h, Edit.outcome_throw]
  · intro rest
    obtain ⟨left, hleft⟩ := hkept.exists_board_removed hitems
    have hcontent := Text.trim_ne_empty (hkept.notBlank item (by simp [hitems]))
    have hdraftRest : rest.config.phase = .draft := hdraft
    have hvacant : rest.Vacant item.position := hkept.vacant_of_removed hitems
    refine ⟨hkept.remove_eq hdraft hitems, fun g => ?_⟩
    rw [addIn_eq_pure build hdraftRest hfree hleft hcontent hvacant, Edit.outcome_pure]

/-- An item between two others comes out and is added again; a text is trimmed;
and neither the FREE cell nor one off the grid takes an item. -/
theorem added_where_vacant_again :
    let g := Generator.ofWords []
    let card : Card := ⟨⟨.three, "BIN", some ⟨4⟩, .draft⟩,
      [⟨⟨2⟩, "run", true⟩, ⟨⟨8⟩, "swim ", true⟩, ⟨⟨0⟩, "read", false⟩]⟩
    let rest : Card := ⟨card.config, [⟨⟨2⟩, "run", true⟩, ⟨⟨0⟩, "read", false⟩]⟩
    card.config.FreeOnGrid ∧ card.remove ⟨8⟩ = .ok rest ∧
      (rest.add "swim " (some ⟨8⟩)).outcome g = (.ok (rest.withAdded "swim " ⟨8⟩), g) ∧
      (card.add " cook" (some ⟨5⟩)).outcome g = (.ok (card.withAdded " cook" ⟨5⟩), g) ∧
      (card.withAdded " cook" ⟨5⟩).remove ⟨5⟩ = .ok card ∧
      (card.add "cook" (some ⟨4⟩)).outcome g = (.error (.positionOccupied ⟨4⟩), g) ∧
      (card.add "cook" (some ⟨9⟩)).outcome g = (.error (.positionOutOfRange ⟨9⟩ 9), g) := by
  intro g card rest
  have hfree : card.config.FreeOnGrid := Config.freeOnGrid_of_free rfl rfl
  obtain ⟨hadd, hremove⟩ := added_where_vacant .debug rfl hfree ⟨_, rfl⟩
  obtain ⟨hremoved, hagain⟩ := hremove [⟨⟨2⟩, "run", true⟩] ⟨⟨8⟩, "swim ", true⟩ _ rfl
  obtain ⟨-, hadded, -⟩ := hadd " cook" (by decide) ⟨5⟩ g
  obtain ⟨hcook, hback⟩ := hadded ⟨rfl, by decide⟩
  obtain ⟨-, -, hfreeCell⟩ := hadd "cook" (by decide) ⟨4⟩ g
  obtain ⟨-, -, hoffGrid⟩ := hadd "cook" (by decide) ⟨9⟩ g
  exact ⟨hfree, hremoved, hagain g, hcook, hback, hfreeCell fun h => absurd h.1 (by decide),
    hoffGrid fun h => absurd h.1 (by decide)⟩

end GoalGrid.Card
