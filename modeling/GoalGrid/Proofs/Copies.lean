import GoalGrid.Proofs.Chance
/-!
# Copies — which goals a copy takes, and where to

A card with a board can be copied to every size (`sure_copyIn`): the header
is brought to one that fits, there is always a cell for FREE, and each goal
that is taken has a draw among the cells that are left. So the copy has as
many items as fit (`CopiedTo.length`), with the texts of the card in the order
of their positions (`map_content_copiedGoals`). What a copy is, is said as a
whole in `CopiedTo`, and `copied_of_board` says that this is what comes out,
and that a card without a board is refused for the same cause.
-/

namespace GoalGrid

open Edit (sure_chooseOr sure_pure sure_ofDraw Sure Yields)

namespace Config

/-- A configuration can be made of every header that fits. -/
theorem sure_create {size : GridSize} {header : Option String} {hasFree : Option Bool}
    (h : ∃ normal, size.normalizeHeader (header.getD size.defaultHeader) = .ok normal) :
    (create size header hasFree).Sure := by
  obtain ⟨normal, hnormal⟩ := h
  have hcells : size.positions ≠ [] := by
    cases size <;> simp [GridSize.positions, GridSize.total, GridSize.side]
  have htarget : (freeTarget size size.positions).Sure := by
    rw [freeTarget]
    split
    · exact sure_pure
    · exact sure_chooseOr hcells
  rw [create, hnormal]
  refine Sure.bind sure_pure fun _ _ => ?_
  split
  · exact htarget.bind fun _ _ => sure_pure
  · exact sure_pure

/-- A configuration made for the header of another size keeps that header,
unless it is a default one or does not fit. -/
theorem header_of_yields_create {old new : GridSize} {header : String} {hasFree : Option Bool}
    {config : Config} (hheader : old.NormalHeader header)
    (h : (create new (some (GridSize.resizedHeader header old new)) hasFree).Yields config) :
    config.header = if header = old.defaultHeader then new.defaultHeader
      else if header.length ≤ new.side then header else new.defaultHeader := by
  have hnormal := (of_yields_create h).1
  rw [Option.getD_some, GridSize.normalizeHeader_resizedHeader] at hnormal
  rw [← Except.ok.inj hnormal, GridSize.resizedHeader_of_normalHeader hheader]

end Config

namespace Card

variable {card : Card} {config : Config} {size : GridSize} {hasFree : Bool} {copy : CardCopy}

/-! ## Goals and cells -/

/-- Goals that have a cell each keep their texts and their order. -/
theorem map_content_placedGoals {goals : List Item} {cells : List Position}
    (h : goals.length ≤ cells.length) :
    (placedGoals goals cells).map Item.content = goals.map Item.content := by
  refine List.ext_getElem (by simp [placedGoals, h]) fun i hi hi' => ?_
  simp [placedGoals]

/-- **Each goal that is taken has a cell**: as many are taken as there are
open cells at most, so that every draw is among some that are left. -/
theorem map_content_copiedGoals (card : Card) (hfree : config.FreeOnGrid) (g : Generator) :
    (card.copiedGoals config g).map Item.content =
      ((byPosition card.items).take config.capacity).map Item.content := by
  have hgoals : ((byPosition card.items).take config.capacity).length ≤
      config.openPositions.length := by
    rw [Config.length_openPositions hfree]
    exact List.length_take_le ..
  refine map_content_placedGoals (Nat.le_of_eq ?_)
  have hpicked := Random.length_pick (Random.slotsBelow_slots hgoals g)
  rw [Random.length_slots] at hpicked
  exact hpicked.symm

theorem completed_of_mem_copiedGoals {g : Generator} {item : Item}
    (h : item ∈ card.copiedGoals config g) : item.completed = false := by
  rw [copiedGoals, placedGoals] at h
  obtain ⟨i, hi, rfl⟩ := List.mem_iff_getElem.1 h
  rw [List.getElem_zipWith]

/-! ## Copies -/

/-- What a copy of a card is: a sound draft of its size, with FREE if it is
wanted and with the header of the card if that fits and is not the default
one. It takes the goals in the order of their positions, none of them
completed, as far as there is room. -/
structure CopiedTo (card : Card) (new : GridSize) (wanted : Bool) (copy : CardCopy) : Prop where
  sound : copy.card.Sound
  size : copy.card.config.size = new
  phase : copy.card.config.phase = .draft
  hasFree : copy.card.config.hasFree = wanted
  header : copy.card.config.header =
    if card.config.header = card.config.size.defaultHeader then new.defaultHeader
    else if card.config.header.length ≤ new.side then card.config.header else new.defaultHeader
  length : copy.card.items.length = min card.items.length (new.capacity wanted)
  contents : ∃ sorted : List Item, sorted.Perm card.items ∧
    (sorted.Pairwise fun a b => a.position.index < b.position.index) ∧
    copy.card.items.map Item.content = (sorted.take copy.card.items.length).map Item.content
  unmarked : ∀ item ∈ copy.card.items, item.completed = false
  truncated : copy.truncated = true ↔ new.capacity wanted < card.items.length

theorem copiedTo_of_yields (hheader : card.config.size.NormalHeader card.config.header)
    (h : (card.copy size hasFree).Yields copy) : card.CopiedTo size hasFree copy := by
  have hsound := sound_of_yields_copy h
  obtain ⟨hboard, hcreate, ⟨g, hitems⟩, htruncated, -⟩ := of_yields_copy h
  have hresized := Config.header_of_yields_create hheader hcreate
  obtain ⟨-, rfl, hphase, hfree, -⟩ := Config.of_yields_create hcreate
  obtain rfl : copy.card.config.hasFree = hasFree := hfree
  have hcontents := card.map_content_copiedGoals hsound.config.free g
  rw [← hitems] at hcontents
  have hlength : copy.card.items.length = min copy.card.config.capacity card.items.length := by
    have htaken := congrArg List.length hcontents
    rwa [List.length_map, List.length_map, List.length_take,
      (byPosition_perm card.items).length_eq] at htaken
  have hsorted := pairwise_lt_byPosition (nodup_positions_of_board hboard)
  refine ⟨hsound, rfl, hphase, rfl, hresized, hlength.trans (Nat.min_comm ..),
    ⟨byPosition card.items, byPosition_perm card.items, hsorted, ?_⟩, ?_, ?_⟩
  · rw [hcontents, hlength, ← (byPosition_perm card.items).length_eq, ← List.take_eq_take_min]
  · rw [hitems]
    exact fun item => completed_of_mem_copiedGoals
  · rw [htruncated, decide_eq_true_iff]
    rfl

/-- The edit that makes the configuration of a copy, with a header that fits. -/
def copyConfig (card : Card) (size : GridSize) (hasFree : Bool) : Edit Config :=
  Config.create size (some (GridSize.resizedHeader card.config.header card.config.size size))
    (some hasFree)

theorem sure_copyConfig (size : GridSize) (hasFree : Bool) : (card.copyConfig size hasFree).Sure := by
  have hnormal := GridSize.normalizeHeader_resizedHeader card.config.header card.config.size size
  exact Config.sure_create ⟨_, hnormal⟩

/-- **A card with a board can be copied to every size.** -/
theorem sure_copyIn (hboard : ∃ board, Board.ofCard card = .ok board) :
    (card.copyIn .release size hasFree).Sure := by
  obtain ⟨board, hboard⟩ := hboard
  have hlaid : (Edit.ofExcept (Board.ofCard card)).Sure := by
    rw [hboard]
    exact sure_pure
  refine hlaid.bind fun _ _ => (card.sure_copyConfig size hasFree).bind fun config _ => ?_
  refine sure_ofDraw.bind fun slots _ => ?_
  exact (sure_check_release _).bind fun _ _ => sure_pure

/-- **Every card with a board can be copied**, whatever its phase and the order
of its items, the size and the generator are, and the copy is as `CopiedTo`
says. A card without a board is refused for the cause that it has none. -/
theorem copied_of_board (hheader : card.config.size.NormalHeader card.config.header)
    (build : Build) (size : GridSize) (hasFree : Bool) (g : Generator) :
    ((∃ board, Board.ofCard card = .ok board) → ∃ copy,
      ((card.copyIn build size hasFree).outcome g).1 = .ok copy ∧
        card.CopiedTo size hasFree copy) ∧
    ∀ cause, Board.ofCard card = .error cause →
      (card.copyIn build size hasFree).outcome g = (.error cause, g) := by
  refine ⟨fun hboard => ?_, fun cause hcause => ?_⟩
  · obtain ⟨copy, hcopy⟩ := sure_copyIn hboard g
    rw [copyIn_eq .release size hasFree] at hcopy
    rw [copyIn_eq build size hasFree]
    exact ⟨copy, hcopy, copiedTo_of_yields hheader ⟨g, hcopy⟩⟩
  · rw [copyIn, hcause]
    rfl

/-- A copy with room for three of four goals, which are not listed in the
order of their positions. -/
theorem copied_of_board_truncated :
    let g := Generator.ofWords []
    let card : Card := ⟨⟨.three, "OK", some ⟨4⟩, .draft⟩, [⟨⟨8⟩, "run", true⟩,
      ⟨⟨0⟩, "swim", true⟩, ⟨⟨5⟩, "read", false⟩, ⟨⟨2⟩, "cook", false⟩]⟩
    let copy : CardCopy := ⟨⟨⟨.two, "OK", some ⟨0⟩, .draft⟩, [⟨⟨1⟩, "swim", false⟩,
      ⟨⟨3⟩, "cook", false⟩, ⟨⟨2⟩, "read", false⟩]⟩, true⟩
    ((card.copy .two true).outcome g).1 = .ok copy ∧ card.CopiedTo .two true copy := by
  intro g card copy
  have hvalid : card.config.Valid := by
    have hparts : Config.ofParts .three "OK" (some ⟨4⟩) .draft = .ok card.config := rfl
    exact Config.Produced.valid (.ofParts hparts)
  obtain ⟨hcopied, -⟩ := copied_of_board hvalid.header .debug .two true g
  obtain ⟨made, hmade, hthere⟩ := hcopied ⟨_, rfl⟩
  have hcopy : ((card.copy .two true).outcome g).1 = .ok copy := by decide +kernel
  obtain rfl := Except.ok.inj (hmade.symm.trans hcopy)
  exact ⟨hcopy, hthere⟩

end Card

end GoalGrid
