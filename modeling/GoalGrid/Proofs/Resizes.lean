import GoalGrid.Proofs.Finality
import GoalGrid.Proofs.FreeCell
import GoalGrid.Proofs.Placements
/-!
# Resizes — what a card of another size is

A draft without items can be brought to every size (`exists_resizedTo`): its
header is one that fits there, and there is always a cell for FREE. What comes
out is said as a whole in `ResizedTo`. A header that is not the default one of
its size stays as it is when it fits, character for character, because it has
been normalized when it came onto the card; a default one follows the size, and
so it does along every run of resizes (`header_run_resizes`). A copy to another
size has its header by the same rule (`resized_keeps_fitting_header`).
-/

namespace GoalGrid

open Edit (sure_pure Sure Yields)

namespace Card

variable {card resized : Card} {size : GridSize}

/-! ## One resize -/

/-- A draft without items on a grid of another size: with FREE if it had it, in
the middle of an odd grid and anywhere on an even one, and with its header if
that fits and is not the default one. -/
structure ResizedTo (card : Card) (new : GridSize) (resized : Card) : Prop where
  valid : resized.config.Valid
  items : resized.items = []
  size : resized.config.size = new
  phase : resized.config.phase = .draft
  hasFree : resized.config.hasFree = card.config.hasFree
  onGrid : ∀ p ∈ resized.config.free, new.contains p = true
  middle : new.side % 2 = 1 →
    ∀ p ∈ resized.config.free, p = new.positionAt (new.side / 2) (new.side / 2)
  header : resized.config.header =
    if card.config.header = card.config.size.defaultHeader then new.defaultHeader
    else if card.config.header.length ≤ new.side then card.config.header else new.defaultHeader

theorem resizedTo_of_yields (hheader : card.config.size.NormalHeader card.config.header)
    (h : (card.resize size).Yields resized) : card.ResizedTo size resized := by
  obtain ⟨-, hempty, hcreate, hitems⟩ := of_yields_resize h
  obtain ⟨-, hsize, hphase, hfree, honGrid⟩ := Config.of_yields_create hcreate
  refine ⟨Config.valid_of_yields_create hcreate, hitems.trans hempty, hsize, hphase, hfree, honGrid,
    fun hodd p hp => ?_, Config.header_of_yields_create hheader hcreate⟩
  have hcenter := Config.free_of_yields_create (.inl hodd) hcreate
  rw [hcenter] at hp
  split at hp
  · exact (GridSize.of_center hp).2
  · cases hp

/-- **A draft without items can be brought to every size.** -/
theorem exists_resizedTo (hheader : card.config.size.NormalHeader card.config.header)
    (hdraft : card.config.phase = .draft) (hempty : card.items = []) (size : GridSize)
    (g : Generator) :
    ∃ resized, ((card.resize size).outcome g).1 = .ok resized ∧ card.ResizedTo size resized := by
  have hnormal := GridSize.normalizeHeader_resizedHeader card.config.header card.config.size size
  have hcreate : (Config.create size (some (GridSize.resizedHeader card.config.header
      card.config.size size)) (some card.config.hasFree)).Sure := Config.sure_create ⟨_, hnormal⟩
  have hsure : (card.resize size).Sure := by
    rw [resize, Config.checkDraft_eq_ok_iff.2 hdraft, if_neg (by simp [hempty])]
    exact Sure.bind sure_pure fun _ _ => hcreate.bind fun _ _ => sure_pure
  obtain ⟨resized, hresized⟩ := hsure g
  exact ⟨resized, hresized, resizedTo_of_yields hheader ⟨g, hresized⟩⟩

/-- A default header is the default one of the new size. -/
theorem ResizedTo.default_header (h : card.ResizedTo size resized)
    (hdefault : card.config.header = card.config.size.defaultHeader) :
    resized.config.header = resized.config.size.defaultHeader := by
  rw [h.header, if_pos hdefault, h.size]

end Card

/-! ## Runs of resizes -/

namespace Session

variable {s : Session} {card : Card}

/-- The steps that bring a card to one size after another, each with its
generator. -/
def resizes (sizes : List (Generator × GridSize)) : List (Generator × SessionStep) :=
  sizes.map fun entry => (entry.1, .change (.resize entry.2))

/-- **A resize in a session** brings the card to the size if it is a draft without
items, and else leaves it as it is. -/
theorem card_after_resize (hvalid : card.config.Valid) (hcard : s.card = some card)
    (size : GridSize) :
    ∃ reached, (s.after (.change (.resize size))).card = some reached ∧
      (card.ResizedTo size reached ∨
        reached = card ∧ ¬ (card.config.phase = .draft ∧ card.items = [])) := by
  by_cases hblank : card.config.phase = .draft ∧ card.items = []
  · obtain ⟨resized, hresized, hthere⟩ :=
      Card.exists_resizedTo hvalid.header hblank.1 hblank.2 size s.generator
    refine ⟨resized, ?_, .inl hthere⟩
    rcases houtcome : (card.resize size).outcome s.generator with ⟨result, g⟩
    rw [houtcome] at hresized
    obtain rfl : result = .ok resized := hresized
    have happly : ((Operation.resize size).apply card).outcome s.generator =
        (.ok { card := resized }, g) := by
      rw [Operation.apply, Operation.applyIn, Edit.outcome_bind, houtcome]
      rfl
    simp only [after, Session.change, onCard, hcard, perform, happly, Option.some_or]
  · rcases card_onCard ((Operation.resize size).apply ·) (fun change => some change.card) hcard
      with hsame | ⟨change, hyields, -⟩
    · exact ⟨card, hsame, .inr ⟨rfl, hblank⟩⟩
    · obtain ⟨hdraft, hempty, -⟩ := Card.of_yields_resize (Edit.yields_card hyields)
      exact absurd ⟨hdraft, hempty⟩ hblank

/-- **Along every run of resizes a default header follows the size.** On a draft
without items the run comes to the last of the sizes. -/
theorem header_run_resizes (hvalid : card.config.Valid) (hcard : s.card = some card)
    (hdefault : card.config.header = card.config.size.defaultHeader)
    (sizes : List (Generator × GridSize)) :
    ∃ reached, (s.run (resizes sizes)).card = some reached ∧
      reached.config.header = reached.config.size.defaultHeader ∧
      (card.config.phase = .draft → card.items = [] →
        reached.config.size = (sizes.getLast?.map Prod.snd).getD card.config.size) := by
  -- the run takes its first size first, so that the session and the card it starts from vary
  induction sizes generalizing s card with
  | nil => exact ⟨card, hcard, hdefault, fun _ _ => rfl⟩
  | cons entry sizes ih =>
    obtain ⟨first, hfirst, hmade⟩ :=
      card_after_resize (s := { s with generator := entry.1 }) hvalid hcard entry.2
    have hlast : (((entry :: sizes).getLast?.map Prod.snd).getD card.config.size) =
        (sizes.getLast?.map Prod.snd).getD entry.2 := by
      cases hsizes : sizes.getLast? <;> simp [List.getLast?_cons, hsizes]
    rw [hlast]
    rcases hmade with hresized | ⟨rfl, hblank⟩
    · obtain ⟨reached, hreached, hheader, hsize⟩ :=
        ih hresized.valid hfirst (hresized.default_header hdefault)
      refine ⟨reached, hreached, hheader, fun _ _ => ?_⟩
      rw [hsize hresized.phase hresized.items, hresized.size]
    · obtain ⟨reached, hreached, hheader, -⟩ := ih hvalid hfirst hdefault
      exact ⟨reached, hreached, hheader, fun hdraft hempty => absurd ⟨hdraft, hempty⟩ hblank⟩

end Session

/-- **A header goes with its card to every size that it fits.** A draft without
items can be brought to every size, whatever its configuration and the
generator are, and is then as `ResizedTo` says: with its header as it was if
that fits and is not the default one of its size, else with the default one of
the new size. A card in any phase can be copied to every size if it has a
board, and all its copies have their headers by the same rule. And along every
run of resizes, refused ones among them, a card that had the default header has
the default one of the size that it then is of. -/
theorem resized_keeps_fitting_header {card : Card} (h : card.config.Produced) :
    (card.config.phase = .draft → card.items = [] → ∀ size g, ∃ resized,
      ((card.resize size).outcome g).1 = .ok resized ∧ card.ResizedTo size resized) ∧
    (∀ build size hasFree g,
      ((∃ board, Board.ofCard card = .ok board) →
        ∃ copy, ((card.copyIn build size hasFree).outcome g).1 = .ok copy) ∧
      ∀ copy, ((card.copyIn build size hasFree).outcome g).1 = .ok copy →
        copy.card.config.header =
          if card.config.header = card.config.size.defaultHeader then size.defaultHeader
          else if card.config.header.length ≤ size.side then card.config.header
          else size.defaultHeader) ∧
    (card.config.header = card.config.size.defaultHeader →
      ∀ (s : Session) (sizes : List (Generator × GridSize)), s.card = some card →
        ∃ reached, (s.run (Session.resizes sizes)).card = some reached ∧
          reached.config.header = reached.config.size.defaultHeader ∧
          (card.config.phase = .draft → card.items = [] →
            reached.config.size = (sizes.getLast?.map Prod.snd).getD card.config.size)) := by
  have hvalid := h.valid
  refine ⟨fun hdraft hempty size g => Card.exists_resizedTo hvalid.header hdraft hempty size g,
    fun build size hasFree g => ⟨fun hboard => ?_, fun copy hcopy => ?_⟩,
    fun hdefault s sizes hcard => Session.header_run_resizes hvalid hcard hdefault sizes⟩
  · have hsure : (card.copyIn .release size hasFree).Sure := Card.sure_copyIn hboard
    obtain ⟨copy, hcopy⟩ := hsure g
    rw [Card.copyIn_eq .release size hasFree, ← Card.copyIn_eq build size hasFree] at hcopy
    exact ⟨copy, hcopy⟩
  · rw [Card.copyIn_eq build size hasFree] at hcopy
    exact Config.header_of_yields_create hvalid.header (Card.of_yields_copy ⟨g, hcopy⟩).2.1

/-- The default header of three columns over four: there it is like any other,
and goes to five columns as it is. Over three columns it follows the size. -/
theorem resized_keeps_fitting_header_other :
    let g := Generator.ofWords []
    let card : Card := ⟨⟨.four, "BIN", some ⟨3⟩, .draft⟩, []⟩
    let resized : Card := ⟨⟨.five, "BIN", some ⟨12⟩, .draft⟩, []⟩
    let final : Card := ⟨⟨.two, "OK", some ⟨0⟩, .finalized⟩,
      [⟨⟨1⟩, "run", true⟩, ⟨⟨3⟩, "swim", false⟩, ⟨⟨2⟩, "read", false⟩]⟩
    let start : Card := ⟨⟨.three, "BIN", some ⟨4⟩, .draft⟩, []⟩
    let sizes := [(g, GridSize.five), (g, .two), (g, .four)]
    ((card.resize .five).outcome g).1 = .ok resized ∧ card.ResizedTo .five resized ∧
      (∃ copy, ((final.copy .four false).outcome g).1 = .ok copy ∧
        copy.card.config.header = "OK") ∧
      ∃ reached, ((⟨some start, g⟩ : Session).run (Session.resizes sizes)).card = some reached ∧
        reached.config.header = "BING" ∧ reached.config.size = .four := by
  intro g card resized final start sizes
  have hcard : Config.ofParts .four "bin" (some ⟨3⟩) .draft = .ok card.config := rfl
  have hfinal : Config.ofParts .two "ok" (some ⟨0⟩) .finalized = .ok final.config := rfl
  have hstart : Config.ofParts .three "bin" (some ⟨4⟩) .draft = .ok start.config := rfl
  obtain ⟨hresize, -, -⟩ := resized_keeps_fitting_header (.ofParts hcard)
  obtain ⟨-, hcopies, -⟩ := resized_keeps_fitting_header (.ofParts hfinal)
  obtain ⟨-, -, hrun⟩ := resized_keeps_fitting_header (.ofParts hstart)
  obtain ⟨made, houtcome, hthere⟩ := hresize rfl rfl .five g
  have hresized : ((card.resize .five).outcome g).1 = .ok resized := by decide +kernel
  obtain rfl := Except.ok.inj (houtcome.symm.trans hresized)
  obtain ⟨hcopied, hheader⟩ := hcopies .debug .four false g
  obtain ⟨copy, hcopy⟩ := hcopied ⟨_, rfl⟩
  obtain ⟨reached, hreached, hdefault, hsize⟩ := hrun (by decide) ⟨some start, g⟩ sizes rfl
  have hfour : reached.config.size = .four := hsize rfl rfl
  refine ⟨houtcome, hthere, ⟨copy, hcopy, ?_⟩, reached, hreached, ?_, hfour⟩
  · rw [hheader copy hcopy]
    decide
  · rw [hdefault, hfour]
    decide

end GoalGrid
