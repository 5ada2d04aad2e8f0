import GoalGrid.Session
import GoalGrid.Proofs.Builds
/-!
# Runs — cards in a session

A run of a session is any number of steps: operations on the card, and
copies of it, which may take its place. Every step may come with a
generator of its own, so that a run says nothing about chance. A refused
step leaves the card as it was; any other one makes a step of `Card.Step`
or takes over a copy (`card_after`), and what both keep holds along every
run (`forall_card_run`). From a new card on, every card is well formed
(`wellFormed_of_run`). All this is said of debug builds; a run that starts
from a card with a configuration that can be made is the same run in a
release build (`runIn_eq`).
-/

namespace GoalGrid

open Edit (Yields)

/-- A step of a session: a change of the card, or a copy of it, which takes
its place if it is adopted. -/
inductive SessionStep where
  | change (operation : Operation)
  | copy (size : GridSize) (hasFree adopt : Bool)

namespace Session

/-- The session after a step. -/
def after (s : Session) : SessionStep → Session
  | .change operation => (s.change operation).2
  | .copy size hasFree adopt => (s.copy size hasFree adopt).2

/-- The session after a run; each step is made with the generator beside it. -/
def run (s : Session) (steps : List (Generator × SessionStep)) : Session :=
  steps.foldl (fun s step => { s with generator := step.1 }.after step.2) s

variable {s : Session} {card : Card}

/-! ## One step -/

/-- **An edit in a session** leaves the card as it was, or puts in its place
the one that is kept of what the edit yields. -/
theorem card_perform {α : Type} (e : Edit α) (keep : α → Option Card) :
    (s.perform e keep).2.card = s.card ∨
      ∃ x, e.Yields x ∧ (s.perform e keep).2.card = (keep x).or s.card := by
  rw [perform]
  split
  · rename_i x g hx
    exact .inr ⟨x, ⟨s.generator, by rw [hx]⟩, rfl⟩
  · exact .inl rfl

theorem card_onCard {α : Type} (e : Card → Edit α) (keep : α → Option Card)
    (h : s.card = some card) : (s.onCard e keep).2.card = some card ∨
      ∃ x, (e card).Yields x ∧ (s.onCard e keep).2.card = (keep x).or (some card) := by
  simp only [onCard, h]
  exact h ▸ card_perform (e card) keep

/-- **What a step does to the card.** -/
theorem card_after (step : SessionStep) (h : s.card = some card) :
    ∃ card', (s.after step).card = some card' ∧ (card' = card ∨ card.Step card' ∨
      ∃ size hasFree copy, (card.copy size hasFree).Yields copy ∧ card' = copy.card) := by
  cases step with
  | change operation =>
    rcases card_onCard (operation.apply ·) (fun change => some change.card) h with hsame | hchange
    · exact ⟨card, hsame, .inl rfl⟩
    · obtain ⟨change, hyields, hcard⟩ := hchange
      exact ⟨change.card, hcard, .inr (.inl (Card.step_of_yields_apply hyields))⟩
  | copy size hasFree adopt =>
    rcases card_onCard (·.copy size hasFree)
      (fun copy => if adopt then some copy.card else none) h with hsame | hcopy
    · exact ⟨card, hsame, .inl rfl⟩
    · obtain ⟨copy, hyields, hcard⟩ := hcopy
      cases adopt with
      | true => exact ⟨copy.card, hcard, .inr (.inr ⟨size, hasFree, copy, hyields, rfl⟩)⟩
      | false => exact ⟨card, hcard, .inl rfl⟩

/-! ## Runs -/

/-- **What steps and copies keep holds along every run.** -/
theorem forall_card_run {P : Card → Prop}
    (hstep : ∀ {card card'}, P card → card.Step card' → P card')
    (hcopy : ∀ {card size hasFree copy}, P card →
      (card.copy size hasFree).Yields copy → P copy.card)
    (steps : List (Generator × SessionStep)) (h : s.card = some card) (hcard : P card) :
    ∃ reached, (s.run steps).card = some reached ∧ P reached := by
  -- the run takes its first step first, so the session it starts from is arbitrary
  induction steps generalizing s card with
  | nil => exact ⟨card, h, hcard⟩
  | cons step steps ih =>
    obtain ⟨card', hcard', hcases⟩ := card_after (s := { s with generator := step.1 }) step.2 h
    refine ih hcard' ?_
    rcases hcases with rfl | hmade | ⟨size, hasFree, copy, hyields, rfl⟩
    · exact hcard
    · exact hstep hcard hmade
    · exact hcopy hcard hyields

end Session

/-! ## Well-formed cards -/

/-- A card as sessions make them. -/
structure Card.WellFormed (card : Card) : Prop where
  /-- Normalizing keeps the header … -/
  header_fixed : card.config.size.normalizeHeader card.config.header = .ok card.config.header
  /-- … which is in uppercase, trimmed, and as long as the grid allows. -/
  header_normal : card.config.size.NormalHeader card.config.header
  free_inRange : ∀ p ∈ card.config.free, card.config.size.contains p = true
  inRange : ∀ item ∈ card.items, card.config.size.contains item.position = true
  distinct : (card.items.map Item.position).Nodup
  vacant : ∀ item ∈ card.items, card.config.free ≠ some item.position
  capacity : card.items.length ≤ card.config.capacity
  texts : ∀ item ∈ card.items, item.content ≠ "" ∧ Text.trim item.content = item.content

theorem Card.Sound.wellFormed {card : Card} (h : card.Sound) (htidy : card.Tidy) :
    card.WellFormed where
  header_fixed := GridSize.normalHeader_iff.1 h.config.header
  header_normal := h.config.header
  free_inRange := h.config.free
  inRange := h.inRange
  distinct := h.distinct
  vacant item hitem := beq_eq_false_iff_ne.1 (h.vacant item hitem)
  capacity := h.capacity
  texts item hitem :=
    ⟨Text.ne_empty_of_isBlankText_eq_false (h.notBlank item hitem), htidy item hitem⟩

namespace Session

variable {s s' : Session} {card : Card}

/-- A new card is a new configuration without items. -/
theorem exists_of_create {size : GridSize} {header : Option String} {hasFree : Option Bool}
    (h : s.create size header hasFree = (.ok card, s')) :
    s'.card = some card ∧
      ∃ config, (Config.create size header hasFree).Yields config ∧ card = { config } := by
  rw [create, perform] at h
  split at h
  · rename_i new g hnew
    obtain ⟨hcard, rfl⟩ := Prod.mk.inj h
    obtain rfl := Except.ok.inj hcard
    have hyields : (do return { config := ← Config.create size header hasFree } :
        Edit Card).Yields new := ⟨s.generator, by rw [hnew]⟩
    obtain ⟨config, hconfig, hreturn⟩ := hyields.of_bind
    exact ⟨rfl, config, hconfig, (Edit.yields_pure.1 hreturn).symm⟩
  · cases (Prod.mk.inj h).1

/-- A new card is sound, and has no text that could be untrimmed. -/
theorem sound_of_create {size : GridSize} {header : Option String} {hasFree : Option Bool}
    (h : s.create size header hasFree = (.ok card, s')) :
    s'.card = some card ∧ card.Sound ∧ card.Tidy := by
  obtain ⟨hcard, config, hconfig, rfl⟩ := exists_of_create h
  exact ⟨hcard, ⟨Card.kept_of_items_eq_nil rfl, Config.valid_of_yields_create hconfig⟩,
    by simp [Card.Tidy]⟩

/-- **Every card of every run from a new card on is well formed**, whatever
the steps are, whatever they are given, and whatever chance does. -/
theorem wellFormed_of_run {size : GridSize} {header : Option String} {hasFree : Option Bool}
    (h : s.create size header hasFree = (.ok card, s')) (steps : List (Generator × SessionStep)) :
    ∃ reached, (s'.run steps).card = some reached ∧ reached.WellFormed := by
  obtain ⟨hcard, hsound, htidy⟩ := sound_of_create h
  obtain ⟨reached, hreached, hsound, htidy⟩ :=
    forall_card_run (P := fun card => card.Sound ∧ card.Tidy)
      (fun h hstep => ⟨hstep.sound h.1, hstep.tidy h.2⟩)
      (fun h hcopy => ⟨Card.sound_of_yields_copy hcopy, Card.tidy_of_yields_copy hcopy h.2⟩)
      steps hcard ⟨hsound, htidy⟩
  exact ⟨reached, hreached, hsound.wellFormed htidy⟩

/-- A run with a text to be trimmed, a refused step and an adopted copy. -/
theorem wellFormed_of_run_copied :
    let g := Generator.ofWords []
    let s := (Session.create ⟨none, g⟩ .three (some " ß ") none).2
    let steps := [(g, .change (.add " swim " (some ⟨8⟩))), (g, .change (.add "run" (some ⟨4⟩))),
      (g, .copy .two true true), (g, .change .disableFree), (g, .change .finalize)]
    let reached : Card := ⟨⟨.two, "SS", none, .draft⟩, [⟨⟨1⟩, "swim", false⟩]⟩
    (s.run steps).card = some reached ∧ reached.WellFormed := by
  intro g s steps reached
  have hcreate : Session.create ⟨none, g⟩ .three (some " ß ") none =
      (.ok { config := ⟨.three, "SS", some ⟨4⟩, .draft⟩ }, s) := rfl
  have hrun : (s.run steps).card = some reached := by decide +kernel
  obtain ⟨card, hcard, h⟩ := wellFormed_of_run hcreate steps
  obtain rfl := Option.some.inj (hcard.symm.trans hrun)
  exact ⟨hrun, h⟩

/-! ## Runs of either build -/

/-- The session after a step of a build. -/
def afterIn (build : Build) (s : Session) : SessionStep → Session
  | .change operation =>
    (s.onCard (operation.applyIn build ·) fun change => some change.card).2
  | .copy size hasFree adopt =>
    (s.onCard (·.copyIn build size hasFree) fun copy => if adopt then some copy.card else none).2

/-- The session after a run of a build. -/
def runIn (build : Build) (s : Session) (steps : List (Generator × SessionStep)) : Session :=
  steps.foldl (fun s step => { s with generator := step.1 }.afterIn build step.2) s

theorem onCard_congr {α : Type} {e e' : Card → Edit α} {keep : α → Option Card}
    (h : ∀ card ∈ s.card, e card = e' card) : s.onCard e keep = s.onCard e' keep := by
  rw [onCard, onCard]
  split
  · rename_i card hcard
    rw [h card hcard]
  · rfl

/-- **A step is the same in either build**, with FREE of the card on its grid. -/
theorem afterIn_eq (h : ∀ card ∈ s.card, card.config.FreeOnGrid) (build : Build)
    (step : SessionStep) : s.afterIn build step = s.after step := by
  cases step with
  | change operation =>
    have hsame : ∀ card ∈ s.card, operation.applyIn build card = operation.apply card :=
      fun card hcard => operation.applyIn_eq (h card hcard) build
    rw [afterIn, after, change, onCard_congr hsame]
  | copy size hasFree adopt =>
    have hsame : ∀ card ∈ s.card, card.copyIn build size hasFree = card.copy size hasFree :=
      fun card _ => Card.copyIn_eq build size hasFree
    rw [afterIn, after, copy, onCard_congr hsame]

/-- A step leaves a session with a valid configuration, if there is a card. -/
theorem valid_after (h : ∀ card ∈ s.card, card.config.Valid) (step : SessionStep) :
    ∀ card ∈ (s.after step).card, card.config.Valid := by
  intro reached hreached
  cases hcard : s.card with
  | none =>
    -- without a card a step does nothing
    have hnone : (s.after step).card = none := by
      cases step <;> simp only [after, change, copy, onCard, hcard]
    rw [hnone] at hreached
    cases hreached
  | some card =>
    obtain ⟨card', hcard', hcases⟩ := card_after step hcard
    obtain rfl := Option.some.inj (hcard'.symm.trans hreached)
    rcases hcases with rfl | hstep | ⟨size, hasFree, copy, hyields, rfl⟩
    · exact h _ hcard
    · exact hstep.valid (h card hcard)
    · exact Card.valid_of_yields_copy hyields

/-- **A run is the same in either build**, when it starts without a card or
from one with a configuration that can be made. -/
theorem runIn_eq (h : ∀ card ∈ s.card, card.config.Produced) (build : Build)
    (steps : List (Generator × SessionStep)) : s.runIn build steps = s.run steps := by
  replace h : ∀ card ∈ s.card, card.config.Valid := fun card hcard => (h card hcard).valid
  induction steps generalizing s with
  | nil => rw [runIn, run, List.foldl_nil, List.foldl_nil]
  | cons step steps ih =>
    have hfirst := afterIn_eq (s := { s with generator := step.1 })
      (fun card hcard => (h card hcard).free) build step.2
    rw [runIn, run, List.foldl_cons, List.foldl_cons, hfirst]
    exact ih (valid_after (s := { s with generator := step.1 }) h step.2)

/-- And so is every run from a new card on. -/
theorem runIn_eq_of_create {size : GridSize} {header : Option String} {hasFree : Option Bool}
    (h : s.create size header hasFree = (.ok card, s')) (build : Build)
    (steps : List (Generator × SessionStep)) : s'.runIn build steps = s'.run steps := by
  obtain ⟨hcard, config, hconfig, rfl⟩ := exists_of_create h
  refine runIn_eq (fun made hmade => ?_) build steps
  obtain rfl := Option.some.inj (hcard.symm.trans hmade)
  exact .create hconfig

end Session

end GoalGrid
