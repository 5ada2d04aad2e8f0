import GoalGrid.Proofs.Runs
import GoalGrid.Proofs.Vacancies
/-!
# Finality — what becomes of a finalized card

A finalized card refuses every operation but a marking before it looks at
anything else (`Operation.applyIn_of_finalized`), and a marking changes one
flag. So a step of a session that adopts no copy leaves the mark that it
makes, if it makes one, and nothing else (`card_after_of_finalized`), and a
run leaves all of its marks (`card_run_of_finalized`): the configuration
and the layout are as they were, and the last mark on a cell decides
(`finalized_for_good`). A card that was finalized after it was made as a
new one is full, and remains so.
-/

namespace GoalGrid

/-! ## Marks -/

/-- The last flag that the marks give to a cell, if there is one. -/
def lastMark (marks : List (Position × Bool)) (p : Position) : Option Bool :=
  (marks.filter (·.1 = p)).getLast?.map Prod.snd

theorem lastMark_append {marks later : List (Position × Bool)} {p : Position} :
    lastMark (marks ++ later) p = (lastMark later p).or (lastMark marks p) := by
  rw [lastMark, List.filter_append, List.getLast?_append, Option.map_or]
  rfl

namespace Card

variable {card card' : Card} {marks later : List (Position × Bool)}

/-- The card with the last of the marks on each of its items. -/
def remarked (card : Card) (marks : List (Position × Bool)) : Card :=
  { card with items := card.items.map fun item =>
      item.marked ((lastMark marks item.position).getD item.completed) }

theorem remarked_nil : card.remarked [] = card := by
  simp [remarked, lastMark, Item.marked]

/-- Marks after marks are all of them together. -/
theorem remarked_remarked :
    (card.remarked marks).remarked later = card.remarked (marks ++ later) := by
  simp only [remarked, List.map_map]
  congr 2
  funext item
  simp only [Function.comp_apply, Item.marked, lastMark_append]
  cases lastMark later item.position <;> rfl

theorem layout_remarked : (card.remarked marks).layout = card.layout := by
  simp only [layout, remarked, List.map_map]
  rfl

/-- Marking an item leaves one mark. -/
theorem eq_remarked_of_setCompleted {p : Position} {done : Bool}
    (h : card.setCompleted p done = .ok card') : card' = card.remarked [(p, done)] := by
  obtain ⟨-, rfl⟩ := setCompleted_eq_ok_iff.1 h
  simp only [remarked]
  congr 2
  funext item
  by_cases hp : item.position = p
  · simp [lastMark, hp]
  · simp [lastMark, hp, Ne.symm hp, Item.marked]

end Card

/-! ## Refusals -/

/-- **A finalized card refuses every operation but a marking**, whatever the
operation is given, and draws nothing. -/
theorem Operation.applyIn_of_finalized {card : Card} {operation : Operation}
    (hfinal : card.config.phase = .finalized) (hother : ∀ p done, operation ≠ .setCompleted p done)
    (build : Build) : operation.applyIn build card = throw .alreadyFinalized := by
  have hcheck : card.config.checkDraft = .error .alreadyFinalized := by
    rw [Config.checkDraft, Config.isFinalized, hfinal]
    rfl
  cases operation with
  | setCompleted p done => exact absurd rfl (hother p done)
  | add => rw [applyIn, Card.addIn, hcheck]; rfl
  | remove => rw [applyIn, Card.remove, hcheck]; rfl
  | setHeader => rw [applyIn, Card.setHeader, hcheck]; rfl
  | resize => rw [applyIn, Card.resize, hcheck]; rfl
  | enableFree => rw [applyIn, Card.enableFreeIn, hcheck]; rfl
  | disableFree => rw [applyIn, Card.disableFree, hcheck]; rfl
  | moveFree => rw [applyIn, Card.moveFreeIn, hcheck]; rfl
  | shuffle => rw [applyIn, Card.shuffleIn, hcheck]; rfl
  | swap => rw [applyIn, Card.swapIn, hcheck]; rfl
  | finalize => rw [applyIn, Card.finalize, hcheck]; rfl

/-! ## Runs on a finalized card -/

/-- The step puts no copy in the place of the card. -/
def SessionStep.KeepsCard : SessionStep → Prop
  | .change _ => True
  | .copy _ _ adopt => adopt = false

namespace Session

variable {s : Session} {card : Card} {step : SessionStep}
variable {steps : List (Generator × SessionStep)}

/-- The mark that a step makes, if it is a marking that is not refused. -/
def markOf (s : Session) : SessionStep → Option (Position × Bool)
  | .change (.setCompleted p done) =>
    match (s.change (.setCompleted p done)).1 with
    | .ok _ => some (p, done)
    | .error _ => none
  | _ => none

/-- The marks that a run makes, in their order. -/
def marks (s : Session) : List (Generator × SessionStep) → List (Position × Bool)
  | [] => []
  | (g, step) :: steps =>
    let s := { s with generator := g }
    (s.markOf step).toList ++ (s.after step).marks steps

theorem change_of_error {operation : Operation} {cause : CardError} (hcard : s.card = some card)
    (h : (operation.apply card).outcome s.generator = (.error cause, s.generator)) :
    s.change operation = (.error (.refused cause), s) := by
  rw [change, onCard, hcard]
  simp only [perform, h]

theorem change_of_ok {operation : Operation} {change : Change} (hcard : s.card = some card)
    (h : (operation.apply card).outcome s.generator = (.ok change, s.generator)) :
    s.change operation = (.ok change, { s with card := some change.card }) := by
  simp only [Session.change, onCard, hcard, perform, h, Option.some_or]

/-- **A marking in a session** leaves the mark that it makes. -/
theorem card_after_setCompleted (p : Position) (done : Bool) (hcard : s.card = some card) :
    (s.after (.change (.setCompleted p done))).card =
      some (card.remarked (s.markOf (.change (.setCompleted p done))).toList) := by
  have houtcome : ((Operation.setCompleted p done).apply card).outcome s.generator =
      ((card.setCompleted p done).map fun marked => { card := marked }, s.generator) := by
    rw [Operation.apply, Operation.applyIn]
    cases card.setCompleted p done <;> rfl
  rw [after, markOf]
  cases hmarked : card.setCompleted p done with
  | error cause =>
    rw [hmarked] at houtcome
    rw [change_of_error hcard houtcome, hcard]
    exact congrArg some Card.remarked_nil.symm
  | ok card' =>
    rw [hmarked] at houtcome
    rw [change_of_ok hcard houtcome]
    exact congrArg some (Card.eq_remarked_of_setCompleted hmarked)

/-- **A step on a finalized card** leaves its mark and nothing else. -/
theorem card_after_of_finalized (hcard : s.card = some card)
    (hfinal : card.config.phase = .finalized) (hstep : step.KeepsCard) :
    (s.after step).card = some (card.remarked (s.markOf step).toList) := by
  have hunmarked : s.markOf step = none → (s.after step).card = some card →
      (s.after step).card = some (card.remarked (s.markOf step).toList) := by
    intro hnone hsame
    rw [hnone, hsame, Option.toList_none, Card.remarked_nil]
  cases step with
  | change operation =>
    by_cases hother : ∀ p done, operation ≠ .setCompleted p done
    · have hrefused := Operation.applyIn_of_finalized hfinal hother .debug
      have houtcome : (operation.apply card).outcome s.generator =
          (.error .alreadyFinalized, s.generator) := by
        rw [Operation.apply, hrefused, Edit.outcome_throw]
      refine hunmarked ?_ ?_
      · cases operation with
        | setCompleted p done => exact absurd rfl (hother p done)
        | _ => rfl
      · rw [after, change_of_error hcard houtcome, hcard]
    · simp only [not_forall, not_not] at hother
      obtain ⟨p, done, rfl⟩ := hother
      exact card_after_setCompleted p done hcard
  | copy size hasFree adopt =>
    obtain rfl : adopt = false := hstep
    refine hunmarked rfl ?_
    rcases card_onCard (·.copy size hasFree) (fun copy => if false then some copy.card else none)
      hcard with hsame | ⟨copy, -, hsame⟩
    · exact hsame
    · exact hsame

/-- On every card with this configuration, the step leaves the mark that it
makes, if it makes one, and nothing else. -/
def LeavesMark (config : Config) (step : SessionStep) : Prop :=
  ∀ {s : Session} {card : Card}, s.card = some card → card.config = config →
    (s.after step).card = some (card.remarked (s.markOf step).toList)

/-- **A run of steps that leave their marks** leaves all of them. -/
theorem card_run_of_leavesMark (hcard : s.card = some card)
    (hsteps : ∀ step ∈ steps, LeavesMark card.config step.2) :
    (s.run steps).card = some (card.remarked (s.marks steps)) := by
  -- marking keeps the configuration, so that the rest of the run starts from such a card too
  induction steps generalizing s card with
  | nil => rw [marks, Card.remarked_nil, ← hcard]; rfl
  | cons step steps ih =>
    have hleaves : LeavesMark card.config step.2 := hsteps step List.mem_cons_self
    have hfirst := hleaves (s := { s with generator := step.1 }) hcard rfl
    have hrest := ih hfirst fun later hlater => hsteps later (List.mem_cons_of_mem _ hlater)
    rw [Card.remarked_remarked] at hrest
    exact hrest

/-- **A run on a finalized card** leaves its marks and nothing else. -/
theorem card_run_of_finalized (hcard : s.card = some card)
    (hfinal : card.config.phase = .finalized) (hsteps : ∀ step ∈ steps, step.2.KeepsCard) :
    (s.run steps).card = some (card.remarked (s.marks steps)) :=
  card_run_of_leavesMark hcard fun step hstep _ _ hcard hconfig =>
    card_after_of_finalized hcard (hconfig ▸ hfinal) (hsteps step hstep)

end Session

/-! ## Full cards -/

namespace Card

variable {card card' : Card}

/-- Every cell of the grid but FREE holds exactly one item. -/
def Filled (card : Card) : Prop :=
  ∀ p, card.config.size.contains p = true → card.config.isFree p = false →
    card.items.countP (·.position = p) = 1

/-- **A card that keeps its promises is filled by as many items as it can
hold**: no cell is empty then. -/
theorem Kept.filled (h : card.Kept) (hfree : card.config.FreeOnGrid)
    (hfull : card.items.length = card.config.capacity) : card.Filled := by
  intro p hrange hopen
  obtain ⟨board, hboard⟩ := exists_board_of_holds (kept_iff.1 h)
  have hempty := (emptyPositions_eq_nil_iff hfree hboard).2 hfull
  have hadmits := Config.admits_iff.2 ⟨hrange, hopen⟩
  obtain ⟨item, hitem, rfl⟩ := exists_item_of_emptyPositions hboard hempty hadmits
  have hmem : item.position ∈ card.items.map Item.position := List.mem_map_of_mem hitem
  have hcount := List.count_eq_one_of_mem h.distinct hmem
  rw [List.count, List.countP_map] at hcount
  rw [← hcount]
  exact List.countP_congr fun item _ => by simp

/-- The card is full unless it is a draft. -/
def FullIfFinal (card : Card) : Prop :=
  card.config.phase = .finalized → card.items.length = card.config.capacity

theorem fullIfFinal_of_draft (h : card.config.phase = .draft) : card.FullIfFinal :=
  fun hfinal => absurd (h.symm.trans hfinal) nofun

/-- **A step makes no finalized card that is not full.** -/
theorem Step.fullIfFinal (h : card.Step card') (hfull : card.FullIfFinal) : card'.FullIfFinal := by
  cases h with
  | same => exact hfull
  | laid h => exact fullIfFinal_of_draft (h.phase.trans h.draft)
  | remove h =>
    obtain ⟨hdraft, -, rfl⟩ := remove_eq_ok_iff.1 h
    exact fullIfFinal_of_draft hdraft
  | setCompleted h =>
    obtain ⟨-, rfl⟩ := setCompleted_eq_ok_iff.1 h
    intro hfinal
    exact (List.length_map _).trans (hfull hfinal)
  | setHeader h =>
    obtain ⟨hdraft, header, -, rfl⟩ := setHeader_eq_ok_iff.1 h
    exact fullIfFinal_of_draft hdraft
  | resize h =>
    obtain ⟨-, -, hphase, -⟩ := Config.of_yields_create (of_yields_resize h).2.2.1
    exact fullIfFinal_of_draft hphase
  | disableFree h =>
    obtain ⟨hdraft, -, rfl⟩ := disableFree_eq_ok_iff.1 h
    exact fullIfFinal_of_draft hdraft
  | finalize h =>
    obtain ⟨-, -, hcapacity, rfl⟩ := finalize_eq_ok_iff.1 h
    exact fun _ => hcapacity

theorem fullIfFinal_of_yields_copy {size : GridSize} {hasFree : Bool} {copy : CardCopy}
    (h : (card.copy size hasFree).Yields copy) : copy.card.FullIfFinal :=
  fullIfFinal_of_draft (Config.of_yields_create (of_yields_copy h).2.1).2.2.1

end Card

namespace Session

variable {s : Session} {card : Card} {steps : List (Generator × SessionStep)}

/-- The session comes from one with a new card by a run. -/
def FromNew (s : Session) : Prop :=
  ∃ (start next : Session) (size : GridSize) (header : Option String) (hasFree : Option Bool)
    (created : Card) (before : List (Generator × SessionStep)),
    start.create size header hasFree = (.ok created, next) ∧ s = next.run before

theorem FromNew.run (h : s.FromNew) (steps : List (Generator × SessionStep)) :
    (s.run steps).FromNew := by
  obtain ⟨start, next, size, header, hasFree, created, before, hcreate, rfl⟩ := h
  refine ⟨start, next, size, header, hasFree, created, before ++ steps, hcreate, ?_⟩
  rw [Session.run, Session.run, Session.run, List.foldl_append]

/-- **A finalized card that comes from a new one is filled.** -/
theorem FromNew.filled (h : s.FromNew) (hcard : s.card = some card)
    (hfinal : card.config.phase = .finalized) : card.Filled := by
  obtain ⟨start, next, size, header, hasFree, created, before, hcreate, rfl⟩ := h
  obtain ⟨hcreated, hsound, -⟩ := sound_of_create hcreate
  have hdraft : created.config.phase = .draft := by
    obtain ⟨-, config, hconfig, rfl⟩ := exists_of_create hcreate
    exact (Config.of_yields_create hconfig).2.2.1
  obtain ⟨reached, hreached, hsound, hfull⟩ :=
    forall_card_run (P := fun card => card.Sound ∧ card.FullIfFinal)
      (fun h hstep => ⟨hstep.sound h.1, hstep.fullIfFinal h.2⟩)
      (fun _ hcopy => ⟨Card.sound_of_yields_copy hcopy, Card.fullIfFinal_of_yields_copy hcopy⟩)
      before hcreated ⟨hsound, Card.fullIfFinal_of_draft hdraft⟩
  obtain rfl := Option.some.inj (hcard.symm.trans hreached)
  exact hsound.toKept.filled hsound.config.free (hfull hfinal)

/-- **Finalizing is for good.** Along every run from a finalized card that
adopts no copy, the configuration and the layout remain as they were, the
last mark on each cell decides whether it is completed, and every operation
but a marking is refused because the card is finalized, whatever it is
given. If the card was finalized after it was made as a new one, each of
its cells but FREE holds exactly one item for ever. -/
theorem finalized_for_good (hcard : s.card = some card) (hfinal : card.config.phase = .finalized)
    (hsteps : ∀ step ∈ steps, step.2.KeepsCard) :
    ∃ reached, (s.run steps).card = some reached ∧
      reached.config = card.config ∧ reached.layout = card.layout ∧
      reached.items.map Item.completed = (card.items.map fun item =>
        (lastMark (s.marks steps) item.position).getD item.completed) ∧
      (∀ operation : Operation, (∀ p done, operation ≠ .setCompleted p done) → ∀ build g,
        (operation.applyIn build reached).outcome g = (.error .alreadyFinalized, g)) ∧
      (s.FromNew → reached.Filled) := by
  have hreached := card_run_of_finalized hcard hfinal hsteps
  refine ⟨_, hreached, rfl, Card.layout_remarked, ?_, ?_, ?_⟩
  · rw [Card.remarked, List.map_map]
    rfl
  · intro operation hother build g
    have hstill : (card.remarked (s.marks steps)).config.phase = .finalized := hfinal
    rw [Operation.applyIn_of_finalized hstill hother build, Edit.outcome_throw]
  · intro hnew
    exact (hnew.run steps).filled hreached hfinal

/-- A card finalized, with marks, a copy and refused steps after it. -/
theorem finalized_for_good_marked :
    let g := Generator.ofWords []
    let next := (Session.create ⟨none, g⟩ .two none (some false)).2
    let s := next.run [(g, .change (.add "run" (some ⟨2⟩))), (g, .change (.add "swim" (some ⟨0⟩))),
      (g, .change (.add "read" (some ⟨1⟩))), (g, .change (.add "cook" (some ⟨3⟩))),
      (g, .change .finalize)]
    let steps := [(g, .change (.setCompleted ⟨1⟩ true)), (g, .change .shuffle),
      (g, .change (.setCompleted ⟨2⟩ true)), (g, .copy .three true false),
      (g, .change (.setCompleted ⟨1⟩ false)), (g, .change (.setCompleted ⟨9⟩ true))]
    let reached : Card := ⟨⟨.two, "BI", none, .finalized⟩, [⟨⟨2⟩, "run", true⟩,
      ⟨⟨0⟩, "swim", false⟩, ⟨⟨1⟩, "read", false⟩, ⟨⟨3⟩, "cook", false⟩]⟩
    s.marks steps = [(⟨1⟩, true), (⟨2⟩, true), (⟨1⟩, false)] ∧
      (s.run steps).card = some reached ∧ reached.Filled ∧
      ((Operation.add "" (some ⟨9⟩)).apply reached).outcome g = (.error .alreadyFinalized, g) := by
  intro g next s steps reached
  have hcreate : Session.create ⟨none, g⟩ .two none (some false) =
      (.ok { config := ⟨.two, "BI", none, .draft⟩ }, next) := rfl
  have hnew : s.FromNew := ⟨_, next, _, _, _, _, _, hcreate, rfl⟩
  have hcard : s.card = some ⟨⟨.two, "BI", none, .finalized⟩, [⟨⟨2⟩, "run", false⟩,
      ⟨⟨0⟩, "swim", false⟩, ⟨⟨1⟩, "read", false⟩, ⟨⟨3⟩, "cook", false⟩]⟩ := by
    decide +kernel
  have hmarks : s.marks steps = [(⟨1⟩, true), (⟨2⟩, true), (⟨1⟩, false)] := by decide +kernel
  have hrun : (s.run steps).card = some reached := by decide +kernel
  have hsteps : ∀ step ∈ steps, step.2.KeepsCard := by
    simp [steps, SessionStep.KeepsCard]
  obtain ⟨card, hthere, -, -, -, hrefused, hfilled⟩ := finalized_for_good hcard rfl hsteps
  obtain rfl := Option.some.inj (hthere.symm.trans hrun)
  exact ⟨hmarks, hrun, hfilled hnew, hrefused (.add "" (some ⟨9⟩)) nofun .debug g⟩

end Session

end GoalGrid
