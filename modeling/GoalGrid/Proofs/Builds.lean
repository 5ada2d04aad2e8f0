import GoalGrid.Random.Seeded
import GoalGrid.Proofs.Configurations
import GoalGrid.Proofs.Layouts
/-!
# Builds — the check at the end of an edit never fails

A debug build checks the promises of every card that an edit lays out, a
release build does not. With a configuration that can be made, and
whatever the items are, the check has nothing to find: what an edit can
lay out keeps the promises (`Proofs/Layouts`), so that both builds make
the same edit of every operation and every copy, and none of them is
refused for a broken promise (`check_never_fails`).
-/

namespace GoalGrid

open Edit (Yields)

namespace Edit

variable {α β : Type} {e : Edit α} {f f' : α → Edit β} {cause : CardError}

/-! ## Equal edits -/

/-- Edits that agree on everything that the edit before them can yield are
the same edit after it. -/
theorem bind_congr_of_yields (h : ∀ x, e.Yields x → f x = f' x) : e >>= f = e >>= f' := by
  have houtcome : ∀ g, (e >>= f).outcome g = (e >>= f').outcome g := by
    intro g
    rw [outcome_bind, outcome_bind]
    rcases he : e.outcome g with ⟨cause | x, g'⟩
    · rfl
    · exact congrArg (·.outcome g') (h x ⟨g, by rw [he]⟩)
  exact funext houtcome

/-- Edits that agree when a check passes are the same edit after the check. -/
theorem guard_congr {c : Prop} [Decidable c] {f f' : PUnit → Edit α} (h : ¬ c → f ⟨⟩ = f' ⟨⟩) :
    (if c then throw cause >>= f else f ⟨⟩) = if c then throw cause >>= f' else f' ⟨⟩ := by
  split
  · exact bind_congr_of_yields fun x hx => absurd hx not_yields_throw
  · exact h (by assumption)

end Edit

theorem Build.check_of_kept {card : Card} (h : card.Kept) (build : Build) :
    build.check card = .ok card := by
  cases build with
  | debug => exact Card.verify_eq_ok_iff.2 ⟨Card.kept_iff.1 h, rfl⟩
  | release => rfl

/-! ## Every edit is the same in both builds -/

namespace Card

variable {card : Card} {board : Board} {target : Position} (build : Build)

theorem checkedCard_eq {laid : Card} (h : laid.Kept) :
    Edit.ofExcept (build.check laid) = Edit.ofExcept (Build.check .debug laid) := by
  rw [Build.check_of_kept h, Build.check_of_kept h]

theorem putFreeIn_eq (hfree : card.config.FreeOnGrid) (hboard : Board.ofCard card = .ok board)
    (hrange : card.config.size.contains target = true) :
    card.putFreeIn build board target = card.putFree board target := by
  refine Edit.bind_congr_of_yields fun cleared hcleared => ?_
  have hkept := kept_of_yields_clearFor hfree hboard hrange hcleared
  exact congrArg (· >>= _) (checkedCard_eq build hkept)

theorem enableFreeIn_eq (hfree : card.config.FreeOnGrid) :
    card.enableFreeIn build = card.enableFree := by
  refine Edit.bind_congr_of_yields fun _ _ => Edit.guard_congr fun _ => ?_
  refine Edit.bind_congr_of_yields fun board hboard => ?_
  have hboard := Edit.yields_ofExcept.1 hboard
  refine Edit.bind_congr_of_yields fun target htarget => ?_
  exact putFreeIn_eq build hfree hboard (contains_of_yields_freeTarget hboard htarget)

theorem moveFreeIn_eq (hfree : card.config.FreeOnGrid) (target : Position) :
    card.moveFreeIn build target = card.moveFree target := by
  refine Edit.bind_congr_of_yields fun _ _ => ?_
  cases card.config.free with
  | none => rfl
  | some current =>
    refine Edit.bind_congr_of_yields fun _ hrange => ?_
    have hrange := GridSize.checkPosition_eq_ok_iff.1 (Edit.yields_ofExcept.1 hrange)
    split
    · rfl
    · refine Edit.bind_congr_of_yields fun board hboard => ?_
      exact putFreeIn_eq build hfree (Edit.yields_ofExcept.1 hboard) hrange

theorem addIn_eq (hfree : card.config.FreeOnGrid) (content : String) (position : Option Position) :
    card.addIn build content position = card.add content position := by
  refine Edit.bind_congr_of_yields fun _ _ => Edit.guard_congr fun hcontent => ?_
  refine Edit.bind_congr_of_yields fun board hboard => Edit.guard_congr fun _ => ?_
  have hboard := Edit.yields_ofExcept.1 hboard
  refine Edit.bind_congr_of_yields fun p hp => ?_
  have hblank : Text.isBlankText (Text.trim content) = false :=
    Text.isBlankText_trim (by simpa using hcontent)
  have hvacant : card.Vacant p := vacant_of_yields_cellFor hboard hp
  exact checkedCard_eq build ((kept_of_ofCard hfree hboard).append hfree hvacant hblank)

theorem shuffleIn_eq (hfree : card.config.FreeOnGrid) : card.shuffleIn build = card.shuffle := by
  refine Edit.bind_congr_of_yields fun _ _ => ?_
  refine Edit.bind_congr_of_yields fun board hboard => ?_
  have hkept := kept_of_ofCard hfree (Edit.yields_ofExcept.1 hboard)
  refine Edit.bind_congr_of_yields fun shuffled hdraw => ?_
  obtain ⟨g, rfl⟩ := Edit.yields_ofDraw hdraw
  have hsorted := byPosition_perm card.items
  have hshuffled := (Random.shuffle_perm (byPosition card.items) g).trans hsorted
  exact checkedCard_eq build (hkept.rearrange hfree hshuffled hsorted)

theorem swapIn_eq (hfree : card.config.FreeOnGrid) (a b : Position) :
    card.swapIn build a b = card.swap a b := by
  refine Edit.bind_congr_of_yields fun _ hchecks => ?_
  have hchecks := Edit.yields_ofExcept.1 hchecks
  rw [check_bind_eq_ok_iff, check_bind_eq_ok_iff, GridSize.checkPosition_eq_ok_iff,
    GridSize.checkPosition_eq_ok_iff] at hchecks
  obtain ⟨-, harange, hbrange⟩ := hchecks
  cases ha : card.config.isFree a <;> cases hb : card.config.isFree b
  · refine Edit.bind_congr_of_yields fun board hboard => ?_
    have hkept := kept_of_ofCard hfree (Edit.yields_ofExcept.1 hboard)
    dsimp only
    split
    · rfl
    · have hexchanged := hkept.withExchanged hfree harange hbrange
      rw [withExchanged_of_not_free ha hb] at hexchanged
      exact checkedCard_eq build hexchanged
  · exact congrArg (· >>= _) (moveFreeIn_eq build hfree a)
  · exact congrArg (· >>= _) (moveFreeIn_eq build hfree b)
  · rfl

theorem copyIn_eq (size : GridSize) (hasFree : Bool) :
    card.copyIn build size hasFree = card.copy size hasFree := by
  refine Edit.bind_congr_of_yields fun board hboard => ?_
  have hholds := Board.isOk_ofCard_iff.1 ⟨board, Edit.yields_ofExcept.1 hboard⟩
  refine Edit.bind_congr_of_yields fun config hconfig => ?_
  have hfree := (Config.valid_of_yields_create hconfig).free
  obtain ⟨-, rfl, -⟩ := Config.of_yields_create hconfig
  refine Edit.bind_congr_of_yields fun slots _ => ?_
  have hopen := Random.pick_subperm slots config.openPositions
  have hblank := hholds .contentPresent (by simp)
  simp only [Invariant.holds, List.all_eq_true, Bool.not_eq_true'] at hblank
  refine congrArg (· >>= _) (checkedCard_eq build (kept_placedGoals hfree ?_ ?_ ?_))
  · intro goal hgoal
    exact hblank goal ((byPosition_perm card.items).mem_iff.1 (List.mem_of_mem_take hgoal))
  · exact fun p hp => Config.mem_openPositions.1 (hopen.subset hp)
  · obtain ⟨cells, hcells, hsublist⟩ := hopen
    exact hcells.nodup_iff.1 (Config.nodup_openPositions.sublist hsublist)

end Card

theorem Operation.applyIn_eq {card : Card} (hfree : card.config.FreeOnGrid) (build : Build)
    (operation : Operation) : operation.applyIn build card = operation.apply card := by
  cases operation with
  | add content position => exact congrArg (· >>= _) (Card.addIn_eq build hfree content position)
  | enableFree => exact Card.enableFreeIn_eq build hfree
  | moveFree target => exact Card.moveFreeIn_eq build hfree target
  | shuffle => exact congrArg (· >>= _) (Card.shuffleIn_eq build hfree)
  | swap a b => exact congrArg (· >>= _) (Card.swapIn_eq build hfree a b)
  | remove | setCompleted | setHeader | resize | disableFree | finalize => rfl

/-! ## Refusals for a broken promise -/

/-- The result is no refusal for a broken promise. -/
def ViolationFree {α : Type} (x : Except CardError α) : Prop :=
  ∀ broken, x ≠ .error (.invariantViolation broken)

theorem ViolationFree.bind {α β : Type} {x : Except CardError α} {f : α → Except CardError β}
    (hx : ViolationFree x) (hf : ∀ a, ViolationFree (f a)) : ViolationFree (x >>= f) := by
  cases x with
  | error cause => exact fun broken h => hx broken (congrArg Except.error (Except.error.inj h))
  | ok a => exact hf a

theorem violationFree_ok {α : Type} (a : α) : ViolationFree (.ok a) := nofun

theorem violationFree_error {α : Type} {cause : CardError}
    (h : ∀ broken, cause ≠ .invariantViolation broken) :
    ViolationFree (.error cause : Except CardError α) :=
  fun broken he => h broken (Except.error.inj he)

theorem violationFree_checkDraft (config : Config) : ViolationFree config.checkDraft := by
  rw [Config.checkDraft]
  split
  · exact violationFree_error (by simp)
  · exact violationFree_ok _

theorem violationFree_checkPosition (size : GridSize) (p : Position) :
    ViolationFree (size.checkPosition p) := by
  rw [GridSize.checkPosition]
  split
  · exact violationFree_ok _
  · exact violationFree_error (by simp)

theorem violationFree_normalizeHeader (size : GridSize) (text : String) :
    ViolationFree (size.normalizeHeader text) := by
  rw [GridSize.normalizeHeader]
  split
  · exact violationFree_ok _
  · exact violationFree_error (by simp)

theorem violationFree_ofCard (card : Card) : ViolationFree (Board.ofCard card) := by
  intro broken h
  -- the cause would name a promise, and be one of the three that do
  cases Card.blames_of_ofCard h

namespace Edit

variable {α β : Type} {e : Edit α} {f : α → Edit β} {cause : CardError}

/-- The edit is never refused for a broken promise. -/
def ViolationFree (e : Edit α) : Prop :=
  ∀ g, GoalGrid.ViolationFree (e.outcome g).1

theorem ViolationFree.bind (he : e.ViolationFree) (hf : ∀ x, (f x).ViolationFree) :
    (e >>= f).ViolationFree := by
  intro g broken h
  have hfirst := he g
  rw [outcome_bind] at h
  rcases houtcome : e.outcome g with ⟨cause | x, g'⟩
  · rw [houtcome] at h hfirst
    exact hfirst broken (congrArg Except.error (Except.error.inj h))
  · rw [houtcome] at h
    exact hf x g' broken h

theorem violationFree_pure (x : α) : (pure x : Edit α).ViolationFree :=
  fun _ => violationFree_ok x

theorem violationFree_ofExcept {x : Except CardError α} (hx : GoalGrid.ViolationFree x) :
    (ofExcept x).ViolationFree :=
  fun _ => hx

theorem violationFree_ofDraw (f : Generator → α × Generator) : (ofDraw f).ViolationFree :=
  fun g => violationFree_ok (f g).1

theorem violationFree_throw (hcause : ∀ broken, cause ≠ .invariantViolation broken) :
    (throw cause : Edit α).ViolationFree :=
  fun _ => violationFree_error hcause

theorem violationFree_guard {c : Prop} [Decidable c] {f : PUnit → Edit α}
    (hcause : ∀ broken, cause ≠ .invariantViolation broken) (hf : (f ⟨⟩).ViolationFree) :
    (if c then throw cause >>= f else f ⟨⟩).ViolationFree := by
  split
  · exact fun _ => violationFree_error hcause
  · exact hf

theorem violationFree_chooseOr {xs : List α}
    (hcause : ∀ broken, cause ≠ .invariantViolation broken) : (chooseOr cause xs).ViolationFree := by
  refine (violationFree_ofDraw _).bind fun choice => ?_
  cases choice with
  | none => exact violationFree_throw hcause
  | some x => exact violationFree_pure x

end Edit

open Edit (violationFree_ofExcept violationFree_pure violationFree_throw violationFree_guard
  violationFree_chooseOr violationFree_ofDraw)

theorem Config.violationFree_freeTarget (size : GridSize) (vacant : List Position) :
    (freeTarget size vacant).ViolationFree := by
  rw [freeTarget]
  split
  · exact violationFree_pure _
  · exact violationFree_chooseOr (by simp)

theorem Config.violationFree_create (size : GridSize) (header : Option String)
    (hasFree : Option Bool) : (create size header hasFree).ViolationFree := by
  refine (violationFree_ofExcept (violationFree_normalizeHeader _ _)).bind fun header => ?_
  split
  · exact (violationFree_freeTarget _ _).bind fun target => violationFree_pure _
  · exact violationFree_pure _

namespace Card

variable (card : Card)

theorem violationFree_putFreeIn (board : Board) (target : Position) :
    (card.putFreeIn .release board target).ViolationFree := by
  have hclear : (card.clearFor board target).ViolationFree := by
    rw [clearFor]
    split
    · refine (violationFree_chooseOr (by simp)).bind fun destination => ?_
      split
      · exact violationFree_pure _
      · exact violationFree_pure _
    · exact violationFree_pure _
  refine hclear.bind fun cleared => ?_
  exact (violationFree_ofExcept (violationFree_ok _)).bind fun _ => violationFree_pure _

theorem violationFree_enableFreeIn : (card.enableFreeIn .release).ViolationFree := by
  refine (violationFree_ofExcept (violationFree_checkDraft _)).bind fun _ => ?_
  refine violationFree_guard (by simp) ?_
  refine (violationFree_ofExcept (violationFree_ofCard card)).bind fun board => ?_
  refine (Config.violationFree_freeTarget _ _).bind fun target => ?_
  exact card.violationFree_putFreeIn board target

theorem violationFree_moveFreeIn (target : Position) :
    (card.moveFreeIn .release target).ViolationFree := by
  refine (violationFree_ofExcept (violationFree_checkDraft _)).bind fun _ => ?_
  split
  · exact violationFree_throw (by simp)
  · refine (violationFree_ofExcept (violationFree_checkPosition _ _)).bind fun _ => ?_
    split
    · exact violationFree_pure _
    · refine (violationFree_ofExcept (violationFree_ofCard card)).bind fun board => ?_
      exact card.violationFree_putFreeIn board target

theorem violationFree_addIn (content : String) (position : Option Position) :
    (card.addIn .release content position).ViolationFree := by
  refine (violationFree_ofExcept (violationFree_checkDraft _)).bind fun _ => ?_
  refine violationFree_guard (by simp) ?_
  refine (violationFree_ofExcept (violationFree_ofCard card)).bind fun board => ?_
  refine violationFree_guard (by simp) ?_
  have hcell : (cellFor board position).ViolationFree := by
    cases position with
    | none => exact violationFree_chooseOr (by simp)
    | some p =>
      refine violationFree_ofExcept ((violationFree_checkPosition _ _).bind fun _ => ?_)
      split
      · exact violationFree_ok p
      · exact violationFree_error (by simp)
  exact hcell.bind fun p => violationFree_ofExcept (violationFree_ok _)

theorem violationFree_shuffleIn : (card.shuffleIn .release).ViolationFree := by
  refine (violationFree_ofExcept (violationFree_checkDraft _)).bind fun _ => ?_
  refine (violationFree_ofExcept (violationFree_ofCard card)).bind fun board => ?_
  refine (violationFree_ofDraw _).bind fun shuffled => ?_
  exact violationFree_ofExcept (violationFree_ok _)

theorem violationFree_swapIn (a b : Position) : (card.swapIn .release a b).ViolationFree := by
  have hchecks := (violationFree_checkDraft card.config).bind fun _ =>
    (violationFree_checkPosition card.config.size a).bind fun _ =>
      violationFree_checkPosition card.config.size b
  refine (violationFree_ofExcept hchecks).bind fun _ => ?_
  split
  · exact violationFree_pure card
  · exact (card.violationFree_moveFreeIn b).bind fun change => violationFree_pure _
  · exact (card.violationFree_moveFreeIn a).bind fun change => violationFree_pure _
  · refine (violationFree_ofExcept (violationFree_ofCard card)).bind fun board => ?_
    split
    · exact violationFree_pure card
    · exact violationFree_ofExcept (violationFree_ok _)

theorem violationFree_copyIn (size : GridSize) (hasFree : Bool) :
    (card.copyIn .release size hasFree).ViolationFree := by
  refine (violationFree_ofExcept (violationFree_ofCard card)).bind fun board => ?_
  refine (Config.violationFree_create _ _ _).bind fun config => ?_
  refine (violationFree_ofDraw _).bind fun slots => ?_
  exact (violationFree_ofExcept (violationFree_ok _)).bind fun copied => violationFree_pure _

theorem violationFree_checkHeld (p : Position) : ViolationFree (card.checkHeld p) := by
  refine (violationFree_checkPosition _ _).bind fun _ => ?_
  split
  · exact violationFree_ok _
  · exact violationFree_error (by simp)

theorem violationFree_resize (size : GridSize) : (card.resize size).ViolationFree := by
  refine (violationFree_ofExcept (violationFree_checkDraft _)).bind fun _ => ?_
  refine violationFree_guard (by simp) ?_
  exact (Config.violationFree_create _ _ _).bind fun config => violationFree_pure _

theorem violationFree_disableFree : ViolationFree card.disableFree := by
  refine (violationFree_checkDraft _).bind fun _ => ?_
  split
  · exact violationFree_ok _
  · exact violationFree_error (by simp)

theorem violationFree_finalize : ViolationFree card.finalize := by
  refine (violationFree_checkDraft _).bind fun _ => (violationFree_ofCard card).bind fun board => ?_
  split
  · exact violationFree_ok _
  · exact violationFree_error (by simp)

end Card

/-- **A release build refuses nothing for a broken promise.** -/
theorem Operation.violationFree_applyIn (card : Card) (operation : Operation) :
    (operation.applyIn .release card).ViolationFree := by
  have hkeep : ∀ {e : Edit Card}, e.ViolationFree →
      (do return { card := ← e } : Edit Change).ViolationFree :=
    fun he => he.bind fun card => violationFree_pure _
  cases operation with
  | add content position => exact hkeep (card.violationFree_addIn content position)
  | remove p =>
    exact hkeep (violationFree_ofExcept ((violationFree_checkDraft _).bind fun _ =>
      (card.violationFree_checkHeld p).bind fun _ => violationFree_ok _))
  | setCompleted p done =>
    exact hkeep (violationFree_ofExcept ((card.violationFree_checkHeld p).bind fun _ =>
      violationFree_ok _))
  | setHeader text =>
    exact hkeep (violationFree_ofExcept ((violationFree_checkDraft _).bind fun _ =>
      (violationFree_normalizeHeader _ text).bind fun header => violationFree_ok _))
  | resize size => exact hkeep (card.violationFree_resize size)
  | enableFree => exact card.violationFree_enableFreeIn
  | disableFree => exact hkeep (violationFree_ofExcept card.violationFree_disableFree)
  | moveFree target => exact card.violationFree_moveFreeIn target
  | shuffle => exact hkeep card.violationFree_shuffleIn
  | swap a b => exact hkeep (card.violationFree_swapIn a b)
  | finalize => exact hkeep (violationFree_ofExcept card.violationFree_finalize)

/-- **The check at the end of an edit never fails.** With a configuration
that can be made and any items, the operations and the copies of a card are
the same edits in both builds, and are never refused for a broken promise. -/
theorem check_never_fails {card : Card} (h : card.config.Produced) :
    (∀ build, (∀ operation : Operation, operation.applyIn build card = operation.apply card) ∧
      ∀ size hasFree, card.copyIn build size hasFree = card.copy size hasFree) ∧
    ∀ g broken, (∀ operation : Operation,
        ((operation.apply card).outcome g).1 ≠ .error (.invariantViolation broken)) ∧
      ∀ size hasFree,
        ((card.copy size hasFree).outcome g).1 ≠ .error (.invariantViolation broken) := by
  have hfree := h.valid.free
  refine ⟨fun build => ⟨fun operation => operation.applyIn_eq hfree build,
    fun size hasFree => Card.copyIn_eq build size hasFree⟩, fun g broken => ⟨?_, ?_⟩⟩
  · intro operation
    rw [← operation.applyIn_eq hfree .release]
    exact operation.violationFree_applyIn card g broken
  · intro size hasFree
    rw [← Card.copyIn_eq .release size hasFree]
    exact card.violationFree_copyIn size hasFree g broken

/-- FREE put onto an item: a debug build makes what a release build makes. -/
theorem check_never_fails_displaced :
    let g := Generator.ofWords []
    let card : Card := ⟨⟨.two, "BI", some ⟨3⟩, .draft⟩, [⟨⟨1⟩, "run", true⟩]⟩
    let change : Change := ⟨⟨⟨.two, "BI", some ⟨1⟩, .draft⟩, [⟨⟨0⟩, "run", true⟩]⟩,
      some ⟨"run", ⟨1⟩, ⟨0⟩⟩⟩
    card.config.Produced ∧
      (((Operation.moveFree ⟨1⟩).applyIn .release card).outcome g).1 = .ok change ∧
      (((Operation.moveFree ⟨1⟩).apply card).outcome g).1 = .ok change := by
  intro g card change
  have hmade : card.config.Produced := by
    have hparts : Config.ofParts .two "bi" (some ⟨3⟩) .draft = .ok card.config := rfl
    exact .ofParts hparts
  have hrelease : (((Operation.moveFree ⟨1⟩).applyIn .release card).outcome g).1 = .ok change := by
    decide +kernel
  obtain ⟨hsame, -⟩ := (check_never_fails hmade).1 .release
  refine ⟨hmade, hrelease, ?_⟩
  rw [← hsame]
  exact hrelease

end GoalGrid
