import GoalGrid.Random.Seeded
import GoalGrid.Proofs.Builds
/-!
# Chance — it decides where, and never whether

Chance decides into which cell an edit puts something, not whether it is
refused: an edit that chooses among cells is refused when there are none,
before anything is drawn, and no check after a draw can fail. So with any
two generators an edit gives a result both times, or is refused both times
for the same cause and with nothing drawn (`Edit.Settled`); and an edit that
is told where to put things gives the same with every generator
(`Edit.Still`). Both are shown of release builds, where no check ends an
edit, and hold of debug builds because those make the same edits
(`chance_decides_only_where`).
-/

namespace GoalGrid

open Edit (Yields)

namespace Edit

variable {α β : Type} {x : α} {e : Edit α} {f : α → Edit β} {cause : CardError}

/-! ## Edits and chance -/

/-- An edit that chance neither makes nor breaks: with two generators it
gives a result both times, or it is refused both times for the same cause
and has drawn nothing. -/
def Settled (e : Edit α) : Prop :=
  ∀ g g', (∃ x x', (e.outcome g).1 = .ok x ∧ (e.outcome g').1 = .ok x') ∨
    ∃ cause, e.outcome g = (.error cause, g) ∧ e.outcome g' = (.error cause, g')

/-- An edit that draws nothing and gives the same with every generator. -/
def Still (e : Edit α) : Prop :=
  ∃ result, ∀ g, e.outcome g = (result, g)

/-- An edit that is never refused. -/
def Sure (e : Edit α) : Prop :=
  ∀ g, ∃ x, (e.outcome g).1 = .ok x

theorem Still.settled (h : e.Still) : e.Settled := by
  intro g g'
  obtain ⟨result, h⟩ := h
  cases result with
  | error cause => exact .inr ⟨cause, h g, h g'⟩
  | ok x => exact .inl ⟨x, x, by rw [h], by rw [h]⟩

theorem Sure.settled (h : e.Sure) : e.Settled := by
  intro g g'
  obtain ⟨x, hx⟩ := h g
  obtain ⟨x', hx'⟩ := h g'
  exact .inl ⟨x, x', hx, hx'⟩

/-! ## Single edits -/

theorem still_pure : (pure x : Edit α).Still := ⟨.ok x, fun _ => rfl⟩

theorem still_throw : (throw cause : Edit α).Still := ⟨.error cause, fun _ => rfl⟩

theorem still_ofExcept {result : Except CardError α} : (ofExcept result).Still :=
  ⟨result, fun _ => rfl⟩

theorem sure_pure : (pure x : Edit α).Sure := fun _ => ⟨x, rfl⟩

theorem sure_ofDraw {draw : Generator → α × Generator} : (ofDraw draw).Sure :=
  fun g => ⟨(draw g).1, rfl⟩

/-! ## Edits in a row -/

/-- After an edit that draws nothing there is one way to go on, or none. -/
theorem Still.bind_eq (h : e.Still) (f : α → Edit β) :
    (∃ x, e.Yields x ∧ e >>= f = f x) ∨ ∃ cause, e >>= f = throw cause := by
  obtain ⟨result, h⟩ := h
  cases result with
  | error cause =>
    refine .inr ⟨cause, funext fun g => ?_⟩
    have houtcome : (e >>= f).outcome g = (.error cause, g) := by rw [outcome_bind, h]
    exact houtcome
  | ok x =>
    obtain ⟨start⟩ : Nonempty Generator := inferInstance
    refine .inl ⟨x, ⟨start, by rw [h]⟩, funext fun g => ?_⟩
    have houtcome : (e >>= f).outcome g = (f x).outcome g := by rw [outcome_bind, h]
    exact houtcome

theorem Still.bind (h : e.Still) (hf : ∀ x, e.Yields x → (f x).Still) : (e >>= f).Still := by
  rcases h.bind_eq f with ⟨x, hx, heq⟩ | ⟨cause, heq⟩
  · rw [heq]
    exact hf x hx
  · rw [heq]
    exact still_throw

/-- **What draws nothing may stand before an edit that is settled.** -/
theorem Still.bind_settled (h : e.Still) (hf : ∀ x, e.Yields x → (f x).Settled) :
    (e >>= f).Settled := by
  rcases h.bind_eq f with ⟨x, hx, heq⟩ | ⟨cause, heq⟩
  · rw [heq]
    exact hf x hx
  · rw [heq]
    exact still_throw.settled

theorem exists_ok_of_bind {g : Generator} (hx : (e.outcome g).1 = .ok x) (hf : (f x).Sure) :
    ∃ y, ((e >>= f).outcome g).1 = .ok y := by
  rw [outcome_bind]
  rcases he : e.outcome g with ⟨result, rest⟩
  rw [he] at hx
  obtain rfl : result = .ok x := hx
  exact hf rest

theorem Sure.bind (h : e.Sure) (hf : ∀ x, e.Yields x → (f x).Sure) : (e >>= f).Sure := by
  intro g
  obtain ⟨x, hx⟩ := h g
  exact exists_ok_of_bind hx (hf x ⟨g, hx⟩)

/-- **What is never refused may stand after an edit that is settled.** -/
theorem Settled.bind (h : e.Settled) (hf : ∀ x, e.Yields x → (f x).Sure) :
    (e >>= f).Settled := by
  intro g g'
  rcases h g g' with ⟨x, x', hx, hx'⟩ | ⟨cause, herror, herror'⟩
  · obtain ⟨y, hy⟩ := exists_ok_of_bind hx (hf x ⟨g, hx⟩)
    obtain ⟨y', hy'⟩ := exists_ok_of_bind hx' (hf x' ⟨g', hx'⟩)
    exact .inl ⟨y, y', hy, hy'⟩
  · refine .inr ⟨cause, ?_, ?_⟩
    · rw [outcome_bind, herror]
    · rw [outcome_bind, herror']

section Guards

variable {c : Prop} [Decidable c] {f : PUnit → Edit α}

theorem Still.guard (h : ¬ c → (f ⟨⟩).Still) :
    (if c then throw cause >>= f else f ⟨⟩).Still := by
  split
  · exact still_throw.bind fun _ hthrow => absurd hthrow not_yields_throw
  · exact h (by assumption)

theorem Settled.guard (h : ¬ c → (f ⟨⟩).Settled) :
    (if c then throw cause >>= f else f ⟨⟩).Settled := by
  split
  · exact still_throw.bind_settled fun _ hthrow => absurd hthrow not_yields_throw
  · exact h (by assumption)

end Guards

/-- A list with entries has one to choose. -/
theorem sure_chooseOr {xs : List α} (h : xs ≠ []) : (chooseOr cause xs).Sure := by
  refine sure_ofDraw.bind fun choice hdraw => ?_
  obtain ⟨g, rfl⟩ := yields_ofDraw hdraw
  obtain ⟨x, hx⟩ := Generator.exists_choose h g
  rw [hx]
  exact sure_pure

/-- For a choice from an empty list nothing is drawn. -/
theorem chooseOr_nil : chooseOr cause ([] : List α) = throw cause := rfl

/-- **A choice is settled**: the list decides whether there is one. -/
theorem settled_chooseOr {xs : List α} : (chooseOr cause xs).Settled := by
  by_cases hempty : xs = []
  · rw [hempty, chooseOr_nil]
    exact still_throw.settled
  · exact (sure_chooseOr hempty).settled

end Edit

open Edit (still_pure still_throw still_ofExcept sure_pure sure_ofDraw settled_chooseOr
  Still Settled Sure)

/-! ## Configurations -/

/-- A grid has a center when its side is odd. -/
theorem GridSize.exists_center_iff {size : GridSize} :
    (∃ center, size.center = some center) ↔ size.side % 2 = 1 := by
  cases size <;> simp [center, side]

namespace Config

variable {size : GridSize} {header : Option String} {hasFree : Option Bool}

theorem still_freeTarget {center : Position} {vacant : List Position}
    (h : size.center = some center) : (freeTarget size vacant).Still := by
  rw [freeTarget, h]
  exact still_pure

theorem settled_freeTarget {vacant : List Position} : (freeTarget size vacant).Settled := by
  rw [freeTarget]
  split
  · exact still_pure.settled
  · exact settled_chooseOr

theorem settled_create : (create size header hasFree).Settled := by
  refine still_ofExcept.bind_settled fun header _ => ?_
  split
  · exact settled_freeTarget.bind fun target _ => sure_pure
  · exact still_pure.settled

/-- On a grid with a center, and without FREE, nothing is left to chance. -/
theorem still_create (h : size.side % 2 = 1 ∨ hasFree.getD true = false) :
    (create size header hasFree).Still := by
  refine still_ofExcept.bind fun header _ => ?_
  split
  · rename_i hwanted
    rcases h with hodd | hunwanted
    · obtain ⟨center, hcenter⟩ := GridSize.exists_center_iff.2 hodd
      exact (still_freeTarget hcenter).bind fun target _ => still_pure
    · rw [hwanted] at hunwanted
      cases hunwanted
  · exact still_pure

end Config

/-! ## Cards -/

namespace Card

variable {card : Card} {board : Board} {target : Position}

/-- The check of a release build is never in the way. -/
theorem sure_check_release (card : Card) : (Edit.ofExcept (Build.check .release card)).Sure :=
  sure_pure

theorem holdsAt_eq_false_iff : card.holdsAt target = false ↔
    ∀ item ∈ card.items, item.position ≠ target := by
  simp [holdsAt]

/-- Into a cell without an item FREE is put with nothing drawn. -/
theorem putFreeIn_eq_pure (hboard : Board.ofCard card = .ok board)
    (hnone : ∀ item ∈ card.items, item.position ≠ target) :
    card.putFreeIn .release board target =
      pure { card := { card with config := { card.config with free := some target } } } := by
  rw [putFreeIn, clearFor_of_forall_ne hboard hnone]
  rfl

theorem settled_putFreeIn : (card.putFreeIn .release board target).Settled := by
  have hclear : (card.clearFor board target).Settled := by
    rw [clearFor]
    split
    · refine settled_chooseOr.bind fun destination _ => ?_
      split
      · exact sure_pure
      · exact sure_pure
    · exact still_pure.settled
  refine hclear.bind fun cleared _ => ?_
  exact (sure_check_release _).bind fun _ _ => sure_pure

theorem settled_enableFreeIn : (card.enableFreeIn .release).Settled := by
  refine still_ofExcept.bind_settled fun _ _ => Settled.guard fun _ => ?_
  refine still_ofExcept.bind_settled fun board hboard => ?_
  have hboard := Edit.yields_ofExcept.1 hboard
  -- FREE draws for its cell or for the item in it, and never for both
  cases hcenter : card.config.size.center with
  | some center => exact (Config.still_freeTarget hcenter).bind_settled fun _ _ => settled_putFreeIn
  | none =>
    refine Config.settled_freeTarget.bind fun target htarget => ?_
    have hvacant := vacant_of_yields_freeTarget hboard hcenter htarget
    rw [putFreeIn_eq_pure hboard hvacant.2]
    exact sure_pure

theorem still_enableFreeIn {center : Position} (hcenter : card.config.size.center = some center)
    (hnone : card.holdsAt center = false) : (card.enableFreeIn .release).Still := by
  refine still_ofExcept.bind fun _ _ => Still.guard fun _ => ?_
  refine still_ofExcept.bind fun board hboard => ?_
  rw [Config.freeTarget, hcenter]
  refine still_pure.bind fun target htarget => ?_
  obtain rfl := Edit.yields_pure.1 htarget
  rw [putFreeIn_eq_pure (Edit.yields_ofExcept.1 hboard) (holdsAt_eq_false_iff.1 hnone)]
  exact still_pure

theorem settled_moveFreeIn : (card.moveFreeIn .release target).Settled := by
  refine still_ofExcept.bind_settled fun _ _ => ?_
  split
  · exact still_throw.settled
  · refine still_ofExcept.bind_settled fun _ _ => ?_
    split
    · exact still_pure.settled
    · exact still_ofExcept.bind_settled fun board _ => settled_putFreeIn

theorem still_moveFreeIn (h : card.config.isFree target = true ∨ card.holdsAt target = false) :
    (card.moveFreeIn .release target).Still := by
  refine still_ofExcept.bind fun _ _ => ?_
  split
  · exact still_throw
  · rename_i current hcurrent
    refine still_ofExcept.bind fun _ _ => ?_
    split
    · exact still_pure
    · rename_i hne
      refine still_ofExcept.bind fun board hboard => ?_
      rcases h with hfree | hnone
      · rw [Config.isFree, hcurrent] at hfree
        exact absurd (by simpa using hfree) hne
      · rw [putFreeIn_eq_pure (Edit.yields_ofExcept.1 hboard) (holdsAt_eq_false_iff.1 hnone)]
        exact still_pure

section Items

variable {content : String} {position : Option Position}

theorem settled_addIn : (card.addIn .release content position).Settled := by
  refine still_ofExcept.bind_settled fun _ _ => Settled.guard fun _ => ?_
  refine still_ofExcept.bind_settled fun board _ => Settled.guard fun _ => ?_
  have hcell : (cellFor board position).Settled := by
    cases position with
    | none => exact settled_chooseOr
    | some p => exact still_ofExcept.settled
  exact hcell.bind fun p _ => sure_check_release _

theorem still_addIn {p : Position} : (card.addIn .release content (some p)).Still := by
  refine still_ofExcept.bind fun _ _ => Still.guard fun _ => ?_
  refine still_ofExcept.bind fun board _ => Still.guard fun _ => ?_
  exact still_ofExcept.bind fun p _ => still_ofExcept

theorem settled_resize {size : GridSize} : (card.resize size).Settled := by
  refine still_ofExcept.bind_settled fun _ _ => Settled.guard fun _ => ?_
  exact Config.settled_create.bind fun config _ => sure_pure

theorem still_resize {size : GridSize} (h : size.side % 2 = 1 ∨ card.config.hasFree = false) :
    (card.resize size).Still := by
  refine still_ofExcept.bind fun _ _ => Still.guard fun _ => ?_
  exact (Config.still_create h).bind fun config _ => still_pure

end Items

theorem settled_shuffleIn : (card.shuffleIn .release).Settled := by
  refine still_ofExcept.bind_settled fun _ _ => still_ofExcept.bind_settled fun board _ => ?_
  exact Sure.settled (sure_ofDraw.bind fun shuffled _ => sure_check_release _)

section Exchange

variable {a b : Position}

theorem settled_swapIn : (card.swapIn .release a b).Settled := by
  refine still_ofExcept.bind_settled fun _ _ => ?_
  split
  · exact still_pure.settled
  · exact settled_moveFreeIn.bind fun change _ => sure_pure
  · exact settled_moveFreeIn.bind fun change _ => sure_pure
  · refine still_ofExcept.bind_settled fun board _ => ?_
    split
    · exact still_pure.settled
    · exact still_ofExcept.settled

theorem still_swapIn (ha : card.config.isFree a = false) (hb : card.config.isFree b = false) :
    (card.swapIn .release a b).Still := by
  refine still_ofExcept.bind fun _ _ => ?_
  rw [ha, hb]
  refine still_ofExcept.bind fun board _ => ?_
  dsimp only
  split
  · exact still_pure
  · exact still_ofExcept

end Exchange

theorem settled_copyIn {size : GridSize} {hasFree : Bool} :
    (card.copyIn .release size hasFree).Settled := by
  refine still_ofExcept.bind_settled fun board _ => ?_
  refine Config.settled_create.bind fun config _ => ?_
  refine sure_ofDraw.bind fun slots _ => ?_
  exact (sure_check_release _).bind fun copied _ => sure_pure

end Card

/-! ## Operations -/

namespace Operation

/-- Nothing of the operation is left to chance: an item that is added has
its cell, FREE comes to lie on no item, and two cells that are exchanged
hold items or nothing. -/
def Determined (card : Card) : Operation → Prop
  | add _ position => position.isSome = true
  | resize size => size.side % 2 = 1 ∨ card.config.hasFree = false
  | enableFree => ∃ center, card.config.size.center = some center ∧ card.holdsAt center = false
  | moveFree target => card.config.isFree target = true ∨ card.holdsAt target = false
  | swap a b => card.config.isFree a = false ∧ card.config.isFree b = false
  | shuffle => False
  | remove _ | setCompleted _ _ | setHeader _ | disableFree | finalize => True

variable {card : Card}

theorem settled_applyIn (operation : Operation) : (operation.applyIn .release card).Settled := by
  have hcard : ∀ {e : Edit Card}, e.Settled → (do return { card := ← e } : Edit Change).Settled :=
    fun he => he.bind fun card _ => sure_pure
  cases operation with
  | add => exact hcard Card.settled_addIn
  | resize => exact hcard Card.settled_resize
  | enableFree => exact Card.settled_enableFreeIn
  | moveFree => exact Card.settled_moveFreeIn
  | shuffle => exact hcard Card.settled_shuffleIn
  | swap => exact hcard Card.settled_swapIn
  | remove | setCompleted | setHeader | disableFree | finalize => exact hcard still_ofExcept.settled

theorem still_applyIn {operation : Operation} (h : operation.Determined card) :
    (operation.applyIn .release card).Still := by
  have hcard : ∀ {e : Edit Card}, e.Still → (do return { card := ← e } : Edit Change).Still :=
    fun he => he.bind fun card _ => still_pure
  cases operation with
  | add content position =>
    obtain ⟨p, rfl⟩ := Option.isSome_iff_exists.1 h
    exact hcard Card.still_addIn
  | resize => exact hcard (Card.still_resize h)
  | enableFree =>
    obtain ⟨center, hcenter, hnone⟩ := h
    exact Card.still_enableFreeIn hcenter hnone
  | moveFree => exact Card.still_moveFreeIn h
  | shuffle => exact h.elim
  | swap => exact hcard (Card.still_swapIn h.1 h.2)
  | remove | setCompleted | setHeader | disableFree | finalize => exact hcard still_ofExcept

end Operation

/-- **Chance decides where, and never whether.** A new configuration, every
operation on a card with a valid configuration and every copy of one are
settled, in either build and whatever the items are; and they draw nothing
when nothing is left to chance. -/
theorem chance_decides_only_where {card : Card} (hvalid : card.config.Valid) (build : Build) :
    (∀ size header hasFree, (Config.create size header hasFree).Settled ∧
      (size.side % 2 = 1 ∨ hasFree = some false → (Config.create size header hasFree).Still)) ∧
    (∀ operation : Operation, (operation.applyIn build card).Settled ∧
      (operation.Determined card → (operation.applyIn build card).Still)) ∧
    ∀ size hasFree, (card.copyIn build size hasFree).Settled := by
  have hfree := hvalid.free
  refine ⟨fun size header hasFree => ⟨Config.settled_create, fun h => ?_⟩,
    fun operation => ?_, fun size hasFree => ?_⟩
  · refine Config.still_create (h.imp_right fun hunwanted => ?_)
    rw [hunwanted, Option.getD_some]
  · -- the edit of this build is the one of a debug build, which is the one of a release build
    rw [operation.applyIn_eq hfree build, ← operation.applyIn_eq hfree .release]
    exact ⟨operation.settled_applyIn, Operation.still_applyIn⟩
  · rw [Card.copyIn_eq build size hasFree, ← Card.copyIn_eq .release size hasFree]
    exact Card.settled_copyIn

/-- On a full card: FREE cannot move onto an item, whatever the generator is,
and an exchange of two items draws nothing. -/
theorem chance_decides_only_where_full :
    let card : Card := ⟨⟨.two, "BI", some ⟨3⟩, .draft⟩,
      [⟨⟨0⟩, "run", false⟩, ⟨⟨1⟩, "swim", true⟩, ⟨⟨2⟩, "read", false⟩]⟩
    card.config.Valid ∧
      (∀ g, ((Operation.moveFree ⟨1⟩).apply card).outcome g = (.error .cardFull, g)) ∧
      (Operation.swap ⟨0⟩ ⟨2⟩).Determined card ∧ ((Operation.swap ⟨0⟩ ⟨2⟩).apply card).Still := by
  intro card
  have hvalid : card.config.Valid := by
    have hparts : Config.ofParts .two "BI" (some ⟨3⟩) .draft = .ok card.config := rfl
    exact Config.Produced.valid (.ofParts hparts)
  obtain ⟨-, hoperation, -⟩ := chance_decides_only_where hvalid .debug
  have hdetermined : (Operation.swap ⟨0⟩ ⟨2⟩).Determined card := ⟨rfl, rfl⟩
  refine ⟨hvalid, fun g => ?_, hdetermined, (hoperation (.swap ⟨0⟩ ⟨2⟩)).2 hdetermined⟩
  let start := Generator.ofWords []
  have hstart : (((Operation.moveFree ⟨1⟩).apply card).outcome start).1 = .error .cardFull := by
    decide +kernel
  rcases (hoperation (.moveFree ⟨1⟩)).1 start g with ⟨x, x', hx, -⟩ | ⟨cause, herror, herror'⟩
  · exact absurd (hstart.symm.trans hx) nofun
  · have hcause := hstart.symm.trans (congrArg Prod.fst herror)
    obtain rfl := Except.error.inj hcause
    exact herror'

end GoalGrid
