import GoalGrid.Card.Operation
import GoalGrid.Proofs.Yields
/-!
# Lockstep — two edits run side by side

Two edits are in lockstep (`Edit.Lockstep`) when with every generator they
give related results, or are refused for the same cause, and leave the
generator in the same state. Lockstep is kept by doing one thing after
another (`Lockstep.bind`), by the guards of an edit, and by the check at its
end when the two cards keep the same promises (`lockstep_check`).

So an edit does alike to two cards when they are alike in what it asks
about (`Card.Likeness`) and when their boards are (`Card.BoardsAlike`).
Which items there are is asked by few edits only: shuffling, adding, marking
and copying are left to the relation at hand (`Likeness.lockstep_applyIn`).
-/

namespace GoalGrid

namespace Edit

variable {α α' β β' : Type} {R : α → α' → Prop} {S : β → β' → Prop} {x : α} {x' : α'}
variable {e : Edit α} {e' : Edit α'} {f : α → Edit β} {f' : α' → Edit β'} {cause : CardError}

/-- With every generator the edits give related results or are refused for
the same cause, and the generator is the same after them. -/
def Lockstep (R : α → α' → Prop) (e : Edit α) (e' : Edit α') : Prop :=
  ∀ g, (∃ x x' rest, e.outcome g = (.ok x, rest) ∧ e'.outcome g = (.ok x', rest) ∧ R x x') ∨
    ∃ cause rest, e.outcome g = (.error cause, rest) ∧ e'.outcome g = (.error cause, rest)

/-- Edits in lockstep that give the same results are the same. -/
theorem Lockstep.eq {e e' : Edit α} (h : Lockstep (fun x x' => x' = x) e e') : e' = e := by
  have houtcome : ∀ g, e'.outcome g = e.outcome g := by
    intro g
    rcases h g with ⟨x, _, rest, hx, hx', rfl⟩ | ⟨cause, rest, hx, hx'⟩
    · rw [hx, hx']
    · rw [hx, hx']
  exact funext houtcome

/-- Less may be said of the results. -/
theorem Lockstep.mono {R' : α → α' → Prop} (h : Lockstep R e e')
    (hR : ∀ x x', R x x' → R' x x') : Lockstep R' e e' := by
  intro g
  rcases h g with ⟨x, x', rest, hx, hx', hrelated⟩ | hrefused
  · exact .inl ⟨x, x', rest, hx, hx', hR x x' hrelated⟩
  · exact .inr hrefused

/-! ## Single edits -/

/-- An edit is in lockstep with itself. -/
theorem lockstep_self : Lockstep (fun x x' => x' = x) e e := by
  intro g
  rcases he : e.outcome g with ⟨cause | x, rest⟩
  · exact .inr ⟨cause, rest, rfl, rfl⟩
  · exact .inl ⟨x, x, rest, rfl, rfl, rfl⟩

theorem lockstep_pure (h : R x x') : Lockstep R (pure x) (pure x') :=
  fun g => .inl ⟨x, x', g, rfl, rfl, h⟩

theorem lockstep_throw : Lockstep R (throw cause) (throw cause) :=
  fun g => .inr ⟨cause, g, rfl, rfl⟩

theorem lockstep_ofDraw {draw : Generator → α × Generator} {draw' : Generator → α' × Generator}
    (h : ∀ g, R (draw g).1 (draw' g).1 ∧ (draw' g).2 = (draw g).2) :
    Lockstep R (ofDraw draw) (ofDraw draw') := by
  intro g
  obtain ⟨hresult, hrest⟩ := h g
  exact .inl ⟨(draw g).1, (draw' g).1, (draw g).2, rfl, by rw [outcome_ofDraw, hrest], hresult⟩

/-- The check at the end of an edit says the same of two cards that keep
the same promises. -/
theorem lockstep_check {R : Card → Card → Prop} {card card' : Card} (build : Build)
    (hholds : ∀ promise : Invariant, promise.holds card' = promise.holds card)
    (h : R card card') :
    Lockstep R (ofExcept (build.check card)) (ofExcept (build.check card')) := by
  cases build with
  | release => exact lockstep_pure h
  | debug =>
    have hviolations : card'.violations = card.violations :=
      List.filter_congr fun promise _ => by rw [hholds]
    rw [Build.check, Build.check, Card.verify, Card.verify, hviolations]
    split
    · exact lockstep_pure h
    · exact lockstep_throw

/-! ## Edits in a row -/

/-- **Edits in lockstep stay so** when what comes after them is. -/
theorem Lockstep.bind (h : Lockstep R e e') (hf : ∀ x x', R x x' → Lockstep S (f x) (f' x')) :
    Lockstep S (e >>= f) (e' >>= f') := by
  intro g
  rw [outcome_bind, outcome_bind]
  rcases h g with ⟨x, x', rest, hx, hx', hR⟩ | ⟨cause, rest, hx, hx'⟩
  · rw [hx, hx']
    exact hf x x' hR rest
  · rw [hx, hx']
    exact .inr ⟨cause, rest, rfl, rfl⟩

/-- The same edit may stand before both. -/
theorem lockstep_bind_self {f : α → Edit β} {f' : α → Edit β'}
    (hf : ∀ x, e.Yields x → Lockstep S (f x) (f' x)) : Lockstep S (e >>= f) (e >>= f') := by
  intro g
  rw [outcome_bind, outcome_bind]
  rcases he : e.outcome g with ⟨cause | x, rest⟩
  · exact .inr ⟨cause, rest, rfl, rfl⟩
  · exact hf x ⟨g, by rw [he]⟩ rest

/-- A guard that both edits pass or neither does. -/
theorem Lockstep.guard {c c' : Prop} [Decidable c] [Decidable c'] {f : PUnit → Edit α}
    {f' : PUnit → Edit α'} (hc : c' ↔ c) (h : ¬ c → Lockstep R (f ⟨⟩) (f' ⟨⟩)) :
    Lockstep R (if c then throw cause >>= f else f ⟨⟩)
      (if c' then throw cause >>= f' else f' ⟨⟩) := by
  by_cases hpass : c
  · rw [if_pos hpass, if_pos (hc.2 hpass)]
    exact lockstep_bind_self fun _ hthrow => absurd hthrow not_yields_throw
  · rw [if_neg hpass, if_neg (mt hc.1 hpass)]
    exact h hpass

/-- An edit that is a row of checks is a row of edits. -/
theorem ofExcept_bind {y : Except CardError α} {f : α → Except CardError β} :
    ofExcept (y >>= f) = ofExcept y >>= fun x => ofExcept (f x) := by
  cases y <;> rfl

end Edit

open Edit (Lockstep lockstep_pure lockstep_throw lockstep_bind_self ofExcept_bind)

/-! ## Two cards -/

/-- A relation between cards with one configuration that have equal answers
to what edits ask about items, kept by what edits do to all items alike. -/
structure Card.Likeness (R : Card → Card → Prop) : Prop where
  config {card card' : Card} : R card card' → card'.config = card.config
  length {card card' : Card} : R card card' → card'.items.length = card.items.length
  holdsAt {card card' : Card} : R card card' → ∀ p, card'.holdsAt p = card.holdsAt p
  holds {card card' : Card} : R card card' →
    ∀ promise : Invariant, promise.holds card' = promise.holds card
  reconfigured {card card' : Card} : R card card' →
    ∀ config, R { card with config } { card' with config }
  removed {card card' : Card} : R card card' → ∀ p,
    R { card with items := card.items.filter fun item => item.position != p }
      { card' with items := card'.items.filter fun item => item.position != p }
  exchanged {card card' : Card} : R card card' → ∀ a b,
    R { card with items := card.items.map fun item =>
          item.movedTo (Card.exchanged a b item.position) }
      { card' with items := card'.items.map fun item =>
          item.movedTo (Card.exchanged a b item.position) }

/-- Changes that made related cards, with related displacements. -/
structure Change.Related (R : Card → Card → Prop) (D : Option Displacement → Option Displacement → Prop)
    (change change' : Change) : Prop where
  card : R change.card change'.card
  displaced : D change.displaced change'.displaced

/-- The boards have equal answers to what edits ask about cells, and room is
made for FREE alike. -/
structure Board.Alike (R : Card → Card → Prop) (D : Option Displacement → Option Displacement → Prop)
    (card card' : Card) (board board' : Board) : Prop where
  emptyPositions : board'.emptyPositions = board.emptyPositions
  isFull : board'.isFull = board.isFull
  cellFor : ∀ position, Card.cellFor board' position = Card.cellFor board position
  clearFor : ∀ target, Lockstep (Change.Related R D) (card.clearFor board target)
    (card'.clearFor board' target)

namespace Card

variable {R : Card → Card → Prop} {D : Option Displacement → Option Displacement → Prop}
variable {card card' : Card} {board board' : Board} {target : Position} (build : Build)

/-- The cards have boards that are alike, or none for the same cause. -/
def BoardsAlike (R : Card → Card → Prop) (D : Option Displacement → Option Displacement → Prop)
    (card card' : Card) : Prop :=
  Lockstep (Board.Alike R D card card') (Edit.ofExcept (Board.ofCard card))
    (Edit.ofExcept (Board.ofCard card'))

namespace Likeness

theorem lockstep_check (hR : Likeness R) (h : R card card') :
    Lockstep R (Edit.ofExcept (build.check card)) (Edit.ofExcept (build.check card')) :=
  Edit.lockstep_check build (hR.holds h) h

/-! ### FREE -/

theorem lockstep_putFreeIn (hR : Likeness R) (h : R card card')
    (hboards : Board.Alike R D card card' board board') :
    Lockstep (Change.Related R D) (card.putFreeIn build board target)
      (card'.putFreeIn build board' target) := by
  rw [putFreeIn, putFreeIn, hR.config h]
  refine (hboards.clearFor target).bind fun change change' hchange => ?_
  have hmoved := hR.reconfigured hchange.card { card.config with free := some target }
  refine (hR.lockstep_check build hmoved).bind fun checked checked' hchecked => ?_
  exact lockstep_pure ⟨hchecked, hchange.displaced⟩

theorem lockstep_enableFreeIn (hR : Likeness R) (h : R card card')
    (hboards : BoardsAlike R D card card') :
    Lockstep (Change.Related R D) (card.enableFreeIn build) (card'.enableFreeIn build) := by
  rw [enableFreeIn, enableFreeIn, hR.config h]
  refine lockstep_bind_self fun _ _ => Lockstep.guard Iff.rfl fun _ => ?_
  refine hboards.bind fun board board' halike => ?_
  rw [halike.emptyPositions]
  exact lockstep_bind_self fun target _ => hR.lockstep_putFreeIn build h halike

theorem lockstep_moveFreeIn (hR : Likeness R) (h : R card card')
    (hboards : BoardsAlike R D card card') (hD : D none none) (target : Position) :
    Lockstep (Change.Related R D) (card.moveFreeIn build target)
      (card'.moveFreeIn build target) := by
  rw [moveFreeIn, moveFreeIn, hR.config h]
  refine lockstep_bind_self fun _ _ => ?_
  split
  · exact lockstep_throw
  · refine lockstep_bind_self fun _ _ => ?_
    split
    · exact lockstep_pure ⟨h, hD⟩
    · exact hboards.bind fun board board' halike => hR.lockstep_putFreeIn build h halike

theorem lockstep_disableFree (hR : Likeness R) (h : R card card') :
    Lockstep R (Edit.ofExcept card.disableFree) (Edit.ofExcept card'.disableFree) := by
  rw [disableFree, disableFree, hR.config h]
  simp only [ofExcept_bind]
  refine lockstep_bind_self fun _ _ => ?_
  split
  · exact lockstep_pure (hR.reconfigured h _)
  · exact lockstep_throw

/-! ### Header, size and phase -/

theorem lockstep_setHeader (hR : Likeness R) (h : R card card') (text : String) :
    Lockstep R (Edit.ofExcept (card.setHeader text)) (Edit.ofExcept (card'.setHeader text)) := by
  rw [setHeader, setHeader, hR.config h]
  simp only [ofExcept_bind]
  refine lockstep_bind_self fun _ _ => lockstep_bind_self fun header _ => ?_
  exact lockstep_pure (hR.reconfigured h _)

theorem lockstep_resize (hR : Likeness R) (h : R card card') (size : GridSize) :
    Lockstep R (card.resize size) (card'.resize size) := by
  rw [resize, resize, hR.config h]
  have hnone : (!card'.items.isEmpty) = true ↔ (!card.items.isEmpty) = true := by
    simp only [Bool.not_eq_true', List.isEmpty_eq_false_iff, ne_eq, ← List.length_eq_zero_iff,
      hR.length h]
  refine lockstep_bind_self fun _ _ => Lockstep.guard hnone fun _ => ?_
  exact lockstep_bind_self fun config _ => lockstep_pure (hR.reconfigured h config)

theorem lockstep_finalize (hR : Likeness R) (h : R card card')
    (hboards : BoardsAlike R D card card') :
    Lockstep R (Edit.ofExcept card.finalize) (Edit.ofExcept card'.finalize) := by
  rw [finalize, finalize, hR.config h, hR.length h]
  simp only [ofExcept_bind]
  refine lockstep_bind_self fun _ _ => hboards.bind fun _ _ _ => ?_
  split
  · exact lockstep_pure (hR.reconfigured h _)
  · exact lockstep_throw

/-! ### Items -/

theorem checkHeld_eq (hR : Likeness R) (h : R card card') (p : Position) :
    card'.checkHeld p = card.checkHeld p := by
  rw [checkHeld, checkHeld, hR.config h, hR.holdsAt h]

/-- The new items need to be alike only when they are not refused. -/
theorem lockstep_addIn (hR : Likeness R) (h : R card card') (hboards : BoardsAlike R D card card')
    {R' : Card → Card → Prop} {content : String} (position : Option Position)
    (hadded : Text.trim content ≠ "" → ∀ p, Lockstep R'
      (Edit.ofExcept (build.check
        { card with items := card.items ++ [{ position := p, content := Text.trim content }] }))
      (Edit.ofExcept (build.check
        { card' with items := card'.items ++ [{ position := p, content := Text.trim content }] }))) :
    Lockstep R' (card.addIn build content position) (card'.addIn build content position) := by
  rw [hR.config h] at hadded
  rw [addIn, addIn, hR.config h]
  refine lockstep_bind_self fun _ _ => Lockstep.guard Iff.rfl fun hcontent => ?_
  refine hboards.bind fun board board' halike => ?_
  refine Lockstep.guard (by rw [halike.isFull]) fun _ => ?_
  rw [halike.cellFor]
  exact lockstep_bind_self fun p _ => hadded (by simpa using hcontent) p

theorem lockstep_remove (hR : Likeness R) (h : R card card') (p : Position) :
    Lockstep R (Edit.ofExcept (card.remove p)) (Edit.ofExcept (card'.remove p)) := by
  rw [remove, remove, hR.checkHeld_eq h]
  have hremoved := hR.removed h p
  rw [hR.config h] at hremoved ⊢
  simp only [ofExcept_bind]
  exact lockstep_bind_self fun _ _ => lockstep_bind_self fun _ _ => lockstep_pure hremoved

theorem lockstep_swapIn (hR : Likeness R) (h : R card card')
    (hboards : BoardsAlike R D card card') (hD : D none none) (a b : Position) :
    Lockstep R (card.swapIn build a b) (card'.swapIn build a b) := by
  have hmoved (target : Position) := (hR.lockstep_moveFreeIn build h hboards hD target).bind
    fun change change' hchange => lockstep_pure hchange.card
  have hexchanged := hR.lockstep_check build (hR.exchanged h a b)
  rw [hR.config h] at hexchanged
  rw [swapIn, swapIn, hR.config h]
  refine lockstep_bind_self fun _ _ => ?_
  cases card.config.isFree a <;> cases card.config.isFree b
  · refine hboards.bind fun board board' _ => ?_
    dsimp only
    split
    · exact lockstep_pure h
    · exact hexchanged
  · exact hmoved a
  · exact hmoved b
  · exact lockstep_pure h

/-- **Every operation does alike to both cards**, if shuffling, adding and
marking do. -/
theorem lockstep_applyIn (hR : Likeness R) (h : R card card')
    (hboards : BoardsAlike R D card card') (hD : D none none) (operation : Operation)
    (hshuffle : Lockstep R (card.shuffleIn build) (card'.shuffleIn build))
    (hadd : ∀ content position, operation = .add content position →
      Lockstep R (card.addIn build content position) (card'.addIn build content position))
    (hmark : ∀ p done, operation = .setCompleted p done →
      Lockstep R (Edit.ofExcept (card.setCompleted p done))
        (Edit.ofExcept (card'.setCompleted p done))) :
    Lockstep (Change.Related R D) (operation.applyIn build card)
      (operation.applyIn build card') := by
  have hkeep : ∀ {e e' : Edit Card}, Lockstep R e e' →
      Lockstep (Change.Related R D) (do return { card := ← e }) (do return { card := ← e' }) :=
    fun he => he.bind fun _ _ hcard => lockstep_pure ⟨hcard, hD⟩
  cases operation with
  | add content position => exact hkeep (hadd content position rfl)
  | remove p => exact hkeep (hR.lockstep_remove h p)
  | setCompleted p done => exact hkeep (hmark p done rfl)
  | setHeader text => exact hkeep (hR.lockstep_setHeader h text)
  | resize size => exact hkeep (hR.lockstep_resize h size)
  | enableFree => exact hR.lockstep_enableFreeIn build h hboards
  | disableFree => exact hkeep (hR.lockstep_disableFree h)
  | moveFree target => exact hR.lockstep_moveFreeIn build h hboards hD target
  | shuffle => exact hkeep hshuffle
  | swap a b => exact hkeep (hR.lockstep_swapIn build h hboards hD a b)
  | finalize => exact hkeep (hR.lockstep_finalize h hboards)

end Likeness

end Card

end GoalGrid
