import GoalGrid.Card.Verify
/-!
# Checks — what it is to pass one

A check gives nothing, or the thing that was checked, or says why not.
Several in a row pass when each of them does (`bind_eq_ok_iff`), and for
each check on its own an equivalence says when it passes.
-/

namespace GoalGrid

/-! ## Checks in a row -/

/-- A check after a check passes when both do. -/
theorem bind_eq_ok_iff {ε α β : Type} {x : Except ε α} {f : α → Except ε β} {y : β} :
    x >>= f = .ok y ↔ ∃ a, x = .ok a ∧ f a = .ok y := by
  cases x <;> simp [bind, Except.bind]

theorem check_bind_eq_ok_iff {ε β : Type} {x : Except ε PUnit} {f : PUnit → Except ε β} {y : β} :
    x >>= f = .ok y ↔ x = .ok ⟨⟩ ∧ f ⟨⟩ = .ok y := by
  cases x <;> simp [bind, Except.bind]

@[simp] theorem return_eq_ok_iff {ε α : Type} {x y : α} :
    (return x : Except ε α) = .ok y ↔ y = x := by
  simp [pure, Except.pure, eq_comm]

/-! ## Single checks -/

namespace Config

variable {config : Config}

theorem checkDraft_eq_ok_iff : config.checkDraft = .ok () ↔ config.phase = .draft := by
  rw [checkDraft, isFinalized]
  cases config.phase <;> simp

end Config

namespace GridSize

variable {size : GridSize} {p : Position}

theorem checkPosition_eq_ok_iff : size.checkPosition p = .ok () ↔ size.contains p = true := by
  rw [checkPosition]
  split <;> simp_all

theorem contains_of_center (h : size.center = some p) : size.contains p = true := by
  cases size <;> simp only [center, Option.some.injEq, reduceCtorEq] at h <;> subst h <;> rfl

end GridSize

theorem Item.checked_eq_ok_iff {item item' : Item} : item.checked = .ok item' ↔
    Text.isBlankText item.content = false ∧ item' = item := by
  rw [checked]
  split
  · rename_i hblank
    simp [hblank]
  · rename_i hblank
    simp [hblank, eq_comm]

namespace Card

variable {card card' : Card}

/-- **The check of the promises** gives the card back exactly when it keeps
all of them. -/
theorem verify_eq_ok_iff : card.verify = .ok card' ↔
    (∀ promise : Invariant, promise.holds card = true) ∧ card' = card := by
  have hall : ∀ promise : Invariant, promise ∈ Invariant.all := by
    intro promise
    cases promise <;> decide
  have hviolations : card.violations = [] ↔ ∀ promise : Invariant, promise.holds card = true := by
    simp [violations, List.filter_eq_nil_iff, hall]
  rw [verify, ← hviolations]
  split
  · rename_i h
    simp [h, eq_comm]
  · rename_i h
    exact ⟨fun he => (by cases he), fun he => (h he.1).elim⟩

end Card

end GoalGrid
