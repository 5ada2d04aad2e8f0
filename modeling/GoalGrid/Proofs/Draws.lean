import GoalGrid.Random.Permute
import Mathlib.Data.List.Perm.Subperm
/-!
# Draws — what chance can do to a list

A draw below a bound is below it (`draw_lt`), whatever the words are, so
that a choice from a list that is not empty always finds an entry
(`exists_choose`). Shuffling a list gives a rearrangement of it
(`shuffle_perm`) that looks at no entry (`shuffle_map`), and picking from a
list takes entries of different places (`pick_subperm`): all this holds of
the numbers drawn, whatever they are. The numbers drawn to pick from a list
are besides below the number of entries left (`slotsBelow_slots`), so that
each of them picks one (`length_pick`).
-/

namespace GoalGrid

/-! ## Numbers below a bound -/

namespace DrawWidth

/-- A word of a width is below its range. -/
theorem take_lt_range (w : DrawWidth) (g : Generator) : (w.take g).1 < w.range := by
  cases w with
  | bits32 => exact UInt32.toNat_lt _
  | bits64 =>
    have hlow := UInt32.toNat_lt (g.tape.get g.used)
    have hhigh := UInt32.toNat_lt (g.tape.get (g.used + 1))
    simp only [take, Generator.next64, range, bits, Nat.pow_eq]
    omega

end DrawWidth

namespace Generator

variable {r : Nat}

theorem drawWithin_lt (w : DrawWidth) (hr : 0 < r) (tries : Nat) (g : Generator) :
    (drawWithin w r tries g).1 < r := by
  induction tries generalizing g with
  | zero => exact hr
  | succ tries ih =>
    have hword := w.take_lt_range g
    rw [drawWithin]
    dsimp only
    split
    · -- the draw is the high half of the word times the bound
      exact Nat.div_lt_of_lt_mul (Nat.mul_lt_mul_of_pos_right hword hr)
    · exact ih _

/-- **A draw is below its bound.** -/
theorem draw_lt (w : DrawWidth) (hr : 0 < r) (g : Generator) : (g.draw w r).1 < r :=
  drawWithin_lt w hr _ g

variable {α : Type} {xs : List α}

/-- **A choice finds an entry** of every list that is not empty. -/
theorem exists_choose (h : xs ≠ []) (g : Generator) : ∃ x, (g.choose xs).1 = some x := by
  have hlt := draw_lt .bits32 (List.length_pos_iff.2 h) g
  have hempty : ¬ xs.isEmpty = true := by simpa using h
  rw [choose, if_neg hempty]
  exact ⟨_, List.getElem?_eq_getElem hlt⟩

end Generator

namespace Random

open List (Perm Subperm)

variable {α β : Type} {x : α} {xs : List α}

/-! ## Rearranging -/

theorem exchange_perm (xs : List α) (i j : Nat) : (exchange xs i j).Perm xs := by
  rw [exchange]
  split
  · rename_i y z hy hz
    obtain ⟨hi, rfl⟩ := List.getElem?_eq_some_iff.1 hy
    obtain ⟨hj, rfl⟩ := List.getElem?_eq_some_iff.1 hz
    exact List.set_set_perm hi hj
  · exact Perm.refl xs

theorem rearrange_perm (js : List Nat) (xs : List α) : (rearrange js xs).Perm xs := by
  induction js generalizing xs with
  | nil => exact Perm.refl xs
  | cons j js ih => exact (ih _).trans (exchange_perm xs _ j)

/-- **Shuffling rearranges.** -/
theorem shuffle_perm (xs : List α) (g : Generator) : (shuffle xs g).1.Perm xs :=
  rearrange_perm _ xs

theorem exchange_map (f : α → β) (xs : List α) (i j : Nat) :
    exchange (xs.map f) i j = (exchange xs i j).map f := by
  simp only [exchange, List.getElem?_map]
  cases xs[i]? <;> cases xs[j]? <;> simp [List.map_set]

theorem rearrange_map (f : α → β) (js : List Nat) (xs : List α) :
    rearrange js (xs.map f) = (rearrange js xs).map f := by
  induction js generalizing xs with
  | nil => rfl
  | cons j js ih => rw [rearrange, rearrange, exchange_map, ih]

/-- **Shuffling looks at no entry.** -/
theorem shuffle_map (f : α → β) (xs : List α) (g : Generator) :
    shuffle (xs.map f) g = ((shuffle xs g).1.map f, (shuffle xs g).2) := by
  simp only [shuffle, List.length_map, rearrange_map]

/-! ## Picking -/

/-- What is taken away and what is left are the list together. -/
theorem cons_swapRemove_perm {i : Nat} (h : xs[i]? = some x) :
    (x :: swapRemove xs i).Perm xs := by
  obtain ⟨hi, rfl⟩ := List.getElem?_eq_some_iff.1 h
  rcases List.eq_nil_or_concat xs with rfl | ⟨front, last, rfl⟩
  · simp at hi
  rw [List.concat_eq_append] at hi
  simp only [List.concat_eq_append, swapRemove, List.getLast?_append, List.getLast?_singleton,
    Option.some_or]
  by_cases hlast : i < front.length
  · -- the last entry goes to the place of the one that is taken
    rw [List.set_append_left _ _ hlast, List.dropLast_concat, List.getElem_append_left hlast]
    have hset := List.set_perm_cons_eraseIdx hlast last
    have hfront := List.getElem_cons_eraseIdx_perm hlast
    calc front[i] :: front.set i last
        _ |>.Perm (front[i] :: last :: front.eraseIdx i) := hset.cons _
        _ |>.Perm (last :: front[i] :: front.eraseIdx i) := .swap ..
        _ |>.Perm (last :: front) := hfront.cons _
        _ |>.Perm (front ++ [last]) := List.perm_append_singleton .. |>.symm
  · have hi : i = front.length := by simp at hi; omega
    subst hi
    simpa using (List.perm_append_singleton last front).symm

/-- **Picking takes entries of different places.** -/
theorem pick_subperm (slots : List Nat) (xs : List α) : (pick slots xs).Subperm xs := by
  induction slots generalizing xs with
  | nil => exact List.nil_subperm
  | cons s slots ih =>
    rw [pick]
    split
    · rename_i x hx
      exact ((List.subperm_cons x).2 (ih _)).trans (cons_swapRemove_perm hx).subperm
    · exact List.nil_subperm

/-- Each of the numbers is below the number of entries that are left when it
comes to it, of `m` entries at first. -/
def SlotsBelow : Nat → List Nat → Prop
  | _, [] => True
  | m, s :: slots => s < m ∧ SlotsBelow (m - 1) slots

/-- **No draw for picking is from an empty range**, and each is below the
number of entries left. -/
theorem slotsBelow_slots {k m : Nat} (hk : k ≤ m) (g : Generator) :
    SlotsBelow m (slots k m g).1 := by
  induction k generalizing m g with
  | zero => trivial
  | succ k ih => exact ⟨g.draw_lt .bits64 (Nat.zero_lt_of_lt hk), ih (Nat.le_sub_one_of_lt hk) _⟩

@[simp] theorem length_slots (k m : Nat) (g : Generator) : (slots k m g).1.length = k := by
  induction k generalizing m g with
  | zero => rfl
  | succ k ih => exact congrArg (· + 1) (ih _ _)

/-- **Every number picks an entry.** -/
theorem length_pick {slots : List Nat} (h : SlotsBelow xs.length slots) :
    (pick slots xs).length = slots.length := by
  induction slots generalizing xs with
  | nil => rfl
  | cons s slots ih =>
    obtain ⟨hs, hrest⟩ := h
    have hx := List.getElem?_eq_getElem hs
    -- one entry fewer is left for the numbers after it
    have hleft := (cons_swapRemove_perm hx).length_eq
    rw [List.length_cons] at hleft
    rw [← hleft, Nat.add_sub_cancel] at hrest
    rw [pick, hx]
    exact congrArg (· + 1) (ih hrest)

end Random

end GoalGrid
