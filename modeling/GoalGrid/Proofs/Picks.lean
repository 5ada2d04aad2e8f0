import GoalGrid.Proofs.Draws
import GoalGrid.Random.Seeded
import Mathlib.Data.List.Nodup
import Mathlib.Data.Set.Function
/-!
# Picks — every way to take entries, and each once

Different numbers pick different entries, and all choices of different
entries are picked by some: for a list without duplicates the lists of
numbers and the lists of its entries without duplicates correspond one to
one (`bijOn_pick`). Rearranging a list is picking from it until nothing is
left and putting the picks in a row from the end
(`rearrange_eq_reverse_pick`), so that the numbers for a rearrangement and
the orders of the list correspond as well (`bijOn_rearrange`). And no number
below a bound is out of reach of a draw (`exists_draw`): every list of
numbers for picking is drawn by some generator (`exists_slots`).
-/

namespace GoalGrid

/-! ## Words for a number -/

namespace Generator

variable {g : Generator} {words rest : List UInt32} {w : DrawWidth} {n r : Nat}

/-- The generator after `n` more words. -/
def skip (g : Generator) (n : Nat) : Generator :=
  { g with used := g.used + n }

/-- The words that come next are these. -/
def Begins (g : Generator) (words : List UInt32) : Prop :=
  ∀ i (hi : i < words.length), g.tape.get (g.used + i) = words[i]

theorem begins_ofWords (words : List UInt32) : (ofWords words).Begins words := by
  intro i hi
  simp [ofWords, Tape.ofList, Tape.get, hi]

theorem Begins.of_append (h : g.Begins (words ++ rest)) :
    g.Begins words ∧ (g.skip words.length).Begins rest := by
  refine ⟨fun i hi => ?_, fun i hi => ?_⟩
  · rw [h i (by rw [List.length_append]; omega), List.getElem_append_left hi]
  · have hlater := h (words.length + i) (by rw [List.length_append]; omega)
    rw [List.getElem_append_right (by omega)] at hlater
    simpa [skip, Nat.add_assoc] using hlater

/-- Every value of a width is taken from some words. -/
theorem exists_take (hn : n < w.range) :
    ∃ words, ∀ g : Generator, g.Begins words → w.take g = (n, g.skip words.length) := by
  cases w with
  | bits32 =>
    refine ⟨[UInt32.ofNat n], fun g hg => ?_⟩
    have hn : n < 2 ^ 32 := hn
    have hword : g.tape.get g.used = UInt32.ofNat n := hg 0 (by simp)
    have hvalue : (UInt32.ofNat n).toNat = n := UInt32.toNat_ofNat_of_lt' hn
    simp only [DrawWidth.take, next32, hword, hvalue]
    rfl
  | bits64 =>
    refine ⟨[UInt32.ofNat n, UInt32.ofNat (n / 2 ^ 32)], fun g hg => ?_⟩
    have hn : n < 2 ^ 64 := hn
    have hlow : g.tape.get g.used = UInt32.ofNat n := hg 0 (by simp)
    have hhigh : g.tape.get (g.used + 1) = UInt32.ofNat (n / 2 ^ 32) := hg 1 (by simp)
    have hvalue : n % 2 ^ 32 + 2 ^ 32 * (n / 2 ^ 32 % 2 ^ 32) = n := by omega
    simp only [DrawWidth.take, next64, hlow, hhigh, UInt32.toNat_ofNat', Nat.pow_eq, hvalue]
    rfl

/-- The least word whose product with the bound is beyond a multiple of the
range is less than the bound beyond it. -/
theorem exists_word (hn : n < r) (hr : r ≤ w.range) :
    ∃ word < w.range, ∃ low < r, word * r = w.range * n + low := by
  let word := (w.range * n + (r - 1)) / r
  have hle : word * r ≤ w.range * n + (r - 1) := Nat.div_mul_le_self ..
  have hlt : w.range * n + (r - 1) < word * r + r := Nat.lt_div_mul_add (by omega)
  have hbelow : w.range * n + w.range ≤ w.range * r := by
    rw [← Nat.mul_succ]
    exact Nat.mul_le_mul_left _ hn
  have hword : word < w.range := (Nat.div_lt_iff_lt_mul (by omega)).2 (by omega)
  exact ⟨word, hword, word * r - w.range * n, by omega, by omega⟩

/-- **No number below the bound is out of reach**: some word has it in the
high half of its product with the bound, and is not thrown away. -/
theorem exists_draw (hn : n < r) (hr : r ≤ w.range) :
    ∃ words, ∀ g : Generator, g.Begins words → g.draw w r = (n, g.skip words.length) := by
  obtain ⟨word, hword, low, hlow, hproduct⟩ := exists_word hn hr
  obtain ⟨words, htake⟩ := exists_take hword
  have hhigh : word * r / w.range = n := by
    rw [hproduct, Nat.mul_add_div (by omega), Nat.div_eq_of_lt (by omega), Nat.add_zero]
  have haccepted : word * r % w.range ≤ w.zone r := by
    have hzone : r ≤ r * Nat.pow 2 (w.bits - 1 - r.log2) :=
      Nat.le_mul_of_pos_right r (Nat.two_pow_pos _)
    rw [hproduct, Nat.mul_add_mod, Nat.mod_eq_of_lt (by omega), DrawWidth.zone]
    omega
  refine ⟨words, fun g hg => ?_⟩
  rw [draw, drawWithin, htake g hg]
  dsimp only
  rw [if_pos haccepted, hhigh]

end Generator

namespace Random

variable {α : Type} {x : α} {xs : List α} {s m k : Nat} {slots : List Nat}

/-- **Every list of numbers for picking is drawn** from some words. -/
theorem exists_slots (h : SlotsBelow m slots) (hm : m ≤ DrawWidth.bits64.range) :
    ∃ words, ∀ g : Generator, g.Begins words → (Random.slots slots.length m g).1 = slots := by
  induction slots generalizing m with
  | nil => exact ⟨[], fun _ _ => rfl⟩
  | cons s slots ih =>
    obtain ⟨first, hfirst⟩ := Generator.exists_draw h.1 hm
    obtain ⟨rest, hrest⟩ := ih h.2 (by omega)
    refine ⟨first ++ rest, fun g hg => ?_⟩
    obtain ⟨hg, hafter⟩ := hg.of_append
    simp only [List.length_cons, Random.slots, hfirst g hg, hrest _ hafter]

/-! ## Numbers and picks -/

/-- The lists of `k` numbers for picking from `m` entries. -/
def SlotLists (m k : Nat) : Set (List Nat) :=
  {slots | slots.length = k ∧ SlotsBelow m slots}

theorem pick_cons (h : s < xs.length) :
    pick (s :: slots) xs = xs[s] :: pick slots (swapRemove xs s) := by
  rw [pick, List.getElem?_eq_getElem h]

theorem length_swapRemove (h : s < xs.length) : (swapRemove xs s).length = xs.length - 1 := by
  have hlength := (cons_swapRemove_perm (List.getElem?_eq_getElem h)).length_eq
  rw [List.length_cons] at hlength
  omega

/-- What is taken from a list without duplicates is not left. -/
theorem nodup_cons_swapRemove (hxs : xs.Nodup) (h : s < xs.length) :
    (xs[s] :: swapRemove xs s).Nodup :=
  (cons_swapRemove_perm (List.getElem?_eq_getElem h)).nodup_iff.2 hxs

theorem slotsBelow_cons (h : s < xs.length) :
    SlotsBelow xs.length (s :: slots) ↔ SlotsBelow (swapRemove xs s).length slots := by
  rw [length_swapRemove h, SlotsBelow]
  exact and_iff_right h

/-- **Different numbers pick different entries.** -/
theorem pick_injOn (hxs : xs.Nodup) : (SlotLists xs.length k).InjOn (pick · xs) := by
  rintro slots ⟨hlength, hbelow⟩ slots' ⟨hlength', hbelow'⟩ heq
  induction slots generalizing k xs slots' with
  | nil => exact (List.length_eq_zero_iff.1 (hlength'.trans hlength.symm)).symm
  | cons s slots ih =>
    obtain _ | ⟨s', slots'⟩ := slots'
    · simp [← hlength] at hlength'
    have hs := hbelow.1
    have hs' := hbelow'.1
    simp only [pick_cons hs, pick_cons hs', List.cons.injEq] at heq
    obtain rfl : s = s' := hxs.getElem_inj_iff.1 heq.1
    have hrest := (List.nodup_cons.1 (nodup_cons_swapRemove hxs hs)).2
    rw [ih hrest rfl ((slotsBelow_cons hs).1 hbelow) (by simpa [← hlength] using hlength')
      ((slotsBelow_cons hs).1 hbelow') heq.2]

/-- **All choices of different entries are picked.** -/
theorem exists_pick {ys : List α} (hys : ys.Nodup) (hsubset : ys ⊆ xs) (hxs : xs.Nodup) :
    ∃ slots ∈ SlotLists xs.length ys.length, pick slots xs = ys := by
  induction ys generalizing xs with
  | nil => exact ⟨[], ⟨rfl, trivial⟩, rfl⟩
  | cons y ys ih =>
    obtain ⟨s, hs, rfl⟩ := List.mem_iff_getElem.1 (hsubset List.mem_cons_self)
    obtain ⟨hnotMem, hys⟩ := List.nodup_cons.1 hys
    -- the entries after the first are among those that it leaves
    have hleft : ys ⊆ swapRemove xs s := by
      intro y hy
      have hmem := hsubset (List.mem_cons_of_mem _ hy)
      rw [← (cons_swapRemove_perm (List.getElem?_eq_getElem hs)).mem_iff] at hmem
      exact (List.mem_cons.1 hmem).resolve_left fun heq => hnotMem (heq ▸ hy)
    obtain ⟨slots, ⟨hlength, hbelow⟩, rfl⟩ :=
      ih hys hleft (List.nodup_cons.1 (nodup_cons_swapRemove hxs hs)).2
    exact ⟨s :: slots, ⟨congrArg (· + 1) hlength, (slotsBelow_cons hs).2 hbelow⟩, pick_cons hs⟩

/-- **Numbers and choices of different entries correspond one to one.** -/
theorem bijOn_pick (hxs : xs.Nodup) (k : Nat) : Set.BijOn (pick · xs) (SlotLists xs.length k)
    {ys | ys.length = k ∧ ys.Nodup ∧ ys ⊆ xs} := by
  refine ⟨?_, pick_injOn hxs, ?_⟩
  · rintro slots ⟨rfl, hbelow⟩
    obtain ⟨picked, hperm, hsublist⟩ := pick_subperm slots xs
    exact ⟨length_pick hbelow, hperm.nodup_iff.1 (hxs.sublist hsublist),
      (pick_subperm slots xs).subset⟩
  · rintro ys ⟨rfl, hys, hsubset⟩
    exact exists_pick hys hsubset hxs

/-! ## Rearranging as picking -/

theorem forall_lt_of_slotsBelow (h : SlotsBelow m slots) : ∀ s ∈ slots, s < m := by
  induction slots generalizing m with
  | nil => exact fun _ hs => nomatch hs
  | cons first slots ih =>
    intro s hs
    rcases List.mem_cons.1 hs with rfl | hs
    · exact h.1
    · exact Nat.lt_of_lt_of_le (ih h.2 s hs) (Nat.sub_le ..)

theorem slotsBelow_concat : SlotsBelow m (slots ++ [s]) ↔
    SlotsBelow m slots ∧ s < m - slots.length := by
  induction slots generalizing m with
  | nil => simp [SlotsBelow]
  | cons first slots ih =>
    have hlength : m - (first :: slots).length = m - 1 - slots.length := by
      rw [List.length_cons]
      omega
    rw [List.cons_append, SlotsBelow, SlotsBelow, ih, hlength, and_assoc]

theorem exchange_eq {i j : Nat} (hi : i < xs.length) (hj : j < xs.length) :
    exchange xs i j = (xs.set i xs[j]).set j xs[i] := by
  simp only [exchange, List.getElem?_eq_getElem hi, List.getElem?_eq_getElem hj]

/-- An exchange in front leaves the last entry where it is. -/
theorem exchange_concat {i j : Nat} (hi : i < xs.length) (hj : j < xs.length) :
    exchange (xs ++ [x]) i j = exchange xs i j ++ [x] := by
  have hfront {k : Nat} (hk : k < xs.length) : k < (xs ++ [x]).length := by
    rw [List.length_append]
    omega
  rw [exchange_eq (hfront hi) (hfront hj), exchange_eq hi hj, List.getElem_append_left hi,
    List.getElem_append_left hj, List.set_append_left _ _ hi,
    List.set_append_left _ _ (by simpa using hj)]

/-- Exchanging an entry with the last one takes it away and puts it last. -/
theorem exchange_last (h : s < xs.length) :
    exchange xs (xs.length - 1) s = swapRemove xs s ++ [xs[s]] := by
  rcases List.eq_nil_or_concat xs with rfl | ⟨front, last, rfl⟩
  · simp at h
  simp only [List.concat_eq_append] at h ⊢
  rw [exchange_eq (by simp) h]
  by_cases hfront : s < front.length
  · simp [swapRemove, hfront, List.set_append_left, List.getElem_append_left]
  · have hs : s = front.length := by
      rw [List.length_append, List.length_singleton] at h
      omega
    subst hs
    simp [swapRemove]

/-- Numbers below the length of the front leave the last entry where it is. -/
theorem rearrange_concat (hlength : slots.length < xs.length) (h : ∀ s ∈ slots, s < xs.length) :
    rearrange slots (xs ++ [x]) = rearrange slots xs ++ [x] := by
  induction slots generalizing xs with
  | nil => rfl
  | cons s slots ih =>
    have hs := h s List.mem_cons_self
    have hsame := (exchange_perm xs (slots.length + 1) s).length_eq
    rw [List.length_cons] at hlength
    rw [rearrange, rearrange, exchange_concat hlength hs]
    refine ih ?_ fun s hs => ?_
    · rw [hsame]
      exact Nat.lt_of_succ_lt hlength
    · rw [hsame]
      exact h _ (List.mem_cons_of_mem _ hs)

/-- **Rearranging a list is picking from it** until nothing is left, with the
picks put in a row from the end: each exchange puts the pick last among those
that are left. -/
theorem rearrange_eq_reverse_pick (hlength : slots.length + 1 = xs.length)
    (h : SlotsBelow xs.length slots) :
    rearrange slots xs = (pick (slots ++ [0]) xs).reverse := by
  induction slots generalizing xs with
  | nil =>
    obtain ⟨x, rfl⟩ := List.length_eq_one_iff.1 hlength.symm
    rfl
  | cons s slots ih =>
    have hs := h.1
    have hleft := length_swapRemove hs
    rw [List.length_cons] at hlength
    have hlast : slots.length + 1 = xs.length - 1 := by omega
    have hbelow := (slotsBelow_cons hs).1 h
    rw [rearrange, hlast, exchange_last hs, rearrange_concat (by omega)
      (forall_lt_of_slotsBelow hbelow), ih (by omega) hbelow, List.cons_append, pick_cons hs,
      List.reverse_cons]

/-- With the number for the last entry that is left, numbers to rearrange by
are numbers for picking all entries. -/
theorem concat_zero_mem_slotLists (hlength : slots.length + 1 = m) (h : SlotsBelow m slots) :
    slots ++ [0] ∈ SlotLists m m :=
  ⟨by simpa using hlength, slotsBelow_concat.2 ⟨h, by omega⟩⟩

theorem rearrange_injOn (hxs : xs.Nodup) :
    (SlotLists xs.length (xs.length - 1)).InjOn (rearrange · xs) := by
  rintro slots ⟨hlength, hbelow⟩ slots' ⟨hlength', hbelow'⟩ heq
  by_cases hempty : xs.length = 0
  · rw [hempty] at hlength hlength'
    rw [List.length_eq_zero_iff.1 hlength, List.length_eq_zero_iff.1 hlength']
  · have hone : slots.length + 1 = xs.length := by omega
    have hone' : slots'.length + 1 = xs.length := by omega
    simp only [rearrange_eq_reverse_pick hone hbelow, rearrange_eq_reverse_pick hone' hbelow',
      List.reverse_inj] at heq
    have hsame := pick_injOn hxs (concat_zero_mem_slotLists hone hbelow)
      (concat_zero_mem_slotLists hone' hbelow') heq
    exact List.append_cancel_right hsame

theorem exists_rearrange {ys : List α} (hxs : xs.Nodup) (hys : ys.Perm xs) :
    ∃ slots ∈ SlotLists xs.length (xs.length - 1), rearrange slots xs = ys := by
  have hreverse : ys.reverse.Perm xs := (List.reverse_perm ys).trans hys
  obtain ⟨slots, ⟨hlength, hbelow⟩, hpick⟩ :=
    exists_pick (hreverse.nodup_iff.2 hxs) hreverse.subset hxs
  rw [hreverse.length_eq] at hlength
  rcases List.eq_nil_or_concat slots with rfl | ⟨front, s, rfl⟩
  · obtain rfl := List.length_eq_zero_iff.1 hlength.symm
    exact ⟨[], ⟨rfl, trivial⟩, hys.symm.nil_eq⟩
  · -- only one entry is left for the last number
    rw [List.concat_eq_append] at hlength hbelow hpick
    obtain ⟨hfront, hs⟩ := slotsBelow_concat.1 hbelow
    rw [List.length_append, List.length_singleton] at hlength
    obtain rfl : s = 0 := by omega
    refine ⟨front, ⟨by omega, hfront⟩, ?_⟩
    rw [rearrange_eq_reverse_pick hlength hfront, hpick, List.reverse_reverse]

/-- **Numbers and orders of a list correspond one to one.** There is a number
for each entry but the first. -/
theorem bijOn_rearrange (hxs : xs.Nodup) : Set.BijOn (rearrange · xs)
    (SlotLists xs.length (xs.length - 1)) {ys | ys.Perm xs} :=
  ⟨fun slots _ => rearrange_perm slots xs, rearrange_injOn hxs, fun _ => exists_rearrange hxs⟩

end Random

end GoalGrid
