import GoalGrid.Grid.Header
import Mathlib.Data.List.TakeWhile
/-!
# Normal forms — trimmed text and headers

Trimming leaves a text without white space at its ends and changes no
such text (`trimList_eq_self`); the uppercase form is its own uppercase
form (`upper_upper`), and turning a trimmed text into it brings no white
space to its ends. So the normal form of a header is a fixed point of
normalizing (`normalHeader_of_normalizeHeader`), at the size it was made
for and at every size that it fits.
-/

namespace GoalGrid

namespace Text

/-! ## Trimming -/

/-- No white space stands at either end. -/
def Trimmed (cs : List Char) : Prop :=
  (∀ c ∈ cs.head?, isBlank c = false) ∧ ∀ c ∈ cs.getLast?, isBlank c = false

theorem head?_dropWhile_isBlank (cs : List Char) :
    ∀ c ∈ (cs.dropWhile isBlank).head?, isBlank c = false := by
  intro c hc
  have h := List.head?_dropWhile_not isBlank cs
  rw [Option.mem_def.1 hc] at h
  simpa using h

theorem trimList_prefix (cs : List Char) : trimList cs <+: cs.dropWhile isBlank := by
  have h := List.dropWhile_suffix (l := (cs.dropWhile isBlank).reverse) isBlank
  simpa [trimList] using List.reverse_prefix.2 h

/-- **Trimming trims.** -/
theorem trimmed_trimList {cs : List Char} : Trimmed (trimList cs) := by
  constructor
  · intro c hc
    obtain ⟨rest, h⟩ := trimList_prefix cs
    refine head?_dropWhile_isBlank cs c ?_
    rw [← h, List.head?_append]
    simp [Option.mem_def.1 hc]
  · -- the second end is dealt with as the first one of the reversed text
    intro c hc
    rw [trimList, List.getLast?_reverse] at hc
    exact head?_dropWhile_isBlank _ c hc

theorem dropWhile_isBlank_eq_self {cs : List Char} (h : ∀ c ∈ cs.head?, isBlank c = false) :
    cs.dropWhile isBlank = cs := by
  cases cs with
  | nil => rfl
  | cons c cs => simp [h c rfl]

/-- **And changes nothing that is trimmed.** -/
theorem trimList_eq_self {cs : List Char} (h : Trimmed cs) : trimList cs = cs := by
  rw [trimList, dropWhile_isBlank_eq_self h.1, dropWhile_isBlank_eq_self, List.reverse_reverse]
  intro c hc
  rw [List.head?_reverse] at hc
  exact h.2 c hc

@[simp] theorem trim_trim (s : String) : trim (trim s) = trim s := by
  rw [trim, trim, String.toList_ofList, trimList_eq_self trimmed_trimList]

/-- What trimming leaves is not blank, unless nothing is left. -/
theorem isBlankText_trim {s : String} (h : trim s ≠ "") : isBlankText (trim s) = false := by
  refine Bool.eq_false_iff.2 fun hblank => h ?_
  have hall : ∀ c ∈ (trim s).toList, isBlank c = true := List.all_eq_true.1 hblank
  have hdropped : (trim s).toList.dropWhile isBlank = [] := List.dropWhile_eq_nil_iff.2 hall
  rw [← trim_trim, trim, trimList, hdropped]
  rfl

/-- A text that is not blank has something left when it is trimmed. -/
theorem trim_ne_empty {s : String} (h : isBlankText s = false) : trim s ≠ "" := by
  intro hempty
  have hnone : trimList s.toList = [] := by
    rw [← String.toList_ofList (l := trimList s.toList), ← trim, hempty]
    rfl
  rw [trimList, List.reverse_eq_nil_iff, List.dropWhile_eq_nil_iff] at hnone
  -- what is left at the start begins with a character that is not blank
  have hdropped : s.toList.dropWhile isBlank = [] := by
    rw [← List.head?_eq_none_iff, Option.eq_none_iff_forall_not_mem]
    intro c hc
    have hblank := hnone c (List.mem_reverse.2 (List.mem_of_mem_head? hc))
    simp [head?_dropWhile_isBlank _ c hc] at hblank
  have hall : isBlankText s = true := List.all_eq_true.2 (List.dropWhile_eq_nil_iff.1 hdropped)
  simp [hall] at h

theorem ne_empty_of_isBlankText_eq_false {s : String} (h : isBlankText s = false) : s ≠ "" := by
  rintro rfl
  exact absurd h (by decide)

/-! ## The uppercase table

The table says what is mapped to what; that no image is mapped again, and
that none is white space, is checked on the table as a whole. A list of
code points is held as the bits of one number for that, so that two lists
are compared at once. -/

/-- The listed numbers as the bits of one number. -/
def bits (codes : List Nat) : Nat :=
  codes.foldr (fun code n => 1 <<< code ||| n) 0

theorem testBit_bits (codes : List Nat) (i : Nat) :
    (bits codes).testBit i = decide (i ∈ codes) := by
  induction codes with
  | nil => simp [bits]
  | cons code codes ih =>
    change (1 <<< code ||| bits codes).testBit i = _
    rw [Nat.testBit_or, ih, Nat.one_shiftLeft, Nat.testBit_two_pow]
    simp [eq_comm]

theorem not_mem_of_bits {xs ys : List Nat} (h : bits xs &&& bits ys = 0) {i : Nat} (hx : i ∈ xs) :
    i ∉ ys := by
  intro hy
  have hbit : (bits xs &&& bits ys).testBit i = true := by
    rw [Nat.testBit_and, testBit_bits, testBit_bits]
    simp [hx, hy]
  simp [h] at hbit

/-- The distances from the start of a run to its places. -/
def CaseRun.offsets (run : CaseRun) : List Nat :=
  (List.range ((run.last - run.first) / run.step + 1)).map (· * run.step)

/-- Every code point that the table maps. -/
def mappedCodes : List Nat :=
  caseExpansions.map (·.1) ++ caseRuns.flatMap fun run => run.offsets.map (run.first + ·)

/-- Every code point in an image. -/
def imageCodes : List Nat :=
  caseExpansions.flatMap (·.2) ++ caseRuns.flatMap fun run => run.offsets.map (run.image + ·)

/-- Every code point of white space. -/
def blankCodes : List Nat :=
  blankRanges.flatMap fun range => (List.range (range.2 + 1 - range.1)).map (range.1 + ·)

theorem imageCodes_unmapped : bits imageCodes &&& bits mappedCodes = 0 := by
  decide +kernel

theorem imageCodes_not_blank : bits imageCodes &&& bits blankCodes = 0 := by
  decide +kernel

theorem imageCodes_valid : ∀ code ∈ imageCodes, code.isValidChar := by
  decide +kernel

theorem caseExpansions_ne_nil : ∀ entry ∈ caseExpansions, entry.2 ≠ [] := by
  decide +kernel

namespace CaseRun

/-- A code point of a run lies at one of its distances. -/
theorem offset_of_covers {run : CaseRun} {code : Nat} (h : run.covers code = true) :
    code - run.first ∈ run.offsets ∧ run.first ≤ code := by
  simp only [covers, Bool.and_eq_true, decide_eq_true_eq, beq_iff_eq] at h
  obtain ⟨⟨hfirst, hlast⟩, hstep⟩ := h
  refine ⟨List.mem_map.2 ⟨(code - run.first) / run.step, ?_, ?_⟩, hfirst⟩
  · have hle : (code - run.first) / run.step ≤ (run.last - run.first) / run.step :=
      Nat.div_le_div_right (by omega)
    exact List.mem_range.2 (by omega)
  · exact Nat.div_mul_cancel (Nat.dvd_of_mod_eq_zero hstep)

theorem mem_mappedCodes {run : CaseRun} (hrun : run ∈ caseRuns) {code : Nat}
    (h : run.covers code = true) : code ∈ mappedCodes := by
  obtain ⟨hoffset, hfirst⟩ := offset_of_covers h
  refine List.mem_append_right _ (List.mem_flatMap.2 ⟨run, hrun, ?_⟩)
  exact List.mem_map.2 ⟨_, hoffset, by omega⟩

theorem apply_mem_imageCodes {run : CaseRun} (hrun : run ∈ caseRuns) {code : Nat}
    (h : run.covers code = true) : run.apply code ∈ imageCodes :=
  List.mem_append_right _ (List.mem_flatMap.2 ⟨run, hrun,
    List.mem_map.2 ⟨_, (offset_of_covers h).1, rfl⟩⟩)

end CaseRun

/-- A code point that the table does not map is its own uppercase form. -/
theorem upperCode_of_not_mem {code : Nat} (h : code ∉ mappedCodes) : upperCode code = [code] := by
  have hexpansion : caseExpansions.lookup code = none := by
    rw [List.lookup_eq_none_iff]
    rintro ⟨c, images⟩ hmem
    rw [bne_iff_ne]
    rintro rfl
    exact h (List.mem_append_left _ (List.mem_map_of_mem hmem))
  have hrun : caseRuns.find? (·.covers code) = none := by
    rw [List.find?_eq_none]
    exact fun run hmem hcovers => h (CaseRun.mem_mappedCodes hmem hcovers)
  rw [upperCode, hexpansion, hrun]

/-- An uppercase form has a code point at least, and its code points are
images unless it is the code point itself. -/
theorem upperCode_cases (code : Nat) :
    upperCode code = [code] ∨ (upperCode code ≠ [] ∧ ∀ c ∈ upperCode code, c ∈ imageCodes) := by
  rw [upperCode]
  split
  · rename_i images hlookup
    obtain ⟨before, after, htable, -⟩ := List.lookup_eq_some_iff.1 hlookup
    have hmem : (code, images) ∈ caseExpansions := by
      rw [htable]
      simp
    refine .inr ⟨caseExpansions_ne_nil _ hmem, fun c hc => ?_⟩
    exact List.mem_append_left _ (List.mem_flatMap.2 ⟨_, hmem, hc⟩)
  · split
    · rename_i run hfind
      refine .inr ⟨by simp, fun c hc => ?_⟩
      rw [List.mem_singleton.1 hc]
      have hcovers : run.covers code = true := by simpa using List.find?_some hfind
      exact CaseRun.apply_mem_imageCodes (List.mem_of_find?_eq_some hfind) hcovers
    · exact .inl rfl

/-! ## Uppercase -/

theorem toNat_ofNat {code : Nat} (h : code.isValidChar) : (Char.ofNat code).toNat = code := by
  rw [Char.ofNat, dif_pos h]
  rfl

theorem isBlank_iff {c : Char} : isBlank c = true ↔ c.toNat ∈ blankCodes := by
  simp only [isBlank, inRanges, List.any_eq_true, blankCodes, List.mem_flatMap, Bool.and_eq_true,
    decide_eq_true_eq]
  refine exists_congr fun range => and_congr_right fun _ => ?_
  rw [List.mem_map]
  constructor
  · rintro ⟨hlow, hhigh⟩
    exact ⟨c.toNat - range.1, List.mem_range.2 (by omega), by omega⟩
  · rintro ⟨i, hi, hc⟩
    rw [List.mem_range] at hi
    omega

/-- **An uppercase character is its own uppercase form, and no white
space** unless the character was. -/
theorem upperChar_of_mem {c d : Char} (h : d ∈ upperChar c) :
    upperChar d = [d] ∧ (isBlank c = false → isBlank d = false) := by
  rw [upperChar, List.mem_map] at h
  obtain ⟨code, hcode, rfl⟩ := h
  -- a character that the table does not map stays; any other becomes an image of the table
  rcases upperCode_cases c.toNat with hself | ⟨-, himages⟩
  · rw [hself, List.mem_singleton] at hcode
    subst hcode
    simp [upperChar, hself]
  · have himage := himages code hcode
    have hvalid := toNat_ofNat (imageCodes_valid code himage)
    constructor
    · rw [upperChar, hvalid, upperCode_of_not_mem (not_mem_of_bits imageCodes_unmapped himage)]
      rfl
    · intro _
      rw [Bool.eq_false_iff, ne_eq, isBlank_iff, hvalid]
      exact not_mem_of_bits imageCodes_not_blank himage

theorem upperChar_ne_nil (c : Char) : upperChar c ≠ [] := by
  rw [upperChar, ne_eq, List.map_eq_nil_iff]
  rcases upperCode_cases c.toNat with hself | ⟨hne, -⟩
  · simp [hself]
  · exact hne

theorem flatMap_upperChar_of_fixed {cs : List Char} (h : ∀ c ∈ cs, upperChar c = [c]) :
    cs.flatMap upperChar = cs := by
  induction cs with
  | nil => rfl
  | cons c cs ih =>
    rw [List.flatMap_cons, h c List.mem_cons_self,
      ih fun d hd => h d (List.mem_cons_of_mem _ hd)]
    rfl

/-- **The uppercase form is its own uppercase form.** -/
@[simp] theorem upper_upper (s : String) : upper (upper s) = upper s := by
  rw [upper, upper, String.toList_ofList, flatMap_upperChar_of_fixed]
  intro d hd
  obtain ⟨c, -, hc⟩ := List.mem_flatMap.1 hd
  exact (upperChar_of_mem hc).1

/-- **Uppercase keeps a text trimmed.** -/
theorem trimmed_flatMap_upperChar {cs : List Char} (h : Trimmed cs) :
    Trimmed (cs.flatMap upperChar) := by
  -- an end of the uppercase text is an end of what the character there becomes, which is not empty
  constructor
  · cases cs with
    | nil => simp
    | cons c cs =>
      intro d hd
      rw [List.flatMap_cons, List.head?_append,
        Option.or_of_isSome (by simp [upperChar_ne_nil c])] at hd
      exact (upperChar_of_mem (List.mem_of_head? hd)).2 (h.1 c rfl)
  · rcases List.eq_nil_or_concat cs with rfl | ⟨cs, c, rfl⟩
    · simp
    · intro d hd
      rw [List.concat_eq_append] at h hd
      rw [List.flatMap_append, List.flatMap_singleton,
        List.getLast?_append, Option.or_of_isSome (by simp [upperChar_ne_nil c])] at hd
      exact (upperChar_of_mem (List.mem_of_getLast? hd)).2 (h.2 c (by simp))

end Text

/-! ## Headers -/

namespace GridSize

open Text (trim upper)

/-- A header in normal form for a size: in uppercase, trimmed, and with a
character for one column at least and for no more than there are. -/
structure NormalHeader (size : GridSize) (header : String) : Prop where
  upper : upper header = header
  trimmed : trim header = header
  nonempty : 1 ≤ header.length
  fits : header.length ≤ size.side

theorem normalizeHeader_eq_ok_iff {size : GridSize} {text header : String} :
    size.normalizeHeader text = .ok header ↔
      header = Text.upper (trim text) ∧ 1 ≤ header.length ∧ header.length ≤ size.side := by
  rw [normalizeHeader]
  constructor
  · intro h
    split at h
    · obtain rfl := Except.ok.inj h
      exact ⟨rfl, by assumption⟩
    · cases h
  · rintro ⟨rfl, hlength⟩
    rw [if_pos hlength]

theorem trim_upper_trim (text : String) :
    trim (Text.upper (trim text)) = Text.upper (trim text) := by
  rw [Text.upper, trim, trim, String.toList_ofList, String.toList_ofList,
    Text.trimList_eq_self (Text.trimmed_flatMap_upperChar Text.trimmed_trimList)]

/-- **What normalizing gives is in normal form.** -/
theorem normalHeader_of_normalizeHeader {size : GridSize} {text header : String}
    (h : size.normalizeHeader text = .ok header) : size.NormalHeader header := by
  obtain ⟨rfl, hnonempty, hfits⟩ := normalizeHeader_eq_ok_iff.1 h
  exact ⟨Text.upper_upper _, trim_upper_trim text, hnonempty, hfits⟩

/-- **A header is in normal form exactly when normalizing keeps it.** -/
theorem normalHeader_iff {size : GridSize} {header : String} :
    size.NormalHeader header ↔ size.normalizeHeader header = .ok header := by
  refine ⟨fun h => normalizeHeader_eq_ok_iff.2 ⟨?_, h.nonempty, h.fits⟩,
    normalHeader_of_normalizeHeader⟩
  rw [h.trimmed, h.upper]

/-- The default header of a size is in normal form. -/
theorem normalHeader_defaultHeader (size : GridSize) :
    size.NormalHeader size.defaultHeader := by
  cases size <;>
    exact ⟨by decide +kernel, by decide +kernel, by decide +kernel, by decide +kernel⟩

/-- A header that moves to another size is in normal form there. -/
theorem normalHeader_resizedHeader {old new : GridSize} {header : String} :
    new.NormalHeader (resizedHeader header old new) := by
  rw [resizedHeader]
  split
  · exact normalHeader_defaultHeader new
  · split
    · rename_i h
      exact normalHeader_of_normalizeHeader h
    · exact normalHeader_defaultHeader new

theorem normalizeHeader_resizedHeader (header : String) (old new : GridSize) :
    new.normalizeHeader (resizedHeader header old new) = .ok (resizedHeader header old new) :=
  normalHeader_iff.1 normalHeader_resizedHeader

/-- **A header that moves to another size** is the default one there if it was
the default one or does not fit, and stays as it is otherwise. -/
theorem resizedHeader_of_normalHeader {old new : GridSize} {header : String}
    (h : old.NormalHeader header) : resizedHeader header old new =
      if header = old.defaultHeader then new.defaultHeader
      else if header.length ≤ new.side then header else new.defaultHeader := by
  rw [resizedHeader]
  split
  · rfl
  · by_cases hfits : header.length ≤ new.side
    · have hthere : new.NormalHeader header := ⟨h.upper, h.trimmed, h.nonempty, hfits⟩
      rw [normalHeader_iff.1 hthere, if_pos hfits]
    · rw [normalizeHeader, h.trimmed, h.upper, if_neg fun hlength => hfits hlength.2, if_neg hfits]

end GridSize

end GoalGrid
