import GoalGrid.Proofs.NormalForm
/-!
# Headers — one normal form for each text

A header is normalized by trimming it and turning what is left into uppercase,
and it is refused for the length that comes of this. White space around a text
makes no difference to it (`trim_append`), and neither does the size of the
grid as long as the header fits; and a header that has been normalized once is
left alone (`normalizeHeader_canonical`). So a header that is stored and read
any number of times stays what it is.
-/

namespace GoalGrid

namespace Text

variable {cs after : List Char}

/-! ## White space around a text -/

/-- White space at the end is trimmed away … -/
theorem trimList_append_right (h : ∀ c ∈ after, isBlank c = true) :
    trimList (cs ++ after) = trimList cs := by
  have hreversed : ∀ c ∈ after.reverse, isBlank c = true :=
    fun c hc => h c (List.mem_reverse.1 hc)
  rw [trimList, trimList, List.dropWhile_append]
  split
  · -- nothing is left of the text itself, and nothing of what stands after it
    rename_i hnothing
    rw [List.isEmpty_iff.1 hnothing, List.dropWhile_eq_nil_iff.2 h]
  · rw [List.reverse_append, List.dropWhile_append_of_pos hreversed]

/-- … **and so it is at both ends.** -/
theorem trim_append {before text after : String} (hbefore : isBlankText before = true)
    (hafter : isBlankText after = true) : trim (before ++ text ++ after) = trim text := by
  have hleft : ∀ c ∈ before.toList, isBlank c = true := List.all_eq_true.1 hbefore
  have hright : ∀ c ∈ after.toList, isBlank c = true := List.all_eq_true.1 hafter
  rw [trim, trim, String.toList_append, String.toList_append, trimList_append_right hright,
    trimList, trimList, List.dropWhile_append_of_pos hleft]

theorem trimmed_of_trim_eq {s : String} (h : trim s = s) : Trimmed s.toList := by
  rw [← h, trim, String.toList_ofList]
  exact trimmed_trimList

end Text

namespace GridSize

open Text (trim upper)

variable {size other : GridSize} {text header : String}

/-! ## Refused headers -/

/-- A header is refused for its length in uppercase. -/
theorem normalizeHeader_eq_error_iff {cause : CardError} :
    size.normalizeHeader text = .error cause ↔
      ¬ (1 ≤ (upper (trim text)).length ∧ (upper (trim text)).length ≤ size.side) ∧
        cause = .invalidHeaderLength (upper (trim text)).length size.side := by
  rw [normalizeHeader]
  split
  · rename_i hfits
    exact iff_of_false (by simp) fun h => h.1 hfits
  · rename_i hmisfit
    rw [Except.error.injEq, eq_comm]
    exact (and_iff_right hmisfit).symm

/-- What a text is normalized to for one size is what it is normalized to for
every other size that it fits. -/
theorem normalizeHeader_eq_ok_iff_fits (h : size.normalizeHeader text = .ok header) :
    other.normalizeHeader text = .ok header ↔ header.length ≤ other.side := by
  obtain ⟨hheader, hnonempty, -⟩ := normalizeHeader_eq_ok_iff.1 h
  rw [normalizeHeader_eq_ok_iff, and_iff_right hheader, and_iff_right hnonempty]

/-- **Each text has one normal form as a header**, or none. It is the uppercase
form of the trimmed text, if that has a character for one column at least and
for no more than there are; otherwise the text is refused with its length in
uppercase and the number of columns. White space around the text makes no
difference. The normal form has no white space at its ends, it is its own
normal form, and for any other size the text has the same one if that fits. -/
theorem normalizeHeader_canonical (size : GridSize) (text : String) :
    (∀ header, size.normalizeHeader text = .ok header ↔
      header = upper (trim text) ∧ 1 ≤ header.length ∧ header.length ≤ size.side) ∧
    (∀ cause, size.normalizeHeader text = .error cause ↔
      ¬ (1 ≤ (upper (trim text)).length ∧ (upper (trim text)).length ≤ size.side) ∧
        cause = .invalidHeaderLength (upper (trim text)).length size.side) ∧
    (∀ before after, Text.isBlankText before = true → Text.isBlankText after = true →
      size.normalizeHeader (before ++ text ++ after) = size.normalizeHeader text) ∧
    ∀ header, size.normalizeHeader text = .ok header →
      Text.Trimmed header.toList ∧ size.normalizeHeader header = .ok header ∧
        ∀ other : GridSize, other.normalizeHeader text = .ok header ↔
          header.length ≤ other.side := by
  refine ⟨fun header => normalizeHeader_eq_ok_iff, fun cause => normalizeHeader_eq_error_iff,
    fun before after hbefore hafter => ?_, fun header h => ?_⟩
  · rw [normalizeHeader, normalizeHeader, Text.trim_append hbefore hafter]
  · have hnormal := normalHeader_of_normalizeHeader h
    exact ⟨Text.trimmed_of_trim_eq hnormal.trimmed, normalHeader_iff.1 hnormal,
      fun other => normalizeHeader_eq_ok_iff_fits h⟩

/-- One character that becomes three: they fit three columns and not two,
whatever white space there is around the text. With two letters before it,
each of which becomes one, it fits the largest grid only. -/
theorem normalizeHeader_canonical_three :
    let text := "\u0390"
    let header := "\u0399\u0308\u0301"
    three.normalizeHeader ("\t" ++ text ++ "\u3000\n") = .ok header ∧
      three.normalizeHeader header = .ok header ∧ Text.Trimmed header.toList ∧
      five.normalizeHeader text = .ok header ∧
      two.normalizeHeader text = .error (.invalidHeaderLength 3 2) ∧
      five.normalizeHeader (" " ++ ("aя" ++ text) ++ "\n") = .ok ("AЯ" ++ header) ∧
      four.normalizeHeader ("aя" ++ text) = .error (.invalidHeaderLength 5 4) := by
  intro text header
  have hthree : three.normalizeHeader text = .ok header := by decide +kernel
  have hlength : (upper (trim text)).length = 3 := by decide +kernel
  have hupper : upper (trim ("aя" ++ text)) = "AЯ" ++ header := by decide +kernel
  obtain ⟨-, -, hspace, hnormal⟩ := normalizeHeader_canonical three text
  obtain ⟨-, hrefused, -⟩ := normalizeHeader_canonical two text
  obtain ⟨hletters, -, hspaceLetters, -⟩ := normalizeHeader_canonical five ("aя" ++ text)
  obtain ⟨-, hrefusedLetters, -⟩ := normalizeHeader_canonical four ("aя" ++ text)
  obtain ⟨htrimmed, hagain, hother⟩ := hnormal header hthree
  refine ⟨(hspace "\t" "\u3000\n" (by decide) (by decide)).trans hthree, hagain, htrimmed,
    (hother five).2 (by decide), (hrefused _).2 ?_,
    (hspaceLetters " " "\n" (by decide) (by decide)).trans
      ((hletters _).2 ⟨hupper.symm, by decide, by decide⟩), (hrefusedLetters _).2 ?_⟩
  · rw [hlength]
    decide
  · rw [hupper]
    decide

end GridSize

end GoalGrid
