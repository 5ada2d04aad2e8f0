import GoalGrid.Settings
import GoalGrid.Proofs.Headers
import GoalGrid.Proofs.Json.Scalars
/-!
# Numerals — how unsigned numbers are read

A numeral is one or more digits, after one plus sign or none. Its digits are
read from left to right, and what ends the reading first decides what comes of
it (`readDigits_eq`): the digit that carries the number to the limit, or the
first character that is no digit. So a number is read exactly from its
numerals, and each refusal has a condition of its own on the text
(`readUnsigned_eq_iff`). The seed from outside is read so, without the white space
around it (`withSeed_reads_numerals`).
-/

namespace GoalGrid

namespace Text

variable {cs rest : List Char} {c : Char} {limit value n : Nat}

/-! ## Numerals -/

/-- The text without the plus sign that it may begin with. -/
def afterPlus : List Char → List Char
  | '+' :: rest => rest
  | cs => cs

/-- The digits that the text begins with, after a plus sign or without one. -/
def leadingDigits (cs : List Char) : List Char :=
  (afterPlus cs).takeWhile Char.isDigit

/-- The text is a numeral of `n`: one or more digits that stand for `n`, after
one plus sign or none. -/
structure IsNumeral (cs : List Char) (n : Nat) : Prop where
  notEmpty : afterPlus cs ≠ []
  digits : ∀ c ∈ afterPlus cs, c.isDigit = true
  value : Nat.ofDigitChars 10 (afterPlus cs) 0 = n

theorem afterPlus_eq_self (h : cs.head? ≠ some '+') : afterPlus cs = cs := by
  unfold afterPlus
  split
  · exact absurd rfl h
  · rfl

theorem isDigit_of_mem_toString (h : c ∈ (toString n).toList) : c.isDigit = true :=
  Json.isDigit_of_mem_numberText (Nat.toList_repr ▸ h)

/-- A number begins with a digit, and with no sign. -/
theorem head?_toString_ne (h : c.isDigit = false) : (toString n).toList.head? ≠ some c := by
  intro hhead
  rw [isDigit_of_mem_toString (List.mem_of_head? hhead)] at h
  cases h

/-- The digits of a number are a numeral of it. -/
theorem isNumeral_toString (n : Nat) : IsNumeral (toString n).toList n := by
  have hplus : afterPlus (toString n).toList = (toString n).toList :=
    afterPlus_eq_self (head?_toString_ne rfl)
  have hdigits : (toString n).toList = Json.numberText n := Nat.toList_repr
  refine ⟨?_, ?_, ?_⟩ <;> rw [hplus]
  · rw [hdigits]
    exact Json.numberText_ne_nil n
  · exact fun _ => isDigit_of_mem_toString
  · rw [hdigits]
    exact Nat.ofDigitChars_ten_toDigits

/-! ## Reading digits -/

theorem toNat_of_isDigit (h : c.isDigit = true) : 48 ≤ c.toNat ∧ c.toNat ≤ 57 := by
  simpa [Char.isDigit, UInt32.le_iff_toNat_le] using h

theorem digitIn?_of_isDigit (h : c.isDigit = true) :
    digitIn? 10 c = some (c.toNat - '0'.toNat) := by
  have hlt : c.toNat - '0'.toNat < 10 := by
    have hrange := toNat_of_isDigit h
    have hzero : '0'.toNat = 48 := rfl
    omega
  rw [digitIn?, Json.hexValue?_of_isDigit h, Option.filter_some, if_pos (decide_eq_true hlt)]

/-- The letters among the hexadecimal digits are no digits here. -/
theorem digitIn?_of_not_isDigit (h : c.isDigit = false) : digitIn? 10 c = none := by
  have hrange : ¬ ('0' ≤ c ∧ c ≤ '9') := by
    simpa [Char.isDigit, Char.le_def] using h
  rw [digitIn?, hexValue?, if_neg hrange, Option.filter_eq_none_iff]
  intro d hd
  rw [decide_eq_true_eq, Nat.not_lt]
  split at hd
  · obtain rfl := Option.some.inj hd
    exact Nat.le_add_left 10 _
  · split at hd
    · obtain rfl := Option.some.inj hd
      exact Nat.le_add_left 10 _
    · cases hd

theorem le_ofDigitChars (cs : List Char) : value ≤ Nat.ofDigitChars 10 cs value := by
  rw [Nat.ofDigitChars_eq_ofDigitChars_zero]
  have hscaled : value ≤ 10 ^ cs.length * value :=
    Nat.le_mul_of_pos_left value (Nat.pow_pos (by decide))
  exact Nat.le_add_right_of_le hscaled

/-- **What comes of reading digits**: it is the leading digits that may be too
large, whatever stands after them. -/
theorem readDigits_eq (h : value < limit) : readDigits limit value cs =
    if limit ≤ Nat.ofDigitChars 10 (cs.takeWhile Char.isDigit) value then .error .tooLarge
    else if cs.all Char.isDigit then .ok (Nat.ofDigitChars 10 cs value)
    else .error .invalidDigit := by
  -- a digit that is read makes part of the value for the rest, so the value is arbitrary
  induction cs generalizing value with
  | nil => simp [readDigits, h]
  | cons c rest ih =>
    cases hc : c.isDigit with
    | false =>
      rw [readDigits, digitIn?_of_not_isDigit hc, List.takeWhile_cons_of_neg (by simp [hc]),
        Nat.ofDigitChars_nil, if_neg (Nat.not_le.2 h), List.all_cons, hc, Bool.false_and,
        if_neg Bool.false_ne_true]
    | true =>
      rw [readDigits, digitIn?_of_isDigit hc, List.takeWhile_cons_of_pos hc,
        Nat.ofDigitChars_cons, Nat.ofDigitChars_cons, Nat.mul_comm 10 value]
      by_cases hfits : value * 10 + (c.toNat - '0'.toNat) < limit
      · simp only [if_pos hfits, ih hfits, List.all_cons, hc, Bool.true_and]
      · have hlarge := Nat.le_trans (Nat.not_lt.1 hfits)
          (le_ofDigitChars (rest.takeWhile Char.isDigit))
        simp only [if_neg hfits, if_pos hlarge]

/-! ## Reading numerals -/

theorem readUnsigned_eq_readDigits (h : afterPlus cs ≠ []) :
    readUnsigned limit cs = readDigits limit 0 (afterPlus cs) := by
  unfold readUnsigned
  split
  · exact absurd rfl h
  · exact absurd rfl h
  · rfl
  · rename_i hplus
    rw [afterPlus_eq_self]
    intro hhead
    obtain ⟨rest, rfl⟩ := List.head?_eq_some_iff.1 hhead
    exact hplus rest rfl

/-- A text without anything after its plus sign is empty, or a plus sign. -/
theorem readUnsigned_of_afterPlus_eq_nil (h : afterPlus cs = []) :
    readUnsigned limit cs = .error (if cs = [] then .empty else .invalidDigit) := by
  unfold afterPlus at h
  split at h
  · rw [h]
    rfl
  · rw [h]
    rfl

/-- **What comes of reading a number**, said of the text as a whole. -/
theorem readUnsigned_eq (hlimit : 0 < limit) : readUnsigned limit cs =
    if cs = [] then .error .empty
    else if limit ≤ Nat.ofDigitChars 10 (leadingDigits cs) 0 then .error .tooLarge
    else if afterPlus cs ≠ [] ∧ (afterPlus cs).all Char.isDigit = true then
      .ok (Nat.ofDigitChars 10 (afterPlus cs) 0)
    else .error .invalidDigit := by
  by_cases h : afterPlus cs = []
  · have hnone : leadingDigits cs = [] := by rw [leadingDigits, h, List.takeWhile_nil]
    have hsmall : ¬ limit ≤ Nat.ofDigitChars 10 (leadingDigits cs) 0 := by
      rw [hnone]
      exact Nat.not_le.2 hlimit
    have hbad : ¬ (afterPlus cs ≠ [] ∧ (afterPlus cs).all Char.isDigit = true) :=
      fun hdigits => hdigits.1 h
    rw [readUnsigned_of_afterPlus_eq_nil h, if_neg hsmall, if_neg hbad]
    split <;> rfl
  · have hne : cs ≠ [] := by
      rintro rfl
      exact h rfl
    rw [readUnsigned_eq_readDigits h, readDigits_eq hlimit, if_neg hne, leadingDigits]
    simp only [ne_eq, h, not_false_eq_true, true_and]

theorem IsNumeral.leadingDigits (h : IsNumeral cs n) : leadingDigits cs = afterPlus cs :=
  List.takeWhile_eq_self_iff.2 h.digits

/-- Why a text is not read as a number below the limit. -/
def DecimalError.Applies (limit : Nat) (cs : List Char) : DecimalError → Prop
  | .empty => cs = []
  | .tooLarge => limit ≤ Nat.ofDigitChars 10 (leadingDigits cs) 0
  | .invalidDigit =>
    cs ≠ [] ∧ Nat.ofDigitChars 10 (leadingDigits cs) 0 < limit ∧ ∀ n, ¬ IsNumeral cs n

/-- The text is a numeral of the number that is read, or the reason that it is
none applies. -/
def ReadsAs (limit : Nat) (cs : List Char) : Except DecimalError Nat → Prop
  | .ok n => IsNumeral cs n ∧ n < limit
  | .error reason => reason.Applies limit cs

/-- **What is read says what the text is.** -/
theorem readsAs_readUnsigned (hlimit : 0 < limit) :
    ReadsAs limit cs (readUnsigned limit cs) := by
  rw [readUnsigned_eq hlimit]
  split
  · rename_i hempty
    exact hempty
  · rename_i hne
    split
    · rename_i hlarge
      exact hlarge
    · rename_i hsmall
      rw [Nat.not_le] at hsmall
      split
      · rename_i hdigits
        have hn : IsNumeral cs (Nat.ofDigitChars 10 (afterPlus cs) 0) :=
          ⟨hdigits.1, List.all_eq_true.1 hdigits.2, rfl⟩
        rw [hn.leadingDigits] at hsmall
        exact ⟨hn, hsmall⟩
      · rename_i hbad
        exact ⟨hne, hsmall, fun n hn => hbad ⟨hn.notEmpty, List.all_eq_true.2 hn.digits⟩⟩

/-- Nothing applies to a numeral of a number below the limit. -/
theorem IsNumeral.not_applies {reason : DecimalError} (h : IsNumeral cs n) (hlt : n < limit) :
    ¬ reason.Applies limit cs := by
  cases reason with
  | empty =>
    rintro rfl
    exact h.notEmpty rfl
  | tooLarge =>
    rw [DecimalError.Applies, h.leadingDigits, h.value]
    exact Nat.not_le.2 hlt
  | invalidDigit => exact fun hbad => hbad.2.2 n h

/-- No two reasons apply to one text. -/
theorem DecimalError.Applies.eq {reason other : DecimalError} (hlimit : 0 < limit)
    (h : reason.Applies limit cs) (hother : other.Applies limit cs) : reason = other := by
  have hnil : DecimalError.empty.Applies limit cs → ¬ DecimalError.tooLarge.Applies limit cs := by
    rintro rfl
    exact Nat.not_le.2 hlimit
  cases reason with
  | empty =>
    cases other with
    | empty => rfl
    | tooLarge => exact absurd hother (hnil h)
    | invalidDigit => exact absurd h hother.1
  | tooLarge =>
    cases other with
    | empty => exact absurd h (hnil hother)
    | tooLarge => rfl
    | invalidDigit => exact absurd h (Nat.not_le.2 hother.2.1)
  | invalidDigit =>
    cases other with
    | empty => exact absurd hother h.1
    | tooLarge => exact absurd hother (Nat.not_le.2 h.2.1)
    | invalidDigit => rfl

/-- **And the text says what is read**, since only one thing can be said of it. -/
theorem readUnsigned_eq_iff {result : Except DecimalError Nat} (hlimit : 0 < limit) :
    readUnsigned limit cs = result ↔ ReadsAs limit cs result := by
  have hreads : ReadsAs limit cs (readUnsigned limit cs) := readsAs_readUnsigned hlimit
  constructor
  · rintro rfl
    exact hreads
  · intro hresult
    generalize readUnsigned limit cs = read at hreads ⊢
    cases read with
    | ok m =>
      cases result with
      | ok n => rw [← hreads.1.value, hresult.1.value]
      | error reason => exact absurd hresult (hreads.1.not_applies hreads.2)
    | error reason =>
      cases result with
      | ok n => exact absurd hreads (hresult.1.not_applies hresult.2)
      | error other => rw [hreads.eq hlimit hresult]

/-- **The digits of a number are read back.** -/
theorem readUnsigned_toString (h : n < limit) :
    readUnsigned limit (toString n).toList = .ok n :=
  (readUnsigned_eq_iff (Nat.zero_lt_of_lt h)).2 ⟨isNumeral_toString n, h⟩

theorem readSigned_toString (h : n < limit) : readSigned limit (toString n).toList = .ok n := by
  have hminus : (toString n).toList.head? ≠ some '-' := head?_toString_ne rfl
  unfold readSigned
  split
  · rename_i hdash
    exact absurd (congrArg List.head? hdash) hminus
  · rename_i hdash
    exact absurd (congrArg List.head? hdash) hminus
  · exact readUnsigned_toString h

/-! ## White space around digits -/

theorem isBlank_of_isDigit (h : c.isDigit = true) : isBlank c = false := by
  have hcodes : ∀ code ∈ blankCodes, code < 48 ∨ 57 < code := by decide
  rw [Bool.eq_false_iff, ne_eq, isBlank_iff]
  intro hblank
  have hrange := toNat_of_isDigit h
  have hother := hcodes c.toNat hblank
  omega

theorem trimmed_of_digits (h : ∀ c ∈ cs, c.isDigit = true) : Trimmed cs :=
  ⟨fun c hc => isBlank_of_isDigit (h c (List.mem_of_mem_head? hc)),
    fun c hc => isBlank_of_isDigit (h c (List.mem_of_getLast? hc))⟩

theorem trimList_toString_append {before after : String} (hbefore : isBlankText before = true)
    (hafter : isBlankText after = true) :
    trimList (before ++ toString n ++ after).toList = (toString n).toList := by
  have htrim : trim (before ++ toString n ++ after) = trim (toString n) :=
    trim_append hbefore hafter
  rw [trim, trim, String.ofList_inj] at htrim
  rw [htrim]
  exact trimList_eq_self (trimmed_of_digits fun _ => isDigit_of_mem_toString)

end Text

/-! ## The seed from outside -/

namespace Settings

open Text (IsNumeral DecimalError wordLimit trimList isBlankText)

variable {s s' : Settings} {raw : String} {cause : SettingsError}

theorem withSeed_eq_ok_iff : s.withSeed raw = .ok s' ↔
    ∃ seed, Text.readUnsigned wordLimit (trimList raw.toList) = .ok seed ∧
      s' = { s with seed := some seed } := by
  rw [withSeed]
  cases Text.readUnsigned wordLimit (trimList raw.toList) <;> simp [eq_comm]

theorem withSeed_eq_error_iff : s.withSeed raw = .error cause ↔
    ∃ reason, Text.readUnsigned wordLimit (trimList raw.toList) = .error reason ∧
      cause = .seed raw reason := by
  rw [withSeed]
  cases Text.readUnsigned wordLimit (trimList raw.toList) <;> simp [eq_comm]

/-- **The seed is read from its numerals and from nothing else.** A text gives
a seed exactly when it is a numeral of a number that fits a word, apart from
the white space at its ends; then that number is the seed, and the other
settings are as they were. Any other text is refused: as empty, when there is
nothing but white space; as too large, when the digits that it begins with are,
whatever follows them; and otherwise for something that is no digit. So every
number that fits a word is read back from its digits, with white space around
them or without. -/
theorem withSeed_reads_numerals (s : Settings) (raw : String) :
    (∀ s', s.withSeed raw = .ok s' ↔ ∃ seed, IsNumeral (trimList raw.toList) seed ∧
      seed < wordLimit ∧ s' = { s with seed := some seed }) ∧
    (∀ cause, s.withSeed raw = .error cause ↔ ∃ reason : DecimalError,
      reason.Applies wordLimit (trimList raw.toList) ∧ cause = .seed raw reason) ∧
    ∀ seed < wordLimit, ∀ before after, isBlankText before = true → isBlankText after = true →
      s.withSeed (before ++ toString seed ++ after) = .ok { s with seed := some seed } := by
  have hlimit : 0 < wordLimit := by decide
  refine ⟨fun s' => ?_, fun cause => ?_, fun seed hseed before after hbefore hafter => ?_⟩
  · rw [withSeed_eq_ok_iff]
    simp only [Text.readUnsigned_eq_iff hlimit, Text.ReadsAs, and_assoc]
  · rw [withSeed_eq_error_iff]
    simp only [Text.readUnsigned_eq_iff hlimit, Text.ReadsAs]
  · refine withSeed_eq_ok_iff.2 ⟨seed, ?_, rfl⟩
    rw [Text.trimList_toString_append hbefore hafter, Text.readUnsigned_toString hseed]

/-- Leading zeros after a plus sign between white space, the largest word, and
the same digits with one more or with a letter behind them. -/
theorem withSeed_reads_numerals_edge :
    let s : Settings := { cellWidth := 6 }
    s.withSeed "\u2003+0042\n" = .ok { cellWidth := 6, seed := some 42 } ∧
      s.withSeed "\t18446744073709551615 " =
        .ok { cellWidth := 6, seed := some 18446744073709551615 } ∧
      s.withSeed "18446744073709551616x" = .error (.seed "18446744073709551616x" .tooLarge) ∧
      s.withSeed "18446744073709551615x" =
        .error (.seed "18446744073709551615x" .invalidDigit) := by
  intro s
  have hedge : ∀ n, ¬ IsNumeral (trimList "18446744073709551615x".toList) n :=
    fun n h => absurd (h.digits 'x' (by decide +kernel)) (by decide)
  have hseed : IsNumeral (trimList "\u2003+0042\n".toList) 42 :=
    ⟨by decide +kernel, List.all_eq_true.1 (by decide +kernel), by decide +kernel⟩
  have hlarge : wordLimit ≤ Nat.ofDigitChars 10
      (Text.leadingDigits (trimList "18446744073709551616x".toList)) 0 := by decide +kernel
  exact ⟨((withSeed_reads_numerals s _).1 _).2 ⟨42, hseed, by decide, rfl⟩,
    (withSeed_reads_numerals s "").2.2 18446744073709551615 (by decide) "\t" " " (by decide)
      (by decide),
    ((withSeed_reads_numerals s _).2.1 _).2 ⟨.tooLarge, hlarge, rfl⟩,
    ((withSeed_reads_numerals s _).2.1 _).2
      ⟨.invalidDigit, ⟨by decide +kernel, by decide +kernel, hedge⟩, rfl⟩⟩

end Settings

end GoalGrid
