import GoalGrid.Proofs.Json.Written
import GoalGrid.Json.Scalar
/-!
# JSON — reading back values without parts

`Reads` says that a reader finds a certain value in every text of a JSON
value, whatever stands before and after it. Here it is shown of strings,
truth values and numbers, and of values that may be absent.
-/

namespace GoalGrid.Json

variable {α : Type}

/-! ## White space -/

theorem skipSpace_append {gap cs : List Char} (hgap : Gap gap)
    (hcs : ∀ c ∈ cs.head?, isSpace c = false) : skipSpace (gap ++ cs) = cs := by
  rw [skipSpace, List.dropWhile_append_of_pos hgap]
  cases cs with
  | nil => rfl
  | cons c rest => exact List.dropWhile_cons_of_neg (by simp [hcs c rfl])

theorem skipSpace_cons {gap rest : List Char} {c : Char} (hgap : Gap gap)
    (hc : isSpace c = false) : skipSpace (gap ++ c :: rest) = c :: rest :=
  skipSpace_append hgap (by simpa using hc)

theorem skipSpace_self {rest : List Char} {c : Char} (hc : isSpace c = false) :
    skipSpace (c :: rest) = c :: rest :=
  skipSpace_cons gap_nil hc

/-! ## The digits of a number -/

theorem isDigit_of_mem_numberText {n : Nat} {c : Char} (hc : c ∈ numberText n) :
    c.isDigit = true :=
  Nat.isDigit_of_mem_toDigits (by decide) (by decide) hc

theorem numberText_ne_nil (n : Nat) : numberText n ≠ [] :=
  Nat.toDigits_ne_nil

theorem numberText_eq_append {n : Nat} (h : 10 ≤ n) :
    numberText n = numberText (n / 10) ++ numberText (n % 10) := by
  rw [numberText, Nat.toDigits_of_base_le (by decide) h, numberText, numberText,
    Nat.toDigits_of_lt_base (Nat.mod_lt n (by decide))]

theorem head?_numberText_small : ∀ n < 10, (numberText n).head? = some '0' → n = 0 := by
  decide

/-- Only zero is written with a zero in front. -/
theorem eq_zero_of_head?_numberText (n : Nat) (h : (numberText n).head? = some '0') : n = 0 := by
  induction n using Nat.strongRecOn with
  | ind n ih =>
    rcases Nat.lt_or_ge n 10 with hlt | hge
    · exact head?_numberText_small n hlt h
    · -- the first digit is the one of the number without its last digit
      rw [numberText_eq_append hge, List.head?_append,
        List.head?_eq_some_head (numberText_ne_nil _), Option.some_or,
        ← List.head?_eq_some_head] at h
      have := ih (n / 10) (by omega) h
      omega

theorem digit_ne {c : Char} (hc : c.isDigit = true) :
    isSpace c = false ∧ c ≠ '-' ∧ c ≠ ']' ∧ c ≠ ',' ∧ c ≠ 'n' := by
  refine ⟨Bool.eq_false_iff.2 ?_, ?_, ?_, ?_, ?_⟩
  · simp only [isSpace, Bool.or_eq_true, beq_iff_eq, ne_eq]
    rintro (((rfl | rfl) | rfl) | rfl) <;> exact absurd hc (by decide)
  all_goals
    rintro rfl
    exact absurd hc (by decide)

/-! ## Readers and texts -/

/-- What the first character of a text can be. -/
theorem Written.exists_cons {v : Json} {cs : List Char} (h : Written v cs) :
    ∃ c rest, cs = c :: rest ∧ isSpace c = false ∧ c ≠ ']' ∧ c ≠ ',' ∧ (c = 'n' → v = .null) := by
  cases h with
  | null => exact ⟨'n', _, rfl, by simp [isSpace]⟩
  | bool b =>
    cases b with
    | false => exact ⟨'f', _, rfl, by simp [isSpace]⟩
    | true => exact ⟨'t', _, rfl, by simp [isSpace]⟩
  | number n =>
    obtain ⟨c, rest, hcs⟩ := List.exists_cons_of_ne_nil (numberText_ne_nil n)
    obtain ⟨hspace, -, hclose, hcomma, hn⟩ :=
      digit_ne (isDigit_of_mem_numberText (hcs ▸ List.mem_cons_self))
    exact ⟨c, rest, hcs, hspace, hclose, hcomma, fun h => absurd h hn⟩
  | string s => exact ⟨'"', _, rfl, by simp [isSpace]⟩
  | noElements => exact ⟨'[', _, rfl, by simp [isSpace]⟩
  | elements => exact ⟨'[', _, rfl, by simp [isSpace]⟩
  | noMembers => exact ⟨'\x7b', _, rfl, by simp [isSpace]⟩
  | members => exact ⟨'\x7b', _, rfl, by simp [isSpace]⟩

/-- Nothing that could belong to a number stands in front. -/
def Ends (rest : List Char) : Prop :=
  ∀ c ∈ rest.head?, c.isDigit = false ∧ c ≠ '.' ∧ c ≠ 'e' ∧ c ≠ 'E'

/-- In every text of the JSON value, after white space and before a rest
that ends it, the reader finds `x`. -/
def Reads (read : Reader α) (v : Json) (x : α) : Prop :=
  ∀ gap cs rest, Gap gap → Written v cs → Ends rest → read (gap ++ (cs ++ rest)) = .ok (x, rest)

/-! ## Words -/

theorem word_append (expected rest : List Char) : word expected (expected ++ rest) = .ok rest := by
  rw [word, if_pos (List.isPrefixOf_iff_prefix.2 (List.prefix_append ..)), List.drop_left]

theorem reads_readBool (b : Bool) : Reads readBool (.bool b) b := by
  rintro gap _ rest hgap ⟨⟩ -
  cases b with
  | false =>
    show readBool (gap ++ 'f' :: ("alse".toList ++ rest)) = _
    simp only [readBool, skipSpace_cons hgap (c := 'f') rfl, word_append]
    rfl
  | true =>
    show readBool (gap ++ 't' :: ("rue".toList ++ rest)) = _
    simp only [readBool, skipSpace_cons hgap (c := 't') rfl, word_append]
    rfl

theorem reads_readOptional_null (read : Reader α) : Reads (readOptional read) .null none := by
  rintro gap _ rest hgap ⟨⟩ -
  show readOptional read (gap ++ 'n' :: ("ull".toList ++ rest)) = _
  simp only [readOptional, skipSpace_cons hgap (c := 'n') rfl, word_append]
  rfl

/-- A value that is not null is there when it may be absent. -/
theorem Reads.readOptional {read : Reader α} {v : Json} {x : α} (h : Reads read v x)
    (hv : v ≠ .null) : Reads (readOptional read) v (some x) := by
  intro gap cs rest hgap hcs hrest
  have hread := h [] cs rest gap_nil hcs hrest
  obtain ⟨c, cs, rfl, hspace, -, -, hn⟩ := hcs.exists_cons
  rw [List.cons_append] at hread ⊢
  rw [Json.readOptional, skipSpace_cons hgap hspace]
  split
  · rename_i heq
    exact absurd (hn (List.cons.inj heq).1) hv
  · rw [List.nil_append] at hread
    rw [hread]
    rfl

/-! ## Strings -/

/-- A character that needs no escape is read as it is. -/
theorem readChars_cons {c : Char} (hquote : c ≠ '"') (hback : c ≠ '\\') (hplain : 32 ≤ c.toNat)
    (rest : List Char) : readChars (c :: rest) = consRead c (readChars rest) := by
  rw [readChars.eq_def]
  split
  case h_1 heq => cases heq
  case h_2 heq => exact absurd (List.cons.inj heq).1 hquote
  case h_3 heq => exact absurd (List.cons.inj heq).1 hback
  case h_4 heq => exact absurd (List.cons.inj heq).1 hback
  case h_5 heq =>
    obtain ⟨rfl, rfl⟩ := List.cons.inj heq
    exact if_neg (by omega)

/-- A control character is read from its number. -/
theorem readChars_unicode {c : Char} (hcontrol : c.toNat < 32) (rest : List Char) :
    readChars ('\\' :: 'u' :: '0' :: '0' :: Text.hexDigit (c.toNat / 16) ::
      Text.hexDigit (c.toNat % 16) :: rest) = consRead c (readChars rest) := by
  have hhigh := Text.hexValue?_hexDigit (c.toNat / 16) (by omega)
  have hlow := Text.hexValue?_hexDigit (c.toNat % 16) (by omega)
  have hunit : hexUnit? '0' '0' (Text.hexDigit (c.toNat / 16)) (Text.hexDigit (c.toNat % 16)) =
      some c.toNat := by
    simp only [hexUnit?, hhigh, hlow, show Text.hexValue? '0' = some 0 from rfl,
      Option.bind_eq_bind, Option.bind_some]
    exact congrArg some (by omega)
  simp only [readChars, hunit]
  rw [if_neg (by simp [isHighUnit]; omega), if_neg (by simp [isLowUnit]; omega),
    Char.ofNat_toNat]

/-- A character is read back from the way it is written in a string. -/
theorem readChars_escapeChar (c : Char) (rest : List Char) :
    readChars (escapeChar c ++ rest) = consRead c (readChars rest) := by
  unfold escapeChar
  split
  case h_8 hquote hback _ _ _ _ _ =>
    -- a control character is written with its number, and any other one as it is
    split
    · exact readChars_unicode (by assumption) rest
    · exact readChars_cons hquote hback (by omega) rest
  all_goals rfl

theorem readChars_flatMap_escapeChar (cs rest : List Char) :
    readChars (cs.flatMap escapeChar ++ '"' :: rest) = .ok (cs, rest) := by
  induction cs with
  | nil => rfl
  | cons c cs ih => rw [List.flatMap_cons, List.append_assoc, readChars_escapeChar, ih, consRead]

/-- **Every string is read back.** -/
theorem readString_stringText (s : String) (rest : List Char) :
    readString (s.toList.flatMap escapeChar ++ '"' :: rest) = .ok (s, rest) := by
  rw [readString, readChars_flatMap_escapeChar]
  simp [bind, Except.bind, pure, Except.pure]

theorem stringText_append (s : String) (rest : List Char) :
    stringText s ++ rest = '"' :: (s.toList.flatMap escapeChar ++ '"' :: rest) := by
  simp [stringText]

theorem reads_readText (s : String) : Reads readText (.string s) s := by
  rintro gap _ rest hgap ⟨⟩ -
  rw [stringText_append, readText, skipSpace_cons hgap rfl]
  exact readString_stringText s rest

/-! ## Numbers -/

theorem takeDigits_append {digits rest : List Char} (hdigits : ∀ c ∈ digits, c.isDigit = true)
    (hrest : Ends rest) : takeDigits (digits ++ rest) = (digits, rest) := by
  rw [takeDigits, List.takeWhile_append_of_pos hdigits, List.dropWhile_append_of_pos hdigits]
  cases rest with
  | nil => simp
  | cons c rest => simp [(hrest c rfl).1]

theorem wholeDigits_numberText {n : Nat} {rest : List Char} (hrest : Ends rest) :
    wholeDigits (numberText n ++ rest) = .ok (numberText n, rest) := by
  rw [wholeDigits, someDigits, takeDigits_append (fun _ => isDigit_of_mem_numberText) hrest]
  obtain ⟨c, cs, hcs⟩ := List.exists_cons_of_ne_nil (numberText_ne_nil n)
  rw [hcs]
  split
  · -- a leading zero belongs to zero, whose text has one digit
    rename_i heq
    simp only [Except.ok.injEq, Prod.mk.injEq, List.cons.injEq] at heq
    obtain ⟨⟨rfl, rfl⟩, -⟩ := heq
    have hzero : n = 0 := eq_zero_of_head?_numberText n (by rw [hcs]; rfl)
    rw [hzero] at hcs
    simp [numberText] at hcs
  · rfl

theorem fractionDigits_of_ends {rest : List Char} (hrest : Ends rest) :
    fractionDigits rest = .ok (none, rest) := by
  unfold fractionDigits
  split
  · exact absurd rfl (hrest '.' rfl).2.1
  · rfl

theorem exponentDigits_of_ends {rest : List Char} (hrest : Ends rest) :
    exponentDigits rest = .ok (none, rest) := by
  cases rest with
  | nil => rfl
  | cons c rest =>
    obtain ⟨-, -, hlower, hupper⟩ := hrest c rfl
    simp [exponentDigits, hlower, hupper]

theorem hexValue?_of_isDigit {c : Char} (hc : c.isDigit = true) :
    Text.hexValue? c = some (c.toNat - '0'.toNat) := by
  have hrange : '0' ≤ c ∧ c ≤ '9' := by simpa [Char.isDigit, Char.le_def] using hc
  rw [Text.hexValue?, if_pos hrange]

theorem digitsValue_of_isDigit {cs : List Char} (hcs : ∀ c ∈ cs, c.isDigit = true) :
    Text.digitsValue 10 cs = Nat.ofDigitChars 10 cs 0 := by
  rw [Text.digitsValue, Nat.ofDigitChars_eq_foldl]
  refine List.foldl_rel rfl fun c hc m n hmn => ?_
  rw [hexValue?_of_isDigit (hcs c hc), Option.getD_some, hmn, Nat.mul_comm]

theorem digitsValue_numberText (n : Nat) : Text.digitsValue 10 (numberText n) = n := by
  rw [digitsValue_of_isDigit fun _ => isDigit_of_mem_numberText]
  exact Nat.ofDigitChars_ten_toDigits

/-- **A number that fits a word is read back.** -/
theorem readNumber_numberText {n : Nat} (hn : n < Text.wordLimit) {rest : List Char}
    (hrest : Ends rest) : readNumber (numberText n ++ rest) = .ok (.natural n, rest) := by
  have hminus : ∀ cs, numberText n ++ rest ≠ '-' :: cs := by
    intro cs heq
    obtain ⟨c, digits, hcs⟩ := List.exists_cons_of_ne_nil (numberText_ne_nil n)
    rw [hcs, List.cons_append] at heq
    have hc : c.isDigit = true := isDigit_of_mem_numberText (hcs ▸ List.mem_cons_self)
    exact (digit_ne hc).2.1 (List.cons.inj heq).1
  have hnumeral : readNumeral (numberText n ++ rest) =
      .ok ({ minus := false, whole := numberText n, fraction := [], exponentMinus := false,
             exponent := [], isWhole := true }, rest) := by
    unfold readNumeral
    split
    rename_i heq
    split at heq
    · exact absurd ‹_› (hminus _)
    · obtain ⟨rfl, rfl⟩ := Prod.mk.inj heq
      rw [wholeDigits_numberText hrest]
      simp only [bind, Except.bind, fractionDigits_of_ends hrest, exponentDigits_of_ends hrest]
      rfl
  rw [readNumber, hnumeral]
  simp [bind, Except.bind, Numeral.number, digitsValue_numberText, hn, pure, Except.pure]

theorem reads_readBelow {limit n : Nat} (hlimit : limit ≤ Text.wordLimit) (hn : n < limit) :
    Reads (readBelow limit) (.number n) n := by
  rintro gap _ rest hgap ⟨⟩ hrest
  have hread := readNumber_numberText (Nat.lt_of_lt_of_le hn hlimit) hrest
  obtain ⟨c, cs, hcs⟩ := List.exists_cons_of_ne_nil (numberText_ne_nil n)
  have hc : c.isDigit = true := isDigit_of_mem_numberText (hcs ▸ List.mem_cons_self)
  rw [hcs, List.cons_append] at hread ⊢
  rw [readBelow, skipSpace_cons hgap (digit_ne hc).1]
  simp only [hc, or_true, if_true, hread, bind, Except.bind, hn]
  rfl

end GoalGrid.Json
