import GoalGrid.Proofs.Json.Scalars
import GoalGrid.Json.Compound
/-!
# JSON — reading back lists, records and variants

A reader of a value with parts reads every text of the value when the
readers of the parts do. Of a record, `Fills` says what its members make
of the parts gathered so far. The readers have fuel enough, since every
element and every member takes a character.
-/

namespace GoalGrid.Json

variable {α ρ : Type}

/-! ## What stands after a part -/

theorem ends_nil : Ends [] := by
  simp [Ends]

theorem ends_cons {c : Char} {rest : List Char} (hdigit : c.isDigit = false) (hpoint : c ≠ '.')
    (hlower : c ≠ 'e') (hupper : c ≠ 'E') : Ends (c :: rest) := by
  intro d hd
  obtain rfl : c = d := by simpa using hd
  exact ⟨hdigit, hpoint, hlower, hupper⟩

theorem Gap.ends_append {gap rest : List Char} (hgap : Gap gap) (hrest : Ends rest) :
    Ends (gap ++ rest) := by
  cases gap with
  | nil => exact hrest
  | cons c gap =>
    have hc : isSpace c = true := hgap c List.mem_cons_self
    simp only [isSpace, Bool.or_eq_true, beq_iff_eq] at hc
    rcases hc with ((rfl | rfl) | rfl) | rfl <;>
      exact ends_cons (by decide) (by decide) (by decide) (by decide)

theorem WrittenElements.ends {vs : List Json} {tail : List Char} (h : WrittenElements vs tail)
    (rest : List Char) : Ends (tail ++ rest) := by
  cases h with
  | nil hgap =>
    rw [List.append_assoc]
    exact hgap.ends_append (ends_cons (by decide) (by decide) (by decide) (by decide))
  | cons => exact ends_cons (by decide) (by decide) (by decide) (by decide)

theorem WrittenMembers.ends {members : List (String × Json)} {tail : List Char}
    (h : WrittenMembers members tail) (rest : List Char) : Ends (tail ++ rest) := by
  cases h with
  | nil hgap =>
    rw [List.append_assoc]
    exact hgap.ends_append (ends_cons (by decide) (by decide) (by decide) (by decide))
  | cons => exact ends_cons (by decide) (by decide) (by decide) (by decide)

theorem WrittenElements.length_lt {vs : List Json} {tail : List Char}
    (h : WrittenElements vs tail) : vs.length < tail.length := by
  induction vs generalizing tail with
  | nil =>
    cases h
    simp
  | cons v vs ih =>
    cases h with
    | cons _ _ htail =>
      have := ih htail
      simp only [List.length_cons, List.length_append]
      omega

theorem WrittenMembers.length_lt {members : List (String × Json)} {tail : List Char}
    (h : WrittenMembers members tail) : members.length < tail.length := by
  induction members generalizing tail with
  | nil =>
    cases h
    simp
  | cons member members ih =>
    cases h with
    | cons _ _ _ htail =>
      have := ih htail
      simp only [List.length_cons, List.length_append]
      omega

/-! ## Lists -/

/-- An element that follows the bracket or a comma is found. -/
theorem nextElement_first {v : Json} {gap cs : List Char} (hgap : Gap gap) (hcs : Written v cs)
    (rest : List Char) : nextElement true (gap ++ (cs ++ rest)) = .ok (some (cs ++ rest)) := by
  obtain ⟨c, cs, rfl, hspace, hclose, hcomma, -⟩ := hcs.exists_cons
  rw [List.cons_append, nextElement, skipSpace_cons hgap hspace]
  split <;> simp_all

theorem nextElement_next {v : Json} {gap cs : List Char} (hgap : Gap gap) (hcs : Written v cs)
    (rest : List Char) :
    nextElement false (',' :: (gap ++ (cs ++ rest))) = .ok (some (cs ++ rest)) := by
  obtain ⟨c, cs, rfl, hspace, hclose, -, -⟩ := hcs.exists_cons
  simp only [nextElement, skipSpace_self (c := ',') rfl, Bool.false_eq_true, if_false,
    List.cons_append, skipSpace_cons hgap hspace]
  split <;> simp_all

theorem readElements_tail {read : Reader α} {write : α → Json} {xs : List α} {tail : List Char}
    {fuel : Nat} (hread : ∀ x ∈ xs, Reads read (write x) x)
    (htail : WrittenElements (xs.map write) tail) (hfuel : xs.length < fuel) (rest : List Char) :
    readElements read fuel false (tail ++ rest) = .ok (xs, rest) := by
  -- every element of a tail stands behind a comma; the first one of a list does not
  induction xs generalizing tail fuel with
  | nil =>
    obtain ⟨fuel, rfl⟩ : ∃ n, fuel = n + 1 := ⟨fuel - 1, by omega⟩
    cases htail with
    | nil hgap =>
      simp only [List.append_assoc, List.cons_append, List.nil_append, readElements, nextElement,
        closeArray, skipSpace_cons hgap (c := ']') rfl]
      rfl
  | cons x xs ih =>
    obtain ⟨fuel, rfl⟩ : ∃ n, fuel = n + 1 := ⟨fuel - 1, by omega⟩
    cases htail with
    | cons hgap hcs htail =>
      rename_i gap cs tail
      have hx := hread x List.mem_cons_self [] cs (tail ++ rest) gap_nil hcs (htail.ends rest)
      have hxs := ih (fun y hy => hread y (List.mem_cons_of_mem x hy)) htail
        (Nat.lt_of_succ_lt_succ hfuel)
      have hnext := nextElement_next hgap hcs (tail ++ rest)
      simp only [List.cons_append, List.append_assoc, List.nil_append] at hx hnext ⊢
      simp only [readElements, hnext, bind, Except.bind, hx, hxs]
      rfl

/-- **A list is read back** when its elements are. -/
theorem reads_readList {read : Reader α} {write : α → Json} {xs : List α}
    (hread : ∀ x ∈ xs, Reads read (write x) x) :
    Reads (readList read) (.array (xs.map write)) xs := by
  intro gap cs rest hgap hcs hrest
  cases xs with
  | nil =>
    cases hcs
    simp only [readList, List.cons_append, skipSpace_cons hgap (c := '[') rfl]
    rfl
  | cons x xs =>
    cases hcs with
    | elements hgap' hcs htail =>
      rename_i gap' cs tail
      have hx := hread x List.mem_cons_self [] cs (tail ++ rest) gap_nil hcs (htail.ends rest)
      -- every element takes a character at least
      have hfuel : xs.length < (gap' ++ (cs ++ (tail ++ rest))).length := by
        have := htail.length_lt
        simp only [List.length_append, List.length_map] at this ⊢
        omega
      have hxs := readElements_tail (fun y hy => hread y (List.mem_cons_of_mem x hy)) htail hfuel
        rest
      have hfirst := nextElement_first hgap' hcs (tail ++ rest)
      simp only [List.nil_append] at hx hfirst
      simp only [readList, List.cons_append, skipSpace_cons hgap (c := '[') rfl,
        List.append_assoc, readElements, hfirst, bind, Except.bind, hx, hxs]
      rfl

/-! ## Records -/

/-- Read one after the other, the members fill the parts up. -/
inductive Fills (fields : List (Field ρ)) : ρ → List (String × Json) → ρ → Prop where
  | nil (parts : ρ) : Fills fields parts [] parts
  | cons {parts parts' parts'' : ρ} {name : String} {v : Json} {members : List (String × Json)}
      {field : Field ρ} :
      fields.find? (·.name = name) = some field → field.isGiven parts = false →
        Reads (field.fill parts) v parts' → Fills fields parts' members parts'' →
          Fills fields parts ((name, v) :: members) parts''

theorem afterColon_cons (rest : List Char) : afterColon (':' :: rest) = .ok rest := rfl

theorem closeObject_append {gap : List Char} (hgap : Gap gap) (rest : List Char) :
    closeObject (gap ++ '\x7d' :: rest) = .ok rest := by
  simp only [closeObject, skipSpace_cons hgap (c := '\x7d') rfl]

/-- The name of a member is found after the brace or a comma. -/
theorem nextMember_first {gap : List Char} (hgap : Gap gap) (name : String) (rest : List Char) :
    nextMember true (gap ++ (stringText name ++ rest)) =
      .ok (some (name.toList.flatMap escapeChar ++ '"' :: rest)) := by
  simp only [stringText_append, nextMember, skipSpace_cons hgap (c := '"') rfl, if_true]

theorem nextMember_next {gap : List Char} (hgap : Gap gap) (name : String) (rest : List Char) :
    nextMember false (',' :: (gap ++ (stringText name ++ rest))) =
      .ok (some (name.toList.flatMap escapeChar ++ '"' :: rest)) := by
  simp only [nextMember, skipSpace_self (c := ',') rfl, stringText_append,
    skipSpace_cons hgap (c := '"') rfl, Bool.false_eq_true, if_false]

/-- Once the name of a member is read, its field is filled. -/
theorem readMember {fields : List (Field ρ)} {parts parts' : ρ} {name : String} {v : Json}
    {field : Field ρ} {gap cs rest : List Char}
    (hfind : fields.find? (·.name = name) = some field) (hgiven : field.isGiven parts = false)
    (hread : Reads (field.fill parts) v parts') (hgap : Gap gap) (hcs : Written v cs)
    (hrest : Ends rest) {isFirst : Bool} {text : List Char} {fuel : Nat}
    (hnext : nextMember isFirst text =
      .ok (some (name.toList.flatMap escapeChar ++ '"' :: ':' :: (gap ++ (cs ++ rest))))) :
    readMembers fields (fuel + 1) isFirst parts text =
      readMembers fields fuel false parts' rest := by
  simp only [readMembers, hnext, bind, Except.bind, readString_stringText, hfind, hgiven,
    Bool.false_eq_true, if_false, afterColon_cons, hread gap cs rest hgap hcs hrest]

/-- The members after the first one fill the parts up. -/
theorem readMembers_tail {fields : List (Field ρ)} {parts parts' : ρ}
    {members : List (String × Json)} {tail : List Char} {fuel : Nat}
    (hfills : Fills fields parts members parts') (htail : WrittenMembers members tail)
    (hfuel : members.length < fuel) (rest : List Char) :
    ∃ gap, Gap gap ∧
      readMembers fields fuel false parts (tail ++ rest) = .ok (parts', gap ++ '\x7d' :: rest) := by
  -- the reader stops in front of the brace, with the white space there not yet read
  induction hfills generalizing tail fuel with
  | nil parts =>
    obtain ⟨fuel, rfl⟩ : ∃ n, fuel = n + 1 := ⟨fuel - 1, by omega⟩
    cases htail with
    | nil hgap =>
      rename_i gap
      refine ⟨gap, hgap, ?_⟩
      simp only [List.append_assoc, List.cons_append, List.nil_append, readMembers, nextMember,
        skipSpace_cons hgap (c := '\x7d') rfl]
      rfl
  | cons hfind hgiven hread _ ih =>
    obtain ⟨fuel, rfl⟩ : ∃ n, fuel = n + 1 := ⟨fuel - 1, by omega⟩
    cases htail with
    | cons hgap hgap' hcs htail =>
      obtain ⟨gap, hgap'', hrest⟩ := ih htail (Nat.lt_of_succ_lt_succ hfuel)
      refine ⟨gap, hgap'', ?_⟩
      rw [← hrest]
      refine readMember hfind hgiven hread hgap' hcs (htail.ends rest) ?_
      simp only [List.cons_append, List.append_assoc]
      exact nextMember_next hgap _ _

/-- The members of an object fill the parts up. -/
theorem readMembers_object {fields : List (Field ρ)} {parts parts' : ρ}
    {members : List (String × Json)} {cs : List Char}
    (hfills : Fills fields parts members parts') (hcs : Written (.object members) cs)
    (rest : List Char) :
    ∃ inner gap, cs = '\x7b' :: inner ∧ Gap gap ∧
      readMembers fields ((inner ++ rest).length + 1) true parts (inner ++ rest) =
        .ok (parts', gap ++ '\x7d' :: rest) := by
  cases hcs with
  | noMembers =>
    cases hfills
    exact ⟨_, [], rfl, gap_nil, rfl⟩
  | members hgap hgap' hcs htail =>
    rename_i name v members gap gap' cs tail
    cases hfills with
    | cons hfind hgiven hread hfills =>
      have hfuel : members.length <
          ((gap ++ (stringText name ++ ':' :: (gap' ++ (cs ++ tail)))) ++ rest).length := by
        have := htail.length_lt
        simp only [List.length_append, List.length_cons]
        omega
      obtain ⟨gap'', hgap'', hrest⟩ := readMembers_tail hfills htail hfuel rest
      refine ⟨_, gap'', rfl, hgap'', ?_⟩
      rw [← hrest]
      refine readMember hfind hgiven hread hgap' hcs (htail.ends rest) ?_
      simp only [List.cons_append, List.append_assoc]
      exact nextMember_first hgap _ _

/-- The shape of a record makes `x` of the members. -/
def Shape.Makes (shape : Shape ρ α) (members : List (String × Json)) (x : α) : Prop :=
  ∃ parts, Fills shape.fields shape.start members parts ∧ shape.finish parts = .ok x

/-- **A record is read back** when its shape makes it of its members. -/
theorem Shape.Makes.reads {shape : Shape ρ α} {members : List (String × Json)} {x : α}
    (h : shape.Makes members x) : Reads (readRecord shape) (.object members) x := by
  obtain ⟨parts, hfills, hfinish⟩ := h
  intro gap cs rest hgap hcs hrest
  obtain ⟨inner, gap', rfl, hgap', hread⟩ := readMembers_object hfills hcs rest
  simp only [readRecord, List.cons_append, skipSpace_cons hgap (c := '\x7b') rfl, hread, bind,
    Except.bind, hfinish, closeObject_append hgap']
  rfl

/-! ## Variants -/

/-- **A variant without a value is read back** from its name. -/
theorem reads_unit {variants : List (Variant α)} {name : String} {x : α}
    (hfind : variants.find? (·.name = name) = some (.unit name x)) :
    Reads (readVariant variants) (.string name) x := by
  rintro gap _ rest hgap ⟨⟩ -
  simp only [stringText_append, readVariant, skipSpace_cons hgap (c := '"') rfl, bind, Except.bind,
    readString_stringText, findVariant, hfind]
  rfl

/-- **A variant with a value is read back** when its value is. -/
theorem Reads.over {variants : List (Variant α)} {name : String} {read : Reader α} {v : Json}
    {x : α} (h : Reads read v x)
    (hfind : variants.find? (·.name = name) = some (.over name read)) :
    Reads (readVariant variants) (.object [(name, v)]) x := by
  intro gap cs rest hgap hcs hrest
  cases hcs with
  | members hgap' hgap'' hcs htail =>
    rename_i gap' gap'' cs tail
    have hx := h gap'' cs (tail ++ rest) hgap'' hcs (htail.ends rest)
    cases htail with
    | nil hgap =>
      simp only [List.append_assoc, List.cons_append, List.nil_append] at hx
      simp only [List.append_assoc, List.cons_append, List.nil_append, readVariant,
        skipSpace_cons ‹Gap gap› (c := '\x7b') rfl, readName, stringText_append,
        skipSpace_cons hgap' (c := '"') rfl, bind, Except.bind, readString_stringText, findVariant,
        hfind, afterColon_cons, hx, closeObject_append hgap]
      rfl

/-! ## Whole texts -/

/-- A value that is read is read from a whole text of it. -/
theorem Reads.readAll {read : Reader α} {v : Json} {x : α} (h : Reads read v x) {cs : List Char}
    (hcs : Written v cs) : Json.readAll read (String.ofList cs) = .ok x := by
  have hread := h [] cs [] gap_nil hcs ends_nil
  rw [List.nil_append, List.append_nil] at hread
  rw [Json.readAll, String.toList_ofList, hread]
  rfl

end GoalGrid.Json
