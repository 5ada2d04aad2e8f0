import GoalGrid.Json.Value
import GoalGrid.Json.Lexical
/-!
# JSON — texts of a value

A value has many texts, which differ in the white space between their
parts. `Written` allows white space in every place where the two ways of
writing a value put some, and both ways give such a text
(`written_compactText`, `written_prettyText`). So what is read from every
text of a value is read from both of these.
-/

namespace GoalGrid.Json

/-- White space between the parts of a text. -/
def Gap (cs : List Char) : Prop :=
  ∀ c ∈ cs, isSpace c = true

theorem gap_nil : Gap [] := by
  simp [Gap]

theorem gap_space : Gap [' '] := by
  simp [Gap, isSpace]

theorem gap_lineBreak (level : Nat) : Gap (lineBreak level) := by
  intro c hc
  rcases List.mem_cons.1 hc with rfl | hc
  · rfl
  · rw [List.eq_of_mem_replicate hc]
    rfl

mutual

/-- The characters are a text of the value. -/
inductive Written : Json → List Char → Prop where
  | null : Written .null "null".toList
  | bool (b : Bool) : Written (.bool b) (boolText b)
  | number (n : Nat) : Written (.number n) (numberText n)
  | string (s : String) : Written (.string s) (stringText s)
  | noElements : Written (.array []) ['[', ']']
  | elements {v : Json} {vs : List Json} {gap cs tail : List Char} :
      Gap gap → Written v cs → WrittenElements vs tail →
        Written (.array (v :: vs)) ('[' :: (gap ++ (cs ++ tail)))
  | noMembers : Written (.object []) ['\x7b', '\x7d']
  | members {name : String} {v : Json} {vs : List (String × Json)}
      {gap gap' cs tail : List Char} :
      Gap gap → Gap gap' → Written v cs → WrittenMembers vs tail →
        Written (.object ((name, v) :: vs))
          ('\x7b' :: (gap ++ (stringText name ++ ':' :: (gap' ++ (cs ++ tail)))))

/-- The characters go on with these elements, each after a comma, and close
the array. -/
inductive WrittenElements : List Json → List Char → Prop where
  | nil {gap : List Char} : Gap gap → WrittenElements [] (gap ++ [']'])
  | cons {v : Json} {vs : List Json} {gap cs tail : List Char} :
      Gap gap → Written v cs → WrittenElements vs tail →
        WrittenElements (v :: vs) (',' :: (gap ++ (cs ++ tail)))

/-- The characters go on with these members, each after a comma, and close
the object. -/
inductive WrittenMembers : List (String × Json) → List Char → Prop where
  | nil {gap : List Char} : Gap gap → WrittenMembers [] (gap ++ ['\x7d'])
  | cons {name : String} {v : Json} {vs : List (String × Json)}
      {gap gap' cs tail : List Char} :
      Gap gap → Gap gap' → Written v cs → WrittenMembers vs tail →
        WrittenMembers ((name, v) :: vs)
          (',' :: (gap ++ (stringText name ++ ':' :: (gap' ++ (cs ++ tail)))))

end

/-! ## Compact text -/

/-- The elements after the first one, and the end of the array. -/
def compactTail : List Json → List Char
  | [] => [']']
  | v :: vs => ',' :: (v.compactText ++ compactTail vs)

theorem compactElements_append (v : Json) (vs : List Json) :
    compactElements (v :: vs) ++ [']'] = v.compactText ++ compactTail vs := by
  induction vs generalizing v with
  | nil => rw [compactElements, compactTail]
  | cons w vs ih =>
    -- the second element is the first one of what the hypothesis is about
    rw [compactElements, compactTail, ← ih w]
    · simp
    · simp

/-- The members after the first one, and the end of the object. -/
def compactMembersTail : List (String × Json) → List Char
  | [] => ['\x7d']
  | (name, v) :: vs => ',' :: (stringText name ++ ':' :: (v.compactText ++ compactMembersTail vs))

theorem compactMembers_append (name : String) (v : Json) (vs : List (String × Json)) :
    compactMembers ((name, v) :: vs) ++ ['\x7d'] =
      stringText name ++ ':' :: (v.compactText ++ compactMembersTail vs) := by
  induction vs generalizing name v with
  | nil => simp [compactMembers, compactMembersTail]
  | cons member vs ih =>
    obtain ⟨name', w⟩ := member
    rw [compactMembers, compactMembersTail, ← ih name' w]
    · simp
    · simp

mutual

/-- **The compact text is a text of the value.** -/
theorem written_compactText : ∀ v : Json, Written v v.compactText
  | .null => .null
  | .bool b => .bool b
  | .number n => .number n
  | .string s => .string s
  | .array [] => .noElements
  | .array (v :: vs) => by
    rw [compactText, List.cons_append, compactElements_append]
    -- without white space the text reduces to the one of the constructor
    have h := Written.elements gap_nil (written_compactText v) (written_compactTail vs)
    exact h
  | .object [] => .noMembers
  | .object ((name, v) :: vs) => by
    rw [compactText, List.cons_append, compactMembers_append]
    have h := @Written.members name v vs _ _ _ _ gap_nil gap_nil (written_compactText v)
      (written_compactMembersTail vs)
    exact h

theorem written_compactTail : ∀ vs : List Json, WrittenElements vs (compactTail vs)
  | [] => .nil gap_nil
  | v :: vs => by
    have h := WrittenElements.cons gap_nil (written_compactText v) (written_compactTail vs)
    exact h

theorem written_compactMembersTail :
    ∀ vs : List (String × Json), WrittenMembers vs (compactMembersTail vs)
  | [] => .nil gap_nil
  | (name, v) :: vs => by
    have h := @WrittenMembers.cons name v vs _ _ _ _ gap_nil gap_nil (written_compactText v)
      (written_compactMembersTail vs)
    exact h

end

/-! ## Pretty text -/

/-- The elements after the first one, each on a line of the next level, and
the end of the array on a line of this one. -/
def prettyTail (level : Nat) : List Json → List Char
  | [] => lineBreak level ++ [']']
  | v :: vs => ',' :: (lineBreak (level + 1) ++ (v.prettyText (level + 1) ++ prettyTail level vs))

theorem prettyElements_append (level : Nat) (v : Json) (vs : List Json) :
    prettyElements (level + 1) (v :: vs) ++ (lineBreak level ++ [']']) =
      lineBreak (level + 1) ++ (v.prettyText (level + 1) ++ prettyTail level vs) := by
  induction vs generalizing v with
  | nil => rw [prettyElements, prettyTail, List.append_assoc]
  | cons w vs ih =>
    rw [prettyElements, prettyTail, ← ih w]
    · simp
    · simp

/-- The members after the first one, each on a line of the next level, and
the end of the object on a line of this one. -/
def prettyMembersTail (level : Nat) : List (String × Json) → List Char
  | [] => lineBreak level ++ ['\x7d']
  | (name, v) :: vs =>
    ',' :: (lineBreak (level + 1) ++ (stringText name ++ ':' ::
      ([' '] ++ (v.prettyText (level + 1) ++ prettyMembersTail level vs))))

theorem prettyMembers_append (level : Nat) (name : String) (v : Json)
    (vs : List (String × Json)) :
    prettyMembers (level + 1) ((name, v) :: vs) ++ (lineBreak level ++ ['\x7d']) =
      lineBreak (level + 1) ++ (stringText name ++ ':' ::
        ([' '] ++ (v.prettyText (level + 1) ++ prettyMembersTail level vs))) := by
  induction vs generalizing name v with
  | nil =>
    rw [prettyMembers, prettyMembersTail]
    simp
  | cons member vs ih =>
    obtain ⟨name', w⟩ := member
    rw [prettyMembers, prettyMembersTail, ← ih name' w]
    · simp
    · simp

mutual

/-- **The pretty text is a text of the value**, on whichever level it
starts. -/
theorem written_prettyText : ∀ (level : Nat) (v : Json), Written v (v.prettyText level)
  | _, .null => .null
  | _, .bool b => .bool b
  | _, .number n => .number n
  | _, .string s => .string s
  | _, .array [] => .noElements
  | level, .array (v :: vs) => by
    rw [prettyText, List.cons_append, List.cons_append, List.append_assoc,
      prettyElements_append]
    · exact .elements (gap_lineBreak _) (written_prettyText _ v) (written_prettyTail level vs)
    · simp
  | _, .object [] => .noMembers
  | level, .object ((name, v) :: vs) => by
    rw [prettyText, List.cons_append, List.cons_append, List.append_assoc,
      prettyMembers_append]
    · exact .members (gap_lineBreak _) gap_space (written_prettyText _ v)
        (written_prettyMembersTail level vs)
    · simp

theorem written_prettyTail :
    ∀ (level : Nat) (vs : List Json), WrittenElements vs (prettyTail level vs)
  | level, [] => .nil (gap_lineBreak level)
  | level, v :: vs => .cons (gap_lineBreak _) (written_prettyText _ v) (written_prettyTail level vs)

theorem written_prettyMembersTail :
    ∀ (level : Nat) (vs : List (String × Json)), WrittenMembers vs (prettyMembersTail level vs)
  | level, [] => .nil (gap_lineBreak level)
  | level, (_, v) :: vs => .cons (gap_lineBreak _) gap_space (written_prettyText _ v)
      (written_prettyMembersTail level vs)

end

end GoalGrid.Json
