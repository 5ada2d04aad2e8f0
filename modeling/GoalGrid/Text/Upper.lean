import GoalGrid.Text.CaseTable
/-!
# Text — uppercase

The full uppercase form of a text: every character is replaced by its
image in the Unicode table, which may be several characters long, without
regard to its neighbours or to a language.
-/

namespace GoalGrid.Text

namespace CaseRun

/-- Whether the run maps this code point. -/
def covers (run : CaseRun) (code : Nat) : Bool :=
  run.first ≤ code && code ≤ run.last && (code - run.first) % run.step == 0

/-- The image of a code point that the run maps. -/
def apply (run : CaseRun) (code : Nat) : Nat :=
  run.image + (code - run.first)

end CaseRun

/-- The uppercase form of one code point. -/
def upperCode (code : Nat) : List Nat :=
  match caseExpansions.lookup code with
  | some images => images
  | none =>
    match caseRuns.find? (·.covers code) with
    | some run => [run.apply code]
    | none => [code]

/-- The uppercase form of one character. -/
def upperChar (c : Char) : List Char :=
  (upperCode c.toNat).map Char.ofNat

/-- The uppercase form of a text. -/
def upper (s : String) : String :=
  String.ofList (s.toList.flatMap upperChar)

end GoalGrid.Text
