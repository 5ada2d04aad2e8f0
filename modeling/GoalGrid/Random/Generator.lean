/-!
# Chance — generators as streams of words

A generator hands out 32-bit words one after another. What it hands out is
fixed in advance: a tape of words, and the number of words already taken.
A tape is finite and goes on with zeros, so that every draw that throws
words away comes to an end.
-/

namespace GoalGrid

/-- A tape of words: the first `length` of them as `word` says, zeros after
them. -/
structure Tape where
  /-- The word at each place before the end. -/
  word : Nat → UInt32
  /-- The place from which on every word is zero. -/
  length : Nat

namespace Tape

/-- The word at a place of the tape. -/
def get (tape : Tape) (i : Nat) : UInt32 :=
  if i < tape.length then tape.word i else 0

/-- The tape with the listed words. -/
def ofList (words : List UInt32) : Tape :=
  ⟨fun i => words[i]?.getD 0, words.length⟩

end Tape

/-- A tape together with the number of words taken from it. -/
structure Generator where
  tape : Tape
  used : Nat := 0

namespace Generator

/-- Takes the next word. -/
def next32 (g : Generator) : Nat × Generator :=
  ((g.tape.get g.used).toNat, { g with used := g.used + 1 })

/-- Takes the next two words as one number, the low half first. -/
def next64 (g : Generator) : Nat × Generator :=
  ((g.tape.get g.used).toNat + Nat.pow 2 32 * (g.tape.get (g.used + 1)).toNat,
    { g with used := g.used + 2 })

/-- The number of words before the zeros begin. -/
def remaining (g : Generator) : Nat :=
  g.tape.length - g.used

end Generator

end GoalGrid
