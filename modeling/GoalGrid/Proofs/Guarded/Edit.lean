import GoalGrid.Proofs.Draws
import GoalGrid.Proofs.Yields
/-!
# Guarded edits — a third way to end

A guarded edit looks before it reads or writes a place of a list, and before
it draws from a range: where the place is not there, or the range is empty, it
comes to a fault, which is neither a result nor a refusal and after which
nothing follows. A guarded edit that runs as an edit (`Guarded.RunsAs`) comes
with every generator to the end that the edit comes to, and so to no fault.
Guarded edits in a row run as edits in a row (`RunsAs.bind`), where only what
the first of them can yield has to be looked at.
-/

namespace GoalGrid

/-- Why a guarded edit comes to a fault. -/
inductive Fault where
  /-- A list of this length has no such place. -/
  | noPlace (place length : Nat)
  /-- There is no number to draw. -/
  | emptyRange
deriving DecidableEq, Repr

/-- An edit that can also come to a fault. -/
abbrev Guarded (α : Type) : Type :=
  ExceptT CardError (StateT Generator (Except Fault)) α

namespace Guarded

variable {α β : Type} {x : Guarded α} {e : Edit α} {f : α → Guarded β} {k : α → Edit β}
variable {cause : CardError} {xs : List α} {a b : α} {i n : Nat}

/-- The fault, or else the outcome and the generator after it. -/
def outcome (x : Guarded α) (g : Generator) : Except Fault (Except CardError α × Generator) :=
  (ExceptT.run x).run g

/-- A fault. -/
def fail (fault : Fault) : Guarded α :=
  ExceptT.mk fun _ => .error fault

/-- An edit that needs no guard. -/
def ofEdit (e : Edit α) : Guarded α :=
  ExceptT.mk fun g => .ok (e.outcome g)

instance : MonadLift Edit Guarded := ⟨ofEdit⟩

/-- The entry at a place. -/
def entryAt (xs : List α) (i : Nat) : Guarded α :=
  match xs[i]? with
  | some x => pure x
  | none => fail (.noPlace i xs.length)

/-- The list with another entry at a place. -/
def setAt (xs : List α) (i : Nat) (x : α) : Guarded (List α) :=
  if i < xs.length then pure (xs.set i x) else fail (.noPlace i xs.length)

/-- The entry at a place, and the list without it: the gap is filled with the
last entry. -/
def takeAt (xs : List α) (i : Nat) : Guarded (α × List α) :=
  match xs[i]? with
  | some x => pure (x, Random.swapRemove xs i)
  | none => fail (.noPlace i xs.length)

/-- A number below a bound. -/
def drawBelow (bound : Nat) : Guarded Nat :=
  if bound = 0 then fail .emptyRange else Edit.ofDraw (·.draw .bits64 bound)

/-! ## Where the guards are passed -/

theorem entryAt_eq (h : xs[i]? = some a) : entryAt xs i = pure a := by
  rw [entryAt, h]

theorem setAt_eq (h : i < xs.length) : setAt xs i a = pure (xs.set i a) :=
  if_pos h

theorem takeAt_eq (h : i < xs.length) : takeAt xs i = pure (xs[i], Random.swapRemove xs i) := by
  rw [takeAt, List.getElem?_eq_getElem h]

theorem mapM_eq {f : α → Guarded β} {k : α → β} (h : ∀ a ∈ xs, f a = pure (k a)) :
    xs.mapM f = pure (xs.map k) := by
  induction xs with
  | nil => rfl
  | cons a xs ih =>
    rw [List.mapM_cons, h a List.mem_cons_self, pure_bind,
      ih fun b hb => h b (List.mem_cons_of_mem a hb), pure_bind, List.map_cons]

theorem allM_eq {p : α → Guarded Bool} {q : α → Bool} (h : ∀ a ∈ xs, p a = pure (q a)) :
    xs.allM p = pure (xs.all q) := by
  induction xs with
  | nil => rfl
  | cons a xs ih =>
    rw [List.allM, h a List.mem_cons_self, pure_bind, List.all_cons]
    cases q a with
    | true => exact ih fun b hb => h b (List.mem_cons_of_mem a hb)
    | false => rfl

/-! ## Running as an edit -/

/-- A guarded edit after a guarded edit: nothing follows a fault or a refusal. -/
theorem outcome_bind (x : Guarded α) (f : α → Guarded β) (g : Generator) :
    outcome (x >>= f) g =
      match outcome x g with
      | .ok (.ok a, g') => outcome (f a) g'
      | .ok (.error cause, g') => .ok (.error cause, g')
      | .error fault => .error fault := by
  show (ExceptT.run (x >>= f)).run g = _
  simp only [ExceptT.run_bind, StateT.run_bind, outcome]
  rcases (ExceptT.run x).run g with fault | ⟨cause | a, g'⟩
  · rfl
  · rfl
  · rfl

/-- With every generator the guarded edit comes to the end that the edit comes
to, and to no fault. -/
def RunsAs (x : Guarded α) (e : Edit α) : Prop :=
  ∀ g, x.outcome g = .ok (e.outcome g)

theorem runsAs_ofEdit : (ofEdit e).RunsAs e := fun _ => rfl

theorem runsAs_pure : (pure a : Guarded α).RunsAs (pure a) := fun _ => rfl

theorem runsAs_throw : (throw cause : Guarded α).RunsAs (throw cause) := fun _ => rfl

/-- So it gives the result of the edit, or is refused for the same cause. -/
theorem RunsAs.exists_outcome (h : x.RunsAs e) {g : Generator} {result : Except CardError α}
    (he : (e.outcome g).1 = result) : ∃ rest, x.outcome g = .ok (result, rest) :=
  ⟨(e.outcome g).2, by rw [h g, ← he]⟩

/-- **Guarded edits in a row** run as edits in a row. -/
theorem RunsAs.bind (h : x.RunsAs e) (hf : ∀ a, e.Yields a → (f a).RunsAs (k a)) :
    (x >>= f).RunsAs (e >>= k) := by
  intro g
  rw [outcome_bind, h g, Edit.outcome_bind]
  rcases he : e.outcome g with ⟨cause | a, g'⟩
  · rfl
  · exact hf a ⟨g, by rw [he]⟩ g'

/-- A refusal in front runs as the same refusal. -/
theorem RunsAs.guard {c : Prop} [Decidable c] {f : PUnit → Guarded α} {k : PUnit → Edit α}
    (h : ¬ c → (f ⟨⟩).RunsAs (k ⟨⟩)) :
    (if c then throw cause >>= f else f ⟨⟩).RunsAs
      (if c then throw cause >>= k else k ⟨⟩) := by
  split
  · exact runsAs_throw.bind fun _ hthrow => absurd hthrow Edit.not_yields_throw
  · exact h (by assumption)

end Guarded

end GoalGrid
