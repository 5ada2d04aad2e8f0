import GoalGrid.Json.Compound
import GoalGrid.Proofs.Checks
/-!
# JSON — what a reader can give

A reader gives a property when whatever it reads, of whatever text, has the
property (`Gives`). A reader of a value with parts gives what the readers of
the parts give it. Of a record, an invariant of the parts gathered so far is
kept by every field in whatever order the fields come (`gives_readRecord`),
and what the parts make at the end is read off the invariant.
-/

namespace GoalGrid.Json

variable {α β ρ : Type} {read : Reader α} {P : α → Prop} {Q : β → Prop}

/-- Whatever the reader reads has the property. -/
def Gives (read : Reader α) (P : α → Prop) : Prop :=
  ∀ cs x rest, read cs = .ok (x, rest) → P x

theorem gives_of_forall (h : ∀ x, P x) : Gives read P :=
  fun _ x _ _ => h x

/-- What is read can be put into another value. -/
theorem Gives.put (h : Gives read P) {put : α → β} (hput : ∀ x, P x → Q (put x)) :
    Gives (fun cs => do let (x, rest) ← read cs; return (put x, rest)) Q := by
  intro cs y rest hread
  obtain ⟨⟨x, rest'⟩, hx, hy⟩ := bind_eq_ok_iff.1 hread
  obtain ⟨rfl, -⟩ := Prod.mk.inj (return_eq_ok_iff.1 hy)
  exact hput x (h cs x rest' hx)

/-! ## Values without parts -/

/-- A value of the wrong kind is never read. -/
theorem wrongKind_ne_ok {cs : List Char} {x : α} : wrongKind cs ≠ .ok x := by
  have hrefused : ∀ {γ : Type} {y : Except Error γ},
      (do let _ ← y; Except.error (.data .invalidType)) ≠ Except.ok x := by
    intro γ y h
    obtain ⟨_, -, h⟩ := bind_eq_ok_iff.1 h
    cases h
  rw [wrongKind.eq_def]
  dsimp only
  split
  · exact hrefused
  · exact hrefused
  · exact hrefused
  · exact hrefused
  · simp
  · simp
  · split
    · exact hrefused
    · simp
  · simp

/-- **A number that is read is below the limit.** -/
theorem gives_readBelow (limit : Nat) : Gives (readBelow limit) (· < limit) := by
  intro cs n rest h
  rw [readBelow] at h
  split at h
  · split at h
    · obtain ⟨⟨number, rest'⟩, -, h⟩ := bind_eq_ok_iff.1 h
      cases number with
      | natural m =>
        dsimp only at h
        split at h
        · obtain ⟨rfl, -⟩ := Prod.mk.inj (return_eq_ok_iff.1 h)
          assumption
        · cases h
      | negative => cases h
      | other => cases h
    · exact absurd h wrongKind_ne_ok
  · exact absurd h wrongKind_ne_ok

theorem Gives.readOptional (h : Gives read P) :
    Gives (readOptional read) fun x => ∀ y ∈ x, P y := by
  intro cs x rest hread
  rw [Json.readOptional] at hread
  split at hread
  · obtain ⟨_, -, hread⟩ := bind_eq_ok_iff.1 hread
    obtain ⟨rfl, -⟩ := Prod.mk.inj (return_eq_ok_iff.1 hread)
    exact nofun
  · obtain ⟨⟨y, rest'⟩, hy, hread⟩ := bind_eq_ok_iff.1 hread
    obtain ⟨rfl, -⟩ := Prod.mk.inj (return_eq_ok_iff.1 hread)
    intro z hz
    obtain rfl := Option.mem_some.1 hz
    exact h _ y rest' hy

/-! ## Lists -/

theorem Gives.readElements (h : Gives read P) (fuel : Nat) (isFirst : Bool) :
    Gives (readElements read fuel isFirst) fun xs => ∀ x ∈ xs, P x := by
  induction fuel generalizing isFirst with
  | zero => exact nofun
  | succ fuel ih =>
    intro cs xs rest hread
    rw [Json.readElements] at hread
    obtain ⟨next, -, hread⟩ := bind_eq_ok_iff.1 hread
    cases next with
    | none =>
      obtain ⟨_, -, hread⟩ := bind_eq_ok_iff.1 hread
      obtain ⟨rfl, -⟩ := Prod.mk.inj (return_eq_ok_iff.1 hread)
      exact nofun
    | some cs' =>
      obtain ⟨⟨x, rest'⟩, hx, hread⟩ := bind_eq_ok_iff.1 hread
      obtain ⟨⟨xs', rest''⟩, hxs, hread⟩ := bind_eq_ok_iff.1 hread
      obtain ⟨rfl, -⟩ := Prod.mk.inj (return_eq_ok_iff.1 hread)
      exact List.forall_mem_cons.2 ⟨h cs' x rest' hx, ih false rest' xs' rest'' hxs⟩

theorem Gives.readList (h : Gives read P) : Gives (readList read) fun xs => ∀ x ∈ xs, P x := by
  intro cs xs rest hread
  rw [Json.readList] at hread
  split at hread
  · exact h.readElements _ true _ xs rest hread
  · exact absurd hread wrongKind_ne_ok

/-! ## Records -/

variable {fields : List (Field ρ)} {I : ρ → Prop}

/-- The members of an object keep the invariant, those of other names too. -/
theorem gives_readMembers (hfill : ∀ field ∈ fields, ∀ parts, I parts → Gives (field.fill parts) I)
    (fuel : Nat) (isFirst : Bool) {parts : ρ} (hparts : I parts) :
    Gives (readMembers fields fuel isFirst parts) I := by
  induction fuel generalizing isFirst parts with
  | zero => exact nofun
  | succ fuel ih =>
    intro cs made rest hread
    rw [readMembers] at hread
    obtain ⟨next, -, hread⟩ := bind_eq_ok_iff.1 hread
    cases next with
    | none =>
      obtain ⟨rfl, -⟩ := Prod.mk.inj (return_eq_ok_iff.1 hread)
      exact hparts
    | some cs' =>
      obtain ⟨⟨name, rest₁⟩, -, hread⟩ := bind_eq_ok_iff.1 hread
      dsimp only at hread
      split at hread
      · rename_i field hfield
        split at hread
        · obtain ⟨_, hthrow, -⟩ := bind_eq_ok_iff.1 hread
          cases hthrow
        · obtain ⟨rest₂, -, hread⟩ := bind_eq_ok_iff.1 hread
          obtain ⟨⟨parts', rest₃⟩, hparts', hread⟩ := bind_eq_ok_iff.1 hread
          have hmem : field ∈ fields := List.mem_of_find?_eq_some hfield
          have hparts' := hfill field hmem parts hparts rest₂ parts' rest₃ hparts'
          exact ih false hparts' rest₃ made rest hread
      · obtain ⟨rest₂, -, hread⟩ := bind_eq_ok_iff.1 hread
        obtain ⟨rest₃, -, hread⟩ := bind_eq_ok_iff.1 hread
        exact ih false hparts rest₃ made rest hread

theorem gives_readPlaces (hfill : ∀ field ∈ fields, ∀ parts, I parts → Gives (field.fill parts) I)
    (count : Nat) {parts : ρ} (hparts : I parts) : Gives (readPlaces count fields parts) I := by
  induction fields generalizing count parts with
  | nil =>
    intro cs made rest hread
    obtain ⟨rfl, -⟩ := Prod.mk.inj (Except.ok.inj hread)
    exact hparts
  | cons field fields ih =>
    rw [List.forall_mem_cons] at hfill
    intro cs made rest hread
    rw [readPlaces] at hread
    obtain ⟨next, -, hread⟩ := bind_eq_ok_iff.1 hread
    cases next with
    | some cs' =>
      obtain ⟨⟨parts', rest'⟩, hparts', hread⟩ := bind_eq_ok_iff.1 hread
      have hparts' := hfill.1 parts hparts cs' parts' rest' hparts'
      exact ih hfill.2 (count + 1) hparts' rest' made rest hread
    | none =>
      dsimp only at hread
      split at hread
      · exact ih hfill.2 (count + 1) hparts cs made rest hread
      · cases hread

/-- **A record has what its parts make of an invariant** that holds at the
start and that every field keeps. -/
theorem gives_readRecord {shape : Shape ρ α} (hstart : I shape.start)
    (hfill : ∀ field ∈ shape.fields, ∀ parts, I parts → Gives (field.fill parts) I)
    (hfinish : ∀ parts x, I parts → shape.finish parts = .ok x → P x) :
    Gives (readRecord shape) P := by
  intro cs x rest hread
  rw [readRecord] at hread
  split at hread
  · obtain ⟨⟨parts, rest₁⟩, hparts, hread⟩ := bind_eq_ok_iff.1 hread
    obtain ⟨rest₂, -, hread⟩ := bind_eq_ok_iff.1 hread
    obtain ⟨made, hmade, hread⟩ := bind_eq_ok_iff.1 hread
    obtain ⟨rfl, -⟩ := Prod.mk.inj (return_eq_ok_iff.1 hread)
    exact hfinish parts x (gives_readPlaces hfill 0 hstart _ parts rest₁ hparts) hmade
  · obtain ⟨⟨parts, rest₁⟩, hparts, hread⟩ := bind_eq_ok_iff.1 hread
    obtain ⟨made, hmade, hread⟩ := bind_eq_ok_iff.1 hread
    obtain ⟨rest₂, -, hread⟩ := bind_eq_ok_iff.1 hread
    obtain ⟨rfl, -⟩ := Prod.mk.inj (return_eq_ok_iff.1 hread)
    exact hfinish parts x (gives_readMembers hfill _ true hstart _ parts rest₁ hparts) hmade
  · exact absurd hread wrongKind_ne_ok

/-! ## Variants -/

/-- The variant stands for values with the property only. -/
def Variant.Gives (P : α → Prop) : Variant α → Prop
  | .unit _ x => P x
  | .over _ read => Json.Gives read P

theorem gives_readVariant {variants : List (Variant α)}
    (h : ∀ variant ∈ variants, variant.Gives P) : Gives (readVariant variants) P := by
  have hfound : ∀ {name variant}, findVariant variants name = .ok variant → variant.Gives P := by
    intro name variant hfind
    rw [findVariant] at hfind
    split at hfind
    · rename_i found hmem
      obtain rfl := Except.ok.inj hfind
      exact h found (List.mem_of_find?_eq_some hmem)
    · cases hfind
  intro cs x rest hread
  rw [readVariant] at hread
  split at hread
  · obtain ⟨⟨name, rest₁⟩, -, hread⟩ := bind_eq_ok_iff.1 hread
    obtain ⟨variant, hvariant, hread⟩ := bind_eq_ok_iff.1 hread
    rcases variant with ⟨name, value⟩ | ⟨name, read⟩
    · obtain ⟨rfl, -⟩ := Prod.mk.inj (return_eq_ok_iff.1 hread)
      exact hfound hvariant
    · cases hread
  · obtain ⟨⟨name, rest₁⟩, -, hread⟩ := bind_eq_ok_iff.1 hread
    obtain ⟨variant, hvariant, hread⟩ := bind_eq_ok_iff.1 hread
    obtain ⟨rest₂, -, hread⟩ := bind_eq_ok_iff.1 hread
    have hgives := hfound hvariant
    rcases variant with ⟨name, value⟩ | ⟨name, read⟩
    · obtain ⟨⟨made, rest₃⟩, hmade, hread⟩ := bind_eq_ok_iff.1 hread
      obtain ⟨rest₄, -, hread⟩ := bind_eq_ok_iff.1 hread
      obtain ⟨rfl, -⟩ := Prod.mk.inj (return_eq_ok_iff.1 hread)
      rcases hnull : readNull rest₂ with cause | ⟨_, rest₅⟩
      · rw [hnull] at hmade
        cases hmade
      · rw [hnull] at hmade
        obtain ⟨rfl, -⟩ := Prod.mk.inj (Except.ok.inj hmade)
        exact hgives
    · obtain ⟨⟨made, rest₃⟩, hmade, hread⟩ := bind_eq_ok_iff.1 hread
      obtain ⟨rest₄, -, hread⟩ := bind_eq_ok_iff.1 hread
      obtain ⟨rfl, -⟩ := Prod.mk.inj (return_eq_ok_iff.1 hread)
      exact hgives rest₂ x rest₃ hmade
  · cases hread

/-! ## Whole texts -/

theorem Gives.readAll (h : Gives read P) {text : String} {x : α}
    (hread : readAll read text = .ok x) : P x := by
  obtain ⟨⟨made, rest⟩, hmade, hread⟩ := bind_eq_ok_iff.1 hread
  dsimp only at hread
  split at hread
  · obtain rfl := return_eq_ok_iff.1 hread
    exact h _ x rest hmade
  · cases hread

end GoalGrid.Json
