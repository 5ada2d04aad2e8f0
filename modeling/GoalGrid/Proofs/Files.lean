import GoalGrid.Files.Tree
import GoalGrid.Proofs.Checks
import Mathlib.Tactic.SplitIfs
/-!
# Files — what a write does to a tree

A write puts a file at one place that holds no directory. So it changes
nothing about where paths lead (`SameDirectories`), what is read under
the path is what was written (`readBytes_of_writeBytes`), and no other
place changes (`find?_put`).
-/

namespace GoalGrid

/-- The bytes of a text are the bytes of that text only. -/
theorem fromUTF8?_eq_some_iff {bytes : ByteArray} {text : String} :
    String.fromUTF8? bytes = some text ↔ bytes = text.toUTF8 := by
  rw [String.fromUTF8?]
  split
  · rw [Option.some.injEq]
    exact ⟨fun h => h ▸ rfl, fun h => by subst h; rfl⟩
  · rename_i hvalid
    simp only [reduceCtorEq, false_iff]
    rintro rfl
    exact hvalid text.isValidUTF8

namespace FileTree

variable {t t' : FileTree} {path : String} {location : Location} {bytes : ByteArray}

/-! ## Places -/

theorem lookup_filter_ne {entries : List (Location × Entry)} {other : Location}
    (h : other ≠ location) :
    (entries.filter (·.1 ≠ location)).lookup other = entries.lookup other := by
  induction entries with
  | nil => rfl
  | cons entry entries ih =>
    rw [List.filter_cons, List.lookup_cons]
    split
    · rw [List.lookup_cons, ih]
    · rename_i hentry
      have hother : other ≠ entry.1 := by
        rintro rfl
        simp [h] at hentry
      rw [ih, beq_eq_false_iff_ne.2 hother]

theorem find?_put (hlocation : location ≠ []) {entry : Entry} (other : Location) :
    (t.put location entry).find? other =
      if other = location then some entry else t.find? other := by
  split
  · rename_i heq
    subst heq
    cases other with
    | nil => exact absurd rfl hlocation
    | cons name names => simp [put, find?]
  · rename_i hne
    cases other with
    | nil => rfl
    | cons name names =>
      simp only [put, find?, List.lookup_cons, beq_eq_false_iff_ne.2 hne, lookup_filter_ne hne]

/-! ## Where paths lead -/

/-- The trees have their directories at the same places. -/
structure SameDirectories (t t' : FileTree) : Prop where
  here : t'.here = t.here
  directory : ∀ location, t'.find? location = some .directory ↔ t.find? location = some .directory

theorem enter_eq_ok_iff : t.enter location = .ok () ↔ t.find? location = some .directory := by
  rw [enter]
  split <;> simp_all

theorem walk_cons {name : String} {names : List String} :
    t.walk location (name :: names) = (do
      t.enter location
      if name = "" ∨ name = "." then t.walk location names
      else if name = ".." then t.walk location.dropLast names
      else if maxName < name.utf8ByteSize then throw .nameTooLong
      else t.walk (location ++ [name]) names) := rfl

theorem locate_eq_bind : t.locate path = (checkPath path >>= fun _ =>
    t.walk (t.start path) (names path)) := rfl

namespace SameDirectories

/-- A walk succeeds where the directories are. -/
theorem walk (h : SameDirectories t t') {names : List String} {place : Location}
    (hwalk : t.walk location names = .ok place) : t'.walk location names = .ok place := by
  -- a walk looks at nothing but where the directories are
  induction names generalizing location with
  | nil => exact hwalk
  | cons name names ih =>
    rw [walk_cons, check_bind_eq_ok_iff, enter_eq_ok_iff] at hwalk ⊢
    obtain ⟨henter, hrest⟩ := hwalk
    refine ⟨(h.directory location).2 henter, ?_⟩
    split_ifs at hrest ⊢
    · exact ih hrest
    · exact ih hrest
    · exact ih hrest

theorem locate (h : SameDirectories t t') (hlocate : t.locate path = .ok location) :
    t'.locate path = .ok location := by
  have hstart : t'.start path = t.start path := by rw [start, start, h.here]
  rw [locate_eq_bind, check_bind_eq_ok_iff] at hlocate ⊢
  rw [hstart]
  exact ⟨hlocate.1, h.walk hlocate.2⟩

end SameDirectories

theorem walk_append_blank {names : List String} {place : Location}
    (h : t.walk location (names ++ [""]) = .ok place) : t.find? place = some .directory := by
  induction names generalizing location with
  | nil =>
    rw [List.nil_append, walk_cons, check_bind_eq_ok_iff] at h
    obtain ⟨henter, hplace⟩ := h
    obtain rfl : location = place := Except.ok.inj hplace
    exact enter_eq_ok_iff.1 henter
  | cons name names ih =>
    rw [List.cons_append, walk_cons, check_bind_eq_ok_iff] at h
    obtain ⟨-, h⟩ := h
    split_ifs at h
    · exact ih h
    · exact ih h
    · exact ih h

/-- A place for a file is where the path leads. -/
theorem locate_of_locateFile (h : t.locateFile path = .ok location) :
    t.locate path = .ok location := by
  rw [locateFile, check_bind_eq_ok_iff] at h
  rw [locate_eq_bind, check_bind_eq_ok_iff]
  obtain ⟨hcheck, hwalk⟩ := h
  refine ⟨hcheck, ?_⟩
  dsimp only at hwalk
  split at hwalk
  · obtain ⟨_, -, hthrow⟩ := bind_eq_ok_iff.1 hwalk
    obtain ⟨-, hthrow⟩ := check_bind_eq_ok_iff.1 hthrow
    cases hthrow
  · exact hwalk

/-- Where a path leads, there is a place for a file, unless the path is one
of a directory. -/
theorem locateFile_of_locate (h : t.locate path = .ok location)
    (hfind : t.find? location ≠ some .directory) : t.locateFile path = .ok location := by
  rw [locate_eq_bind, check_bind_eq_ok_iff] at h
  rw [locateFile, check_bind_eq_ok_iff]
  obtain ⟨hcheck, hwalk⟩ := h
  refine ⟨hcheck, ?_⟩
  dsimp only
  split
  · -- such a path leads to a directory, if anywhere
    rename_i hlast
    obtain ⟨names, hnames⟩ := List.getLast?_eq_some_iff.1 hlast
    rw [hnames] at hwalk
    exact absurd (walk_append_blank hwalk) hfind
  · exact hwalk

/-! ## Reading and writing -/

/-- A file can be written under the path. -/
def Accepts (t : FileTree) (path : String) : Prop :=
  ∃ location, t.locateFile path = .ok location ∧ t.find? location ≠ some .directory

theorem writeBytes_eq_ok_iff : t.writeBytes path bytes = .ok t' ↔
    ∃ location, t.locateFile path = .ok location ∧ t.find? location ≠ some .directory ∧
      t' = t.put location (.file bytes) := by
  rw [writeBytes, bind_eq_ok_iff]
  refine exists_congr fun location => and_congr_right fun _ => ?_
  split
  · rename_i hfind
    exact ⟨fun h => (nomatch h), fun h => absurd hfind h.1⟩
  · rename_i hfind
    rw [return_eq_ok_iff]
    exact ⟨fun h => ⟨hfind, h⟩, And.right⟩

theorem Accepts.exists_writeBytes (h : t.Accepts path) (bytes : ByteArray) :
    ∃ t', t.writeBytes path bytes = .ok t' := by
  obtain ⟨location, hlocate, hfind⟩ := h
  exact ⟨_, writeBytes_eq_ok_iff.2 ⟨location, hlocate, hfind, rfl⟩⟩

theorem ne_nil_of_find? (h : t.find? location ≠ some .directory) : location ≠ [] := by
  rintro rfl
  exact h rfl

/-- **A write moves no directory.** -/
theorem sameDirectories_put (hfind : t.find? location ≠ some .directory) :
    SameDirectories t (t.put location (.file bytes)) where
  here := rfl
  directory other := by
    rw [find?_put (ne_nil_of_find? hfind)]
    split
    · rename_i heq
      subst heq
      simp [hfind]
    · rfl

theorem readBytes_eq_ok_iff : t.readBytes path = .ok bytes ↔
    ∃ location, t.locate path = .ok location ∧ t.find? location = some (.file bytes) := by
  rw [readBytes, bind_eq_ok_iff]
  refine exists_congr fun location => and_congr_right fun _ => ?_
  split
  · rename_i hfind
    rw [return_eq_ok_iff, hfind, Option.some.injEq, Entry.file.injEq, eq_comm]
  · rename_i hfind
    rw [hfind]
    exact ⟨fun h => (nomatch h), fun h => (nomatch h)⟩
  · rename_i hfind
    rw [hfind]
    exact ⟨fun h => (nomatch h), fun h => (nomatch h)⟩

theorem exists?_eq_true_iff : t.exists? path = true ↔
    ∃ location, t.locate path = .ok location ∧ (t.find? location).isSome = true := by
  rw [exists?]
  split <;> simp_all

/-- **What is read is what was written.** -/
theorem readBytes_of_writeBytes (h : t.writeBytes path bytes = .ok t') :
    t'.readBytes path = .ok bytes := by
  obtain ⟨location, hlocate, hfind, rfl⟩ := writeBytes_eq_ok_iff.1 h
  refine readBytes_eq_ok_iff.2
    ⟨location, (sameDirectories_put hfind).locate (locate_of_locateFile hlocate), ?_⟩
  rw [find?_put (ne_nil_of_find? hfind), if_pos rfl]

/-- A file that can be read can be written. -/
theorem accepts_of_readBytes (h : t.readBytes path = .ok bytes) : t.Accepts path := by
  obtain ⟨location, hlocate, hfind⟩ := readBytes_eq_ok_iff.1 h
  have hfile : t.find? location ≠ some .directory := by simp [hfind]
  exact ⟨location, locateFile_of_locate hlocate hfile, hfile⟩

namespace Accepts

/-- Where a file can be written and there is nothing, none is found. -/
theorem readBytes_eq_notFound (h : t.Accepts path) (hexists : t.exists? path = false) :
    t.readBytes path = .error .notFound := by
  obtain ⟨location, hlocate, -⟩ := h
  have hplace := locate_of_locateFile hlocate
  rw [exists?, hplace, Option.isSome_eq_false_iff, Option.isNone_iff_eq_none] at hexists
  simp [readBytes, hplace, bind, Except.bind, hexists, throw, throwThe, MonadExceptOf.throw]

theorem of_sameDirectories (h : t.Accepts path) (hsame : SameDirectories t t') :
    t'.Accepts path := by
  obtain ⟨location, hlocate, hfind⟩ := h
  have hfind' : t'.find? location ≠ some .directory := mt (hsame.directory location).1 hfind
  exact ⟨location,
    locateFile_of_locate (hsame.locate (locate_of_locateFile hlocate)) hfind', hfind'⟩

end Accepts

/-- What exists is there after a write. -/
theorem exists?_of_writeBytes {other : String} (h : t.writeBytes path bytes = .ok t')
    (hexists : t.exists? other = true) : t'.exists? other = true := by
  obtain ⟨location, hlocate, hfind, rfl⟩ := writeBytes_eq_ok_iff.1 h
  obtain ⟨place, hplace, hsome⟩ := exists?_eq_true_iff.1 hexists
  refine exists?_eq_true_iff.2 ⟨place, (sameDirectories_put hfind).locate hplace, ?_⟩
  rw [find?_put (ne_nil_of_find? hfind)]
  split
  · rfl
  · exact hsome

/-- **A write leaves a file alone, or it is the one that is written**: then
both paths lead to one place. -/
theorem readBytes_of_writeBytes_cases {other : String} {content : ByteArray}
    (h : t.writeBytes path bytes = .ok t') (hread : t.readBytes other = .ok content) :
    t'.readBytes other = .ok content ∨
      t.readBytes path = .ok content ∧ t'.readBytes other = .ok bytes := by
  obtain ⟨location, hlocate, hfind, rfl⟩ := writeBytes_eq_ok_iff.1 h
  obtain ⟨place, hplace, hentry⟩ := readBytes_eq_ok_iff.1 hread
  have hput : SameDirectories t (t.put location (.file bytes)) := sameDirectories_put hfind
  have hplace' := hput.locate hplace
  by_cases hsame : place = location
  · subst hsame
    refine .inr ⟨readBytes_eq_ok_iff.2 ⟨place, locate_of_locateFile hlocate, hentry⟩,
      readBytes_eq_ok_iff.2 ⟨place, hplace', ?_⟩⟩
    rw [find?_put (ne_nil_of_find? hfind), if_pos rfl]
  · refine .inl (readBytes_eq_ok_iff.2 ⟨place, hplace', ?_⟩)
    rw [find?_put (ne_nil_of_find? hfind), if_neg hsame]
    exact hentry

/-- **A write where there was nothing leaves every file alone.** -/
theorem readBytes_of_writeBytes_new {other : String} {content : ByteArray}
    (h : t.writeBytes path bytes = .ok t') (hnew : t.exists? path = false)
    (hread : t.readBytes other = .ok content) : t'.readBytes other = .ok content := by
  refine (readBytes_of_writeBytes_cases h hread).resolve_right fun ⟨hthere, _⟩ => ?_
  obtain ⟨place, hplace, hentry⟩ := readBytes_eq_ok_iff.1 hthere
  simp [exists?, hplace, hentry] at hnew

/-! ## What writes keep -/

/-- The directories are the same, and what was there is there. -/
structure Grows (t t' : FileTree) : Prop extends SameDirectories t t' where
  mono : ∀ path, t.exists? path = true → t'.exists? path = true

namespace Grows

theorem refl (t : FileTree) : Grows t t :=
  ⟨⟨rfl, fun _ => Iff.rfl⟩, fun _ h => h⟩

theorem trans {t'' : FileTree} (h : Grows t t') (h' : Grows t' t'') : Grows t t'' :=
  ⟨⟨h'.here.trans h.here, fun location => (h'.directory location).trans (h.directory location)⟩,
    fun path hexists => h'.mono path (h.mono path hexists)⟩

theorem of_writeBytes (h : t.writeBytes path bytes = .ok t') : Grows t t' := by
  obtain ⟨location, -, hfind, rfl⟩ := writeBytes_eq_ok_iff.1 h
  exact ⟨sameDirectories_put hfind, fun _ => exists?_of_writeBytes h⟩

end Grows

/-- There is something under the path, or a file can be written there. -/
def Ready (t : FileTree) (path : String) : Prop :=
  t.exists? path = true ∨ t.Accepts path

theorem Ready.of_grows (h : t.Ready path) (hgrows : Grows t t') : t'.Ready path :=
  h.imp (hgrows.mono path) (·.of_sameDirectories hgrows.toSameDirectories)

/-! ## Texts -/

variable {text : String}

theorem readText_eq_ok_iff : t.readText path = .ok text ↔ t.readBytes path = .ok text.toUTF8 := by
  rw [readText, bind_eq_ok_iff]
  constructor
  · rintro ⟨bytes, hread, h⟩
    split at h
    · rename_i htext
      obtain rfl := return_eq_ok_iff.1 h
      rw [hread, fromUTF8?_eq_some_iff.1 htext]
    · cases h
  · intro hread
    refine ⟨_, hread, ?_⟩
    rw [fromUTF8?_eq_some_iff.2 rfl]
    rfl

theorem readText_of_writeText (h : t.writeText path text = .ok t') :
    t'.readText path = .ok text :=
  readText_eq_ok_iff.2 (readBytes_of_writeBytes h)

theorem readText_of_writeText_cases {other new : String} (h : t.writeText path new = .ok t')
    (hread : t.readText other = .ok text) :
    t'.readText other = .ok text ∨ t.readText path = .ok text ∧ t'.readText other = .ok new := by
  simp only [readText_eq_ok_iff] at hread ⊢
  exact readBytes_of_writeBytes_cases h hread

theorem readText_of_writeText_new {other new : String} (h : t.writeText path new = .ok t')
    (hnew : t.exists? path = false) (hread : t.readText other = .ok text) :
    t'.readText other = .ok text :=
  readText_eq_ok_iff.2 (readBytes_of_writeBytes_new h hnew (readText_eq_ok_iff.1 hread))

theorem Accepts.readText_eq_notFound (h : t.Accepts path) (hexists : t.exists? path = false) :
    t.readText path = .error .notFound := by
  rw [readText, h.readBytes_eq_notFound hexists]
  rfl

/-- **A text that is written over a text changes something exactly when it
is another text.** -/
theorem exists_find?_ne_iff {new : String} (hread : t.readText path = .ok text)
    (hwrite : t.writeText path new = .ok t') :
    (∃ location, t'.find? location ≠ t.find? location) ↔ text ≠ new := by
  obtain ⟨place, hplace, hentry⟩ := readBytes_eq_ok_iff.1 (readText_eq_ok_iff.1 hread)
  obtain ⟨location, hlocate, hfind, rfl⟩ := writeBytes_eq_ok_iff.1 hwrite
  obtain rfl := Except.ok.inj ((locate_of_locateFile hlocate).symm.trans hplace)
  simp only [find?_put (ne_nil_of_find? hfind)]
  constructor
  · rintro ⟨other, hne⟩ rfl
    split at hne
    · rename_i heq
      exact hne (by rw [heq, hentry])
    · exact hne rfl
  · refine fun hne => ⟨location, ?_⟩
    rw [if_pos rfl, hentry]
    intro heq
    have hbytes : new.toUTF8 = text.toUTF8 := Entry.file.inj (Option.some.inj heq)
    have hsame : some text = some new :=
      (fromUTF8?_eq_some_iff.2 hbytes).symm.trans (fromUTF8?_eq_some_iff.2 rfl)
    exact hne (Option.some.inj hsame)

end FileTree

end GoalGrid
