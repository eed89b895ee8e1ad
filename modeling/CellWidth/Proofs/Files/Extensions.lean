import CellWidth.Proofs.Files.Publishing

/-!
# Which paths ask for a Rust module

The dialect of a listing is told by the extension of its path. Here is the same by the bytes of the
path, without taking it apart.

* `Trail bytes` : slashes, and lone dots behind them, which do not count at the end of a path.
* `Path.fileName?_eq_some_iff` : the file name is the name of an entry behind a slash, or at the
  start, and in front of such a trail.
* `Path.extension?_eq_some_iff` : the extension is what stands behind the last dot of that name, if
  there is something in front of the dot.
* `Dialect.ofPath_names_rust_modules` : so the paths that ask for a Rust module end in a name with
  something in front of its `.rs`, and a trail.
-/

namespace CellWidth

namespace Files

open Text (dropWhile_ne_append dropWhile_ne_eq_nil_or not_mem_takeWhile_ne takeWhile_ne_append)
open Text.Utf8 (decodeLossy_encode encode)

variable {path : Path} {before bytes rest trail : List UInt8} {name extension : Name} {b : UInt8}

/-! ## Trails -/

/-- Slashes, and lone dots behind them. -/
inductive Trail : List UInt8 → Prop
  | nil : Trail []
  | slash {trail : List UInt8} : Trail trail → Trail (trail ++ [slash])
  | slashPeriod {trail : List UInt8} : Trail trail → Trail (trail ++ [slash, period])

theorem dropTrail_slash (h : rest ≠ []) : dropTrail (slash :: rest) = dropTrail rest := by
  rw [dropTrail, if_pos rfl, if_neg h]

theorem dropTrail_period_slash (h : rest ≠ []) :
    dropTrail (period :: slash :: rest) = dropTrail rest := by
  rw [dropTrail, if_neg (by decide), if_pos ⟨rfl, rfl⟩, dropTrail_slash h]

theorem dropTrail_of_name (hslash : b ≠ slash)
    (hperiod : ¬ (b = period ∧ rest.head? = some slash)) :
    dropTrail (b :: rest) = b :: rest := by
  rw [dropTrail, if_neg hslash, if_neg hperiod]

/-- A trail is dropped from whatever it follows. -/
theorem dropTrail_append (htrail : Trail trail) (h : rest ≠ []) :
    dropTrail (trail.reverse ++ rest) = dropTrail rest := by
  induction htrail with
  | nil => rfl
  | slash _ ih =>
    rw [List.reverse_append, List.append_assoc]
    exact (dropTrail_slash (List.append_ne_nil_of_right_ne_nil _ h)).trans ih
  | slashPeriod _ ih =>
    rw [List.reverse_append, List.append_assoc]
    exact (dropTrail_period_slash (List.append_ne_nil_of_right_ne_nil _ h)).trans ih

/-- Nothing but a trail is dropped, unless the path is a root. -/
theorem exists_trail (bytes : List UInt8) :
    dropTrail bytes = [slash] ∨
      ∃ trail, Trail trail ∧ bytes = trail.reverse ++ dropTrail bytes := by
  induction bytes using List.twoStepInduction with
  | nil => exact .inr ⟨[], .nil, rfl⟩
  | singleton b =>
    by_cases hslash : b = slash
    · subst hslash
      exact .inl rfl
    · exact .inr ⟨[], .nil, by rw [dropTrail_of_name hslash (by simp)]; rfl⟩
  | cons_cons b c rest ihRest ih =>
    by_cases hslash : b = slash
    · subst hslash
      rw [dropTrail_slash (List.cons_ne_nil c rest)]
      refine (ih c).imp_right fun ⟨trail, htrail, hrest⟩ => ⟨_, htrail.slash, ?_⟩
      rw [List.reverse_append, List.append_assoc, ← hrest]
      rfl
    by_cases hperiod : b = period ∧ c = slash
    · obtain ⟨rfl, rfl⟩ := hperiod
      by_cases hnil : rest = []
      · subst hnil
        exact .inl rfl
      rw [dropTrail_period_slash hnil]
      refine ihRest.imp_right fun ⟨trail, htrail, hrest⟩ => ⟨_, htrail.slashPeriod, ?_⟩
      rw [List.reverse_append, List.append_assoc, ← hrest]
      rfl
    · refine .inr ⟨[], .nil, ?_⟩
      rw [dropTrail_of_name hslash (by simpa using hperiod)]
      rfl

namespace Path

/-! ## File names -/

/-- A trail does not change the last name of a path. -/
theorem lastName_append (htrail : Trail trail) (h : bytes ≠ []) :
    lastName ⟨bytes ++ trail⟩ = lastName ⟨bytes⟩ := by
  have hrest : bytes.reverse ≠ [] := fun hnil => h (List.reverse_eq_nil_iff.1 hnil)
  simp only [lastName, List.reverse_append, dropTrail_append htrail hrest]

/-- The last name of a path, if it has one, stands in front of a trail. -/
theorem exists_trail_of_lastName (hname : path.lastName = name) (h : name ≠ []) :
    ∃ before trail, Splits ⟨before ++ name⟩ before name ∧ Trail trail ∧
      path.bytes = before ++ name ++ trail := by
  subst hname
  rcases exists_trail path.bytes.reverse with hroot | ⟨trail, htrail, hbytes⟩
  · exact absurd (by rw [lastName, hroot]; rfl) h
  · refine ⟨((dropTrail path.bytes.reverse).dropWhile (· ≠ slash)).reverse, trail,
      ⟨rfl, ?_, ?_⟩, htrail, ?_⟩
    · exact before_ends_of_dropWhile _
    · rw [lastName, List.mem_reverse]
      exact not_mem_takeWhile_ne _ _
    · rw [lastName, ← List.reverse_append, List.takeWhile_append_dropWhile,
        ← List.reverse_reverse trail, ← List.reverse_append, ← hbytes, List.reverse_reverse]

/-- The file name is the name of an entry behind a slash, or at the start, and before a trail. -/
theorem fileName?_eq_some_iff :
    path.fileName? = some name ↔
      Ordinary name ∧ ∃ before trail, Splits ⟨before ++ name⟩ before name ∧ Trail trail ∧
        path.bytes = before ++ name ++ trail := by
  constructor
  · intro h
    have hordinary := ordinary_of_fileName? h
    refine ⟨hordinary, exists_trail_of_lastName ?_ hordinary.1⟩
    rw [fileName?] at h
    split at h
    · cases h
    · exact Option.some.inj h
  · rintro ⟨hordinary, before, trail, hsplits, htrail, hbytes⟩
    have hlast : path.lastName = lastName ⟨before ++ name⟩ := by
      rw [← lastName_append htrail (List.append_ne_nil_of_right_ne_nil _ hordinary.1), ← hbytes]
    rw [← hsplits.fileName?_eq hordinary]
    simp only [fileName?, hlast]

/-! ## Extensions -/

/-- The extension is what stands behind the last dot of the file name, if there is something in
front of that dot. -/
theorem extension?_eq_some_iff :
    path.extension? = some extension ↔
      ∃ stem, path.fileName? = some (stem ++ period :: extension) ∧ stem ≠ [] ∧
        period ∉ extension := by
  unfold extension?
  cases path.fileName? with
  | none => simp
  | some name =>
    simp only [Option.some.injEq]
    constructor
    · intro h
      have hsplit := List.takeWhile_append_dropWhile (p := (· ≠ period)) (l := name.reverse)
      rcases dropWhile_ne_eq_nil_or period name.reverse with hnil | ⟨rest, hdrop⟩
      · rw [hnil] at h
        cases h
      cases rest with
      | nil =>
        rw [hdrop] at h
        cases h
      | cons c rest =>
        rw [hdrop] at h hsplit
        obtain rfl := Option.some.inj h
        refine ⟨(c :: rest).reverse, ?_, by simp, ?_⟩
        · rw [← List.reverse_inj, List.reverse_append, List.reverse_cons, List.reverse_reverse,
            List.reverse_reverse, List.append_assoc, List.singleton_append, hsplit]
        · rw [List.mem_reverse]
          exact not_mem_takeWhile_ne _ _
    · rintro ⟨stem, rfl, hstem, hmem⟩
      have hreverse : (stem ++ period :: extension).reverse =
          extension.reverse ++ period :: stem.reverse := by simp
      have hmem' : period ∉ extension.reverse := fun hin => hmem (List.mem_reverse.1 hin)
      obtain ⟨c, rest, hrest⟩ :=
        List.exists_cons_of_ne_nil (fun hnil => hstem (List.reverse_eq_nil_iff.1 hnil))
      rw [hreverse, dropWhile_ne_append hmem', takeWhile_ne_append hmem', hrest,
        List.reverse_reverse]

/-- The path ends in a name with something in front of its `.rs`, and a trail. -/
def NamesRustModule (path : Path) : Prop :=
  ∃ before stem trail, path.bytes = before ++ stem ++ encode ".rs" ++ trail ∧
    (before = [] ∨ before.getLast? = some slash) ∧ stem ≠ [] ∧ slash ∉ stem ∧ Trail trail

theorem extension?_eq_rs_iff : path.extension? = some (encode "rs") ↔ path.NamesRustModule := by
  have hrs : period :: encode "rs" = encode ".rs" := by decide
  rw [extension?_eq_some_iff]
  simp only [fileName?_eq_some_iff, hrs]
  constructor
  · rintro ⟨stem, ⟨-, before, trail, hsplits, htrail, hbytes⟩, hstem, -⟩
    have hslash : slash ∉ stem := fun hmem =>
      hsplits.slash_not_mem (List.mem_append_left _ hmem)
    rw [← List.append_assoc before] at hbytes
    exact ⟨before, stem, trail, hbytes, hsplits.before_ends, hstem, hslash, htrail⟩
  · rintro ⟨before, stem, trail, hbytes, hbefore, hstem, hslash, htrail⟩
    have hslash' : slash ∉ stem ++ encode ".rs" := by
      rw [List.mem_append, not_or]
      exact ⟨hslash, by decide⟩
    have hordinary : Ordinary (stem ++ encode ".rs") := by
      have hlength := List.length_pos_iff.2 hstem
      refine ordinary_of_length ?_
      rw [List.length_append, ← hrs, List.length_cons]
      exact Nat.lt_of_lt_of_le (by decide) (Nat.le_add_left _ stem.length)
    rw [List.append_assoc before] at hbytes
    exact ⟨stem, ⟨hordinary, before, trail, ⟨rfl, hbefore, hslash'⟩, htrail, hbytes⟩, hstem,
      by decide⟩

end Path

end Files

open Files Text.Utf8

/-! ## Dialects -/

namespace Dialect

variable {path : Path}

theorem ofPath_eq_rust_iff : Dialect.ofPath path = .rust ↔ path.NamesRustModule := by
  rw [← Path.extension?_eq_rs_iff, Dialect.ofPath]
  split
  · next h => simp [h]
  · next h => simp [h]

theorem ofPath_eq_iff {dialect : Dialect} :
    Dialect.ofPath path = dialect ↔ (dialect = .rust ↔ path.NamesRustModule) := by
  rw [← ofPath_eq_rust_iff]
  cases ofPath path <;> cases dialect <;> decide

/-- **Which paths ask for a Rust module.** Those that end in a name with something in front of its
`.rs`, and a trail of slashes and lone dots; all others ask for a C header. What is written to a
path is the listing in the dialect that it asks for, and not the one in the other. -/
theorem ofPath_names_rust_modules :
    (∀ path, ofPath path = .rust ↔ path.NamesRustModule) ∧
    (∀ path, ofPath path = .c ↔ ¬ path.NamesRustModule) ∧
    ∀ (t : FileTree) (path : Path) (tables : Tables),
      (t.run (write path tables)).1.result = .ok () →
        ∀ dialect, ∃ written, Listing.render? dialect tables = .ok written ∧
          ((t.run (write path tables)).2.at? path = some (.file (encode written)) ↔
            (dialect = .rust ↔ path.NamesRustModule)) := by
  refine ⟨fun path => ofPath_eq_rust_iff, fun path => ofPath_eq_iff.trans (by simp), ?_⟩
  intro t path tables h dialect
  cases hrender : Listing.render? (ofPath path) tables with
  | error fault =>
    rw [run_write_of_error hrender] at h
    cases h
  | ok listing =>
    rw [run_write_of_ok hrender] at h ⊢
    obtain ⟨temporary, -, hreplaced⟩ := replaced_of_ok h
    -- the tables that pass the check have a listing in every dialect
    have hgood := Listing.exists_render?_eq_ok_iff.1 ⟨listing, hrender⟩
    obtain ⟨written, hwritten⟩ := Listing.exists_render?_eq_ok_iff (d := dialect).2 hgood
    refine ⟨written, hwritten, ?_⟩
    rw [hreplaced.target, ← ofPath_eq_iff]
    simp only [Option.some.injEq, Node.file.injEq, encode_injective.eq_iff]
    constructor
    · rintro rfl
      exact Listing.dialect_eq_of_render?_eq_ok hrender hwritten
    · rintro rfl
      rw [hrender] at hwritten
      exact Except.ok.inj hwritten

/-- A name of which only a dot stands in front of `.rs`, as it is written, and before a trail; and a
hidden file, whose name has nothing in front of it. -/
theorem ofPath_names_rust_modules_of_paths :
    (Path.ofString "a/..rs/.//").NamesRustModule ∧
    ¬ (Path.ofString "d/.rs/").NamesRustModule ∧
    ∃ written, Listing.render? .rust Listing.sampleTables = .ok written ∧
      (sampleTree.run (write (.ofString "d/..rs") Listing.sampleTables)).2.at?
        (.ofString "d/..rs") = some (.file (encode written)) := by
  rcases ofPath_names_rust_modules with ⟨hrust, hc, hwritten⟩
  have hnames : (Path.ofString "d/..rs").NamesRustModule := (hrust _).1 (by decide)
  have hok : (sampleTree.run (write (.ofString "d/..rs") Listing.sampleTables)).1.result = .ok () :=
    rfl
  obtain ⟨written, hrender, htarget⟩ := hwritten sampleTree _ _ hok .rust
  exact ⟨(hrust _).1 (by decide), (hc _).1 (by decide), written, hrender,
    htarget.2 (iff_of_true rfl hnames)⟩

end Dialect

end CellWidth
