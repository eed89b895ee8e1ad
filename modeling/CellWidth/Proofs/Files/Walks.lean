import CellWidth.Proofs.Files.Paths

/-!
# Where walks lead

* `t.at? path` : what a path leads to, if it leads anywhere.
* `t.Reaches place names directory` : the walk from a place along some names ends in a directory.
  Names that stay where they are may be put behind (`reaches_append_stay`), so the trail of a path
  may be dropped (`reaches_dropTrail`).
* `resolve_eq_ok_iff`, `locate_eq_ok_iff` : a path leads on from the directory that the walk along
  all but its last name reaches, and its spot is the last name in this directory.
* `Spot.Proper` : the spot is one at which a file can be. A path with such a spot leads to its place
  if there is something (`at?_of_locate`).
* `SameDirectories t t'` : trees in which the same walks are possible.
* `t.HasParent path` : the file would stand in a directory. Another name in place of the last one
  then names a spot in the same directory (`locate_withFileName`).
-/

namespace CellWidth.Files

namespace FileTree

variable {t t' : FileTree} {place next directory : Place} {names : List Name} {name : Name}
  {path : Path} {before : List UInt8} {spot : Spot} {node : Node}

/-- What a path leads to. -/
def at? (t : FileTree) (path : Path) : Option Node :=
  match t.resolve path with
  | .ok place => t.node? place
  | .error _ => none

theorem at?_eq_some_iff :
    t.at? path = some node ↔ ∃ place, t.resolve path = .ok place ∧ t.node? place = some node := by
  unfold at?
  cases t.resolve path <;> simp

theorem openFile_of_file {contents : List UInt8} (h : t.at? path = some (.file contents)) :
    t.openFile path = .ok (.ok contents) := by
  rcases at?_eq_some_iff.1 h with ⟨place, hplace, hnode⟩
  simp only [openFile, hplace, hnode]

theorem openFile_of_directory (h : t.at? path = some .directory) :
    t.openFile path = .ok (.error .isDirectory) := by
  rcases at?_eq_some_iff.1 h with ⟨place, hplace, hnode⟩
  simp only [openFile, hplace, hnode]

/-- What is there can be opened, whether or not it can be read. -/
theorem exists_openFile_eq_ok (h : t.at? path ≠ none) : ∃ content, t.openFile path = .ok content := by
  cases hnode : t.at? path with
  | none => exact absurd hnode h
  | some node =>
    cases node with
    | file contents => exact ⟨_, openFile_of_file hnode⟩
    | directory => exact ⟨_, openFile_of_directory hnode⟩

theorem exists_openFile_eq_error (h : t.at? path = none) :
    ∃ reason, t.openFile path = .error reason := by
  unfold at? at h
  unfold openFile
  cases hresolve : t.resolve path with
  | error reason => exact ⟨reason, rfl⟩
  | ok place =>
    rw [hresolve] at h
    exact ⟨.notFound, by simp only [h]⟩

/-! ## Steps and walks -/

theorem enter_eq_ok_iff : t.enter place = .ok () ↔ t.node? place = some .directory := by
  unfold enter
  cases t.node? place with
  | none => simp
  | some node => cases node <;> simp

/-- A step is made in a directory. It stays, leads outwards, or leads to an entry. -/
theorem follow_eq_ok_iff :
    t.follow place name = .ok next ↔ t.node? place = some .directory ∧
      ((name = [] ∨ name = here) ∧ next = place ∨ name = outward ∧ next = place.tail ∨
        Ordinary name ∧ name.length ≤ nameLimit ∧ t.node? (name :: place) ≠ none ∧
          next = name :: place) := by
  unfold follow
  cases henter : t.enter place with
  | error fault =>
    have hnot : t.node? place ≠ some .directory := by
      intro hdirectory
      rw [enter_eq_ok_iff.2 hdirectory] at henter
      cases henter
    simp [hnot]
  | ok u =>
    have hdirectory := enter_eq_ok_iff.1 henter
    have houtward : outward ≠ [] ∧ outward ≠ here := by decide
    by_cases hstay : name = [] ∨ name = here
    · have hnot : ¬ Ordinary name := fun h => hstay.elim h.1 h.2.1
      have hinward : name ≠ outward := by
        rintro rfl
        exact hstay.elim houtward.1 houtward.2
      simp [hdirectory, hstay, hnot, hinward, eq_comm]
    by_cases hout : name = outward
    · subst hout
      have hnot : ¬ Ordinary outward := fun h => h.2.2 rfl
      simp [hdirectory, hnot, houtward, eq_comm]
    · have hordinary : Ordinary name :=
        ⟨fun h => hstay (.inl h), fun h => hstay (.inr h), hout⟩
      by_cases hlong : nameLimit < name.length
      · simp [hstay, hout, hlong, Nat.not_le.2 hlong]
      by_cases hnone : t.node? (name :: place) = none
      · simp [hstay, hout, hlong, hnone]
      · simp [hdirectory, hstay, hout, hordinary, hlong, Nat.not_lt.1 hlong, hnone, eq_comm]

theorem walk_cons_eq_ok_iff : t.walk place (name :: names) = .ok directory ↔
    ∃ next, t.follow place name = .ok next ∧ t.walk next names = .ok directory := by
  rw [walk]
  cases t.follow place name <;> simp

theorem walk_append_eq_ok_iff : t.walk place (names ++ [name]) = .ok next ↔
    ∃ directory, t.walk place names = .ok directory ∧ t.follow directory name = .ok next := by
  induction names generalizing place with
  | nil =>
    rw [List.nil_append, walk_cons_eq_ok_iff]
    simp [walk]
  | cons first names ih =>
    simp only [List.cons_append, walk_cons_eq_ok_iff, ih]
    constructor
    · intro hwalk
      rcases hwalk with ⟨middle, hfirst, directory, hnames, hlast⟩
      exact ⟨directory, ⟨middle, hfirst, hnames⟩, hlast⟩
    · intro hwalk
      rcases hwalk with ⟨directory, ⟨middle, hfirst, hnames⟩, hlast⟩
      exact ⟨middle, hfirst, directory, hnames, hlast⟩

/-- The walk from a place along some names ends in a directory. -/
def Reaches (t : FileTree) (place : Place) (names : List Name) (directory : Place) : Prop :=
  t.walk place names = .ok directory ∧ t.node? directory = some .directory

theorem reaches_cons_iff : t.Reaches place (name :: names) directory ↔
    ∃ next, t.follow place name = .ok next ∧ t.Reaches next names directory := by
  simp only [Reaches, walk_cons_eq_ok_iff]
  constructor
  · intro hwalk
    rcases hwalk with ⟨⟨next, hfirst, hnames⟩, hdirectory⟩
    exact ⟨next, hfirst, hnames, hdirectory⟩
  · intro hwalk
    rcases hwalk with ⟨next, hfirst, hnames, hdirectory⟩
    exact ⟨⟨next, hfirst, hnames⟩, hdirectory⟩

/-- Such a walk starts in a directory as well. -/
theorem Reaches.start (h : t.Reaches place names directory) : t.node? place = some .directory := by
  cases names with
  | nil =>
    obtain rfl : place = directory := by simpa [walk] using h.1
    exact h.2
  | cons name names =>
    rcases reaches_cons_iff.1 h with ⟨next, hfirst, -⟩
    exact (follow_eq_ok_iff.1 hfirst).1

/-- A name that stays where it is only asks for a directory. -/
theorem reaches_append_stay (hstay : name = [] ∨ name = here) :
    t.Reaches place (names ++ [name]) directory ↔ t.Reaches place names directory := by
  have hfollow (middle : Place) : t.follow middle name = .ok directory ↔
      t.node? middle = some .directory ∧ directory = middle := by
    have hnot : ¬ Ordinary name := fun h => hstay.elim h.1 h.2.1
    have hinward : name ≠ outward := by
      rcases hstay with rfl | rfl <;> decide
    rw [follow_eq_ok_iff]
    simp only [hstay, hnot, hinward, true_and, false_and, or_false]
  simp only [Reaches, walk_append_eq_ok_iff, hfollow]
  constructor
  · intro hwalk
    rcases hwalk with ⟨⟨middle, hnames, hmiddle, rfl⟩, -⟩
    exact ⟨hnames, hmiddle⟩
  · intro hwalk
    exact ⟨⟨directory, hwalk.1, hwalk.2, rfl⟩, hwalk.2⟩

/-! ## Paths -/

theorem checkPath_eq_ok_iff :
    checkPath path = .ok () ↔ 0 ∉ path.bytes ∧ path.bytes ≠ [] ∧ path.bytes.length < pathLimit := by
  unfold checkPath
  by_cases hnul : 0 ∈ path.bytes
  · simp [hnul]
  by_cases hnil : path.bytes = []
  · simp [hnil]
  by_cases hlong : pathLimit ≤ path.bytes.length
  · simp [hnul, hnil, hlong, Nat.not_lt.2 hlong]
  · simp [hnul, hnil, hlong, Nat.not_le.1 hlong]

theorem walk_of_resolve (h : t.resolve path = .ok place) :
    t.walk (t.base path) (path.bytes.splitOn slash) = .ok place := by
  unfold resolve at h
  split at h
  · cases h
  · exact h

/-- A path leads on from the directory in front of its last name. -/
theorem resolve_eq_ok_iff (h : path.Splits before name) :
    t.resolve path = .ok place ↔ checkPath path = .ok () ∧
      ∃ directory, t.Reaches (t.base path) (namesBefore before) directory ∧
        t.follow directory name = .ok place := by
  unfold resolve
  cases checkPath path with
  | error fault => simp
  | ok u =>
    simp only [h.splitOn_eq, walk_append_eq_ok_iff, true_and]
    constructor
    · intro hwalk
      rcases hwalk with ⟨directory, hnames, hlast⟩
      exact ⟨directory, ⟨hnames, (follow_eq_ok_iff.1 hlast).1⟩, hlast⟩
    · intro hwalk
      rcases hwalk with ⟨directory, hnames, hlast⟩
      exact ⟨directory, hnames.1, hlast⟩

/-- The spot of a path that does not end in a slash is its last name, in a directory. -/
theorem locate_eq_ok_iff (h : path.Splits before name) (hname : name ≠ []) :
    t.locate path = .ok spot ↔ checkPath path = .ok () ∧
      ∃ directory, t.Reaches (t.base path) (namesBefore before) directory ∧
        spot = ⟨directory, name, false⟩ := by
  unfold locate
  cases checkPath path with
  | error fault => simp
  | ok u =>
    have hnames : (path.bytes.splitOn slash).reverse = name :: (namesBefore before).reverse := by
      rw [h.splitOn_eq, List.reverse_append, List.reverse_singleton, List.singleton_append]
    have hdrop : (name :: (namesBefore before).reverse).dropWhile (· = []) =
        name :: (namesBefore before).reverse := by
      rw [List.dropWhile_cons_of_neg (by simpa using hname)]
    have hslashed : decide ((name :: (namesBefore before).reverse).head? = some []) = false := by
      simpa using hname
    simp only [hnames, hdrop, hslashed, List.reverse_reverse, Reaches, true_and]
    cases hwalk : t.walk (t.base path) (namesBefore before) with
    | error fault => simp
    | ok directory =>
      cases henter : t.enter directory with
      | error fault =>
        have hnot : t.node? directory ≠ some .directory := by
          intro hdirectory
          rw [enter_eq_ok_iff.2 hdirectory] at henter
          cases henter
        simp [henter, hnot]
      | ok u =>
        have hdirectory := enter_eq_ok_iff.1 henter
        simp only [henter, Except.ok.injEq]
        constructor
        · rintro rfl
          exact ⟨directory, ⟨rfl, hdirectory⟩, rfl⟩
        · intro hspot
          rcases hspot with ⟨directory', ⟨rfl, -⟩, rfl⟩
          rfl

theorem slashed_of_locate (h : path.Splits before []) (hspot : t.locate path = .ok spot) :
    spot.slashed = true := by
  unfold locate at hspot
  have hnames : (path.bytes.splitOn slash).reverse = [] :: (namesBefore before).reverse := by
    rw [h.splitOn_eq, List.reverse_append, List.reverse_singleton, List.singleton_append]
  simp only [hnames, List.head?_cons] at hspot
  split at hspot
  · cases hspot
  split at hspot
  · cases hspot
    rfl
  split at hspot
  · cases hspot
  split at hspot
  · cases hspot
  · cases hspot
    simp

/-! ## Proper spots -/

/-- The spot is one at which a file can be: no slash follows its name, which is that of an entry
and not too long. -/
structure Spot.Proper (spot : Spot) : Prop where
  unslashed : spot.slashed = false
  ordinary : Ordinary spot.name
  short : spot.name.length ≤ nameLimit

theorem Spot.place_ne_nil (spot : Spot) : spot.place ≠ [] :=
  List.cons_ne_nil _ _

/-- A path with a proper spot ends in the name that the spot has. -/
theorem splits_of_locate (hspot : t.locate path = .ok spot) (hproper : spot.Proper) :
    ∃ before, path.Splits before spot.name := by
  rcases path.exists_splits with ⟨before, name, hsplits⟩
  by_cases hname : name = []
  · subst hname
    have hslashed := slashed_of_locate hsplits hspot
    rw [hproper.unslashed] at hslashed
    cases hslashed
  · rcases (locate_eq_ok_iff hsplits hname).1 hspot with ⟨-, directory, -, rfl⟩
    exact ⟨before, hsplits⟩

/-- A path with a proper spot leads to its place, if there is something. -/
theorem resolve_eq_ok_iff_of_locate (hspot : t.locate path = .ok spot) (hproper : spot.Proper) :
    t.resolve path = .ok place ↔ t.node? spot.place ≠ none ∧ place = spot.place := by
  rcases splits_of_locate hspot hproper with ⟨before, hsplits⟩
  rcases (locate_eq_ok_iff hsplits hproper.ordinary.1).1 hspot with
    ⟨hcheck, directory, hreaches, heq⟩
  have hplace : spot.place = spot.name :: directory := by rw [Spot.place, heq]
  have hordinary := hproper.ordinary
  have hstay : ¬ (spot.name = [] ∨ spot.name = here) := fun h => h.elim hordinary.1 hordinary.2.1
  rw [resolve_eq_ok_iff hsplits, hplace]
  constructor
  · intro hresolve
    rcases hresolve with ⟨-, directory', hreaches', hfollow⟩
    obtain rfl : directory = directory' :=
      Except.ok.inj (hreaches.1.symm.trans hreaches'.1)
    rcases (follow_eq_ok_iff.1 hfollow).2 with hstay' | houtward | hentry
    · exact absurd hstay'.1 hstay
    · exact absurd houtward.1 hordinary.2.2
    · exact ⟨hentry.2.2.1, hentry.2.2.2⟩
  · intro hentry
    rcases hentry with ⟨hnode, rfl⟩
    exact ⟨hcheck, directory, hreaches, follow_eq_ok_iff.2 ⟨hreaches.2,
      .inr (.inr ⟨hordinary, hproper.short, hnode, rfl⟩)⟩⟩

theorem at?_of_locate (hspot : t.locate path = .ok spot) (hproper : spot.Proper) :
    t.at? path = t.node? spot.place := by
  refine Option.ext fun node => ?_
  rw [at?_eq_some_iff]
  simp only [resolve_eq_ok_iff_of_locate hspot hproper]
  constructor
  · intro hplace
    rcases hplace with ⟨place, ⟨-, rfl⟩, hnode⟩
    exact hnode
  · intro hnode
    exact ⟨spot.place, ⟨by rw [hnode]; exact Option.some_ne_none _, rfl⟩, hnode⟩

/-- A path that ends in the name of an entry and leads somewhere has a proper spot. -/
theorem exists_proper_of_resolve (hsplits : path.Splits before name) (hname : Ordinary name)
    (h : t.resolve path = .ok place) : ∃ spot, t.locate path = .ok spot ∧ spot.Proper := by
  rcases (resolve_eq_ok_iff hsplits).1 h with ⟨hcheck, directory, hreaches, hfollow⟩
  have hspot : t.locate path = .ok ⟨directory, name, false⟩ :=
    (locate_eq_ok_iff hsplits hname.1).2 ⟨hcheck, directory, hreaches, rfl⟩
  rcases (follow_eq_ok_iff.1 hfollow).2 with hstay | houtward | hentry
  · exact absurd hstay.1 fun hstay => hstay.elim hname.1 hname.2.1
  · exact absurd houtward.1 hname.2.2
  · exact ⟨_, hspot, rfl, hname, hentry.2.1⟩

/-- What is no directory is led to by the paths that end in its name only. -/
theorem eq_cons_of_resolve {fileName : Name} (hfile : path.fileName? = some fileName)
    (h : t.resolve path = .ok place) (hnode : t.node? place ≠ some .directory) :
    ∃ directory, place = fileName :: directory := by
  rcases path.exists_splits with ⟨before, name, hsplits⟩
  rcases (resolve_eq_ok_iff hsplits).1 h with ⟨-, directory, -, hfollow⟩
  have hordinary := Path.ordinary_of_fileName? hfile
  rcases follow_eq_ok_iff.1 hfollow with ⟨hdirectory, hstay | houtward | hentry⟩
  · exact absurd (hstay.2 ▸ hdirectory) hnode
  · -- a path that ends in a step outwards has no file name
    rcases hsplits.eq_of_fileName?_eq_some hfile with hname | hname | hname
    · exact absurd (houtward.1.symm.trans hname) (by decide)
    · exact absurd (houtward.1.symm.trans hname) (by decide)
    · exact absurd (hname.symm.trans houtward.1) hordinary.2.2
  · rcases hsplits.eq_of_fileName?_eq_some hfile with hname | hname | hname
    · exact absurd hname hentry.1.1
    · exact absurd hname hentry.1.2.1
    · exact ⟨directory, hname ▸ hentry.2.2.2⟩

/-! ## Trees with the same directories -/

/-- The trees have the same directories, and relative paths start from the same one. -/
structure SameDirectories (t t' : FileTree) : Prop where
  workingDirectory : t'.workingDirectory = t.workingDirectory
  directory_iff : ∀ place, t'.node? place = some .directory ↔ t.node? place = some .directory

namespace SameDirectories

theorem symm (h : SameDirectories t t') : SameDirectories t' t :=
  ⟨h.workingDirectory.symm, fun place => (h.directory_iff place).symm⟩

theorem trans {t'' : FileTree} (h : SameDirectories t t') (h' : SameDirectories t' t'') :
    SameDirectories t t'' :=
  ⟨h'.workingDirectory.trans h.workingDirectory,
    fun place => (h'.directory_iff place).trans (h.directory_iff place)⟩

theorem base (h : SameDirectories t t') (path : Path) : t'.base path = t.base path := by
  rw [FileTree.base, FileTree.base, h.workingDirectory]

/-- The last step of a walk is possible if there is something at its end. -/
theorem follow (h : SameDirectories t t') (hfollow : t.follow place name = .ok next)
    (hnext : t'.node? next ≠ none) : t'.follow place name = .ok next := by
  rcases follow_eq_ok_iff.1 hfollow with ⟨hplace, hstay | houtward | hentry⟩
  · exact follow_eq_ok_iff.2 ⟨(h.directory_iff place).2 hplace, .inl hstay⟩
  · exact follow_eq_ok_iff.2 ⟨(h.directory_iff place).2 hplace, .inr (.inl houtward)⟩
  · rcases hentry with ⟨hordinary, hshort, -, rfl⟩
    exact follow_eq_ok_iff.2 ⟨(h.directory_iff place).2 hplace,
      .inr (.inr ⟨hordinary, hshort, hnext, rfl⟩)⟩

/-- Walks that end in a directory pass through directories only. -/
theorem reaches (h : SameDirectories t t') (hreaches : t.Reaches place names directory) :
    t'.Reaches place names directory := by
  induction names generalizing place with
  | nil => exact ⟨hreaches.1, (h.directory_iff directory).2 hreaches.2⟩
  | cons name names ih =>
    rcases reaches_cons_iff.1 hreaches with ⟨next, hfollow, hnames⟩
    have hnext : t'.node? next = some .directory := (h.directory_iff next).2 hnames.start
    exact reaches_cons_iff.2
      ⟨next, h.follow hfollow (by rw [hnext]; exact Option.some_ne_none _), ih hnames⟩

/-- A path leads to the same place if there is something. -/
theorem resolve (h : SameDirectories t t') (hresolve : t.resolve path = .ok place)
    (hplace : t'.node? place ≠ none) : t'.resolve path = .ok place := by
  rcases path.exists_splits with ⟨before, name, hsplits⟩
  rcases (resolve_eq_ok_iff hsplits).1 hresolve with ⟨hcheck, directory, hreaches, hfollow⟩
  refine (resolve_eq_ok_iff hsplits).2 ⟨hcheck, directory, ?_, h.follow hfollow hplace⟩
  rw [h.base]
  exact h.reaches hreaches

/-- A proper spot stays the spot of its path. -/
theorem locate (h : SameDirectories t t') (hspot : t.locate path = .ok spot)
    (hproper : spot.Proper) : t'.locate path = .ok spot := by
  rcases splits_of_locate hspot hproper with ⟨before, hsplits⟩
  rcases (locate_eq_ok_iff hsplits hproper.ordinary.1).1 hspot with
    ⟨hcheck, directory, hreaches, heq⟩
  refine (locate_eq_ok_iff hsplits hproper.ordinary.1).2 ⟨hcheck, directory, ?_, heq⟩
  rw [h.base]
  exact h.reaches hreaches

/-- A path leads to the same as before if the place it led to has been left alone. -/
theorem at? (h : SameDirectories t t') (hnode : t.at? path = some node)
    (hkept : ∀ place, t.resolve path = .ok place → t.node? place = some node →
      t'.node? place = some node) :
    t'.at? path = some node := by
  rcases at?_eq_some_iff.1 hnode with ⟨place, hresolve, hplace⟩
  have hplace' : t'.node? place = some node := hkept place hresolve hplace
  refine at?_eq_some_iff.2 ⟨place, h.resolve hresolve ?_, hplace'⟩
  rw [hplace']
  exact Option.some_ne_none _

/-- A path leads to what it led to before if all places that it leads to have been left alone. -/
theorem at?_eq (h : SameDirectories t t')
    (hkept : ∀ place, t.resolve path = .ok place ∨ t'.resolve path = .ok place →
      t'.node? place = t.node? place) :
    t'.at? path = t.at? path := by
  refine Option.ext fun node => ⟨fun hnode => ?_, fun hnode => ?_⟩
  · refine h.symm.at? hnode fun place hplace hnode' => ?_
    rw [← hkept place (.inr hplace), hnode']
  · refine h.at? hnode fun place hplace hnode' => ?_
    rw [hkept place (.inl hplace), hnode']

end SameDirectories

/-! ## The directory of a path -/

theorem getLast?_dropTrail (bytes : List UInt8) : (dropTrail bytes).getLast? = bytes.getLast? := by
  induction bytes with
  | nil => rfl
  | cons b rest ih =>
    unfold dropTrail
    split
    · next hb =>
      split
      · next hrest => rw [hb, hrest]
      · next hrest => rw [ih, List.getLast?_cons_of_ne_nil hrest]
    split
    · next hdot =>
      have hrest : rest ≠ [] := by
        rintro rfl
        exact absurd hdot.2 (by simp)
      rw [ih, List.getLast?_cons_of_ne_nil hrest]
    · rfl

/-- Slashes and lone dots at the end do not matter to a walk. -/
theorem reaches_dropTrail (bytes : List UInt8) :
    t.Reaches place ((dropTrail bytes).reverse.splitOn slash) directory ↔
      t.Reaches place (bytes.reverse.splitOn slash) directory := by
  have hslash (front : List UInt8) :
      t.Reaches place ((front ++ [slash]).splitOn slash) directory ↔
        t.Reaches place (front.splitOn slash) directory := by
    rw [List.splitOn_append_cons_self, List.splitOn_nil]
    exact reaches_append_stay (.inl rfl)
  -- backwards along the bytes, as they are dropped
  induction bytes with
  | nil => rfl
  | cons b rest ih =>
    unfold dropTrail
    split
    · next hb =>
      split
      · next hrest => rw [hb, hrest]
      · refine ih.trans ?_
        rw [hb, List.reverse_cons, hslash]
    split
    · next hdot =>
      rcases List.head?_eq_some_iff.1 hdot.2 with ⟨front, rfl⟩
      have hperiod : slash ∉ [period] := by decide
      refine ih.trans ?_
      rw [hdot.1, List.reverse_cons (a := period), List.reverse_cons, hslash, List.append_assoc,
        List.singleton_append, List.splitOn_append_cons_self, List.splitOn_eq_singleton hperiod]
      exact (reaches_append_stay (.inr rfl)).symm
    · rfl

theorem reaches_namesBefore {bytes : List UInt8}
    (h : bytes = [] ∨ bytes.getLast? = some slash) :
    t.Reaches place (namesBefore bytes) directory ↔
      t.Reaches place (bytes.splitOn slash) directory := by
  have hsplits : Path.Splits ⟨bytes⟩ bytes [] := ⟨(List.append_nil _).symm, h, List.not_mem_nil⟩
  rw [hsplits.splitOn_eq]
  exact (reaches_append_stay (.inl rfl)).symm

theorem reaches_asDirectory (bytes : List UInt8) :
    t.Reaches place (namesBefore (Path.asDirectory bytes)) directory ↔
      t.Reaches place (bytes.splitOn slash) directory := by
  unfold Path.asDirectory
  split
  · next hends => exact reaches_namesBefore hends
  · rw [namesBefore_append_slash]

theorem head?_asDirectory (bytes : List UInt8) :
    (Path.asDirectory bytes).head? = bytes.head? := by
  unfold Path.asDirectory
  split
  · rfl
  · next hends =>
    cases bytes with
    | nil => exact absurd (.inl rfl) hends
    | cons b rest => rfl

/-- The walk along the parent of a path is the one along all but its last name. -/
theorem reaches_parent (hsplits : path.Splits before name) (hname : Ordinary name) :
    t.Reaches place (path.parent.bytes.splitOn slash) directory ↔
      t.Reaches place (namesBefore before) directory := by
  rw [hsplits.parent_bytes hname, reaches_dropTrail, List.reverse_reverse,
    reaches_namesBefore hsplits.before_ends]

theorem head?_parent (hsplits : path.Splits before name) (hname : Ordinary name) :
    path.parent.bytes.head? = before.head? := by
  rw [hsplits.parent_bytes hname, List.head?_reverse, getLast?_dropTrail, List.getLast?_reverse]

/-- The file would stand in a directory. An empty parent is the working directory. -/
def HasParent (t : FileTree) (path : Path) : Prop :=
  if path.parent.bytes = [] then t.node? t.workingDirectory = some .directory
  else t.at? path.parent = some .directory

theorem HasParent.exists_reaches (hsplits : path.Splits before name) (hname : Ordinary name)
    (h : t.HasParent path) :
    ∃ directory, t.Reaches (t.base path) (namesBefore before) directory := by
  unfold HasParent at h
  have hhead := head?_parent hsplits hname
  split at h
  · next hnil =>
    have hbefore : before = [] := by simpa [hnil, eq_comm] using hhead
    subst hbefore
    have hbase : t.base path = t.workingDirectory := by
      simp [base, hsplits.head?_eq_slash_iff]
    exact ⟨t.workingDirectory, by rw [hbase]; rfl, h⟩
  · rcases at?_eq_some_iff.1 h with ⟨directory, hresolve, hdirectory⟩
    have hbase : t.base path.parent = t.base path := by
      simp only [base, hhead, hsplits.head?_eq_slash_iff]
    refine ⟨directory, (reaches_parent hsplits hname).1 ⟨?_, hdirectory⟩⟩
    rw [← hbase]
    exact walk_of_resolve hresolve

/-- Another name in place of the last one names a spot in the same directory. -/
theorem locate_withFileName {other : Name} (hsplits : path.Splits before name)
    (hname : Ordinary name) (hother : Ordinary other) (hslash : slash ∉ other)
    (hcheck : checkPath (path.withFileName other) = .ok ())
    (h : t.Reaches (t.base path) (namesBefore before) directory) :
    t.locate (path.withFileName other) = .ok ⟨directory, other, false⟩ := by
  have hbeside := path.splits_withFileName hslash
  have hbase : t.base (path.withFileName other) = t.base path := by
    simp only [base, hbeside.head?_eq_slash_iff, head?_asDirectory, head?_parent hsplits hname,
      hsplits.head?_eq_slash_iff]
  refine (locate_eq_ok_iff hbeside hother.1).2 ⟨hcheck, directory, ?_, rfl⟩
  rw [hbase, reaches_asDirectory]
  exact (reaches_parent hsplits hname).2 h

end FileTree

end CellWidth.Files
