import CellWidth.Proofs.Files.Walks

/-!
# What changes to a tree do

* `t.Writable path spot` : a file can be written at the spot of the path.
* `create_eq_ok_iff`, `rename_eq_ok_iff`, `remove_of_file`, `remove_of_not_writable` : each change is
  made at such spots, and this is all that it does.
* `sameDirectories_insert`, `sameDirectories_erase` : files come and go without a change to the
  directories.
* `erase_insert`, `erase_of_node?_eq_none` : taking away what was put where there was nothing gives
  back the tree itself.
-/

namespace CellWidth.Files.FileTree

variable {t t' : FileTree} {place : Place} {path source target : Path} {spot origin destination : Spot}
  {contents : List UInt8} {node : Node}

/-! ## One place -/

theorem erase_insert (t : FileTree) (place : Place) (node : Node) :
    (t.insert place node).erase place = t.erase place := by
  simp [erase, insert, List.filter_filter]

theorem erase_of_node?_eq_none (hnode : t.node? place = none) : t.erase place = t := by
  unfold node? at hnode
  split at hnode
  · cases hnode
  · rw [List.lookup_eq_none_iff] at hnode
    have hkept : (t.nodes.filter fun entry => entry.1 ≠ place) = t.nodes := by
      refine List.filter_eq_self.2 fun entry hentry => ?_
      have hne := hnode entry hentry
      rw [bne_iff_ne] at hne
      exact decide_eq_true (Ne.symm hne)
    rw [erase, hkept]

theorem sameDirectories_insert (hplace : place ≠ []) (hbefore : t.node? place ≠ some .directory)
    (contents : List UInt8) : SameDirectories t (t.insert place (.file contents)) := by
  refine ⟨rfl, fun other => ?_⟩
  by_cases hother : other = place
  · subst hother
    rw [node?_insert_self t hplace]
    simp [hbefore]
  · rw [node?_insert_of_ne t hother]

theorem sameDirectories_erase (hplace : place ≠ []) (hbefore : t.node? place ≠ some .directory) :
    SameDirectories t (t.erase place) := by
  refine ⟨rfl, fun other => ?_⟩
  by_cases hother : other = place
  · subst hother
    rw [node?_erase_self t hplace]
    simp [hbefore]
  · rw [node?_erase_of_ne t hother]

/-! ## Changes -/

/-- A file can be written at the spot of the path: it is proper, and holds no directory. -/
structure Writable (t : FileTree) (path : Path) (spot : Spot) : Prop where
  located : t.locate path = .ok spot
  proper : spot.Proper
  noDirectory : t.node? spot.place ≠ some .directory

theorem Writable.of_sameDirectories (h : t.Writable path spot) (hsame : SameDirectories t t') :
    t'.Writable path spot :=
  ⟨hsame.locate h.located h.proper, h.proper,
    fun hdirectory => h.noDirectory ((hsame.directory_iff _).1 hdirectory)⟩

theorem Writable.at?_eq (h : t.Writable path spot) : t.at? path = t.node? spot.place :=
  at?_of_locate h.located h.proper

theorem Writable.of_at? (hspot : t.locate path = .ok spot) (hproper : spot.Proper)
    (hnode : t.at? path ≠ some .directory) : t.Writable path spot :=
  ⟨hspot, hproper, by rwa [← at?_of_locate hspot hproper]⟩

/-- A file that is there can be written, by the paths that end in its name. -/
theorem exists_writable_of_file {before : List UInt8} {name : Name}
    (hsplits : path.Splits before name) (hname : Ordinary name)
    (hfile : t.at? path = some (.file contents)) : ∃ spot, t.Writable path spot := by
  rcases at?_eq_some_iff.1 hfile with ⟨place, hresolve, -⟩
  rcases exists_proper_of_resolve hsplits hname hresolve with ⟨spot, hspot, hproper⟩
  exact ⟨spot, .of_at? hspot hproper (by simp [hfile])⟩

/-- A path at which a file can be written has the name of its spot as file name. -/
theorem Writable.fileName?_eq (h : t.Writable path spot) : path.fileName? = some spot.name := by
  rcases splits_of_locate h.located h.proper with ⟨before, hsplits⟩
  exact hsplits.fileName?_eq h.proper.ordinary

theorem create_eq_ok_iff : t.create path contents = .ok t' ↔
    ∃ spot, t.Writable path spot ∧ t' = t.insert spot.place (.file contents) := by
  unfold create
  constructor
  · intro hcreate
    split at hcreate
    · cases hcreate
    · next spot hspot =>
      split at hcreate
      · cases hcreate
      split at hcreate
      · cases hcreate
      split at hcreate
      · cases hcreate
      · next hname hlong hdirectory =>
        rw [not_or, Bool.not_eq_true, not_not] at hname
        exact ⟨spot, ⟨hspot, ⟨hname.1, hname.2, Nat.not_lt.1 hlong⟩, hdirectory⟩,
          (Except.ok.inj hcreate).symm⟩
  · intro hcreate
    rcases hcreate with ⟨spot, ⟨hspot, hproper, hdirectory⟩, rfl⟩
    have hname : ¬ (spot.slashed = true ∨ ¬ Ordinary spot.name) := by
      simp [hproper.unslashed, hproper.ordinary]
    rw [hspot]
    dsimp only
    rw [if_neg hname, if_neg (Nat.not_lt.2 hproper.short), if_neg hdirectory]

theorem move_eq_ok_iff : t.move origin destination = .ok t' ↔
    origin.Proper ∧ destination.Proper ∧ t.node? destination.place ≠ some .directory ∧
      ∃ contents, t.node? origin.place = some (.file contents) ∧
        t' = (t.erase origin.place).insert destination.place (.file contents) := by
  unfold move
  constructor
  · intro hmove
    split at hmove
    · cases hmove
    split at hmove
    · cases hmove
    split at hmove
    · cases hmove
    · cases hmove
    split at hmove
    · cases hmove
    split at hmove
    · cases hmove
    split at hmove
    · cases hmove
    · next hnames hlong _ contents hnode hlong' hslashed hdirectory =>
      rw [not_or, not_not, not_not] at hnames
      rw [not_or, Bool.not_eq_true, Bool.not_eq_true] at hslashed
      exact ⟨⟨hslashed.1, hnames.1, Nat.not_lt.1 hlong⟩,
        ⟨hslashed.2, hnames.2, Nat.not_lt.1 hlong'⟩, hdirectory, contents, hnode,
        (Except.ok.inj hmove).symm⟩
  · intro hmove
    rcases hmove with ⟨horigin, hdestination, hdirectory, contents, hnode, rfl⟩
    have hnames : ¬ (¬ Ordinary origin.name ∨ ¬ Ordinary destination.name) := by
      simp [horigin.ordinary, hdestination.ordinary]
    have hslashed : ¬ (origin.slashed = true ∨ destination.slashed = true) := by
      simp [horigin.unslashed, hdestination.unslashed]
    rw [if_neg hnames, if_neg (Nat.not_lt.2 horigin.short), hnode]
    dsimp only
    rw [if_neg (Nat.not_lt.2 hdestination.short), if_neg hslashed, if_neg hdirectory]

/-- A file is moved from its spot to one at which a file can be written. -/
theorem rename_eq_ok_iff : t.rename source target = .ok t' ↔
    ∃ origin destination contents, t.Writable source origin ∧
      t.node? origin.place = some (.file contents) ∧ t.Writable target destination ∧
        t' = (t.erase origin.place).insert destination.place (.file contents) := by
  unfold rename
  constructor
  · intro hrename
    split at hrename
    · cases hrename
    · next origin horigin =>
      split at hrename
      · cases hrename
      · next destination hdestination =>
        rcases move_eq_ok_iff.1 hrename with
          ⟨hproper, hproper', hdirectory, contents, hnode, rfl⟩
        have hfile : t.node? origin.place ≠ some .directory := by simp [hnode]
        exact ⟨origin, destination, contents, ⟨horigin, hproper, hfile⟩, hnode,
          ⟨hdestination, hproper', hdirectory⟩, rfl⟩
  · intro hrename
    rcases hrename with ⟨origin, destination, contents, horigin, hnode, hdestination, rfl⟩
    rw [horigin.located, hdestination.located]
    exact move_eq_ok_iff.2 ⟨horigin.proper, hdestination.proper, hdestination.noDirectory, contents,
      hnode, rfl⟩

/-- A file at its spot is removed. -/
theorem remove_of_file (hspot : t.Writable path spot)
    (hnode : t.node? spot.place = some (.file contents)) : t.remove path = t.erase spot.place := by
  have hname : ¬ (spot.slashed = true ∨ ¬ Ordinary spot.name ∨ nameLimit < spot.name.length) := by
    simp [hspot.proper.unslashed, hspot.proper.ordinary, hspot.proper.short]
  unfold remove
  rw [hspot.located]
  dsimp only
  rw [if_neg hname, hnode]

/-- Where no file could be written, none is removed. -/
theorem remove_of_not_writable (h : ∀ spot, ¬ t.Writable path spot) : t.remove path = t := by
  unfold remove
  split
  · rfl
  · next spot hspot =>
    split
    · rfl
    · next hname =>
      rw [not_or, not_or, Bool.not_eq_true, not_not, Nat.not_lt] at hname
      split
      · next contents hnode =>
        have hfile : t.node? spot.place ≠ some .directory := by simp [hnode]
        exact absurd ⟨hspot, ⟨hname.1, hname.2.1, hname.2.2⟩, hfile⟩ (h spot)
      · rfl

end CellWidth.Files.FileTree
