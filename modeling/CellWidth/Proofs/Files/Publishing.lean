import CellWidth.Files.Publish
import CellWidth.Proofs.Files.Changes
import CellWidth.Proofs.Listing.RoundTrip

/-!
# Publishing

* `t.run action` : what an action on files gives, and the tree behind it.
* `SameBut t t' paths` : the trees differ at most where one of the paths leads.
* `run_publish` : the three ways that publishing can go. The temporary file cannot be written, it
  cannot be moved over the target, or it replaces the target.
* `Replaced`, `Kept` : what is left of the tree.
* `Publishable` : what it takes to succeed.
* `publish_all_or_nothing` : the target is replaced or kept, and all else with it.
-/

namespace CellWidth.Files

open Text.Utf8 (decodeLossy encode)

variable {t t' : FileTree} {path temporary : Path} {text : String} {reason : FileFault}
  {contents : List UInt8} {α β : Type}

/-! ## Runs on trees -/

namespace FileTree

/-- What an action gives on a tree, and the tree behind it. -/
def run (t : FileTree) (action : StateM FileTree α) : α × FileTree :=
  action t

@[simp] theorem run_pure (t : FileTree) (a : α) : t.run (pure a) = (a, t) := rfl

@[simp] theorem run_bind (t : FileTree) (action : StateM FileTree α)
    (next : α → StateM FileTree β) :
    t.run (action >>= next) = (t.run action).2.run (next (t.run action).1) := rfl

@[simp] theorem run_openFile (t : FileTree) (path : Path) :
    t.run (FileSystem.openFile path) = (t.openFile path, t) := rfl

@[simp] theorem run_remove (t : FileTree) (path : Path) :
    t.run (FileSystem.remove path) = ((), t.remove path) := rfl

theorem run_attempt_of_ok {change : FileTree → Except FileFault FileTree} (h : change t = .ok t') :
    t.run (attempt change) = (.ok (), t') := by
  simp only [run, attempt, h]

theorem run_attempt_of_error {change : FileTree → Except FileFault FileTree}
    (h : change t = .error reason) : t.run (attempt change) = (.error reason, t) := by
  simp only [run, attempt, h]

/-! ## Trees that differ in few places -/

/-- The path leads to the place, in one of two trees. -/
def Leads (t t' : FileTree) (path : Path) (place : Place) : Prop :=
  t.resolve path = .ok place ∨ t'.resolve path = .ok place

/-- The trees differ at most where one of the paths leads: they hold the same at all other places,
and the same is found by all paths that lead elsewhere. -/
structure SameBut (t t' : FileTree) (paths : List Path) : Prop where
  workingDirectory : t'.workingDirectory = t.workingDirectory
  node?_eq : ∀ place, (∀ path ∈ paths, ¬ Leads t t' path place) → t'.node? place = t.node? place
  at?_eq : ∀ other, (∀ place, Leads t t' other place → ∀ path ∈ paths, ¬ Leads t t' path place) →
    t'.at? other = t.at? other

theorem SameBut.refl (t : FileTree) (paths : List Path) : SameBut t t paths :=
  ⟨rfl, fun _ _ => rfl, fun _ _ => rfl⟩

/-- With the same directories, it is enough to look at places. -/
theorem SameDirectories.sameBut {paths : List Path} (h : SameDirectories t t')
    (hnode : ∀ place, (∀ path ∈ paths, ¬ Leads t t' path place) →
      t'.node? place = t.node? place) : SameBut t t' paths :=
  ⟨h.workingDirectory, hnode, fun _ hother => h.at?_eq fun place hplace =>
    hnode place (hother place hplace)⟩

end FileTree

open FileTree

/-! ## The steps of publishing -/

theorem run_publish_of_no_name (h : path.temporary? = none) (t : FileTree) (text : String) :
    t.run (publish path text) =
      (Run.ofExcept (.error (.file path.display .noFileName)), t) := by
  simp only [publish, h, run_pure]

theorem run_replaceVia_of_uncreated (hcreate : t.create temporary contents = .error reason) :
    t.run (replaceVia temporary path contents) = (.error reason, t) := by
  have hrun : t.run (FileSystem.create temporary contents) = (.error reason, t) :=
    run_attempt_of_error hcreate
  simp only [replaceVia, run_bind, hrun, run_pure]

theorem run_replaceVia_of_created (hcreate : t.create temporary contents = .ok t') :
    t.run (replaceVia temporary path contents) = t'.run (FileSystem.rename temporary path) := by
  have hrun : t.run (FileSystem.create temporary contents) = (.ok (), t') :=
    run_attempt_of_ok hcreate
  simp only [replaceVia, run_bind, hrun]

theorem run_publish_of_refused (h : path.temporary? = some temporary)
    (hreplace : t.run (replaceVia temporary path (encode text)) = (.error reason, t')) :
    t.run (publish path text) =
      (Run.ofExcept (.error (.file path.display reason)), t'.remove temporary) := by
  simp only [publish, h, run_bind, hreplace, run_remove, run_pure]

theorem run_publish_of_replaced (h : path.temporary? = some temporary)
    (hreplace : t.run (replaceVia temporary path (encode text)) = (.ok (), t')) :
    t.run (publish path text) = (Run.note [.written path.display (encode text).length], t') := by
  simp only [publish, h, run_bind, hreplace, run_pure]

/-- The three ways that publishing can go, by where a file can be written: at the temporary path
and at the target, not at the temporary path, or at the temporary path only. -/
theorem run_publish (h : path.temporary? = some temporary) (t : FileTree) (text : String) :
    (∃ spot destination, t.Writable temporary spot ∧ t.Writable path destination ∧
      t.run (publish path text) = (Run.note [.written path.display (encode text).length],
        (t.erase spot.place).insert destination.place (.file (encode text)))) ∨
    (∃ reason, (∀ spot, ¬ t.Writable temporary spot) ∧
      t.run (publish path text) = (Run.ofExcept (.error (.file path.display reason)), t)) ∨
    ∃ spot reason, t.Writable temporary spot ∧ (∀ destination, ¬ t.Writable path destination) ∧
      t.run (publish path text) =
        (Run.ofExcept (.error (.file path.display reason)), t.erase spot.place) := by
  cases hcreate : t.create temporary (encode text) with
  | error reason =>
    have hnot : ∀ spot, ¬ t.Writable temporary spot := by
      intro spot hspot
      rw [create_eq_ok_iff.2 ⟨spot, hspot, rfl⟩] at hcreate
      cases hcreate
    refine .inr (.inl ⟨reason, hnot, ?_⟩)
    rw [run_publish_of_refused h (run_replaceVia_of_uncreated hcreate), remove_of_not_writable hnot]
  | ok created =>
    rcases create_eq_ok_iff.1 hcreate with ⟨spot, hspot, rfl⟩
    have hsame := sameDirectories_insert spot.place_ne_nil hspot.noDirectory (encode text)
    have hspot' := hspot.of_sameDirectories hsame
    have hnode := node?_insert_self t spot.place_ne_nil (.file (encode text))
    cases hrename : (t.insert spot.place (.file (encode text))).rename temporary path with
    | error reason =>
      have hnot : ∀ destination, ¬ t.Writable path destination := by
        intro destination hdestination
        rw [rename_eq_ok_iff.2 ⟨spot, destination, _, hspot', hnode,
          hdestination.of_sameDirectories hsame, rfl⟩] at hrename
        cases hrename
      have hreplace := (run_replaceVia_of_created hcreate).trans (run_attempt_of_error hrename)
      refine .inr (.inr ⟨spot, reason, hspot, hnot, ?_⟩)
      rw [run_publish_of_refused h hreplace, remove_of_file hspot' hnode, erase_insert]
    | ok renamed =>
      rcases rename_eq_ok_iff.1 hrename with
        ⟨origin, destination, bytes, horigin, hbytes, hdestination, rfl⟩
      -- the file that is moved is the one that has been written
      obtain rfl : spot = origin := Except.ok.inj (hspot'.located.symm.trans horigin.located)
      obtain rfl : encode text = bytes := by simpa [hnode] using hbytes
      have hreplace := (run_replaceVia_of_created hcreate).trans (run_attempt_of_ok hrename)
      refine .inl ⟨spot, destination, hspot, hdestination.of_sameDirectories hsame.symm, ?_⟩
      rw [run_publish_of_replaced h hreplace, erase_insert]

/-! ## What is left -/

/-- The target has been replaced: it is a file with the contents, the temporary file is gone, and
all else is as it was. -/
structure Replaced (path temporary : Path) (contents : List UInt8) (t t' : FileTree) : Prop where
  target : t'.at? path = some (.file contents)
  cleared : t'.at? temporary = none
  others : SameBut t t' [path, temporary]

/-- The target has been kept, and all else with it, but for a temporary file that was there before:
there is none any more. -/
structure Kept (path temporary : Path) (t t' : FileTree) : Prop where
  target : t'.at? path = t.at? path
  others : SameBut t t' [temporary]
  noFile : ∀ contents, t'.at? temporary ≠ some (.file contents)
  directory : t.at? temporary = some .directory → t' = t
  absent : t.at? temporary = none → t' = t

/-- The place of the temporary file has another name than the file. -/
theorem exists_name_ne {spot : Spot} (h : path.temporary? = some temporary)
    (hspot : t.Writable temporary spot) :
    ∃ name, path.fileName? = some name ∧ ∀ directory, spot.place ≠ name :: directory := by
  rcases Path.splits_of_temporary? h with ⟨name, hname, hsplits⟩
  have hspotName : temporaryName name = spot.name :=
    Option.some.inj ((hsplits.fileName?_eq (ordinary_temporaryName name)).symm.trans
      hspot.fileName?_eq)
  refine ⟨name, hname, fun directory heq => temporaryName_ne name ?_⟩
  rw [hspotName]
  exact (List.cons.inj heq).1

/-- Taking away a file changes nothing but the place that its path led to. -/
theorem node?_erase_of_not_leads {spot : Spot} {place : Place} (hspot : t.Writable temporary spot)
    (hplace : ¬ Leads t t' temporary place) :
    (t.erase spot.place).node? place = t.node? place := by
  by_cases heq : place = spot.place
  · subst heq
    rw [node?_erase_self t spot.place_ne_nil]
    by_contra hnode
    refine hplace (.inl ?_)
    exact (resolve_eq_ok_iff_of_locate hspot.located hspot.proper).2 ⟨Ne.symm hnode, rfl⟩
  · exact node?_erase_of_ne t heq

theorem replaced_of_writable {spot destination : Spot} (h : path.temporary? = some temporary)
    (hspot : t.Writable temporary spot) (hdestination : t.Writable path destination) :
    Replaced path temporary contents t
      ((t.erase spot.place).insert destination.place (.file contents)) := by
  have herase := sameDirectories_erase spot.place_ne_nil hspot.noDirectory
  have hsame := herase.trans (sameDirectories_insert destination.place_ne_nil
    (hdestination.of_sameDirectories herase).noDirectory contents)
  have hne : spot.place ≠ destination.place := by
    rcases exists_name_ne h hspot with ⟨name, hname, hplace⟩
    obtain rfl : destination.name = name := by
      rwa [hdestination.fileName?_eq, Option.some.injEq] at hname
    exact hplace destination.directory
  have htarget := (hdestination.of_sameDirectories hsame).at?_eq
  have htemporary := (hspot.of_sameDirectories hsame).at?_eq
  rw [node?_insert_self _ destination.place_ne_nil] at htarget
  rw [node?_insert_of_ne _ hne, node?_erase_self _ spot.place_ne_nil] at htemporary
  refine ⟨htarget, htemporary, hsame.sameBut fun place hplace => ?_⟩
  have hplaceTarget : place ≠ destination.place := by
    rintro rfl
    refine hplace path (by simp) (.inr ?_)
    exact (resolve_eq_ok_iff_of_locate (hdestination.of_sameDirectories hsame).located
      hdestination.proper).2 ⟨by simp [node?_insert_self _ destination.place_ne_nil], rfl⟩
  rw [node?_insert_of_ne _ hplaceTarget]
  exact node?_erase_of_not_leads hspot (hplace temporary (by simp))

/-- Nothing is lost where no temporary file could have been written. -/
theorem kept_of_not_writable (h : path.temporary? = some temporary)
    (hnot : ∀ spot, ¬ t.Writable temporary spot) : Kept path temporary t t := by
  refine ⟨rfl, .refl t _, fun contents hfile => ?_, fun _ => rfl, fun _ => rfl⟩
  rcases Path.splits_of_temporary? h with ⟨name, -, hsplits⟩
  rcases exists_writable_of_file hsplits (ordinary_temporaryName name) hfile with ⟨spot, hspot⟩
  exact hnot spot hspot

theorem kept_of_writable {spot : Spot} (h : path.temporary? = some temporary)
    (hspot : t.Writable temporary spot) : Kept path temporary t (t.erase spot.place) := by
  have hsame := sameDirectories_erase spot.place_ne_nil hspot.noDirectory
  have hnone := node?_erase_self t spot.place_ne_nil
  have htemporary : (t.erase spot.place).at? temporary = none := by
    rw [(hspot.of_sameDirectories hsame).at?_eq, hnone]
  constructor
  case target =>
    -- the target is elsewhere, by its name, or a directory
    rcases exists_name_ne h hspot with ⟨name, hname, hname'⟩
    refine hsame.at?_eq fun place hplace => node?_erase_of_ne t ?_
    rintro rfl
    have hcons : ∃ directory, spot.place = name :: directory := by
      rcases hplace with hplace | hplace
      · exact eq_cons_of_resolve hname hplace hspot.noDirectory
      · exact eq_cons_of_resolve hname hplace (by simp [hnone])
    rcases hcons with ⟨directory, hcons⟩
    exact hname' directory hcons
  case others =>
    exact hsame.sameBut fun place hplace =>
      node?_erase_of_not_leads hspot (hplace temporary (by simp))
  case noFile => simp [htemporary]
  case directory =>
    intro hdirectory
    rw [hspot.at?_eq] at hdirectory
    exact absurd hdirectory hspot.noDirectory
  case absent =>
    intro habsent
    rw [hspot.at?_eq] at habsent
    exact erase_of_node?_eq_none habsent

/-! ## When publishing succeeds -/

/-- The path and each name in it are short enough. -/
def Path.WithinLimits (path : Path) : Prop :=
  path.bytes.length < pathLimit ∧ ∀ name ∈ path.bytes.splitOn slash, name.length ≤ nameLimit

/-- The path ends in the name of an entry, in a directory that exists; neither it nor its temporary
path is too long or leads to a directory. -/
structure Publishable (t : FileTree) (path : Path) : Prop where
  named : ∃ before name, path.Splits before name ∧ Ordinary name
  noNul : 0 ∉ path.bytes
  parent : t.HasParent path
  limits : path.WithinLimits
  temporaryLimits : ∀ temporary, path.temporary? = some temporary → temporary.WithinLimits
  noDirectory : t.at? path ≠ some .directory
  noTemporaryDirectory : ∀ temporary, path.temporary? = some temporary →
    t.at? temporary ≠ some .directory

/-- The temporary path names a file beside the one that the path names. -/
theorem locate_temporary {spot : Spot} (h : path.temporary? = some temporary)
    (hspot : t.locate path = .ok spot) (hproper : spot.Proper)
    (hlimit : temporary.bytes.length < pathLimit) :
    t.locate temporary = .ok ⟨spot.directory, temporaryName spot.name, false⟩ := by
  have hname := hproper.ordinary
  rcases splits_of_locate hspot hproper with ⟨before, hsplits⟩
  rcases (locate_eq_ok_iff hsplits hname.1).1 hspot with ⟨hcheck, directory, hreaches, heq⟩
  obtain rfl : directory = spot.directory := by rw [heq]
  obtain rfl : path.withFileName (temporaryName spot.name) = temporary :=
    Option.some.inj ((hsplits.temporary?_eq hname).symm.trans h)
  have hslash := slash_not_mem_temporaryName hsplits.slash_not_mem
  have hbeside := path.splits_withFileName hslash
  have hnul := (checkPath_eq_ok_iff.1 hcheck).1
  have hnulName : 0 ∉ spot.name := by
    intro hmem
    rw [hsplits.bytes_eq] at hnul
    exact hnul (List.mem_append_right before hmem)
  refine locate_withFileName hsplits hname (ordinary_temporaryName _) hslash
    (checkPath_eq_ok_iff.2 ⟨?_, ?_, hlimit⟩) hreaches
  · rw [hbeside.bytes_eq, List.mem_append]
    intro hmem
    rcases hmem with hmem | hmem
    · rcases Path.mem_of_mem_asDirectory hmem with hmem | hmem
      · exact hnul (Path.mem_of_mem_parent hmem)
      · exact absurd hmem (by decide)
    · exact nul_not_mem_temporaryName hnulName hmem
  · simp [hbeside.bytes_eq, (ordinary_temporaryName spot.name).1]

/-- Such a path and its temporary path both have a spot at which a file can be written. -/
theorem Publishable.exists_writable (h : Publishable t path) :
    ∃ temporary spot destination, path.temporary? = some temporary ∧
      t.Writable temporary spot ∧ t.Writable path destination := by
  rcases h.named with ⟨before, name, hsplits, hname⟩
  rcases h.parent.exists_reaches hsplits hname with ⟨directory, hreaches⟩
  have htemporary := hsplits.temporary?_eq hname
  have hlimits := h.temporaryLimits _ htemporary
  have hcheck : checkPath path = .ok () := by
    refine checkPath_eq_ok_iff.2 ⟨h.noNul, ?_, h.limits.1⟩
    simp [hsplits.bytes_eq, hname.1]
  have hdestination : t.locate path = .ok ⟨directory, name, false⟩ :=
    (locate_eq_ok_iff hsplits hname.1).2 ⟨hcheck, directory, hreaches, rfl⟩
  have hproper : Spot.Proper ⟨directory, name, false⟩ :=
    ⟨rfl, hname, h.limits.2 name (by simp [hsplits.splitOn_eq])⟩
  have hspot := locate_temporary htemporary hdestination hproper hlimits.1
  have hbeside := path.splits_withFileName (slash_not_mem_temporaryName hsplits.slash_not_mem)
  have hproperTemporary : Spot.Proper ⟨directory, temporaryName name, false⟩ :=
    ⟨rfl, ordinary_temporaryName name, hlimits.2 _ (by simp [hbeside.splitOn_eq])⟩
  exact ⟨_, _, _, htemporary,
    .of_at? hspot hproperTemporary (h.noTemporaryDirectory _ htemporary),
    .of_at? hdestination hproper h.noDirectory⟩

/-! ## Writing listings -/

theorem run_write_of_error {tables : Tables} {fault : Fault}
    (h : Listing.render? (.ofPath path) tables = .error fault) (t : FileTree) :
    t.run (write path tables) = (Run.ofExcept (.error fault), t) := by
  simp only [write, h, run_pure]

theorem run_write_of_ok {tables : Tables}
    (h : Listing.render? (.ofPath path) tables = .ok text) (t : FileTree) :
    t.run (write path tables) = t.run (publish path text) := by
  simp only [write, h]

/-! ## All or nothing -/

theorem replaced_of_ok (h : (t.run (publish path text)).1.result = .ok ()) :
    ∃ temporary, path.temporary? = some temporary ∧
      Replaced path temporary (encode text) t (t.run (publish path text)).2 := by
  cases htemporary : path.temporary? with
  | none =>
    rw [run_publish_of_no_name htemporary] at h
    cases h
  | some temporary =>
    rcases run_publish htemporary t text with ⟨spot, destination, hspot, hdestination, hrun⟩ |
      ⟨reason, -, hrun⟩ | ⟨spot, reason, -, -, hrun⟩ <;> rw [hrun] at h ⊢
    · exact ⟨temporary, rfl, replaced_of_writable htemporary hspot hdestination⟩
    · cases h
    · cases h

theorem kept_of_error {fault : Fault} (h : (t.run (publish path text)).1.result = .error fault)
    (htemporary : path.temporary? = some temporary) :
    Kept path temporary t (t.run (publish path text)).2 := by
  rcases run_publish htemporary t text with ⟨spot, destination, -, -, hrun⟩ |
    ⟨reason, hnot, hrun⟩ | ⟨spot, reason, hspot, -, hrun⟩ <;> rw [hrun] at h ⊢
  · cases h
  · exact kept_of_not_writable htemporary hnot
  · exact kept_of_writable htemporary hspot

/-- When a listing could not be written, the tree is as it was, unless there was a temporary file
already: then this file may be gone. -/
theorem eq_or_kept_of_write_error {tables : Tables} {fault : Fault}
    (h : (t.run (write path tables)).1.result = .error fault) :
    (t.run (write path tables)).2 = t ∨
      ∃ listing temporary contents, Listing.render? (.ofPath path) tables = .ok listing ∧
        path.temporary? = some temporary ∧ t.at? temporary = some (.file contents) ∧
        Kept path temporary t (t.run (write path tables)).2 := by
  cases hrender : Listing.render? (.ofPath path) tables with
  | error reason => exact .inl (by rw [run_write_of_error hrender])
  | ok listing =>
    rw [run_write_of_ok hrender] at h ⊢
    cases htemporary : path.temporary? with
    | none => exact .inl (by rw [run_publish_of_no_name htemporary])
    | some temporary =>
      have hkept := kept_of_error h htemporary
      match hnode : t.at? temporary with
      | none => exact .inl (hkept.absent hnode)
      | some .directory => exact .inl (hkept.directory hnode)
      | some (.file contents) => exact .inr ⟨listing, temporary, contents, rfl, rfl, hnode, hkept⟩

theorem Publishable.result_eq_ok (h : Publishable t path) (text : String) :
    (t.run (publish path text)).1.result = .ok () := by
  rcases h.exists_writable with ⟨temporary, spot, destination, htemporary, hspot, hdestination⟩
  rcases run_publish htemporary t text with ⟨spot, destination, -, -, hrun⟩ |
    ⟨reason, hnot, hrun⟩ | ⟨spot, reason, -, hnot, hrun⟩
  · rw [hrun]
    rfl
  · exact absurd hspot (hnot _)
  · exact absurd hdestination (hnot _)

/-- **All or nothing.** The temporary path is that of a file beside the target. If publishing
succeeds, the target is replaced; if it is refused, the target is kept; and it is not refused where
a file can be written. Tables that fail the check leave the tree as it was; all others are published
as their listing. -/
theorem publish_all_or_nothing (t : FileTree) (path : Path) (text : String) (tables : Tables) :
    (∀ temporary spot, path.temporary? = some temporary → t.Writable path spot →
      temporary.bytes.length < pathLimit → t.locate temporary =
        .ok ⟨spot.directory, encode ("." ++ decodeLossy spot.name ++ ".tmp"), false⟩) ∧
    ((t.run (publish path text)).1.result = .ok () →
      ∃ temporary, path.temporary? = some temporary ∧
        Replaced path temporary (encode text) t (t.run (publish path text)).2) ∧
    (∀ fault, (t.run (publish path text)).1.result = .error fault →
      (path.temporary? = none → (t.run (publish path text)).2 = t) ∧
      ∀ temporary, path.temporary? = some temporary →
        Kept path temporary t (t.run (publish path text)).2) ∧
    (Publishable t path → (t.run (publish path text)).1.result = .ok ()) ∧
    ((∃ width, Table.check width (tables.get width) ≠ .ok ()) →
      ∃ fault, Listing.render? (.ofPath path) tables = .error fault ∧
        t.run (write path tables) = (Run.ofExcept (.error fault), t)) ∧
    ((∀ width, Table.check width (tables.get width) = .ok ()) →
      ∃ listing, Listing.render? (.ofPath path) tables = .ok listing ∧
        t.run (write path tables) = t.run (publish path listing)) := by
  refine ⟨?_, replaced_of_ok, ?_, fun h => h.result_eq_ok text, ?_, ?_⟩
  · intro temporary spot h hspot hlimit
    exact locate_temporary h hspot.located hspot.proper hlimit
  · intro fault h
    refine ⟨fun hnone => ?_, fun temporary htemporary => kept_of_error h htemporary⟩
    rw [run_publish_of_no_name hnone]
  · intro hbad
    cases hrender : Listing.render? (.ofPath path) tables with
    | error fault => exact ⟨fault, rfl, run_write_of_error hrender t⟩
    | ok listing =>
      rcases hbad with ⟨width, hwidth⟩
      exact absurd (Listing.exists_render?_eq_ok_iff.1 ⟨listing, hrender⟩ width) hwidth
  · intro hgood
    rcases Listing.exists_render?_eq_ok_iff.2 hgood with ⟨listing, hrender⟩
    exact ⟨listing, hrender, run_write_of_ok hrender t⟩

/-- Two property files, and a directory beside which a temporary file was left behind. -/
def sampleTree : FileTree where
  nodes := [([encode "gc"], .file (encode "0378;Cn\n0300;Mn\n")),
    ([encode "eaw"], .file (encode "3000;F\n")), ([encode "d"], .directory),
    ([encode ".d.tmp"], .file [0])]
  workingDirectory := []

theorem publishable_sampleTree : Publishable sampleTree (.ofString "gc") := by
  have htemporary : (Path.ofString "gc").temporary? = some (.ofString ".gc.tmp") := rfl
  have hlimits : (Path.ofString ".gc.tmp").WithinLimits := ⟨by decide, by decide⟩
  have hnoDirectory : sampleTree.at? (.ofString ".gc.tmp") ≠ some .directory := by decide
  constructor
  case named => exact ⟨[], encode "gc", ⟨rfl, .inl rfl, by decide⟩, by decide⟩
  case noNul => decide
  case parent => rfl
  case limits => exact ⟨by decide, by decide⟩
  case temporaryLimits => simpa [htemporary] using hlimits
  case noDirectory => decide
  case noTemporaryDirectory => simpa [htemporary] using hnoDirectory

/-- No text can be written where the directory is. -/
theorem result_publish_directory (text : String) :
    (sampleTree.run (publish (.ofString "d") text)).1.result = .error (.file "d" .isDirectory) :=
  rfl

/-- A file is replaced; a directory is kept, but not what was left behind; and no table is written
that is empty. -/
theorem publish_all_or_nothing_of_sampleTree :
    (∃ temporary, (Path.ofString "gc").temporary? = some temporary ∧
      Replaced (.ofString "gc") temporary (encode "new") sampleTree
        (sampleTree.run (publish (.ofString "gc") "new")).2) ∧
    Kept (.ofString "d") (.ofString ".d.tmp") sampleTree
      (sampleTree.run (publish (.ofString "d") "new")).2 ∧
    (∃ fault, Listing.render? (.ofPath (.ofString "gc")) Tables.empty = .error fault ∧
      sampleTree.run (write (.ofString "gc") Tables.empty) =
        (Run.ofExcept (.error fault), sampleTree)) ∧
    ∃ listing, Listing.render? (.ofPath (.ofString "gc")) Listing.sampleTables = .ok listing ∧
      sampleTree.run (write (.ofString "gc") Listing.sampleTables) =
        sampleTree.run (publish (.ofString "gc") listing) := by
  rcases publish_all_or_nothing sampleTree (.ofString "gc") "new" Tables.empty with
    ⟨-, hreplaced, -, hready, hbad, -⟩
  rcases publish_all_or_nothing sampleTree (.ofString "d") "new" Tables.empty with
    ⟨-, -, hkept, -⟩
  rcases publish_all_or_nothing sampleTree (.ofString "gc") "new" Listing.sampleTables with
    ⟨-, -, -, -, -, hgood⟩
  refine ⟨hreplaced (hready publishable_sampleTree), ?_, hbad ⟨.invalid, by decide⟩, hgood ?_⟩
  · exact (hkept _ (result_publish_directory "new")).2 _ rfl
  · intro width
    cases width <;> rfl

end CellWidth.Files
