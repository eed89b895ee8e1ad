import CellWidth.Fault
import CellWidth.Files.Path

/-!
# File trees

A file system without links and permissions, as a value: which places hold a file or a directory,
and which directory relative paths start from.

* `t.node? place` : the view that all operations are explained by.
* `t.resolve path` : the place that a path leads to, name by name. Every name but the last has to
  be a directory, and a slash or a dot behind a name asks the same of that name.
* `t.openFile`, `t.create`, `t.rename`, `t.remove` : what a program does to files. Each either
  gives a tree that differs at the places it names, or a `FileFault` and no tree.

**Scope.** Only files are made, moved and removed; directories stay as they are. A directory is
opened like a file and refuses only to be read.
-/

namespace CellWidth.Files

/-- Names from the innermost out; the root is the empty list. -/
abbrev Place := List Name

/-- What a place can hold. -/
inductive Node where
  | file (contents : List UInt8)
  | directory
deriving DecidableEq, Repr

/-- A tree of files. -/
structure FileTree where
  nodes : List (Place × Node)
  /-- Where relative paths start. -/
  workingDirectory : Place
deriving Repr

/-- The most bytes a name may have. -/
def nameLimit : Nat := 255

/-- The least number of bytes at which a path is too long. -/
def pathLimit : Nat := 4096

/-- The name that stays where it is. -/
def here : Name := [period]

/-- The name that leads outwards. -/
def outward : Name := [period, period]

/-- The name is that of an entry and not a step of a walk. -/
def Ordinary (name : Name) : Prop :=
  name ≠ [] ∧ name ≠ here ∧ name ≠ outward

instance (name : Name) : Decidable (Ordinary name) :=
  inferInstanceAs (Decidable (_ ∧ _))

namespace FileTree

/-! ## The view -/

/-- What a place holds. The root is always a directory. -/
def node? (t : FileTree) (place : Place) : Option Node :=
  if place = [] then some .directory else t.nodes.lookup place

/-- The tree with a node at a place. -/
def insert (t : FileTree) (place : Place) (node : Node) : FileTree :=
  { t with nodes := (place, node) :: t.nodes.filter fun entry => entry.1 ≠ place }

/-- The tree with nothing at a place. -/
def erase (t : FileTree) (place : Place) : FileTree :=
  { t with nodes := t.nodes.filter fun entry => entry.1 ≠ place }

theorem lookup_filter_of_ne {place other : Place} (h : other ≠ place)
    (nodes : List (Place × Node)) :
    (nodes.filter fun entry => entry.1 ≠ place).lookup other = nodes.lookup other := by
  induction nodes with
  | nil => rfl
  | cons entry nodes ih =>
    by_cases hentry : entry.1 = place
    · rw [List.filter_cons_of_neg (by simpa using hentry), ih, List.lookup_cons,
        beq_eq_false_iff_ne.2 (hentry ▸ h)]
    · rw [List.filter_cons_of_pos (by simpa using hentry), List.lookup_cons, List.lookup_cons, ih]

theorem node?_insert_self (t : FileTree) {place : Place} (h : place ≠ []) (node : Node) :
    (t.insert place node).node? place = some node := by
  simp [node?, insert, h]

theorem node?_insert_of_ne (t : FileTree) {place other : Place} (h : other ≠ place) (node : Node) :
    (t.insert place node).node? other = t.node? other := by
  simp only [node?, insert, List.lookup_cons, beq_eq_false_iff_ne.2 h, lookup_filter_of_ne h]

theorem node?_erase_of_ne (t : FileTree) {place other : Place} (h : other ≠ place) :
    (t.erase place).node? other = t.node? other := by
  simp only [node?, erase, lookup_filter_of_ne h]

theorem node?_erase_self (t : FileTree) {place : Place} (h : place ≠ []) :
    (t.erase place).node? place = none := by
  simp only [node?, h, if_false, erase, List.lookup_eq_none_iff, List.mem_filter]
  intro entry hentry
  simpa using Ne.symm (by simpa using hentry.2)

/-! ## Walking -/

/-- Refuses a place that is no directory. -/
def enter (t : FileTree) (place : Place) : Except FileFault Unit :=
  match t.node? place with
  | some .directory => .ok ()
  | some (.file _) => .error .notDirectory
  | none => .error .notFound

/-- One step of a walk. -/
def follow (t : FileTree) (place : Place) (name : Name) : Except FileFault Place :=
  match t.enter place with
  | .error fault => .error fault
  | .ok () =>
    if name = [] ∨ name = here then .ok place
    else if name = outward then .ok place.tail
    else if nameLimit < name.length then .error .nameTooLong
    else if t.node? (name :: place) = none then .error .notFound
    else .ok (name :: place)

/-- All steps of a walk. -/
def walk (t : FileTree) (place : Place) : List Name → Except FileFault Place
  | [] => .ok place
  | name :: names =>
    match t.follow place name with
    | .error fault => .error fault
    | .ok next => t.walk next names

/-- Where the walk along a path starts. -/
def base (t : FileTree) (path : Path) : Place :=
  if path.bytes.head? = some slash then [] else t.workingDirectory

/-- Refuses a path that no walk begins with. -/
def checkPath (path : Path) : Except FileFault Unit :=
  if 0 ∈ path.bytes then .error .nulInPath
  else if path.bytes = [] then .error .notFound
  else if pathLimit ≤ path.bytes.length then .error .nameTooLong
  else .ok ()

/-- The place that a path leads to. Two slashes in a row hold an empty name between them, which
stays where it is, and so does a slash at either end. -/
def resolve (t : FileTree) (path : Path) : Except FileFault Place :=
  match checkPath path with
  | .error fault => .error fault
  | .ok () => t.walk (t.base path) (path.bytes.splitOn slash)

/-- The last name of a path, and the directory it is looked up in. -/
structure Spot where
  directory : Place
  name : Name
  /-- Slashes follow the name. -/
  slashed : Bool
deriving Repr

/-- The place of the entry that a spot names. -/
def Spot.place (spot : Spot) : Place :=
  spot.name :: spot.directory

/-- The spot of a path: the way there exists, what is at its end may not. -/
def locate (t : FileTree) (path : Path) : Except FileFault Spot :=
  match checkPath path with
  | .error fault => .error fault
  | .ok () =>
    let names := (path.bytes.splitOn slash).reverse
    match names.dropWhile (· = []) with
    | [] => .ok ⟨[], [], true⟩
    | name :: before =>
      match t.walk (t.base path) before.reverse with
      | .error fault => .error fault
      | .ok directory =>
        match t.enter directory with
        | .error fault => .error fault
        | .ok () => .ok ⟨directory, name, names.head? = some []⟩

/-! ## What a program does to files -/

/-- Opens what a path leads to. Reading may be refused in turn: a directory has no bytes. -/
def openFile (t : FileTree) (path : Path) : Except FileFault (Except FileFault (List UInt8)) :=
  match t.resolve path with
  | .error fault => .error fault
  | .ok place =>
    match t.node? place with
    | some (.file contents) => .ok (.ok contents)
    | some .directory => .ok (.error .isDirectory)
    | none => .error .notFound

/-- Writes a file from its beginning, whether or not there was one. -/
def create (t : FileTree) (path : Path) (contents : List UInt8) : Except FileFault FileTree :=
  match t.locate path with
  | .error fault => .error fault
  | .ok spot =>
    if spot.slashed ∨ ¬ Ordinary spot.name then .error .isDirectory
    else if nameLimit < spot.name.length then .error .nameTooLong
    else if t.node? spot.place = some .directory then .error .isDirectory
    else .ok (t.insert spot.place (.file contents))

/-- Moves a file between two spots, over a file that is there already but over no directory. -/
def move (t : FileTree) (source target : Spot) : Except FileFault FileTree :=
  if ¬ Ordinary source.name ∨ ¬ Ordinary target.name then .error .busy
  else if nameLimit < source.name.length then .error .nameTooLong
  else
    match t.node? source.place with
    | none => .error .notFound
    | some .directory => .error .isDirectory
    | some (.file contents) =>
      if nameLimit < target.name.length then .error .nameTooLong
      else if source.slashed ∨ target.slashed then .error .notDirectory
      else if t.node? target.place = some .directory then .error .isDirectory
      else .ok ((t.erase source.place).insert target.place (.file contents))

/-- Moves a file from one path to another. -/
def rename (t : FileTree) (source target : Path) : Except FileFault FileTree :=
  match t.locate source with
  | .error fault => .error fault
  | .ok origin =>
    match t.locate target with
    | .error fault => .error fault
    | .ok destination => t.move origin destination

/-- Removes a file; anything else stays. -/
def remove (t : FileTree) (path : Path) : FileTree :=
  match t.locate path with
  | .error _ => t
  | .ok spot =>
    if spot.slashed ∨ ¬ Ordinary spot.name ∨ nameLimit < spot.name.length then t
    else
      match t.node? spot.place with
      | some (.file _) => t.erase spot.place
      | _ => t

end FileTree

end CellWidth.Files
