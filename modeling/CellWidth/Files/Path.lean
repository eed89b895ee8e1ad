import CellWidth.Text.Utf8

/-!
# Paths

A path is a text of bytes in which slashes stand between names. Nothing is looked up here.

* Slashes at the end, and lone dots behind a slash there, do not count: `a.rs`, `a.rs/` and
  `a.rs/./` have the same last name.
* `fileName?` : the last name; none for the empty path, for roots, and where it is `.` or `..`.
* `extension?` : what follows the last dot of the file name, unless that dot begins the name.
* `withFileName name` : the path of another file in the same directory.
-/

namespace CellWidth.Files

/-- A name between slashes. -/
abbrev Name := List UInt8

/-- The byte between names. -/
def slash : UInt8 := 47

/-- The byte that separates an extension. -/
def period : UInt8 := 46

/-- A path, as its bytes. -/
structure Path where
  bytes : List UInt8
deriving DecidableEq, Repr

/-- Without the slashes, and the lone dots behind a slash, at the end of a path; the path is given
last byte first. A root keeps one slash, and a path that is a lone dot keeps it. -/
def dropTrail : List UInt8 → List UInt8
  | [] => []
  | b :: rest =>
    if b = slash then
      if rest = [] then [slash] else dropTrail rest
    else if b = period ∧ rest.head? = some slash then dropTrail rest
    else b :: rest

namespace Path

/-- The path that a text writes. -/
def ofString (text : String) : Path :=
  ⟨Text.Utf8.encode text⟩

/-- The path for a reader, with U+FFFD where it is not UTF-8. -/
def display (path : Path) : String :=
  Text.Utf8.decodeLossy path.bytes

/-- What follows the last slash that counts. -/
def lastName (path : Path) : Name :=
  ((dropTrail path.bytes.reverse).takeWhile (· ≠ slash)).reverse

/-- The name of the file; none if the path ends in no name of an entry. -/
def fileName? (path : Path) : Option Name :=
  if path.lastName = [] ∨ path.lastName = [period] ∨ path.lastName = [period, period] then none
  else some path.lastName

/-- What stands before the last name, without the slash between them unless it is a root. -/
def parent (path : Path) : Path :=
  ⟨(dropTrail ((dropTrail path.bytes.reverse).dropWhile (· ≠ slash))).reverse⟩

/-- The path of a name in the directory that this path's last name stands in. -/
def withFileName (path : Path) (name : Name) : Path :=
  let directory := path.parent.bytes
  if directory = [] ∨ directory.getLast? = some slash then ⟨directory ++ name⟩
  else ⟨directory ++ slash :: name⟩

/-- What follows the last dot of the file name; none if there is no dot but a leading one. -/
def extension? (path : Path) : Option Name :=
  match path.fileName? with
  | none => none
  | some name =>
    match name.reverse.dropWhile (· ≠ period) with
    | [] => none
    | [_] => none
    | _ => some (name.reverse.takeWhile (· ≠ period)).reverse

/-- The path of the file that stands in for this one until it is complete: `.NAME.tmp` beside it. -/
def temporary? (path : Path) : Option Path :=
  path.fileName?.map fun name =>
    path.withFileName (Text.Utf8.encode ("." ++ Text.Utf8.decodeLossy name ++ ".tmp"))

end Path

end CellWidth.Files
