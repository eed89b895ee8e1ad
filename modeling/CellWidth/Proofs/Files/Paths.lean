import Mathlib.Data.List.TakeWhile
import CellWidth.Files.FileTree
import CellWidth.Proofs.Text.Cut
import CellWidth.Proofs.Text.Lossy

/-!
# Where paths end

* `path.Splits before name` : the path is `before`, which is empty or ends in a slash, and the name
  behind it, which is empty if the path ends in a slash. Every path splits (`Path.exists_splits`).
* `Splits.fileName?_eq`, `Splits.parent_bytes` : the file name and the parent of a path that ends in
  the name of an entry.
* `temporaryName name` : the name `.NAME.tmp` of a temporary file. It is the name of an entry, and
  not NAME (`ordinary_temporaryName`, `temporaryName_ne`).
* `splits_of_temporary?` : a temporary path is the parent and this name.
-/

namespace CellWidth.Files

open Text (dropWhile_ne_append dropWhile_ne_eq_nil_or forall_ne_of_not_mem not_mem_takeWhile_ne
  takeWhile_ne_append)
open Text.Utf8 (decodeLossy decodeLossy_encode encode encode_append mem_of_mem_encode_decodeLossy)

/-- The path is `before`, which is empty or ends in a slash, and a name without slashes. -/
structure Path.Splits (path : Path) (before : List UInt8) (name : Name) : Prop where
  bytes_eq : path.bytes = before ++ name
  before_ends : before = [] ∨ before.getLast? = some slash
  slash_not_mem : slash ∉ name

/-- The names in front of the last one. -/
def namesBefore (before : List UInt8) : List Name :=
  (before.splitOn slash).dropLast

variable {path : Path} {before : List UInt8} {name : Name} {b : UInt8}

/-- A last byte that is a slash. -/
theorem getLast?_eq_slash_iff {bytes : List UInt8} :
    bytes.getLast? = some slash ↔ ∃ front, bytes = front ++ [slash] :=
  List.getLast?_eq_some_iff

theorem namesBefore_append_slash (front : List UInt8) :
    namesBefore (front ++ [slash]) = front.splitOn slash := by
  rw [namesBefore, List.splitOn_append_cons_self, List.splitOn_nil, List.dropLast_concat]

/-- What is longer than a dot or two is the name of an entry. -/
theorem ordinary_of_length (h : 2 < name.length) : Ordinary name := by
  refine ⟨?_, ?_, ?_⟩ <;> rintro rfl <;> simp [here, outward] at h

/-- What is left of a reversed path behind its last slash is empty or ends in a slash. -/
theorem before_ends_of_dropWhile (bytes : List UInt8) :
    (bytes.dropWhile (· ≠ slash)).reverse = [] ∨
      (bytes.dropWhile (· ≠ slash)).reverse.getLast? = some slash := by
  rw [List.getLast?_reverse, List.reverse_eq_nil_iff]
  refine (dropWhile_ne_eq_nil_or slash bytes).imp_right fun ⟨behind, hdrop⟩ => ?_
  rw [hdrop, List.head?_cons]

namespace Path

/-! ## Splitting -/

theorem exists_splits (path : Path) : ∃ before name, path.Splits before name := by
  refine ⟨(path.bytes.reverse.dropWhile (· ≠ slash)).reverse,
    (path.bytes.reverse.takeWhile (· ≠ slash)).reverse, ?_, ?_, ?_⟩
  · rw [← List.reverse_append, List.takeWhile_append_dropWhile, List.reverse_reverse]
  · exact before_ends_of_dropWhile _
  · rw [List.mem_reverse]
    exact not_mem_takeWhile_ne _ _

namespace Splits

/-- Between the slashes of a path stand the names before the last one, and the last one. -/
theorem splitOn_eq (h : path.Splits before name) :
    path.bytes.splitOn slash = namesBefore before ++ [name] := by
  rw [h.bytes_eq]
  rcases h.before_ends with rfl | hlast
  · rw [List.nil_append, List.splitOn_eq_singleton h.slash_not_mem]
    rfl
  · rcases getLast?_eq_slash_iff.1 hlast with ⟨front, rfl⟩
    rw [List.append_assoc, List.singleton_append, List.splitOn_append_cons_self,
      List.splitOn_eq_singleton h.slash_not_mem, namesBefore_append_slash]

/-- The path starts at the root exactly if what stands before its last name does. -/
theorem head?_eq_slash_iff (h : path.Splits before name) :
    path.bytes.head? = some slash ↔ before.head? = some slash := by
  rw [h.bytes_eq]
  cases before with
  | nil =>
    have hhead : name.head? ≠ some slash := fun heq => h.slash_not_mem (List.mem_of_head? heq)
    simpa using hhead
  | cons c rest => simp

/-! ## The name of the file -/

/-- A name that is more than a dot ends the trail that does not count. -/
theorem dropTrail_reverse (h : path.Splits before name) (hname : name ≠ []) (hhere : name ≠ here) :
    dropTrail path.bytes.reverse = name.reverse ++ before.reverse := by
  rw [h.bytes_eq, List.reverse_append]
  rcases List.eq_nil_or_concat name with rfl | ⟨front, c, rfl⟩
  · exact absurd rfl hname
  have hslash := h.slash_not_mem
  simp only [List.concat_eq_append, List.mem_append, List.mem_singleton, not_or] at hslash hhere ⊢
  rw [List.reverse_append, List.reverse_singleton, List.singleton_append, List.cons_append,
    dropTrail, if_neg (Ne.symm hslash.2), if_neg]
  intro hdot
  -- a dot alone behind a slash would be the whole name
  rcases hdot with ⟨rfl, hhead⟩
  rcases List.eq_nil_or_concat front with rfl | ⟨front', d, rfl⟩
  · exact hhere rfl
  · simp only [List.concat_eq_append, List.reverse_append, List.reverse_singleton,
      List.cons_append, List.head?_cons, Option.some.injEq] at hhead
    exact hslash.1 (by rw [← hhead]; simp)

theorem takeWhile_dropTrail (h : path.Splits before name) (hname : name ≠ [])
    (hhere : name ≠ here) :
    (dropTrail path.bytes.reverse).takeWhile (· ≠ slash) = name.reverse ∧
      (dropTrail path.bytes.reverse).dropWhile (· ≠ slash) = before.reverse := by
  have hmem : slash ∉ name.reverse := fun hmem => h.slash_not_mem (List.mem_reverse.1 hmem)
  rw [h.dropTrail_reverse hname hhere]
  rcases h.before_ends with rfl | hlast
  · rw [List.reverse_nil, List.append_nil]
    exact ⟨List.takeWhile_eq_self_iff.2 (forall_ne_of_not_mem hmem),
      List.dropWhile_eq_nil_iff.2 (forall_ne_of_not_mem hmem)⟩
  · rcases getLast?_eq_slash_iff.1 hlast with ⟨front, rfl⟩
    rw [List.reverse_append, List.reverse_singleton, List.singleton_append]
    exact ⟨takeWhile_ne_append hmem, dropWhile_ne_append hmem⟩

theorem lastName_eq (h : path.Splits before name) (hname : name ≠ []) (hhere : name ≠ here) :
    path.lastName = name := by
  rw [lastName, (h.takeWhile_dropTrail hname hhere).1, List.reverse_reverse]

/-- A path that ends in the name of an entry has this file name. -/
theorem fileName?_eq (h : path.Splits before name) (hname : Ordinary name) :
    path.fileName? = some name := by
  rw [fileName?, h.lastName_eq hname.1 hname.2.1, if_neg]
  intro hnone
  rcases hnone with hnil | hhere | houtward
  · exact hname.1 hnil
  · exact hname.2.1 hhere
  · exact hname.2.2 houtward

/-- A path with a file name ends in this name, in a slash or in a dot. -/
theorem eq_of_fileName?_eq_some {fileName : Name} (h : path.Splits before name)
    (hfile : path.fileName? = some fileName) : name = [] ∨ name = here ∨ name = fileName := by
  by_cases hname : name = []
  · exact .inl hname
  by_cases hhere : name = here
  · exact .inr (.inl hhere)
  · rw [fileName?, h.lastName_eq hname hhere] at hfile
    split at hfile
    · cases hfile
    · exact .inr (.inr (Option.some.inj hfile))

theorem parent_bytes (h : path.Splits before name) (hname : Ordinary name) :
    path.parent.bytes = (dropTrail before.reverse).reverse := by
  rw [parent, (h.takeWhile_dropTrail hname.1 hname.2.1).2]

end Splits

/-- Nothing is added where slashes and dots are dropped. -/
theorem mem_of_mem_dropTrail {bytes : List UInt8} (h : b ∈ dropTrail bytes) : b ∈ bytes := by
  induction bytes with
  | nil => exact h
  | cons c rest ih =>
    unfold dropTrail at h
    split at h
    · next hc =>
      split at h
      · rw [hc]
        exact List.mem_cons.2 (.inl (List.mem_singleton.1 h))
      · exact List.mem_cons_of_mem c (ih h)
    split at h
    · exact List.mem_cons_of_mem c (ih h)
    · exact h

theorem mem_of_mem_parent (h : b ∈ path.parent.bytes) : b ∈ path.bytes := by
  have hrest := mem_of_mem_dropTrail (List.mem_reverse.1 h)
  have htrail := (List.dropWhile_sublist _).mem hrest
  exact List.mem_reverse.1 (mem_of_mem_dropTrail htrail)

/-- The file name is the name of an entry. -/
theorem ordinary_of_fileName? (h : path.fileName? = some name) : Ordinary name := by
  rw [fileName?] at h
  split at h
  · cases h
  · next hlast =>
    rw [← Option.some.inj h]
    exact ⟨fun hnil => hlast (.inl hnil), fun hhere => hlast (.inr (.inl hhere)),
      fun houtward => hlast (.inr (.inr houtward))⟩

theorem slash_not_mem_of_fileName? (h : path.fileName? = some name) : slash ∉ name := by
  rw [fileName?] at h
  split at h
  · cases h
  · rw [← Option.some.inj h, lastName, List.mem_reverse]
    exact not_mem_takeWhile_ne _ _

end Path

/-! ## Temporary files -/

/-- The name of the file that stands in for a file of this name. -/
def temporaryName (name : Name) : Name :=
  encode ("." ++ decodeLossy name ++ ".tmp")

theorem temporaryName_eq (name : Name) :
    temporaryName name = [period] ++ encode (decodeLossy name) ++ encode ".tmp" := by
  rw [temporaryName, encode_append, encode_append]
  rfl

theorem ordinary_temporaryName (name : Name) : Ordinary (temporaryName name) := by
  have htmp : (encode ".tmp").length = 4 := by decide
  refine ordinary_of_length ?_
  rw [temporaryName_eq, List.length_append, List.length_append, htmp, List.length_singleton]
  omega

/-- It is not the name itself: that would be a text which is longer than itself. -/
theorem temporaryName_ne (name : Name) : temporaryName name ≠ name := by
  intro heq
  have htext := decodeLossy_encode ("." ++ decodeLossy name ++ ".tmp")
  rw [← temporaryName, heq] at htext
  have hlength := congrArg String.length htext
  rw [String.length_append, String.length_append] at hlength
  have htmp : ".tmp".length = 4 := by decide
  omega

/-- Beside dots and letters it holds no ASCII byte that the name does not. -/
theorem not_mem_temporaryName (hb : b.toNat < 0x80) (htmp : b ∉ encode ".tmp") (h : b ∉ name) :
    b ∉ temporaryName name := by
  have hperiod : period ∈ encode ".tmp" := by decide
  intro hmem
  rw [temporaryName_eq, List.mem_append, List.mem_append, List.mem_singleton] at hmem
  rcases hmem with (rfl | hname) | hend
  · exact htmp hperiod
  · exact h (mem_of_mem_encode_decodeLossy hb hname)
  · exact htmp hend

theorem slash_not_mem_temporaryName (h : slash ∉ name) : slash ∉ temporaryName name :=
  not_mem_temporaryName (by decide) (by decide) h

theorem nul_not_mem_temporaryName (h : 0 ∉ name) : 0 ∉ temporaryName name :=
  not_mem_temporaryName (by decide) (by decide) h

namespace Path

/-- A path of a directory with a slash behind it, unless it is empty or has one. -/
def asDirectory (bytes : List UInt8) : List UInt8 :=
  if bytes = [] ∨ bytes.getLast? = some slash then bytes else bytes ++ [slash]

theorem mem_of_mem_asDirectory {bytes : List UInt8} (h : b ∈ asDirectory bytes) :
    b ∈ bytes ∨ b = slash := by
  unfold asDirectory at h
  split at h
  · exact .inl h
  · simpa using h

/-- The path of another name in the same directory ends in this name. -/
theorem splits_withFileName (path : Path) (h : slash ∉ name) :
    (path.withFileName name).Splits (asDirectory path.parent.bytes) name := by
  unfold withFileName asDirectory
  dsimp only
  split
  · next hends => exact ⟨rfl, hends, h⟩
  · exact ⟨by simp, .inr (by simp), h⟩

/-- The temporary path of a path with a file name, and where it ends. -/
theorem splits_of_temporary? {temporary : Path} (h : path.temporary? = some temporary) :
    ∃ name, path.fileName? = some name ∧
      temporary.Splits (asDirectory path.parent.bytes) (temporaryName name) := by
  rcases Option.map_eq_some_iff.1 h with ⟨name, hname, rfl⟩
  exact ⟨name, hname,
    splits_withFileName path (slash_not_mem_temporaryName (slash_not_mem_of_fileName? hname))⟩

theorem Splits.temporary?_eq (h : path.Splits before name) (hname : Ordinary name) :
    path.temporary? = some (path.withFileName (temporaryName name)) := by
  rw [temporary?, h.fileName?_eq hname]
  rfl

end Path

end CellWidth.Files
