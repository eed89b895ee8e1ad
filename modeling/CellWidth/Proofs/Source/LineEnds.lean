import CellWidth.Proofs.Source.Reading
import CellWidth.Proofs.Text.LineEnds
import CellWidth.Proofs.Text.Lossy

/-!
# Line ends do not matter to a reader of lines

* `recordAt_append_carriageReturn` : a carriage return at the end of a line is one more blank, and
  does not make a text of what is none.
* `records_eq_of_endEdit` : so a source says the same, or is refused with the same fault, however
  its lines end.
-/

namespace CellWidth

open Text (EndEdit WithReturns carriageReturn lines newline)
open Text.Utf8 (decode?)

/-! ## One line -/

/-- A blank at the end of a line does not matter. -/
theorem Record.ofLine?_append_blank {c : Char} (hc : Text.isBlank c = true) (text : List Char) :
    Record.ofLine? (text ++ [c]) = Record.ofLine? text := by
  rw [← Record.ofLine?_trim, Text.trim_append_of_blank hc, Record.ofLine?_trim]

namespace Source

variable {source : Source} {bytes bytes' : List UInt8}

/-- A carriage return at the end of a line neither changes what it says nor what is wrong with
it. -/
theorem recordAt_append_carriageReturn (line : List UInt8) (index : Nat) :
    source.recordAt (line ++ [carriageReturn]) index = source.recordAt line index := by
  have hblank : Text.isBlank (Char.ofNat 13) = true := by decide
  have hdecode : decode? (line ++ [carriageReturn]) = (decode? line).map (· ++ [Char.ofNat 13]) :=
    Text.Utf8.decode?_append_singleton (by decide) line
  unfold recordAt
  rw [hdecode]
  cases decode? line with
  | none => rfl
  | some text =>
    simp only [Option.map_some, Record.ofLine?_append_blank hblank,
      Text.trim_append_of_blank hblank]

/-! ## All lines -/

theorem recordsOf_cons (line : List UInt8) (index : Nat) (numbered : List (List UInt8 × Nat)) :
    source.recordsOf ((line, index) :: numbered) = (do
      let record? ← source.recordAt line index
      let records ← source.recordsOf numbered
      return record?.toList ++ records) := by
  simp only [recordsOf, List.mapM_cons, bind_assoc, pure_bind]
  congr 1
  funext record?
  cases record? <;> rfl

/-- Lines with carriage returns at their ends say the same, and an empty last line says nothing. -/
theorem recordsOf_withReturns {ls ls' : List (List UInt8)} (h : WithReturns ls ls') (index : Nat) :
    source.recordsOf (ls.zipIdx index) = source.recordsOf (ls'.zipIdx index) := by
  induction h generalizing index with
  | nil => rfl
  | drop => rfl
  | keep line _ ih => rw [List.zipIdx_cons, List.zipIdx_cons, recordsOf_cons, recordsOf_cons, ih]
  | add line _ ih =>
    rw [List.zipIdx_cons, List.zipIdx_cons, recordsOf_cons, recordsOf_cons, ih,
      recordAt_append_carriageReturn]

/-- A source says the same however its lines end. -/
theorem records_eq_of_endEdit (name : String) (h : EndEdit bytes bytes') :
    (ofBytes name bytes).records = (ofBytes name bytes').records := by
  show (ofBytes name bytes).recordsOf (lines bytes).zipIdx =
    (ofBytes name bytes).recordsOf (lines bytes').zipIdx
  rcases h.withReturns_lines with hreturns | hreturns
  · exact recordsOf_withReturns hreturns 0
  · exact (recordsOf_withReturns hreturns 0).symm

end Source

end CellWidth
