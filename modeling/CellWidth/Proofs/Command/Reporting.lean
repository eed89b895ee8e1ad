import Mathlib.Data.List.Forall2
import CellWidth.Command
import CellWidth.Proofs.Text.Quoted

/-!
# What a report says

A report has a message, and under it the messages that this one rests on.

* `Fault.Tells`, `Complaint.Tells` : the wording of a complaint and of what it rests on.
* `Complaint.Printed` : how they are laid out. A text that breaks into lines stands on one margin
  (`Complaint.indented_eq`).
* `Complaint.exists_tells_printed` : every report prints what its complaint says.
-/

namespace CellWidth

open Files (Path)

/-! ## Wordings -/

/-- What a fault says, and what it rests on. -/
inductive Fault.Tells : Fault → String → List String → Prop where
  | malformed {name : String} {line : Nat} {text : String} {reason : RecordFault} :
      Tells (.malformed name line text reason)
        (name ++ ":" ++ toString line ++ ": malformed record `" ++ text ++ "`: " ++ reason.message)
        [reason.message]
  | emptyTable {width : Width} :
      Tells (.emptyTable width) ("no codepoint ranges found for class `" ++ width.name ++ "`") []
  | unordered {width : Width} {entry : Nat} :
      Tells (.unordered width entry)
        ("table `" ++ width.name ++ "` is not sorted and disjoint at entry " ++ toString entry) []
  | file {path : String} {reason : FileFault} :
      Tells (.file path reason) (path ++ ": " ++ reason.message) [reason.message]

theorem Fault.tells_message (fault : Fault) : fault.Tells fault.message fault.cause?.toList := by
  cases fault with
  | malformed => exact .malformed
  | emptyTable => exact .emptyTable
  | unordered => exact .unordered
  | file => exact .file

namespace Complaint

/-- What a complaint says, and what it rests on. A fault that is passed on keeps its own words;
surplus arguments stand between quotes. -/
inductive Tells : Complaint → String → List String → Prop where
  | missing {argument : String} :
      Tells (.missing argument) ("missing " ++ argument) ["free-standing argument is missing"]
  | unrecognized {arguments : List Argument} {texts : List String} :
      List.Forall₂ Text.Escaped arguments texts →
      Tells (.unrecognized arguments)
        ("unrecognized arguments: " ++
          ("[" ++ ", ".intercalate (texts.map fun text => "\"" ++ text ++ "\"") ++ "]") ++
          "\n\n" ++ usage) []
  | notMade {fault : Fault} {message : String} {causes : List String} :
      fault.Tells message causes → Tells (.notMade fault) message causes
  | notWritten {output : Path} {fault : Fault} {message : String} {causes : List String} :
      fault.Tells message causes →
      Tells (.notWritten output fault) ("failed to write " ++ output.display) (message :: causes)

theorem tells_message (complaint : Complaint) :
    complaint.Tells complaint.message complaint.causes := by
  cases complaint with
  | missing => exact .missing
  | unrecognized arguments =>
    have htexts : List.Forall₂ Text.Escaped arguments (arguments.map (Text.escapeFrom 0)) :=
      List.forall₂_map_right_iff.2 <|
        List.forall₂_same.2 fun bytes _ => Text.escaped_escapeFrom bytes
    have htells := Tells.unrecognized htexts
    rw [List.map_map] at htells
    exact htells
  | notMade fault => exact .notMade fault.tells_message
  | notWritten output fault => exact .notWritten fault.tells_message

/-! ## Margins -/

/-- A text whose further lines stand `width` blanks further right. -/
def inset (width : Nat) (text : String) : String :=
  .ofList (('\n' :: List.replicate width ' ').intercalate (text.toList.splitOn '\n'))

/-- A character in front of joined pieces stands in front of the first of them. -/
theorem intercalate_cons_head {gap : List Char} (c : Char) (piece : List Char)
    (pieces : List (List Char)) :
    gap.intercalate ((c :: piece) :: pieces) = c :: gap.intercalate (piece :: pieces) := by
  cases pieces with
  | nil => rfl
  | cons next pieces => rw [List.intercalate_cons_cons, List.intercalate_cons_cons]; rfl

/-- To put a gap in the place of each mark is to cut the text at the marks and to join the pieces
by the gap. -/
theorem flatMap_eq_intercalate_splitOn (mark : Char) (gap text : List Char) :
    (text.flatMap fun c => if c = mark then gap else [c]) =
      gap.intercalate (text.splitOn mark) := by
  induction text with
  | nil => rfl
  | cons c text ih =>
    rw [List.flatMap_cons, ih, List.splitOn_cons_eq_if_modifyHead]
    by_cases hc : c = mark
    · rw [if_pos hc, if_pos (beq_iff_eq.2 hc),
        List.intercalate_cons_of_ne_nil (List.splitOn_ne_nil mark text), List.nil_append]
    · rw [if_neg hc, if_neg (mt beq_iff_eq.1 hc)]
      cases hsplit : text.splitOn mark with
      | nil => exact absurd hsplit (List.splitOn_ne_nil mark text)
      | cons piece pieces => rw [List.modifyHead_cons, intercalate_cons_head, List.singleton_append]

theorem indented_eq (lead text : String) : indented lead text = lead ++ inset lead.length text := by
  have hpieces (c : Char) :
      (if c = '\n' then "\n" ++ String.ofList (List.replicate lead.length ' ')
        else String.ofList [c]).toList =
      if c = '\n' then '\n' :: List.replicate lead.length ' ' else [c] := by
    split <;> simp
  refine String.toList_injective ?_
  rw [indented, inset, String.toList_append, String.toList_append, String.toList_join,
    String.toList_ofList, List.flatMap_map, ← flatMap_eq_intercalate_splitOn]
  simp only [hpieces]

/-! ## Reports -/

/-- How a message and the messages that it rests on are printed: a single one of those on a margin
of four blanks, two of them with their numbers. -/
inductive Printed (message : String) : List String → String → Prop where
  | alone : Printed message [] ("Error: " ++ message ++ "\n")
  | single {cause : String} :
      Printed message [cause]
        ("Error: " ++ message ++ "\n\nCaused by:\n" ++ "    " ++ inset 4 cause ++ "\n")
  | double {first second : String} :
      Printed message [first, second]
        ("Error: " ++ message ++ "\n\nCaused by:\n" ++ "    0: " ++ inset 7 first ++ "\n" ++
          "    1: " ++ inset 7 second ++ "\n")

theorem causeLines_single (cause : String) : causeLines [cause] = ["    " ++ inset 4 cause] := by
  rw [causeLines, indented_eq]
  rfl

theorem causeLines_double (first second : String) :
    causeLines [first, second] = ["    0: " ++ inset 7 first, "    1: " ++ inset 7 second] := by
  have hfirst : String.ofList ((toString 0).toList.leftpad 5 ' ') ++ ": " = "    0: " := by decide
  have hsecond : String.ofList ((toString 1).toList.leftpad 5 ' ') ++ ": " = "    1: " := by decide
  show [indented _ first, indented _ second] = _
  rw [hfirst, hsecond, indented_eq, indented_eq]
  rfl

/-- No complaint rests on more than two messages. -/
theorem length_causes_le (complaint : Complaint) : complaint.causes.length ≤ 2 := by
  have hfault (fault : Fault) : fault.cause?.toList.length ≤ 1 := by
    cases fault <;> simp [Fault.cause?]
  cases complaint with
  | missing => exact Nat.le_succ 1
  | unrecognized => exact Nat.zero_le 2
  | notMade fault => exact Nat.le_succ_of_le (hfault fault)
  | notWritten output fault => exact Nat.succ_le_succ (hfault fault)

theorem printed_report (complaint : Complaint) :
    Printed complaint.message complaint.causes complaint.report := by
  have hlength := complaint.length_causes_le
  dsimp only [report]
  match hcauses : complaint.causes with
  | [] =>
    rw [causeLines, if_pos rfl, String.append_empty]
    exact .alone
  | [cause] =>
    have hprinted : Printed complaint.message [cause] _ := .single
    rw [causeLines_single, if_neg (List.cons_ne_nil _ _), String.intercalate_singleton]
    simpa only [String.append_assoc] using hprinted
  | [first, second] =>
    have hprinted : Printed complaint.message [first, second] _ := .double
    rw [causeLines_double, if_neg (List.cons_ne_nil _ _), String.intercalate_cons_cons,
      String.intercalate_singleton]
    simpa only [String.append_assoc] using hprinted
  | _ :: _ :: _ :: causes =>
    rw [hcauses, List.length_cons, List.length_cons, List.length_cons] at hlength
    omega

/-- A report prints what its complaint says. -/
theorem exists_tells_printed (complaint : Complaint) :
    ∃ message causes, complaint.Tells message causes ∧ Printed message causes complaint.report :=
  ⟨complaint.message, complaint.causes, complaint.tells_message, complaint.printed_report⟩

end Complaint

end CellWidth
