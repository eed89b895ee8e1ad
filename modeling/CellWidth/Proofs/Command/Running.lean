import CellWidth.Proofs.Command.Reporting
import CellWidth.Proofs.Files.Publishing
import CellWidth.Proofs.Tables.Building

/-!
# Runs of the command

* `Stops t arguments complaint` : the first stage that fails on a tree, and the complaint that it
  ends the run with.
* `Makes t general eastAsian tables` : both files can be read, and give the tables.
* `run_outcome` : what a run does, whether or not it is stopped, and what it prints.
* `run_failure_keeps` : what a run that fails leaves.
-/

namespace CellWidth

open Files (FileTree Kept Path Replaced)
open Text.Utf8 (encode)

namespace Command

open Files.FileTree

/-! ## Stages -/

/-- One of the arguments asks for help. -/
def AsksHelp (arguments : List Argument) : Prop :=
  encode "-h" ∈ arguments ∨ encode "--help" ∈ arguments

instance (arguments : List Argument) : Decidable (AsksHelp arguments) :=
  inferInstanceAs (Decidable (_ ∨ _))

/-- There is a file without bad lines. -/
def Readable (t : FileTree) (path : Path) (bytes : List UInt8) : Prop :=
  t.at? path = some (.file bytes) ∧ ¬ HasBadLine bytes

/-- There is something that cannot be read to its end. -/
inductive Unreadable (t : FileTree) (path : Path) : Fault → Prop where
  | directory : t.at? path = some .directory →
      Unreadable t path (.file path.display .isDirectory)
  | badLine {bytes before line : List UInt8} {fault : Fault} :
      t.at? path = some (.file bytes) → FirstBadLine bytes before line →
      FaultAt path.display before line fault → Unreadable t path fault

/-- Both files can be read, and give the tables. -/
def Makes (t : FileTree) (general eastAsian : Path) (tables : Tables) : Prop :=
  ∃ categories widths, t.at? general = some (.file categories) ∧
    t.at? eastAsian = some (.file widths) ∧
    (Tables.build (.ofBytes general.display categories)
      (.ofBytes eastAsian.display widths)).result = .ok tables

/-- What stops a run that was not asked for help. The stages are in the order in which they come: a
later one stops the run only if those before it did not. -/
inductive Stops (t : FileTree) : List Argument → Complaint → Prop where
  | noGeneral : Stops t [] (.missing "path to DerivedGeneralCategory.txt")
  | noEastAsian {general : Argument} : Stops t [general] (.missing "path to EastAsianWidth.txt")
  | noOutput {general eastAsian : Argument} : Stops t [general, eastAsian] (.missing "output path")
  | surplus {general eastAsian output : Argument} {more : List Argument} : more ≠ [] →
      Stops t (general :: eastAsian :: output :: more) (.unrecognized more)
  | unopenedGeneral {general eastAsian output : Path} {reason : FileFault} :
      t.openFile general = .error reason →
      Stops t [general.bytes, eastAsian.bytes, output.bytes]
        (.notMade (.file general.display reason))
  | unopenedEastAsian {general eastAsian output : Path} {reason : FileFault} :
      t.at? general ≠ none → t.openFile eastAsian = .error reason →
      Stops t [general.bytes, eastAsian.bytes, output.bytes]
        (.notMade (.file eastAsian.display reason))
  | unreadGeneral {general eastAsian output : Path} {fault : Fault} :
      t.at? eastAsian ≠ none → Unreadable t general fault →
      Stops t [general.bytes, eastAsian.bytes, output.bytes] (.notMade fault)
  | unreadEastAsian {general eastAsian output : Path} {categories : List UInt8} {fault : Fault} :
      Readable t general categories → Unreadable t eastAsian fault →
      Stops t [general.bytes, eastAsian.bytes, output.bytes] (.notMade fault)
  | unassigned {general eastAsian output : Path} {categories widths : List UInt8}
      {earlier later : List Width} {width : Width} :
      Readable t general categories → Readable t eastAsian widths →
      [.invalid, .zero, .double] = earlier ++ width :: later →
      (∀ other ∈ earlier, Tables.Classifies categories widths other) →
      ¬ Tables.Classifies categories widths width →
      Stops t [general.bytes, eastAsian.bytes, output.bytes] (.notMade (.emptyTable width))
  | unwritten {general eastAsian output : Path} {tables : Tables} {fault : Fault} :
      Makes t general eastAsian tables →
      (t.run (Files.write output tables)).1.result = .error fault →
      Stops t [general.bytes, eastAsian.bytes, output.bytes] (.notWritten output fault)

variable {t : FileTree} {arguments : List Argument} {general eastAsian output path : Path}
  {categories widths : List UInt8} {content content' : Except FileFault (List UInt8)}
  {tables : Tables} {complaint : Complaint} {fault : Fault} {reason : FileFault}

/-! ## Building from files -/

theorem run_openSource_of_error (h : t.openFile path = .error reason) :
    t.run (Files.openSource path) = (.error (.file path.display reason), t) := by
  simp only [Files.openSource, run_bind, run_openFile, h, run_pure]

theorem run_openSource_of_ok (h : t.openFile path = .ok content) :
    t.run (Files.openSource path) = (.ok ⟨path.display, content⟩, t) := by
  simp only [Files.openSource, run_bind, run_openFile, h, run_pure]

/-- What two files give. -/
def made (t : FileTree) (general eastAsian : Path) : Run Tables :=
  (t.run (Files.build general eastAsian)).1

theorem run_build_of_unopened_general (h : t.openFile general = .error reason) :
    t.run (Files.build general eastAsian) =
      (Run.ofExcept (.error (.file general.display reason)), t) := by
  simp only [Files.build, run_bind, run_openSource_of_error h, run_pure]

theorem run_build_of_unopened_eastAsian (hgeneral : t.openFile general = .ok content)
    (h : t.openFile eastAsian = .error reason) :
    t.run (Files.build general eastAsian) =
      (Run.ofExcept (.error (.file eastAsian.display reason)), t) := by
  simp only [Files.build, run_bind, run_openSource_of_ok hgeneral, run_openSource_of_error h,
    run_pure]

theorem run_build_of_opened (hgeneral : t.openFile general = .ok content)
    (heastAsian : t.openFile eastAsian = .ok content') :
    t.run (Files.build general eastAsian) =
      (Tables.build ⟨general.display, content⟩ ⟨eastAsian.display, content'⟩, t) := by
  simp only [Files.build, run_bind, run_openSource_of_ok hgeneral, run_openSource_of_ok heastAsian,
    run_pure]

/-- Building changes nothing. -/
theorem run_build (t : FileTree) (general eastAsian : Path) :
    t.run (Files.build general eastAsian) = (made t general eastAsian, t) := by
  unfold made
  cases hgeneral : t.openFile general with
  | error reason => rw [run_build_of_unopened_general hgeneral]
  | ok content =>
    cases heastAsian : t.openFile eastAsian with
    | error reason => rw [run_build_of_unopened_eastAsian hgeneral heastAsian]
    | ok content' => rw [run_build_of_opened hgeneral heastAsian]

/-! ## What is made of two files -/

theorem made_of_files (hgeneral : t.at? general = some (.file categories))
    (heastAsian : t.at? eastAsian = some (.file widths)) :
    made t general eastAsian =
      Tables.build (.ofBytes general.display categories) (.ofBytes eastAsian.display widths) := by
  rw [made, run_build_of_opened (openFile_of_file hgeneral) (openFile_of_file heastAsian)]
  rfl

theorem Makes.made_eq (h : Makes t general eastAsian tables) :
    (made t general eastAsian).result = .ok tables := by
  rcases h with ⟨categories, widths, hgeneral, heastAsian, hbuild⟩
  rw [made_of_files hgeneral heastAsian, hbuild]

/-- What cannot be read can be opened, and reading is refused with the fault. -/
theorem Unreadable.exists_opened (h : Unreadable t path fault) :
    ∃ content, t.openFile path = .ok content ∧
      (Source.mk path.display content).records = .error fault := by
  cases h with
  | directory hdirectory => exact ⟨_, openFile_of_directory hdirectory, rfl⟩
  | badLine hfile hfirst hfault =>
    exact ⟨_, openFile_of_file hfile, Source.records_eq_error_iff.2 ⟨_, _, hfirst, hfault⟩⟩

theorem Unreadable.made_general (h : Unreadable t general fault)
    (heastAsian : t.at? eastAsian ≠ none) :
    (made t general eastAsian).result = .error fault := by
  rcases h.exists_opened with ⟨content, hopened, hrecords⟩
  rcases exists_openFile_eq_ok heastAsian with ⟨content', hopened'⟩
  rw [made, run_build_of_opened hopened hopened']
  exact Tables.build_result_of_bad_general hrecords

theorem Unreadable.made_eastAsian (hgeneral : Readable t general categories)
    (h : Unreadable t eastAsian fault) : (made t general eastAsian).result = .error fault := by
  rcases h.exists_opened with ⟨content, hopened, hrecords⟩
  rw [made, run_build_of_opened (openFile_of_file hgeneral.1) hopened]
  exact Tables.build_result_of_bad_eastAsian hgeneral.2 hrecords

/-- What is there can be read, or not. -/
theorem readable_or_unreadable (h : t.at? path ≠ none) :
    (∃ bytes, Readable t path bytes) ∨ ∃ fault, Unreadable t path fault := by
  cases hnode : t.at? path with
  | none => exact absurd hnode h
  | some node =>
    cases node with
    | directory => exact .inr ⟨_, .directory hnode⟩
    | file bytes =>
      by_cases hbad : HasBadLine bytes
      · rcases (Source.records_refused_iff path.display).2 hbad with ⟨fault, hfault⟩
        rcases Source.records_eq_error_iff.1 hfault with ⟨before, line, hfirst, hat⟩
        exact .inr ⟨fault, .badLine hnode hfirst hat⟩
      · exact .inl ⟨bytes, hnode, hbad⟩

/-- Three paths give tables, or something stops the run before. -/
theorem makes_or_stops (t : FileTree) (general eastAsian output : Path) :
    (∃ tables, Makes t general eastAsian tables) ∨
      ∃ complaint, Stops t [general.bytes, eastAsian.bytes, output.bytes] complaint := by
  by_cases hgeneral : t.at? general = none
  · rcases exists_openFile_eq_error hgeneral with ⟨reason, hreason⟩
    exact .inr ⟨_, .unopenedGeneral hreason⟩
  by_cases heastAsian : t.at? eastAsian = none
  · rcases exists_openFile_eq_error heastAsian with ⟨reason, hreason⟩
    exact .inr ⟨_, .unopenedEastAsian hgeneral hreason⟩
  rcases readable_or_unreadable hgeneral with ⟨categories, hcategories⟩ | ⟨fault, hfault⟩
  · rcases readable_or_unreadable heastAsian with ⟨widths, hwidths⟩ | ⟨fault, hfault⟩
    · cases hbuild : (Tables.build (.ofBytes general.display categories)
          (.ofBytes eastAsian.display widths)).result with
      | ok tables => exact .inl ⟨tables, categories, widths, hcategories.1, hwidths.1, hbuild⟩
      | error fault =>
        rw [Tables.build_result_of_good hcategories.2 hwidths.2,
          Tables.ofRanges?_rangesOf_eq_error_iff] at hbuild
        rcases hbuild with ⟨earlier, width, later, hall, hearlier, hnone, rfl⟩
        exact .inr ⟨_, .unassigned hcategories hwidths hall hearlier hnone⟩
    · exact .inr ⟨_, .unreadEastAsian hcategories hfault⟩
  · exact .inr ⟨_, .unreadGeneral heastAsian hfault⟩

/-! ## Ends of runs -/

theorem run_of_complaint (h : Request.ofArguments? arguments = .error complaint) :
    t.run (Command.run arguments) = (⟨1, "", complaint.report⟩, t) := by
  simp only [Command.run, h, run_bind, run_pure]

theorem run_of_asksHelp (h : AsksHelp arguments) :
    t.run (Command.run arguments) = (⟨0, "", usage⟩, t) := by
  have hrequest : Request.ofArguments? arguments = .ok .help := if_pos h
  simp only [Command.run, hrequest, perform, run_bind, run_pure]

theorem ofArguments?_eq_ok (h : ¬ AsksHelp [general.bytes, eastAsian.bytes, output.bytes]) :
    Request.ofArguments? [general.bytes, eastAsian.bytes, output.bytes] =
      .ok (.make general eastAsian output) :=
  if_neg h

theorem run_of_unmade (hhelp : ¬ AsksHelp [general.bytes, eastAsian.bytes, output.bytes])
    (h : (made t general eastAsian).result = .error fault) :
    t.run (Command.run [general.bytes, eastAsian.bytes, output.bytes]) =
      (⟨1, "", (Complaint.notMade fault).report⟩, t) := by
  simp only [Command.run, ofArguments?_eq_ok hhelp, perform, make, run_bind, run_build, h, run_pure]

theorem run_of_unwritten (hhelp : ¬ AsksHelp [general.bytes, eastAsian.bytes, output.bytes])
    (hmade : (made t general eastAsian).result = .ok tables)
    (h : (t.run (Files.write output tables)).1.result = .error fault) :
    t.run (Command.run [general.bytes, eastAsian.bytes, output.bytes]) =
      (⟨1, "", (Complaint.notWritten output fault).report⟩,
        (t.run (Files.write output tables)).2) := by
  simp only [Command.run, ofArguments?_eq_ok hhelp, perform, make, run_bind, run_build, hmade, h,
    run_pure]

theorem run_of_written (hhelp : ¬ AsksHelp [general.bytes, eastAsian.bytes, output.bytes])
    (hmade : (made t general eastAsian).result = .ok tables)
    (h : (t.run (Files.write output tables)).1.result = .ok ()) :
    t.run (Command.run [general.bytes, eastAsian.bytes, output.bytes]) =
      (⟨0, String.join (tables.summaries.map fun summary => summary.display ++ "\n"), ""⟩,
        (t.run (Files.write output tables)).2) := by
  simp only [Command.run, ofArguments?_eq_ok hhelp, perform, make, run_bind, run_build, hmade, h,
    run_pure]

/-- A run that is stopped fails with the complaint. The tree is as it was, unless tables were made
and could not be written. -/
theorem run_of_stops (hhelp : ¬ AsksHelp arguments) (h : Stops t arguments complaint) :
    t.run (Command.run arguments) = (⟨1, "", complaint.report⟩, t) ∨
    ∃ general eastAsian output tables fault,
      arguments = [general.bytes, eastAsian.bytes, output.bytes] ∧
      Makes t general eastAsian tables ∧
      (t.run (Files.write output tables)).1.result = .error fault ∧
      t.run (Command.run arguments) = (⟨1, "", complaint.report⟩,
        (t.run (Files.write output tables)).2) := by
  cases h with
  | noGeneral => exact .inl (run_of_complaint (if_neg hhelp))
  | noEastAsian => exact .inl (run_of_complaint (if_neg hhelp))
  | noOutput => exact .inl (run_of_complaint (if_neg hhelp))
  | @surplus general eastAsian output more hmore =>
    refine .inl (run_of_complaint ((if_neg hhelp).trans ?_))
    cases more with
    | nil => exact absurd rfl hmore
    | cons argument more => rfl
  | unopenedGeneral hopen =>
    refine .inl (run_of_unmade hhelp ?_)
    rw [made, run_build_of_unopened_general hopen]
    rfl
  | unopenedEastAsian hgeneral hopen =>
    rcases exists_openFile_eq_ok hgeneral with ⟨content, hgeneral⟩
    refine .inl (run_of_unmade hhelp ?_)
    rw [made, run_build_of_unopened_eastAsian hgeneral hopen]
    rfl
  | unreadGeneral heastAsian hread =>
    exact .inl (run_of_unmade hhelp (hread.made_general heastAsian))
  | unreadEastAsian hgeneral hread =>
    exact .inl (run_of_unmade hhelp (hread.made_eastAsian hgeneral))
  | unassigned hgeneral heastAsian hall hearlier hnone =>
    refine .inl (run_of_unmade hhelp ?_)
    rw [made_of_files hgeneral.1 heastAsian.1,
      Tables.build_result_of_good hgeneral.2 heastAsian.2]
    exact Tables.ofRanges?_rangesOf_eq_error_iff.2 ⟨_, _, _, hall, hearlier, hnone, rfl⟩
  | unwritten hmakes hwrite =>
    exact .inr ⟨_, _, _, _, _, rfl, hmakes, hwrite, run_of_unwritten hhelp hmakes.made_eq hwrite⟩

/-- A run that nothing stops has made tables and written them. -/
theorem run_of_not_stops (hhelp : ¬ AsksHelp arguments)
    (h : ∀ complaint, ¬ Stops t arguments complaint) :
    ∃ general eastAsian output tables,
      arguments = [general.bytes, eastAsian.bytes, output.bytes] ∧
      Makes t general eastAsian tables ∧
      (t.run (Files.write output tables)).1.result = .ok () ∧
      t.run (Command.run arguments) =
        (⟨0, String.join (tables.summaries.map fun summary => summary.display ++ "\n"), ""⟩,
          (t.run (Files.write output tables)).2) := by
  match arguments with
  | [] => exact absurd .noGeneral (h _)
  | [_] => exact absurd .noEastAsian (h _)
  | [_, _] => exact absurd .noOutput (h _)
  | _ :: _ :: _ :: argument :: more =>
    exact absurd (.surplus (List.cons_ne_nil argument more)) (h _)
  | [general, eastAsian, output] =>
    rcases makes_or_stops t ⟨general⟩ ⟨eastAsian⟩ ⟨output⟩ with
      ⟨tables, hmakes⟩ | ⟨complaint, hstops⟩
    · cases hwrite : (t.run (Files.write ⟨output⟩ tables)).1.result with
      | error fault => exact absurd (.unwritten hmakes hwrite) (h _)
      | ok u =>
        exact ⟨⟨general⟩, ⟨eastAsian⟩, ⟨output⟩, tables, rfl, hmakes, hwrite,
          run_of_written hhelp hmakes.made_eq hwrite⟩
    · exact absurd hstops (h complaint)

/-! ## Runs -/

/-- **What a run does.** It prints the usage if it is asked to; else the first stage that fails ends
it with its complaint, which is printed with all that it rests on; else the listing of the tables of
both files is written, and one line of counts is printed for each table. -/
theorem run_outcome (t : FileTree) (arguments : List Argument) :
    (AsksHelp arguments → t.run (Command.run arguments) = (⟨0, "", usage⟩, t)) ∧
    (¬ AsksHelp arguments → ∀ complaint, Stops t arguments complaint →
      (t.run (Command.run arguments)).1 = ⟨1, "", complaint.report⟩ ∧
      ∃ message causes, complaint.Tells message causes ∧
        Complaint.Printed message causes complaint.report) ∧
    (¬ AsksHelp arguments → (∀ complaint, ¬ Stops t arguments complaint) →
      ∃ general eastAsian output tables text temporary,
        arguments = [general.bytes, eastAsian.bytes, output.bytes] ∧
        Makes t general eastAsian tables ∧
        Listing.render? (.ofPath output) tables = .ok text ∧
        (t.run (Command.run arguments)).1 =
          ⟨0, (Summary.ofRanges .invalid tables.invalid).display ++ "\n" ++
            (Summary.ofRanges .zero tables.zero).display ++ "\n" ++
            (Summary.ofRanges .double tables.double).display ++ "\n", ""⟩ ∧
        output.temporary? = some temporary ∧
        Replaced output temporary (encode text) t
          (t.run (Command.run arguments)).2) := by
  refine ⟨run_of_asksHelp, ?_, ?_⟩
  · intro hhelp complaint hstops
    refine ⟨?_, complaint.exists_tells_printed⟩
    rcases run_of_stops hhelp hstops with hrun | ⟨_, _, _, _, _, -, -, -, hrun⟩ <;> rw [hrun]
  · intro hhelp hnot
    rcases run_of_not_stops hhelp hnot with
      ⟨general, eastAsian, output, tables, rfl, hmakes, hwrite, hrun⟩
    cases hrender : Listing.render? (.ofPath output) tables with
    | error fault =>
      rw [Files.run_write_of_error hrender] at hwrite
      cases hwrite
    | ok text =>
      rw [Files.run_write_of_ok hrender] at hwrite hrun
      rcases Files.replaced_of_ok hwrite with ⟨temporary, htemporary, hreplaced⟩
      refine ⟨general, eastAsian, output, tables, text, temporary, rfl, hmakes, hrender, ?_,
        htemporary, ?_⟩
      · rw [hrun]
        simp [Tables.summaries, Width.all, Tables.get, String.join, String.append_assoc]
      · rw [hrun]
        exact hreplaced

/-- The tables of the two files of `Files.sampleTree`. -/
def sampleMade : Tables where
  invalid := [⟨0x378, 0x378, by decide, by decide⟩]
  zero := [⟨0x300, 0x300, by decide, by decide⟩]
  double := [⟨0x3000, 0x3000, by decide, by decide⟩]

theorem makes_sampleMade : Makes Files.sampleTree (.ofString "gc") (.ofString "eaw") sampleMade :=
  ⟨_, _, rfl, rfl, by cbv⟩

theorem exists_listing_sampleMade (d : Dialect) :
    ∃ listing, Listing.render? d sampleMade = .ok listing := by
  refine Listing.exists_render?_eq_ok_iff.2 fun width => ?_
  cases width <;> rfl

theorem unreadable_temporary :
    Unreadable Files.sampleTree (.ofString ".d.tmp")
      (.malformed ".d.tmp" 1 "\x00" .missingSeparator) := by
  have hrefused : (Source.ofBytes (Path.ofString ".d.tmp").display [0]).records =
      .error (.malformed ".d.tmp" 1 "\x00" .missingSeparator) := rfl
  rcases Source.records_eq_error_iff.1 hrefused with ⟨_, _, hfirst, hfault⟩
  exact .badLine rfl hfirst hfault

theorem quotedList_stray : Text.quotedList [[0x22, 0xFF]] = "[\"\\\"\\xFF\"]" := by
  have hdigits : Text.Hex.padded .upper 2 0xFF = ['F', 'F'] := by cbv
  have hquoted : Text.quoted [0x22, 0xFF] =
    "\"" ++ ("\\\"" ++ ("\\x" ++ .ofList (Text.Hex.padded .upper 2 0xFF) ++ "")) ++ "\"" := rfl
  rw [Text.quotedList, List.map_singleton, hquoted, hdigits]
  decide

theorem result_write_sampleMade :
    (Files.sampleTree.run (Files.write (.ofString "gc") sampleMade)).1.result = .ok () := by
  rcases exists_listing_sampleMade (.ofPath (.ofString "gc")) with ⟨listing, hlisting⟩
  rw [Files.run_write_of_ok hlisting]
  exact Files.publishable_sampleTree.result_eq_ok listing

theorem result_write_sampleMade_directory :
    (Files.sampleTree.run (Files.write (.ofString "d") sampleMade)).1.result =
      .error (.file "d" .isDirectory) := by
  rcases exists_listing_sampleMade (.ofPath (.ofString "d")) with ⟨listing, hlisting⟩
  rw [Files.run_write_of_ok hlisting]
  exact Files.result_publish_directory listing

/-- Help is asked for by any argument; of two things that are wrong the first is reported, with what
it rests on; surplus arguments are reported even if they are no text; and the output may be one of
the two files. -/
theorem run_outcome_of_sampleTree :
    Files.sampleTree.run (Command.run [encode "gc", encode "--help"]) =
      (⟨0, "",
        "usage: wcwidth_bakery <DerivedGeneralCategory.txt> <EastAsianWidth.txt> <output>\n\n" ++
          "output ending in .rs is written as a Rust module, anything else as a C header\n"⟩,
        Files.sampleTree) ∧
    (Files.sampleTree.run (Command.run [encode "none"])).1 =
      ⟨1, "", "Error: missing path to EastAsianWidth.txt\n\nCaused by:\n" ++
        "    free-standing argument is missing\n"⟩ ∧
    (Files.sampleTree.run (Command.run [encode "gc", encode "none", encode "d", [0x22, 0xFF]])).1 =
      ⟨1, "", "Error: unrecognized arguments: [\"\\\"\\xFF\"]\n\n" ++ usage ++ "\n"⟩ ∧
    (Files.sampleTree.run (Command.run [encode "gc", encode "none", encode "d"])).1 =
      ⟨1, "", "Error: none: No such file or directory (os error 2)\n\nCaused by:\n" ++
        "    No such file or directory (os error 2)\n"⟩ ∧
    (Files.sampleTree.run (Command.run [encode ".d.tmp", encode "eaw", encode "d"])).1 =
      ⟨1, "", "Error: .d.tmp:1: malformed record `\x00`: missing `;` separator\n\nCaused by:\n" ++
        "    missing `;` separator\n"⟩ ∧
    (Files.sampleTree.run (Command.run [encode "gc", encode "eaw", encode "d"])).1 =
      ⟨1, "", "Error: failed to write d\n\nCaused by:\n" ++
        "    0: d: Is a directory (os error 21)\n    1: Is a directory (os error 21)\n"⟩ ∧
    (Files.sampleTree.run (Command.run [encode "gc", encode "eaw", encode "gc"])).1 =
      ⟨0, "invalid: 1 ranges, 1 codepoints, 8 b\nzero_width: 1 ranges, 1 codepoints, 8 b\n" ++
        "double_width: 1 ranges, 1 codepoints, 8 b\n", ""⟩ ∧
    ∃ general eastAsian output tables text temporary,
      [encode "gc", encode "eaw", encode "gc"] = [general.bytes, eastAsian.bytes, output.bytes] ∧
      Makes Files.sampleTree general eastAsian tables ∧
      Listing.render? (.ofPath output) tables = .ok text ∧
      (Files.sampleTree.run (Command.run [encode "gc", encode "eaw", encode "gc"])).1 =
        ⟨0, (Summary.ofRanges .invalid tables.invalid).display ++ "\n" ++
          (Summary.ofRanges .zero tables.zero).display ++ "\n" ++
          (Summary.ofRanges .double tables.double).display ++ "\n", ""⟩ ∧
      output.temporary? = some temporary ∧
      Replaced output temporary (encode text) Files.sampleTree
        (Files.sampleTree.run (Command.run [encode "gc", encode "eaw", encode "gc"])).2 := by
  have hstops (arguments : List Argument) (complaint : Complaint) (hhelp : ¬ AsksHelp arguments)
      (h : Stops Files.sampleTree arguments complaint) :
      (Files.sampleTree.run (Command.run arguments)).1 = ⟨1, "", complaint.report⟩ :=
    ((run_outcome Files.sampleTree arguments).2.1 hhelp complaint h).1
  have hhelp : ¬ AsksHelp [(Path.ofString "gc").bytes, (Path.ofString "eaw").bytes,
      (Path.ofString "gc").bytes] := by decide
  have hrun := run_of_written hhelp makes_sampleMade.made_eq result_write_sampleMade
  refine ⟨?_, ?_, ?_, ?_, ?_, ?_, (congrArg Prod.fst hrun).trans (by decide), ?_⟩
  · exact (run_outcome Files.sampleTree [encode "gc", encode "--help"]).1 (by decide)
  · rw [hstops _ _ (by decide) .noEastAsian]
    decide
  · rw [hstops _ _ (by decide) (.surplus (List.cons_ne_nil _ _))]
    show Outcome.mk 1 "" ("Error: " ++
      ("unrecognized arguments: " ++ Text.quotedList [[0x22, 0xFF]] ++ "\n\n" ++ usage) ++ "" ++
        "\n") = _
    rw [quotedList_stray, String.append_empty]
    simp only [← String.append_assoc, String.reduceAppend]
  · exact (hstops _ _ (by decide) (.unopenedEastAsian (by decide) rfl)).trans (by decide)
  · exact (hstops _ _ (by decide) (.unreadGeneral (by decide) unreadable_temporary)).trans
      (by decide)
  · exact (hstops _ _ (by decide)
      (.unwritten makes_sampleMade result_write_sampleMade_directory)).trans (by decide)
  · refine (run_outcome Files.sampleTree _).2.2 hhelp fun complaint hcomplaint => ?_
    have hcode := hstops _ _ hhelp hcomplaint
    rw [hrun] at hcode
    have hdistinct : (0 : UInt32) ≠ 1 := by decide
    exact absurd (congrArg Outcome.code hcode) hdistinct

/-- **What a failure leaves.** Nothing is printed to standard output. The tree is as it was, unless
all stages up to the writing of the listing succeeded: then the output is kept, and with it all else
but a file at the temporary path. -/
theorem run_failure_keeps (t : FileTree) (arguments : List Argument)
    (h : (t.run (Command.run arguments)).1.code ≠ 0) :
    (t.run (Command.run arguments)).1.output = "" ∧
    ((t.run (Command.run arguments)).2 = t ∨
      ∃ general eastAsian output tables text temporary contents,
        arguments = [general.bytes, eastAsian.bytes, output.bytes] ∧
        Makes t general eastAsian tables ∧
        Listing.render? (.ofPath output) tables = .ok text ∧
        output.temporary? = some temporary ∧
        t.at? temporary = some (.file contents) ∧
        Kept output temporary t (t.run (Command.run arguments)).2) := by
  by_cases hhelp : AsksHelp arguments
  · rw [run_of_asksHelp hhelp] at h
    exact absurd rfl h
  by_cases hstops : ∃ complaint, Stops t arguments complaint
  · rcases hstops with ⟨complaint, hstops⟩
    rcases run_of_stops hhelp hstops with hrun |
      ⟨general, eastAsian, output, tables, fault, rfl, hmakes, hwrite, hrun⟩ <;> rw [hrun]
    · exact ⟨rfl, .inl rfl⟩
    rcases Files.eq_or_kept_of_write_error hwrite with hsame |
      ⟨text, temporary, contents, hrender, htemporary, hfile, hkept⟩
    · exact ⟨rfl, .inl hsame⟩
    · exact ⟨rfl, .inr ⟨general, eastAsian, output, tables, text, temporary, contents, rfl, hmakes,
        hrender, htemporary, hfile, hkept⟩⟩
  · rcases run_of_not_stops hhelp (not_exists.1 hstops) with ⟨_, _, _, _, -, -, -, hrun⟩
    rw [hrun] at h
    exact absurd rfl h

/-- Nothing is lost where the output is a directory. -/
theorem run_failure_keeps_of_sampleTree :
    (Files.sampleTree.run (Command.run [encode "gc", encode "eaw", encode "d"])).1.code ≠ 0 ∧
    (Files.sampleTree.run (Command.run [encode "gc", encode "eaw", encode "d"])).1.output = "" ∧
    ((Files.sampleTree.run (Command.run [encode "gc", encode "eaw", encode "d"])).2 =
        Files.sampleTree ∨
      ∃ general eastAsian output tables text temporary contents,
        [encode "gc", encode "eaw", encode "d"] = [general.bytes, eastAsian.bytes, output.bytes] ∧
        Makes Files.sampleTree general eastAsian tables ∧
        Listing.render? (.ofPath output) tables = .ok text ∧
        output.temporary? = some temporary ∧
        Files.sampleTree.at? temporary = some (.file contents) ∧
        Kept output temporary Files.sampleTree
          (Files.sampleTree.run (Command.run [encode "gc", encode "eaw", encode "d"])).2) := by
  have hhelp : ¬ AsksHelp [(Path.ofString "gc").bytes, (Path.ofString "eaw").bytes,
      (Path.ofString "d").bytes] := by decide
  have hrun : Files.sampleTree.run (Command.run [encode "gc", encode "eaw", encode "d"]) = _ :=
    run_of_unwritten hhelp makes_sampleMade.made_eq result_write_sampleMade_directory
  have hcode : (Files.sampleTree.run
      (Command.run [encode "gc", encode "eaw", encode "d"])).1.code ≠ 0 := by
    rw [hrun]
    decide
  exact ⟨hcode, run_failure_keeps Files.sampleTree _ hcode⟩

end Command

end CellWidth
