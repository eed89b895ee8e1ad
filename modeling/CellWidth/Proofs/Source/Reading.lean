import CellWidth.Source
import CellWidth.Proofs.Text.Lines
import CellWidth.Proofs.Text.Trim

/-!
# What a source is read to

* `HasRecord bytes record` : the bytes have a line that is the record.
* `BadLine line` : the line can be read to nothing.
* `records_eq_ok` : a source without bad lines is read to the records of its lines.
* `records_eq_error_iff` : any other is refused with the fault of its first bad line.
* `exists_bytes_of_records` : what stands behind the records of a source.
-/

namespace CellWidth

open Text (LineAt lines newline trim)
open Text.Utf8 (decode?)

/-! ## Reading in order -/

section InOrder

variable {α β ε : Type} {f : α → Except ε β} {xs : List α} {e : ε}

/-- What is done to a result does not change whether and how it was refused. -/
theorem bind_pure_eq_error_iff {result : Except ε α} {g : α → β} :
    (result >>= fun a => pure (g a)) = .error e ↔ result = .error e := by
  cases result <;> simp [bind, Except.bind, pure, Except.pure]

/-- What is read without a fault is read item by item. -/
theorem mapM_eq_ok_map {g : α → β} (h : ∀ x ∈ xs, f x = .ok (g x)) :
    xs.mapM f = .ok (xs.map g) := by
  induction xs with
  | nil => rfl
  | cons x xs ih =>
    rw [List.mapM_cons, h x List.mem_cons_self,
      ih fun y hy => h y (List.mem_cons_of_mem _ hy)]
    rfl

/-- Nothing is read from items without faults but what each gives. -/
theorem eq_map_of_mapM_eq_ok {g : α → β} {ys : List β} (hg : ∀ x y, f x = .ok y → y = g x)
    (h : xs.mapM f = .ok ys) : ys = xs.map g := by
  induction xs generalizing ys with
  | nil => exact (Except.ok.inj h).symm
  | cons x xs ih =>
    rw [List.mapM_cons] at h
    cases hx : f x with
    | error e => rw [hx] at h; cases h
    | ok y =>
      rw [hx] at h
      cases hxs : xs.mapM f with
      | error e => rw [hxs] at h; cases h
      | ok rest =>
        rw [hxs] at h
        rw [← Except.ok.inj h, List.map_cons, hg x y hx, ih hxs]

/-- All is read if each item can be read. -/
theorem exists_mapM_eq_ok_iff : (∃ ys, xs.mapM f = .ok ys) ↔ ∀ x ∈ xs, ∃ y, f x = .ok y := by
  induction xs with
  | nil => simp [pure, Except.pure]
  | cons x xs ih =>
    rw [List.forall_mem_cons, ← ih, List.mapM_cons]
    cases f x with
    | error e => simp [bind, Except.bind]
    | ok y => cases xs.mapM f <;> simp [bind, Except.bind, pure, Except.pure]

/-- The first item with a fault ends the reading with this fault. -/
theorem mapM_eq_error_iff_append :
    xs.mapM f = .error e ↔ ∃ before x after, xs = before ++ x :: after ∧
      (∀ y ∈ before, ∃ b, f y = .ok b) ∧ f x = .error e := by
  induction xs with
  | nil => simp [pure, Except.pure]
  | cons x xs ih =>
    rw [List.mapM_cons]
    -- the first item has the first fault, or stands in front of it
    cases hx : f x with
    | error e' =>
      constructor
      · intro h
        have he : e' = e := Except.error.inj h
        exact ⟨[], x, xs, rfl, List.forall_mem_nil _, he ▸ hx⟩
      · intro hfirst
        rcases hfirst with ⟨before, y, after, hxs, hbefore, hfy⟩
        rcases List.cons_eq_append_iff.1 hxs with ⟨-, hhead⟩ | ⟨rest, rfl, -⟩
        · cases hhead
          rw [hx] at hfy
          rw [Except.error.inj hfy]
          rfl
        · rcases hbefore x List.mem_cons_self with ⟨b, hb⟩
          rw [hx] at hb
          cases hb
    | ok b =>
      show (xs.mapM f >>= fun bs => pure (b :: bs)) = .error e ↔ _
      rw [bind_pure_eq_error_iff, ih]
      constructor
      · intro hfirst
        rcases hfirst with ⟨before, y, after, rfl, hbefore, hfy⟩
        exact ⟨x :: before, y, after, rfl, List.forall_mem_cons.2 ⟨⟨b, hx⟩, hbefore⟩, hfy⟩
      · intro hfirst
        rcases hfirst with ⟨before, y, after, hxs, hbefore, hfy⟩
        rcases List.cons_eq_append_iff.1 hxs with ⟨-, hhead⟩ | ⟨rest, rfl, hrest⟩
        · cases hhead
          rw [hx] at hfy
          cases hfy
        · exact ⟨rest, y, after, hrest, (List.forall_mem_cons.1 hbefore).2, hfy⟩

/-- The same, said by the position of the first item with a fault. -/
theorem mapM_eq_error_iff :
    xs.mapM f = .error e ↔ ∃ (i : Nat) (x : α), xs[i]? = some x ∧ f x = .error e ∧
      ∀ (j : Nat) (y : α), j < i → xs[j]? = some y → ∃ b, f y = .ok b := by
  rw [mapM_eq_error_iff_append]
  constructor
  · intro hfirst
    rcases hfirst with ⟨before, x, after, rfl, hbefore, hfx⟩
    refine ⟨before.length, x, by simp, hfx, fun j y hj hy => ?_⟩
    rw [List.getElem?_append_left hj] at hy
    exact hbefore y (List.mem_of_getElem? hy)
  · intro hfirst
    rcases hfirst with ⟨i, x, hx, hfx, hbefore⟩
    rcases List.getElem?_eq_some_iff.1 hx with ⟨hi, rfl⟩
    refine ⟨xs.take i, xs[i], xs.drop (i + 1), ?_, ?_, hfx⟩
    · rw [← List.drop_eq_getElem_cons hi, List.take_append_drop]
    · intro y hy
      rcases List.mem_take_iff_getElem.1 hy with ⟨j, hj, rfl⟩
      exact hbefore j _ (by omega) (List.getElem?_eq_getElem _)

end InOrder

/-! ## Lines -/

/-- The bytes have a line that is the record. -/
def HasRecord (bytes : List UInt8) (record : Record) : Prop :=
  ∃ before line text, LineAt bytes before line ∧ decode? line = some text ∧
    Record.ofLine? text = .ok (some record)

/-- The line is not UTF-8, or is neither blank nor a comment nor a record. -/
def BadLine (line : List UInt8) : Prop :=
  decode? line = none ∨
    ∃ text reason, decode? line = some text ∧ Record.ofLine? text = .error reason

/-- Some line of the bytes is bad. -/
def HasBadLine (bytes : List UInt8) : Prop :=
  ∃ before line, LineAt bytes before line ∧ BadLine line

/-- Bytes are free of bad lines if all their lines can be read. -/
theorem not_hasBadLine_iff {bytes : List UInt8} :
    ¬ HasBadLine bytes ↔ ∀ line ∈ lines bytes, ¬ BadLine line := by
  simp only [HasBadLine, Text.mem_lines_iff]
  constructor
  · intro h line hmem hbad
    rcases hmem with ⟨before, hat⟩
    exact h ⟨before, line, hat, hbad⟩
  · intro h hbad
    rcases hbad with ⟨before, line, hat, hbad⟩
    exact h line ⟨before, hat⟩ hbad

/-- The line behind `before` is bad, and none with fewer newlines in front of it is. -/
structure FirstBadLine (bytes before line : List UInt8) : Prop where
  lineAt : LineAt bytes before line
  bad : BadLine line
  first : ∀ before' line', LineAt bytes before' line' →
    before'.count newline < before.count newline → ¬ BadLine line'

/-- Where there is a bad line there is a first one. -/
theorem HasBadLine.exists_first {bytes : List UInt8} (h : HasBadLine bytes) :
    ∃ before line, FirstBadLine bytes before line := by
  rcases h with ⟨before, line, hat, hbad⟩
  -- as long as there is a bad line with fewer newlines in front of it, go on from there
  induction hcount : before.count newline using Nat.strongRecOn generalizing before line with
  | _ n ih =>
  by_cases hearlier : ∃ before' line', LineAt bytes before' line' ∧
      before'.count newline < n ∧ BadLine line'
  · rcases hearlier with ⟨before', line', hat', hlt, hbad'⟩
    exact ih _ hlt before' line' hat' hbad' rfl
  · refine ⟨before, line, hat, hbad, fun before' line' hat' hlt hbad' => ?_⟩
    exact hearlier ⟨before', line', hat', hcount ▸ hlt, hbad'⟩

/-- What is wrong with the line behind `before` of a named file. The text of the fault is without
the blanks around it, and the reason is that for which this text is no line. -/
inductive FaultAt (name : String) (before line : List UInt8) : Fault → Prop
  | notUtf8 : decode? line = none → FaultAt name before line (.file name .notUtf8)
  | malformed {text : List Char} {reason : RecordFault} : decode? line = some text →
      Record.ofLine? (trim text) = .error reason →
      FaultAt name before line
        (.malformed name (before.count newline + 1) (.ofList (trim text)) reason)

/-- Blanks around a line do not matter. -/
theorem Record.ofLine?_trim (text : List Char) :
    Record.ofLine? (trim text) = Record.ofLine? text := by
  simp only [Record.ofLine?, Text.trim_trim]

/-- The record of a line, if it is one. -/
def recordOf? (line : List UInt8) : Option Record :=
  (decode? line).bind fun text => (Record.ofLine? text).toOption.join

theorem recordOf?_eq_some_iff {line : List UInt8} {record : Record} :
    recordOf? line = some record ↔
      ∃ text, decode? line = some text ∧ Record.ofLine? text = .ok (some record) := by
  rw [recordOf?, Option.bind_eq_some_iff]
  refine exists_congr fun text => and_congr_right fun _ => ?_
  cases Record.ofLine? text with
  | error reason => simp [Except.toOption]
  | ok record? => simp [Except.toOption]

/-- The records of a text's lines are the records that the text has. -/
theorem mem_filterMap_recordOf?_iff {bytes : List UInt8} {record : Record} :
    record ∈ (lines bytes).filterMap recordOf? ↔ HasRecord bytes record := by
  simp only [List.mem_filterMap, Text.mem_lines_iff, recordOf?_eq_some_iff]
  constructor
  · intro hline
    rcases hline with ⟨line, ⟨before, hline⟩, text, htext, hrecord⟩
    exact ⟨before, line, text, hline, htext, hrecord⟩
  · intro hhas
    rcases hhas with ⟨before, line, text, hline, htext, hrecord⟩
    exact ⟨line, ⟨before, hline⟩, text, htext, hrecord⟩

namespace Source

variable {source : Source} {line : List UInt8}

theorem recordAt_of_not_badLine (h : ¬ BadLine line) (index : Nat) :
    source.recordAt line index = .ok (recordOf? line) := by
  unfold recordAt recordOf?
  cases htext : decode? line with
  | none => exact absurd (.inl htext) h
  | some text =>
    cases hread : Record.ofLine? text with
    | error reason => exact absurd (.inr ⟨text, reason, htext, hread⟩) h
    | ok record? => cases record? <;> simp [hread, Except.toOption]

/-- The bad lines are those that a reader refuses, wherever they stand. -/
theorem badLine_iff_recordAt (index : Nat) :
    BadLine line ↔ ∃ fault, source.recordAt line index = .error fault := by
  constructor
  · intro hbad
    rcases hbad with htext | ⟨text, reason, htext, hread⟩
    · exact ⟨.file source.name .notUtf8, by simp [recordAt, htext]⟩
    · exact ⟨.malformed source.name (index + 1) (.ofList (trim text)) reason,
        by simp [recordAt, htext, hread]⟩
  · intro hrefused
    rcases hrefused with ⟨fault, hfault⟩
    by_contra hgood
    rw [recordAt_of_not_badLine hgood] at hfault
    cases hfault

theorem recordAt_eq_error_iff {before : List UInt8} {fault : Fault} :
    source.recordAt line (before.count newline) = .error fault ↔
      FaultAt source.name before line fault := by
  unfold recordAt
  constructor
  · intro h
    split at h
    · next htext =>
      cases h
      exact .notUtf8 htext
    · next text htext =>
      split at h
      · next reason hread =>
        cases h
        exact .malformed htext (by rw [Record.ofLine?_trim, hread])
      · cases h
  · intro h
    cases h with
    | notUtf8 htext => simp [htext]
    | @malformed text reason htext hread =>
      rw [Record.ofLine?_trim] at hread
      simp [htext, hread]

variable {name : String} {bytes : List UInt8}

/-- A source without bad lines is read to the records of its lines, in order. -/
theorem records_eq_ok (h : ¬ HasBadLine bytes) :
    (ofBytes name bytes).records = .ok ((lines bytes).filterMap recordOf?) := by
  have hgood : ∀ line ∈ lines bytes, ¬ BadLine line := by
    intro line hline hbad
    rcases Text.mem_lines_iff.1 hline with ⟨before, hat⟩
    exact h ⟨before, line, hat, hbad⟩
  have hread : (lines bytes).zipIdx.mapM
        (fun entry => (ofBytes name bytes).recordAt entry.1 entry.2) =
      .ok ((lines bytes).zipIdx.map fun entry => recordOf? entry.1) := by
    refine mapM_eq_ok_map fun entry hentry => recordAt_of_not_badLine (hgood _ ?_) _
    exact List.fst_mem_of_mem_zipIdx hentry
  have hmap : ((lines bytes).zipIdx.map fun entry => recordOf? entry.1) =
      (lines bytes).map recordOf? := by
    calc (lines bytes).zipIdx.map (fun entry => recordOf? entry.1)
        = ((lines bytes).zipIdx.map Prod.fst).map recordOf? := by rw [List.map_map]; rfl
      _ = (lines bytes).map recordOf? := by rw [List.zipIdx_map_fst]
  show Except.bind ((lines bytes).zipIdx.mapM _) _ = _
  rw [hread, hmap]
  simp [Except.bind, List.filterMap_map, pure, Except.pure]

/-- A source is refused with the fault of its first bad line. -/
theorem records_eq_error_iff {fault : Fault} :
    (ofBytes name bytes).records = .error fault ↔
      ∃ before line, FirstBadLine bytes before line ∧ FaultAt name before line fault := by
  show ((lines bytes).zipIdx.mapM (fun entry => (ofBytes name bytes).recordAt entry.1 entry.2) >>=
    fun read => pure (read.filterMap id)) = .error fault ↔ _
  rw [bind_pure_eq_error_iff, mapM_eq_error_iff]
  -- the position of a line is the number of newlines in front of it
  have hzip (i : Nat) (entry : List UInt8 × Nat) : (lines bytes).zipIdx[i]? = some entry ↔
      (∃ before, LineAt bytes before entry.1 ∧ before.count newline = i) ∧ entry.2 = i := by
    rw [← Text.lines_getElem?_eq_some_iff, List.getElem?_zipIdx, Option.map_eq_some_iff]
    constructor
    · intro hentry
      rcases hentry with ⟨line, hline, rfl⟩
      exact ⟨hline, Nat.zero_add i⟩
    · intro hentry
      rcases hentry with ⟨hline, hi⟩
      exact ⟨entry.1, hline, by rw [Nat.zero_add, ← hi]⟩
  simp only [hzip]
  constructor
  · intro hfirst
    rcases hfirst with ⟨i, ⟨line, index⟩, ⟨⟨before, hat, hcount⟩, rfl⟩, hfault, hbefore⟩
    subst hcount
    refine ⟨before, line, ⟨hat, (badLine_iff_recordAt _).2 ⟨fault, hfault⟩, ?_⟩,
      recordAt_eq_error_iff.1 hfault⟩
    intro before' line' hat' hlt hbad
    -- a bad line before this one would have ended the reading
    rcases hbefore _ (line', _) hlt ⟨⟨before', hat', rfl⟩, rfl⟩ with ⟨record?, hok⟩
    rcases (badLine_iff_recordAt _).1 hbad with ⟨fault', hfault'⟩
    rw [hfault'] at hok
    cases hok
  · intro hbad
    rcases hbad with ⟨before, line, hfirst, hfault⟩
    refine ⟨before.count newline, (line, before.count newline), ⟨⟨before, hfirst.lineAt, rfl⟩, rfl⟩,
      recordAt_eq_error_iff.2 hfault, ?_⟩
    rintro j ⟨line', index⟩ hj ⟨⟨before', hat', rfl⟩, rfl⟩
    exact ⟨_, recordAt_of_not_badLine (hfirst.first before' line' hat' hj) _⟩

/-- A source is refused for its bad lines and for nothing else. -/
theorem records_refused_iff (name : String) :
    (∃ fault, (ofBytes name bytes).records = .error fault) ↔ HasBadLine bytes := by
  constructor
  · intro hrefused
    rcases hrefused with ⟨fault, hfault⟩
    rcases records_eq_error_iff.1 hfault with ⟨before, line, hfirst, -⟩
    exact ⟨before, line, hfirst.lineAt, hfirst.bad⟩
  · intro hbad
    rcases hbad.exists_first with ⟨before, line, hfirst⟩
    obtain ⟨fault, hfault⟩ : ∃ fault,
        (ofBytes name bytes).recordAt line (before.count newline) = .error fault :=
      (badLine_iff_recordAt _).1 hfirst.bad
    exact ⟨fault, records_eq_error_iff.2 ⟨before, line, hfirst, recordAt_eq_error_iff.1 hfault⟩⟩

theorem not_hasBadLine_of_records {records : List Record}
    (h : (ofBytes name bytes).records = .ok records) : ¬ HasBadLine bytes := by
  intro hbad
  rcases (records_refused_iff name).2 hbad with ⟨fault, hfault⟩
  rw [h] at hfault
  cases hfault

/-- A source that gives records has bytes without bad lines, and they are the records of these. -/
theorem exists_bytes_of_records {records : List Record} (h : source.records = .ok records) :
    ∃ bytes, source = ofBytes source.name bytes ∧ ¬ HasBadLine bytes ∧
      records = (lines bytes).filterMap recordOf? := by
  obtain ⟨name, content⟩ := source
  cases content with
  | error reason => cases h
  | ok bytes =>
    have hread : (ofBytes name bytes).records = .ok records := h
    have hgood : ¬ HasBadLine bytes := not_hasBadLine_of_records hread
    rw [records_eq_ok hgood] at hread
    exact ⟨bytes, rfl, hgood, (Except.ok.inj hread).symm⟩

end Source

end CellWidth
