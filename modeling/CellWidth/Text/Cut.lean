/-!
# Cutting a text at a mark

* `cut? mark text` : the text before and after the *first* place where `mark` stands.
* `cut?_eq_some` : the two parts and the mark between them give the text back.
-/

namespace CellWidth.Text

/-- What follows `mark`, if the text begins with it. -/
def after? : (mark text : List Char) → Option (List Char)
  | [], text => some text
  | _ :: _, [] => none
  | m :: mark, c :: text => if m = c then after? mark text else none

/-- The text before and after the first place where `mark` stands; none if it stands nowhere. -/
def cut? (mark : List Char) : List Char → Option (List Char × List Char)
  | [] => (after? mark []).map fun rest => ([], rest)
  | c :: text =>
    match after? mark (c :: text) with
    | some rest => some ([], rest)
    | none => (cut? mark text).map fun parts => (c :: parts.1, parts.2)

/-- A text begins with a mark exactly when it is the mark and what follows it. -/
theorem after?_eq_some {mark text rest : List Char} :
    after? mark text = some rest ↔ text = mark ++ rest := by
  induction mark generalizing text with
  | nil => simp [after?, eq_comm]
  | cons m mark ih =>
    cases text with
    | nil => simp [after?]
    | cons c text =>
      by_cases h : m = c
      · subst h; simp [after?, ih]
      · simp [after?, h, Ne.symm h]

/-- Nothing is lost by a cut: the parts with the mark between them are the text. -/
theorem cut?_eq_some {mark text before behind : List Char}
    (h : cut? mark text = some (before, behind)) : text = before ++ mark ++ behind := by
  induction text generalizing before with
  | nil =>
    obtain ⟨rest, hrest, hparts⟩ := Option.map_eq_some_iff.1 h
    cases hparts
    simpa using after?_eq_some.1 hrest
  | cons c text ih =>
    unfold cut? at h
    split at h
    · next rest hrest => cases h; simpa using after?_eq_some.1 hrest
    · obtain ⟨parts, hcut, hparts⟩ := Option.map_eq_some_iff.1 h
      cases hparts
      simpa using ih hcut

end CellWidth.Text
