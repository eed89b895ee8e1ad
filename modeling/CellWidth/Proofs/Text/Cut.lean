import Mathlib.Data.List.Chain
import Mathlib.Data.List.TakeWhile
import CellWidth.Text.Cut

/-!
# Where a text is cut

* `cut?_append_mark` : a text is cut at a mark whose first sign does not stand before it.
* `cut?_eq_none_of_not_mem` : it is not cut if this sign does not stand in it at all.
* `CutAt mark text before behind` : the mark stands nowhere nearer to the start of the text. That is
  where it is cut (`cut?_eq_some_iff`), unless the mark does not stand in it (`cut?_eq_none_iff`).
* `cutAt_doubled_iff` : a sign twice in a row is first where no such pair stands in front of it.
  It stays the first one if other signs are put in front of it (`CutAt.insert`).
* `takeWhile_eq_iff` : in any alphabet, how far a run of signs reaches.
* `takeWhile_ne_append`, `dropWhile_ne_append` : what stands around the first such sign.
  `takeWhile_ne_eq_iff` : what stands in front of it.
-/

namespace CellWidth.Text

/-! ## Runs -/

section Runs

variable {α : Type} {p : α → Bool} {run behind text : List α}

/-- A run is what stands in front of the first sign that does not belong to it. -/
theorem takeWhile_append_of_head? (hrun : ∀ c ∈ run, p c = true)
    (hbehind : ∀ c, behind.head? = some c → p c = false) : (run ++ behind).takeWhile p = run := by
  have hstop : behind.takeWhile p = [] := by
    cases behind with
    | nil => rfl
    | cons c behind => rw [List.takeWhile_cons_of_neg (by simp [hbehind c rfl])]
  rw [List.takeWhile_append_of_pos hrun, hstop, List.append_nil]

theorem takeWhile_eq_iff :
    text.takeWhile p = run ↔
      ∃ behind, text = run ++ behind ∧ (∀ c ∈ run, p c = true) ∧
        ∀ c, behind.head? = some c → p c = false := by
  constructor
  · rintro rfl
    refine ⟨text.dropWhile p, List.takeWhile_append_dropWhile.symm, fun c hc => ?_, fun c hc => ?_⟩
    · exact List.mem_takeWhile_imp hc
    · have hhead := List.head?_dropWhile_not p text
      rw [hc] at hhead
      simpa using hhead
  · rintro ⟨behind, rfl, hrun, hbehind⟩
    exact takeWhile_append_of_head? hrun hbehind

end Runs

/-! ## The first such sign -/

section FirstSign

variable {α : Type} [DecidableEq α] {m : α} {before behind text : List α}

theorem not_mem_takeWhile_ne (m : α) (text : List α) : m ∉ text.takeWhile (· ≠ m) := by
  intro hmem
  simpa using List.mem_takeWhile_imp hmem

/-- What is left behind the signs before the first such sign begins with it. -/
theorem dropWhile_ne_eq_nil_or (m : α) (text : List α) :
    text.dropWhile (· ≠ m) = [] ∨ ∃ behind, text.dropWhile (· ≠ m) = m :: behind := by
  have hhead := List.head?_dropWhile_not (· ≠ m) text
  cases hdrop : text.dropWhile (· ≠ m) with
  | nil => exact .inl rfl
  | cons c behind =>
    rw [hdrop, List.head?_cons] at hhead
    obtain rfl : c = m := by simpa using hhead
    exact .inr ⟨behind, rfl⟩

theorem forall_ne_of_not_mem (h : m ∉ before) : ∀ c ∈ before, decide (c ≠ m) = true := by
  intro c hc
  exact decide_eq_true fun heq => h (heq ▸ hc)

theorem takeWhile_ne_append (h : m ∉ before) :
    (before ++ m :: behind).takeWhile (· ≠ m) = before :=
  takeWhile_append_of_head? (forall_ne_of_not_mem h) (by simp)

theorem dropWhile_ne_append (h : m ∉ before) :
    (before ++ m :: behind).dropWhile (· ≠ m) = m :: behind := by
  rw [List.dropWhile_append_of_pos (forall_ne_of_not_mem h), List.dropWhile_cons_of_neg (by simp)]

/-- What stands before the first such sign, or the whole text if there is none. -/
theorem takeWhile_ne_eq_iff :
    text.takeWhile (· ≠ m) = before ↔
      (text = before ∨ ∃ behind, text = before ++ m :: behind) ∧ m ∉ before := by
  constructor
  · rintro rfl
    have hsplit := List.takeWhile_append_dropWhile (p := (· ≠ m)) (l := text)
    refine ⟨?_, not_mem_takeWhile_ne m text⟩
    rcases dropWhile_ne_eq_nil_or m text with hnil | ⟨behind, hdrop⟩
    · rw [hnil, List.append_nil] at hsplit
      exact .inl hsplit.symm
    · rw [hdrop] at hsplit
      exact .inr ⟨behind, hsplit.symm⟩
  · rintro ⟨rfl | ⟨behind, rfl⟩, hmem⟩
    · exact List.takeWhile_eq_self_iff.2 (forall_ne_of_not_mem hmem)
    · exact takeWhile_ne_append hmem

end FirstSign

variable {m : Char} {mark before behind text : List Char}

/-! ## A mark with a sign that stands nowhere before it -/

theorem cut?_append_mark (h : m ∉ before) :
    cut? (m :: mark) (before ++ (m :: mark ++ behind)) = some (before, behind) := by
  induction before with
  | nil =>
    have hafter : after? (m :: mark) (m :: (mark ++ behind)) = some behind :=
      after?_eq_some.2 rfl
    simp [cut?, hafter]
  | cons c before ih =>
    have hc : m ≠ c := fun heq => h (heq ▸ List.mem_cons_self)
    have hbefore : m ∉ before := fun hmem => h (List.mem_cons_of_mem _ hmem)
    rw [List.cons_append, cut?, ih hbefore]
    simp [after?, hc]

theorem cut?_eq_none_of_not_mem (h : m ∉ text) : cut? (m :: mark) text = none := by
  induction text with
  | nil => rfl
  | cons c text ih =>
    have hc : m ≠ c := fun heq => h (heq ▸ List.mem_cons_self)
    have htext : m ∉ text := fun hmem => h (List.mem_cons_of_mem _ hmem)
    simp [cut?, after?, hc, ih htext]

/-! ## Any mark -/

/-- The text is cut at the first place where the mark stands. -/
structure CutAt (mark text before behind : List Char) : Prop where
  text_eq : text = before ++ mark ++ behind
  first : ∀ front back, text = front ++ mark ++ back → before.length ≤ front.length

/-- A text in which the mark stands somewhere is cut, and no later than there. -/
theorem exists_cut?_eq_some (mark front back : List Char) :
    ∃ before behind, cut? mark (front ++ mark ++ back) = some (before, behind) ∧
      before.length ≤ front.length := by
  induction front with
  | nil =>
    have hafter : after? mark (mark ++ back) = some back := after?_eq_some.2 rfl
    refine ⟨[], back, ?_, Nat.le_refl _⟩
    rw [List.nil_append]
    cases hstart : mark ++ back with
    | nil => simp [cut?, ← hstart, hafter]
    | cons c text => simp [cut?, ← hstart, hafter]
  | cons c front ih =>
    obtain ⟨before, behind, hcut, hle⟩ := ih
    rw [List.cons_append, List.cons_append, cut?]
    split
    · next rest _ => exact ⟨[], rest, rfl, Nat.zero_le _⟩
    · rw [hcut]
      exact ⟨c :: before, behind, rfl, Nat.succ_le_succ hle⟩

/-- A text is cut where the mark stands first. -/
theorem cut?_eq_some_iff : cut? mark text = some (before, behind) ↔ CutAt mark text before behind := by
  constructor
  · intro h
    refine ⟨cut?_eq_some h, fun front back htext => ?_⟩
    obtain ⟨before', behind', hcut, hle⟩ := exists_cut?_eq_some mark front back
    rw [← htext, h] at hcut
    cases hcut
    exact hle
  · intro h
    obtain ⟨before', behind', hcut, hle⟩ := exists_cut?_eq_some mark before behind
    rw [← h.text_eq] at hcut
    -- both cuts are the first, so that they are one
    have hparts : before' ++ (mark ++ behind') = before ++ (mark ++ behind) := by
      rw [← List.append_assoc, ← List.append_assoc, ← cut?_eq_some hcut, ← h.text_eq]
    have hlength : before'.length = before.length :=
      Nat.le_antisymm hle (h.first before' behind' (cut?_eq_some hcut))
    obtain ⟨rfl, hrest⟩ := List.append_inj hparts hlength
    rw [hcut, List.append_cancel_left hrest]

/-- A text is not cut if the mark stands nowhere in it. -/
theorem cut?_eq_none_iff : cut? mark text = none ↔ ¬ mark <:+: text := by
  rw [Option.eq_none_iff_forall_ne_some]
  constructor
  · rintro h ⟨front, back, rfl⟩
    obtain ⟨before, behind, hcut, -⟩ := exists_cut?_eq_some mark front back
    exact h _ hcut
  · rintro h ⟨before, behind⟩ hcut
    exact h ⟨before, behind, (cut?_eq_some hcut).symm⟩

/-! ## A sign twice in a row -/

/-- No two such signs stand next to each other. -/
def Apart (m : Char) (text : List Char) : Prop :=
  text.IsChain fun a b => a = m → b ≠ m

/-- The first place where a sign stands twice in a row has no such pair in front of it, and none
that its first half would make with the sign before. What follows has no say in it. -/
theorem cutAt_doubled_iff :
    CutAt [m, m] text before behind ↔
      text = before ++ [m, m] ++ behind ∧ Apart m (before ++ [m]) := by
  rw [Apart, List.isChain_iff_forall_rel_of_append_cons_cons]
  constructor
  · rintro ⟨rfl, hfirst⟩
    refine ⟨rfl, fun a b front back hsplit => ?_⟩
    rintro rfl rfl
    -- a pair in front would be an earlier place
    have hle : before.length ≤ front.length := by
      refine hfirst front (back ++ b :: behind) ?_
      have hsplit' : before ++ [b, b] ++ behind = (before ++ [b]) ++ b :: behind := by simp
      rw [hsplit', hsplit]
      simp
    have hlength := congrArg List.length hsplit
    simp only [List.length_append, List.length_cons, List.length_nil] at hlength
    omega
  · rintro ⟨rfl, hpairs⟩
    refine ⟨rfl, fun front back hsplit => ?_⟩
    by_contra hearly
    -- then the pair lies within what stands in front of the place and its first half
    have hpair : front ++ [m, m] <+: before ++ [m, m] ++ behind := ⟨back, hsplit.symm⟩
    have hfront : before ++ [m] <+: before ++ [m, m] ++ behind := ⟨m :: behind, by simp⟩
    obtain ⟨rest, hrest⟩ := List.prefix_of_prefix_length_le hpair hfront (by simp; omega)
    have hsplit' : before ++ [m] = front ++ m :: m :: rest := by rw [← hrest]; simp
    exact hpairs hsplit' rfl rfl

theorem apart_of_not_mem (h : m ∉ text) : Apart m text := by
  refine List.isChain_iff_forall_rel_of_append_cons_cons.2 fun a b front back hsplit => ?_
  rintro rfl
  exact absurd (hsplit ▸ List.mem_append_right front List.mem_cons_self) h

/-- A doubled sign stays the first one if other signs are put in front of it, and whatever comes
behind it. -/
theorem CutAt.insert {other : List Char} (h : CutAt [m, m] text before behind) (hother : m ∉ other)
    (behind' : List Char) :
    CutAt [m, m] (before ++ other ++ [m, m] ++ behind') (before ++ other) behind' := by
  refine cutAt_doubled_iff.2 ⟨rfl, ?_⟩
  have hbefore := (cutAt_doubled_iff.1 h).2
  cases other with
  | nil => rwa [List.append_nil]
  | cons c other =>
    obtain ⟨hfront, -, -⟩ := List.isChain_append.1 hbefore
    refine List.isChain_append.2 ⟨List.isChain_append.2 ⟨hfront, apart_of_not_mem hother, ?_⟩,
      List.isChain_singleton m, ?_⟩
    · rintro _ - b hb - rfl
      exact hother (List.mem_of_mem_head? hb)
    · rintro _ hlast b - rfl
      rw [List.getLast?_append_of_ne_nil _ (List.cons_ne_nil c other)] at hlast
      exact absurd (List.mem_of_getLast? hlast) hother

/-! ## A mark of one sign -/

theorem cut?_append_sign (h : m ∉ before) :
    cut? [m] (before ++ m :: behind) = some (before, behind) :=
  cut?_append_mark h

end CellWidth.Text
