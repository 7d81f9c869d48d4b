/-
Where a text occurs in another.

An occurrence is told by what stands behind it, so that the occurrences
of a pattern are a list of texts, in the order in which they begin, and
they may overlap. A code point that the pattern does not have is a seam:
no occurrence reaches across it, and those in a text with a seam are the
ones on its two sides. This is how the occurrences in a long text come
from those in its pieces, which can be looked at one by one.
-/
import DevicePairing.Text.CodePoint
import Mathlib.Data.List.Infix

namespace DevicePairing.Text

/-- What stands behind each occurrence of a pattern. -/
def behind (pat t : Text) : List Text := t.tails.filterMap pat.isPrefixOf?

variable {pat t rest : Text} {c : CodePoint}

-- ========================================================== occurrences

/-- What is behind a pattern is what follows one of its occurrences. -/
theorem mem_behind :
    rest ∈ behind pat t ↔ ∃ before, before ++ (pat ++ rest) = t := by
  simp only [behind, List.mem_filterMap, List.mem_tails,
    List.isPrefixOf?_eq_some_iff_append_eq]
  constructor
  · rintro ⟨_, ⟨before, rfl⟩, rfl⟩
    exact ⟨before, rfl⟩
  · rintro ⟨before, rfl⟩
    exact ⟨_, List.suffix_append _ _, rfl⟩

/-- A text is part of another exactly if it occurs in it. -/
theorem not_isInfix_iff : ¬pat <:+: t ↔ behind pat t = [] := by
  rw [List.eq_nil_iff_forall_not_mem]
  constructor
  · intro hpart rest hrest
    obtain ⟨before, rfl⟩ := mem_behind.mp hrest
    exact hpart ⟨before, rest, List.append_assoc _ _ _⟩
  · rintro hnone ⟨before, rest, rfl⟩
    exact hnone rest (mem_behind.mpr ⟨before, (List.append_assoc _ _ _).symm⟩)

theorem behind_cons (c : CodePoint) (t : Text) :
    behind pat (c :: t)
      = (pat.isPrefixOf? (c :: t)).toList ++ behind pat t := by
  rw [behind, List.tails_cons, List.filterMap_cons, ← behind]
  cases pat.isPrefixOf? (c :: t) <;> rfl

theorem behind_nil (hpat : pat ≠ []) : behind pat [] = [] := by
  cases pat with
  | nil => exact absurd rfl hpat
  | cons p pat => rfl

-- ================================================================ seams

theorem isPrefixOf?_append_cons (hc : c ∉ pat) (a b : Text) :
    pat.isPrefixOf? (a ++ c :: b) = (pat.isPrefixOf? a).map (· ++ c :: b) := by
  induction pat generalizing a with
  | nil => rfl
  | cons p pat ih =>
    rw [List.mem_cons, not_or] at hc
    cases a with
    | nil => exact if_neg (by simpa using Ne.symm hc.1)
    | cons q a =>
      rw [List.cons_append, List.isPrefixOf?, List.isPrefixOf?, ih hc.2]
      split <;> rfl

/-- No occurrence reaches across a seam. -/
theorem behind_append_cons (hc : c ∉ pat) (a b : Text) :
    behind pat (a ++ c :: b)
      = (behind pat a).map (· ++ c :: b) ++ behind pat b := by
  have hprefix := isPrefixOf?_append_cons hc
  induction a with
  | nil =>
    have hnone : behind pat [] = (pat.isPrefixOf? []).toList := by
      rw [behind, List.tails, List.filterMap_cons]
      cases pat.isPrefixOf? [] <;> rfl
    rw [List.nil_append, behind_cons, hnone, ← List.nil_append (c :: b),
      hprefix []]
    cases pat.isPrefixOf? [] <;> rfl
  | cons q a ih =>
    rw [List.cons_append, behind_cons, behind_cons, ih, ← List.cons_append,
      hprefix (q :: a)]
    cases pat.isPrefixOf? (q :: a) <;> rfl

/-- So it is with a stretch of seams. -/
theorem behind_apart (hpat : pat ≠ []) {seams : Text}
    (hseams : ∀ c ∈ seams, c ∉ pat) (b : Text) :
    behind pat (seams ++ b) = behind pat b := by
  induction seams with
  | nil => rfl
  | cons c seams ih =>
    obtain ⟨hc, hseams⟩ := List.forall_mem_cons.mp hseams
    rw [List.cons_append, ← List.nil_append (c :: (seams ++ b)),
      behind_append_cons hc, behind_nil hpat, ih hseams]
    rfl

/-- Characters that the pattern does not have keep its occurrences on either
side apart. -/
theorem behind_append_apart (hpat : pat ≠ []) {seams : Text} (hne : seams ≠ [])
    (hseams : ∀ c ∈ seams, c ∉ pat) (a b : Text) :
    behind pat (a ++ (seams ++ b))
      = (behind pat a).map (· ++ (seams ++ b)) ++ behind pat b := by
  obtain ⟨c, seams, rfl⟩ := List.exists_cons_of_ne_nil hne
  obtain ⟨hc, hseams⟩ := List.forall_mem_cons.mp hseams
  rw [List.cons_append, behind_append_cons hc, behind_apart hpat hseams]

-- ========================================================== replacement

variable {new : Text}

/-- A text without an occurrence stays as it is. -/
theorem replaceFrom_of_behind_eq_nil (h : behind pat t = []) :
    replaceFrom pat new 0 t = t := by
  induction t with
  | nil => rfl
  | cons c t ih =>
    rw [behind_cons, List.append_eq_nil_iff] at h
    have hnot : pat.isPrefixOf (c :: t) ≠ true := by
      rw [← List.isSome_isPrefixOf?_eq_isPrefixOf]
      intro hsome
      obtain ⟨rest, hrest⟩ := Option.isSome_iff_exists.mp hsome
      rw [hrest] at h
      cases h.1
    rw [replaceFrom, if_neg hnot, ih h.2]

/-- Characters that are to be skipped are skipped. -/
theorem replaceFrom_append (skipped t : Text) :
    replaceFrom pat new skipped.length (skipped ++ t)
      = replaceFrom pat new 0 t := by
  induction skipped with
  | nil => rfl
  | cons c skipped ih => exact ih

/-- A pattern that occurs once, at its first code point, is replaced
there. -/
theorem replace_of_once {before after : Text} (hc : c ∉ before)
    (hafter : behind (c :: pat) after = []) :
    replace (c :: pat) new (before ++ (c :: pat) ++ after)
      = before ++ new ++ after := by
  rw [replace, List.append_assoc, List.append_assoc]
  induction before with
  | nil =>
    have hprefix : (c :: pat).isPrefixOf (c :: (pat ++ after)) = true :=
      List.isPrefixOf_iff_prefix.mpr (List.prefix_append (c :: pat) after)
    show replaceFrom (c :: pat) new 0 (c :: (pat ++ after)) = _
    rw [replaceFrom, if_pos hprefix, List.length_cons, Nat.add_sub_cancel,
      replaceFrom_append, replaceFrom_of_behind_eq_nil hafter]
    rfl
  | cons p before ih =>
    rw [List.mem_cons, not_or] at hc
    have hnot : (c :: pat).isPrefixOf (p :: (before ++ (c :: pat ++ after)))
        ≠ true := by
      intro h
      rw [List.isPrefixOf, Bool.and_eq_true, beq_iff_eq] at h
      exact hc.1 h.1
    rw [List.cons_append, replaceFrom, if_neg hnot, ih hc.2]
    rfl

/-- What has been put in is not looked through again. -/
example : replace "aa" "a" "aaaab" = Text.ofString "aab" := by decide

end DevicePairing.Text
