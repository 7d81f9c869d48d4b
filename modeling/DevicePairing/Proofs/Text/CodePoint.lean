/-
Code points and their numbers.

A code point is its number: `ofCode` takes it back. The numbers of
characters keep clear of the surrogates, so a number tells which of the
two a code point is, and in text that is written in 16-bit units two
surrogates that stand side by side as the halves of a pair are read as
one character. `joinPairs` is the text as it comes back; text made of
characters alone comes back unchanged. What a text loses at its end is
told last.
-/
import DevicePairing.Text.WideUnits

namespace DevicePairing

namespace CodePoint

theorem toNat_lt_or (c : Char) :
    c.toNat < 0xD800 ∨ 0xDFFF < c.toNat ∧ c.toNat < 0x110000 :=
  c.valid

theorem ofCode_toNat (c : Char) : ofCode c.toNat = .char c := by
  have hvalid : c.toNat.isValidChar := c.valid
  rw [ofCode, ofCode?, dif_pos hvalid, Option.getD_some]
  rfl

/-- A code point is the one of its number. -/
theorem ofCode_code (p : CodePoint) : ofCode p.code = p := by
  cases p with
  | char c => exact ofCode_toNat c
  | surrogate n =>
      have hn := n.isLt
      have hcode : (surrogate n).code = 0xD800 + n.val := rfl
      have hinvalid : ¬(0xD800 + n.val).isValidChar := by
        simp only [Nat.isValidChar]
        omega
      rw [hcode, ofCode, ofCode?, dif_neg hinvalid, dif_pos (by omega),
        Option.getD_some]
      simp

theorem code_lt (p : CodePoint) : p.code < 0x110000 := by
  cases p with
  | char c =>
      have := toNat_lt_or c
      simp only [code]
      omega
  | surrogate n =>
      have := n.isLt
      simp only [code]
      omega

/-- The numbers of surrogates are theirs alone. -/
theorem isSurrogate_iff (p : CodePoint) :
    p.isSurrogate = true ↔ 0xD800 ≤ p.code ∧ p.code < 0xE000 := by
  cases p with
  | char c =>
      have := toNat_lt_or c
      simp only [isSurrogate, code, Bool.false_eq_true, false_iff]
      omega
  | surrogate n =>
      have := n.isLt
      simp only [isSurrogate, code, true_iff]
      omega

/-- The first half of a pair. -/
def isHigh (p : CodePoint) : Bool := isHighSurrogate p.code

/-- The second half of a pair. -/
def isLow (p : CodePoint) : Bool := isLowSurrogate p.code

end CodePoint

-- ============================================================== pairs

namespace Text

/-- A text as it comes back from 16-bit units. -/
def joinPairs : Text → Text
  | [] => []
  | [p] => [p]
  | p :: q :: t =>
    if p.isHigh && q.isLow then .ofCode (joinPair p.code q.code) :: joinPairs t
    else p :: joinPairs (q :: t)

/-- Whether a text is made of characters alone. -/
def IsScalar (t : Text) : Prop := ∀ p ∈ t, p.isSurrogate = false

theorem isHigh_of_char {p : CodePoint} (hp : p.isSurrogate = false) :
    p.isHigh = false := by
  have h := mt (CodePoint.isSurrogate_iff p).mpr (by simp [hp])
  simp only [CodePoint.isHigh, isHighSurrogate, Bool.and_eq_false_iff,
    decide_eq_false_iff_not]
  omega

theorem isScalar_ofString (s : String) : IsScalar (ofString s) := by
  intro p hp
  obtain ⟨c, -, rfl⟩ := List.mem_map.mp hp
  rfl

/-- Text made of characters comes back unchanged. -/
theorem joinPairs_of_isScalar {t : Text} (ht : IsScalar t) :
    joinPairs t = t := by
  induction t with
  | nil => rfl
  | cons p t ih =>
      obtain ⟨hp, ht⟩ := List.forall_mem_cons.mp ht
      have hp : p.isHigh = false := isHigh_of_char hp
      have ih := ih ht
      cases t with
      | nil => rfl
      | cons q t =>
          rw [joinPairs, hp, Bool.false_and, if_neg Bool.false_ne_true, ih]

-- =============================================================== ends

/-- What is cut off at the end stops at the last code point that stays. -/
theorem dropTailWhile_append {q : CodePoint → Bool} {a : Text}
    (h : ∀ p ∈ a.getLast?, q p = false) (b : Text) :
    dropTailWhile q (a ++ b) = a ++ dropTailWhile q b := by
  have hkept : a.reverse.dropWhile q = a.reverse := by
    cases hrev : a.reverse with
    | nil => rfl
    | cons p r =>
        have hlast : p ∈ a.getLast? := by
          rw [← List.head?_reverse, hrev]
          rfl
        rw [List.dropWhile_cons, h p hlast]
        rfl
  unfold dropTailWhile
  rw [List.reverse_append, List.dropWhile_append]
  split
  · rename_i hempty
    rw [List.isEmpty_iff] at hempty
    rw [hkept, hempty, List.reverse_nil, List.append_nil, List.reverse_reverse]
  · rw [List.reverse_append, List.reverse_reverse]

theorem mem_of_mem_dropTailWhile {q : CodePoint → Bool} {t : Text}
    {p : CodePoint} (h : p ∈ dropTailWhile q t) : p ∈ t := by
  have hmem := (List.dropWhile_sublist q).subset (List.mem_reverse.mp h)
  exact List.mem_reverse.mp hmem

end Text

end DevicePairing
