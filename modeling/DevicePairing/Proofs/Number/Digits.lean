/-
The digits of numbers as they are written.

What the writer puts down for a number and what the reader looks for are
told apart by the first digit and by what follows the last one. So the
facts here are about shapes: the digits of a natural number are digits,
begin with a zero only for zero, and denote the number; and the text of a
fraction is a whole part, a part behind the point and an exponent, of
which the last two are never both missing. That is what keeps a fraction
from being read as an integer.
-/
import DevicePairing.Number.Decimal
import DevicePairing.Number.Numeral

namespace DevicePairing

-- ============================================================= naturals

/-- The numbers below a power of ten are those with no more digits. -/
theorem lt_pow10_iff {n k : Nat} (hk : 0 < k) :
    n < pow10 k ↔ (Nat.toDigits 10 n).length ≤ k :=
  (Nat.length_toDigits_le_iff (by omega) hk).symm

namespace Numeral

/-- Whether characters are digits. -/
def AreDigits (cs : List Char) : Prop := ∀ c ∈ cs, c.isDigit = true

/-- The digits of a number that is not zero: the first is another one. -/
structure IsLeading (cs : List Char) : Prop where
  ne_nil : cs ≠ []
  head : cs.head? ≠ some '0'
  digits : AreDigits cs

/-- Digits that may stand before a point. -/
def IsWhole (cs : List Char) : Prop := cs = ['0'] ∨ IsLeading cs

theorem areDigits_nil : AreDigits [] := fun _ h => absurd h List.not_mem_nil

theorem AreDigits.append {cs ds : List Char} (hc : AreDigits cs)
    (hd : AreDigits ds) : AreDigits (cs ++ ds) :=
  List.forall_mem_append.mpr ⟨hc, hd⟩

theorem AreDigits.of_cons {c : Char} {cs : List Char}
    (h : AreDigits (c :: cs)) : c.isDigit = true ∧ AreDigits cs :=
  List.forall_mem_cons.mp h

/-- More digits behind them change nothing about the first. -/
theorem IsLeading.append {cs ds : List Char} (hc : IsLeading cs)
    (hd : AreDigits ds) : IsLeading (cs ++ ds) := by
  refine ⟨?_, ?_, hc.digits.append hd⟩
  · rw [Ne, List.append_eq_nil_iff]
    exact fun h => hc.ne_nil h.1
  · rw [List.head?_append,
      Option.or_of_isSome (List.isSome_head?.mpr hc.ne_nil)]
    exact hc.head

theorem IsLeading.take {cs : List Char} (hc : IsLeading cs) {n : Nat}
    (hn : 0 < n) : IsLeading (cs.take n) := by
  refine ⟨?_, ?_, ?_⟩
  · rw [Ne, List.take_eq_nil_iff]
    intro h
    exact h.elim (Nat.ne_of_gt hn) hc.ne_nil
  · rw [List.head?_take, if_neg (Nat.ne_of_gt hn)]
    exact hc.head
  · intro c h
    exact hc.digits c (List.mem_of_mem_take h)

theorem areDigits_zeros (n : Nat) : AreDigits (List.replicate n '0') := by
  intro c h
  rw [List.eq_of_mem_replicate h]
  rfl

theorem areDigits_toDigits (n : Nat) : AreDigits (Nat.toDigits 10 n) :=
  fun _ h => Nat.isDigit_of_mem_toDigits (by omega) (by omega) h

/-- Nothing else stands among digits. -/
theorem not_mem_of_areDigits {cs : List Char} (hcs : AreDigits cs) {c : Char}
    (hc : c.isDigit = false) : CodePoint.char c ∉ cs.map .char := by
  intro h
  obtain ⟨d, hd, heq⟩ := List.mem_map.mp h
  cases heq
  rw [hcs c hd] at hc
  cases hc

/-- The digits of a number denote it. -/
theorem valueOf_toDigits (n : Nat) : valueOf (Nat.toDigits 10 n) = n := by
  have h := @Nat.ofDigitChars_ten_toDigits n
  rw [Nat.ofDigitChars_eq_foldl] at h
  exact h

/-- The digits of a positive number begin with another one than zero. -/
theorem isLeading_toDigits {n : Nat} (hn : n ≠ 0) :
    IsLeading (Nat.toDigits 10 n) := by
  refine ⟨Nat.toDigits_ne_nil, ?_, areDigits_toDigits n⟩
  induction n using Nat.strongRecOn with
  | ind n ih =>
      rw [Nat.toDigits_eq_if (by omega)]
      split
      · rename_i hlt
        intro h
        exact hn (Nat.digitChar_eq_zero.mp (Option.some.inj h))
      · rename_i hge
        rw [List.head?_append,
          Option.or_of_isSome (List.isSome_head?.mpr Nat.toDigits_ne_nil)]
        exact ih (n / 10) (by omega) (by omega)

/-- The digits of a number may stand before a point. -/
theorem isWhole_toDigits (n : Nat) : IsWhole (Nat.toDigits 10 n) := by
  by_cases hn : n = 0
  · left
    rw [hn, Nat.toDigits_zero]
  · right
    exact isLeading_toDigits hn

/-- A number is written exactly if it has no more digits than one may have. -/
theorem isSome_integerText? (n : Int) :
    (integerText? n).isSome = true
      ↔ (Nat.toDigits 10 n.natAbs).length ≤ digitLimit := by
  have hpos : 0 < digitLimit := by decide
  rw [← lt_pow10_iff hpos, integerText?]
  rcases Nat.lt_or_ge n.natAbs (pow10 digitLimit) with h | h
  · rw [if_neg (Nat.not_le.mpr h)]
    exact iff_of_true rfl h
  · rw [if_pos h]
    exact iff_of_false Bool.false_ne_true (Nat.not_lt.mpr h)

/-- What is written for a number is its text. -/
theorem integerText?_eq_some {n : Int} {t : Text}
    (h : integerText? n = some t) : t = Text.ofInt n := by
  rw [integerText?] at h
  generalize pow10 digitLimit = limit at h
  split at h
  · cases h
  · exact (Option.some.inj h).symm

end Numeral

namespace Text

/-- The text of an integer is the text of its size, behind a sign where it
is negative. -/
theorem ofInt_eq (n : Int) :
    ofInt n = (if n < 0 then [CodePoint.char '-'] else [])
      ++ ofNat n.natAbs := by
  cases n with
  | ofNat n => simp [ofInt, ofString, toString, Int.repr, ofNat]
  | negSucc n =>
      simp [ofInt, ofString, toString, Int.repr, ofNat, Int.negSucc_lt_zero]

/-- Different natural numbers have different texts. -/
theorem ofNat_inj {m n : Nat} : ofNat m = ofNat n ↔ m = n := by
  refine ⟨fun h => ?_, congrArg ofNat⟩
  have hdigits : Nat.toDigits 10 m = Nat.toDigits 10 n :=
    (List.map_inj_right fun _ _ => CodePoint.char.inj).mp h
  rw [← Numeral.valueOf_toDigits m, hdigits, Numeral.valueOf_toDigits]

/-- Only digits stand in the text of a natural number. -/
theorem not_mem_ofNat {c : Char} (hc : c.isDigit = false) (n : Nat) :
    CodePoint.char c ∉ ofNat n :=
  Numeral.not_mem_of_areDigits (Numeral.areDigits_toDigits n) hc

/-- Different integers have different texts. -/
theorem ofInt_inj {m n : Int} : ofInt m = ofInt n ↔ m = n := by
  refine ⟨fun h => ?_, congrArg ofInt⟩
  have hsign (k : Nat) (t : Text) : ofNat k ≠ CodePoint.char '-' :: t := by
    intro h
    have hmem : CodePoint.char '-' ∈ ofNat k := h ▸ List.mem_cons_self
    exact not_mem_ofNat rfl k hmem
  rw [ofInt_eq, ofInt_eq] at h
  by_cases hm : m < 0 <;> by_cases hn : n < 0 <;>
    simp only [hm, hn, if_true, if_false, List.nil_append, List.cons_append,
      List.cons.injEq, true_and, ofNat_inj] at h
  · omega
  · exact absurd h.symm (hsign _ _)
  · exact absurd h (hsign _ _)
  · omega

end Text

-- ============================================================ fractions

namespace Decimal

open Numeral (AreDigits IsLeading IsWhole)

/-- An exponent as it is written, or none. -/
def IsExponent (cs : List Char) : Prop :=
  cs = [] ∨ ∃ sign ds, cs = 'e' :: sign :: ds ∧ (sign = '+' ∨ sign = '-')
    ∧ ds ≠ [] ∧ AreDigits ds

/-- A point and the digits behind it, or nothing. -/
def pointed (part : List Char) : List Char :=
  if part.isEmpty then [] else '.' :: part

/-- The text of a fraction. -/
def IsFraction (cs : List Char) : Prop :=
  ∃ whole part exponent, cs = whole ++ pointed part ++ exponent
    ∧ IsWhole whole ∧ AreDigits part ∧ IsExponent exponent
    ∧ (part ≠ [] ∨ exponent ≠ [])

theorem isExponent_exponentText (e : Int) :
    IsExponent ('e' :: exponentText e) := by
  refine .inr ⟨if e < 0 then '-' else '+', _, rfl, ?_, ?_, ?_⟩
  · split
    · exact .inr rfl
    · exact .inl rfl
  · split
    · exact List.cons_ne_nil _ _
    · exact Nat.toDigits_ne_nil
  · have hds := Numeral.areDigits_toDigits e.natAbs
    split
    · exact (Numeral.areDigits_zeros 1).append hds
    · exact hds

/-- However the digits of a number are laid out, the text is that of a
fraction. -/
theorem isFraction_layout {ds : List Char} (hds : IsLeading ds) (point : Int) :
    IsFraction (layout ds point) := by
  have hexp := isExponent_exponentText (point - 1)
  unfold layout
  split
  · split
    · -- nothing stands before the point
      have hpart : List.replicate (-point).toNat '0' ++ ds ≠ [] := by
        simp [hds.ne_nil]
      refine ⟨['0'], List.replicate (-point).toNat '0' ++ ds, [], ?_, .inl rfl,
        (Numeral.areDigits_zeros _).append hds.digits, .inl rfl, .inl hpart⟩
      simp [pointed, hds.ne_nil]
    · dsimp only
      split
      · -- nothing but a zero stands behind it
        refine ⟨ds ++ List.replicate (point.toNat - ds.length) '0', ['0'], [],
          ?_, .inr (hds.append (Numeral.areDigits_zeros _)),
          Numeral.areDigits_zeros 1, .inl rfl, .inl (List.cons_ne_nil _ _)⟩
        simp [pointed]
      · have hdrop : ds.drop point.toNat ≠ [] := by
          rw [Ne, List.drop_eq_nil_iff]
          omega
        refine ⟨ds.take point.toNat, ds.drop point.toNat, [], ?_,
          .inr (hds.take (by omega)), ?_, .inl rfl, .inl hdrop⟩
        · simp [pointed, hdrop]
        · intro c h
          exact hds.digits c (List.mem_of_mem_drop h)
  · -- one digit stands before the point, and an exponent behind the others
    match ds, hds with
    | [], hds => exact absurd rfl hds.ne_nil
    | [d], hds =>
        exact ⟨[d], [], _, rfl, .inr hds, Numeral.areDigits_nil, hexp,
          .inr (List.cons_ne_nil _ _)⟩
    | d :: c :: r, hds =>
        exact ⟨[d], c :: r, _, rfl, .inr (hds.take Nat.one_pos),
          hds.digits.of_cons.2, hexp, .inl (List.cons_ne_nil _ _)⟩

/-- Taking zeros off the end of digits leaves the first digit where it is. -/
theorem strip_eq {ds : List Char} (hds : IsLeading ds) (e : Int) :
    ∃ n e', 0 < n ∧ strip ds e = (ds.take n, e') := by
  have hfew : (ds.reverse.takeWhile (· = '0')).length < ds.length := by
    have hpre : ds.reverse.takeWhile (· = '0') <+: ds.reverse :=
      List.takeWhile_prefix _
    have hle := hpre.length_le
    rw [List.length_reverse] at hle
    apply Nat.lt_of_le_of_ne hle
    intro hall
    have hsame := hpre.eq_of_length (by rw [hall, List.length_reverse])
    obtain ⟨d, r, rfl⟩ := List.exists_cons_of_ne_nil hds.ne_nil
    have hd : d ∈ (d :: r).reverse.takeWhile (· = '0') := by
      rw [hsame]
      simp
    have hzero :=
      List.all_eq_true.mp (List.all_takeWhile (l := (d :: r).reverse)) d hd
    exact hds.head (by simpa using hzero)
  refine ⟨ds.length - (ds.reverse.takeWhile (· = '0')).length,
    e + (ds.reverse.takeWhile (· = '0')).length, by omega, ?_⟩
  rw [strip, if_pos hfew]

/-- The text of a decimal is that of a fraction. -/
theorem isFraction_chars (d : Decimal) : IsFraction d.chars := by
  unfold chars
  split
  · exact ⟨['0'], ['0'], [], rfl, .inl rfl, Numeral.areDigits_zeros 1, .inl rfl,
      .inl (List.cons_ne_nil _ _)⟩
  · rename_i hd
    have hds : IsLeading (Nat.toDigits 10 d.digits) :=
      Numeral.isLeading_toDigits hd
    obtain ⟨n, e, hn, hstrip⟩ := strip_eq hds d.exponent
    rw [hstrip]
    exact isFraction_layout (hds.take hn) _

end Decimal

end DevicePairing
