/-
Numbers are read back from the text they are written as.

The reader takes as much as can belong to a number, so a number is read
back only from text that does not go on: `Stops` says what must not come
behind it. An integer comes back as itself; of a fraction it is only said
here that it comes back as a fraction, and where the text goes on.
-/
import DevicePairing.Json.Reader
import DevicePairing.Json.Writer
import DevicePairing.Proofs.Number.Digits

namespace DevicePairing.Json.Reader

open Numeral (AreDigits IsWhole)
open Decimal (IsExponent IsFraction pointed)

/-- Whether no number goes on into a text. -/
def Stops (r : Text) : Prop :=
  ∀ p, r.head? = some p →
    p.isDigit = false ∧ p ≠ .char '.' ∧ p ≠ .char 'e' ∧ p ≠ .char 'E'

/-- The text of plain characters. -/
abbrev plain (cs : List Char) : Text := cs.map .char

theorem stops_cons {c : Char} (hdigit : c.isDigit = false)
    (hrest : c ≠ '.' ∧ c ≠ 'e' ∧ c ≠ 'E') (r : Text) :
    Stops (.char c :: r) := by
  intro p h
  cases h
  exact ⟨hdigit, by simpa using hrest.1, by simpa using hrest.2.1,
    by simpa using hrest.2.2⟩

-- =============================================================== parts

@[simp] theorem ofNat_code_char (c : Char) :
    Char.ofNat (CodePoint.char c).code = c := by
  simp [CodePoint.code]

/-- Digits are taken up to what is none. -/
theorem leadingDigits_append {ds : List Char} (hds : AreDigits ds) {r : Text}
    (hr : ∀ p, r.head? = some p → p.isDigit = false) :
    leadingDigits (plain ds ++ r) = ds := by
  induction ds with
  | nil =>
      cases r with
      | nil => rfl
      | cons p r => simp [leadingDigits, hr p rfl]
  | cons d ds ih =>
      obtain ⟨hd, hds⟩ := hds.of_cons
      have ih := ih hds
      rw [leadingDigits] at ih ⊢
      rw [plain, List.map_cons, List.cons_append,
        List.takeWhile_cons_of_pos (by exact hd), List.map_cons,
        ofNat_code_char, ih]

/-- So are the digits before a point. -/
theorem wholeDigits_append {ds : List Char} (hds : IsWhole ds) {r : Text}
    (hr : ∀ p, r.head? = some p → p.isDigit = false) :
    wholeDigits (plain ds ++ r) = ds := by
  rcases hds with rfl | ⟨hne, hhead, hds⟩
  · rfl
  · unfold wholeDigits
    split
    · rename_i r' heq
      cases ds with
      | nil => exact absurd rfl hne
      | cons d ds =>
          cases heq
          exact absurd rfl hhead
    · exact leadingDigits_append hds hr

/-- So are the digits behind a point. -/
theorem pointDigits_append {part : List Char} (hpart : AreDigits part)
    {r : Text}
    (hr : ∀ p, r.head? = some p → p.isDigit = false ∧ p ≠ .char '.') :
    pointDigits (plain (pointed part) ++ r) = part := by
  cases part with
  | nil =>
      rw [show plain (pointed []) ++ r = r from rfl]
      unfold pointDigits
      split
      · exact absurd rfl (hr _ rfl).2
      · rfl
  | cons d ds => exact leadingDigits_append hpart fun p hp => (hr p hp).1

theorem leadingExponent?_of_none {r : Text} (hr : Stops r) :
    leadingExponent? r = none := by
  unfold leadingExponent?
  split
  · rename_i e r
    obtain ⟨-, -, he, hE⟩ := hr _ rfl
    rw [if_neg]
    rintro (rfl | rfl)
    · exact he rfl
    · exact hE rfl
  · rfl

/-- An exponent is read with all its characters. -/
theorem leadingExponent?_append {cs : List Char} (hcs : IsExponent cs)
    (hne : cs ≠ []) {r : Text} (hr : Stops r) :
    ∃ e, leadingExponent? (plain cs ++ r) = some (e, cs.length) := by
  rcases hcs with rfl | ⟨sign, ds, rfl, hsign, hds, hdigits⟩
  · exact absurd rfl hne
  · have hread : leadingDigits (plain ds ++ r) = ds :=
      leadingDigits_append hdigits fun p hp => (hr p hp).1
    have hlength : 1 + 1 + ds.length = ds.length + 1 + 1 := by omega
    rcases hsign with rfl | rfl
    · exact ⟨Numeral.valueOf ds,
        by simp [leadingExponent?, hread, hds, hlength]⟩
    · exact ⟨-Numeral.valueOf ds,
        by simp [leadingExponent?, hread, hds, hlength]⟩

-- ============================================================= unsigned

theorem isWhole_cons {ds : List Char} (hds : IsWhole ds) :
    ∃ d r, ds = d :: r ∧ d.isDigit = true := by
  rcases hds with rfl | ⟨hne, -, hdigits⟩
  · exact ⟨'0', [], rfl, rfl⟩
  · obtain ⟨d, r, rfl⟩ := List.exists_cons_of_ne_nil hne
    exact ⟨d, r, rfl, hdigits.of_cons.1⟩

theorem isEmpty_of_isWhole {ds : List Char} (hds : IsWhole ds) :
    ds.isEmpty = false := by
  obtain ⟨d, r, rfl, -⟩ := isWhole_cons hds
  rfl

/-- Digits without a sign are read as an integer, unless there are too many
of them. -/
theorem unsigned_digits {ds : List Char} (hds : IsWhole ds) {r : Text}
    (hr : Stops r) (whole : Text) (negative : Bool) :
    unsigned whole negative (plain ds ++ r)
      = if Numeral.digitLimit < ds.length then
          .error (.integerTooLong ds.length)
        else
          .ok (.int (if negative then -(Numeral.valueOf ds : Int)
            else Numeral.valueOf ds), r) := by
  have hread : wholeDigits (plain ds ++ r) = ds :=
    wholeDigits_append hds fun p hp => (hr p hp).1
  have hdrop : (plain ds ++ r).drop ds.length = r := by simp
  have hpart : pointDigits (plain (pointed []) ++ r) = [] :=
    pointDigits_append Numeral.areDigits_nil fun p hp =>
      ⟨(hr p hp).1, (hr p hp).2.1⟩
  rw [show plain (pointed []) ++ r = r from rfl] at hpart
  simp only [unsigned, hread, isEmpty_of_isWhole hds, hdrop, hpart,
    List.isEmpty_nil, if_true, leadingExponent?_of_none hr, Bool.not_true,
    Bool.false_eq_true, if_false]

/-- The digits in front of an exponent end where it begins. -/
theorem head_exponent {cs : List Char} (hcs : IsExponent cs) {r : Text}
    (hr : Stops r) (p : CodePoint) (hp : (plain cs ++ r).head? = some p) :
    p.isDigit = false ∧ p ≠ .char '.' := by
  rcases hcs with rfl | ⟨sign, ds, rfl, -, -, -⟩
  · exact ⟨(hr p hp).1, (hr p hp).2.1⟩
  · cases hp
    exact ⟨rfl, by decide⟩

/-- A fraction without its sign is read as one. -/
theorem unsigned_fraction {cs : List Char} (hcs : IsFraction cs) {r : Text}
    (hr : Stops r) (whole : Text) (negative : Bool) :
    ∃ x, unsigned whole negative (plain cs ++ r) = .ok (.float x, r) := by
  obtain ⟨ds, part, exponent, rfl, hds, hpart, hexp, hsome⟩ := hcs
  have hsplit : plain (ds ++ pointed part ++ exponent) ++ r
      = plain ds ++ (plain (pointed part) ++ (plain exponent ++ r)) := by simp
  have hbehind := head_exponent hexp hr
  have hread : wholeDigits (plain (ds ++ pointed part ++ exponent) ++ r)
      = ds := by
    rw [hsplit]
    apply wholeDigits_append hds
    intro p hp
    cases part with
    | nil => exact (hbehind p hp).1
    | cons d part =>
        cases hp
        rfl
  have hdrop : (plain (ds ++ pointed part ++ exponent) ++ r).drop ds.length
      = plain (pointed part) ++ (plain exponent ++ r) := by
    rw [hsplit]
    simp
  have hpoint : pointDigits (plain (pointed part) ++ (plain exponent ++ r))
      = part :=
    pointDigits_append hpart hbehind
  have hrest :
      (if part.isEmpty then plain (pointed part) ++ (plain exponent ++ r)
        else (plain (pointed part) ++ (plain exponent ++ r)).drop
          (part.length + 1))
        = plain exponent ++ r := by
    cases part with
    | nil => rfl
    | cons d part => simp [pointed]
  simp only [unsigned, hread, isEmpty_of_isWhole hds, hdrop, hpoint, hrest,
    Bool.false_eq_true, if_false]
  by_cases hnone : exponent = []
  · subst hnone
    have hsome : part.isEmpty = false := by simpa using hsome
    rw [show plain [] ++ r = r from rfl, leadingExponent?_of_none hr]
    exact ⟨.ofDecimal negative (Numeral.valueOf (ds ++ part)) (-part.length),
      by simp only [hsome, Bool.not_false, if_true]⟩
  · obtain ⟨e, he⟩ := leadingExponent?_append hexp hnone hr
    rw [he]
    exact ⟨.ofDecimal negative (Numeral.valueOf (ds ++ part)) (e - part.length),
      by simp⟩

-- ============================================================== numbers

/-- A scalar is a word that the text begins with, or a number. -/
theorem scalar_cases (t : Text) :
    (∃ word v r, (word, v) ∈ words ∧ t = Text.ofString word ++ r
        ∧ scalar t = .ok (v, r))
      ∨ scalar t = number t := by
  unfold scalar
  split
  · rename_i word v hword
    left
    have hstarts := List.find?_some
      (p := fun x : String × Json => t.startsWith x.1) hword
    obtain ⟨r, rfl⟩ := List.isPrefixOf_iff_prefix.mp hstarts
    refine ⟨word, v, r, List.mem_of_find?_eq_some hword, rfl, ?_⟩
    rw [List.drop_left' (by simp [Text.ofString, String.length_toList])]
  · right
    rfl

/-- No word begins with a digit, nor with a sign and a digit. -/
theorem word_begins {word : String} {v : Json} (h : (word, v) ∈ words) :
    ∃ c d r, Text.ofString word = .char c :: .char d :: r
      ∧ c.isDigit = false ∧ d.isDigit = false := by
  simp only [words, List.mem_cons, Prod.mk.injEq, List.not_mem_nil,
    or_false] at h
  rcases h with ⟨rfl, -⟩ | ⟨rfl, -⟩ | ⟨rfl, -⟩ | ⟨rfl, -⟩ | ⟨rfl, -⟩
    | ⟨rfl, -⟩ <;>
    exact ⟨_, _, _, rfl, rfl, rfl⟩

theorem scalar_of_digit {c : Char} (hc : c.isDigit = true) (r : Text) :
    scalar (.char c :: r) = number (.char c :: r) := by
  apply (scalar_cases _).resolve_left
  rintro ⟨word, v, r', hword, htext, -⟩
  obtain ⟨p, q, s, hbegins, hp, -⟩ := word_begins hword
  rw [hbegins] at htext
  cases htext
  rw [hp] at hc
  cases hc

theorem scalar_of_sign {c : Char} (hc : c.isDigit = true) (r : Text) :
    scalar (.char '-' :: .char c :: r)
      = number (.char '-' :: .char c :: r) := by
  apply (scalar_cases _).resolve_left
  rintro ⟨word, v, r', hword, htext, -⟩
  obtain ⟨p, q, s, hbegins, -, hq⟩ := word_begins hword
  rw [hbegins] at htext
  cases htext
  rw [hq] at hc
  cases hc

/-- A sign as it is written. -/
abbrev signText (negative : Bool) : Text := if negative then [.char '-'] else []

/-- A number with its sign is read like the number without it. -/
theorem scalar_signed {cs : List Char}
    (hcs : ∃ d ds, cs = d :: ds ∧ d.isDigit = true) {r : Text}
    {negative : Bool} {result : Reading Json}
    (hread : unsigned (signText negative ++ (plain cs ++ r)) negative
      (plain cs ++ r) = result) :
    scalar (signText negative ++ (plain cs ++ r)) = result := by
  obtain ⟨d, ds, rfl, hd⟩ := hcs
  cases negative with
  | true => exact (scalar_of_sign hd _).trans hread
  | false =>
      refine (scalar_of_digit hd _).trans ?_
      unfold number
      split
      · rename_i heq
        cases heq
        cases hd
      · exact hread

/-- The text of an integer is its sign and its digits. -/
theorem ofInt_append (n : Int) (r : Text) :
    Text.ofInt n ++ r
      = signText (decide (n < 0))
        ++ (plain (Nat.toDigits 10 n.natAbs) ++ r) := by
  rw [Text.ofInt_eq, Text.ofNat, List.append_assoc]
  simp only [signText, decide_eq_true_eq]

/-- An integer is read back as it was written. -/
theorem scalar_ofInt {n : Int} (hlimit : (Numeral.integerText? n).isSome = true)
    {r : Text} (hr : Stops r) :
    scalar (Text.ofInt n ++ r) = .ok (.int n, r) := by
  have hds : IsWhole (Nat.toDigits 10 n.natAbs) :=
    Numeral.isWhole_toDigits n.natAbs
  have hfits := (Numeral.isSome_integerText? n).mp hlimit
  rw [ofInt_append]
  refine scalar_signed (isWhole_cons hds) ?_
  rw [unsigned_digits hds hr, if_neg (Nat.not_lt.mpr hfits),
    Numeral.valueOf_toDigits]
  by_cases hneg : n < 0
  · rw [if_pos (decide_eq_true hneg), show -(n.natAbs : Int) = n by omega]
  · rw [if_neg (by simpa using hneg), show (n.natAbs : Int) = n by omega]

/-- An integer with too many digits to be written is not read either. -/
theorem scalar_ofInt_long {n : Int}
    (hlong : (Numeral.integerText? n).isSome = false) {r : Text}
    (hr : Stops r) :
    scalar (Text.ofInt n ++ r)
      = .error (.integerTooLong (Nat.toDigits 10 n.natAbs).length) := by
  have hds : IsWhole (Nat.toDigits 10 n.natAbs) :=
    Numeral.isWhole_toDigits n.natAbs
  have hmany : Numeral.digitLimit < (Nat.toDigits 10 n.natAbs).length := by
    rw [← Nat.not_le, ← Numeral.isSome_integerText?, hlong]
    exact Bool.false_ne_true
  rw [ofInt_append]
  refine scalar_signed (isWhole_cons hds) ?_
  rw [unsigned_digits hds hr, if_pos hmany]

/-- A word is read as what it stands for. -/
theorem scalar_of_word {word : String} {v : Json} (hword : (word, v) ∈ words)
    (r : Text) :
    scalar (Text.ofString word ++ r) = .ok (v, r) := by
  simp only [words, List.mem_cons, Prod.mk.injEq, List.not_mem_nil,
    or_false] at hword
  rcases hword with ⟨rfl, rfl⟩ | ⟨rfl, rfl⟩ | ⟨rfl, rfl⟩ | ⟨rfl, rfl⟩
    | ⟨rfl, rfl⟩ | ⟨rfl, rfl⟩ <;> rfl

/-- A number of the 64-bit format is read back as one. -/
theorem scalar_numberText (x : Binary64) {r : Text} (hr : Stops r) :
    ∃ y, scalar (numberText x ++ r) = .ok (.float y, r) := by
  cases x with
  | nan => exact ⟨.nan, scalar_of_word (by simp [words]) r⟩
  | infinite s =>
      cases s with
      | false => exact ⟨.infinite false, scalar_of_word (by simp [words]) r⟩
      | true => exact ⟨.infinite true, scalar_of_word (by simp [words]) r⟩
  | finite s m e =>
      have hcs : IsFraction (Binary64.finite s m e).shortest.chars :=
        Decimal.isFraction_chars _
      obtain ⟨y, hy⟩ := unsigned_fraction hcs hr
        (signText s ++ (plain (Binary64.finite s m e).shortest.chars ++ r)) s
      refine ⟨y, ?_⟩
      have htext : numberText (.finite s m e) ++ r
          = signText s ++ (plain (Binary64.finite s m e).shortest.chars ++ r) :=
        List.append_assoc _ _ _
      rw [htext]
      refine scalar_signed ?_ hy
      obtain ⟨ds, part, exponent, hchars, hds, -⟩ := hcs
      obtain ⟨d, ds, rfl, hd⟩ := isWhole_cons hds
      exact ⟨d, _, hchars, hd⟩

end DevicePairing.Json.Reader
