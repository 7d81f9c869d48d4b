/-
Strings are read back from their escapes.

Every code point is written as an escape of printable ASCII, and the
escape is read back as the code point, so a string comes back as it was.
There is one exception, and it is not the reader's doing: two surrogates
side by side that are the halves of a pair are written as two escapes,
which together are the way to write the one character beyond 16 bits.
The string comes back with its pairs joined.
-/
import DevicePairing.Json.Reader
import DevicePairing.Json.Writer
import DevicePairing.Proofs.Text.CodePoint

namespace DevicePairing.Json

open Reader

-- ============================================================== escapes

theorem hexDigit?_hexChar :
    ∀ d < 16, (CodePoint.char (hexChar d)).hexDigit? = some d := by decide

theorem hexText_four (n : Nat) :
    (hexText 4 n).map CodePoint.char
      = [.char (hexChar (n / 4096 % 16)), .char (hexChar (n / 256 % 16)),
          .char (hexChar (n / 16 % 16)), .char (hexChar (n % 16))] := by
  simp [hexText, Nat.div_div_eq_div_mul]

theorem unitEscape_eq (n : Nat) :
    unitEscape n
      = [.char '\\', .char 'u', .char (hexChar (n / 4096 % 16)),
        .char (hexChar (n / 256 % 16)),
          .char (hexChar (n / 16 % 16)), .char (hexChar (n % 16))] := by
  rw [unitEscape, hexText_four]
  rfl

/-- Four hexadecimal digits denote the number they are written for. -/
theorem unitValue?_hexChar {n : Nat} (hn : n < 0x10000) :
    unitValue? (.char (hexChar (n / 4096 % 16)))
      (.char (hexChar (n / 256 % 16)))
      (.char (hexChar (n / 16 % 16))) (.char (hexChar (n % 16))) = some n := by
  have hlt (m : Nat) : m % 16 < 16 := Nat.mod_lt m (by omega)
  simp only [unitValue?, hexDigit?_hexChar _ (hlt _), Option.bind_eq_bind,
    Option.bind_some, Option.pure_def, Option.some.injEq]
  omega

/-- A unit behind the first half of a pair. -/
theorem secondHalf_unitEscape {n : Nat} (hn : n < 0x10000) {r : Text}
    (hr : r ≠ []) :
    secondHalf (unitEscape n ++ r)
      = .ok (if isLowSurrogate n then some n else none) := by
  obtain ⟨e, r, rfl⟩ := List.exists_cons_of_ne_nil hr
  rw [unitEscape_eq]
  simp only [List.cons_append, List.nil_append, secondHalf,
    unitValue?_hexChar hn]

/-- The ways to write a code point: a letter behind a backslash, itself,
one unit, or the two units of a pair. -/
inductive Escape (p : CodePoint) : Text → Prop where
  | letter (l : CodePoint) (hl : letterEscape? l = some p)
      (hplain : l ≠ .char 'u' ∧ p.code < 0x80 ∧ 0x20 ≤ l.code ∧ l.code < 0x7F) :
      Escape p [.char '\\', l]
  | itself (hquote : p ≠ .char '"') (hslash : p ≠ .char '\\')
    (hp : 0x20 ≤ p.code ∧ p.code < 0x7F) :
      Escape p [p]
  | unit (hp : p.code < 0x10000) : Escape p (unitEscape p.code)
  | pair (hp : 0x10000 ≤ p.code) :
    Escape p (unitEscape (0xD800 + (p.code - 0x10000) / 0x400)
      ++ unitEscape (0xDC00 + (p.code - 0x10000) % 0x400))

/-- A code point is the character whose number it has. -/
theorem eq_of_code {p : CodePoint} {n : Nat} (hp : p.code = n) :
    p = .ofCode n := by
  rw [← hp, CodePoint.ofCode_code]

theorem escape_form (p : CodePoint) : Escape p (escape p) := by
  unfold escape
  dsimp only
  split
  · obtain rfl := eq_of_code ‹p.code = 0x22›
    exact .letter (.char '"') rfl (by decide)
  split
  · obtain rfl := eq_of_code ‹p.code = 0x5C›
    exact .letter (.char '\\') rfl (by decide)
  split
  · obtain rfl := eq_of_code ‹p.code = 0x0A›
    exact .letter (.char 'n') rfl (by decide)
  split
  · obtain rfl := eq_of_code ‹p.code = 0x0D›
    exact .letter (.char 'r') rfl (by decide)
  split
  · obtain rfl := eq_of_code ‹p.code = 0x09›
    exact .letter (.char 't') rfl (by decide)
  split
  · obtain rfl := eq_of_code ‹p.code = 0x0C›
    exact .letter (.char 'f') rfl (by decide)
  split
  · obtain rfl := eq_of_code ‹p.code = 0x08›
    exact .letter (.char 'b') rfl (by decide)
  split
  · refine .itself ?_ ?_ ‹_›
    · rintro rfl
      exact absurd rfl ‹¬(CodePoint.char '"').code = 0x22›
    · rintro rfl
      exact absurd rfl ‹¬(CodePoint.char '\\').code = 0x5C›
  split
  · exact .unit ‹_›
  · exact .pair (Nat.le_of_not_lt ‹_›)

/-- Whether an escape is the second half of a pair. -/
theorem secondHalf_escape (p : CodePoint) {r : Text} (hr : r ≠ []) :
    secondHalf (escape p ++ r)
      = .ok (if p.isLow then some p.code else none) := by
  have hlow (h : p.code < 0xDC00 ∨ 0xE000 ≤ p.code) : p.isLow = false := by
    simp only [CodePoint.isLow, isLowSurrogate, Bool.and_eq_false_iff,
      decide_eq_false_iff_not]
    omega
  have hform := escape_form p
  generalize escape p = t at hform
  cases hform with
  | letter l hl hplain =>
      obtain ⟨hu, hp, -⟩ := hplain
      rw [hlow (by omega)]
      unfold secondHalf
      split
      · rename_i heq
        cases heq
        exact absurd rfl hu
      · rfl
  | itself hquote hslash hp =>
      rw [hlow (by omega)]
      unfold secondHalf
      split
      · rename_i heq
        cases heq
        exact absurd rfl hslash
      · rfl
  | unit hp => exact secondHalf_unitEscape hp hr
  | pair hp =>
      have hlt := p.code_lt
      have hhigh : isLowSurrogate (0xD800 + (p.code - 0x10000) / 0x400)
          = false := by
        simp only [isLowSurrogate, Bool.and_eq_false_iff,
          decide_eq_false_iff_not]
        omega
      rw [hlow (by omega), List.append_assoc,
        secondHalf_unitEscape (by omega) (by simp [unitEscape_eq]),
        hhigh, if_neg Bool.false_ne_true, if_neg Bool.false_ne_true]

-- ============================================================== strings

variable (opening : Text)

/-- What belongs to an escape that has been read is passed over. -/
theorem stringRest_skip (s r : Text) :
    stringRest opening s.length (s ++ r) = stringRest opening 0 r := by
  induction s with
  | nil => rfl
  | cons p s ih => exact ih

/-- A code point in front of a string that is read. -/
def withHead (p : CodePoint) (x : Text × Text) : Text × Text := (p :: x.1, x.2)

/-- An escape that is read as a code point goes in front of what follows. -/
theorem stringRest_escaped {c : CodePoint} {s r : Text}
    (hs : escaped (.char '\\' :: (s ++ r)) (s ++ r) = .ok (c, s.length))
    (hr : s ++ r ≠ []) :
    stringRest opening 0 (.char '\\' :: (s ++ r))
      = (stringRest opening 0 r).map (withHead c) := by
  have hne : (s ++ r).isEmpty = false := by simpa using hr
  rw [stringRest, if_neg (by decide), if_pos rfl, hne,
    if_neg Bool.false_ne_true, hs]
  dsimp only
  rw [stringRest_skip]
  rfl

/-- A unit that is not the first half of a pair is read by itself. -/
theorem stringRest_unitEscape {n : Nat} (hn : n < 0x10000) {r : Text}
    (hr : r ≠ [])
    (halone : isHighSurrogate n = true → secondHalf r = .ok none) :
    stringRest opening 0 (unitEscape n ++ r)
      = (stringRest opening 0 r).map (withHead (.ofCode n)) := by
  obtain ⟨e, r, rfl⟩ := List.exists_cons_of_ne_nil hr
  rw [unitEscape_eq]
  refine stringRest_escaped opening (s := [_, _, _, _, _]) ?_ (by simp)
  simp only [List.cons_append, List.nil_append, escaped, unitValue?_hexChar hn]
  cases hhigh : isHighSurrogate n with
  | false => rfl
  | true => rw [if_pos rfl, halone hhigh]; rfl

/-- Two units that are the halves of a pair are read as one code point. -/
theorem stringRest_unitEscapes {n m : Nat} (hn : isHighSurrogate n = true)
    (hm : isLowSurrogate m = true) {r : Text} (hr : r ≠ []) :
    stringRest opening 0 (unitEscape n ++ (unitEscape m ++ r))
      = (stringRest opening 0 r).map (withHead (.ofCode (joinPair n m))) := by
  have hn' : n < 0x10000 := by
    simp only [isHighSurrogate, Bool.and_eq_true, decide_eq_true_eq] at hn
    omega
  have hm' : m < 0x10000 := by
    simp only [isLowSurrogate, Bool.and_eq_true, decide_eq_true_eq] at hm
    omega
  have hsecond := secondHalf_unitEscape hm' hr
  rw [if_pos hm, unitEscape_eq] at hsecond
  rw [unitEscape_eq, unitEscape_eq]
  refine stringRest_escaped opening (s := [_, _, _, _, _, _, _, _, _, _, _]) ?_
    (by simp)
  simp only [List.cons_append, List.nil_append, escaped, unitValue?_hexChar hn',
    hn, if_true]
  simp only [List.cons_append, List.nil_append] at hsecond
  rw [hsecond]
  rfl

/-- A code point is read back from its escape, unless it is the first half
of a pair and the second half follows. -/
theorem stringRest_escape (p : CodePoint) {r : Text} (hr : r ≠ [])
    (halone : p.isHigh = true → secondHalf r = .ok none) :
    stringRest opening 0 (escape p ++ r)
      = (stringRest opening 0 r).map (withHead p) := by
  have hform := escape_form p
  generalize escape p = t at hform
  cases hform with
  | letter l hl hplain =>
      obtain ⟨hu, -, -⟩ := hplain
      refine stringRest_escaped opening (s := [l]) ?_ (by simp)
      rw [List.singleton_append]
      unfold escaped
      split
      · rename_i heq
        cases heq
        exact absurd rfl hu
      · rename_i heq
        cases heq
        rw [hl]
        rfl
      · rename_i heq
        cases heq
  | itself hquote hslash hp =>
      rw [List.singleton_append, stringRest, if_neg hquote, if_neg hslash,
        if_neg (by omega)]
      rfl
  | unit hp =>
      rw [stringRest_unitEscape opening hp hr halone, CodePoint.ofCode_code]
  | pair hp =>
      have hlt := p.code_lt
      have hhigh : isHighSurrogate (0xD800 + (p.code - 0x10000) / 0x400)
          = true := by
        simp only [isHighSurrogate, Bool.and_eq_true, decide_eq_true_eq]
        omega
      have hlow : isLowSurrogate (0xDC00 + (p.code - 0x10000) % 0x400)
          = true := by
        simp only [isLowSurrogate, Bool.and_eq_true, decide_eq_true_eq]
        omega
      have hjoin : joinPair (0xD800 + (p.code - 0x10000) / 0x400)
          (0xDC00 + (p.code - 0x10000) % 0x400) = p.code := by
        unfold joinPair
        omega
      rw [List.append_assoc, stringRest_unitEscapes opening hhigh hlow hr,
        hjoin, CodePoint.ofCode_code]

/-- A surrogate is written as the unit it is. -/
theorem escape_of_surrogate {p : CodePoint}
    (hp : 0xD800 ≤ p.code ∧ p.code < 0xE000) :
    escape p = unitEscape p.code := by
  have hform := escape_form p
  generalize escape p = t at hform
  cases hform with
  | letter l hl hplain =>
      obtain ⟨-, hlt, -⟩ := hplain
      omega
  | itself _ _ hlt => omega
  | unit _ => rfl
  | pair hle => omega

/-- The halves of a pair are read back as one code point. -/
theorem stringRest_pair {p q : CodePoint} (hp : p.isHigh = true)
    (hq : q.isLow = true) {r : Text} (hr : r ≠ []) :
    stringRest opening 0 (escape p ++ (escape q ++ r))
      = (stringRest opening 0 r).map
        (withHead (.ofCode (joinPair p.code q.code))) := by
  have hp' := hp
  have hq' := hq
  simp only [CodePoint.isHigh, isHighSurrogate, Bool.and_eq_true,
    decide_eq_true_eq] at hp'
  simp only [CodePoint.isLow, isLowSurrogate, Bool.and_eq_true,
    decide_eq_true_eq] at hq'
  rw [escape_of_surrogate (by omega), escape_of_surrogate (by omega)]
  exact stringRest_unitEscapes opening hp hq hr

/-- A string is read back with its pairs joined. -/
theorem stringRest_flatMap (t r : Text) :
    stringRest opening 0 (t.flatMap escape ++ .char '"' :: r)
      = .ok (Text.joinPairs t, r) := by
  have hend : stringRest opening 0 (.char '"' :: r) = .ok ([], r) := rfl
  fun_induction Text.joinPairs t with
  | case1 => exact hend
  | case2 p =>
      rw [List.flatMap_singleton,
        stringRest_escape opening p (List.cons_ne_nil _ _) fun _ => rfl, hend]
      rfl
  | case3 p q t hpair ih =>
      rw [Bool.and_eq_true] at hpair
      rw [List.flatMap_cons, List.flatMap_cons, List.append_assoc,
        List.append_assoc, stringRest_pair opening hpair.1 hpair.2 (by simp),
        ih]
      rfl
  | case4 p q t hpair ih =>
      rw [List.flatMap_cons, List.append_assoc,
        stringRest_escape opening p (by simp), ih]
      · rfl
      · intro hhigh
        have hlow : q.isLow = false := by simpa [hhigh] using hpair
        rw [List.flatMap_cons, List.append_assoc, secondHalf_escape q (by simp),
          hlow, if_neg Bool.false_ne_true]

end DevicePairing.Json
