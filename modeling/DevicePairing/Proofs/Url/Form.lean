/-
Form encoding, there and back.

A byte of a form value is written as itself, as a plus sign or as an
escape, and whichever it is, it is read as that byte again
(`unescape_encodeByte`). So a value of characters comes back as it was
(`decodeForm_formText`), and since no delimiter is ever written for
itself, so does a query of such values.

The encoding is meant to be read once. If the percent signs of a value
are escaped once more, one reading gives the encoding itself, with blanks
for its plus signs; that is the value only if the value is plain, with
nothing in it that needs an escape (`map_unplus_formText`).
-/
import DevicePairing.Proofs.Text.Path
import DevicePairing.Proofs.Text.Utf8
import DevicePairing.Url.Query

namespace DevicePairing.Url

-- ============================================================= characters

/-- The characters that form encoding is made of. -/
def isFormChar (c : Char) : Bool := isUnreserved c || c == '+' || c == '%'

/-- What is never escaped is ASCII. -/
theorem lt_of_isUnreserved {c : Char} (h : isUnreserved c = true) :
    c.toNat < 128 := by
  simp only [isUnreserved, Bool.or_eq_true, Bool.and_eq_true, decide_eq_true_eq,
    List.contains_iff_mem] at h
  rcases h with ((⟨-, h⟩ | ⟨-, h⟩) | ⟨-, h⟩) | h
  · exact Nat.lt_of_le_of_lt h (by decide)
  · exact Nat.lt_of_le_of_lt h (by decide)
  · exact Nat.lt_of_le_of_lt h (by decide)
  · have hsigns : ("_.-~".toList.all fun c => c.toNat < 128) = true := by
      decide
    exact of_decide_eq_true (List.all_eq_true.mp hsigns c h)

theorem lt_of_isFormChar {c : Char} (h : isFormChar c = true) :
    c.toNat < 128 := by
  simp only [isFormChar, Bool.or_eq_true, beq_iff_eq] at h
  rcases h with (h | rfl) | rfl
  · exact lt_of_isUnreserved h
  · decide
  · decide

/-- A hexadecimal digit that is written is read back. -/
theorem hexDigit?_upperHex {n : Nat} (h : n < 16) :
    (CodePoint.char (upperHex n)).hexDigit? = some n := by
  have hall : ∀ n : Fin 16,
      (CodePoint.char (upperHex n)).hexDigit? = some n.val := by
    decide
  exact hall ⟨n, h⟩

theorem isUnreserved_upperHex {n : Nat} (h : n < 16) :
    isUnreserved (upperHex n) = true := by
  have hall : ∀ n : Fin 16, isUnreserved (upperHex n) = true := by decide
  exact hall ⟨n, h⟩

-- ================================================================== bytes

theorem utf8_append (s t : Text) : Text.utf8 (s ++ t) = s.utf8 ++ t.utf8 :=
  List.flatMap_append

theorem utf8_cons (p : CodePoint) (t : Text) :
    Text.utf8 (p :: t) = p.utf8 ++ Text.utf8 t :=
  List.flatMap_cons

/-- A character of ASCII is one byte. -/
theorem utf8_ascii {c : Char} (h : c.toNat < 128) :
    (CodePoint.char c).utf8 = [UInt8.ofNat c.toNat] := by
  simp only [CodePoint.utf8, CodePoint.code, h, if_true]

theorem ofNat_toNat_ascii {c : Char} (h : c.toNat < 128) :
    Char.ofNat (UInt8.ofNat c.toNat).toNat = c := by
  rw [toNat_ofNat (by omega), Char.ofNat_toNat]

theorem toNat_charOfNat {n : Nat} (h : n < 256) : (Char.ofNat n).toNat = n := by
  have hvalid : n.isValidChar := Or.inl (by omega)
  rw [Char.ofNat, dif_pos hvalid]
  rfl

/-- A byte of ASCII is the character of its number. -/
theorem utf8_ofNat {b : UInt8} (h : b.toNat < 128) :
    (CodePoint.char (Char.ofNat b.toNat)).utf8 = [b] := by
  have hcode := toNat_charOfNat (n := b.toNat) (by omega)
  rw [utf8_ascii (by rw [hcode]; exact h), hcode, UInt8.ofNat_toNat]

/-- The bytes of any other code point are no bytes of ASCII. -/
theorem utf8_beyond_ascii {p : CodePoint} (h : 128 ≤ p.code) :
    p.utf8 ≠ [] ∧ ∀ b ∈ p.utf8, 128 ≤ b.toNat := by
  have hlt := CodePoint.code_lt p
  have hbyte {n : Nat} (hlow : 128 ≤ n) (hhigh : n < 256) :
      128 ≤ (UInt8.ofNat n).toNat := by
    rw [toNat_ofNat hhigh]
    exact hlow
  unfold CodePoint.utf8
  dsimp only
  rw [if_neg (by omega)]
  split_ifs
  · refine ⟨List.cons_ne_nil _ _, ?_⟩
    simp only [List.forall_mem_cons, List.not_mem_nil, false_implies,
      implies_true, and_true]
    exact ⟨hbyte (by omega) (by omega), hbyte (by omega) (by omega)⟩
  · refine ⟨List.cons_ne_nil _ _, ?_⟩
    simp only [List.forall_mem_cons, List.not_mem_nil, false_implies,
      implies_true, and_true]
    exact ⟨hbyte (by omega) (by omega), hbyte (by omega) (by omega),
      hbyte (by omega) (by omega)⟩
  · refine ⟨List.cons_ne_nil _ _, ?_⟩
    simp only [List.forall_mem_cons, List.not_mem_nil, false_implies,
      implies_true, and_true]
    exact ⟨hbyte (by omega) (by omega), hbyte (by omega) (by omega),
      hbyte (by omega) (by omega), hbyte (by omega) (by omega)⟩

/-- An escape is the bytes of its three characters. -/
theorem utf8_escapeByte (b : UInt8) :
    Text.utf8 (escapeByte b)
      = [0x25, UInt8.ofNat (upperHex (b.toNat / 16)).toNat,
      UInt8.ofNat (upperHex (b.toNat % 16)).toNat] := by
  have hb := b.toNat_lt
  have hhigh := isUnreserved_upperHex (n := b.toNat / 16) (by omega)
  have hlow := isUnreserved_upperHex (n := b.toNat % 16) (by omega)
  have hpercent : (CodePoint.char '%').utf8 = [0x25] := by decide
  rw [escapeByte, utf8_cons, utf8_cons, utf8_cons, hpercent,
    utf8_ascii (lt_of_isUnreserved hhigh), utf8_ascii (lt_of_isUnreserved hlow)]
  rfl

-- =============================================================== decoding

/-- What is no percent sign is taken as it is. -/
theorem unescape_cons {b : UInt8} (h : b ≠ 0x25) (r : Bytes) :
    unescape (b :: r) = b :: unescape r := by
  unfold unescape
  rw [unescapeFrom.eq_def]
  simp only [h, if_false]

/-- An escape is read as its byte. -/
theorem unescape_escapeByte (b : UInt8) (r : Bytes) :
    unescape (Text.utf8 (escapeByte b) ++ r) = b :: unescape r := by
  have hb := b.toNat_lt
  have hread {n : Nat} (hn : n < 16) :
      (CodePoint.ofCode (UInt8.ofNat (upperHex n).toNat).toNat).hexDigit?
        = some n := by
    have hlt := lt_of_isUnreserved (isUnreserved_upperHex hn)
    rw [toNat_ofNat (by omega), CodePoint.ofCode_toNat, hexDigit?_upperHex hn]
  have hhigh := hread (n := b.toNat / 16) (by omega)
  have hlow := hread (n := b.toNat % 16) (by omega)
  have hvalue : b.toNat / 16 * 16 + b.toNat % 16 = b.toNat := by omega
  rw [utf8_escapeByte]
  simp only [List.cons_append, List.nil_append, unescape]
  rw [unescapeFrom, if_pos rfl, hhigh, hlow]
  simp only [hvalue, UInt8.ofNat_toNat, unescapeFrom]

/-- A plus sign as the blank that it is read as. -/
def unplus (p : CodePoint) : CodePoint := if p = .char '+' then .char ' ' else p

theorem unplus_of_isUnreserved {c : Char} (h : isUnreserved c = true) :
    unplus (.char c) = .char c := by
  refine if_neg ?_
  rintro ⟨rfl⟩
  exact absurd h (by decide)

/-- An escape has no plus sign. -/
theorem map_unplus_escapeByte (b : UInt8) :
    (escapeByte b).map unplus = escapeByte b := by
  have hb := b.toNat_lt
  rw [escapeByte, List.map_cons, List.map_cons, List.map_cons, List.map_nil,
    unplus_of_isUnreserved (isUnreserved_upperHex (by omega)),
    unplus_of_isUnreserved (isUnreserved_upperHex (by omega))]
  rfl

/-- A byte is read from its encoding; a plus sign that was let stand is
read as a blank. -/
theorem unescape_encodeByte {keep : Char → Bool} (hkeep : keep '%' = false)
    (b : UInt8) (r : Bytes) :
    unescape (Text.utf8 ((encodeByte keep b).map unplus) ++ r)
      = (if keep '+' && b == 0x2B then 0x20 else b) :: unescape r := by
  unfold encodeByte
  dsimp only
  split
  · rename_i h
    rw [Bool.and_eq_true, decide_eq_true_eq] at h
    obtain ⟨hb, hc⟩ := h
    by_cases hplus : b = 0x2B
    · subst hplus
      have hkept : (keep '+' && (0x2B : UInt8) == 0x2B) = true := by
        simpa using hc
      rw [hkept, if_pos rfl]
      exact unescape_cons (by decide) r
    · have hother : unplus (.char (Char.ofNat b.toNat))
          = .char (Char.ofNat b.toNat) := by
        refine if_neg ?_
        intro h
        rw [CodePoint.char.injEq] at h
        have hsign : (CodePoint.char '+').utf8 = [0x2B] := by decide
        have hbytes := utf8_ofNat hb
        rw [h, hsign] at hbytes
        exact hplus (List.cons.inj hbytes).1.symm
      have hpercent : b ≠ 0x25 := by
        rintro rfl
        exact absurd hc (by simpa using hkeep)
      rw [List.map_singleton, hother, utf8_cons, utf8_ofNat hb]
      simp only [beq_eq_false_iff_ne.mpr hplus, Bool.and_false]
      exact unescape_cons hpercent r
  · rename_i h
    have hplus : (keep '+' && b == 0x2B) = false := by
      rw [← Bool.not_eq_true, Bool.and_eq_true, beq_iff_eq]
      rintro ⟨hc, rfl⟩
      exact h (by simpa using hc)
    rw [map_unplus_escapeByte, unescape_escapeByte, hplus]
    rfl

/-- A byte of a form value is read as it was. -/
theorem unescape_encodeFormByte (b : UInt8) (r : Bytes) :
    unescape (Text.utf8 ((encodeFormByte b).map unplus) ++ r)
      = b :: unescape r := by
  unfold encodeFormByte
  split
  · subst b
    exact unescape_cons (by decide) r
  · exact unescape_encodeByte (by decide) b r

/-- A form gives back the bytes that were put in, blanks included. -/
theorem unescape_form (bytes : Bytes) :
    unescape (Text.utf8 ((bytes.flatMap encodeFormByte).map unplus))
      = bytes := by
  induction bytes with
  | nil => rfl
  | cons b bytes ih =>
      rw [List.flatMap_cons, List.map_append, utf8_append,
        unescape_encodeFormByte, ih]

-- ================================================================= values

/-- The form encoding of a text. -/
def formText (t : Text) : Text := t.utf8.flatMap encodeFormByte

/-- A text without surrogates can be encoded. -/
theorem encode_of_isScalar {t : Text} (ht : t.IsScalar) :
    t.encode = .ok t.utf8 := by
  rw [Text.encode, Text.strictUtf8, loneSurrogate?_eq_none_iff.mpr ht]

theorem eq_of_encode {t : Text} {bytes : Bytes} (h : t.encode = .ok bytes) :
    bytes = t.utf8 := by
  unfold Text.encode Text.strictUtf8 at h
  cases hlone : t.loneSurrogate? with
  | none =>
      rw [hlone] at h
      cases h
      rfl
  | some f =>
      rw [hlone] at h
      cases h

/-- It can be put in a form then. -/
theorem encodeForm_eq {t : Text} (ht : t.IsScalar) :
    encodeForm t = .ok (formText t) := by
  rw [encodeForm, encode_of_isScalar ht]
  rfl

/-- Text is read from its bytes, also by the lenient reader. -/
theorem lenientText_utf8 {t : Text} (ht : t.IsScalar) :
    lenientText t.utf8 = t := by
  have hunits : utf8Units false (t.utf8 ++ []) = _ := utf8Units_append ht []
  rw [List.append_nil] at hunits
  have hnil : utf8Units false [] = [] := by rw [utf8Units]
  rw [lenientText, hunits, hnil, List.append_nil, List.flatMap_map]
  exact List.flatMap_singleton' t

/-- A form value is read as it was. -/
theorem decodeForm_formText {t : Text} (ht : t.IsScalar) :
    decodeForm (formText t) = t := by
  have hbytes := unescape_form t.utf8
  unfold decodeForm
  exact (congrArg lenientText hbytes).trans (lenientText_utf8 ht)

/-- A byte is written as a character of ASCII: one that is kept, or one
of an escape. -/
theorem mem_encodeByte {keep : Char → Bool} {b : UInt8} {p : CodePoint}
    (h : p ∈ encodeByte keep b) :
    ∃ c, p = .char c ∧ c.toNat < 128
      ∧ (keep c = true ∧ [b] = p.utf8 ∨ c = '%' ∨ isUnreserved c = true) := by
  have hb := b.toNat_lt
  unfold encodeByte at h
  dsimp only at h
  split at h
  · rename_i hkeep
    rw [Bool.and_eq_true, decide_eq_true_eq] at hkeep
    rw [List.mem_singleton] at h
    have hbytes := utf8_ofNat hkeep.1
    rw [← h] at hbytes
    refine ⟨_, h, ?_, .inl ⟨hkeep.2, hbytes.symm⟩⟩
    rw [toNat_charOfNat (by omega)]
    exact hkeep.1
  · have hhigh := isUnreserved_upperHex (n := b.toNat / 16) (by omega)
    have hlow := isUnreserved_upperHex (n := b.toNat % 16) (by omega)
    rw [escapeByte, List.mem_cons, List.mem_cons, List.mem_singleton] at h
    rcases h with rfl | rfl | rfl
    · exact ⟨_, rfl, by decide, .inr (.inl rfl)⟩
    · exact ⟨_, rfl, lt_of_isUnreserved hhigh, .inr (.inr hhigh)⟩
    · exact ⟨_, rfl, lt_of_isUnreserved hlow, .inr (.inr hlow)⟩

/-- A byte of ASCII in a text is a character of the text. -/
theorem mem_of_mem_utf8 {t : Text} {b : UInt8} (h : b ∈ t.utf8)
    (hb : b.toNat < 128) : .char (Char.ofNat b.toNat) ∈ t := by
  obtain ⟨p, hp, hmem⟩ := List.mem_flatMap.mp h
  have hcode : p.code < 128 := by
    by_contra hcode
    have := (utf8_beyond_ascii (Nat.le_of_not_lt hcode)).2 b hmem
    omega
  cases p with
  | surrogate n =>
      simp only [CodePoint.code] at hcode
      omega
  | char c =>
      rw [utf8_ascii hcode, List.mem_singleton] at hmem
      rw [hmem, ofNat_toNat_ascii hcode]
      exact hp

/-- An encoded text is made of what the text is made of and of escapes. -/
theorem mem_encodeBytes {keep : Char → Bool} {t : Text} {p : CodePoint}
    (h : p ∈ encodeBytes keep t.utf8) :
    p ∈ t ∨ p = .char '%' ∨ ∃ c, p = .char c ∧ isUnreserved c = true := by
  obtain ⟨b, hb, h⟩ := List.mem_flatMap.mp h
  obtain ⟨c, rfl, hlt, ⟨-, hbytes⟩ | rfl | hc⟩ := mem_encodeByte h
  · rw [utf8_ascii hlt, List.cons.injEq] at hbytes
    have hmem :=
      mem_of_mem_utf8 hb (by rw [hbytes.1, toNat_ofNat (by omega)]; exact hlt)
    rw [hbytes.1, ofNat_toNat_ascii hlt] at hmem
    exact .inl hmem
  · exact .inr (.inl rfl)
  · exact .inr (.inr ⟨c, rfl, hc⟩)

/-- Spelling out brings in no character but percent signs and unreserved
ones. -/
theorem not_mem_encodeBytes {keep : Char → Bool} {t : Text} {c : Char}
    (h : .char c ∉ t) (hpercent : c ≠ '%') (hc : isUnreserved c = false) :
    .char c ∉ encodeBytes keep t.utf8 := by
  intro hmem
  rcases mem_encodeBytes hmem with hmem | hmem | ⟨d, hd, hmem⟩
  · exact h hmem
  · exact hpercent (CodePoint.char.inj hmem)
  · rw [← CodePoint.char.inj hd, hc] at hmem
    cases hmem

/-- Form encoding keeps to its characters. -/
theorem mem_formText {t : Text} {p : CodePoint} (h : p ∈ formText t) :
    ∃ c, p = .char c ∧ isFormChar c = true := by
  obtain ⟨b, -, h⟩ := List.mem_flatMap.mp h
  unfold encodeFormByte at h
  split at h
  · exact ⟨'+', List.mem_singleton.mp h, by decide⟩
  · obtain ⟨c, rfl, -, ⟨hc, -⟩ | rfl | hc⟩ := mem_encodeByte h
    · exact ⟨c, rfl, by simp [isFormChar, hc]⟩
    · exact ⟨'%', rfl, by decide⟩
    · exact ⟨c, rfl, by simp [isFormChar, hc]⟩

/-- A character that is special to a form is not in what is put there. -/
theorem not_mem_formText {c : Char} (hc : isFormChar c = false) (t : Text) :
    .char c ∉ formText t := by
  intro h
  obtain ⟨d, hd, hform⟩ := mem_formText h
  rw [CodePoint.char.injEq] at hd
  rw [hd, hform] at hc
  cases hc

/-- A character of ASCII that is kept. -/
theorem encodeByte_of_kept {keep : Char → Bool} {c : Char}
    (hc : c.toNat < 128) (hkeep : keep c = true) :
    encodeByte keep (UInt8.ofNat c.toNat) = [.char c] := by
  have hb : (UInt8.ofNat c.toNat).toNat < 128 := by
    rw [toNat_ofNat (by omega)]
    exact hc
  unfold encodeByte
  dsimp only
  rw [ofNat_toNat_ascii hc, hkeep, decide_eq_true hb]
  rfl

theorem encodeBytes_append (keep : Char → Bool) (s t : Text) :
    encodeBytes keep (s ++ t).utf8
      = encodeBytes keep s.utf8 ++ encodeBytes keep t.utf8 := by
  rw [utf8_append]
  exact List.flatMap_append

/-- What is kept of a text is the text. -/
theorem encodeBytes_of_kept {keep : Char → Bool} {t : Text}
    (h : ∀ p ∈ t, ∃ c, p = .char c ∧ c.toNat < 128 ∧ keep c = true) :
    encodeBytes keep t.utf8 = t := by
  induction t with
  | nil => rfl
  | cons p t ih =>
      obtain ⟨c, rfl, hc, hkeep⟩ := h p List.mem_cons_self
      have ih := ih fun q hq => h q (List.mem_cons_of_mem _ hq)
      unfold encodeBytes at ih ⊢
      rw [utf8_cons, List.flatMap_append, utf8_ascii hc, ih,
        List.flatMap_singleton, encodeByte_of_kept hc hkeep]
      rfl

-- =========================================================== plain values

/-- Whether a text is written in form encoding without an escape. -/
def isPlain (t : Text) : Bool :=
  t.all fun p =>
    match p with
    | .char c => isUnreserved c || c == ' '
    | .surrogate _ => false

theorem formText_cons (p : CodePoint) (t : Text) :
    formText (p :: t) = p.utf8.flatMap encodeFormByte ++ formText t := by
  rw [formText, formText, utf8_cons, List.flatMap_append]

/-- An unreserved character stands for itself. -/
theorem formText_unreserved {c : Char} (hc : isUnreserved c = true) (t : Text) :
    formText (.char c :: t) = .char c :: formText t := by
  have hlt := lt_of_isUnreserved hc
  have hblank : UInt8.ofNat c.toNat ≠ 0x20 := by
    intro h
    have hchar := ofNat_toNat_ascii hlt
    rw [h] at hchar
    rw [← hchar] at hc
    exact absurd hc (by decide)
  rw [formText_cons, utf8_ascii hlt, List.flatMap_singleton, encodeFormByte,
    if_neg hblank, encodeByte_of_kept hlt hc]
  rfl

/-- A blank is a plus sign. -/
theorem formText_blank (t : Text) :
    formText (.char ' ' :: t) = .char '+' :: formText t := by
  rw [formText_cons]
  rfl

/-- A byte that is no blank and not unreserved is escaped. -/
theorem encodeFormByte_escaped {b : UInt8} (hblank : b ≠ 0x20)
    (h : b.toNat < 128 → isUnreserved (Char.ofNat b.toNat) = false) :
    encodeFormByte b = escapeByte b := by
  rw [encodeFormByte, if_neg hblank, encodeByte]
  refine if_neg ?_
  rw [Bool.and_eq_true, decide_eq_true_eq]
  rintro ⟨hb, hc⟩
  rw [h hb] at hc
  cases hc

/-- Anything that is neither unreserved nor a blank takes an escape. -/
theorem formText_escaped {p : CodePoint} (hp : isPlain [p] = false) (t : Text) :
    ∃ b rest, formText (p :: t) = escapeByte b ++ (rest ++ formText t) := by
  have hfirst : ∃ b bytes, p.utf8 = b :: bytes
      ∧ encodeFormByte b = escapeByte b := by
    by_cases hcode : p.code < 128
    · cases p with
      | surrogate n =>
          simp only [CodePoint.code] at hcode
          omega
      | char c =>
          refine ⟨_, [], utf8_ascii hcode,
            encodeFormByte_escaped ?_ fun _ => ?_⟩
          · intro hblank
            have hchar := ofNat_toNat_ascii hcode
            rw [hblank] at hchar
            rw [← hchar] at hp
            exact absurd hp (by decide)
          · rw [ofNat_toNat_ascii hcode]
            simp only [isPlain, List.all_cons, List.all_nil, Bool.and_true,
              Bool.or_eq_false_iff] at hp
            exact hp.1
    · obtain ⟨hne, hbytes⟩ := utf8_beyond_ascii (Nat.le_of_not_lt hcode)
      obtain ⟨b, bytes, hutf8⟩ := List.exists_cons_of_ne_nil hne
      have hb := hbytes b (by rw [hutf8]; exact List.mem_cons_self)
      refine ⟨b, bytes, hutf8, encodeFormByte_escaped ?_ fun h => ?_⟩
      · rintro rfl
        exact absurd hb (by decide)
      · omega
  obtain ⟨b, bytes, hutf8, hb⟩ := hfirst
  refine ⟨b, bytes.flatMap encodeFormByte, ?_⟩
  rw [formText_cons, hutf8, List.flatMap_cons, hb, List.append_assoc]

/-- A plain text is written as it is, with plus signs for its blanks. -/
theorem formText_plain {p : CodePoint} (hp : isPlain [p] = true) (t : Text) :
    ∃ q, formText (p :: t) = q :: formText t ∧ unplus q = p := by
  cases p with
  | surrogate n => cases hp
  | char c =>
      simp only [isPlain, List.all_cons, List.all_nil, Bool.and_true,
        Bool.or_eq_true, beq_iff_eq] at hp
      rcases hp with hc | rfl
      · exact ⟨_, formText_unreserved hc t, unplus_of_isUnreserved hc⟩
      · exact ⟨_, formText_blank t, rfl⟩

/-- Encoding never makes a text shorter. -/
theorem length_le_formText (t : Text) : t.length ≤ (formText t).length := by
  induction t with
  | nil => exact Nat.le_refl _
  | cons p t ih =>
      cases hp : isPlain [p] with
      | true =>
          obtain ⟨q, hform, -⟩ := formText_plain hp t
          rw [hform, List.length_cons, List.length_cons]
          omega
      | false =>
          obtain ⟨b, rest, hform⟩ := formText_escaped hp t
          have hthree : (escapeByte b).length = 3 := rfl
          rw [hform, List.length_append, List.length_append, List.length_cons]
          omega

/-- The encoding of a text, with blanks for its plus signs, is the text
itself exactly if the text is plain. -/
theorem map_unplus_formText {t : Text} :
    (formText t).map unplus = t ↔ isPlain t = true := by
  induction t with
  | nil => exact ⟨fun _ => rfl, fun _ => rfl⟩
  | cons p t ih =>
      have hplain : isPlain (p :: t) = (isPlain [p] && isPlain t) := by
        simp [isPlain]
      rw [hplain, Bool.and_eq_true, ← ih]
      cases hp : isPlain [p] with
      | true =>
          obtain ⟨q, hform, hq⟩ := formText_plain hp t
          rw [hform, List.map_cons, hq, List.cons.injEq]
          simp
      | false =>
          -- three characters stand where the text has one
          simp only [Bool.false_eq_true, false_and, iff_false]
          intro h
          obtain ⟨b, rest, hform⟩ := formText_escaped hp t
          have hlength := congrArg List.length h
          have hthree : (escapeByte b).length = 3 := rfl
          have hle := length_le_formText t
          rw [hform, List.length_map, List.length_append, List.length_append,
            List.length_cons] at hlength
          omega

-- ======================================================== encoded twice

/-- Where percent signs are escaped, reading gives the bytes back; only a plus
sign that was kept is read as a blank. -/
theorem unescape_encodeBytes {keep : Char → Bool} (hkeep : keep '%' = false)
    (bytes : Bytes) :
    unescape (Text.utf8 ((encodeBytes keep bytes).map unplus))
      = bytes.map fun b => if keep '+' && b == 0x2B then 0x20 else b := by
  induction bytes with
  | nil => rfl
  | cons b bytes ih =>
      unfold encodeBytes at ih ⊢
      rw [List.flatMap_cons, List.map_append, utf8_append,
        unescape_encodeByte hkeep, ih, List.map_cons]

/-- The encoding of a value whose percent signs are escaped once more is
read as the encoding, with blanks for its plus signs. -/
theorem decodeForm_encodeBytes {keep : Char → Bool}
    (hpercent : keep '%' = false)
    (hplus : keep '+' = true) (t : Text) :
    decodeForm (encodeBytes keep (formText t).utf8)
      = (formText t).map unplus := by
  have hbytes : ∀ s : Text, (∀ p ∈ s, ∃ c, p = .char c ∧ isFormChar c = true) →
      s.utf8.map (fun b => if keep '+' && b == 0x2B then 0x20 else b)
        = Text.utf8 (s.map unplus) := by
    intro s hs
    induction s with
    | nil => rfl
    | cons p s ih =>
        obtain ⟨c, rfl, hc⟩ := hs p List.mem_cons_self
        have ih := ih fun q hq => hs q (List.mem_cons_of_mem _ hq)
        have hlt := lt_of_isFormChar hc
        rw [List.map_cons, utf8_cons, utf8_cons, List.map_append, ih,
          utf8_ascii hlt, hplus]
        congr 1
        by_cases hsign : c = '+'
        · rw [hsign]
          rfl
        · have hother : UInt8.ofNat c.toNat ≠ 0x2B := by
            intro h
            have hchar := ofNat_toNat_ascii hlt
            rw [h] at hchar
            exact hsign hchar.symm
          have hunplus : unplus (.char c) = .char c := by
            refine if_neg ?_
            rw [CodePoint.char.injEq]
            exact hsign
          rw [hunplus, utf8_ascii hlt]
          simp [hother]
  have hscalar : Text.IsScalar ((formText t).map unplus) := by
    intro q hq
    obtain ⟨p, hp, rfl⟩ := List.mem_map.mp hq
    obtain ⟨c, rfl, -⟩ := mem_formText hp
    unfold unplus
    split <;> rfl
  have hread := unescape_encodeBytes hpercent (formText t).utf8
  rw [hbytes _ fun p hp => mem_formText hp] at hread
  exact (congrArg lenientText hread).trans (lenientText_utf8 hscalar)

-- ================================================================ queries

/-- The query of a submission with these values. -/
def queryText (id pin : Text) : Text :=
  Text.join "&" ["uniqueid" ++ ("=" ++ id), "pin" ++ ("=" ++ pin)]

theorem queryText_eq (id pin : Text) : queryText id pin
    = Text.ofString "uniqueid=" ++ id ++ (Text.ofString "&pin=" ++ pin) := by
  have hid : Text.ofString "uniqueid="
      = Text.ofString "uniqueid" ++ Text.ofString "=" := by decide
  have hpin : Text.ofString "&pin="
      = Text.ofString "&" ++ (Text.ofString "pin" ++ Text.ofString "=") := by
    decide
  rw [hid, hpin]
  simp only [queryText, Text.join, List.append_assoc]

/-- The parameters of a submission are its query. -/
theorem encodeParameters_eq {id pin : Text} (hid : id.IsScalar)
    (hpin : pin.IsScalar) :
    encodeParameters [("uniqueid", .str id), ("pin", .str pin)]
      = .ok (queryText (formText id) (formText pin)) := by
  have hone (name : String) {t : Text} (ht : t.IsScalar) :
      encodeParameter name (.str t) = .ok [name ++ ("=" ++ formText t)] := by
    have htext : parameterTexts (.str t) = [t] := rfl
    rw [encodeParameter, htext, List.mapM_cons, encodeForm_eq ht]
    rfl
  simp only [encodeParameters, List.mapM_cons, List.mapM_nil, hone _ hid,
    hone _ hpin]
  rfl

/-- A query of two values is read as their names and what they decode to. -/
theorem decodeQuery_queryText {id pin : Text} (hid : .char '&' ∉ id)
    (hpin : .char '&' ∉ pin) :
    decodeQuery (queryText id pin)
      = [(Text.ofString "uniqueid", decodeForm id),
          (Text.ofString "pin", decodeForm pin)] := by
  have hpair (name : String) (value : Text)
      (hname : .char '=' ∉ Text.ofString name)
      (hplain : formText name = name) :
      decodePair (name ++ ("=" ++ value))
        = (Text.ofString name, decodeForm value) := by
    have hcut : Text.cut (.char '=') (name ++ ("=" ++ value))
        = (Text.ofString name, some value) := Text.cut_append hname value
    have hread := decodeForm_formText (Text.isScalar_ofString name)
    rw [hplain] at hread
    unfold decodePair
    rw [hcut]
    dsimp only
    rw [hread]
  have hpieces : Text.pieces (.char '&') (queryText id pin)
      = ["uniqueid" ++ ("=" ++ id), "pin" ++ ("=" ++ pin)] := by
    refine Text.pieces_join (List.cons_ne_nil _ _) ?_
    simp only [List.forall_mem_cons, List.not_mem_nil, false_implies,
      implies_true, and_true]
    constructor
    · intro h
      rcases List.mem_append.mp h with h | h
      · exact absurd h (by decide)
      · exact (List.mem_append.mp h).elim (fun h => absurd h (by decide)) hid
    · intro h
      rcases List.mem_append.mp h with h | h
      · exact absurd h (by decide)
      · exact (List.mem_append.mp h).elim (fun h => absurd h (by decide)) hpin
  rw [decodeQuery, hpieces]
  have hid' := hpair "uniqueid" id (by decide) (by decide)
  have hpin' := hpair "pin" pin (by decide) (by decide)
  rw [← hid', ← hpin']
  rfl

/-- The frame of a query is kept; the values are encoded each. -/
theorem encodeBytes_queryText {keep : Char → Bool}
    (hkeep : "uniqueid=&pin".toList.all keep = true) (id pin : Text) :
    encodeBytes keep (queryText id pin).utf8
      = queryText (encodeBytes keep id.utf8) (encodeBytes keep pin.utf8) := by
  have hframe (name : String) (hname : (name.toList.all fun c =>
      "uniqueid=&pin".toList.contains c && c.toNat < 128) = true) :
      encodeBytes keep (Text.ofString name).utf8 = name := by
    refine encodeBytes_of_kept fun p hp => ?_
    obtain ⟨c, hc, rfl⟩ := List.mem_map.mp hp
    obtain ⟨hmem, hlt⟩ :=
      Bool.and_eq_true_iff.mp (List.all_eq_true.mp hname c hc)
    have hkept := List.all_eq_true.mp hkeep c (List.contains_iff_mem.mp hmem)
    exact ⟨c, rfl, of_decide_eq_true hlt, hkept⟩
  rw [queryText_eq, queryText_eq, encodeBytes_append, encodeBytes_append,
    encodeBytes_append, hframe _ (by decide), hframe _ (by decide)]

end DevicePairing.Url
