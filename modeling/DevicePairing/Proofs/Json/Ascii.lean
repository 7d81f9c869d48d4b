/-
Documents are written in printable ASCII.

Whatever a value holds, its text has no control characters and nothing
beyond ASCII. So a document never breaks a line, has a byte for every
character, and can be added to any text without changing how the rest is
read.
-/
import DevicePairing.Proofs.Json.Numbers
import DevicePairing.Proofs.Json.Strings

namespace DevicePairing

namespace Text

/-- Whether a text is made of printable ASCII. -/
def IsPrintableAscii (t : Text) : Prop := ∀ p ∈ t, 0x20 ≤ p.code ∧ p.code < 0x7F

theorem IsPrintableAscii.append {s t : Text} (hs : IsPrintableAscii s)
    (ht : IsPrintableAscii t) :
    IsPrintableAscii (s ++ t) :=
  List.forall_mem_append.mpr ⟨hs, ht⟩

/-- Printable ASCII has no surrogates in it. -/
theorem IsPrintableAscii.isScalar {t : Text} (ht : IsPrintableAscii t) :
    t.IsScalar := by
  intro p hp
  obtain ⟨-, hhigh⟩ := ht p hp
  apply Bool.eq_false_iff.mpr
  intro hs
  have hrange := (CodePoint.isSurrogate_iff p).mp hs
  omega

instance (t : Text) : Decidable (IsPrintableAscii t) :=
  inferInstanceAs (Decidable (∀ p ∈ t, 0x20 ≤ p.code ∧ p.code < 0x7F))

end Text

namespace Json

-- ============================================================== strings

theorem isPrintableAscii_hexChar (n : Nat) :
    0x20 ≤ (CodePoint.char (hexChar (n % 16))).code
      ∧ (CodePoint.char (hexChar (n % 16))).code < 0x7F := by
  have hall : ∀ d < 16, 0x20 ≤ (CodePoint.char (hexChar d)).code
      ∧ (CodePoint.char (hexChar d)).code < 0x7F := by decide
  exact hall _ (Nat.mod_lt n (by omega))

/-- The escape of a code unit is printable ASCII, whatever the unit. -/
theorem isPrintableAscii_unitEscape (n : Nat) :
    Text.IsPrintableAscii (unitEscape n) := by
  rw [unitEscape_eq]
  intro p hp
  simp only [List.mem_cons, List.not_mem_nil, or_false] at hp
  rcases hp with rfl | rfl | rfl | rfl | rfl | rfl
  · decide
  · decide
  all_goals exact isPrintableAscii_hexChar _

/-- An escape is printable ASCII. -/
theorem isPrintableAscii_escape (p : CodePoint) :
    Text.IsPrintableAscii (escape p) := by
  have hform := escape_form p
  generalize escape p = t at hform
  cases hform with
  | letter l _ hplain =>
      obtain ⟨-, -, hl⟩ := hplain
      intro q hq
      simp only [List.mem_cons, List.not_mem_nil, or_false] at hq
      rcases hq with rfl | rfl
      · decide
      · exact hl
  | itself _ _ hp => exact fun q hq => List.mem_singleton.mp hq ▸ hp
  | unit _ => exact isPrintableAscii_unitEscape _
  | pair _ =>
      have hunit := isPrintableAscii_unitEscape
      exact (hunit _).append (hunit _)

/-- A string is printable ASCII between its quotes. -/
theorem isPrintableAscii_stringText (t : Text) :
    Text.IsPrintableAscii (stringText t) := by
  have hquote : Text.IsPrintableAscii (Text.ofString "\"") := by decide
  refine (hquote.append ?_).append hquote
  intro p hp
  obtain ⟨q, -, hp⟩ := List.mem_flatMap.mp hp
  exact isPrintableAscii_escape q p hp

-- ============================================================== numbers

/-- So is every digit. -/
theorem isPrintableAscii_digits {cs : List Char} (hcs : Numeral.AreDigits cs) :
    Text.IsPrintableAscii (cs.map .char) := by
  intro p hp
  obtain ⟨c, hc, rfl⟩ := List.mem_map.mp hp
  have hdigit := hcs c hc
  simp only [Char.isDigit, Bool.and_eq_true, decide_eq_true_eq,
    UInt32.le_iff_toNat_le]
    at hdigit
  have hlow : 0x30 ≤ c.toNat := hdigit.1
  have hhigh : c.toNat ≤ 0x39 := hdigit.2
  simp only [CodePoint.code]
  omega

theorem isPrintableAscii_ofInt (n : Int) :
    Text.IsPrintableAscii (Text.ofInt n) := by
  rw [Text.ofInt_eq]
  refine Text.IsPrintableAscii.append ?_
    (isPrintableAscii_digits (Numeral.areDigits_toDigits _))
  split <;> decide

/-- A fraction is made of digits, a point and an exponent with its sign. -/
theorem isPrintableAscii_fraction {cs : List Char}
    (hcs : Decimal.IsFraction cs) :
    Text.IsPrintableAscii (cs.map .char) := by
  obtain ⟨whole, part, exponent, rfl, hwhole, hpart, hexp, -⟩ := hcs
  have hdigits : Numeral.AreDigits whole := by
    rcases hwhole with rfl | ⟨-, -, h⟩
    · exact Numeral.areDigits_zeros 1
    · exact h
  rw [List.map_append, List.map_append]
  refine ((isPrintableAscii_digits hdigits).append ?_).append ?_
  · unfold Decimal.pointed
    split
    · exact fun p hp => absurd hp List.not_mem_nil
    · exact Text.IsPrintableAscii.append (s := [.char '.']) (by decide)
        (isPrintableAscii_digits hpart)
  · rcases hexp with rfl | ⟨sign, ds, rfl, rfl | rfl, -, hds⟩
    · exact fun p hp => absurd hp List.not_mem_nil
    · exact Text.IsPrintableAscii.append (s := [.char 'e', .char '+'])
        (by decide)
        (isPrintableAscii_digits hds)
    · exact Text.IsPrintableAscii.append (s := [.char 'e', .char '-'])
        (by decide)
        (isPrintableAscii_digits hds)

/-- A float is a fraction with a sign, or it is one of three words. -/
theorem isPrintableAscii_numberText (x : Binary64) :
    Text.IsPrintableAscii (numberText x) := by
  cases x with
  | nan => decide
  | infinite s => cases s <;> decide
  | finite s m e =>
      refine Text.IsPrintableAscii.append ?_
        (isPrintableAscii_fraction (Decimal.isFraction_chars _))
      cases s <;> decide

-- ============================================================= documents

/-- What is joined is printable ASCII if all its parts are. -/
theorem isPrintableAscii_join {sep : Text} (hsep : Text.IsPrintableAscii sep)
    {ts : List Text} (hts : ∀ t ∈ ts, Text.IsPrintableAscii t) :
    Text.IsPrintableAscii (Text.join sep ts) := by
  induction ts with
  | nil => exact fun p hp => absurd hp List.not_mem_nil
  | cons t ts ih =>
      obtain ⟨ht, hts⟩ := List.forall_mem_cons.mp hts
      have ih := ih hts
      cases ts with
      | nil => exact ht
      | cons u ts => exact (ht.append hsep).append ih

/-- Whether what a layout puts between values is printable ASCII. -/
structure Layout.IsPrintableAscii (l : Layout) : Prop where
  comma : Text.IsPrintableAscii l.comma
  colon : Text.IsPrintableAscii l.colon

/-- The commas and colons of a line are printable ASCII. -/
theorem isPrintableAscii_line :
    Layout.line.IsPrintableAscii := ⟨by decide, by decide⟩

mutual

/-- A document is printable ASCII. -/
theorem isPrintableAscii_write {l : Layout} (hl : l.IsPrintableAscii)
    (v : Json) :
    Text.IsPrintableAscii (write l v) := by
  match v with
  | .null => rw [write]; decide
  | .bool b => rw [write]; cases b <;> decide
  | .int n =>
      unfold write
      exact isPrintableAscii_ofInt n
  | .float x =>
      unfold write
      exact isPrintableAscii_numberText x
  | .str t =>
      unfold write
      exact isPrintableAscii_stringText t
  | .arr items =>
      unfold write
      have hopen : Text.IsPrintableAscii (Text.ofString "[") := by decide
      have hclose : Text.IsPrintableAscii (Text.ofString "]") := by decide
      have hitems :=
        isPrintableAscii_join hl.comma (isPrintableAscii_items hl items)
      exact (hopen.append hitems).append hclose
  | .obj fields =>
      unfold write
      have hopen : Text.IsPrintableAscii (Text.ofString "\x7b") := by decide
      have hclose : Text.IsPrintableAscii (Text.ofString "\x7d") := by decide
      refine (hopen.append (isPrintableAscii_join hl.comma ?_)).append hclose
      intro t ht
      obtain ⟨f, hf, rfl⟩ := List.mem_map.mp ht
      refine isPrintableAscii_fields hl fields f ?_
      split at hf
      · exact List.mem_mergeSort.mp hf
      · exact hf

/-- So are the items of a list. -/
theorem isPrintableAscii_items {l : Layout} (hl : l.IsPrintableAscii)
    (vs : List Json) :
    ∀ t ∈ writeItems l vs, Text.IsPrintableAscii t := by
  match vs with
  | [] => exact fun t ht => absurd ht List.not_mem_nil
  | v :: vs =>
      intro t ht
      rcases List.mem_cons.mp ht with rfl | ht
      · exact isPrintableAscii_write hl v
      · exact isPrintableAscii_items hl vs t ht

/-- And the fields of an object. -/
theorem isPrintableAscii_fields {l : Layout} (hl : l.IsPrintableAscii)
    (fs : List (Text × Json)) :
    ∀ f ∈ writeFields l fs, Text.IsPrintableAscii f.2 := by
  match fs with
  | [] => exact fun f hf => absurd hf List.not_mem_nil
  | (name, v) :: fs =>
      intro f hf
      rcases List.mem_cons.mp hf with rfl | hf
      · exact ((isPrintableAscii_stringText name).append hl.colon).append
          (isPrintableAscii_write hl v)
      · exact isPrintableAscii_fields hl fs f hf

end

end Json

end DevicePairing
