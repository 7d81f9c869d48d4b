/-
What a cell takes from a text.

Only the ten digits of ASCII count; a digit of another script is a code
point like any other. A cell takes the first of them and leaves the rest.
That is the same as dropping everything else from the text and cutting
what is left to one (`firstDigit_eq_take`).
-/
import DevicePairing.Pad.Cell

namespace DevicePairing

-- =============================================================== digits

/-- A code point is a digit only if it is the character of one. -/
theorem CodePoint.exists_digit {p : CodePoint} (h : p.isDigit = true) :
    ∃ d : Digit, p = .char d.char := by
  cases p with
  | surrogate n => cases h
  | char c =>
      have hrange : 48 ≤ c.toNat ∧ c.toNat ≤ 57 := by
        simp only [isDigit, Char.isDigit, Bool.and_eq_true, decide_eq_true_eq]
          at h
        exact ⟨h.1, h.2⟩
      refine ⟨⟨c.toNat - 48, by omega⟩, ?_⟩
      rw [Digit.char, Nat.add_sub_cancel' hrange.1, Char.ofNat_toNat]

namespace Digit

theorem isDigit_char : ∀ d : Digit, (CodePoint.char d.char).isDigit = true := by
  decide

/-- The character of a digit is read as that digit. -/
theorem ofCodePoint?_char :
    ∀ d : Digit, ofCodePoint? (.char d.char) = some d := by
  decide

/-- No other character is read as one. -/
theorem ofCodePoint?_eq_none {p : CodePoint} (h : p.isDigit = false) :
    ofCodePoint? p = none := by
  cases p with
  | surrogate n => rfl
  | char c =>
      have hc : c.isDigit = false := h
      rw [ofCodePoint?, hc, if_neg Bool.false_ne_true]

end Digit

-- ================================================================ texts

namespace Text

/-- The first digit of a text, or nothing if it has none. -/
def firstDigit (t : Text) : Text := (t.find? CodePoint.isDigit).toList

/-- It is what remains if everything but digits is dropped and the rest is
cut to one. -/
theorem firstDigit_eq_take (t : Text) :
    t.firstDigit = (t.filter CodePoint.isDigit).take 1 := by
  rw [firstDigit, ← List.head?_filter, List.take_one]

end Text

namespace Cell

/-- A cell shows the first digit of the text that it took. -/
theorem text_ofText (t : Text) : (ofText t).text = t.firstDigit := by
  induction t with
  | nil => rfl
  | cons p t ih =>
      cases hp : p.isDigit with
      | true =>
          obtain ⟨d, rfl⟩ := CodePoint.exists_digit hp
          rw [ofText, List.findSome?_cons, Digit.ofCodePoint?_char,
            Text.firstDigit, List.find?_cons_of_pos hp]
          rfl
      | false =>
          have hcell : ofText (p :: t) = ofText t := by
            rw [ofText, List.findSome?_cons, Digit.ofCodePoint?_eq_none hp]
            rfl
          rw [hcell, ih, Text.firstDigit, Text.firstDigit,
            List.find?_cons_of_neg (by simp [hp])]

/-- A text fills a cell if it holds a digit. -/
theorem isSome_ofText (t : Text) :
    (ofText t).isSome = t.any CodePoint.isDigit := by
  have hdigit : (fun p => (Digit.ofCodePoint? p).isSome)
      = CodePoint.isDigit := by
    funext p
    cases p with
    | surrogate n => rfl
    | char c =>
        simp only [Digit.ofCodePoint?, CodePoint.isDigit]
        cases c.isDigit <;> rfl
  rw [ofText, List.isSome_findSome?, hdigit]

theorem ofInput_str (t : Text) : ofInput (.str t) = .ok (ofText t) := by
  cases t <;> rfl

/-- An input as a text: a value that counts as nothing is an empty one. -/
def inputText : Json → Text
  | .str t => t
  | _ => []

/-- Whatever is accepted as an input is taken as a text. -/
theorem eq_ofText_of_ofInput {raw : Json} {c : Cell} (h : ofInput raw = .ok c) :
    c = ofText (inputText raw) := by
  cases raw with
  | str t =>
      rw [ofInput_str] at h
      exact (Except.ok.inj h).symm
  | _ =>
      unfold ofInput at h
      split at h
      · exact (Except.ok.inj h).symm
      · cases h

end Cell

end DevicePairing
