/-
A line behind unfinished text.

When a line is put behind text that has no end of line, the two are read
as one. Unless that text is blank, what they make is never a document,
and it does not matter what the text is: the beginning of a value that
was cut off, a whole value, or no JSON at all.

The line begins with a brace, and where the reader meets that brace
decides. It takes no brace into a word, a number or an escape. If it
meets the brace where a value may stand, the line is that value and
nothing is left that could close what was open. If it meets it inside a
string, the string ends at the quote behind the brace, and the name that
follows there can go on neither a list nor an object nor a document.
-/
import Mathlib.Data.List.TakeWhile
import DevicePairing.Proofs.Json.Objects

namespace DevicePairing.Json

namespace Reader

/-- The brace that an object begins with. -/
abbrev brace : CodePoint := .char '\x7b'

-- ============================================================== takings

/-- Whether a text is left of another when a beginning without a brace is
taken away. -/
def Takes (t rest : Text) : Prop := ∃ w, t = w ++ rest ∧ brace ∉ w

namespace Takes

theorem refl (t : Text) : Takes t t := ⟨[], rfl, List.not_mem_nil⟩

theorem cons {p : CodePoint} (hp : p ≠ brace) (t : Text) : Takes (p :: t) t :=
  ⟨[p], rfl, fun h => hp (List.mem_singleton.mp h).symm⟩

/-- What is taken in two goes has no brace either. -/
theorem trans {s t u : Text} (hst : Takes s t) (htu : Takes t u) :
    Takes s u := by
  obtain ⟨w, rfl, hw⟩ := hst
  obtain ⟨w', rfl, hw'⟩ := htu
  exact ⟨w ++ w', (List.append_assoc w w' u).symm, List.not_mem_append hw hw'⟩

/-- Characters that are no braces may be taken as long as there are any. -/
theorem dropWhile {p : CodePoint → Bool} (hp : p brace = false) (t : Text) :
    Takes t (t.dropWhile p) := by
  refine ⟨t.takeWhile p, List.takeWhile_append_dropWhile.symm, ?_⟩
  intro h
  rw [List.mem_takeWhile_imp h] at hp
  cases hp

end Takes

/-- What follows a brace is still there when something was taken. -/
theorem suffix_of_takes {m t rest : Text} (hm : m.head? = some brace)
    (h : m <:+ t) (ht : Takes t rest) : m <:+ rest := by
  obtain ⟨w, rfl, hw⟩ := ht
  induction w with
  | nil => exact h
  | cons p w ih =>
      rcases List.suffix_cons_iff.mp h with rfl | h
      · cases hm
        exact absurd List.mem_cons_self hw
      · exact ih (fun hmem => hw (List.mem_cons_of_mem p hmem)) h

/-- Blanks take no brace. -/
theorem takes_skipGap (t : Text) : Takes t (skipGap t) := Takes.dropWhile rfl t

/-- The leading digits are dropped by dropping digits while there are any. -/
theorem drop_leadingDigits (t : Text) :
    t.drop (leadingDigits t).length = t.dropWhile CodePoint.isDigit := by
  have hsplit :
      t.takeWhile CodePoint.isDigit ++ t.dropWhile CodePoint.isDigit = t :=
    List.takeWhile_append_dropWhile
  rw [leadingDigits, List.length_map]
  conv => lhs; arg 2; rw [← hsplit]
  exact List.drop_left

/-- Digits take no brace. -/
theorem takes_leadingDigits (t : Text) :
    Takes t (t.drop (leadingDigits t).length) := by
  rw [drop_leadingDigits]
  exact Takes.dropWhile rfl t

/-- Nor does the whole part of a number. -/
theorem takes_wholeDigits (t : Text) :
    Takes t (t.drop (wholeDigits t).length) := by
  unfold wholeDigits
  split
  · exact Takes.cons (by decide) _
  · exact takes_leadingDigits t

/-- Nor its point and the digits behind it. -/
theorem takes_pointDigits (t : Text) :
    Takes t
      (if (pointDigits t).isEmpty then t
        else t.drop ((pointDigits t).length + 1)) := by
  have hcases : (∃ r, t = .char '.' :: r) ∨ pointDigits t = [] := by
    unfold pointDigits
    split
    · exact .inl ⟨_, rfl⟩
    · exact .inr rfl
  rcases hcases with ⟨r, rfl⟩ | hnone
  · split
    · exact Takes.refl _
    · exact (Takes.cons (by decide) r).trans (takes_leadingDigits r)
  · rw [hnone]
    exact Takes.refl t

theorem length_of_exponent {ds : List Char} {x e : Int} {n length : Nat}
    (h : (if ds.isEmpty then none else some (x, n)) = some (e, length)) :
    length = n := by
  split at h
  · cases h
  · cases h
    rfl

/-- Nor its exponent, with a sign or without. -/
theorem takes_leadingExponent {t : Text} {e : Int} {length : Nat}
    (h : leadingExponent? t = some (e, length)) : Takes t (t.drop length) := by
  unfold leadingExponent? at h
  split at h
  · rename_i c r
    split at h
    · rename_i hc
      have hc : CodePoint.char c ≠ brace := by
        rcases hc with rfl | rfl <;> decide
      have hsigned (p : CodePoint) (hp : p ≠ brace) (r : Text) :
          Takes (.char c :: p :: r) ((CodePoint.char c :: p :: r).drop
            (1 + 1 + (leadingDigits r).length)) := by
        rw [show 1 + 1 + (leadingDigits r).length
          = (leadingDigits r).length + 1 + 1 by omega]
        exact (Takes.cons hc _).trans
          ((Takes.cons hp r).trans (takes_leadingDigits r))
      dsimp only at h
      split at h
      · rw [length_of_exponent h]
        exact hsigned _ (by decide) _
      · rw [length_of_exponent h]
        exact hsigned _ (by decide) _
      · rw [length_of_exponent h]
        show Takes _ (List.drop (1 + 0 + (leadingDigits r).length) _)
        rw [show 1 + 0 + (leadingDigits r).length
          = (leadingDigits r).length + 1 by omega]
        exact (Takes.cons hc r).trans (takes_leadingDigits r)
    · cases h
  · cases h

/-- A number takes no brace. -/
theorem takes_unsigned {whole t rest : Text} {negative : Bool} {v : Json}
    (h : unsigned whole negative t = .ok (v, rest)) : Takes t rest := by
  have hwhole := takes_wholeDigits t
  have hpoint := takes_pointDigits (t.drop (wholeDigits t).length)
  simp only [unsigned] at h
  split at h
  · cases h
  · split at h
    · cases h
      exact hwhole.trans (hpoint.trans (takes_leadingExponent ‹_›))
    · split at h
      · cases h
        exact hwhole.trans hpoint
      · split at h
        · cases h
        · cases h
          exact hwhole.trans hpoint

/-- Neither does a word. -/
theorem takes_scalar {t rest : Text} {v : Json} (h : scalar t = .ok (v, rest)) :
    Takes t rest := by
  rcases scalar_cases t with ⟨word, v', r, hword, rfl, hread⟩ | hnumber
  · rw [hread] at h
    cases h
    have hall : ∀ w ∈ words, brace ∉ Text.ofString w.1 := by decide
    exact ⟨_, rfl, hall _ hword⟩
  · rw [hnumber] at h
    unfold number at h
    split at h
    · exact (Takes.cons (by decide) _).trans (takes_unsigned h)
    · exact takes_unsigned h

-- ============================================================== escapes

theorem not_brace_of_hexDigit {p : CodePoint} {d : Nat}
    (h : p.hexDigit? = some d) : p ≠ brace := by
  rintro rfl
  cases h

/-- The four digits of an escape are no braces. -/
theorem not_brace_of_unitValue {a b c d : CodePoint} {n : Nat}
    (h : unitValue? a b c d = some n) : brace ∉ [a, b, c, d] := by
  simp only [unitValue?, Option.bind_eq_bind, Option.bind_eq_some_iff] at h
  obtain ⟨_, ha, _, hb, _, hc, _, hd, -⟩ := h
  simp only [List.mem_cons, List.not_mem_nil, or_false, not_or]
  exact ⟨(not_brace_of_hexDigit ha).symm, (not_brace_of_hexDigit hb).symm,
    (not_brace_of_hexDigit hc).symm, (not_brace_of_hexDigit hd).symm⟩

/-- The second half of a pair is an escape of its own. -/
theorem secondHalf_eq_some {t : Text} {m : Nat}
    (h : secondHalf t = .ok (some m)) :
    ∃ a b c d r, t = .char '\\' :: .char 'u' :: a :: b :: c :: d :: r
      ∧ brace ∉ [a, b, c, d] := by
  unfold secondHalf at h
  split at h
  · split at h
    · cases h
    · exact ⟨_, _, _, _, _, rfl, not_brace_of_unitValue ‹_›⟩
  · cases h

theorem not_brace_of_letter {p c : CodePoint} (h : letterEscape? p = some c) :
    p ≠ brace := by
  rintro rfl
  cases h

/-- An escape takes no brace. -/
theorem takes_escaped {whole t : Text} {c : CodePoint} {length : Nat}
    (h : escaped whole t = .ok (c, length)) :
    ∃ w r, t = w ++ r ∧ w.length = length ∧ brace ∉ w := by
  unfold escaped at h
  split at h
  · split at h
    · rename_i a b c' d e r
      split at h
      · cases h
      · have hfirst := not_brace_of_unitValue ‹_›
        have hsingle : brace ∉ [.char 'u', a, b, c', d] := by
          rw [List.mem_cons, not_or]
          exact ⟨by decide, hfirst⟩
        split at h
        · split at h
          · cases h
          · obtain ⟨a', b', c'', d', r', hr, hsecond⟩ := secondHalf_eq_some ‹_›
            simp only [Except.ok.injEq, Prod.mk.injEq] at h
            rw [hr, ← h.2]
            refine ⟨[.char 'u', a, b, c', d]
              ++ ([.char '\\', .char 'u'] ++ [a', b', c'', d']), r', rfl, rfl,
              ?_⟩
            rw [List.mem_append, List.mem_append, not_or, not_or]
            exact ⟨hsingle, by decide, hsecond⟩
          · cases h
            exact ⟨[.char 'u', a, b, c', d], e :: r, rfl, rfl, hsingle⟩
        · cases h
          exact ⟨[.char 'u', a, b, c', d], e :: r, rfl, rfl, hsingle⟩
    · cases h
  · split at h
    · rename_i p r _ _ _ hletter
      cases h
      refine ⟨[p], r, rfl, rfl, ?_⟩
      intro hmem
      exact not_brace_of_letter hletter (List.mem_singleton.mp hmem).symm
    · cases h
  · cases h

-- ============================================================== barriers

/-- A line that nothing in front of it can take in: an object whose first
name begins with a letter, and behind which there are only blanks. -/
structure IsBarrier (m : Text) : Prop where
  begins : ∃ c r, m = brace :: .char '"' :: .char c :: r ∧ c.isAlpha = true
  ends : ∀ depth fuel v rest,
    value depth fuel m = .ok (v, rest) → skipGap rest = []

variable {m : Text}

theorem IsBarrier.head (hm : IsBarrier m) : m.head? = some brace := by
  obtain ⟨c, r, rfl, -⟩ := hm.begins
  rfl

/-- Where a string ends that takes in the beginning of a line, a letter
follows. -/
theorem IsBarrier.skipGap_drop (hm : IsBarrier m) :
    ∃ c r, skipGap (m.drop 2) = .char c :: r ∧ c.isAlpha = true := by
  obtain ⟨c, r, rfl, hc⟩ := hm.begins
  refine ⟨c, r, ?_, hc⟩
  apply List.dropWhile_cons_of_neg
  intro hp
  rcases (isGap_iff _).mp hp with h | h | h | h <;> (cases h; cases hc)

/-- What is no brace stands in front of the line, not at its beginning. -/
theorem IsBarrier.not_prefix (hm : IsBarrier m) {p : CodePoint} (hp : p ≠ brace)
    {t : Text} (h : m <:+ p :: t) : m <:+ t :=
  suffix_of_takes hm.head h (Takes.cons hp t)

/-- A string ends before the line, or at the first quote in it. -/
theorem IsBarrier.stringRest (hm : IsBarrier m) {opening : Text} {skip : Nat}
    {t s rest : Text} (h : m <:+ t) (hskip : skip + m.length ≤ t.length)
    (hread : stringRest opening skip t = .ok (s, rest)) :
    m <:+ rest ∨ rest = m.drop 2 := by
  induction t generalizing skip s with
  | nil => cases skip <;> cases hread
  | cons p t ih =>
      cases skip with
      | succ skip =>
          have h : m <:+ t := by
            rcases List.suffix_cons_iff.mp h with rfl | h
            · simp only [List.length_cons] at hskip
              omega
            · exact h
          exact ih h (by simp only [List.length_cons] at hskip; omega) hread
      | zero =>
          unfold Reader.stringRest at hread
          split at hread
          · subst p
            cases hread
            exact .inl (hm.not_prefix (by decide) h)
          split at hread
          · subst p
            have h : m <:+ t := hm.not_prefix (by decide) h
            split at hread
            · cases hread
            split at hread
            · cases hread
            rename_i c length hescaped
            obtain ⟨⟨s', rest'⟩, hread, heq⟩ := map_eq_ok.mp hread
            cases heq
            obtain ⟨w, r, rfl, rfl, hw⟩ := takes_escaped hescaped
            have hr : m <:+ r := suffix_of_takes hm.head h ⟨w, rfl, hw⟩
            have := hr.length_le
            exact ih h (by rw [List.length_append]; omega) hread
          split at hread
          · cases hread
          obtain ⟨⟨s', rest'⟩, hread, heq⟩ := map_eq_ok.mp hread
          cases heq
          rcases List.suffix_cons_iff.mp h with rfl | h
          · obtain ⟨c, r, heq, -⟩ := hm.begins
            cases heq
            cases hread
            exact .inr rfl
          · exact ih h (by simpa using h.length_le) hread

/-- Between blanks, the line is still there. -/
theorem IsBarrier.skipGap (hm : IsBarrier m) {t : Text} (h : m <:+ t) :
    m <:+ skipGap t :=
  suffix_of_takes hm.head h (takes_skipGap t)

/-- Where something ends that began before a line: before it, or at the
letter inside it. -/
def Halts (m rest : Text) : Prop := m <:+ rest ∨ rest = m.drop 2

/-- A mark goes on only before the line. -/
theorem IsBarrier.behind (hm : IsBarrier m) {rest r : Text} {c : Char}
    (h : Halts m rest ∨ Reader.skipGap rest = [])
    (hc : c.isAlpha = false ∧ .char c ≠ brace)
    (hr : Reader.skipGap rest = .char c :: r) : m <:+ r := by
  rcases h with (h | rfl) | h
  · have h := hm.skipGap h
    rw [hr] at h
    exact hm.not_prefix hc.2 h
  · obtain ⟨c', r', hdrop, hc'⟩ := hm.skipGap_drop
    rw [hr] at hdrop
    cases hdrop
    rw [hc'] at hc
    cases hc.1
  · rw [hr] at h
    cases h

/-- What is open when the line begins is never closed: a value that began
before the line ends before it or inside it, and items and fields are
read to their end only before it. -/
theorem IsBarrier.reads (hm : IsBarrier m) (fuel : Nat) :
    (∀ depth t v rest, m <:+ t → m ≠ t → value depth fuel t = .ok (v, rest)
        → Halts m rest)
      ∧ (∀ depth t vs rest, m <:+ t → items depth fuel t = .ok (vs, rest)
          → m <:+ rest)
      ∧ ∀ depth t fs rest, m <:+ t → fields depth fuel t = .ok (fs, rest)
        → m <:+ rest := by
  induction fuel with
  | zero =>
      exact ⟨fun _ _ _ _ _ _ h => (nomatch h), fun _ _ _ _ _ h => (nomatch h),
        fun _ _ _ _ _ h => (nomatch h)⟩
  | succ fuel ih =>
      obtain ⟨ihvalue, ihitems, ihfields⟩ := ih
      -- where the value is the line itself, there is nothing behind it
      have hvalue (depth : Nat) (t : Text) (v : Json) (rest : Text)
          (h : m <:+ t) (hread : value depth fuel t = .ok (v, rest)) :
          Halts m rest ∨ Reader.skipGap rest = [] := by
        by_cases heq : m = t
        · subst heq
          exact .inr (hm.ends _ _ _ _ hread)
        · exact .inl (ihvalue _ _ _ _ h heq hread)
      refine ⟨?_, ?_, ?_⟩
      · intro depth t v rest h hne hread
        rcases value_eq_ok.mp hread with ⟨r, s, rfl, hs, -⟩ | ⟨r, rfl, -, hlist⟩
          | ⟨r, rfl, -, hobject⟩ | ⟨-, hscalar⟩
        · have h : m <:+ r := hm.not_prefix (by decide) h
          exact hm.stringRest h (by simpa using h.length_le) hs
        · have h : m <:+ r := hm.not_prefix (by decide) h
          rcases hlist with ⟨hr, -⟩ | ⟨-, vs, hvs, -⟩
          · exact .inl (hm.behind (.inl (.inl h)) (by decide) hr)
          · exact .inl (ihitems _ _ _ _ (hm.skipGap h) hvs)
        · have h : m <:+ r := (List.suffix_cons_iff.mp h).resolve_left hne
          rcases hobject with ⟨hr, -⟩ | ⟨-, fs, hfs, -⟩
          · exact .inl (hm.behind (.inl (.inl h)) (by decide) hr)
          · exact .inl (ihfields _ _ _ _ (hm.skipGap h) hfs)
        · exact .inl (suffix_of_takes hm.head h (takes_scalar hscalar))
      · intro depth t vs rest h hread
        obtain ⟨v, r, hv, ⟨hr, -⟩ | ⟨r', vs', hr, hvs, -⟩⟩ :=
          items_eq_ok.mp hread
        · exact hm.behind (hvalue _ _ _ _ h hv) (by decide) hr
        · exact ihitems _ _ _ _
            (hm.skipGap (hm.behind (hvalue _ _ _ _ h hv) (by decide) hr)) hvs
      · intro depth t fs rest h hread
        obtain ⟨r₁, name, r₂, r₃, v, r₄, rfl, hname, hcolon, hv, hlast⟩ :=
          fields_eq_ok.mp hread
        have h₁ : m <:+ r₁ := hm.not_prefix (by decide) h
        have h₂ : Halts m r₂ :=
          hm.stringRest h₁ (by simpa using h₁.length_le) hname
        have h₃ : m <:+ r₃ := hm.behind (.inl h₂) (by decide) hcolon
        have h₄ := hvalue _ _ _ _ (hm.skipGap h₃) hv
        rcases hlast with ⟨hr, -⟩ | ⟨r₅, fs', hr, hfs, -⟩
        · exact hm.behind h₄ (by decide) hr
        · exact ihfields _ _ _ _ (hm.skipGap (hm.behind h₄ (by decide) hr)) hfs

end Reader

open Reader

-- ============================================================= documents

/-- A line behind text that is not blank is no document. -/
theorem read_unfinished {m : Text} (hm : IsBarrier m) {before : Text}
    (hbefore : before.all isGap = false) (depth : Nat) (v : Json) :
    read depth (before ++ m) ≠ .ok v := by
  intro hread
  obtain ⟨-, rest, hv, hrest⟩ := read_eq_ok.mp hread
  have hhead := hm.head
  have hsuffix : m <:+ skipGap (before ++ m) :=
    hm.skipGap (List.suffix_append before m)
  have hlonger : m ≠ skipGap (before ++ m) := by
    have hdrop : before.dropWhile isGap ≠ [] := by
      rw [Ne, List.dropWhile_eq_nil_iff, ← List.all_eq_true, hbefore]
      exact Bool.false_ne_true
    intro heq
    rw [skipGap, List.dropWhile_append, if_neg (by simpa using hdrop)] at heq
    have hlength := congrArg List.length heq
    rw [List.length_append] at hlength
    have := List.length_pos_of_ne_nil hdrop
    omega
  rcases (hm.reads _).1 _ _ _ _ hsuffix hlonger hv with h | rfl
  · have h := hm.skipGap h
    rw [hrest, List.suffix_nil] at h
    rw [h] at hhead
    cases hhead
  · obtain ⟨c, r, hdrop, -⟩ := hm.skipGap_drop
    rw [hrest] at hdrop
    cases hdrop

/-- The line of a flat object is a barrier. -/
theorem isBarrier_obj {fs : List (Text × Json)} {c : Char} {name : Text}
    {v : Json} (hc : c.isAlpha = true)
    (hflat : ∀ f ∈ (.char c :: name, v) :: fs, f.2.IsFlat)
    (hplain : escape (.char c) = [.char c])
    (hnames :
      (((.char c :: name, v) :: fs).map fun f => Text.joinPairs f.1).Nodup)
    {after : Text} (hafter : after.all isGap = true) :
    IsBarrier (write .line (.obj ((.char c :: name, v) :: fs)) ++ after) where
  begins := by
    obtain ⟨t, ht⟩ := fieldsText_first (.char c :: name, v) fs
    rw [List.flatMap_cons, hplain] at ht
    refine ⟨c, name.flatMap escape ++ t ++ .char '\x7d' :: after, ?_, hc⟩
    rw [write_obj_append, ht]
    rfl
  ends depth fuel v' rest h := by
    rw [rest_of_value_obj (List.cons_ne_nil _ _) hflat hnames h]
    exact List.dropWhile_eq_nil_iff.mpr (List.all_eq_true.mp hafter)

end DevicePairing.Json
