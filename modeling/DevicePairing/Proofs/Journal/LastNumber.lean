/-
The number that a journal goes on from.

When a journal is opened its text is read for the greatest number in use.
The text may be anything: what other programs wrote, what a run that was
cut short left behind. So most of what reading has to do is to pass over
what is no record, and the question is whether it passes over all of it.

It does, with one exception, and that one is exact: a record whose number
is infinite stops the reading, since it is read as a number and then has
no whole part. Every other line either has a number or counts for
nothing (`lineId_cases`). What reading comes to is then a matter of which
lines there are: it is a greatest element, so neither their order nor how
the text was put together plays a part (`readText_congr`).
-/
import Mathlib.Order.Bounds.Basic
import DevicePairing.Proofs.Journal.Session

namespace DevicePairing

-- ============================================================ vocabulary

/-- The whole number that a value denotes. Null, lists, objects, the
fractions that are no numbers and texts that are no numerals denote none. -/
inductive Json.Denotes : Json → Int → Prop
  | int (n : Int) : Denotes (.int n) n
  | bool (b : Bool) : Denotes (.bool b) (if b then 1 else 0)
  | float {x : Binary64} {n : Int} (h : x.truncate? = some n) :
    Denotes (.float x) n
  | str {t : Text} {n : Int} (h : Numeral.integer t = .ok n) :
      Denotes (.str t) n

namespace Journal

/-- Whether a line is an object with this under the name `id`. -/
def HasId (line : Text) (id : Json) : Prop :=
  ∃ fields, Json.read lineDepth line = .ok (.obj fields)
    ∧ Json.lookup "id" fields = some id

/-- Whether a line is a record with this number. -/
def Numbers (line : Text) (n : Int) : Prop := ∃ id, HasId line id ∧ id.Denotes n

/-- Whether a line is a record whose number is infinite. -/
def IsInfinite (line : Text) : Prop :=
  ∃ negative, HasId line (.float (.infinite negative))

/-- Whether a line is nested too deep to be read. -/
def isTooDeep (line : Text) : Bool :=
  match Json.read lineDepth line with
  | .error (.tooDeep _) => true
  | _ => false

/-- Whether the number that is taken from a line, if there is one, goes no
further than this. -/
def IsWithin (n : Int) (line : Text) : Prop :=
  ∀ id, idOf? line = some id → id ≤ n

/-- The fault of an infinite number. -/
def infiniteNumber : Fault :=
  ⟨.overflow, "cannot convert float infinity to integer"⟩

end Journal

-- ================================================================ values

theorem Json.Denotes.toInteger_eq {v : Json} {n : Int} (h : v.Denotes n) :
    Journal.toInteger v = .ok n := by
  cases h with
  | int n => rfl
  | bool b => rfl
  | float h =>
      rename_i x
      cases x with
      | nan => cases h
      | infinite negative => cases h
      | finite negative m e => simp only [Journal.toInteger, h]
  | str h => simp only [Journal.toInteger, h]

namespace Journal

/-- A value denotes a number, or is infinite, or its fault is one to pass
over. -/
theorem toInteger_cases (v : Json) :
    (∃ n, toInteger v = .ok n ∧ v.Denotes n)
      ∨ (∃ negative, v = .float (.infinite negative)
        ∧ toInteger v = .error infiniteNumber)
      ∨ ∃ f, toInteger v = .error f ∧ isPassedOver f = true := by
  cases v with
  | int n => exact .inl ⟨n, rfl, .int n⟩
  | bool b => exact .inl ⟨_, rfl, .bool b⟩
  | float x =>
      cases x with
      | nan => exact .inr (.inr ⟨_, rfl, rfl⟩)
      | infinite negative => exact .inr (.inl ⟨negative, rfl, rfl⟩)
      | finite negative m e =>
          obtain ⟨n, hn⟩ :
              ∃ n, (Binary64.finite negative m e).truncate? = some n :=
            ⟨_, rfl⟩
          exact .inl ⟨n, by simp only [toInteger, hn], .float hn⟩
  | str t =>
      cases ht : Numeral.integer t with
      | ok n => exact .inl ⟨n, by simp only [toInteger, ht], .str ht⟩
      | error f =>
          exact .inr (.inr ⟨f.fault, by simp only [toInteger, ht], rfl⟩)
  | null => exact .inr (.inr ⟨_, rfl, rfl⟩)
  | arr items => exact .inr (.inr ⟨_, rfl, rfl⟩)
  | obj fields => exact .inr (.inr ⟨_, rfl, rfl⟩)

-- ================================================================= lines

variable {line : Text}

/-- The number of an object is what its `id` denotes. -/
theorem HasId.lineId_eq {id : Json} (h : HasId line id) :
    lineId line = toInteger id := by
  obtain ⟨fields, hread, hid⟩ := h
  unfold lineId
  rw [hread]
  show idField (.obj fields) >>= toInteger = _
  rw [idField, hid]
  rfl

/-- What is no object with an `id` has a fault to pass over. -/
theorem lineId_of_not_hasId (hdeep : isTooDeep line = false)
    (h : ∀ id, ¬HasId line id) :
    ∃ f, lineId line = .error f ∧ isPassedOver f = true := by
  unfold isTooDeep at hdeep
  unfold lineId
  cases hread : Json.read lineDepth line with
  | error f =>
      rw [hread] at hdeep
      cases f with
      | tooDeep inList => cases hdeep
      | malformed kind rest => exact ⟨_, rfl, rfl⟩
      | integerTooLong digits => exact ⟨_, rfl, rfl⟩
  | ok v =>
      cases v with
      | obj fields =>
          cases hid : Json.lookup "id" fields with
          | some id => exact absurd ⟨fields, hread, hid⟩ (h id)
          | none =>
              refine ⟨⟨.key, "'id'"⟩, ?_, rfl⟩
              show idField (.obj fields) >>= toInteger = _
              rw [idField, hid]
              rfl
      | _ => exact ⟨_, rfl, rfl⟩

/-- A line that can be read has a number, or is infinite, or its fault is one
to pass over. -/
theorem lineId_cases (hdeep : isTooDeep line = false) :
    (∃ n, lineId line = .ok n ∧ Numbers line n)
      ∨ (lineId line = .error infiniteNumber ∧ IsInfinite line)
      ∨ ∃ f, lineId line = .error f ∧ isPassedOver f = true := by
  by_cases h : ∃ id, HasId line id
  · obtain ⟨id, hid⟩ := h
    rw [hid.lineId_eq]
    obtain ⟨n, hn, hdenotes⟩ | ⟨negative, rfl, hf⟩ | hpass := toInteger_cases id
    · exact .inl ⟨n, hn, id, hid, hdenotes⟩
    · exact .inr (.inl ⟨hf, negative, hid⟩)
    · exact .inr (.inr hpass)
  · rw [not_exists] at h
    exact .inr (.inr (lineId_of_not_hasId hdeep h))

/-- An object is not blank. -/
theorem HasId.isBlank_eq_false {id : Json} (h : HasId line id) :
    line.isBlank = false := by
  obtain ⟨fields, hread, -⟩ := h
  rw [← Bool.not_eq_true]
  intro hblank
  cases List.all_eq_true.mp hblank _ (Json.brace_mem_of_read hread)

/-- The number that reading takes from a line is the one it has. -/
theorem idOf?_eq_some_iff (hdeep : isTooDeep line = false) {n : Int} :
    idOf? line = some n ↔ Numbers line n := by
  rw [idOf?_eq_some]
  constructor
  · rintro ⟨-, hid⟩
    obtain ⟨n', hn', hnumbers⟩ | ⟨hf, -⟩ | ⟨f, hf, -⟩ := lineId_cases hdeep
    · rw [hid] at hn'
      cases hn'
      exact hnumbers
    · rw [hid] at hf
      cases hf
    · rw [hid] at hf
      cases hf
  · rintro ⟨id, hid, hdenotes⟩
    exact ⟨hid.isBlank_eq_false, hid.lineId_eq.trans hdenotes.toInteger_eq⟩

/-- Reading stops at an infinite number, and nowhere else. -/
theorem goesOn_iff (hdeep : isTooDeep line = false) :
    GoesOn line ↔ ¬IsInfinite line := by
  constructor
  · rintro (hblank | hpass) ⟨negative, hid⟩
    · rw [hid.isBlank_eq_false] at hblank
      cases hblank
    · cases hpass infiniteNumber hid.lineId_eq
  · intro hfinite
    right
    intro f hf
    obtain ⟨n, hn, -⟩ | ⟨-, hinfinite⟩ | ⟨f', hf', hpass⟩ := lineId_cases hdeep
    · rw [hf] at hn
      cases hn
    · exact absurd hinfinite hfinite
    · rw [hf] at hf'
      cases hf'
      exact hpass

-- ================================================================= texts

/-- What reading the lines in a directory comes to when they are this text. -/
def readText (directory t : Text) : Scan :=
  scanBytes (linesPath directory) t.utf8

variable (directory : Text) {t : Text}

theorem readText_eq (ht : t.IsScalar) :
    readText directory t = scanLines (linesPath directory) 0 t.lines := by
  have hpos : 0 < blockSize := by decide
  rw [readText, scanBytes, decodeBlocks_blocksOf hpos ht]

theorem readText_fault_eq_none (ht : t.IsScalar) :
    (readText directory t).fault = none ↔ ∀ line ∈ t.lines, GoesOn line := by
  rw [readText_eq directory ht, fault_eq_none_iff]

theorem readText_last_le (ht : t.IsScalar)
    (h : (readText directory t).fault = none) (n : Int) :
    (readText directory t).last ≤ n
      ↔ 0 ≤ n ∧ ∀ line ∈ t.lines, IsWithin n line := by
  rw [readText_eq directory ht] at h ⊢
  exact last_le_iff _ h n

/-- An empty line has no number, and reading goes on behind it. -/
theorem isWithin_feed (n : Int) : IsWithin n [.char '\n'] :=
  fun _ h => nomatch h

theorem goesOn_feed : GoesOn [.char '\n'] := .inl rfl

theorem isTooDeep_feed : isTooDeep [.char '\n'] = false := rfl

/-- What stops the reading is an infinite number. -/
theorem readText_fault_eq_some (ht : t.IsScalar)
    (hdeep : ∀ line ∈ t.lines, isTooDeep line = false) {f : Fault}
    (h : (readText directory t).fault = some f) : f = infiniteNumber := by
  rw [readText_eq directory ht] at h
  obtain ⟨line, hline, hf, hpass⟩ := exists_of_fault _ h
  obtain ⟨n, hn, -⟩ | ⟨hf', -⟩ | ⟨f', hf', hpass'⟩ :=
    lineId_cases (hdeep line hline)
  · rw [hf] at hn
    cases hn
  · rw [hf] at hf'
    cases hf'
    rfl
  · rw [hf] at hf'
    cases hf'
    rw [hpass] at hpass'
    cases hpass'

theorem readText_stops_iff (ht : t.IsScalar)
    (hdeep : ∀ line ∈ t.lines, isTooDeep line = false) :
    (readText directory t).fault ≠ none
      ↔ ∃ line ∈ t.lines, IsInfinite line := by
  rw [Ne, readText_fault_eq_none directory ht]
  push Not
  apply exists_congr
  intro line
  apply and_congr_right
  intro hline
  rw [goesOn_iff (hdeep line hline), not_not]

/-- What reading comes to is the greatest of zero and the numbers that the
lines have. -/
theorem readText_isGreatest (ht : t.IsScalar)
    (hdeep : ∀ line ∈ t.lines, isTooDeep line = false)
    (h : (readText directory t).fault = none) :
    IsGreatest {n | n = 0 ∨ ∃ line ∈ t.lines, Numbers line n}
      (readText directory t).last := by
  have hle := readText_last_le directory ht h
  obtain ⟨hzero, hids⟩ := (hle _).mp (Int.le_refl _)
  constructor
  · -- otherwise one less would still be a bound
    by_contra hnot
    obtain ⟨hne, hnone⟩ := not_or.mp hnot
    have hless : (readText directory t).last
        ≤ (readText directory t).last - 1 := by
      apply (hle _).mpr
      refine ⟨by omega, ?_⟩
      intro line hline id hid
      have hidle := hids line hline id hid
      have hidne : id ≠ (readText directory t).last := by
        rintro rfl
        exact hnone ⟨line, hline, (idOf?_eq_some_iff (hdeep line hline)).mp hid⟩
      omega
    omega
  · rintro n (rfl | ⟨line, hline, hnumbers⟩)
    · exact hzero
    · exact hids line hline n
        ((idOf?_eq_some_iff (hdeep line hline)).mpr hnumbers)

-- ======================================================= texts in pieces

/-- Behind text that has its ends, reading comes to the greater of both
numbers. -/
theorem readText_append {a b : Text} (ht : (a ++ b).IsScalar) (ha : a.IsEnded)
    (hfirst : (readText directory a).fault = none)
    (hsecond : (readText directory b).fault = none) :
    (readText directory (a ++ b)).fault = none
      ∧ (readText directory (a ++ b)).last
        = max (readText directory a).last (readText directory b).last := by
  obtain ⟨hta, htb⟩ := List.forall_mem_append.mp ht
  have hfault : (readText directory (a ++ b)).fault = none := by
    rw [readText_fault_eq_none directory ht,
      Text.forall_lines_append goesOn_feed ha]
    exact ⟨(readText_fault_eq_none directory hta).mp hfirst,
      (readText_fault_eq_none directory htb).mp hsecond⟩
  refine ⟨hfault, ?_⟩
  apply eq_of_forall_ge_iff
  intro n
  rw [Int.max_le, readText_last_le directory ht hfault,
    readText_last_le directory hta hfirst,
    readText_last_le directory htb hsecond,
    Text.forall_lines_append (isWithin_feed n) ha, and_and_left]

/-- Texts whose lines are told apart by empty lines alone come to the same. -/
theorem readText_congr {t' : Text} (ht : t.IsScalar) (ht' : t'.IsScalar)
    (hdeep : ∀ line ∈ t.lines, isTooDeep line = false)
    (hlines : ∀ P : Text → Prop, P [.char '\n'] →
      ((∀ line ∈ t.lines, P line) ↔ ∀ line ∈ t'.lines, P line)) :
    (readText directory t').fault = (readText directory t).fault
      ∧ ((readText directory t).fault = none →
        (readText directory t').last = (readText directory t).last) := by
  have hdeep' : ∀ line ∈ t'.lines, isTooDeep line = false :=
    (hlines _ isTooDeep_feed).mp hdeep
  have hnone : (readText directory t').fault = none
      ↔ (readText directory t).fault = none := by
    rw [readText_fault_eq_none directory ht',
      readText_fault_eq_none directory ht,
      hlines _ goesOn_feed]
  constructor
  · cases hf : (readText directory t).fault with
    | none => rw [hnone, hf]
    | some f =>
        have hne : (readText directory t').fault ≠ none := by
          rw [Ne, hnone, hf]
          exact Option.some_ne_none f
        obtain ⟨f', hf'⟩ := Option.ne_none_iff_exists'.mp hne
        rw [hf', readText_fault_eq_some directory ht hdeep hf,
          readText_fault_eq_some directory ht' hdeep' hf']
  · intro h
    apply eq_of_forall_ge_iff
    intro n
    rw [readText_last_le directory ht h,
      readText_last_le directory ht' (hnone.mpr h), hlines _ (isWithin_feed n)]

-- =============================================================== journals

/-- Reading the lines in a directory stops exactly at a record whose number
is infinite. Otherwise it comes to the greatest of zero and the numbers of
all records, and a journal that is opened there goes on from it. The text
may be taken apart, or its pieces put in another order, wherever a line
has its end. -/
theorem last_number_of_text (directory t : Text) (hscalar : t.IsScalar)
    (hdeep : ∀ line ∈ t.lines, isTooDeep line = false) :
    (∀ s : Store, s.Holds (linesPath directory) t →
      s.isDirectory (Path.place (linesPath directory)) = false →
        scan s (linesPath directory) = readText directory t)
      ∧ (∀ (s s' : Store) (time : Json) (w : Writer) (log : List Text),
        s.Holds (linesPath directory) t →
        openAt s directory time = (⟨.ok w, log⟩, s') →
          (readText directory t).fault = none
            ∧ w.nextId = (readText directory t).last + 1)
      ∧ ((readText directory t).fault ≠ none
          ↔ ∃ line ∈ t.lines, IsInfinite line)
      ∧ (∀ f, (readText directory t).fault = some f → f = infiniteNumber)
      ∧ ((readText directory t).fault = none →
        IsGreatest {n | n = 0 ∨ ∃ line ∈ t.lines, Numbers line n}
          (readText directory t).last)
      ∧ (∀ a b : Text, t = a ++ b → a.IsEnded →
        (readText directory a).fault = none →
        (readText directory b).fault = none →
          (readText directory t).fault = none
            ∧ (readText directory t).last
              = max (readText directory a).last (readText directory b).last)
      ∧ ∀ (ts ts' : List Text) (rest : Text), t = ts.flatten ++ rest →
        (∀ piece ∈ ts, piece.IsEnded) → ts.Perm ts' →
          (readText directory (ts'.flatten ++ rest)).fault
              = (readText directory t).fault
            ∧ ((readText directory t).fault = none →
              (readText directory (ts'.flatten ++ rest)).last
                = (readText directory t).last) := by
  refine ⟨?_, ?_, readText_stops_iff directory hscalar hdeep,
    fun _ => readText_fault_eq_some directory hscalar hdeep,
    readText_isGreatest directory hscalar hdeep, ?_, ?_⟩
  · intro s hold hfree
    rw [scan_of_holds hscalar hold hfree, readText_eq directory hscalar]
  · intro s s' time w log hold hopen
    obtain ⟨hfault, hnext, -⟩ := openAt_ready hopen hold hscalar
    rw [readText_eq directory hscalar]
    exact ⟨hfault, hnext⟩
  · rintro a b rfl ha
    exact readText_append directory hscalar ha
  · rintro ts ts' rest rfl hts hperm
    apply readText_congr directory hscalar
    · intro p hp
      exact hscalar p (((hperm.flatten).append_right rest).mem_iff.mpr hp)
    · exact hdeep
    · intro P hfeed
      exact Text.forall_lines_perm hfeed hts hperm rest

/-- Lines of which some have numbers and others none. -/
def mixedLines : Text :=
  Text.ofString "\x7b\"id\": 5.9\x7d\n\nxyz\n[3]\n\x7b\"id\": \" 1_2 \"\x7d\r\x7b\"id\": NaN\x7d"

theorem last_number_of_mixed_lines :
    (mixedLines.IsScalar ∧ ∀ line ∈ mixedLines.lines, isTooDeep line = false)
      ∧ (∀ line ∈ mixedLines.lines, ¬IsInfinite line)
      ∧ IsGreatest
          {n | n = 0 ∨ ∃ line ∈ mixedLines.lines, Numbers line n} 12 := by
  have hscalar : mixedLines.IsScalar := Text.isScalar_ofString _
  have hdeep : ∀ line ∈ mixedLines.lines, isTooDeep line = false := by
    decide +kernel
  have hread : (readText [] mixedLines).fault = none
      ∧ (readText [] mixedLines).last = 12 := by decide +kernel
  obtain ⟨-, -, hstops, -, hgreatest, -⟩ :=
    last_number_of_text [] mixedLines hscalar hdeep
  refine ⟨⟨hscalar, hdeep⟩, ?_, ?_⟩
  · intro line hline hinfinite
    exact hstops.mpr ⟨line, hline, hinfinite⟩ hread.1
  · rw [← hread.2]
    exact hgreatest hread.1

end Journal

end DevicePairing
