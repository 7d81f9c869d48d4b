/-
Flat objects are read back from their lines.

The fields of a journal line hold nothing that is nested: null, integers,
fractions and strings. Each of them ends where the reader stops, so a
line is taken apart again exactly where it was put together. Strings come
back with their pairs joined; fractions come back as fractions, and which
ones is not the matter here.
-/
import Mathlib.Data.List.Forall2
import Mathlib.Data.List.TakeWhile
import DevicePairing.Proofs.Json.Numbers
import DevicePairing.Proofs.Json.Reading
import DevicePairing.Proofs.Json.Strings

namespace DevicePairing.Json

open Reader

/-- Whether a value can stand in a flat object that is written. -/
inductive IsFlat : Json → Prop where
  | null : IsFlat .null
  | int {n : Int} (hlimit : (Numeral.integerText? n).isSome = true) :
    IsFlat (.int n)
  | float (x : Binary64) : IsFlat (.float x)
  | str (t : Text) : IsFlat (.str t)

/-- What a flat value comes back as. -/
inductive Echo : Json → Json → Prop where
  | null : Echo .null .null
  | int (n : Int) : Echo (.int n) (.int n)
  | float (x y : Binary64) : Echo (.float x) (.float y)
  | str (t : Text) : Echo (.str t) (.str (Text.joinPairs t))

/-- What a field comes back as. -/
def FieldEcho (f f' : Text × Json) : Prop :=
  f'.1 = Text.joinPairs f.1 ∧ Echo f.2 f'.2

namespace Reader

variable {depth fuel : Nat}

-- ============================================================ beginnings

/-- The four characters that may stand between values. -/
theorem isGap_iff (p : CodePoint) :
    isGap p = true ↔ p = .char ' ' ∨ p = .char '\t' ∨ p = .char '\n'
      ∨ p = .char '\r' := by
  simp [isGap, or_assoc]

/-- Nothing is skipped in front of a scalar. -/
theorem scalar_first {t : Text} {x : Json × Text} (h : scalar t = .ok x) :
    (∀ r, t ≠ .char '"' :: r ∧ t ≠ .char '[' :: r ∧ t ≠ .char '\x7b' :: r)
      ∧ skipGap t = t := by
  constructor
  · intro r
    refine ⟨?_, ?_, ?_⟩ <;> (rintro rfl; cases h)
  · cases t with
    | nil => rfl
    | cons p r =>
        apply List.dropWhile_cons_of_neg
        intro hp
        rcases (isGap_iff p).mp hp with rfl | rfl | rfl | rfl <;> cases h

/-- A scalar is read as a value. -/
theorem value_of_scalar {t : Text} {x : Json × Text} (h : scalar t = .ok x) :
    value depth (fuel + 1) t = .ok x :=
  value_eq_ok.mpr (.inr (.inr (.inr ⟨(scalar_first h).1, h⟩)))

/-- A value begins at once. -/
theorem skipGap_of_value {t : Text} {x : Json × Text}
    (h : value depth fuel t = .ok x) :
    skipGap t = t := by
  cases fuel with
  | zero => cases h
  | succ fuel =>
      obtain ⟨v, rest⟩ := x
      rcases value_eq_ok.mp h with ⟨r, s, rfl, -⟩ | ⟨r, rfl, -⟩ | ⟨r, rfl, -⟩
        | ⟨-, h⟩
      · rfl
      · rfl
      · rfl
      · exact (scalar_first h).2

-- ================================================================ values

/-- A string is its quote, its escapes and a quote. -/
theorem stringText_append (t r : Text) :
    stringText t ++ r = .char '"' :: (t.flatMap escape ++ .char '"' :: r) := by
  show (Text.ofString "\"" ++ t.flatMap escape ++ Text.ofString "\"") ++ r = _
  rw [List.append_assoc, List.append_assoc]
  rfl

/-- A string is read back as a value. -/
theorem value_stringText (t r : Text) :
    value depth (fuel + 1) (stringText t ++ r)
      = .ok (.str (Text.joinPairs t), r) := by
  rw [stringText_append]
  exact value_eq_ok.mpr (.inl ⟨_, _, rfl, stringRest_flatMap _ t r, rfl⟩)

/-- A flat value is read back where no number goes on. -/
theorem value_flat (depth fuel : Nat) (l : Layout) {v : Json} (hv : v.IsFlat)
    {r : Text} (hr : Stops r) :
    ∃ v', Echo v v' ∧ value depth (fuel + 1) (write l v ++ r)
      = .ok (v', r) := by
  cases hv with
  | null =>
      exact ⟨.null, .null, value_of_scalar (scalar_of_word (by simp [words]) r)⟩
  | int hlimit =>
      refine ⟨_, .int _, ?_⟩
      unfold write
      exact value_of_scalar (scalar_ofInt hlimit hr)
  | float x =>
      obtain ⟨y, hy⟩ := scalar_numberText x hr
      refine ⟨.float y, .float x y, ?_⟩
      unfold write
      exact value_of_scalar hy
  | str t =>
      refine ⟨_, .str t, ?_⟩
      unfold write
      exact value_stringText t r

-- ================================================================ fields

/-- The fields of a flat object as they are written. -/
def fieldsText (fs : List (Text × Json)) : Text :=
  Text.join (Layout.line).comma ((writeFields .line fs).map (·.2))

/-- A number in front of another field ends there. -/
theorem stops_comma (r : Text) : Stops (Text.ofString ", " ++ r) :=
  stops_cons rfl (by decide) _

/-- And so does one in front of the end of an object. -/
theorem stops_brace (r : Text) : Stops (.char '\x7d' :: r) :=
  stops_cons rfl (by decide) r

/-- A field is read back, whatever stands behind it. -/
theorem field_flat (depth fuel : Nat) {f : Text × Json} (hf : f.2.IsFlat)
    {r : Text} (hr : Stops r) :
    ∃ r₁ r₂ r₃ v, stringText f.1 ++ Text.ofString ": " ++ write .line f.2 ++ r
      = .char '"' :: r₁
      ∧ stringRest (.char '"' :: r₁) 0 r₁ = .ok (Text.joinPairs f.1, r₂)
      ∧ skipGap r₂ = .char ':' :: r₃
      ∧ value depth (fuel + 1) (skipGap r₃) = .ok (v, r)
      ∧ Echo f.2 v := by
  obtain ⟨v, hv, hread⟩ := value_flat depth fuel .line hf hr
  refine ⟨_, _, .char ' ' :: (write .line f.2 ++ r), v, ?_,
    stringRest_flatMap _ f.1 (Text.ofString ": " ++ (write .line f.2 ++ r)),
    rfl, ?_, hv⟩
  · rw [List.append_assoc, List.append_assoc, stringText_append]
  · have hgap : skipGap (.char ' ' :: (write .line f.2 ++ r))
        = skipGap (write .line f.2 ++ r) := rfl
    rw [hgap, skipGap_of_value hread, hread]

theorem fieldsText_singleton (f : Text × Json) :
    fieldsText [f]
      = stringText f.1 ++ Text.ofString ": " ++ write .line f.2 :=
  rfl

/-- Fields are written one after the other, with a comma between them. -/
theorem fieldsText_cons (f g : Text × Json) (fs : List (Text × Json)) :
    fieldsText (f :: g :: fs)
      = stringText f.1 ++ Text.ofString ": " ++ write .line f.2
          ++ (Text.ofString ", " ++ fieldsText (g :: fs)) :=
  List.append_assoc _ _ _

/-- They begin with the name of the first. -/
theorem fieldsText_first (f : Text × Json) (fs : List (Text × Json)) :
    ∃ t, fieldsText (f :: fs) = .char '"' :: (f.1.flatMap escape ++ t) := by
  have hname : ∃ t, fieldsText (f :: fs) = stringText f.1 ++ t := by
    cases fs with
    | nil => exact ⟨_, List.append_assoc _ _ _⟩
    | cons g fs =>
        exact ⟨_, by rw [fieldsText_cons, List.append_assoc, List.append_assoc]⟩
  obtain ⟨t, ht⟩ := hname
  rw [ht, stringText_append]
  exact ⟨_, rfl⟩

/-- The fields of a flat object are read back. -/
theorem fields_flat (depth : Nat) {fs : List (Text × Json)} (hne : fs ≠ [])
    (hflat : ∀ f ∈ fs, f.2.IsFlat) (hfuel : fs.length < fuel) (r : Text) :
    ∃ fs', List.Forall₂ FieldEcho fs fs'
      ∧ fields depth fuel (fieldsText fs ++ .char '\x7d' :: r)
        = .ok (fs', r) := by
  induction fs generalizing fuel with
  | nil => exact absurd rfl hne
  | cons f fs ih =>
      obtain ⟨fuel, rfl⟩ : ∃ n, fuel = n + 1 + 1 :=
        ⟨fuel - 2, by rw [List.length_cons] at hfuel; omega⟩
      have hf : f.2.IsFlat := hflat f List.mem_cons_self
      cases fs with
      | nil =>
          obtain ⟨r₁, r₂, r₃, v, htext, hname, hcolon, hread, hv⟩ :=
            field_flat depth fuel hf (stops_brace r)
          refine ⟨[(Text.joinPairs f.1, v)], .cons ⟨rfl, hv⟩ .nil, ?_⟩
          rw [fieldsText_singleton, htext]
          exact fields_eq_ok.mpr
            ⟨r₁, _, r₂, r₃, v, _, rfl, hname, hcolon, hread, .inl ⟨rfl, rfl⟩⟩
      | cons g fs =>
          have hshorter : (g :: fs).length < fuel + 1 := by
            rw [List.length_cons] at hfuel
            omega
          obtain ⟨fs', hfs, hrest⟩ := ih (List.cons_ne_nil g fs)
            (fun f' hf' => hflat f' (List.mem_cons_of_mem f hf')) hshorter
          obtain ⟨r₁, r₂, r₃, v, htext, hname, hcolon, hread, hv⟩ :=
            field_flat depth fuel hf
              (stops_comma (fieldsText (g :: fs) ++ .char '\x7d' :: r))
          refine ⟨(Text.joinPairs f.1, v) :: fs', .cons ⟨rfl, hv⟩ hfs, ?_⟩
          rw [fieldsText_cons, List.append_assoc,
            List.append_assoc (Text.ofString ", "), htext]
          refine fields_eq_ok.mpr
            ⟨r₁, _, r₂, r₃, v, _, rfl, hname, hcolon, hread, .inr
              ⟨.char ' ' :: (fieldsText (g :: fs) ++ .char '\x7d' :: r), fs',
                rfl, ?_, rfl⟩⟩
          obtain ⟨t, ht⟩ := fieldsText_first g fs
          rw [ht] at hrest ⊢
          exact hrest

-- =============================================================== objects

theorem setField_of_new {name : Text} {fs : List (Text × Json)}
    (hname : name ∉ fs.map (·.1)) (v : Json) :
    setField name v fs = fs ++ [(name, v)] := by
  induction fs with
  | nil => rfl
  | cons f fs ih =>
      rw [List.map_cons, List.mem_cons, not_or] at hname
      rw [setField, if_neg (Ne.symm hname.1), ih hname.2]
      rfl

/-- Fields with new names are added in their order. -/
theorem foldl_setField (acc : List (Text × Json)) {fs : List (Text × Json)}
    (hfs : ((acc ++ fs).map (·.1)).Nodup) :
    fs.foldl (fun acc (name, v) => setField name v acc) acc = acc ++ fs := by
  induction fs generalizing acc with
  | nil => exact (List.append_nil acc).symm
  | cons f fs ih =>
      obtain ⟨name, v⟩ := f
      have hname : name ∉ acc.map (·.1) := by
        rw [List.map_append, List.nodup_append] at hfs
        exact fun hmem => hfs.2.2 name hmem name List.mem_cons_self rfl
      rw [List.foldl_cons]
      dsimp only
      rw [setField_of_new hname, ih _ (by simpa using hfs), List.append_assoc]
      rfl

/-- An object keeps the fields it is made of if no name comes twice. -/
theorem ofFields_eq {fs : List (Text × Json)} (hfs : (fs.map (·.1)).Nodup) :
    ofFields fs = .obj fs := by
  rw [ofFields, foldl_setField [] hfs]
  rfl

/-- The names that come back are the names that were written. -/
theorem map_joinPairs_eq {fs fs' : List (Text × Json)}
    (h : List.Forall₂ FieldEcho fs fs') :
    fs'.map (·.1) = fs.map fun f => Text.joinPairs f.1 := by
  induction h with
  | nil => rfl
  | cons hf _ ih => rw [List.map_cons, List.map_cons, hf.1, ih]

/-- An object is a brace, its fields and a brace. -/
theorem write_obj_append (fs : List (Text × Json)) (r : Text) :
    write .line (.obj fs) ++ r = .char '\x7b'
      :: (fieldsText fs ++ .char '\x7d' :: r) := by
  show (Text.ofString "\x7b" ++ fieldsText fs ++ Text.ofString "\x7d") ++ r = _
  rw [List.append_assoc, List.append_assoc]
  rfl

/-- A flat object is read back, with text behind it or none. -/
theorem value_obj {fs : List (Text × Json)} (hne : fs ≠ [])
    (hflat : ∀ f ∈ fs, f.2.IsFlat)
    (hnames : (fs.map fun f => Text.joinPairs f.1).Nodup) (hdepth : depth ≠ 0)
    (hfuel : fs.length < fuel) (r : Text) :
    ∃ fs', List.Forall₂ FieldEcho fs fs'
      ∧ value depth (fuel + 1) (write .line (.obj fs) ++ r)
        = .ok (.obj fs', r) := by
  obtain ⟨fs', hecho, hread⟩ := fields_flat (depth - 1) hne hflat hfuel r
  have hgap : skipGap (fieldsText fs ++ .char '\x7d' :: r)
      = fieldsText fs ++ .char '\x7d' :: r
        ∧ ∀ r', fieldsText fs ++ .char '\x7d' :: r ≠ .char '\x7d' :: r' := by
    obtain ⟨f, fs, rfl⟩ := List.exists_cons_of_ne_nil hne
    obtain ⟨t, ht⟩ := fieldsText_first f fs
    rw [ht]
    exact ⟨rfl, fun r' h => by cases h⟩
  refine ⟨fs', hecho, ?_⟩
  rw [write_obj_append]
  refine value_eq_ok.mpr (.inr (.inr (.inl ⟨_, rfl, hdepth, .inr ?_⟩)))
  rw [hgap.1]
  exact ⟨hgap.2, fs', hread,
    (ofFields_eq (by rw [map_joinPairs_eq hecho]; exact hnames)).symm⟩

end Reader

-- ============================================================= documents

theorem length_join (sep : Text) {ts : List Text} (hts : ∀ t ∈ ts, t ≠ []) :
    ts.length ≤ (Text.join sep ts).length := by
  induction ts with
  | nil => exact Nat.zero_le _
  | cons t ts ih =>
      have ht : 0 < t.length :=
        List.length_pos_of_ne_nil (hts t List.mem_cons_self)
      have ih := ih fun u hu => hts u (List.mem_cons_of_mem t hu)
      cases ts with
      | nil => exact ht
      | cons u ts =>
          have hjoin : Text.join sep (t :: u :: ts)
              = t ++ sep ++ Text.join sep (u :: ts) := rfl
          rw [hjoin, List.length_append, List.length_append]
          simp only [List.length_cons] at ih ⊢
          omega

/-- No field is empty, so a reader with a step for every character has one
for every field. -/
theorem length_fieldsText (fs : List (Text × Json)) :
    fs.length ≤ (fieldsText fs).length := by
  have hlength : ∀ fs : List (Text × Json),
      (writeFields .line fs).length = fs.length := by
    intro fs
    induction fs with
    | nil => rfl
    | cons f fs ih => rw [writeFields, List.length_cons, ih, List.length_cons]
  have hne : ∀ fs : List (Text × Json), ∀ t ∈ (writeFields .line fs).map (·.2),
      t ≠ [] := by
    intro fs
    induction fs with
    | nil => exact fun t ht => absurd ht List.not_mem_nil
    | cons f fs ih =>
        intro t ht
        rcases List.mem_cons.mp ht with rfl | ht
        · exact fun h => by cases h
        · exact ih t ht
  have h := length_join (Layout.line).comma (hne fs)
  rw [List.length_map, hlength] at h
  exact h

/-- Wherever a flat object is read as a value, what stands behind it is
left over. -/
theorem rest_of_value_obj {depth fuel : Nat} {fs : List (Text × Json)}
    (hne : fs ≠ []) (hflat : ∀ f ∈ fs, f.2.IsFlat)
    (hnames : (fs.map fun f => Text.joinPairs f.1).Nodup)
    {r rest : Text} {v : Json}
    (h : value depth fuel (write .line (.obj fs) ++ r) = .ok (v, rest)) :
    rest = r := by
  have hdepth : depth ≠ 0 := by
    rintro rfl
    cases fuel with
    | zero => cases h
    | succ fuel => cases h
  obtain ⟨fs', -, hread⟩ :=
    value_obj hne hflat hnames hdepth (Nat.lt_succ_self fs.length) r
  cases value_unique h hread
  rfl

/-- A flat object is read back as a document, with blanks around it. -/
theorem read_obj {depth : Nat} (hdepth : depth ≠ 0) {fs : List (Text × Json)}
    (hne : fs ≠ []) (hflat : ∀ f ∈ fs, f.2.IsFlat)
    (hnames : (fs.map fun f => Text.joinPairs f.1).Nodup)
    {before after : Text} (hbefore : before.all isGap = true)
    (hafter : after.all isGap = true) :
    ∃ fs', List.Forall₂ FieldEcho fs fs'
      ∧ read depth (before ++ (write .line (.obj fs) ++ after))
        = .ok (.obj fs') := by
  have hskip : skipGap (before ++ (write .line (.obj fs) ++ after))
      = write .line (.obj fs) ++ after := by
    rw [skipGap, List.dropWhile_append_of_pos (List.all_eq_true.mp hbefore),
      write_obj_append]
    rfl
  have hmark : (before ++ (write .line (.obj fs) ++ after)).head?
      ≠ some (.char '\uFEFF') := by
    cases before with
    | nil =>
        rw [List.nil_append, write_obj_append]
        intro h
        cases h
    | cons p before =>
        intro h
        cases h
        cases List.all_eq_true.mp hbefore _ List.mem_cons_self
  have hlength : fs.length + 1
      ≤ 2 * (before ++ (write .line (.obj fs) ++ after)).length + 1 := by
    have hfields := length_fieldsText fs
    rw [write_obj_append, List.length_append, List.length_cons,
      List.length_append]
    omega
  obtain ⟨fs', hecho, hread⟩ := value_obj hne hflat hnames hdepth hlength after
  refine ⟨fs', hecho,
    read_eq_ok.mpr ⟨hmark, after, by rw [hskip]; exact hread, ?_⟩⟩
  exact List.dropWhile_eq_nil_iff.mpr (List.all_eq_true.mp hafter)

-- ========================================================= long integers

namespace Reader

variable {depth fuel : Nat}

/-- What begins with no bracket, brace or quote is read as a scalar. -/
theorem value_eq_scalar {t : Text}
    (hfirst : ∀ r, t ≠ .char '"' :: r ∧ t ≠ .char '[' :: r
      ∧ t ≠ .char '\x7b' :: r) :
    value depth (fuel + 1) t = scalar t := by
  unfold value
  split
  · exact absurd rfl (hfirst _).1
  · exact absurd rfl (hfirst _).2.1
  · exact absurd rfl (hfirst _).2.2
  · rfl

/-- An integer begins with a sign or a digit, wherever it is written. -/
theorem ofInt_first (n : Int) (r : Text) :
    ∃ c s, Text.ofInt n ++ r = .char c :: s
      ∧ (c = '-' ∨ c.isDigit = true) := by
  obtain ⟨d, ds, hds, hd⟩ := isWhole_cons (Numeral.isWhole_toDigits n.natAbs)
  rw [ofInt_append, hds]
  by_cases hneg : n < 0
  · rw [decide_eq_true hneg]
    exact ⟨'-', _, rfl, .inl rfl⟩
  · rw [decide_eq_false hneg]
    exact ⟨d, _, rfl, .inr hd⟩

/-- So it stops the reader where it stands, if it is too long. -/
theorem value_ofInt_long {n : Int}
    (hlong : (Numeral.integerText? n).isSome = false) {r : Text}
    (hr : Stops r) :
    value depth (fuel + 1) (skipGap (.char ' ' :: (Text.ofInt n ++ r)))
      = .error (.integerTooLong (Nat.toDigits 10 n.natAbs).length) := by
  obtain ⟨c, s, hcs, hc⟩ := ofInt_first n r
  have hgap : skipGap (.char ' ' :: (Text.ofInt n ++ r))
      = Text.ofInt n ++ r := by
    rw [hcs]
    show (CodePoint.char c :: s).dropWhile isGap = _
    apply List.dropWhile_cons_of_neg
    intro hp
    rcases (isGap_iff _).mp hp with h | h | h | h
      <;> (cases h; rcases hc with hc | hc <;> cases hc)
  rw [hgap, value_eq_scalar, scalar_ofInt_long hlong hr]
  intro r'
  rw [hcs]
  refine ⟨?_, ?_, ?_⟩
    <;> (rintro h; cases h; rcases hc with hc | hc <;> cases hc)

end Reader

open Reader in
/-- An object is not read if its field is an integer that is too long. -/
theorem read_obj_long {depth : Nat} (hdepth : depth ≠ 0) (name : Text) {n : Int}
    (hlong : (Numeral.integerText? n).isSome = false) :
    read depth (write .line (.obj [(name, .int n)]))
      = .error (.integerTooLong (Nat.toDigits 10 n.natAbs).length) := by
  -- the text behind the name, and from the name on
  let behind : Text :=
    .char ':' :: .char ' ' :: (Text.ofInt n ++ [.char '\x7d'])
  let named : Text := name.flatMap escape ++ .char '"' :: behind
  have htext : write .line (.obj [(name, .int n)])
      = .char '\x7b' :: .char '"' :: named := by
    rw [← List.append_nil (write _ _), write_obj_append, fieldsText_singleton,
      List.append_assoc, List.append_assoc, stringText_append]
    simp only [named, behind, write]
    rfl
  have hfields (fuel : Nat) :
      fields (depth - 1) (fuel + 1 + 1) (.char '"' :: named)
        = .error (.integerTooLong (Nat.toDigits 10 n.natAbs).length) := by
    have hname : stringRest (.char '"' :: named) 0 named
        = .ok (Text.joinPairs name, behind) := stringRest_flatMap _ name behind
    have hcolon : skipGap behind = behind := rfl
    rw [fields.eq_def]
    simp only [hname, bind, Except.bind, hcolon, behind,
      value_ofInt_long hlong (stops_brace [])]
  have hvalue (fuel : Nat) : value depth (fuel + 1 + 1 + 1)
      (.char '\x7b' :: .char '"' :: named)
        = .error (.integerTooLong (Nat.toDigits 10 n.natAbs).length) := by
    have hgap : skipGap (.char '"' :: named) = .char '"' :: named := rfl
    unfold value
    simp only [if_neg hdepth, hgap]
    show (fields (depth - 1) (fuel + 1 + 1) (.char '"' :: named)).map _ = _
    rw [hfields]
    rfl
  have hmark : (CodePoint.char '\x7b' :: .char '"' :: named).head?
      ≠ some (.char '\uFEFF') := fun h => by cases h
  have hskip : skipGap (.char '\x7b' :: .char '"' :: named)
      = .char '\x7b' :: .char '"' :: named := rfl
  have hfuel : 2 * (named.length + 1 + 1) + 2
      = 2 * named.length + 3 + 1 + 1 + 1 := by omega
  rw [htext, read, if_neg hmark, List.length_cons, List.length_cons, hfuel,
    hskip]
  simp only [bind, Except.bind, hvalue]

-- ============================================================ the brace

namespace Reader

variable {t rest : Text} {fs : List (Text × Json)}

/-- A number is no object. -/
theorem unsigned_ne_obj {whole : Text} {negative : Bool} :
    unsigned whole negative t ≠ .ok (.obj fs, rest) := by
  intro h
  simp only [unsigned] at h
  split at h
  · cases h
  · split at h
    · cases h
    · split at h
      · cases h
      · split at h <;> cases h

/-- No word and no number is an object. -/
theorem scalar_ne_obj : scalar t ≠ .ok (.obj fs, rest) := by
  intro h
  rcases scalar_cases t with ⟨word, v, r, hword, rfl, hread⟩ | hnumber
  · rw [hread] at h
    cases h
    simp [words] at hword
  · rw [hnumber] at h
    unfold number at h
    split at h <;> exact unsigned_ne_obj h

end Reader

/-- A document that is an object has a brace in it. -/
theorem brace_mem_of_read {depth : Nat} {t : Text} {fs : List (Text × Json)}
    (h : read depth t = .ok (.obj fs)) : CodePoint.char '\x7b' ∈ t := by
  obtain ⟨-, rest, hvalue, -⟩ := read_eq_ok.mp h
  apply (List.dropWhile_sublist isGap).subset
  rcases value_eq_ok.mp hvalue with ⟨_, _, -, -, hv⟩
    | ⟨_, -, -, ⟨-, hv⟩ | ⟨-, _, -, hv⟩⟩ | ⟨r, hr, -⟩ | ⟨-, hscalar⟩
  · cases hv
  · cases hv
  · cases hv
  · rw [← skipGap, hr]
    exact List.mem_cons_self
  · exact absurd hscalar scalar_ne_obj

end DevicePairing.Json
