/-
The final spelling of a URL.

A URL is spelled once more as a whole before it is sent. Escapes that are
proper are left alone or resolved one by one, wherever they stand; a
query in form encoding keeps its spelling (`unescapeUnreserved_formText`).
But a single percent sign before two letters or digits that are no escape
spoils the whole URL: then every percent sign is escaped, also those of
the query.
-/
import DevicePairing.Proofs.Fault
import DevicePairing.Proofs.Url.Form

namespace DevicePairing.Url

open Text (isAlphanumeric pieces)

-- ============================================================= one by one

theorem unescapeUnreserved_of_pieces {t q : Text} {qs : List Text}
    (h : pieces (.char '%') t = q :: qs) :
    unescapeUnreserved t = (qs.mapM unescapePiece).map (q ++ ·.flatten) := by
  rw [unescapeUnreserved, h]

theorem unescapeUnreserved_nil : unescapeUnreserved [] = some [] := rfl

/-- What is no percent sign stays. -/
theorem unescapeUnreserved_cons {p : CodePoint} (hp : p ≠ .char '%')
    (t : Text) :
    unescapeUnreserved (p :: t) = (unescapeUnreserved t).map (p :: ·) := by
  obtain ⟨q, qs, h⟩ :=
    List.exists_cons_of_ne_nil (Text.pieces_ne_nil (.char '%') t)
  have hcons : pieces (.char '%') (p :: t) = (p :: q) :: qs := by
    rw [pieces, if_neg hp, h]
  rw [unescapeUnreserved_of_pieces h, unescapeUnreserved_of_pieces hcons,
    Option.map_map]
  rfl

/-- The pieces behind a percent sign. -/
theorem unescapeUnreserved_percent {t q : Text} {qs : List Text}
    (h : pieces (.char '%') t = q :: qs) :
    unescapeUnreserved (.char '%' :: t)
      = (unescapePiece q).bind fun u =>
          (qs.mapM unescapePiece).map (u ++ ·.flatten) := by
  have hcons : pieces (.char '%') (.char '%' :: t) = [] :: q :: qs := by
    rw [pieces, if_pos rfl, h]
  rw [unescapeUnreserved_of_pieces hcons, List.mapM_cons]
  cases unescapePiece q with
  | none => rfl
  | some u =>
      cases qs.mapM unescapePiece with
      | none => simp
      | some us => simp

theorem isAlphanumeric_percent : isAlphanumeric (.char '%') = false := by
  decide +kernel

/-- A percent sign that is not before two letters or digits stays. -/
theorem unescapeUnreserved_loose {t : Text}
    (h : ∀ a b r, t = a :: b :: r →
      (isAlphanumeric a && isAlphanumeric b) = false) :
    unescapeUnreserved (.char '%' :: t)
      = (unescapeUnreserved t).map (.char '%' :: ·) := by
  obtain ⟨q, qs, hq⟩ :=
    List.exists_cons_of_ne_nil (Text.pieces_ne_nil (.char '%') t)
  have hpiece : unescapePiece q = some (.char '%' :: q) := by
    unfold unescapePiece
    split
    · rename_i a b r
      -- two code points of the piece are the next two of the text
      obtain ⟨r', rfl⟩ := Text.first_piece hq
      rw [h a b (r ++ r') rfl, if_neg Bool.false_ne_true]
    · rfl
  rw [unescapeUnreserved_percent hq, unescapeUnreserved_of_pieces hq, hpiece,
    Option.map_map]
  rfl

/-- A percent sign before two letters or digits must begin an escape. -/
theorem unescapeUnreserved_escape {a b : CodePoint}
    (h : (isAlphanumeric a && isAlphanumeric b) = true) (t : Text) :
    unescapeUnreserved (.char '%' :: a :: b :: t)
      = (unescapePiece [a, b]).bind fun u =>
          (unescapeUnreserved t).map (u ++ ·) := by
  obtain ⟨q, qs, hq⟩ :=
    List.exists_cons_of_ne_nil (Text.pieces_ne_nil (.char '%') t)
  have hne {p : CodePoint} (hp : isAlphanumeric p = true) : p ≠ .char '%' := by
    rintro rfl
    rw [isAlphanumeric_percent] at hp
    cases hp
  rw [Bool.and_eq_true] at h
  have hcons : pieces (.char '%') (a :: b :: t) = (a :: b :: q) :: qs := by
    rw [pieces, if_neg (hne h.1), pieces, if_neg (hne h.2), hq]
  have hpiece : unescapePiece (a :: b :: q)
      = (unescapePiece [a, b]).map (· ++ q) := by
    simp only [unescapePiece, h.1, h.2, Bool.and_true, if_true]
    split
    · split <;> rfl
    · rfl
  rw [unescapeUnreserved_percent hcons, unescapeUnreserved_of_pieces hq, hpiece]
  cases unescapePiece [a, b] with
  | none => rfl
  | some u =>
      cases qs.mapM unescapePiece with
      | none => rfl
      | some us => simp

/-- The two ways a percent sign may go. -/
theorem percent_cases (t : Text) :
    (∃ a b r, t = a :: b :: r
        ∧ (isAlphanumeric a && isAlphanumeric b) = true)
      ∨ ∀ a b r, t = a :: b :: r →
        (isAlphanumeric a && isAlphanumeric b) = false := by
  by_cases h : ∃ a b r, t = a :: b :: r
      ∧ (isAlphanumeric a && isAlphanumeric b) = true
  · exact .inl h
  · right
    intro a b r ht
    rw [← Bool.not_eq_true]
    exact fun hab => h ⟨a, b, r, ht, hab⟩

/-- Nothing in front of a text has to do with it if it begins with neither
a letter nor a digit. -/
theorem unescapeUnreserved_append {s : Text}
    (hs : ∀ p ∈ s.head?, isAlphanumeric p = false) : ∀ t : Text,
    unescapeUnreserved (t ++ s)
      = (unescapeUnreserved t).bind fun u =>
          (unescapeUnreserved s).map (u ++ ·)
  | [] => by simp [unescapeUnreserved_nil]
  | p :: t => by
      by_cases hp : p = .char '%'
      · subst hp
        rcases percent_cases t with ⟨a, b, r, rfl, hab⟩ | hloose
        · have ih := unescapeUnreserved_append hs r
          rw [List.cons_append, List.cons_append, List.cons_append,
            unescapeUnreserved_escape hab, unescapeUnreserved_escape hab, ih]
          cases unescapePiece [a, b] with
          | none => rfl
          | some u =>
              cases unescapeUnreserved r with
              | none => rfl
              | some v =>
                  cases unescapeUnreserved s with
                  | none => rfl
                  | some w => simp
        · have ih := unescapeUnreserved_append hs t
          have hloose' : ∀ a b r, t ++ s = a :: b :: r →
              (isAlphanumeric a && isAlphanumeric b) = false := by
            intro a b r h
            match t with
            | [] =>
                rw [List.nil_append] at h
                rw [hs a (by rw [h]; rfl), Bool.false_and]
            | [c] =>
                rw [List.singleton_append, List.cons.injEq] at h
                rw [hs b (by rw [h.2]; rfl), Bool.and_false]
            | c :: d :: t =>
                rw [List.cons_append, List.cons_append, List.cons.injEq,
                  List.cons.injEq] at h
                exact hloose a b t (by rw [h.1, h.2.1])
          rw [List.cons_append, unescapeUnreserved_loose hloose',
            unescapeUnreserved_loose hloose, ih]
          cases unescapeUnreserved t with
          | none => rfl
          | some v =>
              cases unescapeUnreserved s with
              | none => rfl
              | some w => simp
      · have ih := unescapeUnreserved_append hs t
        rw [List.cons_append, unescapeUnreserved_cons hp,
          unescapeUnreserved_cons hp, ih]
        cases unescapeUnreserved t with
        | none => rfl
        | some v =>
            cases unescapeUnreserved s with
            | none => rfl
            | some w => simp
termination_by t => t.length

/-- Nothing comes into a URL but unreserved characters. -/
theorem mem_unescapeUnreserved {p : CodePoint} : ∀ {t u : Text},
    unescapeUnreserved t = some u → p ∈ u →
      p ∈ t ∨ ∃ c, p = .char c ∧ isUnreserved c = true
  | [], u, h, hp => by
      cases h
      exact absurd hp List.not_mem_nil
  | q :: t, u, h, hp => by
      have hkept (hq : unescapeUnreserved (q :: t)
          = (unescapeUnreserved t).map (q :: ·)) :
          p ∈ q :: t ∨ ∃ c, p = .char c ∧ isUnreserved c = true := by
        rw [hq, Option.map_eq_some_iff] at h
        obtain ⟨v, hv, rfl⟩ := h
        rcases List.mem_cons.mp hp with rfl | hp
        · exact .inl List.mem_cons_self
        · exact (mem_unescapeUnreserved hv hp).imp_left (List.mem_cons_of_mem _)
      by_cases hq : q = .char '%'
      · subst hq
        rcases percent_cases t with ⟨a, b, r, rfl, hab⟩ | hloose
        · rw [unescapeUnreserved_escape hab, Option.bind_eq_some_iff] at h
          obtain ⟨v, hpiece, h⟩ := h
          obtain ⟨w, hw, rfl⟩ := Option.map_eq_some_iff.mp h
          rcases List.mem_append.mp hp with hp | hp
          · have hescape :
                p ∈ [.char '%', a, b] → p ∈ .char '%' :: a :: b :: r :=
              fun h => List.mem_append_left r h
            simp only [unescapePiece, hab, if_true] at hpiece
            split at hpiece
            · split at hpiece
              · rename_i hc
                cases hpiece
                exact .inr ⟨_, List.mem_singleton.mp hp, hc⟩
              · cases hpiece
                exact .inl (hescape hp)
            · cases hpiece
          · refine (mem_unescapeUnreserved hw hp).imp_left fun h => ?_
            exact List.mem_cons_of_mem _ (List.mem_cons_of_mem _
              (List.mem_cons_of_mem _ h))
        · exact hkept (unescapeUnreserved_loose hloose)
      · exact hkept (unescapeUnreserved_cons hq t)
termination_by t => t.length

-- ========================================================= proper escapes

/-- Text whose percent signs all begin an escape. -/
inductive IsSpelled : Text → Prop
  | nil : IsSpelled []
  | plain {p : CodePoint} {t : Text} (hp : p ≠ .char '%') (ht : IsSpelled t) :
      IsSpelled (p :: t)
  | escape {a b : CodePoint} {x y : Nat} {t : Text} (ha : a.hexDigit? = some x)
      (hb : b.hexDigit? = some y) (ht : IsSpelled t) :
      IsSpelled (.char '%' :: a :: b :: t)

/-- The character that an escape stands for, if it needs none, else the
escape. -/
def resolved (a b : CodePoint) (x y : Nat) : Text :=
  if isUnreserved (Char.ofNat (x * 16 + y)) then
    [.char (Char.ofNat (x * 16 + y))]
  else [.char '%', a, b]

theorem ne_percent_of_hexDigit {a : CodePoint} {x : Nat}
    (h : a.hexDigit? = some x) : a ≠ .char '%' := by
  rintro rfl
  have hnone : (CodePoint.char '%').hexDigit? = none := by decide
  rw [hnone] at h
  cases h

/-- An escape is resolved or stays, whatever follows. -/
theorem unescapeUnreserved_hex {a b : CodePoint} {x y : Nat}
    (ha : a.hexDigit? = some x) (hb : b.hexDigit? = some y) :
    ∃ u, (u = [.char '%', a, b] ∨ u = resolved a b x y)
      ∧ ∀ t, unescapeUnreserved (.char '%' :: a :: b :: t)
          = (unescapeUnreserved t).map (u ++ ·) := by
  cases hab : isAlphanumeric a && isAlphanumeric b with
  | true =>
      have hpiece : unescapePiece [a, b] = some (resolved a b x y) := by
        have hloose :
            looseHexDigit? a = some x ∧ looseHexDigit? b = some y := by
          simp [looseHexDigit?, ha, hb]
        simp only [unescapePiece, hab, if_true, hloose.1, hloose.2, resolved]
        split <;> rfl
      refine ⟨resolved a b x y, .inr rfl, fun t => ?_⟩
      rw [unescapeUnreserved_escape hab, hpiece, Option.bind_some]
  | false =>
      refine ⟨_, .inl rfl, fun t => ?_⟩
      rw [unescapeUnreserved_loose, unescapeUnreserved_cons,
        unescapeUnreserved_cons, Option.map_map, Option.map_map]
      · rfl
      · exact ne_percent_of_hexDigit hb
      · exact ne_percent_of_hexDigit ha
      · rintro c d r h
        cases h
        exact hab

/-- Text with proper escapes is spelled by itself, whatever follows. -/
theorem IsSpelled.unescape {t : Text} (h : IsSpelled t) :
    ∃ u, ∀ s, unescapeUnreserved (t ++ s)
      = (unescapeUnreserved s).map (u ++ ·) := by
  induction h with
  | nil => exact ⟨[], fun s => by simp⟩
  | @plain p t hp ht ih =>
      obtain ⟨u, ih⟩ := ih
      refine ⟨p :: u, fun s => ?_⟩
      rw [List.cons_append, unescapeUnreserved_cons hp, ih, Option.map_map]
      rfl
  | @escape a b x y t ha hb ht ih =>
      obtain ⟨u, ih⟩ := ih
      obtain ⟨v, -, hhex⟩ := unescapeUnreserved_hex ha hb
      refine ⟨v ++ u, fun s => ?_⟩
      rw [List.cons_append, List.cons_append, List.cons_append, hhex, ih,
        Option.map_map]
      simp [Function.comp_def]

theorem IsSpelled.append {s t : Text} (hs : IsSpelled s) (ht : IsSpelled t) :
    IsSpelled (s ++ t) := by
  induction hs with
  | nil => exact ht
  | plain hp _ ih => exact .plain hp ih
  | escape ha hb _ ih => exact .escape ha hb ih

theorem isSpelled_of_not_mem {t : Text} (h : .char '%' ∉ t) : IsSpelled t := by
  induction t with
  | nil => exact .nil
  | cons p t ih =>
      rw [List.mem_cons, not_or] at h
      exact .plain (Ne.symm h.1) (ih h.2)

/-- A byte of a form value keeps its spelling: it is not escaped unless it
has to be. -/
theorem unescapeUnreserved_encodeFormByte (b : UInt8) (r : Text) :
    unescapeUnreserved (encodeFormByte b ++ r)
      = (unescapeUnreserved r).map (encodeFormByte b ++ ·) := by
  unfold encodeFormByte encodeByte
  dsimp only
  split
  · exact unescapeUnreserved_cons (by decide) r
  split
  · rename_i hkeep
    rw [Bool.and_eq_true] at hkeep
    refine unescapeUnreserved_cons ?_ r
    rw [ne_eq, CodePoint.char.injEq]
    intro hc
    rw [hc] at hkeep
    exact absurd hkeep.2 (by decide)
  · rename_i hkeep
    have hb := b.toNat_lt
    have hvalue : b.toNat / 16 * 16 + b.toNat % 16 = b.toNat := by omega
    have hnot : isUnreserved (Char.ofNat b.toNat) = false := by
      rw [← Bool.not_eq_true]
      intro hc
      have hlt := lt_of_isUnreserved hc
      rw [toNat_charOfNat hb] at hlt
      exact hkeep (by rw [hc, decide_eq_true hlt]; rfl)
    obtain ⟨u, hu, hescape⟩ := unescapeUnreserved_hex
      (hexDigit?_upperHex (n := b.toNat / 16) (by omega))
      (hexDigit?_upperHex (n := b.toNat % 16) (by omega))
    have hu : u = escapeByte b := by
      rcases hu with rfl | rfl
      · rfl
      · rw [resolved, hvalue, hnot]
        rfl
    rw [hu] at hescape
    exact hescape r

/-- So does a form value, whatever follows. -/
theorem unescapeUnreserved_formText (t s : Text) :
    unescapeUnreserved (formText t ++ s)
      = (unescapeUnreserved s).map (formText t ++ ·) := by
  unfold formText
  induction t.utf8 with
  | nil => simp
  | cons b bytes ih =>
      rw [List.flatMap_cons, List.append_assoc,
        unescapeUnreserved_encodeFormByte, ih, Option.map_map]
      simp [Function.comp_def]

theorem unescapeUnreserved_of_not_mem {t : Text} (ht : .char '%' ∉ t)
    (s : Text) :
    unescapeUnreserved (t ++ s) = (unescapeUnreserved s).map (t ++ ·) := by
  induction t with
  | nil => simp
  | cons p t ih =>
      rw [List.mem_cons, not_or] at ht
      rw [List.cons_append, unescapeUnreserved_cons (Ne.symm ht.1), ih ht.2,
        Option.map_map]
      rfl

theorem unescapeUnreserved_queryText (id pin : Text) :
    unescapeUnreserved (queryText (formText id) (formText pin))
      = some (queryText (formText id) (formText pin)) := by
  have hpin := unescapeUnreserved_formText pin []
  rw [List.append_nil, unescapeUnreserved_nil, Option.map_some,
    List.append_nil] at hpin
  rw [queryText_eq, List.append_assoc,
    unescapeUnreserved_of_not_mem (by decide),
    unescapeUnreserved_formText, unescapeUnreserved_of_not_mem (by decide),
    hpin]
  rfl

-- ============================================================== whole URLs

/-- What a whole URL keeps if all its percent signs begin escapes. -/
def keepsEscapes (c : Char) : Bool := isUrlChar c || c == '%'

/-- How a URL with the query of a submission is spelled: with the escapes
of the query as they are, unless a percent sign before the query spoils
them. -/
theorem encodeWhole_queryText {front id pin full : Text}
    (h : encodeWhole
      (front ++ .char '?' :: queryText (formText id) (formText pin))
      = .ok full) :
    ∃ f keep, full = encodeBytes keep (Text.utf8 f)
        ++ .char '?' :: queryText (encodeBytes keep (formText id).utf8)
            (encodeBytes keep (formText pin).utf8)
      ∧ (unescapeUnreserved front = some f ∧ keep = keepsEscapes
        ∨ unescapeUnreserved front = none ∧ f = front ∧ keep = isUrlChar) := by
  have hwhole : unescapeUnreserved
        (front ++ .char '?' :: queryText (formText id) (formText pin))
      = (unescapeUnreserved front).map
          (· ++ .char '?' :: queryText (formText id) (formText pin)) := by
    have hmark : unescapeUnreserved
          (.char '?' :: queryText (formText id) (formText pin))
        = some (.char '?' :: queryText (formText id) (formText pin)) := by
      rw [unescapeUnreserved_cons (by decide), unescapeUnreserved_queryText]
      rfl
    have hhead : ∀ p ∈ (CodePoint.char '?' ::
          queryText (formText id) (formText pin)).head?,
        isAlphanumeric p = false := by
      rintro p hp
      cases hp
      decide +kernel
    rw [unescapeUnreserved_append hhead, hmark]
    cases unescapeUnreserved front <;> rfl
  have hencode {keep : Char → Bool}
      (hkeep : "uniqueid=&pin".toList.all keep = true)
      (hquestion : keep '?' = true) {f : Text}
      (h : (f ++ .char '?' :: queryText (formText id) (formText pin)).encode.map
        (encodeBytes keep) = .ok full) :
      full = encodeBytes keep (Text.utf8 f)
        ++ .char '?' :: queryText (encodeBytes keep (formText id).utf8)
            (encodeBytes keep (formText pin).utf8) := by
    have hmark : encodeBytes keep (Text.utf8 [.char '?']) = [.char '?'] :=
      encodeBytes_of_kept fun p hp =>
        ⟨'?', List.mem_singleton.mp hp, by decide, hquestion⟩
    obtain ⟨bytes, hbytes, rfl⟩ := map_eq_ok.mp h
    rw [eq_of_encode hbytes, ← List.singleton_append, encodeBytes_append,
      encodeBytes_append, hmark, encodeBytes_queryText hkeep]
    rfl
  rw [encodeWhole, hwhole] at h
  cases hfront : unescapeUnreserved front with
  | some f =>
      rw [hfront] at h
      exact ⟨f, keepsEscapes, hencode (by decide) (by decide) h,
        .inl ⟨rfl, rfl⟩⟩
  | none =>
      rw [hfront] at h
      exact ⟨front, isUrlChar, hencode (by decide) (by decide) h,
        .inr ⟨rfl, rfl, rfl⟩⟩

end DevicePairing.Url
