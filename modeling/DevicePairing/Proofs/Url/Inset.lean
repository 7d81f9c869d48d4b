/-
A PIN inside a URL.

The PIN is put into a URL at one place, and everything that is done to
the URL afterwards leaves it there: its digits are kept by every encoding
and belong to no escape. So the URLs for PINs of one length differ in
nothing but the PIN, and what goes wrong with one of them goes wrong with
all, in the same words. `Inset` says both at once; the lemmas go through
the making of a URL from the encoding of a form to the reading of its
credentials, one for each step.

The PIN stands in the query, behind the first question mark. What is only
read up to there, the scheme and the authority, is read the same from
every one of these URLs.
-/
import DevicePairing.Proofs.Pad.Cell
import DevicePairing.Proofs.Url.Front

namespace DevicePairing

-- ================================================================= digits

/-- A PIN of `n` digits. -/
structure Text.IsPin (n : Nat) (t : Text) : Prop where
  length : t.length = n
  digits : ∀ p ∈ t, p.isDigit = true

/-- What holds of the ten digits holds of every character of a PIN. -/
theorem Text.IsPin.forall {n : Nat} {pin : Text} (h : pin.IsPin n)
    {P : CodePoint → Prop} (hP : ∀ d : Digit, P (.char d.char)) :
    ∀ p ∈ pin, P p := by
  intro p hp
  obtain ⟨d, rfl⟩ := CodePoint.exists_digit (h.digits p hp)
  exact hP d

namespace Url

open Text (IsPin)

variable {n : Nat}

/-- A text made from a PIN of `n` digits: either there is none for any of
them, or the PIN stands in it as it is, in the same surroundings for all
and behind a question mark. -/
inductive Inset (n : Nat) (f : Text → Except Fault Text) : Prop
  | refused (fault : Fault) (h : ∀ pin, pin.IsPin n → f pin = .error fault)
  | inset (before after : Text) (hquery : .char '?' ∈ before)
      (h : ∀ pin, pin.IsPin n → f pin = .ok (before ++ (pin ++ after)))

theorem Inset.congr {f g : Text → Except Fault Text} (h : Inset n g)
    (hf : ∀ pin, pin.IsPin n → f pin = g pin) : Inset n f := by
  cases h with
  | refused fault h =>
    exact .refused fault fun pin hpin => (hf pin hpin).trans (h pin hpin)
  | inset before after hquery h =>
      exact .inset before after hquery fun pin hpin =>
        (hf pin hpin).trans (h pin hpin)

-- =============================================================== encoding

/-- A digit is kept by every encoding. -/
theorem isUnreserved_digit : ∀ d : Digit, isUnreserved d.char = true := by
  decide

/-- Digits are spelled as themselves in a form. -/
theorem encodeForm_pin {pin : Text} (h : pin.IsPin n) :
    encodeForm pin = .ok pin := by
  have hscalar : pin.IsScalar :=
    h.forall (P := fun p => p.isSurrogate = false) fun _ => rfl
  have hform : ∀ t : Text, (∀ p ∈ t, p.isDigit = true) → formText t = t := by
    intro t ht
    induction t with
    | nil => rfl
    | cons p t ih =>
        obtain ⟨d, rfl⟩ := CodePoint.exists_digit (ht p List.mem_cons_self)
        rw [formText_unreserved (isUnreserved_digit d),
          ih fun q hq => ht q (List.mem_cons_of_mem _ hq)]
  rw [encodeForm_eq hscalar, hform pin h.digits]

/-- A code point with nothing left but whether it is a surrogate, and which. -/
def unlessSurrogate (p : CodePoint) : CodePoint :=
  if p.isSurrogate then p else .char '0'

theorem isSurrogate_unlessSurrogate (p : CodePoint) :
    (unlessSurrogate p).isSurrogate = p.isSurrogate := by
  cases p <;> rfl

/-- Surrogates are found by nothing but where they are. -/
theorem loneSurrogate?_map (t : Text) :
    Text.loneSurrogate? (t.map unlessSurrogate) = t.loneSurrogate? := by
  have hbefore : (fun p : CodePoint => !p.isSurrogate) ∘ unlessSurrogate
      = fun p => !p.isSurrogate :=
    funext fun p => congrArg (!·) (isSurrogate_unlessSurrogate p)
  have hrun : (fun p : CodePoint => p.isSurrogate) ∘ unlessSurrogate
      = fun p => p.isSurrogate :=
    funext isSurrogate_unlessSurrogate
  unfold Text.loneSurrogate?
  simp only [List.takeWhile_map, List.dropWhile_map, List.length_map, hbefore]
  cases t.dropWhile (!·.isSurrogate) with
  | nil => rfl
  | cons p r =>
      cases p with
      | char c => rfl
      | surrogate m =>
          have hm : unlessSurrogate (.surrogate m) = .surrogate m := rfl
          simp only [List.map_cons, hm, List.takeWhile_map,
            List.length_map, hrun]

/-- So they are found around one PIN where they are around another. -/
theorem loneSurrogate?_inset {pin pin' : Text} (h : pin.IsPin n)
    (h' : pin'.IsPin n) (before after : Text) :
    Text.loneSurrogate? (before ++ (pin ++ after))
      = Text.loneSurrogate? (before ++ (pin' ++ after)) := by
  have hzeros {t : Text} (ht : t.IsPin n) :
      t.map unlessSurrogate = List.replicate n (.char '0') := by
    refine List.eq_replicate_iff.mpr ⟨by rw [List.length_map, ht.length], ?_⟩
    intro q hq
    obtain ⟨p, hp, rfl⟩ := List.mem_map.mp hq
    exact ht.forall (P := fun p => unlessSurrogate p = .char '0')
      (fun _ => rfl) p hp
  rw [← loneSurrogate?_map (before ++ (pin ++ after)),
    ← loneSurrogate?_map (before ++ (pin' ++ after))]
  simp only [List.map_append, hzeros h, hzeros h']

/-- A character that is kept stands in the spelling of a text that has it. -/
theorem mem_encodeBytes_of_kept {keep : Char → Bool} {c : Char} {t : Text}
    (h : .char c ∈ t) (hc : c.toNat < 128) (hkeep : keep c = true) :
    .char c ∈ encodeBytes keep t.utf8 := by
  refine List.mem_flatMap.mpr ⟨UInt8.ofNat c.toNat, ?_, ?_⟩
  · refine List.mem_flatMap.mpr ⟨_, h, ?_⟩
    rw [utf8_ascii hc]
    exact List.mem_singleton_self _
  · rw [encodeByte_of_kept hc hkeep]
    exact List.mem_singleton_self _

/-- A PIN behind a question mark comes through unchanged when all that is not
kept is escaped, and whether the text can be encoded does not hang on it. -/
theorem inset_encode (keep : Char → Bool) (hkeep : keep '?' = true)
    (hdigits : ∀ d : Digit, keep d.char = true) {before : Text}
    (hquery : .char '?' ∈ before) (after : Text) :
    Inset n fun pin =>
      (Text.encode (before ++ (pin ++ after))).map (encodeBytes keep) := by
  have hzeros : Text.IsPin n (List.replicate n (.char '0')) :=
    ⟨List.length_replicate, fun p hp => by
      rw [List.eq_of_mem_replicate hp]
      rfl⟩
  cases hlone : (before ++ (List.replicate n (.char '0') ++ after)
      : Text).loneSurrogate? with
  | some f =>
      refine .refused f.fault fun pin hpin => ?_
      rw [Text.encode, Text.strictUtf8, loneSurrogate?_inset hpin hzeros, hlone]
      rfl
  | none =>
      refine .inset (encodeBytes keep before.utf8) (encodeBytes keep after.utf8)
        (mem_encodeBytes_of_kept hquery (by decide) hkeep) fun pin hpin => ?_
      have hpin' : encodeBytes keep pin.utf8 = pin := by
        refine encodeBytes_of_kept (hpin.forall fun d =>
          ⟨_, rfl, ?_, hdigits d⟩)
        exact lt_of_isUnreserved (isUnreserved_digit d)
      rw [Text.encode, Text.strictUtf8, loneSurrogate?_inset hpin hzeros, hlone]
      show Except.ok (encodeBytes keep _) = _
      rw [encodeBytes_append, encodeBytes_append, hpin']

-- ============================================================== whole URLs

/-- No escape reaches over the sign before the PIN or into the PIN. -/
theorem unescapeUnreserved_inset {pin : Text} (h : pin.IsPin n)
    (front name after : Text) :
    unescapeUnreserved
        (front ++ .char '?' :: (name ++ .char '=' :: (pin ++ after)))
      = (unescapeUnreserved front).bind fun u =>
          (unescapeUnreserved name).bind fun v =>
            (unescapeUnreserved after).map fun w =>
              u ++ .char '?' :: (v ++ .char '=' :: (pin ++ w)) := by
  have hsigns : Text.isAlphanumeric (.char '?') = false
      ∧ Text.isAlphanumeric (.char '=') = false := by
    constructor <;> decide +kernel
  have hpin : .char '%' ∉ pin := by
    intro hmem
    exact h.forall (P := (· ≠ .char '%')) (by decide) _ hmem rfl
  rw [unescapeUnreserved_append (by rintro p ⟨rfl⟩; exact hsigns.1),
    unescapeUnreserved_cons (by decide),
    unescapeUnreserved_append (by rintro p ⟨rfl⟩; exact hsigns.2),
    unescapeUnreserved_cons (by decide), unescapeUnreserved_of_not_mem hpin]
  cases unescapeUnreserved front with
  | none => rfl
  | some u =>
      cases unescapeUnreserved name with
      | none => rfl
      | some v =>
          cases unescapeUnreserved after with
          | none => rfl
          | some w => rfl

/-- So it does when the whole URL is spelled out again. -/
theorem inset_encodeWhole (front name after : Text) :
    Inset n fun pin => encodeWhole
      (front ++ .char '?' :: (name ++ .char '=' :: (pin ++ after))) := by
  have hshape (a b c pin : Text) :
      a ++ .char '?' :: (b ++ .char '=' :: (pin ++ c))
        = (a ++ .char '?' :: (b ++ [.char '='])) ++ (pin ++ c) := by
    simp
  have hmem (a b : Text) : .char '?' ∈ a ++ .char '?' :: (b ++ [.char '=']) :=
    List.mem_append_right _ List.mem_cons_self
  have hspoiled (h : ∀ pin, pin.IsPin n → unescapeUnreserved
        (front ++ .char '?' :: (name ++ .char '=' :: (pin ++ after))) = none) :
      Inset n fun pin => encodeWhole
        (front ++ .char '?' :: (name ++ .char '=' :: (pin ++ after))) := by
    refine (inset_encode isUrlChar (by decide) (by decide)
      (hmem front name) after).congr fun pin hpin => ?_
    rw [encodeWhole, h pin hpin, hshape]
  cases hu : unescapeUnreserved front with
  | none =>
      exact hspoiled fun pin hpin => by
        rw [unescapeUnreserved_inset hpin, hu]
        rfl
  | some u =>
      cases hv : unescapeUnreserved name with
      | none =>
          exact hspoiled fun pin hpin => by
            rw [unescapeUnreserved_inset hpin, hu, hv]
            rfl
      | some v =>
          cases hw : unescapeUnreserved after with
          | none =>
              exact hspoiled fun pin hpin => by
                rw [unescapeUnreserved_inset hpin, hu, hv, hw]
                rfl
          | some w =>
              refine (inset_encode keepsEscapes (by decide) (by decide)
                (hmem u v) w).congr fun pin hpin => ?_
              rw [encodeWhole, unescapeUnreserved_inset hpin, hu, hv, hw,
                ← hshape]
              rfl

-- ============================================================= parameters

theorem join_concat (sep : Text) (t : Text) : ∀ ts : List Text,
    Text.join sep (ts ++ [t]) = ts.flatMap (· ++ sep) ++ t
  | [] => rfl
  | [s] => by simp [Text.join]
  | s :: s' :: ts => by
      have ih := join_concat sep t (s' :: ts)
      rw [List.cons_append] at ih
      rw [List.cons_append, List.cons_append, Text.join, ih]
      · simp
      · simp

/-- The parameters of a submission end in the PIN. -/
theorem encodeParameters_pin (u : Json) :
    (∃ f, ∀ pin, pin.IsPin n → encodeParameters
        [("uniqueid", u), ("pin", .str pin)] = .error f)
      ∨ ∃ name, ∀ pin, pin.IsPin n → encodeParameters
        [("uniqueid", u), ("pin", .str pin)]
          = .ok (name ++ .char '=' :: pin) := by
  have hpin {pin : Text} (h : pin.IsPin n) :
      encodeParameter "pin" (.str pin) = .ok ["pin" ++ ("=" ++ pin)] := by
    have htexts : parameterTexts (.str pin) = [pin] := rfl
    rw [encodeParameter, htexts, List.mapM_cons, encodeForm_pin h]
    rfl
  cases hu : encodeParameter "uniqueid" u with
  | error f =>
      refine .inl ⟨f, fun pin h => ?_⟩
      simp only [encodeParameters, List.mapM_cons, List.mapM_nil, hu]
      rfl
  | ok pieces =>
      refine .inr ⟨pieces.flatMap (· ++ "&") ++ "pin", fun pin h => ?_⟩
      simp only [encodeParameters, List.mapM_cons, List.mapM_nil, hu, hpin h]
      have hjoin := join_concat "&" ("pin" ++ ("=" ++ pin)) pieces
      refine (congrArg Except.ok hjoin).trans ?_
      rw [List.append_assoc]
      rfl

/-- They are added to whatever query there is. -/
theorem addToQuery_pin (query : Option Text) (name : Text) :
    ∃ name', ∀ pin : Text, addToQuery query (name ++ .char '=' :: pin)
      = some (name' ++ .char '=' :: pin) := by
  have hsome (pin : Text) : (name ++ .char '=' :: pin).isEmpty = false := by
    cases name <;> rfl
  cases query with
  | none => exact ⟨name, fun _ => rfl⟩
  | some q =>
      cases hq : q.isEmpty with
      | true => exact ⟨name, fun pin => by simp [addToQuery, hsome, hq]⟩
      | false =>
          refine ⟨q ++ "&" ++ name, fun pin => ?_⟩
          simp only [addToQuery, hsome, hq, Bool.false_eq_true, if_false,
            List.append_assoc]

-- =========================================================== the whole way

/-- A URL that is prepared as a web address has the PIN in it as it is. -/
theorem inset_prepareWeb (names : HostNames) (url : Text) (u : Json) :
    Inset n fun pin =>
      prepareWeb names url [("uniqueid", u), ("pin", .str pin)] := by
  unfold prepareWeb
  cases Parts.ofText names url with
  | error f => exact .refused f fun _ _ => rfl
  | ok parts =>
      simp only [bind, Except.bind]
      cases parts.scheme with
      | none => exact .refused _ fun _ _ => rfl
      | some scheme =>
          dsimp only
          split
          · exact .refused _ fun _ _ => rfl
          cases wireHost? names parts.host with
          | error f => exact .refused f fun _ _ => rfl
          | ok host =>
              dsimp only
              rcases encodeParameters_pin (n := n) u
                with ⟨f, hf⟩ | ⟨name, hname⟩
              · refine .refused f fun pin hpin => ?_
                rw [hf pin hpin]
              · obtain ⟨name', hname'⟩ := addToQuery_pin parts.query name
                let named : Parts := { parts with host }
                refine (inset_encodeWhole (named.front scheme) name'
                  (withMark "#" parts.fragment)).congr fun pin hpin => ?_
                have hmark : withMark "?" (some (name' ++ .char '=' :: pin))
                    = .char '?' :: (name' ++ .char '=' :: pin) :=
                  Parts.withMark_query (by simp)
                rw [hname pin hpin]
                dsimp only
                rw [hname', Parts.text_split]
                dsimp only
                rw [hmark, List.cons_append, List.append_assoc,
                  List.cons_append]
                rfl

-- ====================================================== up to the query

/-- What is looked for up to a sign is found before anything behind it. -/
theorem while_append {q : CodePoint → Bool} {p : CodePoint} {t : Text}
    (hmem : p ∈ t) (hq : q p = false) (s : Text) :
    (t ++ s).takeWhile q = t.takeWhile q
      ∧ (t ++ s).dropWhile q = t.dropWhile q ++ s ∧ p ∈ t.dropWhile q := by
  induction t with
  | nil => cases hmem
  | cons r t ih =>
      rw [List.cons_append, List.takeWhile_cons, List.takeWhile_cons,
        List.dropWhile_cons, List.dropWhile_cons]
      cases hr : q r with
      | true =>
          have hne : p ≠ r := by
            rintro rfl
            rw [hq] at hr
            cases hr
          obtain ⟨htake, hdrop, hleft⟩ :=
            ih ((List.mem_cons.mp hmem).resolve_left hne)
          exact ⟨congrArg (r :: ·) htake, hdrop, hleft⟩
      | false => exact ⟨rfl, rfl, hmem⟩

/-- A scheme is the longest stretch of its characters; it begins with a letter
and a colon follows. -/
theorem takeScheme_eq_some {signs : String} {t scheme r : Text} :
    takeScheme signs t = some (scheme, r)
      ↔ (∃ p ∈ t.head?, isLetter p = true)
        ∧ scheme = t.takeWhile (isSchemeChar signs)
        ∧ t.dropWhile (isSchemeChar signs) = .char ':' :: r := by
  unfold takeScheme
  constructor
  · intro h
    split at h
    · rename_i p t
      split at h
      · rename_i hletter
        split at h
        · rename_i hdrop
          cases h
          exact ⟨⟨p, rfl, hletter⟩, rfl, hdrop⟩
        · cases h
      · cases h
    · cases h
  · rintro ⟨⟨p, hp, hletter⟩, rfl, hdrop⟩
    cases t with
    | nil => cases hp
    | cons q t =>
        cases hp
        simp only [hletter, if_true]
        rw [hdrop]
        rfl

/-- A scheme goes, and what is left to read has the question mark. -/
theorem takeScheme_append {t : Text} (h : .char '?' ∈ t) (s : Text) :
    ((takeScheme "+.-" (t ++ s)).map (·.2)).getD (t ++ s)
        = ((takeScheme "+.-" t).map (·.2)).getD t ++ s
      ∧ .char '?' ∈ ((takeScheme "+.-" t).map (·.2)).getD t := by
  obtain ⟨htake, hdrop, hleft⟩ := while_append h
    (q := isSchemeChar "+.-") (by decide) s
  have hhead : (t ++ s).head? = t.head? := by
    obtain ⟨p, t, rfl⟩ := List.exists_cons_of_ne_nil (List.ne_nil_of_mem h)
    rfl
  cases hscheme : takeScheme "+.-" t with
  | some found =>
      obtain ⟨scheme, r⟩ := found
      obtain ⟨hletter, rfl, hr⟩ := takeScheme_eq_some.mp hscheme
      rw [hr] at hdrop hleft
      rw [takeScheme_eq_some.mpr
        ⟨by rw [hhead]; exact hletter, htake.symm, hdrop⟩]
      exact ⟨rfl, (List.mem_cons.mp hleft).resolve_left (by decide)⟩
  | none =>
      cases hscheme' : takeScheme "+.-" (t ++ s) with
      | none => exact ⟨rfl, h⟩
      | some found =>
          obtain ⟨scheme, r⟩ := found
          obtain ⟨hletter, -, hr⟩ := takeScheme_eq_some.mp hscheme'
          obtain ⟨c, r', hc⟩ :=
            List.exists_cons_of_ne_nil (List.ne_nil_of_mem hleft)
          rw [hdrop, hc, List.cons_append, List.cons.injEq] at hr
          rw [hr.1] at hc
          rw [takeScheme_eq_some.mpr
            ⟨by rw [← hhead]; exact hletter, rfl, hc⟩] at hscheme
          cases hscheme

/-- The authority that two slashes announce. -/
def announced : Text → Text
  | .char '/' :: .char '/' :: r => r.takeWhile (!Reference.endsAuthority ·)
  | _ => []

/-- What follows a question mark has no say in the authority. -/
theorem announced_append {t : Text} (h : .char '?' ∈ t) (s : Text) :
    announced (t ++ s) = announced t := by
  by_cases hslashes : ∃ r, t = .char '/' :: .char '/' :: r
  · obtain ⟨r, rfl⟩ := hslashes
    have hr : .char '?' ∈ r := by simpa using h
    exact (while_append hr (q := (!Reference.endsAuthority ·)) (by decide) s).1
  · have hnone (u : Text) (hu : ∀ r, u ≠ .char '/' :: .char '/' :: r) :
        announced u = [] := by
      unfold announced
      split
      · exact absurd rfl (hu _)
      · rfl
    rw [hnone t fun r hr => hslashes ⟨r, hr⟩, hnone (t ++ s)]
    intro r hr
    match t with
    | [] => cases h
    | [p] =>
        obtain rfl := List.mem_singleton.mp h
        exact absurd (List.cons.inj hr).1 (by decide)
    | p :: q :: t =>
        rw [List.cons_append, List.cons_append, List.cons.injEq,
          List.cons.injEq] at hr
        exact hslashes ⟨t, by rw [hr.1, hr.2.1]⟩

/-- What is left of a text to be read, once blanks and ends of lines are
gone. -/
def legible (t : Text) : Text :=
  (t.dropWhile fun p => p.code ≤ 0x20).filter fun p =>
    !("\t\r\n".toList.map CodePoint.char).contains p

/-- The authority is announced behind the scheme. -/
theorem authority_eq (t : Text) :
    (Reference.ofText t).authority = announced
      (((takeScheme "+.-" (legible t)).map (·.2)).getD (legible t)) := by
  unfold Reference.ofText
  dsimp only
  rw [legible]
  generalize Option.getD _ _ = r
  unfold announced
  split
  · rfl
  · rename_i hother
    split
    · exact absurd rfl (hother _)
    · rfl

/-- What a text is read as names the same host with anything behind its
first question mark. -/
theorem authority_append {t : Text} (h : .char '?' ∈ t) (s : Text) :
    (Reference.ofText (t ++ s)).authority = (Reference.ofText t).authority := by
  obtain ⟨-, hdrop, hleft⟩ := while_append h
    (q := fun p => decide (p.code ≤ 0x20)) (by decide) s
  have hmem : .char '?' ∈ legible t := List.mem_filter.mpr ⟨hleft, by decide⟩
  obtain ⟨s', hlegible⟩ : ∃ s', legible (t ++ s) = legible t ++ s' := by
    rw [legible, hdrop, List.filter_append]
    exact ⟨_, rfl⟩
  obtain ⟨hrest, hmem⟩ := takeScheme_append hmem s'
  rw [authority_eq, authority_eq, hlegible, hrest, announced_append hmem]

/-- The credentials of a URL are settled before its query. -/
theorem checkCredentials_append {t : Text} (h : .char '?' ∈ t) (s : Text)
    (given : Option (Text × Text)) :
    checkCredentials given (t ++ s) = checkCredentials given t := by
  simp only [checkCredentials, checkAuthority, authority_append h]

theorem isPrefixOf_append {pattern t : Text} {p : CodePoint} (hmem : p ∈ t)
    (hp : p ∉ pattern) (s : Text) :
    pattern.isPrefixOf (t ++ s) = pattern.isPrefixOf t := by
  induction pattern generalizing t with
  | nil => simp
  | cons q pattern ih =>
      rw [List.mem_cons, not_or] at hp
      cases t with
      | nil => cases hmem
      | cons r t =>
          rw [List.cons_append, List.isPrefixOf, List.isPrefixOf]
          by_cases hqr : q = r
          · subst hqr
            rw [ih ((List.mem_cons.mp hmem).resolve_left hp.1) hp.2]
          · rw [beq_eq_false_iff_ne.mpr hqr, Bool.false_and, Bool.false_and]

/-- Whether an address is served is settled before its query. -/
theorem isServed_append {t : Text} (h : .char '?' ∈ t) (s : Text) :
    isServed (t ++ s) = isServed t := by
  have hmem : .char '?' ∈ t.map CodePoint.toLower :=
    List.mem_map.mpr ⟨_, h, rfl⟩
  unfold isServed beginsWith Text.startsWith
  rw [List.map_append, isPrefixOf_append hmem (by decide),
    isPrefixOf_append hmem (by decide)]

/-- A text of another kind is served by nobody. -/
theorem isServed_of_isForeign {t : Text} (h : isForeign t = true) :
    isServed t = false := by
  have hhttp {s : String} (hs : Text.ofString "http" <+: Text.ofString s)
      (hbegins : beginsWith t s = true) : beginsWith t "http" = true := by
    have hbegins := List.isPrefixOf_iff_prefix.mp hbegins
    exact List.isPrefixOf_iff_prefix.mpr (hs.trans hbegins)
  rw [isForeign, Bool.and_eq_true, Bool.not_eq_true'] at h
  rw [← Bool.not_eq_true]
  intro hserved
  rcases Bool.or_eq_true_iff.mp hserved with hbegins | hbegins
  · rw [hhttp (by decide) hbegins] at h
    cases h.2
  · rw [hhttp (by decide) hbegins] at h
    cases h.2

/-- What a request is sent to, where the address could be the web's. -/
theorem inset_prepare (names : HostNames) (given : Option (Text × Text))
    {url : Text} (u : Json) (h : isForeign url.trimLeft = false) :
    Inset n fun pin =>
      prepare names given url [("uniqueid", u), ("pin", .str pin)] := by
  cases inset_prepareWeb (n := n) names url.trimLeft u with
  | refused fault hfault =>
      refine .refused fault fun pin hpin => ?_
      simp only [prepare, h, hfault pin hpin]
      rfl
  | inset before after hquery hinset =>
      cases hcheck : checkCredentials given before with
      | error f =>
          refine .refused f fun pin hpin => ?_
          simp only [prepare, h, hinset pin hpin]
          show (checkCredentials _ _ >>= fun _ => _) = _
          rw [checkCredentials_append hquery, hcheck]
          rfl
      | ok _ =>
          refine .inset before after hquery fun pin hpin => ?_
          simp only [prepare, h, hinset pin hpin]
          show (checkCredentials _ _ >>= fun _ => _) = _
          rw [checkCredentials_append hquery, hcheck]
          rfl

/-- An address of another kind is taken as it is. -/
theorem prepare_of_isForeign {names : HostNames} {given : Option (Text × Text)}
    {url : Text} (h : isForeign url.trimLeft = true)
    (parameters : List (String × Json)) :
    prepare names given url parameters
      = (checkCredentials given url.trimLeft).map fun _ => url.trimLeft := by
  simp only [prepare, h, if_true]
  show (checkCredentials _ _ >>= fun _ => _) = _
  cases checkCredentials given url.trimLeft <;> rfl

-- ========================================================== web addresses

/-- The scheme of the parts is that of the text, in small letters. -/
theorem scheme_of_ofText {names : HostNames} {url scheme r : Text}
    {parts : Parts} (hanchored : anchored url = url)
    (hscheme : takeScheme "+.-" url = some (scheme, r))
    (h : Parts.ofText names url = .ok parts) :
    parts.scheme = some (scheme.map CodePoint.toLower) := by
  have hlast {β : Type} {x : Except Fault β} {f : β → Except Fault Parts}
      (hf : ∀ b parts, f b = .ok parts →
        parts.scheme = some (scheme.map CodePoint.toLower))
      {parts : Parts} (h : x >>= f = .ok parts) :
      parts.scheme = some (scheme.map CodePoint.toLower) := by
    obtain ⟨b, -, h⟩ := bind_eq_ok.mp h
    exact hf b parts h
  unfold Parts.ofText at h
  rw [hanchored] at h
  dsimp only at h
  rw [hscheme] at h
  dsimp only at h
  -- wherever the authority comes from, the scheme is put in as it was cut
  split at h
  · refine hlast (fun _ _ h => ?_) h
    split at h <;> exact hlast (fun _ _ h => by cases h; rfl) h
  · split at h
    · refine hlast (fun _ _ h => ?_) h
      split at h <;> exact hlast (fun _ _ h => by cases h; rfl) h
    · refine hlast (fun _ _ h => ?_) h
      split at h <;> exact hlast (fun _ _ h => by cases h; rfl) h

/-- Only a letter becomes one when it is made small. -/
theorem isLetter_of_toLower {p : CodePoint} (h : isLetter p.toLower = true) :
    isLetter p = true := by
  cases p with
  | surrogate m => cases h
  | char c =>
      by_cases hc : c.toNat < 128
      · exact forall_ascii
          (P := fun c => isLetter (CodePoint.char c).toLower = true
            → isLetter (.char c) = true) (by decide) hc h
      · rw [CodePoint.toLower, toLower_beyond_ascii hc] at h
        exact h

/-- Letters up to a colon are a scheme, whatever signs one may hold. -/
theorem takeScheme_letters (signs : String) {a : Text} (hne : a ≠ [])
    (ha : ∀ p ∈ a, isLetter p = true)
    (hcolon : isSchemeChar signs (.char ':') = false)
    (r : Text) : takeScheme signs (a ++ .char ':' :: r) = some (a, r) := by
  have hsigns : ∀ p ∈ a, isSchemeChar signs p = true := by
    intro p hp
    have hp := ha p hp
    cases p with
    | surrogate m => cases hp
    | char c =>
        rw [isSchemeChar, Char.isAlphanum, show c.isAlpha = true from hp]
        rfl
  refine takeScheme_eq_some.mpr ⟨?_, ?_, ?_⟩
  · obtain ⟨p, a, rfl⟩ := List.exists_cons_of_ne_nil hne
    exact ⟨p, rfl, ha p List.mem_cons_self⟩
  · rw [List.takeWhile_append_of_pos hsigns, List.takeWhile_cons, hcolon]
    simp
  · rw [List.dropWhile_append_of_pos hsigns, List.dropWhile_cons, hcolon]
    rfl

/-- What a final spelling keeps at the beginning of a URL. -/
theorem prefix_of_encodeWhole {a s t : Text}
    (ha : ∀ p ∈ a, ∃ c, p = .char c ∧ c.toNat < 128 ∧ isUrlChar c = true)
    (h : encodeWhole (a ++ s) = .ok t) : a <+: t := by
  have hpercent : .char '%' ∉ a := by
    intro hmem
    obtain ⟨c, hc, -, hkept⟩ := ha _ hmem
    rw [← CodePoint.char.inj hc] at hkept
    exact absurd hkept (by decide)
  have hstart {keep : Char → Bool}
      (hkeep : ∀ c, isUrlChar c = true → keep c = true)
      {s : Text} (h : (Text.encode (a ++ s)).map (encodeBytes keep) = .ok t) :
      a <+: t := by
    obtain ⟨bytes, hbytes, rfl⟩ := map_eq_ok.mp h
    rw [eq_of_encode hbytes, encodeBytes_append,
      encodeBytes_of_kept fun p hp => by
      obtain ⟨c, hc, hlt, hkept⟩ := ha p hp
      exact ⟨c, hc, hlt, hkeep c hkept⟩]
    exact List.prefix_append _ _
  rw [encodeWhole, unescapeUnreserved_of_not_mem hpercent] at h
  cases hs : unescapeUnreserved s with
  | none =>
      rw [hs] at h
      exact hstart (fun _ hc => hc) h
  | some u =>
      rw [hs] at h
      exact hstart (fun c hc => by rw [hc, Bool.true_or]) h

theorem ofString_append (s t : String) :
    Text.ofString (s ++ t) = Text.ofString s ++ Text.ofString t := by
  simp only [Text.ofString, String.toList_append, List.map_append]

/-- A web URL begins with the name of its scheme, in any case. -/
theorem exists_scheme {url : Text} {name : String}
    (hname : ∀ p ∈ Text.ofString name, isLetter p = true)
    (h : beginsWith url (name ++ "://") = true) :
    ∃ a r, url = a ++ .char ':' :: r
      ∧ a.map CodePoint.toLower = Text.ofString name
      ∧ ∀ p ∈ a, isLetter p = true := by
  obtain ⟨s, hs⟩ := List.isPrefixOf_iff_prefix.mp h
  rw [ofString_append, List.append_assoc] at hs
  obtain ⟨a, b, rfl, ha, hb⟩ := List.map_eq_append_iff.mp hs.symm
  obtain ⟨p, r, rfl, hp, -⟩ := List.map_eq_cons_iff.mp hb
  have hcolon : p.toLower = .char ':' := hp
  refine ⟨a, r, by rw [toLower_eq hcolon (by decide)], ha, fun p hp => ?_⟩
  refine isLetter_of_toLower (hname _ ?_)
  rw [← ha]
  exact List.mem_map_of_mem hp

/-- Parts are put together behind their scheme. -/
theorem Parts.prefix_text (scheme : Text) (parts : Parts) :
    scheme ++ Text.ofString "://" <+: parts.text scheme := by
  rw [text_split, front, beforeHost, List.append_assoc, List.append_assoc]
  exact List.prefix_append _ _

/-- A web URL stays one. -/
theorem isServed_prepareWeb {names : HostNames} {url t : Text}
    {parameters : List (String × Json)} (h : isServed url = true)
    (hok : prepareWeb names url parameters = .ok t) : isServed t = true := by
  have hweb (name : String) (hname : name = "http" ∨ name = "https")
      (hbegins : beginsWith url (name ++ "://") = true) :
      beginsWith t (name ++ "://") = true := by
    have hletters : ∀ p ∈ Text.ofString name, isLetter p = true := by
      rcases hname with rfl | rfl <;> decide
    obtain ⟨a, r, rfl, ha, hletter⟩ := exists_scheme hletters hbegins
    have hne : a ≠ [] := by
      rintro rfl
      rcases hname with rfl | rfl <;> cases ha
    have hscheme := takeScheme_letters "+.-" hne hletter (by decide) r
    have hanchored : anchored (a ++ .char ':' :: r) = a ++ .char ':' :: r := by
      rw [anchored, takeScheme_letters "+-" hne hletter (by decide) r,
        Option.isSome_some, Bool.or_true, if_pos rfl]
    obtain ⟨parts, hparts, hok⟩ := bind_eq_ok.mp hok
    rw [scheme_of_ofText hanchored hscheme hparts, ha] at hok
    dsimp only at hok
    split_ifs at hok
    obtain ⟨host, -, hok⟩ := bind_eq_ok.mp hok
    obtain ⟨encoded, -, hok⟩ := bind_eq_ok.mp hok
    have hkept : ∀ p ∈ Text.ofString (name ++ "://"),
        ∃ c, p = .char c ∧ c.toNat < 128 ∧ isUrlChar c = true := by
      have hall : ((name ++ "://").toList.all fun c =>
          decide (c.toNat < 128) && isUrlChar c) = true := by
        rcases hname with rfl | rfl <;> decide
      intro p hp
      obtain ⟨c, hc, rfl⟩ := List.mem_map.mp hp
      have hc := List.all_eq_true.mp hall c hc
      rw [Bool.and_eq_true, decide_eq_true_eq] at hc
      exact ⟨c, rfl, hc⟩
    have hlower : (Text.ofString (name ++ "://")).map CodePoint.toLower
        = Text.ofString (name ++ "://") := by
      rcases hname with rfl | rfl <;> decide
    obtain ⟨rest, hrest⟩ := Parts.prefix_text (Text.ofString name)
      { parts with
        scheme := some (Text.ofString name)
        host, query := addToQuery parts.query encoded }
    rw [← hrest, ← ofString_append] at hok
    obtain ⟨s, rfl⟩ := prefix_of_encodeWhole hkept hok
    refine List.isPrefixOf_iff_prefix.mpr ?_
    rw [List.map_append, hlower]
    exact List.prefix_append _ _
  rcases Bool.or_eq_true_iff.mp h with h | h
  · exact Bool.or_eq_true_iff.mpr (.inl (hweb "http" (.inl rfl) h))
  · exact Bool.or_eq_true_iff.mpr (.inr (hweb "https" (.inr rfl) h))

/-- An address that is served is still served once it has been prepared. -/
theorem isServed_prepare {names : HostNames} {given : Option (Text × Text)}
    {url t : Text} {parameters : List (String × Json)}
    (h : isServed url.trimLeft = true)
    (hok : prepare names given url parameters = .ok t) : isServed t = true := by
  have hweb : isForeign url.trimLeft = false := by
    rw [← Bool.not_eq_true]
    intro hforeign
    rw [isServed_of_isForeign hforeign] at h
    cases h
  simp only [prepare, hweb, Bool.false_eq_true, if_false] at hok
  obtain ⟨prepared, hprepared, hok⟩ := bind_eq_ok.mp hok
  obtain ⟨_, -, hok⟩ := bind_eq_ok.mp hok
  cases hok
  exact isServed_prepareWeb h hprepared

end Url

end DevicePairing
