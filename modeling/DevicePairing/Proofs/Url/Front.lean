/-
What stands before the query.

An address is cut into its parts, each part is brought into its normal
form, and the parts are put together again. On the way nothing comes in
that would end the part before the query: neither a question mark nor a
hash. And the percent signs of a user, a registered name and a path all
begin escapes. Only the zone of an address in brackets may have one that
does not, so it alone can spoil the spelling of the URL
(`unescapeUnreserved_front`).
-/
import DevicePairing.Proofs.Number.Digits
import DevicePairing.Proofs.Url.Whole
import DevicePairing.Url.Prepared

namespace DevicePairing.Url

open Text (isAlphanumeric pieces)

-- ================================================================== ASCII

/-- What holds of ASCII is checked character by character. -/
theorem forall_ascii {P : Char → Prop} (h : ∀ n : Fin 128, P (Char.ofNat n))
    {c : Char} (hc : c.toNat < 128) : P c := by
  have hn := h ⟨c.toNat, hc⟩
  rw [Char.ofNat_toNat] at hn
  exact hn

/-- A hexadecimal digit is unreserved, and has its value in upper case too. -/
theorem hexDigit?_eq_some {a : CodePoint} {x : Nat} (h : a.hexDigit? = some x) :
    a.toUpper.hexDigit? = some x
      ∧ ∃ c, a = .char c ∧ isUnreserved c = true := by
  cases a with
  | surrogate n => cases h
  | char c =>
      have hlt : c.toNat < 128 := by
        unfold CodePoint.hexDigit? at h
        dsimp only at h
        split_ifs at h <;> omega
      have hall := forall_ascii (P := fun c =>
        (CodePoint.char c).hexDigit? ≠ none →
          (CodePoint.char c).toUpper.hexDigit? = (CodePoint.char c).hexDigit?
            ∧ isUnreserved c = true) (by decide) hlt
      rw [h] at hall
      obtain ⟨hupper, hc⟩ := hall (Option.some_ne_none x)
      exact ⟨hupper, c, rfl, hc⟩

/-- A delimiter is no digit of an escape. -/
theorem char_ne_of_hexDigit {a : CodePoint} {x : Nat}
    (ha : a.hexDigit? = some x)
    {d : Char} (hd : isUnreserved d = false) : .char d ≠ a := by
  obtain ⟨-, c, rfl, hun⟩ := hexDigit?_eq_some ha
  rintro h
  rw [← CodePoint.char.inj h, hd] at hun
  cases hun

/-- Lower case is a matter of ASCII alone. -/
theorem toLower_beyond_ascii {c : Char} (h : ¬c.toNat < 128) :
    c.toLower = c := by
  refine dif_neg fun hupper => h ?_
  exact Nat.lt_of_le_of_lt (UInt32.le_iff_toNat_le.mp hupper.2) (by decide)

/-- Nothing but a capital letter has another lower case. -/
theorem toLower_eq {p : CodePoint} {d : Char} (h : p.toLower = .char d)
    (hd : d.isLower = false) : p = .char d := by
  cases p with
  | surrogate n => cases h
  | char c =>
      have hc : c.toLower = d := CodePoint.char.inj h
      have hcase : c.toLower = c ∨ c.toLower.isLower = true := by
        by_cases hlt : c.toNat < 128
        · exact forall_ascii
            (P := fun c => c.toLower = c ∨ c.toLower.isLower = true)
            (by decide) hlt
        · exact .inl (toLower_beyond_ascii hlt)
      rcases hcase with hsame | hlower
      · rw [← hc, hsame]
      · rw [hc, hd] at hlower
        cases hlower

theorem isLower_of_not_unreserved {d : Char} (h : isUnreserved d = false) :
    d.isLower = false := by
  rw [← Bool.not_eq_true]
  intro hlower
  have hlt : d.toNat < 128 := by
    delta Char.isLower at hlower
    rw [Bool.and_eq_true, decide_eq_true_eq, decide_eq_true_eq] at hlower
    exact Nat.lt_of_le_of_lt (UInt32.le_iff_toNat_le.mp hlower.2) (by decide)
  have hun :=
    forall_ascii (P := fun d => d.isLower = true → isUnreserved d = true)
    (by decide) hlt hlower
  rw [h] at hun
  cases hun

-- ============================================================= components

/-- An escape is spelled. -/
theorem isSpelled_escapeByte (b : UInt8) : IsSpelled (escapeByte b) := by
  have hb := b.toNat_lt
  exact .escape (hexDigit?_upperHex (by omega)) (hexDigit?_upperHex (by omega))
    .nil

/-- A byte is written as a character or as an escape. -/
theorem isSpelled_encodeByte {keep : Char → Bool} {b : UInt8}
    (h : keep '%' = false ∨ b ≠ 0x25) : IsSpelled (encodeByte keep b) := by
  unfold encodeByte
  dsimp only
  split
  · rename_i hkeep
    rw [Bool.and_eq_true, decide_eq_true_eq] at hkeep
    refine .plain ?_ .nil
    rw [ne_eq, CodePoint.char.injEq]
    intro hc
    rcases h with h | h
    · rw [hc, h] at hkeep
      exact absurd hkeep.2 Bool.false_ne_true
    · have hbytes := utf8_ofNat hkeep.1
      have hpercent : (CodePoint.char '%').utf8 = [0x25] := by decide
      rw [hc, hpercent] at hbytes
      exact h (List.cons.inj hbytes).1.symm
  · exact isSpelled_escapeByte b

/-- What escapes percent signs, or has none to escape, leaves a text spelled. -/
theorem isSpelled_flatMap {keep : Char → Bool} {bytes : Bytes}
    (h : keep '%' = false ∨ 0x25 ∉ bytes) :
    IsSpelled (bytes.flatMap (encodeByte keep)) := by
  induction bytes with
  | nil => exact .nil
  | cons b bytes ih =>
      rw [List.flatMap_cons]
      refine .append (isSpelled_encodeByte ?_) (ih ?_)
      · exact h.imp_right fun h hb => h (by rw [hb]; exact List.mem_cons_self)
      · exact h.imp_right fun h hb => h (List.mem_cons_of_mem _ hb)

/-- Proper escapes outlast an encoding that keeps percent signs. -/
theorem IsSpelled.encodeBytes {keep : Char → Bool} (hpercent : keep '%' = true)
    (hkeep : ∀ c, isUnreserved c = true → keep c = true) {t : Text}
    (h : IsSpelled t) : IsSpelled (encodeBytes keep t.utf8) := by
  induction h with
  | nil => exact .nil
  | @plain p t hp ht ih =>
      unfold Url.encodeBytes at ih ⊢
      rw [utf8_cons, List.flatMap_append]
      refine .append (isSpelled_flatMap (.inr fun hb => hp ?_)) ih
      have hmem := mem_of_mem_utf8 (t := [p]) (by rwa [utf8_cons, Text.utf8,
        List.flatMap_nil, List.append_nil]) (by decide)
      exact (List.mem_singleton.mp hmem).symm
  | @escape a b x y t ha hb ht ih =>
      obtain ⟨-, c, rfl, hc⟩ := hexDigit?_eq_some ha
      obtain ⟨-, d, rfl, hd⟩ := hexDigit?_eq_some hb
      have hkept : Url.encodeBytes keep
        (Text.utf8 [.char '%', .char c, .char d])
          = [.char '%', .char c, .char d] := by
        refine encodeBytes_of_kept fun p hp => ?_
        simp only [List.mem_cons, List.not_mem_nil, or_false] at hp
        rcases hp with rfl | rfl | rfl
        · exact ⟨_, rfl, by decide, hpercent⟩
        · exact ⟨_, rfl, lt_of_isUnreserved hc, hkeep _ hc⟩
        · exact ⟨_, rfl, lt_of_isUnreserved hd, hkeep _ hd⟩
      have hsplit : (.char '%' :: .char c :: .char d :: t : Text)
          = [.char '%', .char c, .char d] ++ t := rfl
      rw [hsplit, encodeBytes_append, hkept]
      exact .escape ha hb ih

theorem exists_of_isEscape {t : Text} (h : isEscape (.char '%' :: t) = true) :
    ∃ a b x y r, t = a :: b :: r ∧ a.hexDigit? = some x
      ∧ b.hexDigit? = some y := by
  unfold isEscape at h
  split at h
  · rename_i a b r heq
    cases heq
    rw [Bool.and_eq_true, Option.isSome_iff_exists,
      Option.isSome_iff_exists] at h
    obtain ⟨⟨x, hx⟩, y, hy⟩ := h
    exact ⟨_, _, x, y, _, rfl, hx, hy⟩
  · cases h

/-- Escapes in upper case are escapes. -/
theorem isSpelled_upperEscapes : ∀ {t : Text}, (upperEscapes 0 t).2 = true →
    IsSpelled (upperEscapes 0 t).1
  | [], _ => .nil
  | p :: t, h => by
      by_cases hp : p = .char '%'
      · subst hp
        have hone : isEscape (.char '%' :: t) = true := by
          rw [upperEscapes, if_pos rfl, Bool.and_eq_true] at h
          exact h.2
        obtain ⟨a, b, x, y, r, rfl, ha, hb⟩ := exists_of_isEscape hone
        simp only [upperEscapes, hone, if_true, Bool.and_true] at h ⊢
        exact .escape (hexDigit?_eq_some ha).1 (hexDigit?_eq_some hb).1
          (isSpelled_upperEscapes h)
      · rw [upperEscapes, if_neg hp] at h ⊢
        exact .plain hp (isSpelled_upperEscapes h)
termination_by t => t.length

/-- The percent signs of a component all begin escapes. -/
theorem isSpelled_encodeComponent {keep : Char → Bool}
    (hpercent : keep '%' = false)
    (hkeep : ∀ c, isUnreserved c = true → keep c = true) (t : Text) :
    IsSpelled (encodeComponent keep t) := by
  unfold encodeComponent
  dsimp only
  cases hall : (upperEscapes 0 t).2 with
  | true =>
      refine IsSpelled.encodeBytes (by simp) ?_ (isSpelled_upperEscapes hall)
      intro c hc
      rw [hkeep c hc, Bool.true_or]
  | false =>
      refine isSpelled_flatMap (.inl ?_)
      rw [hpercent]
      rfl

/-- What a component does not keep is not in it. -/
theorem not_mem_encodeComponent {keep : Char → Bool} {c : Char}
    (hkeep : keep c = false) (hpercent : c ≠ '%') (hc : isUnreserved c = false)
    (t : Text) : .char c ∉ encodeComponent keep t := by
  intro h
  obtain ⟨b, -, h⟩ := List.mem_flatMap.mp h
  obtain ⟨d, hd, -, ⟨hkept, -⟩ | rfl | hun⟩ := mem_encodeByte h
  · rw [← CodePoint.char.inj hd, hkeep, Bool.false_or, Bool.and_eq_true,
      beq_iff_eq] at hkept
    exact hpercent hkept.2
  · exact hpercent (CodePoint.char.inj hd)
  · rw [← CodePoint.char.inj hd, hc] at hun
    cases hun

-- ================================================================== hosts

/-- Whether a host of an address can be told. -/
def isHost (t : Text) : Bool := isRegisteredName 0 t || isBracketed t

/-- A name that is registered is spelled. -/
theorem isSpelled_of_isRegisteredName : ∀ {t : Text},
    isRegisteredName 0 t = true → IsSpelled t
  | [], _ => .nil
  | p :: t, h => by
      rw [isRegisteredName] at h
      by_cases hp : p = .char '%'
      · subst hp
        rw [if_pos rfl, Bool.and_eq_true] at h
        obtain ⟨a, b, x, y, r, rfl, ha, hb⟩ := exists_of_isEscape h.1
        exact .escape ha hb (isSpelled_of_isRegisteredName h.2)
      · rw [if_neg hp, Bool.and_eq_true] at h
        exact .plain hp (isSpelled_of_isRegisteredName h.2)
termination_by t => t.length

/-- No delimiter of a URL is in a registered name. -/
theorem not_mem_of_isRegisteredName {d : Char} (hd : d = '?' ∨ d = '#') :
    ∀ {t : Text}, isRegisteredName 0 t = true → .char d ∉ t
  | [], _ => List.not_mem_nil
  | p :: t, h => by
      rw [isRegisteredName] at h
      by_cases hp : p = .char '%'
      · subst hp
        rw [if_pos rfl, Bool.and_eq_true] at h
        obtain ⟨a, b, x, y, r, rfl, ha, hb⟩ := exists_of_isEscape h.1
        have hun : isUnreserved d = false := by
          rcases hd with rfl | rfl <;> decide
        have hr : .char d ∉ r := not_mem_of_isRegisteredName hd h.2
        have hpercent : CodePoint.char d ≠ .char '%' := by
          rcases hd with rfl | rfl <;> decide
        simp only [List.mem_cons, not_or]
        exact ⟨hpercent, char_ne_of_hexDigit ha hun, char_ne_of_hexDigit hb hun,
          hr⟩
      · rw [if_neg hp, Bool.and_eq_true] at h
        rw [List.mem_cons, not_or]
        refine ⟨?_, not_mem_of_isRegisteredName hd h.2⟩
        rintro rfl
        rcases hd with rfl | rfl <;> cases h.1
termination_by t => t.length

theorem normalName_cons {p : CodePoint} (hp : p ≠ .char '%') (t : Text) :
    normalName (p :: t) = p.toLower :: normalName t := by
  obtain ⟨q, qs, h⟩ :=
    List.exists_cons_of_ne_nil (Text.pieces_ne_nil (.char '%') t)
  have hcons : pieces (.char '%') (p :: t) = (p :: q) :: qs := by
    rw [pieces, if_neg hp, h]
  rw [normalName, normalName, h, hcons]
  rfl

/-- An escape in a name gives way to its character or is spelled in upper
case. -/
theorem normalName_escape {a b : CodePoint} {x y : Nat}
    (ha : a.hexDigit? = some x) (hb : b.hexDigit? = some y) (t : Text) :
    normalName (.char '%' :: a :: b :: t)
      = if isUnreserved (Char.ofNat (x * 16 + y))
        then .char (Char.ofNat (x * 16 + y)).toLower :: normalName t
        else .char '%' :: a.toUpper :: b.toUpper :: normalName t := by
  obtain ⟨q, qs, h⟩ :=
    List.exists_cons_of_ne_nil (Text.pieces_ne_nil (.char '%') t)
  have hcons : pieces (.char '%') (.char '%' :: a :: b :: t)
      = [] :: (a :: b :: q) :: qs := by
    rw [pieces, if_pos rfl, pieces, if_neg (ne_percent_of_hexDigit ha), pieces,
      if_neg (ne_percent_of_hexDigit hb), h]
  rw [normalName, normalName, h, hcons]
  simp only [List.map_cons, normalName.unescapeNamePiece, ha, hb]
  split <;> rfl

/-- A name in its normal form has the delimiters that it had, and its
percent signs still begin escapes. -/
theorem IsSpelled.normalName {t : Text} (h : IsSpelled t) :
    IsSpelled (normalName t)
      ∧ ∀ d : Char, .char d ∉ t → d ≠ '%' → isUnreserved d = false →
        .char d ∉ Url.normalName t := by
  have hlower {c d : Char} (hc : isUnreserved c = true)
      (hd : isUnreserved d = false) : .char d ≠ CodePoint.char c.toLower := by
    intro h
    have hsame :=
      toLower_eq (p := .char c) h.symm (isLower_of_not_unreserved hd)
    rw [CodePoint.char.inj hsame, hd] at hc
    cases hc
  have hhex {a : CodePoint} {x : Nat} (ha : a.hexDigit? = some x) {d : Char} :
      isUnreserved d = false → .char d ≠ a.toUpper :=
    char_ne_of_hexDigit (hexDigit?_eq_some ha).1
  induction h with
  | nil => exact ⟨.nil, fun _ h _ _ => h⟩
  | @plain p t hp ht ih =>
      obtain ⟨ih, hmem⟩ := ih
      rw [normalName_cons hp]
      refine ⟨.plain (fun h => hp (toLower_eq h (by decide))) ih, ?_⟩
      intro d hd hpercent hun
      rw [List.mem_cons, not_or] at hd ⊢
      refine ⟨fun h => hd.1 ?_, hmem d hd.2 hpercent hun⟩
      exact (toLower_eq h.symm (isLower_of_not_unreserved hun)).symm
  | @escape a b x y t ha hb ht ih =>
      obtain ⟨ih, hmem⟩ := ih
      rw [normalName_escape ha hb]
      split
      · rename_i hc
        refine ⟨.plain (hlower hc (by decide)).symm ih, ?_⟩
        intro d hd hpercent hun
        simp only [List.mem_cons, not_or] at hd ⊢
        exact ⟨hlower hc hun, hmem d hd.2.2.2 hpercent hun⟩
      · refine ⟨.escape (hexDigit?_eq_some ha).1 (hexDigit?_eq_some hb).1 ih,
          ?_⟩
        intro d hd hpercent hun
        simp only [List.mem_cons, not_or] at hd ⊢
        refine ⟨?_, hhex ha hun, hhex hb hun, hmem d hd.2.2.2 hpercent hun⟩
        exact fun h => hpercent (CodePoint.char.inj h)

theorem isSpelled_map_toLower {t : Text} (h : .char '%' ∉ t) :
    IsSpelled (t.map CodePoint.toLower) := by
  refine isSpelled_of_not_mem fun hmem => h ?_
  obtain ⟨p, hp, hlower⟩ := List.mem_map.mp hmem
  rw [← toLower_eq hlower (by decide)]
  exact hp

theorem not_mem_map_toLower {t : Text} {d : Char} (h : .char d ∉ t)
    (hun : isUnreserved d = false) : .char d ∉ t.map CodePoint.toLower := by
  intro hmem
  obtain ⟨p, hp, hlower⟩ := List.mem_map.mp hmem
  rw [toLower_eq hlower (isLower_of_not_unreserved hun)] at hp
  exact h hp

/-- Of a host that can be told, only the zone of an address may have a
percent sign that begins no escape. -/
theorem isSpelled_normalHost {host : Text} (h : isHost host = true) :
    IsSpelled (normalHost host)
      ∨ isBracketed host = true ∧ .char '%' ∈ host := by
  unfold normalHost
  cases hbracketed : isBracketed host with
  | true =>
      by_cases hpercent : .char '%' ∈ host
      · exact .inr ⟨rfl, hpercent⟩
      · left
        rw [if_pos rfl, Text.cut_of_not_mem hpercent]
        exact isSpelled_map_toLower hpercent
  | false =>
      left
      rw [isHost, hbracketed, Bool.or_false] at h
      have hspelled := isSpelled_of_isRegisteredName h
      rw [if_neg Bool.false_ne_true]
      split
      · exact hspelled
      · exact hspelled.normalName.1

/-- No delimiter comes into a host with its normal form. -/
theorem not_mem_normalHost {host : Text} (h : isHost host = true) {d : Char}
    (hd : .char d ∉ host) (hpercent : d ≠ '%') (hclose : d ≠ ']')
    (hun : isUnreserved d = false) : .char d ∉ normalHost host := by
  unfold normalHost
  cases hbracketed : isBracketed host with
  | true =>
      rw [if_pos rfl]
      split
      · rename_i address hcut
        rw [Text.eq_of_cut hcut, Option.elim_none, List.append_nil] at hd
        exact not_mem_map_toLower hd hun
      · rename_i address zone hcut
        rw [Text.eq_of_cut hcut, List.mem_append, not_or] at hd
        have haddress := not_mem_map_toLower hd.1 hun
        intro hmem
        rcases List.mem_append.mp hmem with hmem | hmem
        · rcases List.mem_append.mp hmem with hmem | hmem
          · rcases List.mem_append.mp hmem with hmem | hmem
            · exact haddress hmem
            · exact hpercent (CodePoint.char.inj (List.mem_singleton.mp hmem))
          · exact not_mem_encodeComponent hun hpercent hun _ hmem
        · exact hclose (CodePoint.char.inj (List.mem_singleton.mp hmem))
  | false =>
      rw [isHost, hbracketed, Bool.or_false] at h
      have hspelled := isSpelled_of_isRegisteredName h
      rw [if_neg Bool.false_ne_true]
      split
      · exact hd
      · exact hspelled.normalName.2 d hd hpercent hun

-- what a host is called in the end

section Name

variable {names : HostNames} {host name : Text}

/-- A host is called by its normal form, or by its name on the wire. -/
theorem normalHost?_eq_ok (h : normalHost? names host = .ok name) :
    name = normalHost host ∨ isRegisteredName 0 name = true := by
  unfold normalHost? at h
  split at h
  · split at h
    · cases h
    · cases h
      exact .inl rfl
  · split at h
    · rename_i hname
      cases h
      have hwire := names.isWireName_web _ _ hname
      rw [isWireName, Bool.and_eq_true] at hwire
      exact .inr hwire.2
    · cases h

/-- A host is spelled in its usual form, unless it stands in brackets and has a
percent sign. -/
theorem isSpelled_normalHost? (hhost : isHost host = true)
    (h : normalHost? names host = .ok name) :
    IsSpelled name ∨ isBracketed host = true ∧ .char '%' ∈ host := by
  rcases normalHost?_eq_ok h with rfl | hname
  · exact isSpelled_normalHost hhost
  · exact .inl (isSpelled_of_isRegisteredName hname)

/-- The usual form of a host brings in neither a question mark nor a hash. -/
theorem not_mem_normalHost? (hhost : isHost host = true)
    (h : normalHost? names host = .ok name) {d : Char} (hd : d = '?' ∨ d = '#')
    (hmem : .char d ∉ host) : .char d ∉ name := by
  rcases normalHost?_eq_ok h with rfl | hname
  · rcases hd with rfl | rfl <;>
      exact not_mem_normalHost hhost hmem (by decide) (by decide) (by decide)
  · exact not_mem_of_isRegisteredName hd hname

/-- On the wire a host is called as it was, or by another name. -/
theorem wireHost?_eq_ok (h : wireHost? names host = .ok name) :
    name = host ∨ isRegisteredName 0 name = true := by
  unfold wireHost? at h
  split at h
  · split at h
    · cases h
    · cases h
      exact .inl rfl
  · split at h
    · rename_i hname
      cases h
      have hwire := names.isWireName_other _ _ hname
      rw [isWireName, Bool.and_eq_true] at hwire
      exact .inr hwire.2
    · cases h

end Name

theorem mem_of_hostAndPort? {t host : Text} {port : Option Nat}
    (h : hostAndPort? t = some (host, port)) :
    isHost host = true ∧ ∀ p ∈ host, p ∈ t := by
  unfold hostAndPort? at h
  dsimp only at h
  split at h
  · rename_i hhost
    cases h
    exact ⟨hhost, fun _ hp => hp⟩
  · split at h
    · rename_i name port' hcut
      split at h
      · rename_i hhost
        rw [Option.map_eq_some_iff] at h
        obtain ⟨port'', -, hpair⟩ := h
        cases hpair
        refine ⟨hhost, fun p hp => ?_⟩
        rw [Text.eq_of_cutLast hcut]
        exact List.mem_append_left _ hp
      · cases h
    · cases h

/-- A host is part of the authority it was taken from. -/
theorem host_of_splitAuthority {url authority host : Text} {user : Option Text}
    {port : Option Nat}
    (h : splitAuthority url authority = .ok (user, host, port)) :
    isHost host = true ∧ ∀ p ∈ host, p ∈ authority := by
  unfold splitAuthority at h
  dsimp only at h
  have hrest : ∀ p ∈ ((Text.cutLast (.char '@') authority).getD
      ([], authority)).2, p ∈ authority := by
    cases hcut : Text.cutLast (.char '@') authority with
    | none => exact fun p hp => hp
    | some pair =>
        obtain ⟨name, rest⟩ := pair
        intro p hp
        rw [Text.eq_of_cutLast hcut]
        exact List.mem_append_right _ (List.mem_cons_of_mem _ hp)
  split at h
  · obtain ⟨-, -, h⟩ := bind_eq_ok.mp h
    cases h
  · rename_i name port' hfound
    split at h
    · cases h
    obtain ⟨-, -, h⟩ := bind_eq_ok.mp h
    cases h
    obtain ⟨hhost, hmem⟩ := mem_of_hostAndPort? hfound
    exact ⟨hhost, fun p hp => hrest p (hmem p hp)⟩

-- ================================================================== parts

/-- The parts of an address that has no query and no fragment: nothing in
them would end the part before a query, and percent signs begin escapes
everywhere but, perhaps, in the host. -/
structure IsFront (parts : Parts) : Prop where
  user : ∀ u ∈ parts.user, IsSpelled u ∧ .char '?' ∉ u ∧ .char '#' ∉ u
  host : .char '?' ∉ parts.host ∧ .char '#' ∉ parts.host
  path : IsSpelled parts.path ∧ .char '?' ∉ parts.path
    ∧ .char '#' ∉ parts.path
  query : parts.query = none
  fragment : parts.fragment = none

/-- The parts of a web address that has neither a question mark nor a
hash. Only a zone in brackets can spoil the spelling of its URL. -/
theorem isFront_of_ofText {names : HostNames} {url scheme r : Text}
    {parts : Parts} (hanchored : anchored url = url)
    (hscheme : takeScheme "+.-" url = some (scheme, r))
    (hnormal : isNormalised (some (scheme.map CodePoint.toLower)) = true)
    (hquestion : .char '?' ∉ r) (hhash : .char '#' ∉ r)
    (h : Parts.ofText names url = .ok parts) :
    parts.scheme = some (scheme.map CodePoint.toLower) ∧ IsFront parts
      ∧ (IsSpelled parts.host ∨ .char '[' ∈ r ∧ .char '%' ∈ r) := by
  have hauthority : (∀ a, (takeAuthority r).1 = some a → ∀ p ∈ a, p ∈ r)
      ∧ ∀ p ∈ (takeAuthority r).2, p ∈ r := by
    unfold takeAuthority
    split
    · constructor
      · rintro a ⟨rfl⟩ p hp
        exact List.mem_cons_of_mem _ (List.mem_cons_of_mem _
          ((List.takeWhile_sublist _).subset hp))
      · intro p hp
        exact List.mem_cons_of_mem _ (List.mem_cons_of_mem _
          ((List.dropWhile_sublist _).subset hp))
    · constructor
      · rintro a ⟨⟩
      · exact fun _ hp => hp
  rcases htake : takeAuthority r with ⟨authority, path⟩
  rw [htake] at hauthority
  obtain ⟨hauthority, hpath⟩ := hauthority
  have hquestion' : .char '?' ∉ path := fun hp => hquestion (hpath _ hp)
  have hhash' : .char '#' ∉ path := fun hp => hhash (hpath _ hp)
  have hpathmem : .char '?' ∉ encodeComponent isPathChar (withoutDots path)
      ∧ .char '#' ∉ encodeComponent isPathChar (withoutDots path) :=
    ⟨not_mem_encodeComponent (by decide) (by decide) (by decide) _,
      not_mem_encodeComponent (by decide) (by decide) (by decide) _⟩
  -- whichever authority there is, what is left to do is the same
  have hrest (user : Option Text) (host : Text) (port : Option Nat)
      (hhost : isHost host = true) (hmem : ∀ p ∈ host, p ∈ r)
      (h : (do
        let host ← normalHost? names host
        .ok { scheme := some (scheme.map CodePoint.toLower)
              user := user.map (encodeComponent isUserChar)
              host, port
              path := encodeComponent isPathChar (withoutDots path)
              query := none, fragment := none } : Except Fault Parts)
        = .ok parts) :
      parts.scheme = some (scheme.map CodePoint.toLower) ∧ IsFront parts
        ∧ (IsSpelled parts.host ∨ .char '[' ∈ r ∧ .char '%' ∈ r) := by
    obtain ⟨name, hname, h⟩ := bind_eq_ok.mp h
    cases h
    refine ⟨rfl,
      ⟨?_, ?_, ⟨isSpelled_encodeComponent (by decide) ?_ _, hpathmem⟩,
      rfl, rfl⟩, ?_⟩
    · intro u hu
      obtain ⟨v, -, rfl⟩ := Option.map_eq_some_iff.mp hu
      refine ⟨isSpelled_encodeComponent (by decide) ?_ _,
        not_mem_encodeComponent (by decide) (by decide) (by decide) _,
        not_mem_encodeComponent (by decide) (by decide) (by decide) _⟩
      intro c hc
      rw [isUserChar, hc, Bool.true_or]
    · exact ⟨not_mem_normalHost? hhost hname (.inl rfl)
          fun hp => hquestion (hmem _ hp),
        not_mem_normalHost? hhost hname (.inr rfl)
          fun hp => hhash (hmem _ hp)⟩
    · intro c hc
      rw [isPathChar, isUserChar, hc]
      rfl
    · refine (isSpelled_normalHost? hhost hname).imp_right ?_
      rintro ⟨hbracketed, hpercent⟩
      refine ⟨hmem _ ?_, hmem _ hpercent⟩
      unfold isBracketed at hbracketed
      split at hbracketed
      · exact List.mem_cons_self
      · cases hbracketed
  unfold Parts.ofText at h
  rw [hanchored] at h
  dsimp only at h
  rw [hscheme] at h
  dsimp only at h
  rw [htake] at h
  dsimp only at h
  rw [Text.cut_of_not_mem hhash'] at h
  dsimp only at h
  rw [Text.cut_of_not_mem hquestion', hnormal] at h
  simp only [if_true, Option.map_none] at h
  cases authority with
  | none =>
      exact hrest none [] none rfl (fun _ hp => absurd hp List.not_mem_nil) h
  | some a =>
      dsimp only at h
      split at h
      · exact hrest none [] none rfl (fun _ hp => absurd hp List.not_mem_nil) h
      · obtain ⟨⟨user, host, port⟩, hsplit, h⟩ := bind_eq_ok.mp h
        obtain ⟨hhost, hmem⟩ := host_of_splitAuthority hsplit
        exact hrest user host port hhost
          (fun p hp => hauthority a rfl p (hmem p hp)) h

/-- The host goes by its name on the wire. -/
theorem IsFront.named {names : HostNames} {parts : Parts} {name : Text}
    (h : IsFront parts) (hname : wireHost? names parts.host = .ok name) :
    IsFront { parts with host := name } := by
  refine ⟨h.user, ?_, h.path, h.query, h.fragment⟩
  rcases wireHost?_eq_ok hname with rfl | hname
  · exact h.host
  · exact ⟨not_mem_of_isRegisteredName (.inl rfl) hname,
      not_mem_of_isRegisteredName (.inr rfl) hname⟩

-- ================================================================== front

namespace Parts

/-- What a URL has before its host. -/
def beforeHost (scheme : Text) (parts : Parts) : Text :=
  scheme ++ "://" ++ match parts.user with | some u => u ++ "@" | none => []

/-- What a URL has behind its host, up to the query. -/
def behindHost (parts : Parts) : Text :=
  (match parts.port with | some (n + 1) => ":" ++ Text.ofNat (n + 1) | _ => [])
    ++ if parts.path.startsWith "/" then parts.path else "/" ++ parts.path

/-- What a URL has before its query. -/
def front (scheme : Text) (parts : Parts) : Text :=
  parts.beforeHost scheme ++ (parts.host ++ parts.behindHost)

/-- A URL is what stands before its query, the query and the fragment. -/
theorem text_split (scheme : Text) (parts : Parts) :
    text scheme parts = parts.front scheme
      ++ (withMark "?" parts.query ++ withMark "#" parts.fragment) := by
  have hassoc (a b c d e : Text) :
      a ++ (b ++ c ++ d) ++ e = a ++ b ++ (c ++ (d ++ e)) := by
    simp only [List.append_assoc]
  have hsplit : text scheme parts = parts.front scheme
      ++ withMark "?" parts.query ++ withMark "#" parts.fragment :=
    congrArg (· ++ withMark "?" parts.query ++ withMark "#" parts.fragment)
      (hassoc _ _ _ _ _)
  rw [hsplit, List.append_assoc]

/-- A query that is there stands behind a question mark. -/
theorem withMark_query {query : Text} (hquery : query ≠ []) :
    withMark "?" (some query) = .char '?' :: query := by
  rw [withMark, if_neg (by simpa using hquery)]
  rfl

/-- A URL with a query is what stands before the query, a question mark and
the query. -/
theorem text_eq {scheme : Text} {parts : Parts} {query : Text}
    (hquery : query ≠ []) (hfragment : parts.fragment = none) :
    text scheme { parts with query := some query }
      = parts.front scheme ++ .char '?' :: query := by
  have hnone : withMark "#" none = [] := rfl
  rw [text_split]
  dsimp only
  rw [withMark_query hquery, hfragment, hnone, List.append_nil]
  rfl

end Parts

variable {scheme : Text} {parts : Parts}

/-- The front of a URL is spoiled by its host or not at all. -/
theorem unescapeUnreserved_front (hscheme : .char '%' ∉ scheme)
    (h : IsFront parts) :
    unescapeUnreserved (parts.front scheme) = none
      ↔ unescapeUnreserved parts.host = none := by
  have hsign (name : String) (hname : .char '%' ∉ Text.ofString name) :
      IsSpelled (Text.ofString name) := isSpelled_of_not_mem hname
  have hbefore : IsSpelled (parts.beforeHost scheme) := by
    refine .append (.append (isSpelled_of_not_mem hscheme)
      (hsign "://" (by decide))) ?_
    split
    · rename_i u hu
      exact .append (h.user u hu).1 (hsign "@" (by decide))
    · exact .nil
  have hbehind : IsSpelled parts.behindHost := by
    refine .append ?_ ?_
    · split
      · exact .append (hsign ":" (by decide))
          (isSpelled_of_not_mem (Text.not_mem_ofNat (by decide) _))
      · exact .nil
    · split
      · exact h.path.1
      · exact .append (hsign "/" (by decide)) h.path.1
  have hhead : ∀ p ∈ parts.behindHost.head?, isAlphanumeric p = false := by
    have hslash : isAlphanumeric (.char '/') = false := by decide +kernel
    have hcolon : isAlphanumeric (.char ':') = false := by decide +kernel
    intro p hp
    unfold Parts.behindHost at hp
    split at hp
    · cases hp
      exact hcolon
    · rw [List.nil_append] at hp
      split at hp
      · rename_i hroot
        obtain ⟨r, hr⟩ := List.isPrefixOf_iff_prefix.mp hroot
        rw [← hr] at hp
        cases hp
        exact hslash
      · cases hp
        exact hslash
  obtain ⟨u, hbefore⟩ := hbefore.unescape
  obtain ⟨v, hbehind⟩ := hbehind.unescape
  have hbehind := hbehind []
  rw [List.append_nil, unescapeUnreserved_nil] at hbehind
  rw [Parts.front, hbefore, unescapeUnreserved_append hhead, hbehind]
  cases unescapeUnreserved parts.host <;> simp

/-- No delimiter of a query or a fragment is in the front of a URL. -/
theorem not_mem_front {d : Char} (hd : d = '?' ∨ d = '#')
    (hscheme : .char d ∉ scheme) (h : IsFront parts) :
    .char d ∉ parts.front scheme := by
  have happend {s t : Text} (hs : .char d ∉ s) (ht : .char d ∉ t) :
      .char d ∉ s ++ t := fun h => (List.mem_append.mp h).elim hs ht
  have hpart {t : Text} (ht : .char '?' ∉ t ∧ .char '#' ∉ t) : .char d ∉ t := by
    rcases hd with rfl | rfl
    · exact ht.1
    · exact ht.2
  have hdigit : d.isDigit = false := by
    rcases hd with rfl | rfl <;> decide
  have hslashes : .char d ∉ Text.ofString "://" := hpart (by decide)
  refine happend (happend (happend hscheme hslashes) ?_)
    (happend (hpart h.host) (happend ?_ ?_))
  · split
    · rename_i u hu
      exact happend (hpart (h.user u hu).2) (hpart (by decide))
    · exact List.not_mem_nil
  · split
    · exact happend (hpart (by decide)) (Text.not_mem_ofNat hdigit _)
    · exact List.not_mem_nil
  · split
    · exact hpart h.path.2
    · exact happend (hpart (by decide)) (hpart h.path.2)

end DevicePairing.Url
