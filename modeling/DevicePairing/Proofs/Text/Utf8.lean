/-
Text that is written as UTF-8 is read back, block by block.

`IsSequence` is what writer and reader agree on: the bytes of a character
in one of four lengths, with the number they denote. The reader is opened
for it twice, for a whole sequence and for one that is cut off.

A file is read in blocks, and a block may end inside a character. The
bytes of that character wait for the next block, where they are read in
front of it. So the reader needs no invariant about the bytes that wait:
together with the blocks to come they are the bytes of the text to come,
and each block splits that text into what can be read now and what waits.
-/
import DevicePairing.Proofs.Text.CodePoint
import DevicePairing.Text.Utf8
import Mathlib.Data.List.TakeWhile

namespace DevicePairing

-- =========================================================== sequences

/-- The bytes of one character and the number they denote: a first byte,
one that may follow it, and tail bytes. -/
inductive IsSequence : Bytes → Nat → Prop where
  | one {a : UInt8} (ha : a.toNat < 0x80) : IsSequence [a] a.toNat
  | two {a b : UInt8} (ha : 0xC2 ≤ a.toNat ∧ a.toNat < 0xE0)
    (hb : isTailByte b = true) :
      IsSequence [a, b] ((a.toNat - 0xC0) * 64 + (b.toNat - 0x80))
  | three {a b c : UInt8} (ha : 0xE0 ≤ a.toNat ∧ a.toNat < 0xF0)
    (hb : isSecondByte false a b = true)
      (hc : isTailByte c = true) :
      IsSequence [a, b, c]
        ((a.toNat - 0xE0) * 4096 + (b.toNat - 0x80) * 64 + (c.toNat - 0x80))
  | four {a b c d : UInt8} (ha : 0xF0 ≤ a.toNat ∧ a.toNat < 0xF5)
      (hb : isSecondByte false a b = true) (hc : isTailByte c = true)
        (hd : isTailByte d = true) :
      IsSequence [a, b, c, d]
        ((a.toNat - 0xF0) * 262144 + (b.toNat - 0x80) * 4096
          + (c.toNat - 0x80) * 64
          + (d.toNat - 0x80))

theorem isSecondByte_of_strict {lone : Bool} {a b : UInt8}
    (h : isSecondByte false a b = true) : isSecondByte lone a b = true := by
  rw [isSecondByte, Bool.and_eq_true] at h ⊢
  refine ⟨h.1, ?_⟩
  obtain ⟨-, h⟩ := h
  split_ifs at h ⊢
  · exact h
  · rw [Bool.false_or] at h
    rw [h, Bool.or_true]
  · exact h
  · exact h
  · exact h

variable {lone : Bool}

/-- A sequence is read as the code point of its number. -/
theorem IsSequence.units {s : Bytes} {n : Nat} (h : IsSequence s n)
    (r : Bytes) :
    utf8Units lone (s ++ r) = ⟨s, .ok (.ofCode n)⟩ :: utf8Units lone r := by
  cases h with
  | one ha =>
      rw [List.singleton_append, utf8Units.eq_def]
      dsimp only
      rw [if_pos ha]
  | two ha hb =>
      rw [List.cons_append, List.singleton_append, utf8Units.eq_def]
      dsimp only
      rw [if_neg (by omega), if_neg (by omega), if_pos ha.2, if_pos hb]
  | three ha hb hc =>
      rw [List.cons_append, List.cons_append, List.singleton_append,
        utf8Units.eq_def]
      dsimp only
      rw [if_neg (by omega), if_neg (by omega), if_neg (by omega), if_pos ha.2,
        isSecondByte_of_strict hb, Bool.not_true, if_neg Bool.false_ne_true,
        if_pos hc]
  | four ha hb hc hd =>
      rw [List.cons_append, List.cons_append, List.cons_append,
        List.singleton_append, utf8Units.eq_def]
      dsimp only
      rw [if_neg (by omega), if_neg (by omega), if_neg (by omega),
        if_neg (by omega), if_pos ha.2,
        isSecondByte_of_strict hb, hc, Bool.not_true, if_neg Bool.false_ne_true,
        if_neg Bool.false_ne_true, if_pos hd]

/-- The beginning of a sequence, cut off before its last byte. -/
theorem IsSequence.units_cut {b c : Bytes} {n : Nat} (h : IsSequence (b ++ c) n)
    (hb : b ≠ [])
    (hc : c ≠ []) : utf8Units false b = [⟨b, .error .unexpectedEnd⟩] := by
  generalize hs : b ++ c = s at h
  cases h with
  | one ha =>
      match b, c, hb, hc with
      | [_], _ :: _, _, _ => cases hs
      | _ :: _ :: _, _, _, _ => cases hs
  | two ha hb' =>
      match b, c, hb, hc with
      | [_], _, _, _ =>
          cases hs
          unfold utf8Units
          dsimp only
          rw [if_neg (by omega), if_neg (by omega), if_pos ha.2]
      | [_, _], _ :: _, _, _ => cases hs
      | _ :: _ :: _ :: _, _, _, _ => cases hs
  | three ha hb' hc' =>
      match b, c, hb, hc with
      | [_], _, _, _ =>
          cases hs
          unfold utf8Units
          dsimp only
          rw [if_neg (by omega), if_neg (by omega), if_neg (by omega),
            if_pos ha.2]
      | [_, _], _, _, _ =>
          cases hs
          unfold utf8Units
          dsimp only
          rw [if_neg (by omega), if_neg (by omega), if_neg (by omega),
            if_pos ha.2, hb', Bool.not_true, if_neg Bool.false_ne_true]
      | [_, _, _], _ :: _, _, _ => cases hs
      | _ :: _ :: _ :: _ :: _, _, _, _ => cases hs
  | four ha hb' hc' hd' =>
      match b, c, hb, hc with
      | [_], _, _, _ =>
          cases hs
          unfold utf8Units
          dsimp only
          rw [if_neg (by omega), if_neg (by omega), if_neg (by omega),
            if_neg (by omega), if_pos ha.2]
      | [_, _], _, _, _ =>
          cases hs
          unfold utf8Units
          dsimp only
          rw [if_neg (by omega), if_neg (by omega), if_neg (by omega),
            if_neg (by omega),
            if_pos ha.2, hb', Bool.not_true, if_neg Bool.false_ne_true]
      | [_, _, _], _, _, _ =>
          cases hs
          unfold utf8Units
          dsimp only
          rw [if_neg (by omega), if_neg (by omega), if_neg (by omega),
            if_neg (by omega),
            if_pos ha.2, hb', hc', Bool.not_true, if_neg Bool.false_ne_true,
            if_neg Bool.false_ne_true]
      | [_, _, _, _], _ :: _, _, _ => cases hs
      | _ :: _ :: _ :: _ :: _ :: _, _, _, _ => cases hs

-- ============================================================== bytes

theorem toNat_ofNat {n : Nat} (hn : n < 256) : (UInt8.ofNat n).toNat = n :=
  UInt8.toNat_ofNat_of_lt hn

theorem isTailByte_ofNat {n : Nat} (hn : n < 64) :
    isTailByte (UInt8.ofNat (0x80 + n)) = true := by
  simp only [isTailByte, toNat_ofNat (show 0x80 + n < 256 by omega),
    Bool.and_eq_true, decide_eq_true_eq]
  omega

/-- Where a byte may follow a first one, by the numbers of both. -/
theorem isSecondByte_ofNat {m n : Nat} (hm : m < 256) (hn : n < 64)
    (hlow : m = 0xE0 → 0x20 ≤ n) (hsurrogate : m = 0xED → n < 0x20)
    (hfour : m = 0xF0 → 0x10 ≤ n) (hlast : m = 0xF4 → n < 0x10) :
    isSecondByte false (UInt8.ofNat m) (UInt8.ofNat (0x80 + n)) = true := by
  have hbyte (k : Nat) (hk : k < 256) : UInt8.ofNat m = UInt8.ofNat k
      ↔ m = k := by
    rw [← UInt8.toNat_inj, toNat_ofNat hm, toNat_ofNat hk]
  have h1 := toNat_ofNat (show 0x80 + n < 256 by omega)
  rw [isSecondByte, isTailByte_ofNat hn, Bool.true_and, h1]
  split
  · have := hlow ((hbyte 0xE0 (by omega)).mp ‹_›)
    simpa using by omega
  split
  · have := hsurrogate ((hbyte 0xED (by omega)).mp ‹_›)
    simpa using by omega
  split
  · have := hfour ((hbyte 0xF0 (by omega)).mp ‹_›)
    simpa using by omega
  split
  · have := hlast ((hbyte 0xF4 (by omega)).mp ‹_›)
    simpa using by omega
  · rfl

-- =========================================================== characters

/-- The bytes of a character are a sequence for its number. -/
theorem isSequence_utf8 {p : CodePoint} (hp : p.isSurrogate = false) :
    IsSequence p.utf8 p.code := by
  have hrange := mt (CodePoint.isSurrogate_iff p).mpr (by simp [hp])
  have hlt := p.code_lt
  rw [CodePoint.utf8]
  split
  · have h0 := toNat_ofNat (n := p.code) (by omega)
    have h := IsSequence.one (a := .ofNat p.code) (by omega)
    rw [h0] at h
    exact h
  split
  · have h0 := toNat_ofNat (n := 0xC0 + p.code / 64) (by omega)
    have h1 := toNat_ofNat (n := 0x80 + p.code % 64) (by omega)
    have hvalue : (0xC0 + p.code / 64 - 0xC0) * 64 + (0x80 + p.code % 64 - 0x80)
        = p.code := by
      omega
    have h := IsSequence.two (a := .ofNat (0xC0 + p.code / 64)) (by omega)
      (isTailByte_ofNat (n := p.code % 64) (by omega))
    rw [h0, h1, hvalue] at h
    exact h
  split
  · have h0 := toNat_ofNat (n := 0xE0 + p.code / 4096) (by omega)
    have h1 := toNat_ofNat (n := 0x80 + p.code / 64 % 64) (by omega)
    have h2 := toNat_ofNat (n := 0x80 + p.code % 64) (by omega)
    have hsecond :=
      isSecondByte_ofNat (m := 0xE0 + p.code / 4096) (n := p.code / 64 % 64)
      (by omega) (by omega) (by omega) (by omega) (by omega) (by omega)
    have hvalue : (0xE0 + p.code / 4096 - 0xE0) * 4096
        + (0x80 + p.code / 64 % 64 - 0x80) * 64
          + (0x80 + p.code % 64 - 0x80) = p.code := by omega
    have h :=
      IsSequence.three (by omega) hsecond
      (isTailByte_ofNat (n := p.code % 64) (by omega))
    rw [h0, h1, h2, hvalue] at h
    exact h
  · have h0 := toNat_ofNat (n := 0xF0 + p.code / 262144) (by omega)
    have h1 := toNat_ofNat (n := 0x80 + p.code / 4096 % 64) (by omega)
    have h2 := toNat_ofNat (n := 0x80 + p.code / 64 % 64) (by omega)
    have h3 := toNat_ofNat (n := 0x80 + p.code % 64) (by omega)
    have hsecond :=
      isSecondByte_ofNat (m := 0xF0 + p.code / 262144) (n := p.code / 4096 % 64)
      (by omega) (by omega) (by omega) (by omega) (by omega) (by omega)
    have hvalue : (0xF0 + p.code / 262144 - 0xF0) * 262144
        + (0x80 + p.code / 4096 % 64 - 0x80) * 4096
          + (0x80 + p.code / 64 % 64 - 0x80) * 64 + (0x80 + p.code % 64 - 0x80)
            = p.code := by omega
    have h := IsSequence.four (by omega) hsecond
      (isTailByte_ofNat (n := p.code / 64 % 64) (by omega))
      (isTailByte_ofNat (n := p.code % 64) (by omega))
    rw [h0, h1, h2, h3, hvalue] at h
    exact h

/-- The unit of a character. -/
def unitOf (p : CodePoint) : Utf8Unit := ⟨p.utf8, .ok p⟩

/-- A character is read from its bytes. -/
theorem utf8Units_cons {p : CodePoint} (hp : p.isSurrogate = false)
    (r : Bytes) :
    utf8Units lone (p.utf8 ++ r) = unitOf p :: utf8Units lone r := by
  rw [(isSequence_utf8 hp).units, CodePoint.ofCode_code]
  rfl

-- ================================================================ texts

/-- Text is read from its bytes, with bytes behind it. -/
theorem utf8Units_append {t : Text} (ht : t.IsScalar) (r : Bytes) :
    utf8Units lone (t.utf8 ++ r) = t.map unitOf ++ utf8Units lone r := by
  induction t with
  | nil => rfl
  | cons p t ih =>
      obtain ⟨hp, ht⟩ := List.forall_mem_cons.mp ht
      have hsplit : Text.utf8 (p :: t) ++ r = p.utf8 ++ (Text.utf8 t ++ r) := by
        rw [Text.utf8, Text.utf8, List.flatMap_cons, List.append_assoc]
      rw [hsplit, utf8Units_cons hp, ih ht]
      rfl

theorem textOfUnits_map (offset : Nat) (t : Text) :
    textOfUnits offset (t.map unitOf) = .ok t := by
  induction t generalizing offset with
  | nil => rfl
  | cons p t ih =>
      rw [List.map_cons, textOfUnits]
      simp only [unitOf] at ih ⊢
      rw [ih]
      rfl

/-- Text is read back from its bytes. -/
theorem decodeUtf8_utf8 {t : Text} (ht : t.IsScalar) :
    decodeUtf8 lone t.utf8 = .ok t := by
  have h : utf8Units lone (t.utf8 ++ []) = _ := utf8Units_append ht []
  rw [List.append_nil] at h
  rw [decodeUtf8, h]
  exact (List.append_nil (t.map unitOf)).symm ▸ textOfUnits_map 0 t

/-- A text is made of characters exactly if no surrogate is found in it. -/
theorem loneSurrogate?_eq_none_iff {t : Text} :
    t.loneSurrogate? = none ↔ t.IsScalar := by
  have hall : t.dropWhile (!·.isSurrogate) = [] ↔ t.IsScalar :=
    List.dropWhile_eq_nil_iff.trans (by simp [Text.IsScalar])
  rw [← hall]
  unfold Text.loneSurrogate?
  cases hdrop : t.dropWhile (!·.isSurrogate) with
  | nil => simp
  | cons p r =>
      have hne : t.dropWhile (!·.isSurrogate) ≠ [] :=
        hdrop ▸ List.cons_ne_nil p r
      have hp := List.head_dropWhile_not _ hne
      simp only [hdrop, List.head_cons, Bool.not_eq_eq_eq_not, Bool.not_false]
        at hp
      cases p with
      | char c => cases hp
      | surrogate n => simp

-- ============================================================== blocks

/-- Of characters and bytes that are cut off, the bytes wait. -/
theorem splitWaiting_append (t : Text) {us : List Utf8Unit} {b : Bytes}
    (hus : splitWaiting us = ([], b)) :
    splitWaiting (t.map unitOf ++ us) = (t.map unitOf, b) := by
  induction t with
  | nil => exact hus
  | cons p t ih =>
      have hnow : waits (unitOf p) (t.map unitOf ++ us) = false := rfl
      rw [List.map_cons, List.cons_append, splitWaiting, hnow,
        if_neg Bool.false_ne_true, ih]

/-- The beginning of the bytes of a text: the bytes of a first part, and
what is cut off of the character behind it. -/
theorem utf8_split {t : Text} (ht : t.IsScalar) {b rest : Bytes}
    (h : t.utf8 = b ++ rest) :
    ∃ s u cut, t = s ++ u ∧ b = s.utf8 ++ cut ∧ u.utf8 = cut ++ rest
      ∧ splitWaiting (utf8Units false cut) = ([], cut) := by
  induction t generalizing b with
  | nil =>
      obtain ⟨rfl, rfl⟩ := List.append_eq_nil_iff.mp h.symm
      exact ⟨[], [], [], rfl, rfl, rfl, rfl⟩
  | cons p t ih =>
      obtain ⟨hp, ht⟩ := List.forall_mem_cons.mp ht
      have hcons (u : Text) : Text.utf8 (p :: u) = p.utf8 ++ u.utf8 :=
        List.flatMap_cons
      rw [hcons] at h
      rcases List.append_eq_append_iff.mp h with ⟨b', rfl, hb⟩ | ⟨c, hc, rfl⟩
      · obtain ⟨s, u, cut, rfl, rfl, hu, hcut⟩ := ih ht hb
        exact ⟨p :: s, u, cut, rfl, by rw [hcons, List.append_assoc], hu, hcut⟩
      by_cases hnone : b = []
      · subst hnone
        exact ⟨[], p :: t, [], rfl, rfl, h, rfl⟩
      by_cases hall : c = []
      · subst hall
        rw [List.append_nil] at hc
        exact ⟨[p], t, [], rfl, by simp [Text.utf8, hc], rfl, rfl⟩
      · refine ⟨[], p :: t, b, rfl, rfl, by rw [hcons, h], ?_⟩
        have hp : IsSequence (b ++ c) p.code := hc ▸ isSequence_utf8 hp
        rw [hp.units_cut hnone hall]
        simp [splitWaiting, waits]

/-- Text is read back from its bytes in blocks, whatever waits for them. -/
theorem decodeBlocks_of_utf8 {blocks : List Bytes} {waiting : Bytes} {t : Text}
    (ht : t.IsScalar) (h : t.utf8 = waiting ++ blocks.flatten) :
    decodeBlocks waiting blocks = (t, none) := by
  induction blocks generalizing waiting t with
  | nil =>
      rw [List.flatten_nil, List.append_nil] at h
      rw [decodeBlocks, ← h, decodeUtf8_utf8 ht]
  | cons block blocks ih =>
      rw [List.flatten_cons, ← List.append_assoc] at h
      obtain ⟨s, u, cut, rfl, hb, hu, hcut⟩ := utf8_split ht h
      obtain ⟨hs, hrest⟩ := List.forall_mem_append.mp ht
      have hrest := ih hrest hu
      rw [decodeBlocks, hb, utf8Units_append hs, splitWaiting_append s hcut]
      dsimp only
      rw [textOfUnits_map]
      dsimp only
      rw [hrest]

theorem flatten_blocksOf {n : Nat} (hn : 0 < n) (b : Bytes) :
    (blocksOf n b).flatten = b := by
  have htake (k : Nat) :
      ((List.range k).map fun i => (b.drop (i * n)).take n).flatten
        = b.take (k * n) := by
    induction k with
    | zero => simp
    | succ k ih =>
        rw [List.range_succ, List.map_append, List.flatten_append, ih,
          Nat.succ_mul, List.take_add]
        simp
  rw [blocksOf, htake]
  refine List.take_of_length_le ?_
  have hdiv := Nat.div_add_mod (b.length + n - 1) n
  have hmod := Nat.mod_lt (b.length + n - 1) hn
  rw [Nat.mul_comm]
  omega

/-- Text is read back from the file it is written to. -/
theorem decodeBlocks_blocksOf {n : Nat} (hn : 0 < n) {t : Text}
    (ht : t.IsScalar) :
    decodeBlocks [] (blocksOf n t.utf8) = (t, none) :=
  decodeBlocks_of_utf8 ht (by rw [flatten_blocksOf hn, List.nil_append])

end DevicePairing
