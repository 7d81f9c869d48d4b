/-
What it takes for a document to be read.

The reader is one recursion over values, items and fields. Each of the
three lemmas here says, for one of them, exactly when it succeeds, and in
terms of what is read next; nothing after this opens the reader again.

Fuel is there for the recursion alone. Whatever is read is read with more
fuel as well, so what a text reads as does not depend on the fuel.
-/
import DevicePairing.Json.Reader
import DevicePairing.Proofs.Fault

namespace DevicePairing

namespace Json

namespace Reader

variable {depth fuel : Nat} {t rest : Text}

-- ====================================================== when it succeeds

/-- When items are read. -/
theorem items_eq_ok {vs : List Json} :
    items depth (fuel + 1) t = .ok (vs, rest) ↔
      ∃ v r, value depth fuel t = .ok (v, r)
        ∧ (skipGap r = .char ']' :: rest ∧ vs = [v]
          ∨ ∃ r' vs', skipGap r = .char ',' :: r'
              ∧ items depth fuel (skipGap r') = .ok (vs', rest)
                ∧ vs = v :: vs') := by
  rw [items, bind_eq_ok]
  constructor
  · rintro ⟨⟨v, r⟩, hv, h⟩
    refine ⟨v, r, hv, ?_⟩
    dsimp only at h
    split at h
    · cases h
      exact .inl ⟨‹_›, rfl⟩
    · obtain ⟨⟨vs', rest'⟩, hvs, h⟩ := bind_eq_ok.mp h
      cases h
      exact .inr ⟨_, vs', ‹_›, hvs, rfl⟩
    · cases h
  · rintro ⟨v, r, hv, ⟨hr, rfl⟩ | ⟨r', vs', hr, hvs, rfl⟩⟩
    · exact ⟨(v, r), hv, by simp only [hr]⟩
    · refine ⟨(v, r), hv, ?_⟩
      simp only [hr]
      exact bind_eq_ok.mpr ⟨(vs', rest), hvs, rfl⟩

/-- When fields are read. -/
theorem fields_eq_ok {fs : List (Text × Json)} :
    fields depth (fuel + 1) t = .ok (fs, rest) ↔
      ∃ r₁ name r₂ r₃ v r₄, t = .char '"' :: r₁
        ∧ stringRest t 0 r₁ = .ok (name, r₂) ∧ skipGap r₂ = .char ':' :: r₃
        ∧ value depth fuel (skipGap r₃) = .ok (v, r₄)
        ∧ (skipGap r₄ = .char '\x7d' :: rest ∧ fs = [(name, v)]
          ∨ ∃ r₅ fs', skipGap r₄ = .char ',' :: r₅
              ∧ fields depth fuel (skipGap r₅) = .ok (fs', rest)
                ∧ fs = (name, v) :: fs') := by
  rw [fields.eq_def]
  dsimp only
  constructor
  · intro h
    split at h
    · obtain ⟨⟨name, r₂⟩, hname, h⟩ := bind_eq_ok.mp h
      dsimp only at h
      split at h
      · obtain ⟨⟨v, r₄⟩, hv, h⟩ := bind_eq_ok.mp h
        refine ⟨_, name, r₂, _, v, r₄, rfl, hname, ‹_›, hv, ?_⟩
        dsimp only at h
        split at h
        · cases h
          exact .inl ⟨‹_›, rfl⟩
        · obtain ⟨⟨fs', rest'⟩, hfs, h⟩ := bind_eq_ok.mp h
          cases h
          exact .inr ⟨_, fs', ‹_›, hfs, rfl⟩
        · cases h
      · cases h
    · cases h
  · rintro ⟨r₁, name, r₂, r₃, v, r₄, rfl, hname, hcolon, hv, h⟩
    refine bind_eq_ok.mpr ⟨(name, r₂), hname, ?_⟩
    simp only [hcolon]
    refine bind_eq_ok.mpr ⟨(v, r₄), hv, ?_⟩
    rcases h with ⟨hr, rfl⟩ | ⟨r₅, fs', hr, hfs, rfl⟩
    · simp only [hr]
    · simp only [hr]
      exact bind_eq_ok.mpr ⟨(fs', rest), hfs, rfl⟩

/-- When a value is read: a string, a list, an object, or anything that
begins otherwise. -/
theorem value_eq_ok {v : Json} :
    value depth (fuel + 1) t = .ok (v, rest) ↔
      (∃ r s, t = .char '"' :: r ∧ stringRest t 0 r = .ok (s, rest)
        ∧ v = .str s)
        ∨ (∃ r, t = .char '[' :: r ∧ depth ≠ 0
            ∧ (skipGap r = .char ']' :: rest ∧ v = .arr []
              ∨ (∀ r', skipGap r ≠ .char ']' :: r')
                  ∧ ∃ vs, items (depth - 1) fuel (skipGap r) = .ok (vs, rest)
                    ∧ v = .arr vs))
        ∨ (∃ r, t = .char '\x7b' :: r ∧ depth ≠ 0
            ∧ (skipGap r = .char '\x7d' :: rest ∧ v = .obj []
              ∨ (∀ r', skipGap r ≠ .char '\x7d' :: r')
                  ∧ ∃ fs, fields (depth - 1) fuel (skipGap r) = .ok (fs, rest)
                    ∧ v = ofFields fs))
        ∨ ((∀ r, t ≠ .char '"' :: r ∧ t ≠ .char '[' :: r
            ∧ t ≠ .char '\x7b' :: r)
            ∧ scalar t = .ok (v, rest)) := by
  unfold value
  dsimp only
  constructor
  · intro h
    split at h
    · obtain ⟨⟨s, rest'⟩, hs, h⟩ := map_eq_ok.mp h
      cases h
      exact .inl ⟨_, s, rfl, hs, rfl⟩
    · refine .inr (.inl ⟨_, rfl, ?_⟩)
      split at h
      · cases h
      · refine ⟨‹_›, ?_⟩
        split at h
        · cases h
          exact .inl ⟨‹_›, rfl⟩
        · obtain ⟨⟨vs, rest'⟩, hvs, h⟩ := map_eq_ok.mp h
          cases h
          exact .inr ⟨‹_›, vs, hvs, rfl⟩
    · refine .inr (.inr (.inl ⟨_, rfl, ?_⟩))
      split at h
      · cases h
      · refine ⟨‹_›, ?_⟩
        split at h
        · cases h
          exact .inl ⟨‹_›, rfl⟩
        · obtain ⟨⟨fs, rest'⟩, hfs, h⟩ := map_eq_ok.mp h
          cases h
          exact .inr ⟨‹_›, fs, hfs, rfl⟩
    · rename_i hquote hlist hobject
      exact .inr (.inr (.inr ⟨fun r => ⟨hquote r, hlist r, hobject r⟩, h⟩))
  · rintro (⟨r, s, rfl, hs, rfl⟩ | ⟨r, rfl, hd, h⟩ | ⟨r, rfl, hd, h⟩
      | ⟨hfirst, h⟩)
    · exact map_eq_ok.mpr ⟨(s, rest), hs, rfl⟩
    · simp only [if_neg hd]
      rcases h with ⟨hr, rfl⟩ | ⟨hr, vs, hvs, rfl⟩
      · simp only [hr]
      · split
        · exact absurd ‹_› (hr _)
        · exact map_eq_ok.mpr ⟨(vs, rest), hvs, rfl⟩
    · simp only [if_neg hd]
      rcases h with ⟨hr, rfl⟩ | ⟨hr, fs, hfs, rfl⟩
      · simp only [hr]
      · split
        · exact absurd ‹_› (hr _)
        · exact map_eq_ok.mpr ⟨(fs, rest), hfs, rfl⟩
    · split
      · exact absurd rfl (hfirst _).1
      · exact absurd rfl (hfirst _).2.1
      · exact absurd rfl (hfirst _).2.2
      · exact h

-- ================================================================ fuel

/-- With more fuel the same is read. -/
theorem reads_succ (fuel : Nat) :
    (∀ depth t x, value depth fuel t = .ok x → value depth (fuel + 1) t = .ok x)
      ∧ (∀ depth t x, items depth fuel t = .ok x
          → items depth (fuel + 1) t = .ok x)
      ∧ ∀ depth t x, fields depth fuel t = .ok x
        → fields depth (fuel + 1) t = .ok x := by
  induction fuel with
  | zero =>
      exact ⟨fun _ _ _ h => (nomatch h), fun _ _ _ h => (nomatch h),
        fun _ _ _ h => (nomatch h)⟩
  | succ fuel ih =>
      obtain ⟨ihvalue, ihitems, ihfields⟩ := ih
      refine ⟨fun depth t (v, rest) h => ?_, fun depth t (vs, rest) h => ?_,
        fun depth t (fs, rest) h => ?_⟩
      · rw [value_eq_ok] at h ⊢
        rcases h with h | ⟨r, ht, hd, hempty | ⟨hr, vs, hvs, hv⟩⟩
          | ⟨r, ht, hd, hempty | ⟨hr, fs, hfs, hv⟩⟩ | h
        · exact .inl h
        · exact .inr (.inl ⟨r, ht, hd, .inl hempty⟩)
        · exact .inr (.inl ⟨r, ht, hd, .inr ⟨hr, vs, ihitems _ _ _ hvs, hv⟩⟩)
        · exact .inr (.inr (.inl ⟨r, ht, hd, .inl hempty⟩))
        · exact .inr
            (.inr (.inl ⟨r, ht, hd, .inr ⟨hr, fs, ihfields _ _ _ hfs, hv⟩⟩))
        · exact .inr (.inr (.inr h))
      · rw [items_eq_ok] at h ⊢
        obtain ⟨v, r, hv, hlast | ⟨r', vs', hr, hvs, hcons⟩⟩ := h
        · exact ⟨v, r, ihvalue _ _ _ hv, .inl hlast⟩
        · exact ⟨v, r, ihvalue _ _ _ hv,
            .inr ⟨r', vs', hr, ihitems _ _ _ hvs, hcons⟩⟩
      · rw [fields_eq_ok] at h ⊢
        obtain ⟨r₁, name, r₂, r₃, v, r₄, ht, hname, hcolon, hv, hlast
          | ⟨r₅, fs', hr, hfs, hcons⟩⟩ := h
        · exact ⟨r₁, name, r₂, r₃, v, r₄, ht, hname, hcolon, ihvalue _ _ _ hv,
            .inl hlast⟩
        · exact ⟨r₁, name, r₂, r₃, v, r₄, ht, hname, hcolon, ihvalue _ _ _ hv,
            .inr ⟨r₅, fs', hr, ihfields _ _ _ hfs, hcons⟩⟩

theorem value_mono {fuel' : Nat} (hle : fuel ≤ fuel') {x : Json × Text}
    (h : value depth fuel t = .ok x) : value depth fuel' t = .ok x := by
  induction hle with
  | refl => exact h
  | step _ ih => exact (reads_succ _).1 _ _ _ ih

/-- What a text reads as does not depend on the fuel. -/
theorem value_unique {fuel' : Nat} {x y : Json × Text}
    (hx : value depth fuel t = .ok x)
    (hy : value depth fuel' t = .ok y) : x = y := by
  have hx := value_mono (Nat.le_max_left fuel fuel') hx
  have hy := value_mono (Nat.le_max_right fuel fuel') hy
  rw [hx] at hy
  cases hy
  rfl

end Reader

open Reader in
/-- When a document is read: it is one value, between blanks. -/
theorem read_eq_ok {depth : Nat} {t : Text} {v : Json} :
    read depth t = .ok v ↔
      t.head? ≠ some (.char '\uFEFF')
        ∧ ∃ r, value depth (2 * t.length + 2) (skipGap t) = .ok (v, r)
          ∧ skipGap r = [] := by
  unfold read
  constructor
  · intro h
    split at h
    · cases h
    · obtain ⟨⟨v', r⟩, hv, h⟩ := bind_eq_ok.mp h
      dsimp only at h
      split at h
      · cases h
        exact ⟨‹_›, r, hv, ‹_›⟩
      · cases h
  · rintro ⟨hmark, r, hv, hr⟩
    rw [if_neg hmark]
    refine bind_eq_ok.mpr ⟨(v, r), hv, ?_⟩
    simp only [hr]

end Json

end DevicePairing
