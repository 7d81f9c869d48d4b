/-
What calls do to the order of a registry.

Registering, receiving and unpairing look at one device each. As long as
no two entries are for one device, each of them works on one entry and
leaves those before and behind it where they are. Keys need not be equal
to be one device, so what is said about a device here is said for a key
that is the same as no other (`IsExact`).
-/
import DevicePairing.Pairings

namespace DevicePairing

namespace Registry

variable {κ π : Type} [BEq κ]

/-- The devices of a registry, in their order. -/
def ids (r : Registry κ π) : List κ := r.clients.map (·.1)

/-- Whether no key but itself is the same as a key. -/
structure IsExact (id : κ) : Prop where
  eq_of_beq : ∀ k : κ, (k == id) = true → k = id
  comm : ∀ k : κ, (id == k) = (k == id)
  refl : (id == id) = true

/-- Whether no two entries are for one device. -/
def IsDistinct (ids : List κ) : Prop := ids.Pairwise fun a b => (b == a) = false

variable {r : Registry κ π} {id : κ}

-- ============================================================== devices

theorem isKnown_eq (r : Registry κ π) (id : κ) :
    r.isKnown id = r.ids.any (· == id) := by
  rw [isKnown, ids, List.any_map]
  rfl

theorem IsExact.isKnown_iff (hid : IsExact id) :
    r.isKnown id = true ↔ id ∈ r.ids := by
  rw [isKnown_eq, List.any_eq_true]
  constructor
  · rintro ⟨k, hk, hsame⟩
    rw [← hid.eq_of_beq k hsame]
    exact hk
  · intro h
    exact ⟨id, h, hid.refl⟩

theorem IsExact.beq_iff (hid : IsExact id) (k : κ) :
    (k == id) = true ↔ k = id := by
  constructor
  · exact hid.eq_of_beq k
  · rintro rfl
    exact hid.refl

/-- Devices that are each kept once stay in their order. -/
theorem eraseDups_sublist : ∀ ids : List κ, ids.eraseDups.Sublist ids
  | [] => List.Sublist.refl []
  | a :: ids => by
      rw [List.eraseDups_cons]
      apply List.Sublist.cons_cons
      exact (eraseDups_sublist (ids.filter fun b => !b == a)).trans
        List.filter_sublist
termination_by ids => ids.length
decreasing_by exact Nat.lt_succ_of_le (List.length_filter_le _ _)

theorem isDistinct_eraseDups : ∀ ids : List κ, IsDistinct ids.eraseDups
  | [] => List.Pairwise.nil
  | a :: ids => by
      rw [List.eraseDups_cons]
      apply List.Pairwise.cons
      · intro b hb
        have hmem := (eraseDups_sublist _).subset hb
        rw [← Bool.not_eq_true']
        exact (List.mem_filter.mp hmem).2
      · exact isDistinct_eraseDups (ids.filter fun b => !b == a)
termination_by ids => ids.length
decreasing_by exact Nat.lt_succ_of_le (List.length_filter_le _ _)

-- ============================================================== entries

/-- A device that is known has one entry. -/
theorem IsExact.split (hid : IsExact id) (hdistinct : IsDistinct r.ids)
    (hknown : id ∈ r.ids) :
    ∃ before old after, r.clients = before ++ (id, old) :: after
      ∧ ∀ entry ∈ before ++ after, (entry.1 == id) = false := by
  obtain ⟨⟨k, old⟩, hmem, rfl⟩ := List.mem_map.mp hknown
  obtain ⟨before, after, hclients⟩ := List.append_of_mem hmem
  refine ⟨before, old, after, hclients, ?_⟩
  rw [IsDistinct, ids, hclients, List.map_append, List.map_cons,
    List.pairwise_append, List.pairwise_cons] at hdistinct
  obtain ⟨-, ⟨hafter, -⟩, hbefore⟩ := hdistinct
  intro entry hentry
  rcases List.mem_append.mp hentry with h | h
  · rw [← hid.comm]
    exact hbefore _ (List.mem_map_of_mem h) _ List.mem_cons_self
  · exact hafter _ (List.mem_map_of_mem h)

/-- A new entry for a device that is known changes its PIN and nothing else. -/
theorem put_of_isKnown (h : r.isKnown id = true) (pin : Option π) :
    r.put id pin = ⟨r.clients.map fun entry =>
      (entry.1, if entry.1 == id then pin else entry.2)⟩ := by
  rw [put, if_pos h]
  apply congrArg mk
  apply List.map_congr_left
  intro entry _
  dsimp only
  split <;> rfl

variable {before after : List (κ × Option π)} {old : Option π}

theorem IsExact.isKnown (hid : IsExact id)
    (h : r.clients = before ++ (id, old) :: after) : r.isKnown id = true := by
  rw [hid.isKnown_iff, ids, h]
  simp

/-- A PIN that is received stands where the old one stood. -/
theorem IsExact.receivePin (hid : IsExact id)
    (h : r.clients = before ++ (id, old) :: after)
    (hother : ∀ entry ∈ before ++ after, (entry.1 == id) = false)
    (pin : Option π) :
    ∃ r', r.receivePin id pin = (true, r')
      ∧ r'.clients = before ++ (id, pin) :: after := by
  obtain ⟨hbefore, hafter⟩ := List.forall_mem_append.mp hother
  have hkept (entries : List (κ × Option π))
      (hentries : ∀ entry ∈ entries, (entry.1 == id) = false) :
      entries.map (fun entry =>
        (entry.1, if entry.1 == id then pin else entry.2))
        = entries := by
    rw [← List.map_id entries, List.map_map]
    apply List.map_congr_left
    intro entry hentry
    show (entry.1, if entry.1 == id then pin else entry.2) = entry
    rw [hentries entry hentry]
    rfl
  refine ⟨_, if_pos (hid.isKnown h), ?_⟩
  rw [put_of_isKnown (hid.isKnown h), h, List.map_append, List.map_cons,
    hkept before hbefore, hkept after hafter, hid.refl]
  rfl

/-- A device that is unpaired leaves the others as they are. -/
theorem IsExact.unpair (hid : IsExact id)
    (h : r.clients = before ++ (id, old) :: after)
    (hother : ∀ entry ∈ before ++ after, (entry.1 == id) = false) :
    ∃ r', r.unpair id = (true, r') ∧ r'.clients = before ++ after := by
  obtain ⟨hbefore, hafter⟩ := List.forall_mem_append.mp hother
  have hkept (entries : List (κ × Option π))
      (hentries : ∀ entry ∈ entries, (entry.1 == id) = false) :
      entries.filter (fun entry => !(entry.1 == id)) = entries := by
    apply List.filter_eq_self.mpr
    intro entry hentry
    rw [hentries entry hentry]
    rfl
  refine ⟨_, if_pos (hid.isKnown h), ?_⟩
  show r.clients.filter (fun entry => !(entry.1 == id)) = before ++ after
  rw [h, List.filter_append, List.filter_cons_of_neg, hkept before hbefore,
    hkept after hafter]
  rw [hid.refl]
  exact Bool.false_ne_true

-- ================================================================ calls

/-- A new entry for a device stands for it alone. -/
theorem IsExact.mem_put (hid : IsExact id) {pin : Option π}
    {entry : κ × Option π} :
    entry ∈ (r.put id pin).clients
      ↔ entry = (id, pin) ∨ entry.1 ≠ id ∧ entry ∈ r.clients := by
  by_cases hknown : r.isKnown id = true
  · obtain ⟨old, hold, rfl⟩ := List.mem_map.mp (hid.isKnown_iff.mp hknown)
    rw [put_of_isKnown hknown, List.mem_map]
    constructor
    · rintro ⟨e, he, rfl⟩
      by_cases hsame : e.1 = old.1
      · rw [if_pos ((hid.beq_iff _).mpr hsame), hsame]
        exact .inl rfl
      · rw [if_neg (mt (hid.beq_iff _).mp hsame)]
        exact .inr ⟨hsame, he⟩
    · rintro (rfl | ⟨hother, hentry⟩)
      · exact ⟨old, hold, by rw [if_pos hid.refl]⟩
      · exact ⟨entry, hentry, by rw [if_neg (mt (hid.beq_iff _).mp hother)]⟩
  · have hother : ∀ e ∈ r.clients, e.1 ≠ id := by
      rintro e he rfl
      exact hknown (hid.isKnown_iff.mpr (List.mem_map_of_mem he))
    rw [put, if_neg hknown, List.mem_append, List.mem_singleton, or_comm]
    exact or_congr_right (and_iff_right_of_imp (hother entry)).symm

/-- It keeps the place of the device, or comes last. -/
theorem ids_put (pin : Option π) :
    (r.put id pin).ids = if r.isKnown id then r.ids else r.ids ++ [id] := by
  by_cases hknown : r.isKnown id = true
  · rw [put_of_isKnown hknown, if_pos hknown, ids, List.map_map]
    rfl
  · rw [put, if_neg hknown, if_neg hknown, ids, List.map_append]
    rfl

/-- A device that is unpaired has no entry. -/
theorem IsExact.mem_unpair (hid : IsExact id) (hknown : r.isKnown id = true)
    {entry : κ × Option π} :
    entry ∈ (r.unpair id).2.clients ↔ entry.1 ≠ id ∧ entry ∈ r.clients := by
  rw [Registry.unpair, if_pos hknown, List.mem_filter, and_comm]
  refine and_congr_left fun _ => ?_
  rw [Bool.not_eq_true', ← Bool.not_eq_true, hid.beq_iff]

theorem ids_unpair_sublist (r : Registry κ π) (id : κ) :
    (r.unpair id).2.ids.Sublist r.ids := by
  unfold Registry.unpair
  split
  · exact List.filter_sublist.map _
  · exact List.Sublist.refl _

/-- The PIN of a device is the one in its entry. -/
theorem IsExact.pinFor_eq_some_iff (hid : IsExact id)
    (hdistinct : IsDistinct r.ids) {pin : π} :
    r.pinFor id = some pin ↔ (id, some pin) ∈ r.clients := by
  rw [pinFor, Option.bind_eq_some_iff]
  constructor
  · rintro ⟨entry, hfind, hpin⟩
    have hkey := List.find?_some hfind
    rw [← hid.eq_of_beq _ hkey, ← hpin]
    exact List.mem_of_find?_eq_some hfind
  · intro hmem
    obtain ⟨before, old, after, hclients, hother⟩ :=
      hid.split hdistinct (List.mem_map_of_mem hmem)
    have hpin : (id, some pin) ∉ before ++ after := by
      intro h
      exact Bool.false_ne_true ((hother _ h).symm.trans hid.refl)
    rw [hclients, List.mem_append, List.mem_cons] at hmem
    rw [List.mem_append, not_or] at hpin
    have hold : (id, some pin) = (id, old) :=
      (hmem.resolve_left hpin.1).resolve_right hpin.2
    refine ⟨(id, some pin), List.find?_eq_some_iff_append.mpr ?_, rfl⟩
    refine ⟨hid.refl, before, after, hold ▸ hclients, fun e he => ?_⟩
    rw [hother e (List.mem_append_left _ he)]
    rfl

end Registry

-- ================================================================= keys

theorem Binary64.sameNumber_comm (x y : Binary64) :
    x.sameNumber y = y.sameNumber x := by
  cases x <;> cases y <;>
    simp only [sameNumber, isZero, Bool.and_comm, Bool.beq_eq_decide_eq,
      eq_comm,
      reduceCtorEq, decide_false, Bool.false_and, Bool.and_false, Bool.or_false]

namespace Json

/-- Which of two values comes first does not matter. -/
theorem sameKey_comm (a b : Json) : a.sameKey b = b.sameKey a := by
  cases a <;> cases b <;>
    simp only [sameKey, wholeNumber?, Binary64.sameNumber_comm, eq_comm]

theorem sameKey_str {v : Json} {t : Text} :
    v.sameKey (.str t) = true ↔ v = .str t := by
  cases v <;> simp [sameKey, wholeNumber?]

/-- A text is the same key as itself alone. -/
theorem isExact_str (t : Text) : Registry.IsExact (Json.str t) where
  eq_of_beq _ h := sameKey_str.mp h
  comm k := sameKey_comm _ k
  refl := sameKey_str.mpr rfl

end Json

end DevicePairing
