/-
A registry and the history of its calls.

What a registry knows can be told from the calls it has answered alone,
without a look at its entries. A device is known if it was registered and
not unpaired since; the last call about it decides whether it has a PIN;
and it stands where it was put when it was last absent, however often it
has been registered again. All of this is about single devices, so each
notion here is one of a history and a device, with one lemma that says
what one more call makes of it (the lemmas `snoc`). A registry that a
history tells (`Tells`) is followed over every call, and the answers are
read off from what the history says at that point.

Calls that are refused, or that only ask, stand in the history as well;
they are about no device (`Touches`).
-/
import DevicePairing.Proofs.Registry
import Mathlib.Data.List.Basic
import Mathlib.Data.List.Induction
import Mathlib.Data.Set.List

namespace DevicePairing.Pairings

open Registry (IsExact IsDistinct)

/-- A call that names devices and PINs by texts. -/
inductive Ask where
  | register (id : Text)
  | receivePin (id pin : Text)
  | unpair (id : Text)
  | pinFor (id : Text)
  | pending

/-- The call itself. -/
def Ask.call : Ask → Call
  | register id => .register (.str id)
  | receivePin id pin => .receivePin (.str id) (.str pin)
  | unpair id => .unpair (.str id)
  | pinFor id => .pinFor (.str id)
  | pending => .pending

/-- Calls with what each of them gave back, oldest first. -/
abbrev History := List (Ask × Json)

/-- Answer calls one after the other. -/
def answerAll (r : Pairings) : List Ask → Except Fault (History × Pairings)
  | [] => .ok ([], r)
  | a :: as => do
    let (v, _, r) ← r.answer a.call
    let (rest, r) ← r.answerAll as
    .ok ((a, v) :: rest, r)

namespace History

/-- The entry of a registration. -/
def registered (id : Text) : Ask × Json := (.register id, .null)

/-- The entry of a PIN that was received. -/
def received (id pin : Text) : Ask × Json := (.receivePin id pin, .bool true)

/-- The entry of an unpairing that came to pass. -/
def unpaired (id : Text) : Ask × Json := (.unpair id, .bool true)

/-- Whether an entry is about the state of a device. -/
def Touches (id : Text) (x : Ask × Json) : Prop :=
  x = registered id ∨ (∃ pin, x = received id pin) ∨ x = unpaired id

/-- Whether a device has been registered after it was last unpaired. -/
def Knows (h : History) (id : Text) : Prop :=
  ∃ before after, h = before ++ registered id :: after ∧ unpaired id ∉ after

/-- Whether this is the last entry about the state of a device. -/
def Last (h : History) (id : Text) (x : Ask × Json) : Prop :=
  ∃ before after, h = before ++ x :: after ∧ ∀ y ∈ after, ¬Touches id y

/-- Whether a device that is known was last absent just before the call at
a place, which registered it. -/
def Since (h : History) (id : Text) (i : Nat) : Prop :=
  ∃ before after, h = before ++ registered id :: after ∧ before.length = i
    ∧ ¬Knows before id ∧ unpaired id ∉ after

/-- Whether the one device has been known for longer than the other. -/
def Earlier (h : History) (a b : Text) : Prop :=
  ∃ i j, Since h a i ∧ Since h b j ∧ i < j

variable {h : History} {x y : Ask × Json} {id : Text}

-- ============================================================= one entry

/-- An entry among those of a history with one more is the new one, or it
was there before. -/
theorem snoc_eq_append {before after : History} :
    h ++ [x] = before ++ y :: after
      ↔ (x = y ∧ h = before ∧ after = [])
        ∨ ∃ after', h = before ++ y :: after' ∧ after = after' ++ [x] := by
  constructor
  · intro heq
    rcases List.eq_nil_or_concat after with rfl | ⟨after', z, rfl⟩
    · obtain ⟨hh, hx⟩ := List.append_inj' heq rfl
      exact .inl ⟨List.singleton_injective hx, hh, rfl⟩
    · rw [List.concat_eq_append, ← List.cons_append, ← List.append_assoc] at heq
      obtain ⟨hh, hx⟩ := List.append_inj' heq rfl
      cases hx
      exact .inr ⟨after', hh, List.concat_eq_append⟩
  · rintro (⟨rfl, rfl, rfl⟩ | ⟨after', rfl, rfl⟩)
    · rfl
    · simp

/-- A call makes a device known or keeps it so, unless it unpairs it. -/
theorem knows_snoc :
    Knows (h ++ [x]) id ↔ x = registered id ∨ Knows h id ∧ x ≠ unpaired id := by
  simp only [Knows, snoc_eq_append]
  constructor
  · rintro ⟨before, after, ⟨hx, -, -⟩ | ⟨after', rfl, rfl⟩, hafter⟩
    · exact .inl hx
    · rw [List.mem_append, List.mem_singleton, not_or] at hafter
      exact .inr ⟨⟨before, after', rfl, hafter.1⟩, Ne.symm hafter.2⟩
  · rintro (hx | ⟨⟨before, after, rfl, hafter⟩, hx⟩)
    · exact ⟨h, [], .inl ⟨hx, rfl, rfl⟩, List.not_mem_nil⟩
    · refine ⟨before, after ++ [x], .inr ⟨after, rfl, rfl⟩, ?_⟩
      rw [List.mem_append, List.mem_singleton, not_or]
      exact ⟨hafter, Ne.symm hx⟩

/-- The last entry about a device is the new one, or the old one if the
new one is not about the device. -/
theorem last_snoc :
    Last (h ++ [x]) id y ↔ x = y ∨ Last h id y ∧ ¬Touches id x := by
  simp only [Last, snoc_eq_append]
  constructor
  · rintro ⟨before, after, ⟨hx, -, -⟩ | ⟨after', rfl, rfl⟩, hafter⟩
    · exact .inl hx
    · rw [List.forall_mem_append] at hafter
      exact .inr ⟨⟨before, after', rfl, hafter.1⟩,
        hafter.2 x List.mem_cons_self⟩
  · rintro (hx | ⟨⟨before, after, rfl, hafter⟩, hx⟩)
    · exact ⟨h, [], .inl ⟨hx, rfl, rfl⟩, fun _ hz => nomatch hz⟩
    · refine ⟨before, after ++ [x], .inr ⟨after, rfl, rfl⟩, ?_⟩
      rw [List.forall_mem_append, List.forall_mem_singleton]
      exact ⟨hafter, hx⟩

/-- A device keeps its place until it is unpaired; one that is new takes
the place behind all others. -/
theorem since_snoc {i : Nat} :
    Since (h ++ [x]) id i
      ↔ (x = registered id ∧ ¬Knows h id ∧ h.length = i)
        ∨ Since h id i ∧ x ≠ unpaired id := by
  simp only [Since, snoc_eq_append]
  constructor
  · rintro
      ⟨before, after, ⟨hx, rfl, rfl⟩ | ⟨after', rfl, rfl⟩, hi, hnew, hafter⟩
    · exact .inl ⟨hx, hnew, hi⟩
    · rw [List.mem_append, List.mem_singleton, not_or] at hafter
      exact .inr ⟨⟨before, after', rfl, hi, hnew, hafter.1⟩, Ne.symm hafter.2⟩
  · rintro (⟨hx, hnew, hi⟩ | ⟨⟨before, after, rfl, hi, hnew, hafter⟩, hx⟩)
    · exact ⟨h, [], .inl ⟨hx, rfl, rfl⟩, hi, hnew, List.not_mem_nil⟩
    · refine ⟨before, after ++ [x], .inr ⟨after, rfl, rfl⟩, hi, hnew, ?_⟩
      rw [List.mem_append, List.mem_singleton, not_or]
      exact ⟨hafter, Ne.symm hx⟩

theorem not_knows_nil : ¬Knows [] id := by
  rintro ⟨before, after, heq, -⟩
  cases before <;> cases heq

theorem not_last_nil : ¬Last [] id x := by
  rintro ⟨before, after, heq, -⟩
  cases before <;> cases heq

-- ================================================================ places

/-- The place of a device is that of a call so far. -/
theorem Since.lt {i : Nat} (hsince : Since h id i) : i < h.length := by
  obtain ⟨before, after, rfl, rfl, -, -⟩ := hsince
  simp

/-- A device with a place is known. -/
theorem Since.knows {i : Nat} (hsince : Since h id i) : Knows h id := by
  obtain ⟨before, after, heq, -, -, hafter⟩ := hsince
  exact ⟨before, after, heq, hafter⟩

/-- A device that is known was put into its place by one call. -/
theorem Knows.since (hknows : Knows h id) : ∃ i, Since h id i := by
  induction h using List.reverseRecOn with
  | nil => exact absurd hknows not_knows_nil
  | append_singleton h x ih =>
    rcases knows_snoc.mp hknows with hx | ⟨hold, hx⟩
    · by_cases hold : Knows h id
      · obtain ⟨i, hi⟩ := ih hold
        have hne : x ≠ unpaired id := fun heq => by cases hx.symm.trans heq
        exact ⟨i, since_snoc.mpr (.inr ⟨hi, hne⟩)⟩
      · exact ⟨h.length, since_snoc.mpr (.inl ⟨hx, hold, rfl⟩)⟩
    · obtain ⟨i, hi⟩ := ih hold
      exact ⟨i, since_snoc.mpr (.inr ⟨hi, hx⟩)⟩

/-- A device has one place at most. -/
theorem Since.unique {i j : Nat} (hi : Since h id i) (hj : Since h id j) :
    i = j := by
  induction h using List.reverseRecOn with
  | nil => exact absurd hi.knows not_knows_nil
  | append_singleton h x ih =>
    rcases since_snoc.mp hi with ⟨-, hnew, hi⟩ | ⟨hi, -⟩
    · rcases since_snoc.mp hj with ⟨-, -, hj⟩ | ⟨hj, -⟩
      · exact hi.symm.trans hj
      · exact absurd hj.knows hnew
    · rcases since_snoc.mp hj with ⟨-, hnew, -⟩ | ⟨hj, -⟩
      · exact absurd hi.knows hnew
      · exact ih hi hj

/-- No device is earlier than itself. -/
theorem Earlier.irrefl : ¬Earlier h id id := by
  rintro ⟨i, j, hi, hj, hlt⟩
  exact Nat.lt_irrefl j (hi.unique hj ▸ hlt)

-- ============================================================== registries

/-- Whether an entry of a history put an entry for a device into the
registry. -/
def Writes (id : Text) (x : Ask × Json) (entry : Json × Option Json) : Prop :=
  (x = registered id ∧ entry = (.str id, none))
    ∨ ∃ pin, x = received id pin ∧ entry = (.str id, some (.str pin))

/-- Whether the last entry about a device put this into the registry. -/
def Stands (h : History) (entry : Json × Option Json) : Prop :=
  ∃ id x, Writes id x entry ∧ Last h id x

/-- A registry as the history of its calls tells it. -/
structure Tells (h : History) (r : Pairings) : Prop where
  known : ∀ id, .str id ∈ r.ids ↔ Knows h id
  entries : ∀ entry, entry ∈ r.clients ↔ Stands h entry
  order : r.ids.Pairwise fun k k' =>
    ∃ a b, k = .str a ∧ k' = .str b ∧ Earlier h a b

variable {entry : Json × Option Json}

theorem Writes.fst_eq (hw : Writes id x entry) : entry.1 = .str id := by
  rcases hw with ⟨-, rfl⟩ | ⟨pin, -, rfl⟩
  · rfl
  · rfl

/-- An entry that writes for a device is about the device. -/
theorem Writes.touches (hw : Writes id x entry) : Touches id x := by
  rcases hw with ⟨rfl, -⟩ | ⟨pin, rfl, -⟩
  · exact .inl rfl
  · exact .inr (.inl ⟨pin, rfl⟩)

/-- An entry is about one device. -/
theorem Touches.unique {a b : Text} (ha : Touches a x) (hb : Touches b x) :
    a = b := by
  rcases ha with rfl | ⟨pin, rfl⟩ | rfl
  · rcases hb with hb | ⟨pin, hb⟩ | hb <;> cases hb
    rfl
  · rcases hb with hb | ⟨pin, hb⟩ | hb <;> cases hb
    rfl
  · rcases hb with hb | ⟨pin, hb⟩ | hb <;> cases hb
    rfl

/-- What stands in the registry after a call is what the call wrote, or
stood there before and belongs to another device. -/
theorem stands_snoc :
    Stands (h ++ [x]) entry
      ↔ (∃ id, Writes id x entry)
        ∨ Stands h entry ∧ ∀ id, entry.1 = .str id → ¬Touches id x := by
  simp only [Stands, last_snoc]
  constructor
  · rintro ⟨id, y, hw, rfl | ⟨hlast, hx⟩⟩
    · exact .inl ⟨id, hw⟩
    · refine .inr ⟨⟨id, y, hw, hlast⟩, fun id' hid' => ?_⟩
      cases hw.fst_eq.symm.trans hid'
      exact hx
  · rintro (⟨id, hw⟩ | ⟨⟨id, y, hw, hlast⟩, hx⟩)
    · exact ⟨id, x, hw, .inl rfl⟩
    · exact ⟨id, y, hw, .inr ⟨hlast, hx id hw.fst_eq⟩⟩

/-- Two devices keep their order over a call that unpairs neither. -/
theorem Earlier.snoc {a b : Text} (hearlier : Earlier h a b)
    (ha : x ≠ unpaired a) (hb : x ≠ unpaired b) : Earlier (h ++ [x]) a b := by
  obtain ⟨i, j, hi, hj, hlt⟩ := hearlier
  exact ⟨i, j, since_snoc.mpr (.inr ⟨hi, ha⟩), since_snoc.mpr (.inr ⟨hj, hb⟩),
    hlt⟩

namespace Tells

variable {r : Pairings}

/-- An empty registry has no history. -/
theorem nil : Tells [] {} where
  known id := iff_of_false List.not_mem_nil not_knows_nil
  entries entry := by
    refine iff_of_false List.not_mem_nil ?_
    rintro ⟨id, x, -, hlast⟩
    exact not_last_nil hlast
  order := .nil

/-- A call that is about no device changes nothing. -/
theorem untouched (htells : Tells h r) (hx : ∀ id, ¬Touches id x) :
    Tells (h ++ [x]) r where
  known id := by
    rw [htells.known, knows_snoc]
    have hregistered : x ≠ registered id := fun heq => hx id (.inl heq)
    have hunpaired : x ≠ unpaired id := fun heq => hx id (.inr (.inr heq))
    simp only [hregistered, false_or, ne_eq, hunpaired, not_false_eq_true,
      and_true]
  entries entry := by
    rw [htells.entries, stands_snoc]
    have hwrites : ¬∃ id, Writes id x entry :=
      fun ⟨id, hw⟩ => hx id hw.touches
    rw [or_iff_right hwrites]
    exact (and_iff_left fun id _ => hx id).symm
  order := by
    refine htells.order.imp ?_
    rintro k k' ⟨a, b, hk, hk', hearlier⟩
    exact ⟨a, b, hk, hk', hearlier.snoc (fun heq => hx a (.inr (.inr heq)))
      fun heq => hx b (.inr (.inr heq))⟩

/-- A call that puts a new entry for a device. -/
theorem put (htells : Tells h r) {pin : Option Json}
    (hw : Writes id x (.str id, pin))
    (hknows : x = registered id ∨ Knows h id) :
    Tells (h ++ [x]) (r.put (.str id) pin) := by
  have hid := Json.isExact_str id
  have hunpaired : ∀ id', x ≠ unpaired id' := by
    rintro id' rfl
    rcases hw with ⟨hx, -⟩ | ⟨pin, hx, -⟩ <;> cases hx
  constructor
  case known =>
    intro id'
    rw [knows_snoc, and_iff_left (hunpaired id'), ← htells.known id',
      Registry.ids, List.mem_map]
    simp only [hid.mem_put]
    constructor
    · rintro ⟨entry, rfl | ⟨-, hentry⟩, hkey⟩
      · cases hkey
        exact hknows.imp_right (htells.known id).mpr
      · exact .inr (List.mem_map.mpr ⟨entry, hentry, hkey⟩)
    · by_cases hsame : id' = id
      · intro _
        exact ⟨_, .inl rfl, congrArg Json.str hsame.symm⟩
      · rintro (hx | hold)
        · rcases hw with ⟨hx', -⟩ | ⟨pin, hx', -⟩
          · exact absurd (by cases hx.symm.trans hx'; rfl) hsame
          · cases hx.symm.trans hx'
        · obtain ⟨entry, hentry, hkey⟩ := List.mem_map.mp hold
          refine ⟨entry, .inr ⟨?_, hentry⟩, hkey⟩
          rw [hkey]
          exact fun heq => hsame (Json.str.inj heq)
  case entries =>
    intro entry
    rw [hid.mem_put, stands_snoc, htells.entries, and_comm]
    refine or_congr ⟨?_, ?_⟩ (and_congr_right fun hstands => ⟨?_, ?_⟩)
    · rintro rfl
      exact ⟨id, hw⟩
    · rintro ⟨id', hw'⟩
      obtain rfl := hw.touches.unique hw'.touches
      rcases hw with ⟨rfl, hentry⟩ | ⟨pin, rfl, hentry⟩
      · rcases hw' with ⟨-, rfl⟩ | ⟨pin, hx, -⟩
        · exact hentry.symm
        · cases hx
      · rcases hw' with ⟨hx, -⟩ | ⟨pin, hx, rfl⟩
        · cases hx
        · cases hx
          exact hentry.symm
    · intro hne id' hid' htouches
      exact hne (hid'.trans (congrArg Json.str (htouches.unique hw.touches)))
    · intro hother heq
      exact hother id heq hw.touches
  case order =>
    have hold : r.ids.Pairwise fun k k' =>
        ∃ a b, k = .str a ∧ k' = .str b ∧ Earlier (h ++ [x]) a b := by
      refine htells.order.imp ?_
      rintro k k' ⟨a, b, hk, hk', hearlier⟩
      exact ⟨a, b, hk, hk', hearlier.snoc (hunpaired a) (hunpaired b)⟩
    rw [Registry.ids_put]
    split
    · exact hold
    · rename_i hnew
      rw [hid.isKnown_iff, htells.known] at hnew
      have hx : x = registered id := hknows.resolve_right hnew
      refine List.pairwise_append.mpr ⟨hold, List.pairwise_singleton _ _, ?_⟩
      intro k hk k' hk'
      rw [List.mem_singleton] at hk'
      obtain ⟨entry, hentry, rfl⟩ := List.mem_map.mp hk
      obtain ⟨a, y, hwrites, -⟩ := (htells.entries entry).mp hentry
      rw [hwrites.fst_eq] at hk ⊢
      obtain ⟨i, hi⟩ := ((htells.known a).mp hk).since
      exact ⟨a, id, rfl, hk', i, h.length,
        since_snoc.mpr (.inr ⟨hi, hunpaired a⟩),
        since_snoc.mpr (.inl ⟨hx, hnew, rfl⟩), Since.lt hi⟩

/-- A call that forgets a device. -/
theorem unpair (htells : Tells h r) (hknown : r.isKnown (.str id) = true) :
    Tells (h ++ [unpaired id]) (r.unpair (.str id)).2 := by
  have hid := Json.isExact_str id
  have htouches : Touches id (unpaired id) := .inr (.inr rfl)
  constructor
  case known =>
    intro id'
    have hregistered : unpaired id ≠ registered id' := fun heq => by cases heq
    rw [knows_snoc, or_iff_right hregistered, ← htells.known id', Registry.ids,
      List.mem_map]
    simp only [hid.mem_unpair hknown]
    constructor
    · rintro ⟨entry, ⟨hne, hentry⟩, hkey⟩
      refine ⟨List.mem_map.mpr ⟨entry, hentry, hkey⟩, ?_⟩
      intro heq
      cases heq
      exact hne hkey
    · rintro ⟨hold, hne⟩
      obtain ⟨entry, hentry, hkey⟩ := List.mem_map.mp hold
      refine ⟨entry, ⟨?_, hentry⟩, hkey⟩
      rw [hkey]
      intro heq
      cases heq
      exact hne rfl
  case entries =>
    intro entry
    have hwrites : ¬∃ id', Writes id' (unpaired id) entry := by
      rintro ⟨id', ⟨hx, -⟩ | ⟨pin, hx, -⟩⟩ <;> cases hx
    rw [hid.mem_unpair hknown, stands_snoc, htells.entries, and_comm,
      or_iff_right hwrites]
    refine and_congr_right fun hstands => ⟨?_, ?_⟩
    · intro hne id' hid' htouches'
      exact hne (hid'.trans (congrArg Json.str (htouches'.unique htouches)))
    · intro hother heq
      exact hother id heq htouches
  case order =>
    have hsub := Registry.ids_unpair_sublist r (.str id)
    refine (htells.order.sublist hsub).imp_of_mem ?_
    rintro k k' hk hk' ⟨a, b, rfl, rfl, hearlier⟩
    have hgone {c : Text} (hc : .str c ∈ (r.unpair (.str id)).2.ids) :
        unpaired id ≠ unpaired c := by
      intro heq
      cases heq
      obtain ⟨entry, hentry, hkey⟩ := List.mem_map.mp hc
      exact ((hid.mem_unpair hknown).mp hentry).1 hkey
    exact ⟨a, b, rfl, rfl, hearlier.snoc (hgone hk) (hgone hk')⟩

/-- The order tells the devices of a registry apart. -/
theorem isDistinct (htells : Tells h r) : IsDistinct r.ids := by
  refine htells.order.imp ?_
  rintro k k' ⟨a, b, rfl, rfl, hearlier⟩
  rw [Bool.eq_false_iff]
  intro hsame
  cases (Json.isExact_str a).eq_of_beq _ hsame
  exact Earlier.irrefl hearlier

theorem isKnown_iff (htells : Tells h r) :
    r.isKnown (.str id) = true ↔ Knows h id := by
  rw [(Json.isExact_str id).isKnown_iff, htells.known]

/-- A PIN is held exactly if the last entry about its device received it. -/
theorem mem_held_iff (htells : Tells h r) {pin : Text} :
    (Json.str id, some (Json.str pin)) ∈ r.clients
      ↔ Last h id (received id pin) := by
  rw [htells.entries]
  constructor
  · rintro ⟨id', x, ⟨-, hentry⟩ | ⟨pin', rfl, hentry⟩, hlast⟩
    · cases hentry
    · cases hentry
      exact hlast
  · intro hlast
    exact ⟨id, _, .inr ⟨pin, rfl, rfl⟩, hlast⟩

/-- A PIN is awaited exactly for a device that was registered last. -/
theorem mem_awaited_iff (htells : Tells h r) {k : Json} :
    (k, none) ∈ r.clients ↔ ∃ id, k = .str id ∧ Last h id (registered id) := by
  rw [htells.entries]
  constructor
  · rintro ⟨id', x, ⟨rfl, hentry⟩ | ⟨pin', -, hentry⟩, hlast⟩
    · cases hentry
      exact ⟨id', rfl, hlast⟩
    · cases hentry
  · rintro ⟨id, rfl, hlast⟩
    exact ⟨id, _, .inl ⟨rfl, rfl⟩, hlast⟩

-- ================================================================= calls

/-- A PIN is taken for a device that is known, and for no other. -/
theorem receivePin_eq (htells : Tells h r) (id pin : Text) :
    ∃ known r', r.answer (.receivePin (.str id) (.str pin))
        = .ok (.bool known, [], r')
      ∧ (known = true ↔ Knows h id) ∧ (known = false → r' = r)
      ∧ Tells (h ++ [(.receivePin id pin, .bool known)]) r' := by
  let entry : Option Json := some (.str pin)
  refine ⟨(r.receivePin (.str id) entry).1, (r.receivePin (.str id) entry).2,
    rfl, ?_⟩
  by_cases hknown : r.isKnown (.str id) = true
  · have hput : r.receivePin (.str id) entry = (true, r.put (.str id) entry) :=
      if_pos hknown
    have hknows := htells.isKnown_iff.mp hknown
    rw [hput]
    exact ⟨iff_of_true rfl hknows, fun h => (by cases h),
      htells.put (.inr ⟨pin, rfl, rfl⟩) (.inr hknows)⟩
  · have hsame : r.receivePin (.str id) entry = (false, r) := if_neg hknown
    rw [hsame]
    refine ⟨iff_of_false Bool.false_ne_true (mt htells.isKnown_iff.mpr hknown),
      fun _ => rfl, htells.untouched ?_⟩
    rintro id' (heq | ⟨pin', heq⟩ | heq) <;> cases heq

/-- A device is unpaired if it is known; otherwise nothing happens. -/
theorem unpair_eq (htells : Tells h r) (id : Text) :
    ∃ known r', r.answer (.unpair (.str id)) = .ok (.bool known, [], r')
      ∧ (known = true ↔ Knows h id) ∧ (known = false → r' = r)
      ∧ Tells (h ++ [(.unpair id, .bool known)]) r' := by
  refine ⟨(Registry.unpair r (.str id)).1, (Registry.unpair r (.str id)).2,
    rfl, ?_⟩
  by_cases hknown : r.isKnown (.str id) = true
  · have hgone : (Registry.unpair r (.str id)).1 = true := by
      rw [Registry.unpair, if_pos hknown]
    rw [hgone]
    exact ⟨iff_of_true rfl (htells.isKnown_iff.mp hknown),
      fun h => (by cases h), htells.unpair hknown⟩
  · have hsame : Registry.unpair r (.str id) = (false, r) := if_neg hknown
    rw [hsame]
    refine ⟨iff_of_false Bool.false_ne_true (mt htells.isKnown_iff.mpr hknown),
      fun _ => rfl, htells.untouched ?_⟩
    rintro id' (heq | ⟨pin', heq⟩ | heq) <;> cases heq

/-- The PIN of a device is the one received last, or there is none. -/
theorem pinFor_eq (htells : Tells h r) (id : Text) :
    ∃ v, r.answer (.pinFor (.str id)) = .ok (v, [], r)
      ∧ (∀ pin, v = .str pin ↔ Last h id (received id pin))
      ∧ ((∀ pin, ¬Last h id (received id pin)) → v = .null) := by
  have hpin (pin : Json) : r.pinFor (.str id) = some pin
      ↔ (.str id, some pin) ∈ r.clients :=
    (Json.isExact_str id).pinFor_eq_some_iff htells.isDistinct
  refine ⟨_, rfl, fun pin => ?_, fun hnone => ?_⟩
  · rw [← htells.mem_held_iff, ← hpin, Option.getD_eq_iff]
    exact or_iff_left fun h => by cases h.2
  · rw [Option.getD_eq_iff]
    cases hheld : r.pinFor (.str id) with
    | none => exact .inr ⟨rfl, rfl⟩
    | some v =>
      obtain ⟨id', x, ⟨-, heq⟩ | ⟨pin, rfl, heq⟩, hlast⟩ :=
        (htells.entries _).mp ((hpin v).mp hheld)
      · cases heq
      · cases heq
        exact absurd hlast (hnone pin)

/-- Those that are awaited are listed in the order of their places. -/
theorem pending_eq (htells : Tells h r) :
    ∃ ids : List Text, r.answer .pending = .ok (.arr (ids.map .str), [], r)
      ∧ ids.Nodup ∧ (∀ id, id ∈ ids ↔ Last h id (registered id))
      ∧ ids.Pairwise (Earlier h) := by
  have hmem (k : Json) : k ∈ r.pending ↔ (k, none) ∈ r.clients := by
    simp [Registry.pending]
  have htext : r.pending ∈ Set.range (List.map Json.str) := by
    rw [Set.range_list_map]
    intro k hk
    obtain ⟨id, rfl, -⟩ := htells.mem_awaited_iff.mp ((hmem k).mp hk)
    exact ⟨id, rfl⟩
  obtain ⟨ids, hids⟩ := htext
  have horder : ids.Pairwise (Earlier h) := by
    have hsub : r.pending.Sublist r.ids := List.filter_sublist.map _
    have hpending := htells.order.sublist hsub
    rw [← hids, List.pairwise_map] at hpending
    refine hpending.imp ?_
    rintro a b ⟨a', b', ha, hb, hearlier⟩
    cases ha
    cases hb
    exact hearlier
  refine ⟨ids, ?_, horder.imp ?_, fun id => ?_, horder⟩
  · rw [hids]
    rfl
  · rintro a b hearlier rfl
    exact hearlier.irrefl
  · rw [← List.mem_map_of_injective (fun _ _ => Json.str.inj), hids, hmem,
      htells.mem_awaited_iff]
    constructor
    · rintro ⟨id', heq, hlast⟩
      cases heq
      exact hlast
    · intro hlast
      exact ⟨id, rfl, hlast⟩

/-- A call is answered, and the history tells the registry after it. -/
theorem answer (htells : Tells h r) (a : Ask) :
    ∃ v lines r', r.answer a.call = .ok (v, lines, r')
      ∧ Tells (h ++ [(a, v)]) r' := by
  cases a with
  | register id => exact ⟨_, _, _, rfl, htells.put (.inl ⟨rfl, rfl⟩) (.inl rfl)⟩
  | receivePin id pin =>
    obtain ⟨known, r', hanswer, -, -, htells'⟩ := htells.receivePin_eq id pin
    exact ⟨_, _, r', hanswer, htells'⟩
  | unpair id =>
    obtain ⟨known, r', hanswer, -, -, htells'⟩ := htells.unpair_eq id
    exact ⟨_, _, r', hanswer, htells'⟩
  | pinFor id =>
    obtain ⟨v, hanswer, -⟩ := htells.pinFor_eq id
    refine ⟨v, _, r, hanswer, htells.untouched ?_⟩
    rintro id' (heq | ⟨pin', heq⟩ | heq) <;> cases heq
  | pending =>
    obtain ⟨ids, hanswer, -⟩ := htells.pending_eq
    refine ⟨_, _, r, hanswer, htells.untouched ?_⟩
    rintro id' (heq | ⟨pin', heq⟩ | heq) <;> cases heq

/-- Calls are answered one after the other, and their history tells the
registry after the last. -/
theorem answerAll (htells : Tells h r) (asks : List Ask) :
    ∃ h' r', r.answerAll asks = .ok (h', r') ∧ h'.map Prod.fst = asks
      ∧ Tells (h ++ h') r' := by
  induction asks generalizing h r with
  | nil => exact ⟨[], r, rfl, rfl, by rwa [List.append_nil]⟩
  | cons a asks ih =>
    obtain ⟨v, lines, r₁, hanswer, htells₁⟩ := htells.answer a
    obtain ⟨rest, r₂, hrest, hasks, htells₂⟩ := ih htells₁
    refine ⟨(a, v) :: rest, r₂, ?_, congrArg (a :: ·) hasks, ?_⟩
    · rw [Pairings.answerAll, hanswer]
      show (r₁.answerAll asks >>= _) = _
      rw [hrest]
      rfl
    · rwa [List.append_assoc] at htells₂

end Tells

end History

open History in
/-- Over any calls, the history says what a registry knows, what it
answers, and when it is left as it is. -/
theorem answered_by_history (asks : List Ask) :
    ∃ h r, answerAll {} asks = .ok (h, r) ∧ h.map Prod.fst = asks
      ∧ (∀ id, r.isKnown (.str id) = true ↔ Knows h id)
      ∧ (∀ id pin, ∃ known r',
          r.answer (.receivePin (.str id) (.str pin))
            = .ok (.bool known, [], r')
          ∧ (known = true ↔ Knows h id) ∧ (known = false → r' = r))
      ∧ (∀ id, ∃ known r',
          r.answer (.unpair (.str id)) = .ok (.bool known, [], r')
          ∧ (known = true ↔ Knows h id) ∧ (known = false → r' = r))
      ∧ (∀ id, ∃ v, r.answer (.pinFor (.str id)) = .ok (v, [], r)
          ∧ (∀ pin, v = .str pin ↔ Last h id (received id pin))
          ∧ ((∀ pin, ¬Last h id (received id pin)) → v = .null))
      ∧ ∃ ids : List Text, r.answer .pending = .ok (.arr (ids.map .str), [], r)
          ∧ ids.Nodup ∧ (∀ id, id ∈ ids ↔ Last h id (registered id))
          ∧ ids.Pairwise (Earlier h) := by
  obtain ⟨h, r, hanswers, hasks, htells⟩ := Tells.nil.answerAll asks
  refine ⟨h, r, hanswers, hasks, fun id => htells.isKnown_iff, ?_, ?_,
    htells.pinFor_eq, htells.pending_eq⟩
  · intro id pin
    obtain ⟨known, r', hanswer, hknown, hsame, -⟩ := htells.receivePin_eq id pin
    exact ⟨known, r', hanswer, hknown, hsame⟩
  · intro id
    obtain ⟨known, r', hanswer, hknown, hsame, -⟩ := htells.unpair_eq id
    exact ⟨known, r', hanswer, hknown, hsame⟩

end DevicePairing.Pairings
