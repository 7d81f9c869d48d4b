/-
A journal of the outcomes of one device.

A writer that began with an empty journal numbers what it is handed from
one on. So the number of an outcome is its place, and what the lines have
to say is fixed by the outcomes alone: one line for each, in their order,
with the place for its number. The clock is read for each of them, so a
place also tells which reading its outcome is stamped with. Handing the next
one in adds its line at the end, also where the row is refused for a value
that fits no column; closing adds nothing.

The only outcomes without a line are those that cannot be written at all,
because a number in them has more digits than may be written.
-/
import DevicePairing.Proofs.Journal.Runs

namespace DevicePairing.Journal

-- =============================================================== places

/-- Outcomes of a device as they are handed in at the places from `n` on, each
at the reading of the clock for its place. -/
def entries (u : Text) (ts : Nat → Binary64) (n : Nat) (os : List Outcome) :
    List Entry :=
  (os.zipIdx n).map fun x => ⟨u, x.1, ts x.2⟩

/-- Whether an outcome with a number has a line: neither the number nor its
status has too many digits. -/
def HasDigits (o : Outcome) (n : Int) : Prop :=
  FewDigits n ∧ ∀ k ∈ o.status, FewDigits k

instance (o : Outcome) (n : Int) : Decidable (HasDigits o n) :=
  inferInstanceAs (Decidable (_ ∧ _))

/-- What a line says of an outcome: it is an object that begins with the
number, the device, the result, the status and the reason. -/
def Tells (u : Text) (o : Outcome) (n : Int) (line : Text) : Prop :=
  ∃ fs, Json.read lineDepth line = .ok (.obj fs)
    ∧ fs.take 5 = ([("id", .int n), ("unique_id", .str u),
      ("result", .str o.result.name), ("status_code", o.report.status),
      ("reason", .str o.reason)] : List (Text × Json))

/-- The journal of the outcomes of a device. -/
structure Written (s : Store) (directory u : Text) (os : List Outcome) :
    Prop where
  /-- The lines tell of the outcomes that have lines, in their order, under
  the numbers of their places. -/
  told : List.Forall₂ (fun x line => Tells u x.1 x.2 line)
    ((os.zipIdx 1).filter fun x => HasDigits x.1 x.2)
    (linesAt s (linesPath directory))
  /-- Unless there are numbers with too many digits, that is all of them. -/
  complete : FewDigits os.length → (∀ o ∈ os, ∀ k ∈ o.status, FewDigits k) →
    List.Forall₂ (fun x line => Tells u x.1 x.2 line) (os.zipIdx 1)
      (linesAt s (linesPath directory))

variable {u : Text} {t : Binary64} {ts : Nat → Binary64} {os : List Outcome}
  {o : Outcome} {n : Int}

theorem entries_append (n : Nat) (os os' : List Outcome) :
    entries u ts n (os ++ os')
      = entries u ts n os ++ entries u ts (n + os.length) os' := by
  rw [entries, List.zipIdx_append, List.map_append]
  rfl

theorem length_entries (n : Nat) (os : List Outcome) :
    (entries u ts n os).length = os.length := by
  rw [entries, List.length_map, List.length_zipIdx]

theorem hasLine_iff_hasDigits :
    (Entry.mk u o t).HasLine n ↔ HasDigits o n :=
  Entry.hasLine_iff

/-- Smaller numbers have no more digits. -/
theorem FewDigits.mono {m n : Nat} (h : FewDigits n) (hle : m ≤ n) :
    FewDigits m := by
  have hpos : 0 < Numeral.digitLimit := by decide
  have hn : n < pow10 Numeral.digitLimit := (lt_pow10_iff hpos).mpr h
  exact (lt_pow10_iff hpos).mp (Nat.lt_of_le_of_lt hle hn)

/-- Few outcomes with few digits all have lines. -/
theorem filter_zipIdx_hasDigits (h : FewDigits os.length)
    (hstatus : ∀ o ∈ os, ∀ k ∈ o.status, FewDigits k) :
    (os.zipIdx 1).filter (fun x => HasDigits x.1 x.2) = os.zipIdx 1 := by
  rw [List.filter_eq_self]
  intro x hx
  have hplace := List.snd_lt_of_mem_zipIdx hx
  have ho := hstatus x.1 (List.fst_mem_of_mem_zipIdx hx)
  exact decide_eq_true ⟨h.mono (by omega), ho⟩

/-- The line of an outcome tells of it. -/
theorem tells_line (hu : u.IsScalar) (hreason : o.reason.IsScalar)
    (hdigits : HasDigits o n) :
    Tells u o n ((Entry.mk u o t).attempt n).line := by
  have hread : IsReadAs ((Entry.mk u o t).attempt n)
      ([] ++ ((Entry.mk u o t).attempt n).line) :=
    Entry.isReadAs_line (hasLine_iff_hasDigits.mpr hdigits) rfl
  exact Entry.take_fields hu hreason hread

-- ================================================================ lines

/-- Entries behind others are numbered behind them. -/
theorem attemptsFrom_append (n : Int) (es es' : List Entry) :
    attemptsFrom n (es ++ es')
      = attemptsFrom n es ++ attemptsFrom (n + es.length) es' := by
  induction es generalizing n with
  | nil =>
      rw [List.length_nil, Int.natCast_zero, Int.add_zero]
      rfl
  | cons e es ih =>
      have hnext : n + 1 + es.length = n + (e :: es).length := by
        rw [List.length_cons]
        omega
      rw [List.cons_append, attemptsFrom, attemptsFrom, ih (n + 1), hnext]
      split
      · rfl
      · rfl

/-- The line of one entry is what it adds. -/
theorem linesOf_single (n : Int) (e : Entry) :
    linesOf (attemptsFrom n [e]) = e.added n := by
  rw [attemptsFrom, attemptsFrom, Entry.added]
  split
  · exact List.append_nil _
  · rfl

/-- The lines of outcomes tell of them, place by place. -/
theorem tells_attemptsFrom (hu : u.IsScalar) (n : Nat)
    (hreasons : ∀ o ∈ os, o.reason.IsScalar) :
    List.Forall₂ (fun x line => Tells u x.1 x.2 line)
      ((os.zipIdx n).filter fun x => HasDigits x.1 x.2)
      ((attemptsFrom n (entries u ts n os)).map Attempt.line) := by
  induction os generalizing n with
  | nil => exact .nil
  | cons o os ih =>
      obtain ⟨hreason, hreasons⟩ := List.forall_mem_cons.mp hreasons
      have hrest := ih (n + 1) hreasons
      rw [entries, List.zipIdx_cons, List.filter_cons, List.map_cons,
        attemptsFrom]
      by_cases hdigits : HasDigits o n
      · rw [if_pos (decide_eq_true hdigits),
          if_pos (hasLine_iff_hasDigits.mpr hdigits)]
        exact .cons (tells_line hu hreason hdigits) hrest
      · rw [if_neg (by simpa using hdigits),
          if_neg (mt hasLine_iff_hasDigits.mp hdigits)]
        exact hrest

variable {s : Store} {directory : Text}

/-- A file with the lines of outcomes is their journal. -/
theorem written_of_holds (hu : u.IsScalar)
    (hreasons : ∀ o ∈ os, o.reason.IsScalar)
    (h : s.Holds (linesPath directory)
      (linesOf (attemptsFrom 1 (entries u ts 1 os)))) :
    Written s directory u os := by
  have hat := linesAt_linesOf h
  have htold : List.Forall₂ (fun x line => Tells u x.1 x.2 line)
      ((os.zipIdx 1).filter fun x => HasDigits x.1 x.2)
      (linesAt s (linesPath directory)) :=
        hat ▸ tells_attemptsFrom hu 1 hreasons
  refine ⟨htold, fun hlength hstatus => ?_⟩
  rw [filter_zipIdx_hasDigits hlength hstatus] at htold
  exact htold

-- =============================================================== writers

/-- An open writer that has been handed outcomes of a device, from an empty
journal on. -/
structure Logging (w : Writer) (s : Store) (directory u : Text)
    (ts : Nat → Binary64) (os : List Outcome) : Prop where
  isOpen : w.isOpen = true
  directory : w.directory = directory
  nextId : w.nextId = os.length + 1
  ready : Ready w s (linesOf (attemptsFrom 1 (entries u ts 1 os)))

variable {w : Writer}

namespace Logging

/-- A writer that was opened in a directory without files. -/
theorem opened (hempty : filesIn s directory = []) {time : Json}
    {log : List Text} {s₁ : Store}
    (hopen : openAt s directory time = (⟨.ok w, log⟩, s₁)) (u : Text)
    (ts : Nat → Binary64) : Logging w s₁ directory u ts [] := by
  obtain ⟨hnext, hdirectory, hready, _, _, _, _, _, -, -, -, -, hholding⟩ :=
    (Kept.of_empty hempty).opened hopen
  exact ⟨hholding.isOpen, hdirectory, hnext, hready⟩

/-- Handing an outcome in adds its line. The number is given back if the
values fit the columns; otherwise there is a fault, but none that is handed
on. -/
theorem append (h : Logging w s directory u ts os) (o : Outcome) :
    let t := ts (os.length + 1)
    let y := w.append s (.str u) o.report (.float t)
    Logging y.2.1 y.2.2 directory u ts (os ++ [o])
      ∧ ((Entry.mk u o t).Fits (os.length + 1) →
          y.1 = .ok (os.length + 1 : Int))
      ∧ (¬(Entry.mk u o t).Fits (os.length + 1) →
          ∃ f, f.family = .other ∧ y.1 = .error f) := by
  intro t y
  obtain ⟨-, hnext, hdirectory, hready⟩ := append_ready h.ready ⟨u, o, t⟩
  obtain ⟨c, hfits, hnot⟩ := append_cases h.ready h.isOpen ⟨u, o, t⟩
  change y.2.1.nextId = _ at hnext
  change y.2.1.directory = _ at hdirectory
  change Ready y.2.1 y.2.2 _ at hready
  change _ → y = _ at hfits
  change _ → ∃ f, _ ∧ y = _ at hnot
  rw [h.nextId] at hnext hfits hnot hready
  have hlines : linesOf (attemptsFrom 1 (entries u ts 1 (os ++ [o])))
      = linesOf (attemptsFrom 1 (entries u ts 1 os))
        ++ (Entry.mk u o t).added (os.length + 1) := by
    have hlength : (1 : Int) + (entries u ts 1 os).length = os.length + 1 := by
      rw [length_entries]
      omega
    have hlast : entries u ts (1 + os.length) [o] = [⟨u, o, t⟩] := by
      rw [Nat.add_comm]
      rfl
    rw [entries_append, hlast, attemptsFrom_append, linesOf,
      List.flatMap_append, hlength]
    exact congrArg _ (linesOf_single _ _)
  refine ⟨⟨?isOpen, ?directory, ?nextId, ?ready⟩, ?_, ?_⟩
  case isOpen =>
    by_cases he : (Entry.mk u o t).Fits (os.length + 1)
    · rw [hfits he]
      exact h.isOpen
    · obtain ⟨f, -, hy⟩ := hnot he
      rw [hy]
      exact h.isOpen
  case directory => exact hdirectory.trans h.directory
  case nextId =>
    rw [hnext, List.length_append, List.length_singleton]
    rfl
  case ready =>
    rw [hlines]
    exact hready
  · intro he
    rw [hfits he]
  · intro he
    obtain ⟨f, hfamily, hy⟩ := hnot he
    exact ⟨f, hfamily, congrArg Prod.fst hy⟩

/-- What such a writer has left is the journal of its outcomes. -/
theorem written (h : Logging w s directory u ts os) (hu : u.IsScalar)
    (hreasons : ∀ o ∈ os, o.reason.IsScalar) : Written s directory u os := by
  have hholds := h.ready.holds
  rw [h.directory] at hholds
  exact written_of_holds hu hreasons hholds

/-- And it is so when the writer is closed. -/
theorem written_close (h : Logging w s directory u ts os) (hu : u.IsScalar)
    (hreasons : ∀ o ∈ os, o.reason.IsScalar) :
    Written (w.close s).2 directory u os := by
  have hholds := (close_ready h.ready).holds
  rw [directory_close, h.directory] at hholds
  exact written_of_holds hu hreasons hholds

/-- Each line was written with the reading of the clock for its place. -/
theorem linesAt_close (h : Logging w s directory u ts os) :
    linesAt (w.close s).2 (linesPath directory)
      = (attemptsFrom 1 (entries u ts 1 os)).map Attempt.line := by
  have hholds := (close_ready h.ready).holds
  rw [directory_close, h.directory] at hholds
  exact linesAt_linesOf hholds

end Logging

end DevicePairing.Journal
