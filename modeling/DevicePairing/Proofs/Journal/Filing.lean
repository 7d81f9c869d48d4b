/-
What a journal holds that one writer has filed from its beginning.

A writer that was opened in a directory without files is the only one to
put anything there. So the lines are those of the attempts it has written,
as far as they have lines, and there is one table, with a row for every
attempt that has a line and fits the columns. For which device an attempt
was made does not matter to that: an attempt for something that is no text
has its line like any other, and no row.

The table can be read because the writer was closed; the lines could be
read all the time.
-/
import DevicePairing.Proofs.Journal.Outcomes

namespace DevicePairing

namespace Attempt

/-- Whether an attempt has a line. -/
def hasLine (a : Attempt) : Bool := (Json.obj a.fields).isWritable

/-- The row that is written beside the line of an attempt, if there are both. -/
def row? (a : Attempt) : Option Row :=
  if a.hasLine then a.row.toOption else none

end Attempt

namespace Journal

-- ============================================================= attempts

/-- The attempt that an outcome of a device becomes under a number. -/
def attemptFor (device : Json) (t : Binary64) (o : Outcome) (n : Int) :
    Attempt where
  id := n
  uniqueId := device
  result := o.result
  status := o.report.status
  reason := .str o.reason
  elapsed := o.elapsed.roundTenths
  time := .float t

/-- The attempts that outcomes of a device become, numbered from `n` on, each
at the reading of the clock for its number. -/
def attemptsFor (device : Json) (ts : Nat → Binary64) (n : Nat)
    (os : List Outcome) : List Attempt :=
  (os.zipIdx n).map fun x => attemptFor device (ts x.2) x.1 x.2

variable {device : Json} {u : Text} {t : Binary64} {o : Outcome} {n : Int}

/-- The device makes no difference to whether there is a line, as long as it
can be written itself. -/
theorem hasLine_attemptFor (hdevice : device.isWritable = true) :
    (attemptFor device t o n).hasLine = true ↔ HasDigits o n := by
  have hname : (attemptFor device t o n).hasLine
      = (attemptFor (.str []) t o n).hasLine := by
    simp only [Attempt.hasLine, Attempt.fields, attemptFor, Json.isWritable,
      Json.fieldsWritable, hdevice]
  rw [hname]
  exact hasLine_iff_hasDigits (u := []) (t := t)

/-- What is for no text has no row. -/
theorem row?_attemptFor_arr (vs : List Json) :
    (attemptFor (.arr vs) t o n).row? = none := by
  unfold Attempt.row?
  split
  · unfold Attempt.row
    split
    · rfl
    · rfl
  · rfl

/-- What is for a text has a row if its number and its status fit. -/
theorem row?_attemptFor_str (hu : u.IsScalar) (hreason : o.reason.IsScalar) :
    (attemptFor (.str u) t o n).row?
      = if fitsBits 64 n ∧ ∀ k ∈ o.status, fitsBits 16 k then
          some ((Entry.mk u o t).row n)
        else none := by
  have hentry : (Entry.mk u o t).attempt n = attemptFor (.str u) t o n := rfl
  have hfits : (Entry.mk u o t).Fits n
      ↔ fitsBits 64 n ∧ ∀ k ∈ o.status, fitsBits 16 k :=
    ⟨fun h => ⟨h.1, h.2.1⟩, fun h => ⟨h.1, h.2, hu, hreason⟩⟩
  by_cases h : fitsBits 64 n ∧ ∀ k ∈ o.status, fitsBits 16 k
  · have he := hfits.mpr h
    have hline : (attemptFor (.str u) t o n).hasLine = true := he.hasLine
    rw [if_pos h, Attempt.row?, if_pos hline, ← hentry,
      Entry.row_eq_ok.mpr ⟨he, rfl⟩]
    rfl
  · rw [if_neg h, Attempt.row?]
    split
    · rw [← hentry]
      cases hrow : ((Entry.mk u o t).attempt n).row with
      | error f => rfl
      | ok r => exact absurd (hfits.mp (Entry.row_eq_ok.mp hrow).1) h
    · rfl

-- =============================================================== filing

/-- An open writer that has written these attempts, in a directory without
other files. -/
structure Filing (w : Writer) (s : Store) (directory : Text)
    (as : List Attempt) : Prop where
  isAt : w.directory = directory
  ready : Ready w s (linesOf (as.filter Attempt.hasLine))
  holding : ∃ p, Holding w s ⟨directory, p, [], []⟩ (as.filterMap Attempt.row?)

/-- What such a writer leaves when it is closed: the lines, and one table that
can be read. -/
structure Filed (s : Store) (directory : Text) (as : List Attempt) :
    Prop where
  lines : linesAt s (linesPath directory)
    = (as.filter Attempt.hasLine).map Attempt.line
  table : ∃ p c, tablesIn s directory = [(p, c)]
    ∧ c.rows? = some (as.filterMap Attempt.row?)

variable {w : Writer} {s s₁ : Store} {directory : Text} {as : List Attempt}

theorem linesOf_append (as bs : List Attempt) :
    linesOf (as ++ bs) = linesOf as ++ linesOf bs :=
  List.flatMap_append

/-- What an attempt adds to the lines. -/
theorem linesOf_filter_single (a : Attempt) :
    linesOf ([a].filter Attempt.hasLine) = a.line?.toOption.getD [] := by
  by_cases hline : a.hasLine = true
  · have hok : a.line? = .ok a.line := if_pos hline
    rw [List.filter_cons_of_pos hline, hok]
    exact List.append_nil _
  · have herror : a.line? = .error ⟨.value, Numeral.tooLongToWrite⟩ :=
      if_neg hline
    rw [List.filter_cons_of_neg hline, herror]
    rfl

/-- A row comes with a line. -/
theorem row?_eq_some {a : Attempt} {r : Row} :
    a.row? = some r ↔ (∃ line, a.line? = .ok line) ∧ a.row = .ok r := by
  unfold Attempt.row? Attempt.line? Attempt.hasLine
  split
  · cases a.row <;> simp [Except.toOption]
  · simp

namespace Filing

/-- A writer that was opened in a directory without files has written
nothing. -/
theorem opened (hempty : filesIn s directory = []) {time : Json}
    {log : List Text}
    (hopen : openAt s directory time = (⟨.ok w, log⟩, s₁)) :
    w.nextId = 1 ∧ Filing w s₁ directory [] := by
  obtain ⟨hnext, hdirectory, hready, m, name, before, old, after, -,
    htables, -, -, hholding⟩ := (Kept.of_empty hempty).opened hopen
  -- there are no tables that the new one could lie among
  have hnone := htables.files
  rw [(of_filesIn_eq_nil hempty).2] at hnone
  obtain ⟨rfl, rfl, rfl⟩ : before = [] ∧ old = [] ∧ after = [] := by
    simpa using hnone
  exact ⟨hnext, hdirectory, hready, _, hholding⟩

theorem advance (h : Filing w s directory as) :
    Filing w.advance s directory as := by
  obtain ⟨hdirectory, ⟨hholds, hfree, htable⟩, p, hholding⟩ := h
  exact ⟨hdirectory, ⟨hholds, hfree, htable⟩, p, hholding.advance⟩

/-- One more attempt is written behind the others. -/
theorem write (h : Filing w s directory as) (a : Attempt) :
    let y := w.write s a
    y.2.1.nextId = w.nextId ∧ Filing y.2.1 y.2.2 directory (as ++ [a]) := by
  obtain ⟨hdirectory, hready, p, hholding⟩ := h
  obtain ⟨hready, hwrite⟩ := write_eq hready a
  have hput := hholding.put_lines
    (.bytes (linesOf (as.filter Attempt.hasLine)
      ++ a.line?.toOption.getD []).utf8)
  generalize s.put _ _ = s₁ at hready hwrite hput
  rw [← linesOf_filter_single, ← linesOf_append, ← List.filter_append] at hready
  dsimp only at hwrite ⊢
  rw [hwrite]
  -- without a row, the table is what it was
  have hsame (hnone : a.row? = none) :
      Filing w s₁ directory (as ++ [a]) := by
    refine ⟨hdirectory, hready, p, ?_⟩
    rw [List.filterMap_append, List.filterMap_cons_none hnone,
      List.filterMap_nil, List.append_nil]
    exact hput
  cases hline : a.line? with
  | error f =>
      refine ⟨rfl, hsame (Option.eq_none_iff_forall_ne_some.mpr fun r hr => ?_)⟩
      obtain ⟨⟨line, hok⟩, -⟩ := row?_eq_some.mp hr
      rw [hline] at hok
      cases hok
  | ok line =>
      dsimp only
      rw [if_pos hput.isOpen]
      cases hrow : a.row with
      | error f =>
          refine ⟨rfl, hsame ?_⟩
          refine Option.eq_none_iff_forall_ne_some.mpr fun r hr => ?_
          obtain ⟨-, hok⟩ := row?_eq_some.mp hr
          rw [hrow] at hok
          cases hok
      | ok r =>
          have hsome : a.row? = some r := row?_eq_some.mpr ⟨⟨line, hline⟩, hrow⟩
          refine ⟨rfl, hdirectory, hready.writeRow r, p, ?_⟩
          rw [List.filterMap_append, List.filterMap_cons_some hsome,
            List.filterMap_nil]
          exact hput.writeRow r

/-- Handing an outcome in writes the attempt that it becomes. -/
theorem append (h : Filing w s directory as) (device : Json) (t : Binary64)
    (o : Outcome) :
    let y := w.append s device o.report (.float t)
    y.2.1.nextId = w.nextId + 1
      ∧ Filing y.2.1 y.2.2 directory (as ++ [attemptFor device t o w.nextId]) :=
  h.advance.write (attemptFor device t o w.nextId)

/-- Closing leaves the lines as they are and makes a table of the rows. -/
theorem close (h : Filing w s directory as) :
    Filed (w.close s).2 directory as := by
  obtain ⟨rfl, hready, p, hholding⟩ := h
  obtain ⟨c, hclosed, htables⟩ := hholding.close
  have hholds := (close_ready hready).holds
  rw [directory_close] at hholds
  exact ⟨linesAt_linesOf hholds, p, c, htables, hclosed.rows?_eq⟩

end Filing

end Journal

end DevicePairing
