/-
The line of an attempt.

What is handed in for a submission has texts, numbers and fractions in
it and nothing else, so the line of it is a flat object. It is read back
as the attempt it was written for, also behind blanks. Behind anything
else it is not read at all.
-/
import DevicePairing.Proofs.Journal.Scan
import DevicePairing.Proofs.Json.Ascii
import DevicePairing.Proofs.Json.Unfinished
import DevicePairing.Proofs.Text.Lines

namespace DevicePairing

namespace Attempt

variable (a : Attempt)

/-- Nothing on a line ends it but its end. -/
theorem isUnbroken_body : ((Json.obj a.fields).write .line).IsUnbroken := by
  intro p hp
  obtain ⟨hlow, -⟩ :=
    Json.isPrintableAscii_write Json.isPrintableAscii_line _ p hp
  refine Text.isBreak_eq_false ?_ ?_
  · rintro rfl
    exact absurd hlow (by decide)
  · rintro rfl
    exact absurd hlow (by decide)

/-- A line is made of characters, so its bytes are UTF-8. -/
theorem isScalar_line : a.line.IsScalar := by
  have hend : Text.IsScalar [.char '\n'] := List.forall_mem_singleton.mpr rfl
  exact List.forall_mem_append.mpr
    ⟨(Json.isPrintableAscii_write Json.isPrintableAscii_line _).isScalar, hend⟩

end Attempt

namespace Journal

open Json (FieldEcho IsFlat)
open Json.Reader (isGap)

/-- An outcome that is handed in for a device, at a reading of the wall
clock. -/
structure Entry where
  uniqueId : Text
  outcome : Outcome
  time : Binary64

namespace Entry

/-- The attempt that an entry becomes under a number. -/
def attempt (e : Entry) (id : Int) : Attempt where
  id := id
  uniqueId := .str e.uniqueId
  result := e.outcome.result
  status := e.outcome.report.status
  reason := .str e.outcome.reason
  elapsed := e.outcome.elapsed.roundTenths
  time := .float e.time

/-- Whether an attempt has a line: neither its number nor its status has
too many digits. -/
def HasLine (e : Entry) (id : Int) : Prop :=
  (Json.obj (e.attempt id).fields).isWritable = true

instance (e : Entry) (id : Int) : Decidable (e.HasLine id) :=
  inferInstanceAs (Decidable (_ = true))

/-- What is handed in with a text and a number for the time is taken. -/
theorem ofReport_eq (e : Entry) (id : Int) :
    Attempt.ofReport id (.str e.uniqueId) e.outcome.report (.float e.time)
      = .ok (e.attempt id) := rfl

variable {e : Entry} {id : Int}

-- ================================================================= shape

theorem isWritable_of_mem {fs : List (Text × Json)}
    (h : Json.fieldsWritable fs = true) :
    ∀ f ∈ fs, f.2.isWritable = true := by
  induction fs with
  | nil => exact fun f hf => absurd hf List.not_mem_nil
  | cons f fs ih =>
      rw [Json.fieldsWritable, Bool.and_eq_true] at h
      exact List.forall_mem_cons.mpr ⟨h.1, ih h.2⟩

/-- A number that can be written can stand in a flat object. -/
theorem isFlat_int {n : Int} (h : (Json.int n).isWritable = true) :
    IsFlat (.int n) := by
  unfold Json.isWritable at h
  exact .int h

/-- Nothing in an attempt is nested. -/
theorem isFlat_fields (h : e.HasLine id) :
    ∀ f ∈ (e.attempt id).fields, f.2.IsFlat := by
  have hstatus : e.outcome.report.status.isWritable = true
      → IsFlat e.outcome.report.status := by
    unfold Outcome.report
    cases e.outcome.status with
    | none => exact fun _ => .null
    | some n => exact isFlat_int
  have hflat : ∀ f ∈ (e.attempt id).fields,
      f.2.isWritable = true → f.2.IsFlat := by
    simp only [Attempt.fields, attempt, List.forall_mem_cons]
    exact ⟨isFlat_int, fun _ => .str _, fun _ => .str _, hstatus,
      fun _ => .str _, fun _ => .float _, fun _ => .float _,
      fun _ h => absurd h List.not_mem_nil⟩
  have hwritable : ∀ f ∈ (e.attempt id).fields, f.2.isWritable = true :=
    isWritable_of_mem h
  exact fun f hf => hflat f hf (hwritable f hf)

/-- The names of the fields differ as they are read back. -/
theorem nodup_fields (e : Entry) (id : Int) :
    ((e.attempt id).fields.map fun f => Text.joinPairs f.1).Nodup := by
  have hnames :
      (["id", "unique_id", "result", "status_code", "reason", "elapsed_ms",
          "ts"].map fun name => Text.joinPairs (Text.ofString name)).Nodup := by
    decide
  exact hnames

theorem line_eq (e : Entry) (id : Int) :
    (e.attempt id).line
      = (Json.obj (e.attempt id).fields).write .line ++ [.char '\n'] := rfl

-- =============================================================== reading

end Entry

/-- Whether a line is read back as an attempt: its number is taken, and
all of its fields come back. -/
def IsReadAs (a : Attempt) (line : Text) : Prop :=
  idOf? line = some a.id
    ∧ ∃ fs, Json.read lineDepth line = .ok (.obj fs)
      ∧ List.Forall₂ FieldEcho a.fields fs

namespace Entry

variable {e : Entry} {id : Int}

/-- Text that ends in a line has more than blanks. -/
theorem isBlank_line (before : Text) :
    (before ++ (e.attempt id).line).isBlank = false := by
  rw [line_eq, Json.Reader.write_obj_append, Text.isBlank, List.all_append,
    List.all_cons]
  exact Bool.and_false _

/-- A line is read back, also behind blanks. -/
theorem isReadAs_line (h : e.HasLine id) {before : Text}
    (hbefore : before.all isGap = true) :
    IsReadAs (e.attempt id) (before ++ (e.attempt id).line) := by
  have hafter : List.all [CodePoint.char '\n'] isGap = true := rfl
  obtain ⟨fs, hecho, hread⟩ := Json.read_obj (by decide : lineDepth ≠ 0)
    (List.cons_ne_nil _ _) (isFlat_fields h) (nodup_fields e id) hbefore hafter
  change Json.read lineDepth (before ++ (e.attempt id).line)
    = .ok (.obj fs) at hread
  refine ⟨idOf?_eq_some.mpr ⟨isBlank_line before, ?_⟩, fs, hread, hecho⟩
  cases hecho with
  | @cons _ f _ fs hf _ =>
      obtain ⟨name, v⟩ := f
      obtain ⟨rfl, hv⟩ := hf
      cases hv
      rw [lineId, hread]
      rfl

/-- Behind anything else it is not. -/
theorem idOf?_unfinished (h : e.HasLine id) {before : Text}
    (hbefore : before.all isGap = false) :
    idOf? (before ++ (e.attempt id).line) = none := by
  have hafter : List.all [CodePoint.char '\n'] isGap = true := rfl
  have hbarrier : Json.Reader.IsBarrier (e.attempt id).line :=
    Json.isBarrier_obj (c := 'i') rfl (isFlat_fields h) rfl (nodup_fields e id)
      hafter
  have hread := Json.read_unfinished hbarrier hbefore lineDepth
  rw [Option.eq_none_iff_forall_ne_some]
  intro n hn
  obtain ⟨-, hid⟩ := idOf?_eq_some.mp hn
  unfold lineId at hid
  cases hline : Json.read lineDepth (before ++ (e.attempt id).line) with
  | ok v => exact hread v hline
  | error f =>
      rw [hline] at hid
      cases hid

-- =============================================================== writing

/-- What stands on the line in front of its end. -/
def body (e : Entry) (id : Int) : Text :=
  (Json.obj (e.attempt id).fields).write .line

theorem isPrintableAscii_body (e : Entry) (id : Int) :
    (e.body id).IsPrintableAscii :=
  Json.isPrintableAscii_write Json.isPrintableAscii_line _

theorem isUnbroken_body (e : Entry) (id : Int) : (e.body id).IsUnbroken :=
  Attempt.isUnbroken_body (e.attempt id)

end Entry

end Journal

end DevicePairing
