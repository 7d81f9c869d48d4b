/-
Tables as they lie in a file.

A writer puts a table down from the beginning of its file: a mark, the
rows one behind the other, and at the end an index of where they are. It
always goes on where it stopped, whatever has become of the file in the
meantime, so two writers of one file write over each other. A file is
read from its end: it is a table if it ends in an index and every row
that the index names lies there unharmed.
-/
import DevicePairing.Journal.Record

namespace DevicePairing

-- ============================================================== spans

/-- A stretch of a file: where it begins, and the widths of its parts in
bytes. -/
structure Span where
  start : Nat
  widths : List Nat
  deriving DecidableEq, Repr

namespace Span

/-- Where a stretch ends. -/
def stop (s : Span) : Nat := s.widths.foldl (· + ·) s.start

/-- Whether two stretches share a byte. -/
def meets (a b : Span) : Bool := a.start < b.stop && b.start < a.stop

end Span

/-- The widths of the columns of a row. A column holds its value, and its
value again as the least and the greatest of the column; for a missing
value there is only the frame. -/
def Row.widths (r : Row) : List Nat :=
  let text := fun t : Option Text =>
    match t with | some t => 56 + 3 * t.utf8.length | none => 46
  [96, text r.uniqueId, text (some r.result),
    if r.status.isSome then 76 else 46, text r.reason, 76, 96]

-- ============================================================= layers

/-- What lies on a stretch of a file. -/
inductive Piece where
  | row (r : Row)
  | index (rows : List Span)
  | other
  deriving DecidableEq

/-- Everything that was written to a file, the latest first. -/
abbrev Layers := List (Span × Piece)

namespace Layers

/-- What lies on just this stretch, if nothing later lies on a byte of it. -/
def at? (layers : Layers) (span : Span) : Option Piece :=
  match layers with
  | [] => none
  | (s, p) :: older =>
    if s = span then some p else if s.meets span then none else at? older span

/-- The row on a stretch. -/
def row? (layers : Layers) (span : Span) : Option Row :=
  match layers.at? span with
  | some (.row r) => some r
  | _ => none

/-- The size of a file. -/
def size (layers : Layers) : Nat := (layers.map (·.1.stop)).foldr max 0

/-- The rows of the table that a file holds. -/
def rows? (layers : Layers) : Option (List Row) :=
  match layers.find? (·.1.stop = layers.size) with
  | none => none
  | some (span, _) =>
    match layers.at? span with
    | some (.index rows) => rows.mapM layers.row?
    | _ => none

end Layers

-- ============================================================= writing

namespace Span

/-- The stretch of the mark at the beginning of a table. -/
def mark : Span := ⟨0, [4]⟩

/-- The stretch of a row behind others. -/
def ofRow (rows : List Span) (r : Row) : Span :=
  ⟨(rows.getLast?.getD mark).stop, r.widths⟩

/-- The stretch of the index behind rows. It describes the columns first,
then says of every row about as much as the row takes. -/
def ofIndex (rows : List Span) : Span :=
  let width := rows.foldl (fun n s => n + 155 + (s.stop - s.start)) 1030
  ⟨(rows.getLast?.getD mark).stop, [width]⟩

end Span

end DevicePairing
