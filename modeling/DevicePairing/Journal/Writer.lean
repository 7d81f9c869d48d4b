/-
The journal of pairing attempts.

Every attempt has a number. The lines of all runs are in one file, and
each run has a table of its own besides. When a journal is opened, the
lines are read for the greatest number in use; a line that cannot be read
is passed over with a word about it, since it may be what a run that was
cut short has left. A number is used up as soon as an attempt is handed
in, whatever becomes of the attempt.
-/
import DevicePairing.Exchange
import DevicePairing.Journal.Calendar
import DevicePairing.Journal.Store
import DevicePairing.Json.Reader
import DevicePairing.Text.Lines

namespace DevicePairing

namespace Journal

-- ====================================================== numbers in use

/-- How deep a line may be nested. -/
def lineDepth : Nat := 987

/-- The fault of a line that is no document. -/
def readFault (document : Text) (f : Json.ReadFault) : Fault :=
  match f with
  | .tooDeep _ => ⟨.nesting, f.message document⟩
  | _ => ⟨.value, f.message document⟩

/-- The number that a value denotes. Fractions lose what follows the point. -/
def toInteger (v : Json) : Except Fault Int :=
  match v with
  | .int n => .ok n
  | .bool b => .ok (if b then 1 else 0)
  | .float .nan => .error ⟨.value, "cannot convert float NaN to integer"⟩
  | .float x =>
    match x.truncate? with
    | some n => .ok n
    | none => .error ⟨.overflow, "cannot convert float infinity to integer"⟩
  | .str t =>
    match Numeral.integer t with
    | .ok n => .ok n
    | .error f => .error f.fault
  | v =>
    .error ⟨.type, "int() argument must be a string, a bytes-like object or "
      ++ Text.ofString "a real number, not '"
      ++ Text.ofString v.kindName ++ "'"⟩

/-- The field that holds the number of an attempt. -/
def idField (v : Json) : Except Fault Json :=
  match v with
  | .obj fields =>
    match Json.lookup "id" fields with
    | some id => .ok id
    | none => .error ⟨.key, "'id'"⟩
  | .arr _ => .error ⟨.type, "list indices must be integers or slices, not str"⟩
  | .str _ => .error ⟨.type, "string indices must be integers, not 'str'"⟩
  | v =>
    .error ⟨.type, "'" ++ Text.ofString v.kindName
      ++ "' object is not subscriptable"⟩

/-- The number of the attempt on a line. -/
def lineId (line : Text) : Except Fault Int := do
  let v ←
    match Json.read lineDepth line with
    | .ok v => .ok v
    | .error f => .error (readFault line f)
  let id ← idField v
  toInteger id

/-- Whether a line with this fault is passed over. -/
def isPassedOver (f : Fault) : Bool :=
  f.kind == .value || f.kind == .key || f.kind == .type

/-- What reading lines comes to: the greatest number so far, and what was
printed on the way; or the fault that ended it. -/
structure Scan where
  last : Int
  log : List Text
  fault : Option Fault

/-- The line printed for a line that is passed over. -/
def skipLine (path : Text) (f : Fault) : Text :=
  "[Journal] Skipping unreadable line in " ++ path ++ ": " ++ f.message

/-- Read lines for the greatest number, beginning with `last`. -/
def scanLines (path : Text) (last : Int) : List Text → Scan
  | [] => ⟨last, [], none⟩
  | line :: lines =>
    if line.isBlank then scanLines path last lines
    else
      match lineId line with
      | .ok id => scanLines path (max last id) lines
      | .error f =>
        if isPassedOver f then
          let rest := scanLines path last lines
          { rest with log := skipLine path f :: rest.log }
        else ⟨last, [], some f⟩

/-- The size of the blocks in which a file is read. -/
def blockSize : Nat := 8192

/-- Read the bytes of a journal for the greatest number. Where they are no
text, the lines that were complete before are read still. -/
def scanBytes (path : Text) (b : Bytes) : Scan :=
  match decodeBlocks [] (blocksOf blockSize b) with
  | (t, none) => scanLines path 0 t.lines
  | (t, some f) =>
    let scan := scanLines path 0 t.completeLines
    { scan with fault := scan.fault <|> some f.fault }

/-- Read the journal at a path for the greatest number; a missing one has
none. -/
def scan (s : Store) (path : Text) : Scan :=
  let p := Path.place path
  if s.isDirectory p then
    ⟨0, [], some (Store.refusal .isDirectory 21 "Is a directory" path)⟩
  else
    match s.file? p with
    | some (.bytes b) => scanBytes path b
    | _ => ⟨0, [], none⟩

-- ============================================================= writers

/-- A writer: its directory, the next number, the path of its table with
the stretches of its rows, and whether it is open. -/
structure Writer where
  directory : Text
  nextId : Int
  tablePath : Text
  rows : List Span := []
  isOpen : Bool := true

/-- The path of the lines below a directory. -/
def linesPath (directory : Text) : Text := Path.child directory "attempts.jsonl"

/-- The whole seconds of a reading of the wall clock. -/
def wholeSeconds? (time : Json) : Option Int :=
  match time with
  | .int n => some n
  | .float x => x.floor?
  | v => v.wholeNumber?

/-- The moment of a reading of the wall clock. Seconds have 64 bits, and
years since 1900 have 32. -/
def momentOf (time : Json) : Except Fault Moment :=
  let unread : Except Fault Moment :=
    .error ⟨.overflow, "timestamp out of range for platform time_t"⟩
  match wholeSeconds? time with
  | none => unread
  | some seconds =>
    let m := Moment.ofSeconds seconds
    if !fitsBits 64 seconds then unread
    else if !fitsBits 32 (m.year - 1900) then
      .error ⟨.system, "[Errno 75] Value too large for defined data type"⟩
    else if !fitsBits 32 m.year then
      .error ⟨.overflow, "signed integer is greater than maximum"⟩
    else .ok m

/-- The name of a table. -/
def tableName (m : Moment) (firstId : Int) : Except Fault Text :=
  match Numeral.integerText? firstId with
  | none => .error ⟨.value, Numeral.tooLongToWrite⟩
  | some digits => .ok ("attempts_" ++ m.stamp ++ "_" ++ digits ++ ".parquet")

/-- The fault of a name that is too long for the system. -/
def nameTooLong (path : Text) : Fault :=
  ⟨.system, "[Errno 36] Failed stat()ing path " ++ Text.ofString "'" ++ path
    ++ "'. Detail: [errno 36] File name too long"⟩

/-- The fault of a table in the place of a directory. -/
def tableIsDirectory (path : Text) : Fault :=
  ⟨.isDirectory, "[Errno 21] Failed to open local file '" ++ path
    ++ "'. Detail: [errno 21] Is a directory"⟩

/-- A new table for a writer. -/
def openTable (s : Store) (directory : Text) (time : Json) (nextId : Int) :
    Except Fault (Writer × Store) := do
  let moment ← momentOf time
  let name ← tableName moment nextId
  let path := Path.child directory name
  if Store.nameLimit < name.utf8.length then .error (nameTooLong path)
  else if s.isDirectory (Path.place path) then .error (tableIsDirectory path)
  else .ok ({ directory, nextId, tablePath := path }, s.newTable path)

/-- Open a journal in a directory, at a reading of the wall clock. -/
def openAt (s : Store) (directory : Text) (time : Json) :
    Logged (Except Fault Writer) × Store :=
  match s.makeDirectory directory with
  | (.error f, s) => (⟨.error f, []⟩, s)
  | (.ok (), s) =>
    let found := scan s (linesPath directory)
    match found.fault with
    | some f => (⟨.error f, found.log⟩, s)
    | none =>
      match openTable s directory time (found.last + 1) with
      | .error f => (⟨.error f, found.log⟩, s)
      | .ok (w, s) => (⟨.ok w, found.log⟩, s)

namespace Writer

/-- The writer with its next number used up. -/
def advance (w : Writer) : Writer := { w with nextId := w.nextId + 1 }

/-- Write a row behind the others. -/
def writeRow (w : Writer) (s : Store) (r : Row) : Writer × Store :=
  let span := Span.ofRow w.rows r
  ({ w with rows := w.rows ++ [span] }, s.writePiece w.tablePath span (.row r))

/-- Write an attempt: its line, and its row while the writer is open. The
file is there as soon as a line was meant for it. -/
def write (w : Writer) (s : Store) (a : Attempt) :
    Except Fault Int × Writer × Store :=
  let line := a.line?
  match s.appendBytes (linesPath w.directory) (line.toOption.getD []).utf8 with
  | .error f => (.error f, w, s)
  | .ok s =>
    match line with
    | .error f => (.error f, w, s)
    | .ok _ =>
      if w.isOpen then
        match a.row with
        | .error f => (.error f, w, s)
        | .ok r => (.ok a.id, w.writeRow s r)
      else (.ok a.id, w, s)

/-- Append an attempt: its number, the writer and the store after it. -/
def append (w : Writer) (s : Store) (uniqueId : Json) (r : Report)
    (time : Json) :
    Except Fault Int × Writer × Store :=
  match Attempt.ofReport w.nextId uniqueId r time with
  | .error f => (.error f, w.advance, s)
  | .ok a => w.advance.write s a

/-- Close a writer: its table gets its index. -/
def close (w : Writer) (s : Store) : Writer × Store :=
  if w.isOpen then
    ({ w with isOpen := false },
      s.writePiece w.tablePath (.ofIndex w.rows) (.index w.rows))
  else (w, s)

end Writer

end Journal

end DevicePairing
