/-
Files and directories.

A store maps places to what is kept there. A file is a sequence of bytes
or the layers of a table. What the system refuses is refused here in its
words.
-/
import DevicePairing.Journal.Table
import DevicePairing.Text.Path

namespace DevicePairing

/-- What a file holds. -/
inductive Content where
  | bytes (b : Bytes)
  | table (layers : Layers)

namespace Content

/-- What was written to a file. -/
def layers : Content → Layers
  | .bytes b => [(⟨0, [b.length]⟩, .other)]
  | .table layers => layers

/-- The rows of the table that a file holds, if it holds one. -/
def rows? (c : Content) : Option (List Row) := c.layers.rows?

end Content

/-- Files and directories by their places. -/
structure Store where
  directories : List Place := []
  files : List (Place × Content) := []

namespace Store

-- ============================================================ looking

/-- The file at a place. -/
def file? (s : Store) (p : Place) : Option Content :=
  (s.files.find? (·.1 = p)).map (·.2)

/-- Whether there is a file at a place. -/
def isFile (s : Store) (p : Place) : Bool := (s.file? p).isSome

/-- Whether a place is a directory: the top, one that was made, or one
with something below it. -/
def isDirectory (s : Store) (p : Place) : Bool :=
  p.isEmpty || s.directories.any p.isPrefixOf
    || s.files.any fun (q, _) => p.isPrefixOf q && p.length < q.length

-- =========================================================== changing

/-- The store with a file at a place. -/
def put (s : Store) (p : Place) (c : Content) : Store :=
  if s.isFile p then
    { s with
      files := s.files.map fun (q, d) => if q = p then (q, c) else (q, d) }
  else { s with files := s.files ++ [(p, c)] }

/-- The store with a directory, and all directories above it. Those above
need no mention of their own. -/
def addDirectory (s : Store) (p : Place) : Store :=
  { s with directories := s.directories.filter (!·.isPrefixOf p) ++ [p] }

/-- The greatest number of bytes in a name. -/
def nameLimit : Nat := 255

/-- A refusal of the system. -/
def refusal (kind : FaultKind) (number : Nat) (words : String) (path : Text) :
    Fault :=
  ⟨kind, "[Errno " ++ Text.ofNat number ++ "] " ++ Text.ofString words ++ ": "
    ++ path.quoted⟩

/-- The greatest number of bytes in a path. -/
def pathLimit : Nat := 4095

/-- The fault of a name or a path that is too long. -/
def tooLong (path : Text) : Fault :=
  refusal .system 36 "File name too long" path

/-- Make the directories that a path goes through behind the first
segments, which lead to `p`. As long as nothing is missing, what is
refused is the path as a whole, and a file on the way is no directory.
From the first directory that is made, each is made for itself: what is
refused is the path up to it, and a file is in its way. -/
def makeRest (path : Text) (s : Store) (isMaking : Bool) (seen : List Text)
    (p : Place) :
    List Text → Except Fault Unit × Store
  | [] => (.ok (), s)
  | name :: rest =>
    let seen := seen ++ [name]
    let refused :=
      if isMaking then Path.ofSegments (Path.root path) seen else path
    if name = Text.ofString ".." then
      makeRest path s isMaking seen p.dropLast rest
    else if nameLimit < (Text.utf8 name).length then
      (.error (tooLong refused), s)
    else
      let p := p ++ [name]
      if s.isFile p then
        if isMaking || rest.isEmpty then
          (.error (refusal .alreadyExists 17 "File exists" refused), s)
        else (.error (refusal .notDirectory 20 "Not a directory" refused), s)
      else if s.isDirectory p then makeRest path s isMaking seen p rest
      else makeRest path (s.addDirectory p) true seen p rest

/-- Make a directory at a path, and all directories on the way to it. Those
made before a refusal stay. -/
def makeDirectory (s : Store) (path : Text) : Except Fault Unit × Store :=
  if path.contains (.char '\x00') then
    (.error ⟨.value, "embedded null byte"⟩, s)
  else if pathLimit < (Text.utf8 path).length then (.error (tooLong path), s)
  else makeRest path s false [] [] (Path.segments path)

/-- Add bytes to the end of a file, which is made if there is none. -/
def appendBytes (s : Store) (path : Text) (b : Bytes) : Except Fault Store :=
  let p := Path.place path
  if s.isDirectory p then .error (refusal .isDirectory 21 "Is a directory" path)
  else
    match s.file? p with
    | some (.bytes old) => .ok (s.put p (.bytes (old ++ b)))
    | _ => .ok (s.put p (.bytes b))

/-- Write a piece of a table on a stretch of the file at a path. -/
def writePiece (s : Store) (path : Text) (span : Span) (piece : Piece) :
    Store :=
  let p := Path.place path
  match s.file? p with
  | some c => s.put p (.table ((span, piece) :: c.layers))
  | none => s

/-- The store with a new table at a path, in place of what is there. -/
def newTable (s : Store) (path : Text) : Store :=
  s.put (Path.place path) (.table [(.mark, .other)])

end Store

end DevicePairing
