/-
Paths.

A path is shown in its tidy form: no empty segment, no single dot, and a
lone dot for the empty path. Two paths name the same place when the
segments that are left after every `..` has taken its parent along are
the same.
-/
import DevicePairing.Text.CodePoint

namespace DevicePairing

/-- The segments of a place, from the top. -/
abbrev Place := List Text

namespace Path

/-- The segments of a path that count. -/
def segments (t : Text) : List Text :=
  (Text.pieces (.char '/') t).filter fun s =>
    !s.isEmpty && s != Text.ofString "."

/-- The slashes that a path begins with: exactly two stay two. -/
def root (t : Text) : Text :=
  match t.length - (t.dropWhile (· == .char '/')).length with
  | 0 => []
  | 2 => "//"
  | _ => "/"

/-- A path with these segments behind slashes. -/
def ofSegments (root : Text) (segments : List Text) : Text :=
  let shown := root ++ Text.join "/" segments
  if shown.isEmpty then "." else shown

/-- A path in its tidy form. -/
def tidy (t : Text) : Text := ofSegments (root t) (segments t)

/-- A name below a tidy path. -/
def child (path name : Text) : Text :=
  if path = Text.ofString "." then name
  else if path.getLast? = some (.char '/') then path ++ name
  else path ++ "/" ++ name

/-- A path below a tidy path; one that begins at the root stands alone. -/
def below (path t : Text) : Text :=
  if (root t).isEmpty then tidy (path ++ "/" ++ t) else tidy t

/-- The place that a path names. -/
def place (t : Text) : Place :=
  ((segments t).foldl
    (fun acc s => if s = Text.ofString ".." then acc.tail else s :: acc)
    []).reverse

end Path

end DevicePairing
