import Std.Data.TreeMap
import Std.Data.TreeSet
import Folio.Text.Basic

/-! # Content paths

A content path addresses a document or a directory below the content root.  It is written with a
slash before each segment, and the root is a single slash.  `ContentPath.ofString` brings any raw
path into normal form: quotation marks are removed, empty segments and `.` are skipped and `..` goes
back one segment without leaving the root.  `ContentPath.ofSegments` takes segments as they are.

Paths are ordered by the code points of their text, and tables of paths (`PathMap`) are walked in
that order. -/

namespace Folio

/-- A path below the content root, by its text. -/
structure ContentPath where
  text : String
deriving DecidableEq, Repr

namespace ContentPath

instance : Ord ContentPath := ⟨fun a b => compare a.text b.text⟩

instance : Std.TransOrd ContentPath :=
  inferInstanceAs (Std.TransCmp (compareOn ContentPath.text))

instance : Std.LawfulEqOrd ContentPath where
  compare_self {a} := by
    have h : compare a.text a.text = .eq := Std.ReflCmp.compare_self
    exact h
  eq_of_compare {a b} h := by
    have h : compare a.text b.text = .eq := h
    cases a; cases b
    exact congrArg _ (Std.LawfulEqOrd.eq_of_compare h)

instance : Inhabited ContentPath := ⟨⟨"/"⟩⟩

instance : ToString ContentPath := ⟨text⟩

/-! ### Segments -/

/-- A slash separates the segments of a path. -/
def isSlash (c : Char) : Bool := c == '/'

/-- Takes one raw segment onto the segments read so far, the last of them first. -/
def pushSegment (stack : List (List Char)) (segment : List Char) : List (List Char) :=
  if segment = [] ∨ segment = ['.'] then stack
  else if segment = ['.', '.'] then stack.tail
  else segment :: stack

/-- The segments that a raw path denotes. -/
def cleanSegments (raw : List Char) : List (List Char) :=
  ((Text.pieces isSlash (raw.filter (· ≠ '"'))).foldl pushSegment []).reverse

/-- The text of a path with the given segments. -/
def render (segments : List (List Char)) : List Char :=
  match segments.filter (· ≠ []) with
  | [] => ['/']
  | segs => segs.flatMap ('/' :: ·)

/-- The content root. -/
def root : ContentPath := ⟨"/"⟩

/-- The path with the given segments, empty ones skipped and nothing else cleaned. -/
def ofSegments (segments : List String) : ContentPath :=
  ⟨String.ofList (render (segments.map String.toList))⟩

/-- The normal form of a raw path. -/
def ofString (raw : String) : ContentPath := ⟨String.ofList (render (cleanSegments raw.toList))⟩

/-- Whether a path is the content root. -/
def isRoot (p : ContentPath) : Bool := p.text == "/"

/-- The segments of a path, on characters. -/
def segmentChars (p : ContentPath) : List (List Char) :=
  (Text.pieces isSlash p.text.toList).filter (· ≠ [])

/-- The segments of a path; the root has none. -/
def segments (p : ContentPath) : List String := p.segmentChars.map String.ofList

/-- The last segment, if there is one. -/
def fileName? (p : ContentPath) : Option String := p.segments.getLast?

/-! ### Moving between paths -/

/-- The directory of a path; the root is its own directory. -/
def parent (p : ContentPath) : ContentPath :=
  match (p.text.toList.reverse.dropWhile (!isSlash ·)).drop 1 with
  | [] => root
  | cs => ⟨String.ofList cs.reverse⟩

/-- A reference resolved against a directory; one that starts with a slash replaces it. -/
def join (p : ContentPath) (reference : String) : ContentPath :=
  if reference.toList.head? = some '/' then ofString reference
  else ofString (p.text ++ "/" ++ reference)

/-- Whether a path is `q` or lies below it, segment by segment. -/
def startsWith (p q : ContentPath) : Bool :=
  q.isRoot ||
    match Text.dropPrefix? q.text.toList p.text.toList with
    | none => false
    | some rest => rest = [] || rest.head? = some '/'

/-- What remains of a path below `q`, as a path of its own. -/
def below? (p q : ContentPath) : Option ContentPath :=
  if !p.startsWith q then none
  else if q.isRoot then some p
  else (Text.dropPrefix? q.text.toList p.text.toList).map fun rest => ofString (String.ofList rest)

/-- The text of a path without its leading slash. -/
def relative (p : ContentPath) : String := String.ofList (p.text.toList.drop 1)

/-- A path with further segments at its end, empty ones skipped. -/
def extend (p : ContentPath) (more : List String) : ContentPath := ofSegments (p.segments ++ more)

end ContentPath

/-- A table from paths to paths, walked in the order of its keys. -/
abbrev PathMap := Std.TreeMap ContentPath ContentPath

/-- A set of paths, walked in order. -/
abbrev PathSet := Std.TreeSet ContentPath

end Folio
