import Folio.Engines.Basic
import Folio.Routing.Redirect
import Folio.Site.Config

/-! # Sources

The sources of a site are the markdown files below its content directory that are visible, that no ignore
pattern fits and whose route is not excluded.  Every route has one source (`Sources`): of the files that
share it the one of the lowest rank, and of these the first in the order of the walk. -/

namespace Folio

/-- A markdown file of a site. -/
structure Source where
  path : ContentPath
  route : ContentPath
  file : DiskPath
  rank : Nat
deriving DecidableEq, Repr

/-! ### Walking -/

/-- What an entry is where links are not followed. -/
inductive EntryKind where
  | file
  | link
  | directory
deriving DecidableEq, Repr

/-- The kind of a file by what it holds. -/
def FileContent.kind : FileContent → EntryKind
  | linked _ => .link
  | _ => .file

/-- What a walk comes to: an entry, by the names that lead to it, or a directory that it cannot read. -/
inductive WalkStep where
  | entry (names : List String) (kind : EntryKind)
  | failure (names : List String)
deriving DecidableEq, Repr

/-- The entry that a walk comes to. -/
def WalkStep.found? : WalkStep → Option (List String × EntryKind)
  | entry names kind => some (names, kind)
  | failure _ => none

/-- The walk of the visible entries below a directory at `base`. -/
def Listing.walk (base : List String) : Listing → List WalkStep
  | nil => []
  | file name content next =>
    (if isHidden name then [] else [.entry (base ++ [name]) content.kind]) ++ next.walk base
  | dir name inside next =>
    (if isHidden name then [] else .entry (base ++ [name]) .directory :: inside.walk (base ++ [name])) ++
      next.walk base
  | closed name _ next =>
    (if isHidden name then [] else [.entry (base ++ [name]) .directory, .failure (base ++ [name])]) ++
      next.walk base

/-- The files that a walk comes to.  Failures are passed over, and so are links and directories. -/
def Listing.walkedFiles (l : Listing) : List (List String) :=
  (((l.walk []).filterMap WalkStep.found?).filter (·.2 = .file)).map (·.1)

/-! ### Sources -/

/-- The rank of a file in the claim for its route: a readme before an index before any other. -/
def routeRank (name : String) : Nat :=
  let stem := (documentStem? name).getD name
  (indexStems.findIdx? fun s => isStem stem s).getD indexStems.length

/-- The text of a path below the content directory; backslashes count as slashes. -/
def relativeText (names : List String) : String :=
  String.ofList ((("/".intercalate names).toList).map fun c => if c == '\\' then '/' else c)

namespace Config

/-- The tests that the ignore patterns are; those that cannot be compiled are passed over. -/
def patterns [Engines] (c : Config) : List (String → Bool) :=
  c.ignorePatterns.filterMap Engines.pattern?

/-- The source that a file is, if it is one. -/
def source? (c : Config) (patterns : List (String → Bool)) (names : List String) : Option Source :=
  let name := names.getLastD ""
  let text := relativeText names
  let path := ContentPath.ofString text
  if !isMarkdownName name || patterns.any (· text) || c.excludes path.route then none
  else some ⟨path, path.route, c.contentDirectory.joinAll names, routeRank name⟩

/-- The sources below the content directory in the order of the walk. -/
def candidates [Engines] (c : Config) (content : Listing) : List Source :=
  let patterns := c.patterns
  content.walkedFiles.filterMap (c.source? patterns)

end Config

/-- The sources of a site by their routes. -/
abbrev Sources := Std.TreeMap ContentPath Source

/-- Takes a source into the table unless its route has one of the same or a lower rank. -/
def Sources.offer (sources : Sources) (s : Source) : Sources :=
  match sources[s.route]? with
  | some held => if held.rank ≤ s.rank then sources else sources.insert s.route s
  | none => sources.insert s.route s

/-- The table of some sources. -/
def Sources.ofList (ss : List Source) : Sources := ss.foldl Sources.offer ∅

end Folio
