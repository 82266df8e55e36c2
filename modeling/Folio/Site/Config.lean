import Folio.Disk.Listing
import Folio.Engines.Basic
import Folio.Unicode.Lowercase

/-! # Configuration

A site is configured by a YAML file (`Config.load`) or by its content and output directories alone
(`Config.ofDirectories`).  A setting that is missing has a default, but the two directories have none.
Relative paths are taken from the directory of the configuration file, as they are written. -/

namespace Folio

/-- What is known about a site as a whole. -/
structure SiteInfo where
  title : String := ""
  url : Option String := none
deriving DecidableEq, Repr

/-- Where a site lies. -/
structure SitePaths where
  content : String
  output : String
  aliases : Option String := none
  redirects : Option String := none
deriving DecidableEq, Repr

/-- The settings of a site, and the file that they come from. -/
structure Config where
  site : SiteInfo := {}
  paths : SitePaths
  assetPrefix : String := "/content"
  reservedAliases : List String := ["index"]
  excludedPrefixes : List String := ["contributor", "tags"]
  ignorePatterns : List String := []
  includeDrafts : Bool := false
  file : Option DiskPath := none
deriving DecidableEq, Repr

/-! ### Typed values -/

namespace Yaml.Node

/-- The text of a scalar, whatever it means. -/
def text (n : Node) : Following String := do
  match ← n.follow with
  | scalar _ _ s => return s
  | _ => failure

/-- The text of a scalar, or nothing where null or nothing is written. -/
def optionalText (n : Node) : Following (Option String) := do
  match ← n.follow with
  | scalar tag style s =>
    if style ≠ .plain then return some s
    else
      match tag with
      | some tag =>
        if tag ≠ coreTag "null" then return some s
        else if isNullWord s then return none
        else failure
      | none => return if s = "" || isNullWord s then none else some s
  | _ => failure

/-- The truth value that a plain scalar writes. -/
def truth (n : Node) : Following Bool := do
  match ← n.follow with
  | scalar tag style s =>
    if style = .plain ∨ (style = .literal ∧ tag = some (coreTag "bool")) then bool? s else failure
  | _ => failure

/-- Whether nothing is written. -/
def isBlank : Node → Bool
  | scalar _ style s => style == .plain && s == ""
  | _ => false

/-- The texts of a sequence; where nothing is written there are none. -/
def texts (n : Node) : Following (List String) := do
  match ← n.follow with
  | sequence _ items => items.mapM text
  | n => if n.isBlank then return [] else failure

/-- The fields of a mapping, of which those that are known come once at most; where nothing is written
there are none. -/
def fields (known : List String) (n : Node) : Following (List (String × Node)) := do
  match ← n.follow with
  | mapping _ entries =>
    let fields ← entries.mapM fun e => return (← e.1.text, e.2)
    let names := (fields.map (·.1)).filter known.contains
    if names.eraseDups.length = names.length then return fields else failure
  | n => if n.isBlank then return [] else failure

/-- The value of a field, read by `read`, or a default where the field is missing. -/
def field {α : Type} (fields : List (String × Node)) (name : String) (read : Node → Following α)
    (default : Following α) : Following α :=
  match fields.lookup name with
  | some n => read n
  | none => default

end Yaml.Node

/-! ### Reading -/

open Yaml

/-- Reads what is known about a site. -/
def SiteInfo.ofNode (n : Node) : Following SiteInfo := do
  let fields ← n.fields ["title", "url"]
  let title ← Node.field fields "title" Node.text (pure "")
  let url ← Node.field fields "url" Node.optionalText (pure none)
  return ⟨title, url⟩

/-- Reads where a site lies. -/
def SitePaths.ofNode (n : Node) : Following SitePaths := do
  let fields ← n.fields ["content", "output", "aliases", "redirects"]
  let content ← Node.field fields "content" Node.text failure
  let output ← Node.field fields "output" Node.text failure
  let aliases ← Node.field fields "aliases" Node.optionalText (pure none)
  let redirects ← Node.field fields "redirects" Node.optionalText (pure none)
  return ⟨content, output, aliases, redirects⟩

/-- The settings of a site. -/
def Config.settings : List String :=
  ["site", "paths", "asset_prefix", "reserved_aliases", "excluded_prefixes", "ignore_patterns",
    "include_drafts"]

/-- Reads the settings of a site. -/
def Config.ofNode (n : Node) : Following Config := do
  let fields ← n.fields settings
  let site ← Node.field fields "site" SiteInfo.ofNode (pure {})
  let paths ← Node.field fields "paths" SitePaths.ofNode failure
  let config : Config := { site := site, paths := paths }
  let assetPrefix ← Node.field fields "asset_prefix" Node.text (pure config.assetPrefix)
  let reserved ← Node.field fields "reserved_aliases" Node.texts (pure config.reservedAliases)
  let excluded ← Node.field fields "excluded_prefixes" Node.texts (pure config.excludedPrefixes)
  let ignored ← Node.field fields "ignore_patterns" Node.texts (pure config.ignorePatterns)
  let drafts ← Node.field fields "include_drafts" Node.truth (pure config.includeDrafts)
  return { config with
    assetPrefix := assetPrefix
    reservedAliases := reserved
    excludedPrefixes := excluded
    ignorePatterns := ignored
    includeDrafts := drafts }

/-- Why there is no configuration; what cannot be read as settings comes with the report of the reader. -/
inductive ConfigError where
  | read (cause : ReadError)
  | parse {report : String}
deriving DecidableEq, Repr

/-- The wording of a failure. -/
def ConfigError.message : ConfigError → String
  | .read cause => "Failed to read config file: " ++ cause.message
  | @parse report => "Failed to parse YAML: " ++ report

namespace Config

/-- The configuration of a content directory, with every other setting at its default. -/
def ofDirectories (content output : String) : Config :=
  { paths := { content := content, output := output } }

/-- The configuration that a text writes, or what is reported about a text that writes none. -/
def ofText [Engines] (source : String) : Except String Config := do
  let root ← Engines.yamlNode source
  match (ofNode root).run' (repetitionLimit * root.marks) with
  | some config => return config
  | none => throw (Engines.settingsReport source)

/-- Reads a configuration file. -/
def load [Engines] (disk : Disk) (file : DiskPath) : Except ConfigError Config :=
  match disk.read file with
  | .error cause => .error (.read cause)
  | .ok source =>
    match ofText source with
    | .ok config => .ok { config with file := some file }
    | .error report => .error (@ConfigError.parse report)

/-! ### Paths -/

/-- A path taken from the directory of the configuration file. -/
def resolve (c : Config) (path : String) : DiskPath :=
  if (DiskPath.mk path).isAbsolute then ⟨path⟩
  else
    match c.file.bind DiskPath.parent? with
    | some dir => dir.join path
    | none => ⟨path⟩

/-- The content directory. -/
def contentDirectory (c : Config) : DiskPath := c.resolve c.paths.content

/-- The directory that artifacts are written to. -/
def outputDirectory (c : Config) : DiskPath := c.resolve c.paths.output

/-- The alias manifest; without a setting it lies in the content directory. -/
def aliasManifest (c : Config) : DiskPath :=
  match c.paths.aliases with
  | some path => c.resolve path
  | none => c.contentDirectory.join "aliases.json"

/-- The redirect manifest; without a setting it lies in the content directory. -/
def redirectManifest (c : Config) : DiskPath :=
  match c.paths.redirects with
  | some path => c.resolve path
  | none => c.contentDirectory.join "redirects.json"

/-- Whether a path lies below an excluded directory at the top: the first segment starts with an
excluded prefix, whatever the case. -/
def excludes (c : Config) (p : ContentPath) : Bool :=
  match p.segmentChars with
  | [] => false
  | first :: _ =>
    let first := Unicode.lowercase first
    c.excludedPrefixes.any fun pre => (Unicode.lowercase pre.toList).isPrefixOf first

end Config

end Folio
