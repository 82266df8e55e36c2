import Folio.Highlight.Block
import Folio.Html.Tree
import Folio.Markup.Token
import Folio.Yaml.Value

/-! # Engines

Some of the work of a build is left to parts that the library does not contain: regular expressions are
compiled, markdown and YAML are parsed, HTML is read into a tree, and code is highlighted.  `Engines` tells
what these parts answer.  Whatever depends on them takes them as an instance, so that it is defined, and
holds, for all of them. -/

namespace Folio

/-- The parts that do what the library leaves to others, by what they answer. -/
class Engines where
  /-- The test that a regular expression is, unless it cannot be compiled. -/
  pattern? : String → Option (String → Bool)
  /-- The events of a markdown text. -/
  markdown : Markup.Dialect → String → List Markup.Event
  /-- The tree of a page whose body holds a text. -/
  page : String → Html.Tree
  /-- The value of a YAML text, or what is reported about a text that has none. -/
  yaml : String → Except String Yaml.Value
  /-- The node of a YAML text, or what is reported about a text that has none. -/
  yamlNode : String → Except String Yaml.Node
  /-- What is reported about a YAML text that does not write the settings of a site. -/
  settingsReport : String → String
  /-- The highlighter of code blocks. -/
  highlighter : Highlight.Highlighter

end Folio
