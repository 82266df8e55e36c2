import Folio.Engines.Basic
import Folio.Highlight.Json
import Folio.Highlight.Languages
import Folio.Html.Construction
import Folio.Markup.Reader
import Folio.Pattern.Reader

/-! # Standard engines

The engines that the program runs with.  They follow their languages only as far as documents use them.
Patterns know no classes of Unicode properties and no halves of word boundaries, take the flag `(?-u)`, and
in any case they compare letters by their forms in lower case.  Of the code in known languages JSON alone is written in
spans.  A YAML text that is not well formed is reported without the place of the mistake.  Nothing in the theory
of the library is about them but evaluated inputs. -/

namespace Folio

/-- Knows the table of languages: JSON is written in spans, other code as plain text. -/
def Highlight.standard : Highlight.Highlighter where
  find? token :=
    (Highlight.language? token).map fun l code =>
      some (if l.name = "JSON" then Highlight.jsonHtml code else Text.escapeHtml code)

/-- The engines of the program. -/
instance Engines.standard : Engines where
  pattern? text := (Pattern.ofString? text).map Pattern.occursIn
  markdown := Markup.parse
  page := Html.readPage
  yaml text :=
    match Yaml.value? text with
    | some v => .ok v
    | none => .error "the text is not well formed"
  yamlNode text :=
    match Yaml.document? text with
    | some n => .ok n
    | none => .error "the settings are not well formed"
  settingsReport _ := "the settings are not well formed"
  highlighter := Highlight.standard

end Folio
