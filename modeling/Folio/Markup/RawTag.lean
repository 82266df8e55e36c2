import Folio.Markup.Line
import Folio.Unicode.Punctuation

/-! # Raw HTML and autolinks

Markdown lets HTML through without reading its structure.  The functions of this module recognise one
tag, comment, declaration or autolink at the start of a text and answer what follows it. -/

namespace Folio.Markup

/-- Whether a character may stand in the name of a tag. -/
def isTagChar (c : Char) : Bool := c.isAlphanum || c == '-'

/-- Whether a character may start the name of an attribute. -/
def startsAttrName (c : Char) : Bool := c.isAlpha || c == '_' || c == ':'

/-- Whether a character may stand in the name of an attribute. -/
def isAttrNameChar (c : Char) : Bool :=
  c.isAlphanum || c == '_' || c == ':' || c == '.' || c == '-'

/-- Whether a character is a blank or ends a line. -/
def isAnyBlank (c : Char) : Bool := isInlineBlank c || isLineEnd c

/-- Whether a character may stand in a value without quotes. -/
def isBareValueChar (c : Char) : Bool :=
  !(isAnyBlank c || c == '"' || c.toNat == 0x27 || c == '=' || c == '>' || c == '<' || c == '\x60')

/-- What follows the first occurrence of a text. -/
def after? (pat : List Char) : List Char → Option (List Char)
  | [] => if pat = [] then some [] else none
  | c :: cs => if pat.isPrefixOf (c :: cs) then some ((c :: cs).drop pat.length) else after? pat cs

/-- What follows the value of an attribute. -/
def afterValue? : List Char → Option (List Char)
  | '"' :: cs => after? ['"'] cs
  | '\x27' :: cs => after? ['\x27'] cs
  | c :: cs => if isBareValueChar c then some (cs.dropWhile isBareValueChar) else none
  | [] => none

/-- What follows an attribute with its value. -/
def afterAttr? : List Char → Option (List Char)
  | c :: cs =>
    if startsAttrName c then
      let rest := cs.dropWhile isAttrNameChar
      match rest.dropWhile isAnyBlank with
      | '=' :: value => afterValue? (value.dropWhile isAnyBlank)
      | _ => some rest
    else none
  | [] => none

/-- What follows the attributes of a tag and its end; as many steps as there are characters. -/
def afterAttrs? : Nat → List Char → Option (List Char)
  | 0, _ => none
  | steps + 1, cs =>
    match cs.dropWhile isAnyBlank with
    | '>' :: rest => some rest
    | '/' :: '>' :: rest => some rest
    | rest =>
      if rest.length < cs.length then (afterAttr? rest).bind (afterAttrs? steps) else none

/-- What follows a start tag or an end tag. -/
def afterTag? : List Char → Option (List Char)
  | '<' :: '/' :: c :: cs =>
    if c.isAlpha then
      match (cs.dropWhile isTagChar).dropWhile isInlineBlank with
      | '>' :: rest => some rest
      | _ => none
    else none
  | '<' :: c :: cs =>
    if c.isAlpha then
      let rest := cs.dropWhile isTagChar
      afterAttrs? (rest.length + 1) rest
    else none
  | _ => none

/-- What follows a tag, a comment, a processing instruction, a declaration or a CDATA section. -/
def afterRawHtml? : List Char → Option (List Char)
  | '<' :: '!' :: '-' :: '-' :: '>' :: rest => some rest
  | '<' :: '!' :: '-' :: '-' :: '-' :: '>' :: rest => some rest
  | '<' :: '!' :: '-' :: '-' :: rest => after? "-->".toList rest
  | '<' :: '!' :: '[' :: 'C' :: 'D' :: 'A' :: 'T' :: 'A' :: '[' :: rest => after? "]]>".toList rest
  | '<' :: '!' :: c :: rest => if c.isAlpha then after? ['>'] rest else none
  | '<' :: '?' :: rest => after? "?>".toList rest
  | cs => afterTag? cs

/-! ### Autolinks -/

/-- Whether a character may stand in the scheme of an address. -/
def isSchemeChar (c : Char) : Bool := c.isAlphanum || c == '.' || c == '-' || c == '+'

/-- Whether a character may stand in an address. -/
def isAddressChar (c : Char) : Bool := c.toNat > 0x20 && c != '<' && c != '>'

/-- The address in angle brackets, and what follows. -/
def addressLink? (cs : List Char) : Option (List Char × List Char) :=
  let scheme := cs.takeWhile isSchemeChar
  match scheme, cs.dropWhile isSchemeChar with
  | first :: _, ':' :: rest =>
    if first.isAlpha && 2 ≤ scheme.length && scheme.length ≤ 32 then
      match rest.dropWhile isAddressChar with
      | '>' :: after => some (scheme ++ ':' :: rest.takeWhile isAddressChar, after)
      | _ => none
    else none
  | _, _ => none

/-- Whether a character may stand before the at sign of a mail address. -/
def isMailboxChar (c : Char) : Bool :=
  c.isAlphanum || ".!#$%&'*+/=?^_\x60\x7b|\x7d~-".toList.contains c

/-- Whether a row of characters is a label of a domain. -/
def isDomainLabel (label : List Char) : Bool :=
  label ≠ [] && label.length ≤ 63 && label.all (fun c => c.isAlphanum || c == '-') &&
    label.head? != some '-' && label.getLast? != some '-'

/-- The mail address in angle brackets, and what follows. -/
def mailLink? (cs : List Char) : Option (List Char × List Char) :=
  let mailbox := cs.takeWhile isMailboxChar
  match cs.dropWhile isMailboxChar with
  | '@' :: rest =>
    let isDomainChar := fun c : Char => c.isAlphanum || c == '-' || c == '.'
    let domain := rest.takeWhile isDomainChar
    match rest.dropWhile isDomainChar with
    | '>' :: after =>
      if mailbox ≠ [] ∧ (Text.pieces (· == '.') domain).all isDomainLabel then
        some (mailbox ++ '@' :: domain, after)
      else none
    | _ => none
  | _ => none

end Folio.Markup
