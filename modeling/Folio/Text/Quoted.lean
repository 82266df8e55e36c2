import Folio.Unicode.GraphemeData
import Folio.Unicode.Invisible

/-! # Texts in messages

A text that a message quotes stands between quotation marks.  Quotation marks, backslashes and whatever
does not show by itself are written as escapes, so that a message stays on one line. -/

namespace Folio.Text

/-- Whether a character only changes the look of the one before it; the tones of skin are pictures of
their own. -/
def isCombining (c : Char) : Bool :=
  let n := c.toNat
  Unicode.extendRanges.contains n && !(0x1F3FB ≤ n && n ≤ 0x1F3FF)

/-- A character between quotation marks. -/
def quotedChar (c : Char) : List Char :=
  match c with
  | '"' => ['\\', '"']
  | '\\' => ['\\', '\\']
  | '\n' => ['\\', 'n']
  | '\r' => ['\\', 'r']
  | '\t' => ['\\', 't']
  | _ =>
    if c.toNat = 0 then ['\\', '0']
    else if 0x20 ≤ c.toNat ∧ c.toNat < 0x7F then [c]
    else if isCombining c || Unicode.isInvisible c then
      ['\\', 'u', '\x7b'] ++ Nat.toDigits 16 c.toNat ++ ['\x7d']
    else [c]

/-- A text as a message quotes it. -/
def quoted (s : String) : String := "\"" ++ String.ofList (s.toList.flatMap quotedChar) ++ "\""

end Folio.Text
