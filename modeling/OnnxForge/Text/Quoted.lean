import OnnxForge.Text.CharClass
import OnnxForge.Text.Numeral

/-!
# Quoted text

Text in double quotes as diagnostics show it: quotes, backslashes and the common
controls are escaped by a letter, and whatever has no printed shape of its own by
its code point in braces.
-/

namespace OnnxForge.Text

/-- The lower case hexadecimal numeral of a number. -/
def hexadecimal (n : Nat) : String :=
  String.ofList (Nat.toDigits 16 n)

def quotedChar (c : Char) : String :=
  if c = '\x00' then "\\0"
  else if c = '\t' then "\\t"
  else if c = '\r' then "\\r"
  else if c = '\n' then "\\n"
  else if c = '"' then "\\\""
  else if c = '\\' then "\\\\"
  else if isAttachedMark c || !isPrintable c then
    "\\u\x7b" ++ hexadecimal c.toNat ++ "\x7d"
  else c.toString

/-- A text in double quotes. -/
def quoted (text : String) : String :=
  "\"" ++ String.join (text.toList.map quotedChar) ++ "\""

/-- A list of texts, each in double quotes. -/
def quotedList (texts : List String) : String :=
  bracketed (texts.map quoted)

end OnnxForge.Text
