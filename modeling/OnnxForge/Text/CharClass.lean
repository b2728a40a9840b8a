import OnnxForge.Text.Table.Alphanumeric
import OnnxForge.Text.Table.GraphemeExtend
import OnnxForge.Text.Table.IdentifierContinue
import OnnxForge.Text.Table.IdentifierStart
import OnnxForge.Text.Table.LowerShift
import OnnxForge.Text.Table.Lowercase
import OnnxForge.Text.Table.Unprintable
import OnnxForge.Text.Table.Uppercase

/-!
# Character classes

The classes of characters that names and quoted text depend on, over the whole of
Unicode, and the lower case form of a character.
-/

namespace OnnxForge.Text

/-- Letters and numbers of every script. -/
def isAlphanumeric (c : Char) : Bool :=
  CharRun.member Table.alphanumeric c.toNat

/-- Upper case characters of every script. -/
def isUppercase (c : Char) : Bool :=
  CharRun.member Table.uppercase c.toNat

/-- Lower case characters of every script. -/
def isLowercase (c : Char) : Bool :=
  CharRun.member Table.lowercase c.toNat

/-- The digits `0` to `9`. -/
def isAsciiDigit (c : Char) : Bool :=
  decide ('0' ≤ c) && decide (c ≤ '9')

/-- Characters that may begin an identifier. -/
def isIdentifierStart (c : Char) : Bool :=
  CharRun.member Table.identifierStart c.toNat

def isIdentifierContinue (c : Char) : Bool :=
  CharRun.member Table.identifierContinue c.toNat

/-- Characters that extend the grapheme before them. -/
def isGraphemeExtend (c : Char) : Bool :=
  CharRun.member Table.graphemeExtend c.toNat

/-- Marks that attach to the character before them. The halfwidth sound marks extend a
grapheme, but have a width of their own. -/
def isAttachedMark (c : Char) : Bool :=
  isGraphemeExtend c && !(decide (0xff9e ≤ c.toNat) && decide (c.toNat ≤ 0xff9f))

/-- Characters with a printed shape, the space among them. -/
def isPrintable (c : Char) : Bool :=
  decide (c = ' ') || !CharRun.member Table.unprintable c.toNat

/-- The lower case form of a character. Only the dotted capital I has a form of two. -/
def lowerForm (c : Char) : List Char :=
  if c.toNat = 0x130 then ['i', Char.ofNat 0x307]
  else
    match CharRun.shift? Table.lowerShift c.toNat with
    | some distance => [Char.ofNat (c.toNat + distance).toNat]
    | none => [c]

end OnnxForge.Text
