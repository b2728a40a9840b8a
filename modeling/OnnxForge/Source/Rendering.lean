import OnnxForge.Source.Token
import OnnxForge.Text.Quoted

/-!
# Source text

Tokens as the text of a file. Blanks stand only between two words; punctuation is set
without them, so that the characters of an operator stay together.
-/

namespace OnnxForge.Source.Token

def text : Token → String
  | word text => text
  | mark c => c.toString
  | quoted value => Text.quoted value

/-- Whether a token is punctuation. -/
def isMark : Token → Bool
  | mark _ => true
  | _ => false

/-- The text of tokens. -/
def render : List Token → String
  | [] => ""
  | [token] => token.text
  | token :: next :: rest =>
    let gap := if token.isMark || next.isMark then "" else " "
    token.text ++ gap ++ render (next :: rest)

end OnnxForge.Source.Token
