/-!
# Source tokens

Generated code is a list of tokens: words, punctuation characters one by one, and
string literals. `Token.scan` reads the tokens of a fragment written out, which keeps
the fragments of the generators readable.
-/

namespace OnnxForge.Source

/-- A token of generated code. -/
inductive Token
  /-- An identifier, a keyword or a number. -/
  | word (text : String)
  /-- A delimiter or a character of punctuation. -/
  | mark (char : Char)
  /-- A string literal with that value. -/
  | quoted (value : String)
deriving DecidableEq, Inhabited

namespace Token

def commaSeparated : List (List Token) → List Token
  | [] => []
  | [item] => item
  | item :: rest => item ++ mark ',' :: commaSeparated rest

/-- A pair of brackets around tokens. -/
def enclosed (opening closing : Char) (tokens : List Token) : List Token :=
  mark opening :: tokens ++ [mark closing]

/-- Parentheses around tokens. -/
def parens (tokens : List Token) : List Token :=
  enclosed '(' ')' tokens

/-- Square brackets around tokens. -/
def brackets (tokens : List Token) : List Token :=
  enclosed '[' ']' tokens

/-- Braces around tokens. -/
def braces (tokens : List Token) : List Token :=
  enclosed '\x7b' '\x7d' tokens

/-- Whether a character may stand in a word. -/
def isWordChar (c : Char) : Bool :=
  c.isAlphanum || c == '_'

/-- Adds a character before the tokens of what follows it. -/
def scanChar (c : Char) (follows : Option Char) (rest : List Token) : List Token :=
  if isWordChar c then
    match rest with
    | word text :: rest' =>
      if follows.any isWordChar then word (String.singleton c ++ text) :: rest'
      else word (String.singleton c) :: rest
    | _ => word (String.singleton c) :: rest
  else if c.isWhitespace then rest
  else mark c :: rest

def scanChars : List Char → List Token
  | [] => []
  | c :: rest => scanChar c rest.head? (scanChars rest)

/-- The tokens of a fragment without string literals. -/
def scan (fragment : String) : List Token :=
  scanChars fragment.toList

/-- A token as a listing shows it, a literal with its value as it is. -/
def listed : Token → String
  | word text => text
  | mark c => c.toString
  | quoted value => "\"" ++ value ++ "\""

/-- Tokens in a row, separated by blanks. -/
def listing (tokens : List Token) : String :=
  " ".intercalate (tokens.map listed)

end Token

end OnnxForge.Source
