import OnnxForge.Domain
import OnnxForge.Source.Identifier
import OnnxForge.Text.Numeral

/-!
# Names of bindings

The functions and parameters of the bindings are named in snake case for the operators
and inputs they stand for. A word begins at an upper case letter that follows a lower
case letter or a digit, or that ends a run of capitals. Keywords gain an underscore,
and parameters keep clear of each other and of the locals of the functions.
-/

namespace OnnxForge.Binding

/-- The keywords that names avoid. -/
def keywords : List String :=
  ["as", "async", "await", "box", "break", "const", "continue", "crate", "do", "dyn", "else",
    "enum", "extern", "false", "final", "fn", "for", "gen", "if", "impl", "in", "let", "loop",
    "macro", "match", "mod", "move", "mut", "override", "priv", "pub", "ref", "return", "self",
    "static", "struct", "super", "trait", "true", "try", "type", "typeof", "unsafe", "unsized",
    "use", "virtual", "where", "while", "yield"]

/-- The locals of the functions, which no parameter may be named for. -/
def locals : List String :=
  ["graph", "attrs", "args", "inputs", "arity"]

/-- Whether a word begins at a character between two others. -/
def beginsWord (previous : Option Char) (c : Char) (next : Option Char) : Bool :=
  match previous with
  | none => false
  | some before =>
    Text.isUppercase c &&
      (Text.isLowercase before || Text.isAsciiDigit before ||
        (Text.isUppercase before && next.any Text.isLowercase))

/-- The snake case form of characters after `previous`. The flag tells whether the form so
far ends in an underscore, which is not doubled. -/
def snakeChars (previous : Option Char) (underscored : Bool) : List Char → List Char
  | [] => []
  | c :: rest =>
    if Text.isAlphanumeric c then
      (if beginsWord previous c rest.head? && !underscored then ['_'] else []) ++
        Text.lowerForm c ++ snakeChars (some c) false rest
    else (if underscored then [] else ['_']) ++ snakeChars (some c) true rest

/-- Characters without the underscores at both ends. -/
def trimUnderscores (cs : List Char) : List Char :=
  ((cs.dropWhile (· == '_')).reverse.dropWhile (· == '_')).reverse

/-- The snake case form of a name, which does not begin with a digit and is not empty. -/
def snakeCase (name : String) : String :=
  match trimUnderscores (snakeChars none false name.toList) with
  | [] => "_"
  | first :: rest =>
    if Text.isAsciiDigit first then String.ofList ('_' :: first :: rest)
    else String.ofList (first :: rest)

/-- A name clear of the keywords. -/
def escape (name : String) : String :=
  if keywords.contains name then name ++ "_" else name

/-- The name of the functions of an operator. A domain other than the default one comes
first. -/
def functionName (operator domain : String) : String :=
  escape (if isDefaultDomain domain then snakeCase operator
    else snakeCase domain ++ "_" ++ snakeCase operator)

/-- A stem with the number of a candidate, the first of which has none. -/
def numbered (stem : String) (index : Nat) : String :=
  if index = 0 then stem else stem ++ Text.natural index

/-- The name of a parameter, clear of the names taken. -/
def parameterName (taken : List String) (input : String) : String :=
  let name := escape (snakeCase input)
  let stem := if taken.contains name then name ++ "_" else name
  Source.firstFree taken (numbered stem)

/-- The names of the parameters of inputs, after the names taken. -/
def parameterNamesFrom (taken : List String) : List String → List String
  | [] => []
  | input :: rest =>
    let name := parameterName taken input
    name :: parameterNamesFrom (taken ++ [name]) rest

def parameterNames (inputs : List String) : List String :=
  parameterNamesFrom locals inputs

end OnnxForge.Binding
