import OnnxForge.Source.Identifier
import OnnxForge.Table
import OnnxForge.Text.Numeral

/-!
# Identifiers for names

Tensors and nodes may have any names. Each is given an identifier when it is first met,
which it keeps: the snake case form of its name, numbered when that is taken. Identifiers
of tensors and of nodes differ, because both may become variables of one function.
-/

namespace OnnxForge.Network

/-- The keywords, and the words that generated code uses for itself. -/
def reserved : List String :=
  ["as", "async", "await", "break", "const", "continue", "crate", "dyn", "else", "enum",
    "extern", "false", "fn", "for", "if", "impl", "in", "let", "loop", "match", "mod", "move",
    "mut", "pub", "ref", "return", "self", "static", "struct", "super", "trait", "true", "type",
    "unsafe", "use", "where", "while", "abstract", "become", "box", "do", "final", "gen",
    "macro", "override", "priv", "try", "typeof", "unsized", "virtual", "yield", "device",
    "phantom"]

namespace Identifier

/-- Whether a word begins at a character after another one. -/
def beginsWord (previous : Option Char) (c : Char) : Bool :=
  c.isUpper && previous.any fun before => before.isLower || before.isDigit

/-- The snake case form of characters after `previous`. The flag tells whether an underscore
would be the first one of the form or follow another one, and is left out. -/
def snakeChars (previous : Option Char) (closed : Bool) : List Char → List Char
  | [] => []
  | c :: rest =>
    if c.isAlphanum then
      (if beginsWord previous c then ['_'] else []) ++
        c.toLower :: snakeChars (some c) false rest
    else (if closed then [] else ['_']) ++ snakeChars (some c) true rest

/-- Characters without the underscores at their end. -/
def trimEnd (cs : List Char) : List Char :=
  (cs.reverse.dropWhile (· == '_')).reverse

def ledByLetter : List Char → List Char
  | [] => "tensor".toList
  | first :: rest => if first.isDigit then 't' :: '_' :: first :: rest else first :: rest

/-- The identifier that a name asks for. Only ASCII letters and digits are kept of it. -/
def ofName (name : String) : String :=
  let text := String.ofList (ledByLetter (trimEnd (snakeChars none true name.toList)))
  if reserved.contains text then text ++ "_" else text

/-- A stem with the number of a candidate, the first of which has none. -/
def numbered (stem : String) (index : Nat) : String :=
  if index = 0 then stem else stem ++ "_" ++ Text.natural index

end Identifier

/-- The identifiers given so far. -/
structure Naming where
  tensors : Table String
  nodes : Table String
  /-- How many nodes without a name have been met, by operator. -/
  unnamed : Table Nat

namespace Naming

/-- The naming before any name is met. -/
def empty : Naming := ⟨.empty, .empty, .empty⟩

/-- The identifiers in use. -/
def taken (naming : Naming) : List String :=
  (naming.tensors.entries ++ naming.nodes.entries).map (·.2)

/-- The identifier for a name met for the first time. -/
def fresh (naming : Naming) (name : String) : String :=
  Source.firstFree naming.taken (Identifier.numbered (Identifier.ofName name))

/-- The identifier of a tensor. -/
def tensor (naming : Naming) (name : String) : String × Naming :=
  match naming.tensors.get? name with
  | some identifier => (identifier, naming)
  | none =>
    let identifier := naming.fresh name
    (identifier, { naming with tensors := naming.tensors.insert name identifier })

/-- The identifier of a node by the name it goes by. -/
def key (naming : Naming) (name : String) : String × Naming :=
  match naming.nodes.get? name with
  | some identifier => (identifier, naming)
  | none =>
    let identifier := naming.fresh name
    (identifier, { naming with nodes := naming.nodes.insert name identifier })

/-- The identifier of a node. One without a name goes by its operator and a number, which is
another one each time. -/
def node (naming : Naming) (name operator : String) : String × Naming :=
  if name = "" then
    let number := (naming.unnamed.get? operator).getD 0 + 1
    { naming with unnamed := naming.unnamed.insert operator number }.key
      (operator ++ Text.natural number)
  else naming.key name

end Naming

end OnnxForge.Network
