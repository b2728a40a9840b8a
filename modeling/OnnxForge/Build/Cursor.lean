import OnnxForge.Build.Error

/-!
# Cursors over arguments

Positional arguments are handed out one after the other. An argument may be missing,
at its position or by the end of the list. What is present must all be handed out.
-/

namespace OnnxForge.Build

/-- The arguments of an operator that are not handed out yet. -/
structure Cursor where
  operator : String
  remaining : List (Option Argument)
  /-- The number of positions passed. -/
  position : Nat

namespace Cursor

/-- The cursor before the first argument. -/
def start (operator : String) (arguments : List (Option Argument)) : Cursor :=
  ⟨operator, arguments, 0⟩

/-- Hands out the next argument, if there is one. -/
def optional (cursor : Cursor) : Option Argument × Cursor :=
  (cursor.remaining.head?.join,
    { cursor with remaining := cursor.remaining.tail, position := cursor.position + 1 })

/-- Hands out the next argument, which must be present. The cursor moves on in any case. -/
def required (cursor : Cursor) : Except InputFault Argument × Cursor :=
  match cursor.optional with
  | (some argument, rest) => (.ok argument, rest)
  | (none, rest) => (.error (.argumentMissing cursor.operator cursor.position), rest)

/-- Hands out every present argument that is left. -/
def rest (cursor : Cursor) : List Argument × Cursor :=
  let present := cursor.remaining.filterMap id
  (present, { cursor with remaining := [], position := cursor.position + present.length })

/-- Fails when present arguments are left. -/
def finish (cursor : Cursor) : Except InputFault Unit :=
  match (cursor.remaining.filterMap id).length with
  | 0 => .ok ()
  | left => .error (.argumentsLeft cursor.operator cursor.position left)

end Cursor

end OnnxForge.Build
