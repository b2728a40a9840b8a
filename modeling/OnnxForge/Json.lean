/-!
# JSON values

The values of JSON texts. A number keeps its numeral, and the members of an object
their order and repetitions, because readers of records tell these apart. A string may
escape half of a surrogate pair; such a string is kept as one that stands for no text.
-/

namespace OnnxForge

/-- A value of a JSON text. -/
inductive Json
  | null
  | bool (value : Bool)
  | number (numeral : String)
  /-- The text of a string; none when it holds half of a surrogate pair. -/
  | string (text : Option String)
  | array (elements : List Json)
  | object (members : List (Option String × Json))

namespace Json

/-- The whole number with a numeral in plain digits, which zero has in one form only. -/
def integerOf? (numeral : String) : Option Int :=
  match numeral.toList with
  | '-' :: digits =>
    if digits.all Char.isDigit && digits != ['0'] then
      (String.ofList digits).toNat?.map fun n => -(n : Int)
    else none
  | digits => if digits.all Char.isDigit then numeral.toNat?.map Int.ofNat else none

/-- The whole number that a value is. -/
def integer? : Json → Option Int
  | .number numeral => integerOf? numeral
  | _ => none

/-- The signed 64-bit integer that a value is. -/
def int64? (json : Json) : Option Int64 :=
  json.integer?.bind fun n =>
    if Int64.minValue.toInt ≤ n ∧ n ≤ Int64.maxValue.toInt then some (Int64.ofInt n) else none

/-- The unsigned 64-bit integer that a value is. -/
def uint64? (json : Json) : Option UInt64 :=
  json.integer?.bind fun n =>
    if 0 ≤ n ∧ n < UInt64.size then some (UInt64.ofNat n.toNat) else none

/-- The truth value that a value is. -/
def bool? : Json → Option Bool
  | .bool value => some value
  | _ => none

/-- The text that a value is. -/
def string? : Json → Option String
  | .string text => text
  | _ => none

/-- The elements of a value that is an array. -/
def array? : Json → Option (List Json)
  | .array elements => some elements
  | _ => none

/-- The word that a value is: a text, or an object whose one member has that name and no
value. -/
def word? : Json → Option String
  | .string text => text
  | .object [(name, .null)] => name
  | _ => none

/-- The fields of a record, in the order of their names. A record is an object, where a
member of another name is passed over and a field must not be repeated, or the array of
the leading fields. -/
def fields? (names : List String) : Json → Option (List (Option Json))
  | .array elements =>
    if names.length < elements.length then none
    else some ((List.range names.length).map fun index => elements[index]?)
  | .object members => do
    let members ← members.mapM fun member => member.1.map fun name => (name, member.2)
    names.mapM fun name =>
      match members.filter (·.1 == name) with
      | [] => some none
      | [member] => some (some member.2)
      | _ => none
  | _ => none

end Json

end OnnxForge
