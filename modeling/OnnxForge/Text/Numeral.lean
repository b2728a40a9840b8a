/-!
# Numerals

Decimal numerals of whole numbers and the bracketed lists made of them.
-/

namespace OnnxForge.Text

/-- The decimal numeral of a natural number, without leading zeros. -/
def natural (n : Nat) : String :=
  Nat.repr n

/-- The decimal numeral of an integer, a negative one led by a minus sign. -/
def integer : Int → String
  | .ofNat n => natural n
  | .negSucc n => "-" ++ natural (n + 1)

/-- Items in brackets, separated by a comma and a space. -/
def bracketed (items : List String) : String :=
  "[" ++ ", ".intercalate items ++ "]"

end OnnxForge.Text
