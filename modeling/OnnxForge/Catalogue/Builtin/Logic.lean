import OnnxForge.Schema

/-!
# Values and choices

The operators that yield values as they are, in another type, or by a condition.
-/

namespace OnnxForge.Catalogue.Builtin

def andVersions : List Schema :=
  [ { name := "And", sinceVersion := 1
      minInput := 2, maxInput := 2, minOutput := 1, maxOutput := 1
      inputs := [.single "A", .single "B"]
      outputs := [.single "C"]
      attributes := [.optional "axis" .int, .optional "broadcast" .int] },
    { name := "And", sinceVersion := 7
      minInput := 2, maxInput := 2, minOutput := 1, maxOutput := 1
      inputs := [.single "A", .single "B"]
      outputs := [.single "C"] }]

def notVersions : List Schema :=
  [ { name := "Not", sinceVersion := 1
      minInput := 1, maxInput := 1, minOutput := 1, maxOutput := 1
      inputs := [.single "X"]
      outputs := [.single "Y"] }]

def whereVersions : List Schema :=
  [ { name := "Where", sinceVersion := 9
      minInput := 3, maxInput := 3, minOutput := 1, maxOutput := 1
      inputs := [.single "condition", .single "X", .single "Y"]
      outputs := [.single "output"] },
    { name := "Where", sinceVersion := 16
      minInput := 3, maxInput := 3, minOutput := 1, maxOutput := 1
      inputs := [.single "condition", .single "X", .single "Y"]
      outputs := [.single "output"] }]

def ifVersions : List Schema :=
  [ { name := "If", sinceVersion := 1
      minInput := 1, maxInput := 1, minOutput := 1, maxOutput := unbounded
      inputs := [.single "cond"]
      outputs := [.variadic "outputs"]
      attributes := [.mandatory "else_branch" .graph, .mandatory "then_branch" .graph] },
    { name := "If", sinceVersion := 11
      minInput := 1, maxInput := 1, minOutput := 1, maxOutput := unbounded
      inputs := [.single "cond"]
      outputs := [.variadic "outputs"]
      attributes := [.mandatory "else_branch" .graph, .mandatory "then_branch" .graph] },
    { name := "If", sinceVersion := 13
      minInput := 1, maxInput := 1, minOutput := 1, maxOutput := unbounded
      inputs := [.single "cond"]
      outputs := [.variadic "outputs"]
      attributes := [.mandatory "else_branch" .graph, .mandatory "then_branch" .graph] },
    { name := "If", sinceVersion := 16
      minInput := 1, maxInput := 1, minOutput := 1, maxOutput := unbounded
      inputs := [.single "cond"]
      outputs := [.variadic "outputs"]
      attributes := [.mandatory "else_branch" .graph, .mandatory "then_branch" .graph] },
    { name := "If", sinceVersion := 19
      minInput := 1, maxInput := 1, minOutput := 1, maxOutput := unbounded
      inputs := [.single "cond"]
      outputs := [.variadic "outputs"]
      attributes := [.mandatory "else_branch" .graph, .mandatory "then_branch" .graph] },
    { name := "If", sinceVersion := 21
      minInput := 1, maxInput := 1, minOutput := 1, maxOutput := unbounded
      inputs := [.single "cond"]
      outputs := [.variadic "outputs"]
      attributes := [.mandatory "else_branch" .graph, .mandatory "then_branch" .graph] }]

def constantVersions : List Schema :=
  [ { name := "Constant", sinceVersion := 1
      minInput := 0, maxInput := 0, minOutput := 1, maxOutput := 1
      inputs := []
      outputs := [.single "output"]
      attributes := [.mandatory "value" .tensor] },
    { name := "Constant", sinceVersion := 9
      minInput := 0, maxInput := 0, minOutput := 1, maxOutput := 1
      inputs := []
      outputs := [.single "output"]
      attributes := [.mandatory "value" .tensor] },
    { name := "Constant", sinceVersion := 11
      minInput := 0, maxInput := 0, minOutput := 1, maxOutput := 1
      inputs := []
      outputs := [.single "output"]
      attributes := [.optional "sparse_value" .sparseTensor, .optional "value" .tensor] },
    { name := "Constant", sinceVersion := 12
      minInput := 0, maxInput := 0, minOutput := 1, maxOutput := 1
      inputs := []
      outputs := [.single "output"]
      attributes := [.optional "sparse_value" .sparseTensor, .optional "value" .tensor,
        .optional "value_float" .float, .optional "value_floats" .floats,
        .optional "value_int" .int, .optional "value_ints" .ints,
        .optional "value_string" .string, .optional "value_strings" .strings] },
    { name := "Constant", sinceVersion := 13
      minInput := 0, maxInput := 0, minOutput := 1, maxOutput := 1
      inputs := []
      outputs := [.single "output"]
      attributes := [.optional "sparse_value" .sparseTensor, .optional "value" .tensor,
        .optional "value_float" .float, .optional "value_floats" .floats,
        .optional "value_int" .int, .optional "value_ints" .ints,
        .optional "value_string" .string, .optional "value_strings" .strings] },
    { name := "Constant", sinceVersion := 19
      minInput := 0, maxInput := 0, minOutput := 1, maxOutput := 1
      inputs := []
      outputs := [.single "output"]
      attributes := [.optional "sparse_value" .sparseTensor, .optional "value" .tensor,
        .optional "value_float" .float, .optional "value_floats" .floats,
        .optional "value_int" .int, .optional "value_ints" .ints,
        .optional "value_string" .string, .optional "value_strings" .strings] },
    { name := "Constant", sinceVersion := 21
      minInput := 0, maxInput := 0, minOutput := 1, maxOutput := 1
      inputs := []
      outputs := [.single "output"]
      attributes := [.optional "sparse_value" .sparseTensor, .optional "value" .tensor,
        .optional "value_float" .float, .optional "value_floats" .floats,
        .optional "value_int" .int, .optional "value_ints" .ints,
        .optional "value_string" .string, .optional "value_strings" .strings] }]

def identityVersions : List Schema :=
  [ { name := "Identity", sinceVersion := 1
      minInput := 1, maxInput := 1, minOutput := 1, maxOutput := 1
      inputs := [.single "input"]
      outputs := [.single "output"] },
    { name := "Identity", sinceVersion := 13
      minInput := 1, maxInput := 1, minOutput := 1, maxOutput := 1
      inputs := [.single "input"]
      outputs := [.single "output"] },
    { name := "Identity", sinceVersion := 14
      minInput := 1, maxInput := 1, minOutput := 1, maxOutput := 1
      inputs := [.single "input"]
      outputs := [.single "output"] },
    { name := "Identity", sinceVersion := 16
      minInput := 1, maxInput := 1, minOutput := 1, maxOutput := 1
      inputs := [.single "input"]
      outputs := [.single "output"] },
    { name := "Identity", sinceVersion := 19
      minInput := 1, maxInput := 1, minOutput := 1, maxOutput := 1
      inputs := [.single "input"]
      outputs := [.single "output"] },
    { name := "Identity", sinceVersion := 21
      minInput := 1, maxInput := 1, minOutput := 1, maxOutput := 1
      inputs := [.single "input"]
      outputs := [.single "output"] }]

def castVersions : List Schema :=
  [ { name := "Cast", sinceVersion := 1
      minInput := 1, maxInput := 1, minOutput := 1, maxOutput := 1
      inputs := [.single "input"]
      outputs := [.single "output"]
      attributes := [.mandatory "to" .string] },
    { name := "Cast", sinceVersion := 6
      minInput := 1, maxInput := 1, minOutput := 1, maxOutput := 1
      inputs := [.single "input"]
      outputs := [.single "output"]
      attributes := [.mandatory "to" .int] },
    { name := "Cast", sinceVersion := 9
      minInput := 1, maxInput := 1, minOutput := 1, maxOutput := 1
      inputs := [.single "input"]
      outputs := [.single "output"]
      attributes := [.mandatory "to" .int] },
    { name := "Cast", sinceVersion := 13
      minInput := 1, maxInput := 1, minOutput := 1, maxOutput := 1
      inputs := [.single "input"]
      outputs := [.single "output"]
      attributes := [.mandatory "to" .int] },
    { name := "Cast", sinceVersion := 19
      minInput := 1, maxInput := 1, minOutput := 1, maxOutput := 1
      inputs := [.single "input"]
      outputs := [.single "output"]
      attributes := [.optional "saturate" .int, .mandatory "to" .int] },
    { name := "Cast", sinceVersion := 21
      minInput := 1, maxInput := 1, minOutput := 1, maxOutput := 1
      inputs := [.single "input"]
      outputs := [.single "output"]
      attributes := [.optional "saturate" .int, .mandatory "to" .int] }]

end OnnxForge.Catalogue.Builtin
