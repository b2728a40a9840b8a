import OnnxForge.Schema

/-!
# Reduction

The operators that reduce a tensor along its axes.
-/

namespace OnnxForge.Catalogue.Builtin

def reduceMaxVersions : List Schema :=
  [ { name := "ReduceMax", sinceVersion := 1
      minInput := 1, maxInput := 1, minOutput := 1, maxOutput := 1
      inputs := [.single "data"]
      outputs := [.single "reduced"]
      attributes := [.optional "axes" .ints, .optional "keepdims" .int] },
    { name := "ReduceMax", sinceVersion := 11
      minInput := 1, maxInput := 1, minOutput := 1, maxOutput := 1
      inputs := [.single "data"]
      outputs := [.single "reduced"]
      attributes := [.optional "axes" .ints, .optional "keepdims" .int] },
    { name := "ReduceMax", sinceVersion := 12
      minInput := 1, maxInput := 1, minOutput := 1, maxOutput := 1
      inputs := [.single "data"]
      outputs := [.single "reduced"]
      attributes := [.optional "axes" .ints, .optional "keepdims" .int] },
    { name := "ReduceMax", sinceVersion := 13
      minInput := 1, maxInput := 1, minOutput := 1, maxOutput := 1
      inputs := [.single "data"]
      outputs := [.single "reduced"]
      attributes := [.optional "axes" .ints, .optional "keepdims" .int] },
    { name := "ReduceMax", sinceVersion := 18
      minInput := 1, maxInput := 2, minOutput := 1, maxOutput := 1
      inputs := [.single "data", .optional "axes"]
      outputs := [.single "reduced"]
      attributes := [.optional "keepdims" .int, .optional "noop_with_empty_axes" .int] },
    { name := "ReduceMax", sinceVersion := 20
      minInput := 1, maxInput := 2, minOutput := 1, maxOutput := 1
      inputs := [.single "data", .optional "axes"]
      outputs := [.single "reduced"]
      attributes := [.optional "keepdims" .int, .optional "noop_with_empty_axes" .int] }]

def reduceSumVersions : List Schema :=
  [ { name := "ReduceSum", sinceVersion := 1
      minInput := 1, maxInput := 1, minOutput := 1, maxOutput := 1
      inputs := [.single "data"]
      outputs := [.single "reduced"]
      attributes := [.optional "axes" .ints, .optional "keepdims" .int] },
    { name := "ReduceSum", sinceVersion := 11
      minInput := 1, maxInput := 1, minOutput := 1, maxOutput := 1
      inputs := [.single "data"]
      outputs := [.single "reduced"]
      attributes := [.optional "axes" .ints, .optional "keepdims" .int] },
    { name := "ReduceSum", sinceVersion := 13
      minInput := 1, maxInput := 2, minOutput := 1, maxOutput := 1
      inputs := [.single "data", .optional "axes"]
      outputs := [.single "reduced"]
      attributes := [.optional "keepdims" .int, .optional "noop_with_empty_axes" .int] }]

end OnnxForge.Catalogue.Builtin
