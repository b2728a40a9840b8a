import OnnxForge.Schema

/-!
# Arrangement

The operators that rearrange elements and leave them as they are.
-/

namespace OnnxForge.Catalogue.Builtin

def concatVersions : List Schema :=
  [ { name := "Concat", sinceVersion := 1
      minInput := 1, maxInput := unbounded, minOutput := 1, maxOutput := 1
      inputs := [.variadic "inputs"]
      outputs := [.single "concat_result"]
      attributes := [.optional "axis" .int] },
    { name := "Concat", sinceVersion := 4
      minInput := 1, maxInput := unbounded, minOutput := 1, maxOutput := 1
      inputs := [.variadic "inputs"]
      outputs := [.single "concat_result"]
      attributes := [.mandatory "axis" .int] },
    { name := "Concat", sinceVersion := 11
      minInput := 1, maxInput := unbounded, minOutput := 1, maxOutput := 1
      inputs := [.variadic "inputs"]
      outputs := [.single "concat_result"]
      attributes := [.mandatory "axis" .int] },
    { name := "Concat", sinceVersion := 13
      minInput := 1, maxInput := unbounded, minOutput := 1, maxOutput := 1
      inputs := [.variadic "inputs"]
      outputs := [.single "concat_result"]
      attributes := [.mandatory "axis" .int] }]

def flattenVersions : List Schema :=
  [ { name := "Flatten", sinceVersion := 1
      minInput := 1, maxInput := 1, minOutput := 1, maxOutput := 1
      inputs := [.single "input"]
      outputs := [.single "output"]
      attributes := [.optional "axis" .int] },
    { name := "Flatten", sinceVersion := 9
      minInput := 1, maxInput := 1, minOutput := 1, maxOutput := 1
      inputs := [.single "input"]
      outputs := [.single "output"]
      attributes := [.optional "axis" .int] },
    { name := "Flatten", sinceVersion := 11
      minInput := 1, maxInput := 1, minOutput := 1, maxOutput := 1
      inputs := [.single "input"]
      outputs := [.single "output"]
      attributes := [.optional "axis" .int] },
    { name := "Flatten", sinceVersion := 13
      minInput := 1, maxInput := 1, minOutput := 1, maxOutput := 1
      inputs := [.single "input"]
      outputs := [.single "output"]
      attributes := [.optional "axis" .int] },
    { name := "Flatten", sinceVersion := 21
      minInput := 1, maxInput := 1, minOutput := 1, maxOutput := 1
      inputs := [.single "input"]
      outputs := [.single "output"]
      attributes := [.optional "axis" .int] }]

def gatherVersions : List Schema :=
  [ { name := "Gather", sinceVersion := 1
      minInput := 2, maxInput := 2, minOutput := 1, maxOutput := 1
      inputs := [.single "data", .single "indices"]
      outputs := [.single "output"]
      attributes := [.optional "axis" .int] },
    { name := "Gather", sinceVersion := 11
      minInput := 2, maxInput := 2, minOutput := 1, maxOutput := 1
      inputs := [.single "data", .single "indices"]
      outputs := [.single "output"]
      attributes := [.optional "axis" .int] },
    { name := "Gather", sinceVersion := 13
      minInput := 2, maxInput := 2, minOutput := 1, maxOutput := 1
      inputs := [.single "data", .single "indices"]
      outputs := [.single "output"]
      attributes := [.optional "axis" .int] }]

def reshapeVersions : List Schema :=
  [ { name := "Reshape", sinceVersion := 1
      minInput := 1, maxInput := 1, minOutput := 1, maxOutput := 1
      inputs := [.single "data"]
      outputs := [.single "reshaped"]
      attributes := [.optional "consumed_inputs" .ints, .optional "shape" .ints] },
    { name := "Reshape", sinceVersion := 5
      minInput := 2, maxInput := 2, minOutput := 1, maxOutput := 1
      inputs := [.single "data", .single "shape"]
      outputs := [.single "reshaped"] },
    { name := "Reshape", sinceVersion := 13
      minInput := 2, maxInput := 2, minOutput := 1, maxOutput := 1
      inputs := [.single "data", .single "shape"]
      outputs := [.single "reshaped"] },
    { name := "Reshape", sinceVersion := 14
      minInput := 2, maxInput := 2, minOutput := 1, maxOutput := 1
      inputs := [.single "data", .single "shape"]
      outputs := [.single "reshaped"]
      attributes := [.optional "allowzero" .int] },
    { name := "Reshape", sinceVersion := 19
      minInput := 2, maxInput := 2, minOutput := 1, maxOutput := 1
      inputs := [.single "data", .single "shape"]
      outputs := [.single "reshaped"]
      attributes := [.optional "allowzero" .int] },
    { name := "Reshape", sinceVersion := 21
      minInput := 2, maxInput := 2, minOutput := 1, maxOutput := 1
      inputs := [.single "data", .single "shape"]
      outputs := [.single "reshaped"]
      attributes := [.optional "allowzero" .int] }]

def shapeVersions : List Schema :=
  [ { name := "Shape", sinceVersion := 1
      minInput := 1, maxInput := 1, minOutput := 1, maxOutput := 1
      inputs := [.single "data"]
      outputs := [.single "shape"] },
    { name := "Shape", sinceVersion := 13
      minInput := 1, maxInput := 1, minOutput := 1, maxOutput := 1
      inputs := [.single "data"]
      outputs := [.single "shape"] },
    { name := "Shape", sinceVersion := 15
      minInput := 1, maxInput := 1, minOutput := 1, maxOutput := 1
      inputs := [.single "data"]
      outputs := [.single "shape"]
      attributes := [.optional "end" .int, .optional "start" .int] },
    { name := "Shape", sinceVersion := 19
      minInput := 1, maxInput := 1, minOutput := 1, maxOutput := 1
      inputs := [.single "data"]
      outputs := [.single "shape"]
      attributes := [.optional "end" .int, .optional "start" .int] },
    { name := "Shape", sinceVersion := 21
      minInput := 1, maxInput := 1, minOutput := 1, maxOutput := 1
      inputs := [.single "data"]
      outputs := [.single "shape"]
      attributes := [.optional "end" .int, .optional "start" .int] }]

def splitVersions : List Schema :=
  [ { name := "Split", sinceVersion := 1
      minInput := 1, maxInput := 2, minOutput := 1, maxOutput := unbounded
      inputs := [.single "input", .optional "split"]
      outputs := [.variadic "outputs"]
      attributes := [.optional "axis" .int, .optional "split" .ints] },
    { name := "Split", sinceVersion := 2
      minInput := 1, maxInput := 1, minOutput := 1, maxOutput := unbounded
      inputs := [.single "input"]
      outputs := [.variadic "outputs"]
      attributes := [.optional "axis" .int, .optional "split" .ints] },
    { name := "Split", sinceVersion := 11
      minInput := 1, maxInput := 1, minOutput := 1, maxOutput := unbounded
      inputs := [.single "input"]
      outputs := [.variadic "outputs"]
      attributes := [.optional "axis" .int, .optional "split" .ints] },
    { name := "Split", sinceVersion := 13
      minInput := 1, maxInput := 2, minOutput := 1, maxOutput := unbounded
      inputs := [.single "input", .optional "split"]
      outputs := [.variadic "outputs"]
      attributes := [.optional "axis" .int] },
    { name := "Split", sinceVersion := 18
      minInput := 1, maxInput := 2, minOutput := 1, maxOutput := unbounded
      inputs := [.single "input", .optional "split"]
      outputs := [.variadic "outputs"]
      attributes := [.optional "axis" .int, .optional "num_outputs" .int] }]

def squeezeVersions : List Schema :=
  [ { name := "Squeeze", sinceVersion := 1
      minInput := 1, maxInput := 1, minOutput := 1, maxOutput := 1
      inputs := [.single "data"]
      outputs := [.single "squeezed"]
      attributes := [.optional "axes" .ints] },
    { name := "Squeeze", sinceVersion := 11
      minInput := 1, maxInput := 1, minOutput := 1, maxOutput := 1
      inputs := [.single "data"]
      outputs := [.single "squeezed"]
      attributes := [.optional "axes" .ints] },
    { name := "Squeeze", sinceVersion := 13
      minInput := 1, maxInput := 2, minOutput := 1, maxOutput := 1
      inputs := [.single "data", .optional "axes"]
      outputs := [.single "squeezed"] }]

def transposeVersions : List Schema :=
  [ { name := "Transpose", sinceVersion := 1
      minInput := 1, maxInput := 1, minOutput := 1, maxOutput := 1
      inputs := [.single "data"]
      outputs := [.single "transposed"]
      attributes := [.optional "perm" .ints] },
    { name := "Transpose", sinceVersion := 13
      minInput := 1, maxInput := 1, minOutput := 1, maxOutput := 1
      inputs := [.single "data"]
      outputs := [.single "transposed"]
      attributes := [.optional "perm" .ints] },
    { name := "Transpose", sinceVersion := 21
      minInput := 1, maxInput := 1, minOutput := 1, maxOutput := 1
      inputs := [.single "data"]
      outputs := [.single "transposed"]
      attributes := [.optional "perm" .ints] }]

def unsqueezeVersions : List Schema :=
  [ { name := "Unsqueeze", sinceVersion := 1
      minInput := 1, maxInput := 1, minOutput := 1, maxOutput := 1
      inputs := [.single "data"]
      outputs := [.single "expanded"]
      attributes := [.mandatory "axes" .ints] },
    { name := "Unsqueeze", sinceVersion := 11
      minInput := 1, maxInput := 1, minOutput := 1, maxOutput := 1
      inputs := [.single "data"]
      outputs := [.single "expanded"]
      attributes := [.mandatory "axes" .ints] },
    { name := "Unsqueeze", sinceVersion := 13
      minInput := 2, maxInput := 2, minOutput := 1, maxOutput := 1
      inputs := [.single "data", .single "axes"]
      outputs := [.single "expanded"] }]

end OnnxForge.Catalogue.Builtin
