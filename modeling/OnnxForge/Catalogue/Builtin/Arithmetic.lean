import OnnxForge.Schema

/-!
# Arithmetic

The operators that calculate with numbers element by element, and the products of matrices.
-/

namespace OnnxForge.Catalogue.Builtin

def absVersions : List Schema :=
  [ { name := "Abs", sinceVersion := 1
      minInput := 1, maxInput := 1, minOutput := 1, maxOutput := 1
      inputs := [.single "X"]
      outputs := [.single "Y"]
      attributes := [.optional "consumed_inputs" .ints] },
    { name := "Abs", sinceVersion := 6
      minInput := 1, maxInput := 1, minOutput := 1, maxOutput := 1
      inputs := [.single "X"]
      outputs := [.single "Y"] },
    { name := "Abs", sinceVersion := 13
      minInput := 1, maxInput := 1, minOutput := 1, maxOutput := 1
      inputs := [.single "X"]
      outputs := [.single "Y"] }]

def addVersions : List Schema :=
  [ { name := "Add", sinceVersion := 1
      minInput := 2, maxInput := 2, minOutput := 1, maxOutput := 1
      inputs := [.single "A", .single "B"]
      outputs := [.single "C"]
      attributes := [.optional "axis" .int, .optional "broadcast" .int,
        .optional "consumed_inputs" .ints] },
    { name := "Add", sinceVersion := 6
      minInput := 2, maxInput := 2, minOutput := 1, maxOutput := 1
      inputs := [.single "A", .single "B"]
      outputs := [.single "C"]
      attributes := [.optional "axis" .int, .optional "broadcast" .int] },
    { name := "Add", sinceVersion := 7
      minInput := 2, maxInput := 2, minOutput := 1, maxOutput := 1
      inputs := [.single "A", .single "B"]
      outputs := [.single "C"] },
    { name := "Add", sinceVersion := 13
      minInput := 2, maxInput := 2, minOutput := 1, maxOutput := 1
      inputs := [.single "A", .single "B"]
      outputs := [.single "C"] },
    { name := "Add", sinceVersion := 14
      minInput := 2, maxInput := 2, minOutput := 1, maxOutput := 1
      inputs := [.single "A", .single "B"]
      outputs := [.single "C"] }]

def clipVersions : List Schema :=
  [ { name := "Clip", sinceVersion := 1
      minInput := 1, maxInput := 1, minOutput := 1, maxOutput := 1
      inputs := [.single "input"]
      outputs := [.single "output"]
      attributes := [.optional "consumed_inputs" .ints, .optional "max" .float,
        .optional "min" .float] },
    { name := "Clip", sinceVersion := 6
      minInput := 1, maxInput := 1, minOutput := 1, maxOutput := 1
      inputs := [.single "input"]
      outputs := [.single "output"]
      attributes := [.optional "max" .float, .optional "min" .float] },
    { name := "Clip", sinceVersion := 11
      minInput := 1, maxInput := 3, minOutput := 1, maxOutput := 1
      inputs := [.single "input", .optional "min", .optional "max"]
      outputs := [.single "output"] },
    { name := "Clip", sinceVersion := 12
      minInput := 1, maxInput := 3, minOutput := 1, maxOutput := 1
      inputs := [.single "input", .optional "min", .optional "max"]
      outputs := [.single "output"] },
    { name := "Clip", sinceVersion := 13
      minInput := 1, maxInput := 3, minOutput := 1, maxOutput := 1
      inputs := [.single "input", .optional "min", .optional "max"]
      outputs := [.single "output"] }]

def gemmVersions : List Schema :=
  [ { name := "Gemm", sinceVersion := 1
      minInput := 3, maxInput := 3, minOutput := 1, maxOutput := 1
      inputs := [.single "A", .single "B", .single "C"]
      outputs := [.single "Y"]
      attributes := [.optional "alpha" .float, .optional "beta" .float,
        .optional "broadcast" .int, .optional "transA" .int, .optional "transB" .int] },
    { name := "Gemm", sinceVersion := 6
      minInput := 3, maxInput := 3, minOutput := 1, maxOutput := 1
      inputs := [.single "A", .single "B", .single "C"]
      outputs := [.single "Y"]
      attributes := [.optional "alpha" .float, .optional "beta" .float,
        .optional "broadcast" .int, .optional "transA" .int, .optional "transB" .int] },
    { name := "Gemm", sinceVersion := 7
      minInput := 3, maxInput := 3, minOutput := 1, maxOutput := 1
      inputs := [.single "A", .single "B", .single "C"]
      outputs := [.single "Y"]
      attributes := [.optional "alpha" .float, .optional "beta" .float, .optional "transA" .int,
        .optional "transB" .int] },
    { name := "Gemm", sinceVersion := 9
      minInput := 3, maxInput := 3, minOutput := 1, maxOutput := 1
      inputs := [.single "A", .single "B", .single "C"]
      outputs := [.single "Y"]
      attributes := [.optional "alpha" .float, .optional "beta" .float, .optional "transA" .int,
        .optional "transB" .int] },
    { name := "Gemm", sinceVersion := 11
      minInput := 2, maxInput := 3, minOutput := 1, maxOutput := 1
      inputs := [.single "A", .single "B", .optional "C"]
      outputs := [.single "Y"]
      attributes := [.optional "alpha" .float, .optional "beta" .float, .optional "transA" .int,
        .optional "transB" .int] },
    { name := "Gemm", sinceVersion := 13
      minInput := 2, maxInput := 3, minOutput := 1, maxOutput := 1
      inputs := [.single "A", .single "B", .optional "C"]
      outputs := [.single "Y"]
      attributes := [.optional "alpha" .float, .optional "beta" .float, .optional "transA" .int,
        .optional "transB" .int] }]

def matMulVersions : List Schema :=
  [ { name := "MatMul", sinceVersion := 1
      minInput := 2, maxInput := 2, minOutput := 1, maxOutput := 1
      inputs := [.single "A", .single "B"]
      outputs := [.single "Y"] },
    { name := "MatMul", sinceVersion := 9
      minInput := 2, maxInput := 2, minOutput := 1, maxOutput := 1
      inputs := [.single "A", .single "B"]
      outputs := [.single "Y"] },
    { name := "MatMul", sinceVersion := 13
      minInput := 2, maxInput := 2, minOutput := 1, maxOutput := 1
      inputs := [.single "A", .single "B"]
      outputs := [.single "Y"] }]

def maxVersions : List Schema :=
  [ { name := "Max", sinceVersion := 1
      minInput := 1, maxInput := unbounded, minOutput := 1, maxOutput := 1
      inputs := [.variadic "data_0"]
      outputs := [.single "max"]
      attributes := [.optional "consumed_inputs" .ints] },
    { name := "Max", sinceVersion := 6
      minInput := 1, maxInput := unbounded, minOutput := 1, maxOutput := 1
      inputs := [.variadic "data_0"]
      outputs := [.single "max"] },
    { name := "Max", sinceVersion := 8
      minInput := 1, maxInput := unbounded, minOutput := 1, maxOutput := 1
      inputs := [.variadic "data_0"]
      outputs := [.single "max"] },
    { name := "Max", sinceVersion := 12
      minInput := 1, maxInput := unbounded, minOutput := 1, maxOutput := 1
      inputs := [.variadic "data_0"]
      outputs := [.single "max"] },
    { name := "Max", sinceVersion := 13
      minInput := 1, maxInput := unbounded, minOutput := 1, maxOutput := 1
      inputs := [.variadic "data_0"]
      outputs := [.single "max"] }]

def modVersions : List Schema :=
  [ { name := "Mod", sinceVersion := 10
      minInput := 2, maxInput := 2, minOutput := 1, maxOutput := 1
      inputs := [.single "A", .single "B"]
      outputs := [.single "C"]
      attributes := [.optional "fmod" .int] },
    { name := "Mod", sinceVersion := 13
      minInput := 2, maxInput := 2, minOutput := 1, maxOutput := 1
      inputs := [.single "A", .single "B"]
      outputs := [.single "C"]
      attributes := [.optional "fmod" .int] }]

def mulVersions : List Schema :=
  [ { name := "Mul", sinceVersion := 1
      minInput := 2, maxInput := 2, minOutput := 1, maxOutput := 1
      inputs := [.single "A", .single "B"]
      outputs := [.single "C"]
      attributes := [.optional "axis" .int, .optional "broadcast" .int,
        .optional "consumed_inputs" .ints] },
    { name := "Mul", sinceVersion := 6
      minInput := 2, maxInput := 2, minOutput := 1, maxOutput := 1
      inputs := [.single "A", .single "B"]
      outputs := [.single "C"]
      attributes := [.optional "axis" .int, .optional "broadcast" .int] },
    { name := "Mul", sinceVersion := 7
      minInput := 2, maxInput := 2, minOutput := 1, maxOutput := 1
      inputs := [.single "A", .single "B"]
      outputs := [.single "C"] },
    { name := "Mul", sinceVersion := 13
      minInput := 2, maxInput := 2, minOutput := 1, maxOutput := 1
      inputs := [.single "A", .single "B"]
      outputs := [.single "C"] },
    { name := "Mul", sinceVersion := 14
      minInput := 2, maxInput := 2, minOutput := 1, maxOutput := 1
      inputs := [.single "A", .single "B"]
      outputs := [.single "C"] }]

def subVersions : List Schema :=
  [ { name := "Sub", sinceVersion := 1
      minInput := 2, maxInput := 2, minOutput := 1, maxOutput := 1
      inputs := [.single "A", .single "B"]
      outputs := [.single "C"]
      attributes := [.optional "axis" .int, .optional "broadcast" .int,
        .optional "consumed_inputs" .ints] },
    { name := "Sub", sinceVersion := 6
      minInput := 2, maxInput := 2, minOutput := 1, maxOutput := 1
      inputs := [.single "A", .single "B"]
      outputs := [.single "C"]
      attributes := [.optional "axis" .int, .optional "broadcast" .int] },
    { name := "Sub", sinceVersion := 7
      minInput := 2, maxInput := 2, minOutput := 1, maxOutput := 1
      inputs := [.single "A", .single "B"]
      outputs := [.single "C"] },
    { name := "Sub", sinceVersion := 13
      minInput := 2, maxInput := 2, minOutput := 1, maxOutput := 1
      inputs := [.single "A", .single "B"]
      outputs := [.single "C"] },
    { name := "Sub", sinceVersion := 14
      minInput := 2, maxInput := 2, minOutput := 1, maxOutput := 1
      inputs := [.single "A", .single "B"]
      outputs := [.single "C"] }]

end OnnxForge.Catalogue.Builtin
