import OnnxForge.Schema

/-!
# Network layers

The operators that stand for layers of neural networks.
-/

namespace OnnxForge.Catalogue.Builtin

def convVersions : List Schema :=
  [ { name := "Conv", sinceVersion := 1
      minInput := 2, maxInput := 3, minOutput := 1, maxOutput := 1
      inputs := [.single "X", .single "W", .optional "B"]
      outputs := [.single "Y"]
      attributes := [.optional "auto_pad" .string, .optional "dilations" .ints,
        .optional "group" .int, .optional "kernel_shape" .ints, .optional "pads" .ints,
        .optional "strides" .ints] },
    { name := "Conv", sinceVersion := 11
      minInput := 2, maxInput := 3, minOutput := 1, maxOutput := 1
      inputs := [.single "X", .single "W", .optional "B"]
      outputs := [.single "Y"]
      attributes := [.optional "auto_pad" .string, .optional "dilations" .ints,
        .optional "group" .int, .optional "kernel_shape" .ints, .optional "pads" .ints,
        .optional "strides" .ints] }]

def dropoutVersions : List Schema :=
  [ { name := "Dropout", sinceVersion := 1
      minInput := 1, maxInput := 1, minOutput := 1, maxOutput := 2
      inputs := [.single "data"]
      outputs := [.single "output", .optional "mask"]
      attributes := [.optional "consumed_inputs" .ints, .optional "is_test" .int,
        .optional "ratio" .float] },
    { name := "Dropout", sinceVersion := 6
      minInput := 1, maxInput := 1, minOutput := 1, maxOutput := 2
      inputs := [.single "data"]
      outputs := [.single "output", .optional "mask"]
      attributes := [.optional "is_test" .int, .optional "ratio" .float] },
    { name := "Dropout", sinceVersion := 7
      minInput := 1, maxInput := 1, minOutput := 1, maxOutput := 2
      inputs := [.single "data"]
      outputs := [.single "output", .optional "mask"]
      attributes := [.optional "ratio" .float] },
    { name := "Dropout", sinceVersion := 10
      minInput := 1, maxInput := 1, minOutput := 1, maxOutput := 2
      inputs := [.single "data"]
      outputs := [.single "output", .optional "mask"]
      attributes := [.optional "ratio" .float] },
    { name := "Dropout", sinceVersion := 12
      minInput := 1, maxInput := 3, minOutput := 1, maxOutput := 2
      inputs := [.single "data", .optional "ratio", .optional "training_mode"]
      outputs := [.single "output", .optional "mask"]
      attributes := [.optional "seed" .int] },
    { name := "Dropout", sinceVersion := 13
      minInput := 1, maxInput := 3, minOutput := 1, maxOutput := 2
      inputs := [.single "data", .optional "ratio", .optional "training_mode"]
      outputs := [.single "output", .optional "mask"]
      attributes := [.optional "seed" .int] }]

def reluVersions : List Schema :=
  [ { name := "Relu", sinceVersion := 1
      minInput := 1, maxInput := 1, minOutput := 1, maxOutput := 1
      inputs := [.single "X"]
      outputs := [.single "Y"]
      attributes := [.optional "consumed_inputs" .ints] },
    { name := "Relu", sinceVersion := 6
      minInput := 1, maxInput := 1, minOutput := 1, maxOutput := 1
      inputs := [.single "X"]
      outputs := [.single "Y"] },
    { name := "Relu", sinceVersion := 13
      minInput := 1, maxInput := 1, minOutput := 1, maxOutput := 1
      inputs := [.single "X"]
      outputs := [.single "Y"] },
    { name := "Relu", sinceVersion := 14
      minInput := 1, maxInput := 1, minOutput := 1, maxOutput := 1
      inputs := [.single "X"]
      outputs := [.single "Y"] }]

def sigmoidVersions : List Schema :=
  [ { name := "Sigmoid", sinceVersion := 1
      minInput := 1, maxInput := 1, minOutput := 1, maxOutput := 1
      inputs := [.single "X"]
      outputs := [.single "Y"]
      attributes := [.optional "consumed_inputs" .ints] },
    { name := "Sigmoid", sinceVersion := 6
      minInput := 1, maxInput := 1, minOutput := 1, maxOutput := 1
      inputs := [.single "X"]
      outputs := [.single "Y"] },
    { name := "Sigmoid", sinceVersion := 13
      minInput := 1, maxInput := 1, minOutput := 1, maxOutput := 1
      inputs := [.single "X"]
      outputs := [.single "Y"] }]

def softmaxVersions : List Schema :=
  [ { name := "Softmax", sinceVersion := 1
      minInput := 1, maxInput := 1, minOutput := 1, maxOutput := 1
      inputs := [.single "input"]
      outputs := [.single "output"]
      attributes := [.optional "axis" .int] },
    { name := "Softmax", sinceVersion := 11
      minInput := 1, maxInput := 1, minOutput := 1, maxOutput := 1
      inputs := [.single "input"]
      outputs := [.single "output"]
      attributes := [.optional "axis" .int] },
    { name := "Softmax", sinceVersion := 13
      minInput := 1, maxInput := 1, minOutput := 1, maxOutput := 1
      inputs := [.single "input"]
      outputs := [.single "output"]
      attributes := [.optional "axis" .int] }]

def tanhVersions : List Schema :=
  [ { name := "Tanh", sinceVersion := 1
      minInput := 1, maxInput := 1, minOutput := 1, maxOutput := 1
      inputs := [.single "input"]
      outputs := [.single "output"]
      attributes := [.optional "consumed_inputs" .ints] },
    { name := "Tanh", sinceVersion := 6
      minInput := 1, maxInput := 1, minOutput := 1, maxOutput := 1
      inputs := [.single "input"]
      outputs := [.single "output"] },
    { name := "Tanh", sinceVersion := 13
      minInput := 1, maxInput := 1, minOutput := 1, maxOutput := 1
      inputs := [.single "input"]
      outputs := [.single "output"] }]

end OnnxForge.Catalogue.Builtin
