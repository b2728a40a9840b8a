import OnnxForge.Catalogue
import OnnxForge.Catalogue.Builtin.Activation
import OnnxForge.Catalogue.Builtin.Arithmetic
import OnnxForge.Catalogue.Builtin.Arrangement
import OnnxForge.Catalogue.Builtin.Logic
import OnnxForge.Catalogue.Builtin.Reduction

/-!
# The built-in catalogue

The operators that this library knows without being given a catalogue.
-/

namespace OnnxForge.Catalogue

open Builtin in
def builtin : Catalogue :=
  ofList (absVersions ++ addVersions ++ andVersions ++ castVersions ++ clipVersions ++
    concatVersions ++ constantVersions ++ convVersions ++ dropoutVersions ++ flattenVersions ++
    gatherVersions ++ gemmVersions ++ identityVersions ++ ifVersions ++ matMulVersions ++
    maxVersions ++ modVersions ++ mulVersions ++ notVersions ++ reduceMaxVersions ++
    reduceSumVersions ++ reluVersions ++ reshapeVersions ++ shapeVersions ++ sigmoidVersions ++
    softmaxVersions ++ splitVersions ++ squeezeVersions ++ subVersions ++ tanhVersions ++
    transposeVersions ++ unsqueezeVersions ++ whereVersions)

end OnnxForge.Catalogue
