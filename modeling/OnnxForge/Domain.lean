/-!
# Operator domains

Operators live in domains. The default domain may be written out or left empty.
-/

namespace OnnxForge

def isDefaultDomain (domain : String) : Bool :=
  domain == "" || domain == "ai.onnx"

end OnnxForge
