import Xyena.Contracts.Values

/-!
# Canonical text and digest of a document

`packages/tools/canonical.py`. The digest is taken of the compact text with
sorted keys and unescaped characters. SHA-256 itself is the parameter `sha256`.
-/

namespace Xyena.Tools

open Xyena.Foundation

def canonicalJson (value : Json) : String := value.dumps false

def canonicalHash (sha256 : String → String) (value : Json) : String :=
  sha256 (canonicalJson value)

end Xyena.Tools
