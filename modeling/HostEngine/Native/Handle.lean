import HostEngine.Text.Digits
/-!
Handles of started or connected host engines.
-/
set_option autoImplicit false

namespace HostEngine.Native

/-- The identifier that the library returns for a started or connected host engine. -/
structure Handle where
  raw : UInt64
  deriving DecidableEq, Repr

def Handle.text (handle : Handle) : String := "0x" ++ hexadecimal handle.raw.toNat

end HostEngine.Native
