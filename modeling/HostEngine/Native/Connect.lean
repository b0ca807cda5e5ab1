/-!
Parameters of a connect call and the version word that opens them.
-/
set_option autoImplicit false

namespace HostEngine.Native

/-- The version word of a parameter block: its size, with the version in the top eight bits. Size
bits above 31 and version bits above 7 are lost. -/
def versionWord (size : UInt64) (version : UInt32) : UInt32 :=
  size.toUInt32 ||| (version <<< 24)

/-- Size of the connect parameters, four words of 32 bits. -/
def connectParamsSize : UInt64 := 16

def connectParamsVersion : UInt32 := versionWord connectParamsSize 2

/-- Parameters of a connect call. A timeout of zero asks for the library's default; the last word is
nonzero when the address is the path of a Unix socket. -/
structure ConnectParams where
  version : UInt32
  persist : UInt32
  timeout : UInt32
  unixSocket : UInt32
  deriving DecidableEq, Repr

namespace ConnectParams

/-- Parameters for an address with the given socket flag: no persistence, default timeout. -/
def ofFlag (flag : UInt32) : ConnectParams := ⟨connectParamsVersion, 0, 0, flag⟩

def isUnixSocket (params : ConnectParams) : Bool := params.unixSocket != 0

end ConnectParams

end HostEngine.Native
