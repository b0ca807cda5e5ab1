import HostEngine.Control
/-!
The control program. Requests for files, variables and time are answered by the system; this build
maps no library files, so a load is answered by saying that there is none, and no session starts.
-/
set_option autoImplicit false

namespace HostEngine.Main

def faultOf : IO.Error → Kernel.Fault
  | .noFileOrDirectory _ _ _ => .system .noEntry
  | .permissionDenied _ _ _ => .system .accessDenied
  | .inappropriateType _ code _ => .system ⟨Int32.ofNat code.toNat⟩
  | other => .stated (toString other)

def unsupported : Kernel.Fault := .stated "not supported by this build"

def print (filter : Option Log.Filter) (event : Log.Event) : IO Unit :=
  if (filter.map fun f => f.admits event).getD true then
    IO.println (event.level.name ++ " " ++ event.printed)
  else pure ()

/-- Answers the request of a procedure, as far as the system is asked, and goes on with it. -/
def interpret {α : Type} (filter : Option Log.Filter) : Procedure α → IO α
  | .done result => pure result
  | .request (.log event) next => do
    print filter event
    interpret filter (next ())
  | .request (.selectLog selected) next => interpret (some selected) (next ())
  | .request (.load name) next =>
    interpret filter <| next <| .error <|
      name ++ ": cannot open shared object file: " ++ Kernel.Errno.noEntry.description
  | .request (.call _ _) next => interpret filter (next (.error ⟨-1, unsupported.text⟩))
  | .request (.unload _) next => interpret filter (next (.ok ()))
  | .request (.discard _) next => interpret filter (next ())
  | .request (.find _ _) next => interpret filter (next (.error unsupported.text))
  | .request (.reserve _ _) next => interpret filter (next (.error unsupported))
  | .request (.spawn _ _) next => interpret filter (next (.error unsupported))
  | .request (.runToEnd _ _) next => interpret filter (next (.error unsupported))
  | .request (.signal _ _) next => interpret filter (next (.error .noProcess))
  | .request (.wait _) next => interpret filter (next (.error unsupported))
  | .request (.remove _) next => interpret filter (next (.error unsupported))
  | .request (.read path) next => do
    let content ← try
        let bytes ← IO.FS.readBinFile path.shown
        pure (Except.ok bytes.toList)
      catch failure => pure (Except.error (faultOf failure))
    interpret filter (next content)
  | .request (.environment name) next => do
    let value ← IO.getEnv name
    interpret filter (next (value.map Octets.ofString))
  | .request (.catchSignal _) next => interpret filter (next (.error unsupported))
  | .request .awaitSignal next => interpret filter (next .terminate)
  | .request (.pause seconds) next => do
    IO.sleep (UInt32.ofNat (min (1000 * seconds.toNat) (UInt32.size - 1)))
    interpret filter (next ())

end HostEngine.Main

def main (args : List String) : IO UInt32 := do
  match ← HostEngine.Main.interpret none (HostEngine.Control.program args) with
  | .ok _ => return 0
  | .error failure =>
    IO.eprint failure.complaint
    return UInt32.ofNat failure.code
