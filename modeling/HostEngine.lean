import HostEngine.Text.Octets
import HostEngine.Text.Blank
import HostEngine.Text.Digits
import HostEngine.Text.Span
import HostEngine.Text.Alphabetic
import HostEngine.Text.Numeric
import HostEngine.Text.Unprintable
import HostEngine.Text.Quoted
import HostEngine.Mode
import HostEngine.Native.Handle
import HostEngine.Native.Connect
import HostEngine.Native.Status
import HostEngine.Native.Call
import HostEngine.Native.Exported
import HostEngine.Kernel.Fault
import HostEngine.Kernel.Signal
import HostEngine.Failure
import HostEngine.Program.Failure
import HostEngine.Target
import HostEngine.Log
import HostEngine.Options
import HostEngine.Yaml.Cursor
import HostEngine.Yaml.Token
import HostEngine.Yaml.Token.Tag
import HostEngine.Yaml.Token.Scalar
import HostEngine.Yaml.Token.Stream
import HostEngine.Yaml.Node
import HostEngine.Yaml.Document
import HostEngine.Text.Binary64
import HostEngine.Yaml.Meaning
import HostEngine.Yaml.Print
import HostEngine.Config.Basic
import HostEngine.Config.Misfit
import HostEngine.Config.Reading
import HostEngine.Config.Validation
import HostEngine.Config.Writing
import HostEngine.CommandLine.Arguments
import HostEngine.CommandLine.Configuration
import HostEngine.Procedure
import HostEngine.Procedure.Exposure
import HostEngine.Procedure.Trace
import HostEngine.Program.Execution
import HostEngine.Session.Basic
import HostEngine.Session.Shutdown
import HostEngine.Session.Start
import HostEngine.Machine.Files
import HostEngine.Machine.Lookup
import HostEngine.Machine.Processes
import HostEngine.Machine.Files.Edit
import HostEngine.Machine.Shell.Arithmetic
import HostEngine.Machine.Shell.Basic
import HostEngine.Machine.Shell.Condition
import HostEngine.Machine.Shell.Expansion
import HostEngine.Machine.Shell.Invocation
import HostEngine.Machine.Shell.Pattern
import HostEngine.Machine.Shell.Printed
import HostEngine.Machine.Shell.Reading
import HostEngine.Machine.Shell.Running
import HostEngine.Machine.Shell.State
import HostEngine.Machine.Shell.Tools
import HostEngine.Machine.Shell.World
import HostEngine.Machine.Execution
import HostEngine.Machine.Natives
import HostEngine.Machine.Basic
import HostEngine.Log.Pattern
import HostEngine.Log.Filter
import HostEngine.Control
import HostEngine.Scenario.Engine
import HostEngine.Scenario.Basic
import HostEngine.Scenario.Pids
import HostEngine.Scenario.Placement
import HostEngine.Main
import HostEngine.Proofs.Effects
import HostEngine.Proofs.Session.Steps
import HostEngine.Proofs.Session.Teardown
import HostEngine.Proofs.Session.Startup
import HostEngine.Proofs.Session.Reversal
import HostEngine.Proofs.Surroundings
import HostEngine.Proofs.Crowd
import HostEngine.Proofs.Host
import HostEngine.Proofs.Session.AllOrNothing
import HostEngine.Proofs.Fleet
import HostEngine.Proofs.Fleet.CallProtocol
import HostEngine.Proofs.Fleet.OwnChild
import HostEngine.Proofs.Exposure
import HostEngine.Proofs.Control.Abandonment
import HostEngine.Proofs.Session.FirstFailure
import HostEngine.Proofs.Fleet.Holdings
import HostEngine.Proofs.Fleet.ScratchDirectory
import HostEngine.Proofs.Fleet.LoadedLibraries
import HostEngine.Proofs.Text.Digits
import HostEngine.Proofs.Text.Octets
import HostEngine.Proofs.Config.Arguments
import HostEngine.Proofs.Files
import HostEngine.Proofs.Session.SocketPath
import HostEngine.Proofs.Agreement
import HostEngine.Proofs.StandIn
import HostEngine.Proofs.Config.RoundTrip
import HostEngine.Proofs.Session.Instances
import HostEngine.Proofs.StandIn.Replies
import HostEngine.Proofs.Isolation
import HostEngine.Proofs.CommandLine.Overrides
import HostEngine.Proofs.Files.Growth
import HostEngine.Proofs.Lookup
import HostEngine.Proofs.Session.Programs
import HostEngine.Proofs.FoundProgram
import HostEngine.Proofs.Ensures
import HostEngine.Proofs.Processes.Jurisdiction
import HostEngine.Proofs.Warnings
import HostEngine.Proofs.Session.Warnings
import HostEngine.Proofs.Config.Sections
import HostEngine.Proofs.Native.VersionWord
import HostEngine.Proofs.Target
import HostEngine.Proofs.Target.Address
import HostEngine.Proofs.Text.Blank
import HostEngine.Proofs.Config.ModeNames
