import Gelf.Context.Program
import Gelf.Environment
import Gelf.Fault.Made
import Gelf.Handler.Operation
import Gelf.LogConfig
import Gelf.Reporters
import Gelf.Proofs.Passage
import Gelf.Proofs.Errands
import Gelf.Proofs.Transport
import Gelf.Proofs.History
import Gelf.Proofs.Run
import Gelf.Proofs.Fresh
import Gelf.Proofs.Accounting
import Gelf.Proofs.Raising
import Gelf.Proofs.Percent
import Gelf.Proofs.Lifecycle
import Gelf.Proofs.Strict
import Gelf.Proofs.Network
import Gelf.Proofs.Finality
import Gelf.Proofs.Sockets
import Gelf.Proofs.Opening
import Gelf.Proofs.Coupling
import Gelf.Proofs.Reassembly
import Gelf.Proofs.Ascii
import Gelf.Proofs.Stream
import Gelf.Proofs.Conversion
import Gelf.Proofs.Precheck
import Gelf.Proofs.Degrading
import Gelf.Proofs.Reentrance
import Gelf.Proofs.JsonReader
import Gelf.Proofs.Numeral
import Gelf.Proofs.Finite
import Gelf.Proofs.RoundTrip
import Gelf.Proofs.Blocks
import Gelf.Proofs.WellFormed
import Gelf.Proofs.Building
import Gelf.Proofs.Outlet
import Gelf.Proofs.Independence
import Gelf.Proofs.FieldNames
import Gelf.Proofs.Closing
import Gelf.Proofs.Datagrams
import Gelf.Proofs.Grammar
import Gelf.Proofs.StackTraces
import Gelf.Proofs.Substitution
import Gelf.Proofs.HostLookup
import Gelf.Proofs.Precedence
import Gelf.Proofs.StaticFields
import Gelf.Proofs.LevelNames
import Gelf.Proofs.Layers
import Gelf.Proofs.Readings
import Gelf.Proofs.ClassPaths
import Gelf.Proofs.Rows
import Gelf.Proofs.ConsoleLine
