import Qe6502.Lib.Machine
import Qe6502.Lib.Fields
import Qe6502.Progress
import Qe6502.WriteBus
import Qe6502.FastPath
import Qe6502.TakenNmi
import Qe6502.EdgeServed
import Qe6502.Services
import Qe6502.LevelSampled
import Qe6502.Boundary
import Qe6502.Detection
import Qe6502.Snapshot
import Qe6502.NesTwin
import Qe6502.HostReset
import Qe6502.Beats
import Qe6502.Effective
import Qe6502.Sampling
import Qe6502.Decimal
import Qe6502.Jam
import Qe6502.Windows
import Qe6502.Combined
import Qe6502.Single
import Qe6502.Assembler
import Qe6502.Resolution
import Qe6502.Ordering
import Qe6502.Emit
import Qe6502.Branches
import Qe6502.Bootstrap
import Qe6502.Straight
import Qe6502.Entries
import Qe6502.Schedule
import Qe6502.Faithful
import Qe6502.Agree
import Qe6502.Interpreter
import Qe6502.Computes
import Qe6502.Interprets
import Qe6502.Durations
import Qe6502.Refines
import Qe6502.Precise
import Qe6502.Adapter
import Qe6502.Metadata
import Qe6502.Singlestep
import Qe6502.Summary
import Qe6502.Bindings
