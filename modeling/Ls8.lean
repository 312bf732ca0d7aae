import Ls8.Files.Tree
import Ls8.Machine.Operation
import Ls8.Main
import Ls8.Proofs.Effect
import Ls8.Proofs.Step
import Ls8.Proofs.Atomicity
import Ls8.Proofs.Termination
import Ls8.Proofs.Trail
import Ls8.Proofs.Ending
import Ls8.Proofs.MachineCode
import Ls8.Proofs.Stack
import Ls8.Proofs.StackArea
import Ls8.Proofs.Resumption
import Ls8.Proofs.LinearReading
import Ls8.Proofs.Lines
import Ls8.Proofs.ProgramText
import Ls8.Proofs.Course
import Ls8.Proofs.Account
import Ls8.Proofs.ControlFlow
import Ls8.Proofs.Frame
import Ls8.Proofs.History
import Ls8.Proofs.CodeText
import Ls8.Proofs.CodeListing
import Ls8.Proofs.RunState
import Ls8.Proofs.Tracing
import Ls8.Proofs.TraceLines
import Ls8.Proofs.CommandOutput
import Ls8.Proofs.ConfigDocument
import Ls8.Proofs.Decoding
import Ls8.Proofs.Faults
import Ls8.Proofs.Changes
import Ls8.Proofs.Reset
import Ls8.Proofs.Standstill
import Ls8.Proofs.ListingText
import Ls8.Proofs.ListingLayout
import Ls8.Proofs.ListingEnd
import Ls8.Proofs.Residues
import Ls8.Proofs.LastWriter
import Ls8.Proofs.TraceText
