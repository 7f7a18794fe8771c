import LS8.Main
import LS8.Proofs.Action
import LS8.Proofs.Stack
import LS8.Proofs.Interrupt
import LS8.Proofs.Transparency
import LS8.Proofs.Execute
import LS8.Proofs.Tick
import LS8.Proofs.FaultPrecedence
import LS8.Proofs.Reached
import LS8.Proofs.Resumption
import LS8.Proofs.InstructionTable
import LS8.Proofs.Atomicity
import LS8.Proofs.Lockstep
import LS8.Proofs.Run
import LS8.Proofs.MemorySize
import LS8.Proofs.TickLimit
import LS8.Proofs.StraightLine
import LS8.Proofs.Checked
import LS8.Proofs.History
import LS8.Proofs.AddressSpace
import LS8.Proofs.Nesting
import LS8.Proofs.Drain
import LS8.Proofs.Accounting
import LS8.Proofs.Transcript
import LS8.Proofs.Observation
import LS8.Proofs.FlagExclusion
import LS8.Proofs.Exit
import LS8.Proofs.Journal
import LS8.Proofs.MemoryJournal
import LS8.Proofs.Listing
import LS8.Proofs.TraceListing
import LS8.Proofs.ProgramText
import LS8.Proofs.Dispatch
import LS8.Proofs.BrokenReturn
import LS8.Proofs.JsonText
import LS8.Proofs.ConfigText
import LS8.Proofs.CommandLine
import LS8.Proofs.Lifo
import LS8.Proofs.Encoding
import LS8.Proofs.Disassembly
import LS8.Proofs.StateReport
import LS8.Proofs.LineNumeral
import LS8.Proofs.Filling
