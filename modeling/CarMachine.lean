import CarMachine.Main
import CarMachine.Proofs.Command.Dump
import CarMachine.Proofs.CommandLine.Ending
import CarMachine.Proofs.Disassembly.Row
import CarMachine.Proofs.Effect.Replay
import CarMachine.Proofs.Engine.Arithmetic
import CarMachine.Proofs.Engine.Batch
import CarMachine.Proofs.Engine.Commutation
import CarMachine.Proofs.Engine.Deletion
import CarMachine.Proofs.Engine.Dispatch
import CarMachine.Proofs.Engine.Envelope
import CarMachine.Proofs.Engine.Idle
import CarMachine.Proofs.Engine.Transcript
import CarMachine.Proofs.Registers.Room
import CarMachine.Proofs.Table.Interruption
import CarMachine.Proofs.Template.Acceptance
