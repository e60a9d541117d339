import Perfmon.Word
import Perfmon.LittleEndian
import Perfmon.Text.Hex
import Perfmon.Assoc
import Perfmon.Handle
import Perfmon.Scope
import Perfmon.Resource
import Perfmon.RegOp
import Perfmon.RegOp.Record
import Perfmon.Request
import Perfmon.Request.Args
import Perfmon.Error
import Perfmon.Reservation.Table
import Perfmon.ContextRegistry
import Perfmon.Power
import Perfmon.Window
import Perfmon.Device.Op
import Perfmon.Device.Registers
import Perfmon.Device
import Perfmon.OpsBuffer
import Perfmon.Staging
import Perfmon.Executor
import Perfmon.Session
import Perfmon.Audit
import Perfmon.Metrics
import Perfmon.Text.Number
import Perfmon.Config
import Perfmon.Engine
import Perfmon.Batch
import Perfmon.Engine.Execute
import Perfmon.Engine.Control
import Perfmon.Engine.Call
import Perfmon.Json
import Perfmon.Json.Token
import Perfmon.Json.Reader
import Perfmon.Json.Writer
import Perfmon.Json.Decode
import Perfmon.Text.Blank
import Perfmon.RegOp.Json
import Perfmon.Script
import Perfmon.Script.Number
import Perfmon.Script.Decode
import Perfmon.Decimal
import Perfmon.Toml
import Perfmon.Toml.Scalar
import Perfmon.Toml.Token
import Perfmon.Toml.Table
import Perfmon.Toml.Reader
import Perfmon.Cause
import Perfmon.Config.Decode
import Perfmon.Config.Load
import Perfmon.Session.Json
import Perfmon.Console
import Perfmon.Replay
import Perfmon.Replay.Report
import Perfmon.Stress
import Perfmon.Stress.Report
import Perfmon.CommandLine
import Perfmon.Command
import Perfmon.Main
import Perfmon.Proofs.Runs
import Perfmon.Proofs.Holders
import Perfmon.Proofs.Changes
import Perfmon.Proofs.Settled
import Perfmon.Proofs.Batches
import Perfmon.Proofs.Ledger
import Perfmon.Proofs.Bookkeeping
import Perfmon.Proofs.Arbitration
import Perfmon.Proofs.ExecGate
import Perfmon.Proofs.InPlace
import Perfmon.Proofs.Interpreter
import Perfmon.Proofs.Windowing
import Perfmon.Proofs.Endings
import Perfmon.Proofs.AllOrNone
import Perfmon.Proofs.TransferFaults
import Perfmon.Proofs.Interchange
import Perfmon.Proofs.Channel
import Perfmon.Proofs.Calls
import Perfmon.Proofs.Refusals
import Perfmon.Proofs.Isolation
import Perfmon.Proofs.Closing
import Perfmon.Proofs.Images
import Perfmon.Proofs.Noninterference
import Perfmon.Proofs.Granting
import Perfmon.Proofs.WrittenBack
import Perfmon.Proofs.AccessClasses
import Perfmon.Proofs.Classification
import Perfmon.Proofs.PowerBalance
import Perfmon.Proofs.Entries
import Perfmon.Proofs.AuditTrail
import Perfmon.Proofs.FixedModes
import Perfmon.Proofs.LegalModes
import Perfmon.Proofs.DeadContexts
import Perfmon.Proofs.Attendance
import Perfmon.Proofs.Handles
import Perfmon.Proofs.Vacancy
import Perfmon.Proofs.Replays
import Perfmon.Proofs.Names
import Perfmon.Proofs.Rounds
import Perfmon.Proofs.Racing
import Perfmon.Proofs.TableHistory
import Perfmon.Proofs.ArgumentMemory
import Perfmon.Proofs.RequestWords
import Perfmon.Proofs.Tallies
import Perfmon.Proofs.Reports
import Perfmon.Proofs.ShareOut
import Perfmon.Proofs.Accounts
import Perfmon.Proofs.ResultsOnly
import Perfmon.Proofs.Undoing
import Perfmon.Proofs.OpenWindows
import Perfmon.Proofs.RecordBytes
import Perfmon.Proofs.ArgumentBlocks
import Perfmon.Proofs.Conversion
import Perfmon.Proofs.RequestCodes
import Perfmon.Proofs.WrittenNumbers
import Perfmon.Proofs.Verdicts
