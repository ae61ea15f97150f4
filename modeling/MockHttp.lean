import MockHttp.Concurrent
import MockHttp.EventLog
import MockHttp.Instruction.Draft
import MockHttp.Proofs.Control.Agreement
import MockHttp.Proofs.Control.RouteTable
import MockHttp.Proofs.Execution.LastWrites
import MockHttp.Proofs.Execution.Noninterference
import MockHttp.Session
import MockHttp.Proofs.Control.Listeners
import MockHttp.Proofs.Numeric.Rounding
import MockHttp.Proofs.Instruction.Arguments
import MockHttp.Proofs.Instruction.Denotation
import MockHttp.Proofs.Instruction.Precision
import MockHttp.Proofs.Template.Reference
import MockHttp.Proofs.Execution.Reference
import MockHttp.Proofs.Template.SinglePass
import MockHttp.Proofs.Execution.Erasure
import MockHttp.Proofs.Wire.Document
import MockHttp.Proofs.Control.Answers
import MockHttp.Proofs.Instruction.Range
import MockHttp.Proofs.Execution.Strict
import MockHttp.Proofs.Control.Independence
import MockHttp.Proofs.Concurrent.Requests
import MockHttp.Proofs.Concurrent.Sockets
import MockHttp.Proofs.Concurrent.Sequential
import MockHttp.Proofs.Control.Replay
import MockHttp.Proofs.Execution.Headers
import MockHttp.Proofs.Execution.Sampler
import MockHttp.Proofs.Condition.Integers
import MockHttp.Proofs.Condition.Structure
import MockHttp.Proofs.Json.Locations
import MockHttp.Proofs.Json.Composition
import MockHttp.Proofs.Execution.Conversion
import MockHttp.Proofs.Execution.WholeNumbers
import MockHttp.Proofs.Execution.Generators
import MockHttp.Proofs.Execution.Components
import MockHttp.Proofs.Execution.LateBody
import MockHttp.Proofs.Execution.Substring
import MockHttp.Proofs.Instruction.Readings
import MockHttp.Proofs.Control.Dialling
import MockHttp.Proofs.Execution.CopiedHeader
import MockHttp.Proofs.Json.NumberText
import MockHttp.Proofs.Json.FloatText
import MockHttp.Proofs.EventLog.Lines
import MockHttp.Proofs.Instruction.Unknown
import MockHttp.Proofs.Execution.ContentLength
