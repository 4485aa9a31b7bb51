import ArrayBridge.Kind
import ArrayBridge.Fault
import ArrayBridge.Text.Shortest
import ArrayBridge.Text.Blank
import ArrayBridge.Text.Integer
import ArrayBridge.Text.Quote
import ArrayBridge.Json.Value
import ArrayBridge.Json.Reader
import ArrayBridge.Json.Writer
import ArrayBridge.Config.Basic
import ArrayBridge.Config.Env
import ArrayBridge.Config.Json
import ArrayBridge.Log.Level
import ArrayBridge.Log.Entry
import ArrayBridge.Log.Logger
import ArrayBridge.Log.Console
import ArrayBridge.Mirror.Cells
import ArrayBridge.Mirror.Buffer
import ArrayBridge.Mirror.Table
import ArrayBridge.Mirror.CallStack
import ArrayBridge.Host
import ArrayBridge.Mirror.Codec
import ArrayBridge.Bridge.Basic
import ArrayBridge.Bridge.Lifecycle
import ArrayBridge.Bridge.Refs
import ArrayBridge.Heap.Basic
import ArrayBridge.Heap.Bench
import ArrayBridge.Jvm.Object
import ArrayBridge.Jvm.Event
import ArrayBridge.Jvm.Machine
import ArrayBridge.Jvm.Checked
import ArrayBridge.Jvm.Host
import ArrayBridge.Jvm.Binding
import ArrayBridge.Jvm.Process
import ArrayBridge.Request.Decode
import ArrayBridge.Request.Basic
import ArrayBridge.Request.Session.Step
import ArrayBridge.Request.Session.Run
import ArrayBridge.Request.Direct
import ArrayBridge.Request.Logging
import ArrayBridge.Request.Jvm.Step
import ArrayBridge.Request.Jvm.Logs
import ArrayBridge.Request.Jvm.Run
import ArrayBridge.Request.Answer
import ArrayBridge.Proofs.Table
import ArrayBridge.Proofs.Moves
import ArrayBridge.Proofs.Reachable
import ArrayBridge.Proofs.Frames
import ArrayBridge.Proofs.Unique
import ArrayBridge.Proofs.CacheHit
import ArrayBridge.Proofs.Ledger
import ArrayBridge.Proofs.Pins
import ArrayBridge.Proofs.EntrySteps
import ArrayBridge.Proofs.Loans
import ArrayBridge.Proofs.FrameExit
import ArrayBridge.Proofs.Shapes
import ArrayBridge.Proofs.Regions
import ArrayBridge.Proofs.RefCache
import ArrayBridge.Proofs.Refresh
import ArrayBridge.Proofs.CurrentFrame
import ArrayBridge.Proofs.Logical
import ArrayBridge.Proofs.Acquire
import ArrayBridge.Proofs.ConfigVariables
import ArrayBridge.Proofs.Scopes
import ArrayBridge.Proofs.Invalidate
import ArrayBridge.Proofs.Capacity
import ArrayBridge.Proofs.Lookup
