import NetSentinel.FlowTracker.Eviction
import NetSentinel.FlowTracker.Refinement
import NetSentinel.FlowTracker.NonInterference
import NetSentinel.Library.TransitionSystem
import NetSentinel.Workers.Schedule
import NetSentinel.Workers.ScanOrder
import NetSentinel.Workers.HandshakeOrder
import NetSentinel.Library.Family
import NetSentinel.Library.BoundedFifo
import NetSentinel.Queue.PacketQueue
import NetSentinel.Queue.Threads
import NetSentinel.Queue.Fifo
import NetSentinel.Queue.WorkerPool
import NetSentinel.Queue.Notifications
import NetSentinel.Queue.Wakeups
import NetSentinel.Capture.Loop
import NetSentinel.Queue.Custody
import NetSentinel.Pipeline.System
import NetSentinel.Pipeline.Conservation
import NetSentinel.Queue.Backpressure
import NetSentinel.Analysis.AnalysisEngine
import NetSentinel.Analysis.Fallback
import NetSentinel.Analysis.Batching
import NetSentinel.Analysis.Workers
import NetSentinel.FlowTracker.Debounce
import NetSentinel.Workers.ScanCaught
import NetSentinel.Capture.Layout
import NetSentinel.Capture.Safety
import NetSentinel.Capture.Truncation
import NetSentinel.Capture.Encoding
import NetSentinel.Gpu.Kernel
import NetSentinel.Gpu.Loops
import NetSentinel.Gpu.KernelEntropy
import NetSentinel.Gpu.BufferLeases
import NetSentinel.Gpu.BufferOwnership
import NetSentinel.Capture.Trailer
import NetSentinel.Capture.Fragments
import NetSentinel.Gpu.BatchPacking
import NetSentinel.Capture.StopRequest
import NetSentinel.Pipeline.Counters
import NetSentinel.Library.ShannonEntropy
import NetSentinel.Analysis.EntropyBounds
import NetSentinel.Analysis.SignatureEdits
import NetSentinel.Library.Strto
import NetSentinel.Main.Options
import NetSentinel.Main.Accepted
import NetSentinel.Analysis.Linearized
import NetSentinel.Library.LockedLog
import NetSentinel.Main.Output
import NetSentinel.Main.Program
import NetSentinel.Main.Summary
import NetSentinel.Main.Termination
import NetSentinel.Analysis.Termination
import NetSentinel.Library.Termination
import NetSentinel.Queue.Draining
import NetSentinel.Gpu.Grid
import NetSentinel.Pipeline.Batches
import NetSentinel.Analysis.OnCpu
import NetSentinel.Main.Backends
import NetSentinel.Gpu.EntropyBackend
import NetSentinel.Capture.FrameParse
import NetSentinel.Main.GpuBackend
import NetSentinel.Analysis.FallbackCount
import NetSentinel.Main.Fallbacks
import NetSentinel.Analysis.SingleWorker
import NetSentinel.Queue.SingleWorker
import NetSentinel.Main.SingleWorker
import NetSentinel.Library.DelimitedText
import NetSentinel.Main.AlertText
import NetSentinel.Analysis.RuleAlerts
import NetSentinel.Main.Lines
import NetSentinel.FlowTracker.Locking
import NetSentinel.Analysis.Locking
import NetSentinel.Main.Locking
import NetSentinel.Main.Captures
import NetSentinel.Main.Process
import NetSentinel.Main.ReadBack
import NetSentinel.Main.FlowAlerts
import NetSentinel.Main.Observations
