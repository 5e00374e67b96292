import WasmerSectest.Lib.LittleEndian
import WasmerSectest.Lib.Decimal
import WasmerSectest.Lib.Text
import WasmerSectest.Lib.Escape
import WasmerSectest.Lib.Utf8
import WasmerSectest.Lib.Machine
import WasmerSectest.Telemetry
import WasmerSectest.Abi
import WasmerSectest.Memory
import WasmerSectest.MemoryBoundary
import WasmerSectest.Policy
import WasmerSectest.HostImports
import WasmerSectest.FuelContract
import WasmerSectest.ImportDecisions
import WasmerSectest.Config
import WasmerSectest.Guests
import WasmerSectest.RunCase
import WasmerSectest.Evidence
import WasmerSectest.Supervisor
import WasmerSectest.WorkerProtocol
import WasmerSectest.Corpus
import WasmerSectest.Main
import WasmerSectest.Lib.Returns
import WasmerSectest.WorkerSelection
import WasmerSectest.AsyncRunner
import WasmerSectest.AsyncCollection
import WasmerSectest.HoneypotSocket
import WasmerSectest.SocketEvidence
import WasmerSectest.SocketReadiness
import WasmerSectest.ImportFrames
import WasmerSectest.MemoryLimit
import WasmerSectest.SocketStream
import WasmerSectest.SocketWakeup
import WasmerSectest.FailClosed
import WasmerSectest.HoneypotFileSystem
import WasmerSectest.DecoyPaths
import WasmerSectest.NetworkHoneypot
import WasmerSectest.NetworkLog
import WasmerSectest.Lib.Json.Grammar
import WasmerSectest.Lib.Json.Written
import WasmerSectest.Report
import WasmerSectest.JsonEvidence
import WasmerSectest.SarifReport
import WasmerSectest.Lib.Writes
import WasmerSectest.SessionStore
import WasmerSectest.RecordedSessions
import WasmerSectest.AuditGates
import WasmerSectest.PacketIntegrity
import WasmerSectest.ImportVerdicts
import WasmerSectest.Lib.Segments
import WasmerSectest.PathAliases
import WasmerSectest.PeekedReads
import WasmerSectest.RequestCapture
import WasmerSectest.DomainAttribution
import WasmerSectest.Aggregates
import WasmerSectest.Lib.Quoted
import WasmerSectest.ManifestPaths
import WasmerSectest.QuotedStrings
import WasmerSectest.SessionHistory
import WasmerSectest.PolicyGrants
import WasmerSectest.PolicyRendering
import WasmerSectest.CorpusLoading
import WasmerSectest.EmitWasm
import WasmerSectest.RuleIds
import WasmerSectest.Lib.TextLength
import WasmerSectest.ReportLine
import WasmerSectest.EphemeralPorts
import WasmerSectest.ResolverMap
import WasmerSectest.VerdictNames
import WasmerSectest.PlainReports
import WasmerSectest.Lib.Alphabet
import WasmerSectest.LogLines
import WasmerSectest.Lib.Markdown
import WasmerSectest.VerdictTable
import WasmerSectest.Lib.Wasm
import WasmerSectest.ProgramExecution
import WasmerSectest.ImportCodes
import WasmerSectest.GuestLoops
import WasmerSectest.GuestProbes
import WasmerSectest.BuiltinVerdicts
import WasmerSectest.MockedFetch
import WasmerSectest.GuestTermination
import WasmerSectest.ProcessIsolation
