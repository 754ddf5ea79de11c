import DocAudit.Host.Shell.Run
import DocAudit.Main
import DocAudit.Proofs.Command.Cache
import DocAudit.Proofs.Validator.InProcess
import DocAudit.Proofs.Validator.Result
import DocAudit.Proofs.Runner.Abort
import DocAudit.Proofs.Runner.Independence
import DocAudit.Proofs.Pattern.State
import DocAudit.Proofs.Pattern.Backtrack
import DocAudit.Proofs.Output.Block
import DocAudit.Proofs.Text.ReadBack
import DocAudit.Proofs.Builtin.TagOrder
import DocAudit.Proofs.Command.SingleFlight
import DocAudit.Proofs.Command.History
import DocAudit.Proofs.Runner.Repeat
import DocAudit.Proofs.Builtin.Undocumented
import DocAudit.Proofs.Runner.Coverage
import DocAudit.Proofs.Pattern.Leftmost
import DocAudit.Proofs.Builtin.YardWarning
import DocAudit.Proofs.Output.BlockStart
import DocAudit.Proofs.Command.HashInput
import DocAudit.Proofs.Json.ReadBack
import DocAudit.Proofs.Json.Decode
import DocAudit.Proofs.Registry.Codec
import DocAudit.Proofs.Output.Pair
import DocAudit.Proofs.Builtin.TagRank
import DocAudit.Proofs.Builtin.TagRepair
import DocAudit.Proofs.Pattern.Lazy
import DocAudit.Proofs.Builtin.ReportLine
import DocAudit.Proofs.Validator.Registration
import DocAudit.Proofs.Path.Segments
import DocAudit.Proofs.Registry.Selection
import DocAudit.Proofs.Registry.LeadingDot
import DocAudit.Proofs.Registry.Lookup
import DocAudit.Proofs.Report.ExitCode
import DocAudit.Proofs.Builtin.SharedInvocation
import DocAudit.Proofs.Runner.SkipLog
import DocAudit.Proofs.Path.Order
import DocAudit.Proofs.Files.Canonical
import DocAudit.Proofs.Collector.Lines
import DocAudit.Proofs.Builtin.Exclusion
import DocAudit.Proofs.Command.Fingerprint
