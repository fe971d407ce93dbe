import TokenLens.Chain.Walk
import TokenLens.Command.Run
import TokenLens.Json.Writer
import TokenLens.Main
import TokenLens.Node.Session
import TokenLens.Service.App
import TokenLens.Settings
import TokenLens.Standard.Bundled
import TokenLens.Standard.Files
import TokenLens.Proofs.Abi.Acceptance
import TokenLens.Proofs.Abi.Canonical
import TokenLens.Proofs.Abi.Compatibility
import TokenLens.Proofs.Abi.Hashing
import TokenLens.Proofs.Abi.Refusal
import TokenLens.Proofs.Abi.Selector
import TokenLens.Proofs.Abi.Union
import TokenLens.Proofs.Chain.Bounds
import TokenLens.Proofs.Chain.Budget
import TokenLens.Proofs.Chain.Exactness
import TokenLens.Proofs.Chain.Extension
import TokenLens.Proofs.Chain.Forgiveness
import TokenLens.Proofs.Chain.Invariant
import TokenLens.Proofs.Chain.Judgement
import TokenLens.Proofs.Chain.Operations
import TokenLens.Proofs.Chain.Stopping
import TokenLens.Proofs.Chain.Turn
import TokenLens.Proofs.Chain.Union
import TokenLens.Proofs.Command.Endings
import TokenLens.Proofs.Command.NodeBound
import TokenLens.Proofs.Evm.Boundaries
import TokenLens.Proofs.Evm.Presentation
import TokenLens.Proofs.Evm.Sweep
import TokenLens.Proofs.Hex
import TokenLens.Proofs.Json.Nesting
import TokenLens.Proofs.Json.Objects
import TokenLens.Proofs.Json.Texts
import TokenLens.Proofs.Keyed
import TokenLens.Proofs.Node.Caching
import TokenLens.Proofs.Node.Course
import TokenLens.Proofs.Node.Evaluation
import TokenLens.Proofs.Node.Forgiving
import TokenLens.Proofs.Node.Lookup
import TokenLens.Proofs.Node.Pool
import TokenLens.Proofs.Node.Recency
import TokenLens.Proofs.Node.Reply
import TokenLens.Proofs.Node.Sending
import TokenLens.Proofs.Node.Transparency
import TokenLens.Proofs.Number.HexNumeral
import TokenLens.Proofs.Number.Monotone
import TokenLens.Proofs.Number.Numeral
import TokenLens.Proofs.Number.Rounding
import TokenLens.Proofs.Number.Separation
import TokenLens.Proofs.Number.Written
import TokenLens.Proofs.Proxy.Address
import TokenLens.Proofs.Proxy.Agreement
import TokenLens.Proofs.Proxy.Answers
import TokenLens.Proofs.Proxy.Appending
import TokenLens.Proofs.Proxy.Courses
import TokenLens.Proofs.Proxy.Decoding
import TokenLens.Proofs.Proxy.Gather
import TokenLens.Proofs.Proxy.Literal
import TokenLens.Proofs.Proxy.Probe
import TokenLens.Proofs.Proxy.Race
import TokenLens.Proofs.Proxy.Search
import TokenLens.Proofs.Proxy.Skipping
import TokenLens.Proofs.Proxy.Status
import TokenLens.Proofs.Proxy.Target
import TokenLens.Proofs.Service.Classification
import TokenLens.Proofs.Service.Lines
import TokenLens.Proofs.Service.Logbook
import TokenLens.Proofs.Service.Report
import TokenLens.Proofs.Service.Responses
import TokenLens.Proofs.Service.Sessions
import TokenLens.Proofs.Service.Statistics
import TokenLens.Proofs.Service.Telling
import TokenLens.Proofs.Standard.Acceptance
import TokenLens.Proofs.Standard.Descriptions
import TokenLens.Proofs.Standard.Lookup
import TokenLens.Proofs.Standard.Names
import TokenLens.Proofs.Steps
import TokenLens.Proofs.Text.Blank
import TokenLens.Proofs.Text.Occurrence
import TokenLens.Proofs.Text.SmallDigits
import TokenLens.Proofs.Verdict.Consistency
import TokenLens.Proofs.Verdict.Evidence
import TokenLens.Proofs.Verdict.ExactShare
import TokenLens.Proofs.Verdict.Gate
import TokenLens.Proofs.Verdict.Presence
import TokenLens.Proofs.Verdict.Respelling
import TokenLens.Proofs.Verdict.Safety
import TokenLens.Proofs.Verdict.Share
import TokenLens.Proofs.Verdict.Unambiguous
import TokenLens.Proofs.Verdict.Winner
