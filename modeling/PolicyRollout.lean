import PolicyRollout.Cli.Arguments
import PolicyRollout.Cli.Deploy
import PolicyRollout.Cli.Dialogue
import PolicyRollout.Cli.Failure
import PolicyRollout.Cli.Filter
import PolicyRollout.Cli.Help
import PolicyRollout.Cli.Program
import PolicyRollout.Cli.Templates
import PolicyRollout.Deployment.Options
import PolicyRollout.Deployment.Rehearsal
import PolicyRollout.Deployment.Report
import PolicyRollout.Deployment.Rollout
import PolicyRollout.Deployment.Timeline
import PolicyRollout.Deployment.Window
import PolicyRollout.Document.Complaint
import PolicyRollout.Document.Decoder
import PolicyRollout.Document.Node
import PolicyRollout.Document.Record
import PolicyRollout.Files.Tree
import PolicyRollout.Http.Authority
import PolicyRollout.Http.Client
import PolicyRollout.Http.Form
import PolicyRollout.Http.Message
import PolicyRollout.Http.Percent
import PolicyRollout.Http.Url
import PolicyRollout.Http.Wire
import PolicyRollout.Json.Numeral
import PolicyRollout.Json.Reader
import PolicyRollout.Json.Value
import PolicyRollout.Json.Writer
import PolicyRollout.Main
import PolicyRollout.Network.Address
import PolicyRollout.Network.Cidr
import PolicyRollout.Number.Basic
import PolicyRollout.Number.Shortest
import PolicyRollout.Plan.Basic
import PolicyRollout.Plan.Directory
import PolicyRollout.Plan.Variables
import PolicyRollout.Platform.Call
import PolicyRollout.Platform.Creation
import PolicyRollout.Platform.Error
import PolicyRollout.Platform.Template
import PolicyRollout.Platform.Verdict
import PolicyRollout.Proofs.Cli.EffectiveOptions
import PolicyRollout.Proofs.Cli.FailureDiscipline
import PolicyRollout.Proofs.Cli.TokenSecrecy
import PolicyRollout.Proofs.Deployment.Accounting
import PolicyRollout.Proofs.Deployment.Consultation
import PolicyRollout.Proofs.Deployment.DryRun
import PolicyRollout.Proofs.Deployment.EventAccounts
import PolicyRollout.Proofs.Deployment.Gating
import PolicyRollout.Proofs.Deployment.Parallel
import PolicyRollout.Proofs.Deployment.PlanAgreement
import PolicyRollout.Proofs.Deployment.Preflight
import PolicyRollout.Proofs.Deployment.Regrouped
import PolicyRollout.Proofs.Deployment.RequiredTemplates
import PolicyRollout.Proofs.Deployment.ScheduleIndependence
import PolicyRollout.Proofs.Deployment.ServiceErrors
import PolicyRollout.Proofs.Deployment.WindowDiscipline
import PolicyRollout.Proofs.Document.Conveyed
import PolicyRollout.Proofs.Document.Kept
import PolicyRollout.Proofs.Document.Members
import PolicyRollout.Proofs.Document.Origins
import PolicyRollout.Proofs.Http.Answers
import PolicyRollout.Proofs.Http.Bodies
import PolicyRollout.Proofs.Http.Queries
import PolicyRollout.Proofs.Json.Arranged
import PolicyRollout.Proofs.Json.Layout
import PolicyRollout.Proofs.Json.RoundTrip
import PolicyRollout.Proofs.Plan.Networks
import PolicyRollout.Proofs.Plan.Resolution
import PolicyRollout.Proofs.Plan.Verbatim
import PolicyRollout.Proofs.Platform.CreationRoundTrip
import PolicyRollout.Proofs.Platform.TemplateRoundTrip
import PolicyRollout.Proofs.Platform.VerdictForms
import PolicyRollout.Proofs.Settings.Loading
import PolicyRollout.Proofs.Topology.EngineNames
import PolicyRollout.Proofs.Topology.FirstViolation
import PolicyRollout.Proofs.Topology.RoundTrip
import PolicyRollout.Proofs.Topology.TierShape
import PolicyRollout.Settings
import PolicyRollout.Text.Basic
import PolicyRollout.Text.Instant
import PolicyRollout.Text.Lowercase
import PolicyRollout.Text.Printable
import PolicyRollout.Text.Quoted
import PolicyRollout.Text.Utf8
import PolicyRollout.Topology.Basic
import PolicyRollout.Topology.Engine
import PolicyRollout.Topology.Format
import PolicyRollout.Topology.Load
import PolicyRollout.Topology.Reference
import PolicyRollout.Topology.Validation
import PolicyRollout.Yaml.Block
import PolicyRollout.Yaml.Cursor
import PolicyRollout.Yaml.Lexer
import PolicyRollout.Yaml.Plain
import PolicyRollout.Yaml.Quoted
import PolicyRollout.Yaml.Reader
import PolicyRollout.Yaml.Scalar
import PolicyRollout.Yaml.Tag
import PolicyRollout.Yaml.Token
