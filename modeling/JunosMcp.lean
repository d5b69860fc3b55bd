import JunosMcp.Lib.Program
import JunosMcp.Lib.Await
import JunosMcp.Lib.Lending
import JunosMcp.Lib.Weave
import JunosMcp.Lib.Results
import JunosMcp.Lib.Hiding
import JunosMcp.Lib.JoinSet
import JunosMcp.Text
import JunosMcp.Errors
import JunosMcp.Scope
import JunosMcp.Helpers
import JunosMcp.Policy
import JunosMcp.PolicyIsolation
import JunosMcp.Output
import JunosMcp.CandidateTransaction
import JunosMcp.CandidateLifecycle
import JunosMcp.Session.Calls
import JunosMcp.Session.PooledDevice
import JunosMcp.JunosTransaction
import JunosMcp.CommitReports
import JunosMcp.Session.Device
import JunosMcp.Session.System
import JunosMcp.Session.Rules
import JunosMcp.Session.Contract
import JunosMcp.Session.PoolSafety
import JunosMcp.Session.DiscardSafety
import JunosMcp.Commands
import JunosMcp.CommandTools
import JunosMcp.Session.Outstanding
import JunosMcp.Session.Staging
import JunosMcp.Session.Confirming
import JunosMcp.DeviceManager
import JunosMcp.Upgrade.Duration
import JunosMcp.Upgrade.Preflight
import JunosMcp.ChangeSet.Truthful
import JunosMcp.ChangeSet.ConfirmTiming
import JunosMcp.ChangeSet.Listing
import JunosMcp.PlaneOwned
import JunosMcp.SessionPool
import JunosMcp.DirectWindows
import JunosMcp.Upgrade.OpenWindows
import JunosMcp.Lib.Serving
import JunosMcp.ChangeSet.Review
import JunosMcp.ChangeSet.Coordinator
import JunosMcp.CandidateTools
import JunosMcp.Server
import JunosMcp.DirectCommitGate
import JunosMcp.DeviceTransactions
import JunosMcp.GatedServer
import JunosMcp.ReviewedCommits
import JunosMcp.DenyRules
import JunosMcp.ChangeSet.Recovery
import JunosMcp.ChangeSet.CommitComment
import JunosMcp.BatchRun
import JunosMcp.CleanupTaint
import JunosMcp.TemplateCommits
import JunosMcp.Lib.Concurrent
import JunosMcp.Transfer.Checks
import JunosMcp.Transfer.Files
import JunosMcp.Transfer.Handlers
import JunosMcp.Transfer.Fetch
import JunosMcp.Transfer.FetchIntegrity
import JunosMcp.Transfer.Upload
import JunosMcp.Upgrade.VerifiedImage
import JunosMcp.Upgrade.InstalledImage
import JunosMcp.Json
import JunosMcp.Srx.Errors
import JunosMcp.Srx.Confirmation
import JunosMcp.Srx.ConfirmationProtocol
import JunosMcp.Srx.PackagePlan
import JunosMcp.Srx.PlanDrift
import JunosMcp.Lib.XmlTree
import JunosMcp.Srx.Xml
import JunosMcp.Srx.ClusterStatus
import JunosMcp.Srx.ClusterTopology
import JunosMcp.IpAddr
import JunosMcp.Srx.Device
import JunosMcp.Srx.FlowSessions
import JunosMcp.Srx.FlowExposure
import JunosMcp.Srx.ClusterHealth
import JunosMcp.Srx.ClusterVerdict
import JunosMcp.Srx.License
import JunosMcp.Srx.PackageReplies
import JunosMcp.Srx.PackageWorkflow
import JunosMcp.Srx.PackageExecution
import JunosMcp.Srx.PackageVerification
import JunosMcp.Lib.Markup
import JunosMcp.Srx.Sanitize
import JunosMcp.Lib.Nesting
import JunosMcp.Srx.Resolve
import JunosMcp.Lib.FirstSeen
import JunosMcp.Srx.Fields
import JunosMcp.Srx.PolicyList
import JunosMcp.Srx.PolicyLoss
import JunosMcp.Srx.Configuration
import JunosMcp.Srx.NatRules
import JunosMcp.Srx.NatHitCounts
import JunosMcp.Srx.ServicesStatus
import JunosMcp.Srx.ServicesAttribution
import JunosMcp.Srx.VpnLifecycle
import JunosMcp.Srx.VpnAssociations
import JunosMcp.Srx.ResolveApplication
import JunosMcp.Srx.ApplicationPrecedence
import JunosMcp.Srx.ResolveAddress
import JunosMcp.Srx.Deactivation
import JunosMcp.Srx.SupportBundle
import JunosMcp.Srx.BundleManifest
import JunosMcp.PolicyVersions
import JunosMcp.InventoryStores
import JunosMcp.DeviceSelectors
import JunosMcp.SelectorAgreement
import JunosMcp.OutputCaps
import JunosMcp.Srx.SessionTotal
import JunosMcp.Srx.PolicyMatch
import JunosMcp.JsonMask
import JunosMcp.Redaction
import JunosMcp.Srx.NatCompleteness
import JunosMcp.Lib.DottedQuad
import JunosMcp.Transfer.ScrubStderr
import JunosMcp.Lib.Gaps
import JunosMcp.CandidateText
import JunosMcp.FingerprintStability
import JunosMcp.FingerprintSensitivity
import JunosMcp.Lib.Quoting
import JunosMcp.PipeStages
import JunosMcp.Upgrade.WaitForVersion
import JunosMcp.CommandRetry
import JunosMcp.Lib.Words
import JunosMcp.StagedFiles
import JunosMcp.Srx.PackagePolling
import JunosMcp.JsonSchema
import JunosMcp.SchemaAlias
import JunosMcp.AliasEquivalence
import JunosMcp.Srx.BundleStaging
import JunosMcp.Srx.StagingOwnership
import JunosMcp.Srx.StagingCleanup
import JunosMcp.InventoryFile
import JunosMcp.InventoryUpdates
import JunosMcp.InventoryRuns
import JunosMcp.InventoryPact
import JunosMcp.InventoryHash
import JunosMcp.InventoryAtomicity
import JunosMcp.Lib.XmlReader
import JunosMcp.Lib.XmlWriter
import JunosMcp.Srx.SplitRoundTrip
import JunosMcp.ChangeSet.StatusVerdict
import JunosMcp.Upgrade.Outcome
import JunosMcp.Srx.RpcArguments
import JunosMcp.GetConfig
import JunosMcp.Confinement
import JunosMcp.BatchTraces
import JunosMcp.Lib.Ledger
import JunosMcp.Srx.PackageCalls
