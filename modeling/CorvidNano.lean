import CorvidNano.Library.Runs
import CorvidNano.Host.Drain
import CorvidNano.Host.Executions
import CorvidNano.Host.Lifecycle
import CorvidNano.Bridge.Client
import CorvidNano.Host.LinearMemory
import CorvidNano.Library.Json
import CorvidNano.Sdk.Manifest
import CorvidNano.Host.Response
import CorvidNano.Library.Text
import CorvidNano.Bridge.Outcome
import CorvidNano.Library.Url
import CorvidNano.Library.InternetAddress
import CorvidNano.Host.Ssrf
import CorvidNano.Host.SsrfSpelling
import CorvidNano.Host.Http
import CorvidNano.Host.Sandbox
import CorvidNano.Library.FreshKeys
import CorvidNano.Host.Linking
import CorvidNano.Host.Signature
import CorvidNano.Host.Loader
import CorvidNano.Host.Invoke
import CorvidNano.Host.Registry
import CorvidNano.Agent.HubClient
import CorvidNano.Library.Utf8
import CorvidNano.Agent.MessageLoop
import CorvidNano.Agent.PingPong
import CorvidNano.A2a.TaskStore
import CorvidNano.A2a.Lifecycle
import CorvidNano.A2a.Request
import CorvidNano.A2a.Server
import CorvidNano.Runtime.Event
import CorvidNano.Runtime.Loop
import CorvidNano.Runtime.Channel
import CorvidNano.Runtime.Dispatch
import CorvidNano.Runtime.Isolation
import CorvidNano.Library.Chains
import CorvidNano.Library.Table
import CorvidNano.Agent.MessageCache
import CorvidNano.Library.LastWrite
import CorvidNano.Agent.PskKeys
import CorvidNano.Library.Base64
import CorvidNano.Bridge.ToolInput
import CorvidNano.Host.Dependencies
import CorvidNano.Cli.Validate
import CorvidNano.Bridge.PluginList
import CorvidNano.Library.BitGroups
import CorvidNano.Library.MessagePack
import CorvidNano.Agent.Wordlist
import CorvidNano.Agent.Address
import CorvidNano.Agent.Mnemonic
import CorvidNano.Agent.Transaction
import CorvidNano.Library.Batch
import CorvidNano.Agent.Contacts
import CorvidNano.Agent.Groups
import CorvidNano.Agent.FailedImports
import CorvidNano.Agent.GroupMerge
import CorvidNano.Library.Lines
import CorvidNano.Host.WasmMem
import CorvidNano.Host.Storage
import CorvidNano.Plugins.KeyValue
import CorvidNano.Host.RequestLoop
import CorvidNano.Agent.KeystoreFile
import CorvidNano.Agent.Identity
import CorvidNano.Server.Tools
import CorvidNano.Server.PendingCalls
import CorvidNano.Server.Sockets
import CorvidNano.Server.RustBridge
import CorvidNano.Server.Accounting
import CorvidNano.Server.Microtasks
import CorvidNano.Server.Connections
import CorvidNano.Server.Disconnect
import CorvidNano.Server.Reassembly
import CorvidNano.Server.ToolRefresh
import CorvidNano.Library.Schedule
import CorvidNano.Host.TopologicalOrder
import CorvidNano.Library.Access
import CorvidNano.Host.PointerSafety
import CorvidNano.Host.Framing
import CorvidNano.Host.Events
import CorvidNano.Library.Sql
import CorvidNano.Host.SelectOnly
import CorvidNano.A2a.Parsing
import CorvidNano.A2a.Segments
import CorvidNano.Library.Fallible
import CorvidNano.Cli.Install
import CorvidNano.Library.Precedence
import CorvidNano.Agent.ConfigFile
import CorvidNano.Agent.Configuration
import CorvidNano.Library.Tally
import CorvidNano.Library.Paging
import CorvidNano.Agent.Indexer
import CorvidNano.Agent.Discovery
import CorvidNano.Library.Base32
import CorvidNano.Agent.Wallet
import CorvidNano.Agent.Startup
import CorvidNano.Agent.ContactMerge
import CorvidNano.Agent.KeystoreParameters
import CorvidNano.Agent.Sidecar
import CorvidNano.Library.Backoff
import CorvidNano.Host.TrustedKeys
import CorvidNano.Server.Routes
import CorvidNano.Cli.Uninstall
import CorvidNano.Library.Stepwise
import CorvidNano.Library.Transcript
import CorvidNano.Plugins.LlmPersonality
import CorvidNano.Host.MemoryGrowth
import CorvidNano.Library.Unsigned
import CorvidNano.Agent.Truncation
import CorvidNano.Sdk.Attributes
import CorvidNano.Agent.PskText
import CorvidNano.Library.FileTree
import CorvidNano.Host.ProjectFiles
import CorvidNano.Host.HostCalls
import CorvidNano.Plugins.Personality
import CorvidNano.Runtime.Replies
import CorvidNano.Agent.Mcp
import CorvidNano.Agent.WalletCommands
import CorvidNano.Host.PluginFiles
import CorvidNano.Plugins.CodingCompanion
