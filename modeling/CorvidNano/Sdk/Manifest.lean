import CorvidNano.Library.Json

/-!
# The plugin SDK's data

Capabilities, trust tiers, manifests and tool errors, from `corvid-plugin-sdk`.
-/

namespace CorvidNano.Sdk

/-- A capability that a plugin's manifest requests. -/
inductive Capability where
  | network (allowlist : List String)
  | storage (storageNamespace : String)
  | algoRead
  | dbRead
  | fsProjectDir
  | agentMessage (targetFilter : String)
  | llmChat
  | audioOutput
  deriving DecidableEq

/-- The `Display` text of a capability. -/
def Capability.display : Capability → String
  | .network allowlist => "Network(" ++ ", ".intercalate allowlist ++ ")"
  | .storage storageNamespace => "Storage(" ++ storageNamespace ++ ")"
  | .algoRead => "AlgoRead"
  | .dbRead => "DbRead"
  | .fsProjectDir => "FsProjectDir"
  | .agentMessage targetFilter => "AgentMessage(" ++ targetFilter ++ ")"
  | .llmChat => "LlmChat"
  | .audioOutput => "AudioOutput"

/-- A trust tier. The host assigns a plugin's tier, the manifest only declares one. -/
inductive TrustTier where
  | trusted
  | verified
  | untrusted
  deriving DecidableEq

/-- The name of a tier's variant, which is what `Debug` and serde write. -/
def TrustTier.variant : TrustTier → String
  | .trusted => "Trusted"
  | .verified => "Verified"
  | .untrusted => "Untrusted"

/-- The kinds of events that a plugin can subscribe to. -/
inductive EventKind where
  | agentMessage
  | algoTransaction
  | scheduledTick
  | httpWebhook
  deriving DecidableEq

/-- The metadata of one tool. -/
structure ToolInfo where
  name : String
  description : String
  inputSchema : Json

/-- The static metadata of a plugin. -/
structure PluginManifest where
  id : String
  version : String
  author : String
  description : String
  capabilities : List Capability
  eventFilter : List EventKind
  trustTier : TrustTier
  minHostVersion : String
  tools : List ToolInfo
  dependencies : List String

/-- The errors of a plugin's tools. -/
inductive PluginError where
  | init (message : String)
  | exec (message : String)
  | missingCapability (capability : Capability)
  | badInput (message : String)
  | timeout
  | unavailable
  deriving DecidableEq

/-- The `Display` text of a tool error. -/
def PluginError.display : PluginError → String
  | .init message => "init failed: " ++ message
  | .exec message => "execution failed: " ++ message
  | .missingCapability capability => "missing capability: " ++ capability.display
  | .badInput message => "bad input: " ++ message
  | .timeout => "execution timed out"
  | .unavailable => "plugin unavailable (draining)"

end CorvidNano.Sdk
