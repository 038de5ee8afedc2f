import Xyena.Foundation.Program
import Xyena.Tools.Values

/-!
# The client for remote tool servers

`RemoteMCPClient` of `packages/mcp_gateway/client.py` and its secret resolver.
Opening a connection, the egress check and the timeout belong to one attempt,
which is an effect of whoever calls the client; the client repeats attempts and
reads the reply.
-/

namespace Xyena.Gateway

open Xyena.Foundation Xyena.Contracts Xyena.Tools

/-- A raised exception: the name of its class and its text. -/
structure Fault where
  className : String
  detail : String
deriving DecidableEq, Repr

structure RemoteServerConfig where
  endpoint : String
  authType : String
  secretRef : Option String
  timeoutSeconds : Rat
  maxRetries : Nat
  allowedEgressHosts : List String

/-- The reply of a remote server. Both spellings of the structured content are read. -/
structure RemoteReply where
  isError : Bool := false
  structuredContent : PyValue := .none
  snakeStructuredContent : PyValue := .none
  content : PyValue := .list []

/-! ## Secrets and the signed scope -/

/-- What the client takes from its process. -/
structure ClientPlatform where
  getenv : String → Option String
  hmac : String → String → String

def envScheme : String := "env://"

/-- The secret that a reference names. -/
def resolveSecret (platform : ClientPlatform) : Option String → Except Fault (Option String)
  | none => .ok none
  | some reference =>
    if envScheme.toList.isPrefixOf reference.toList then
      let name := String.ofList (reference.toList.drop envScheme.toList.length)
      match platform.getenv name with
      | some (value) => if value = "" then .error (unavailable name) else .ok (some value)
      | none => .error (unavailable name)
    else
      .error ⟨"SecretResolutionError",
        "Only env:// references are enabled; configure a cloud resolver"⟩
where
  unavailable (name : String) : Fault :=
    ⟨"SecretResolutionError", "Secret environment reference '" ++ name ++ "' is unavailable"⟩

def signedRuntimeMeta (platform : ClientPlatform) (config : RemoteServerConfig) (envelope : Dict) :
    Except Fault Dict := do
  match ← resolveSecret platform config.secretRef with
  | none => .error ⟨"RuntimeError",
      "Remote MCP calls require a secret reference for signed runtime scope."⟩
  | some secret =>
    .ok [("ai.xyena/runtime", .obj envelope),
      ("ai.xyena/signature", .str (platform.hmac secret (Json.dumps true (.obj envelope)))),
      ("ai.xyena/signature-algorithm", .str "hmac-sha256")]

/-! ## Calls -/

/-- What one attempt returns or raises. -/
def readReply : Except Fault RemoteReply → Except Fault PyValue
  | .error fault => .error fault
  | .ok reply =>
    if reply.isError then .error ⟨"RuntimeError", "Remote MCP server returned a tool error"⟩
    else
      let structured := if reply.structuredContent.truthy then reply.structuredContent
        else reply.snakeStructuredContent
      match structured with
      | .none => .ok reply.content.contentProjection
      | value => .ok value

/-- Repeat failed attempts at most `retries` times. -/
def callTool {E : Type} {R : E → Type} (attempt : Program E R (Except Fault RemoteReply)) :
    Nat → Program E R (Except Fault PyValue)
  | 0 => attempt.bind fun reply ↦ .ret (readReply reply)
  | retries + 1 => attempt.bind fun reply ↦
    match readReply reply with
    | .ok projection => .ret (.ok projection)
    | .error _ => callTool attempt retries

end Xyena.Gateway
