import ShapeForge.Tools.Call
import ShapeForge.Tools.Schema

/-!
# Sessions

A client and the tools exchange JSON messages.  A request has an identifier, and its reply has the
same one; a message without identifier is a notice that gets no reply.
-/

namespace ShapeForge.Tools

def instructions : String :=
  "\n".intercalate
    ["smithygen MCP server: inspects Smithy JSON models, generates Go packages, synthesizes " ++
        "mock instances and checks instances against structures.",
      "",
      "Models are passed as \x7b\"file\": \"...\"\x7d or \x7b\"content\": \"...\"\x7d with " ++
        "the JSON AST of a Smithy model.",
      "",
      "Configuration: defaults are configurable via SMITHYGEN_MCP_* environment variables set " ++
        "in your MCP client config.",
      "",
      "Key settings:",
      "- SMITHYGEN_MCP_CACHE_ENABLED (default: true) disables model caching entirely",
      "- SMITHYGEN_MCP_CACHE_FILE_TTL (default: 15m) is the cache TTL for model files",
      "- SMITHYGEN_MCP_LIST_LIMIT (default: 100) is the default result limit for inspect",
      "- SMITHYGEN_MCP_MOCK_SEED (default: 1) seeds the mock and generate tools",
      "- SMITHYGEN_MCP_SERVICE_POLICY (default: multiple) is the generate service policy",
      "",
      "Caching: loaded models are cached per session. File entries use path+mtime as key so " ++
        "edits are picked up. A background sweeper removes expired entries every 60s."]

def protocolVersions : List String :=
  ["2025-11-25", "2025-06-18", "2025-03-26", "2024-11-05"]

def usualVersion : String := "2025-06-18"

def textOf (value : Json) (name : String) : String :=
  match value.get? name with
  | some (.string text) => text
  | _ => ""

def greeting (parameters : Json) : Json :=
  let asked := textOf parameters "protocolVersion"
  .object
    [("capabilities", .object
      [("logging", .object []), ("tools", .object [("listChanged", .bool true)])]),
      ("instructions", .string instructions),
      ("protocolVersion",
        .string (if protocolVersions.contains asked then asked else usualVersion)),
      ("serverInfo", .object
        [("name", .string "smithygen"), ("version", .string Emit.programVersion)])]

/-- The result of a call: the answer as data and as text, or the message of a failure. -/
def callResult (tool : ToolEntry) : Except String Answer → Json
  | .ok answer =>
    let content := answer.json.canonical.inDouble
    .object [("content", texts content.write), ("structuredContent", content)]
  | .error message =>
    .object [("content", texts message), ("isError", .bool true),
      ("structuredContent", tool.blank)]
where
  texts (text : String) : Json :=
    .array [.object [("type", .string "text"), ("text", .string text)]]

structure Refusal where
  code : Int
  message : String

def callTool (settings : Settings) (now : Moment) (desk : Desk) (parameters : Json) :
    Except Refusal Json × Desk :=
  let name := textOf parameters "name"
  let arguments := ((parameters.get? "arguments").getD (.object [])).inDouble
  match ToolEntry.all.find? (·.name == name) with
  | none => (.error ⟨-32602, "unknown tool " ++ Text.quote name⟩, desk)
  | some tool =>
    match Call.read? name arguments with
    | none => (.error ⟨-32602, "invalid params"⟩, desk)
    | some call =>
      let (result, desk) := call.run settings now desk
      (.ok (callResult tool result), desk)

def result (settings : Settings) (now : Moment) (desk : Desk) (message : Json) :
    Except Refusal Json × Desk :=
  let parameters := (message.get? "params").getD (.object [])
  match textOf message "method" with
  | "initialize" => (.ok (greeting parameters), desk)
  | "ping" => (.ok (.object []), desk)
  | "tools/list" =>
    (.ok (.object [("tools", .array (ToolEntry.all.map ToolEntry.json))]), desk)
  | "tools/call" => callTool settings now desk parameters
  | method => (.error ⟨-32601, "method not found: " ++ Text.quote method⟩, desk)

def reply (settings : Settings) (now : Moment) (desk : Desk) (message : Json) :
    Option Json × Desk :=
  match message.get? "id" with
  | none => (none, desk)
  | some id =>
    let (outcome, desk) := result settings now desk message
    let content := match outcome with
      | .ok value => ("result", value)
      | .error refusal => ("error", .object
          [("code", .int refusal.code), ("message", .string refusal.message)])
    (some (.object [("jsonrpc", .string "2.0"), ("id", id), content]), desk)

end ShapeForge.Tools
