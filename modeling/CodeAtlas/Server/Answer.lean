import CodeAtlas.Server.Arguments
import CodeAtlas.Server.Catalogue

/-!
# Requests and answers

A server answers each request on its own: what it says of itself, the catalogue of its tools,
and calls of them. The tools that are turned off are left out of the names that the server
announces; the catalogue and the calls have them all.
-/

namespace CodeAtlas

/-- What a server is asked. -/
inductive Request where
  /-- To introduce itself, to a client that speaks the given version of the protocol. -/
  | introduce (version : Text)
  /-- Whether it is there. -/
  | ping
  /-- For its tools. -/
  | listTools
  /-- For something that it has none of, under the given name. -/
  | listNothing (what : String)
  /-- To run the tool of a name with arguments. -/
  | callTool (name : Text) (arguments : List (Text × Json))
  /-- For a method that it does not have. -/
  | unknown (method : Text)
  deriving Repr

/-- An answer. -/
inductive Answer where
  /-- The request succeeded. -/
  | result (value : Json)
  /-- The request failed. -/
  | error (code : Int) (message : Text)
  deriving Repr

namespace Request

/-- The call of a tool that some parameters describe. The arguments may be absent. -/
def call? (params : Json) : Option Request :=
  match params.field? "name", params.field? "arguments" with
  | some (.str name), none | some (.str name), some .null => some (.callTool name [])
  | some (.str name), some (.obj arguments) => some (.callTool name arguments)
  | _, _ => none

/-- The introduction that some parameters ask for. -/
def introduction? (params : Json) : Option Request :=
  match params.field? "protocolVersion" with
  | some (.str version) => some (.introduce version)
  | _ => none

/-- The request with a method and parameters. When the parameters do not fit, the method counts
as unknown. -/
def ofMethod (method : Text) (params : Json) : Request :=
  if method = "ping".toList then .ping
  else if method = "tools/list".toList then .listTools
  else if method = "resources/list".toList then .listNothing "resources"
  else if method = "prompts/list".toList then .listNothing "prompts"
  else if method = "resources/templates/list".toList then .listNothing "resourceTemplates"
  else if method = "tools/call".toList then (call? params).getD (.unknown method)
  else if method = "initialize".toList then (introduction? params).getD (.unknown method)
  else .unknown method

end Request

namespace Answer

/-- The answer as an object with one member. -/
def toJson : Answer → Json
  | .result value => .ofMembers [("result", value)]
  | .error code message =>
    .ofMembers [("error",
      .ofMembers [("code", .num (.int code)), ("message", .str message)])]

/-- The result of a tool: one text. -/
def ofToolText (isError : Bool) (text : Text) : Answer :=
  .result (.ofMembers [
    ("content", .arr [.ofMembers [("type", .ofString "text"), ("text", .str text)]]),
    ("isError", .bool isError)])

/-- The text of what a tool returns: a string itself, anything else in compact form. -/
def toolText : Json → Text
  | .str s => s
  | v => Json.render v

/-- What the server says of itself. It speaks the client's version of the protocol if that is
the older one. -/
def introduction (version : Text) : Answer :=
  .result (.ofMembers [
    ("protocolVersion", .str (if version < protocolVersion then version else protocolVersion)),
    ("capabilities", .ofMembers [("tools", .obj [])]),
    ("serverInfo", .ofMembers [("name", .ofString programName),
      ("version", .ofString programVersion)]),
    ("instructions", .ofString instructions)])

/-- The answer to the call of a tool. -/
def ofCall (d : Disk) (r : Python.Reader) (name : Text) (arguments : List (Text × Json)) : Answer :=
  match Tool.ofName? name with
  | none => .error (-32602) "tool not found".toList
  | some tool =>
    match ToolCall.decode tool arguments with
    | .error e => ofToolText true ("failed to deserialize parameters: ".toList ++ e.message)
    | .ok call => ofToolText false (toolText (call.run d r))

end Answer

/-- The answer to a request. -/
def Disk.answer (d : Disk) (r : Python.Reader) : Request → Answer
  | .introduce version => .introduction version
  | .ping => .result (.obj [])
  | .listTools => .result (.ofMembers [("tools", .arr (Tool.byName.map Tool.toJson))])
  | .listNothing what => .result (.ofMembers [(what, .arr [])])
  | .callTool name arguments => .ofCall d r name arguments
  | .unknown method => .error (-32601) method

/-- The names that a server with the given tools announces. -/
def ToolSet.announced (s : ToolSet) : List Text := (Tool.byName.filter s.has).map Tool.name

end CodeAtlas
