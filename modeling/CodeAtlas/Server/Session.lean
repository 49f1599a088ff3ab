import CodeAtlas.Json.Reader
import CodeAtlas.Server.Answer

/-!
# Sessions

A session is a sequence of messages, each on a line. The first one has to ask for an
introduction. A request has an id, and its answer carries the same one; a message without an id
gets no answer, nor does a line that holds no message.
-/

namespace CodeAtlas

/-- A message of a client. -/
structure Message where
  /-- The id, if an answer is wanted. -/
  id : Option Json
  /-- What is asked. -/
  request : Request

/-- Why a session does not come about. -/
inductive SessionError where
  /-- There is no message. -/
  | closed
  /-- The first message does not ask for an introduction. -/
  | notIntroduced
  deriving DecidableEq, Repr

/-- The words for the error. -/
def SessionError.message : SessionError → Text
  | .closed => "connection closed: initialize request".toList
  | .notIntroduced => "expect initialized request".toList

namespace Message

/-- The message that a value is. -/
def ofJson? (j : Json) : Option Message :=
  match j.field? "method" with
  | some (.str method) =>
    some ⟨j.field? "id", .ofMethod method ((j.field? "params").getD .null)⟩
  | _ => none

/-- The message that a line holds. -/
def ofLine? (line : Text) : Option Message := (Json.parse? line).bind ofJson?

/-- The answer to a message as a line, if it wants one. -/
def reply? (d : Disk) (r : Python.Reader) (m : Message) : Option Text :=
  m.id.map fun id =>
    let head : List (Text × Json) :=
      [("jsonrpc".toList, .ofString "2.0"), ("id".toList, id)]
    match (d.answer r m.request).toJson with
    | .obj ms => Json.render (.obj (head ++ ms))
    | _ => Json.render (.obj head)

end Message

/-- Whether a message is a request for an introduction. -/
def Message.introduces (m : Message) : Bool :=
  match m.id, m.request with
  | some _, .introduce _ => true
  | _, _ => false

namespace Disk

/-- The reply to a line of a session, and whether the client has been introduced after it. -/
def hear (d : Disk) (r : Python.Reader) (introduced : Bool) (line : Text) :
    Except SessionError (Bool × Option Text) :=
  match Message.ofLine? line with
  | none => .ok (introduced, none)
  | some m =>
    if introduced || m.introduces then .ok (true, m.reply? d r) else .error .notIntroduced

/-- The replies to the lines of a session up to its end. -/
def serveFrom (d : Disk) (r : Python.Reader) (introduced : Bool) :
    List Text → Except SessionError (List Text)
  | [] => if introduced then .ok [] else .error .closed
  | line :: lines =>
    match d.hear r introduced line with
    | .error e => .error e
    | .ok (introduced, reply) => (serveFrom d r introduced lines).map (reply.toList ++ ·)

/-- The replies to the lines of a session. -/
def serve (d : Disk) (r : Python.Reader) (lines : List Text) : Except SessionError (List Text) :=
  d.serveFrom r false lines

end Disk

end CodeAtlas
