import Registrar.Http.Reply
import Registrar.Json.Format
import Registrar.Text.Utf8

/-!
# Nodes

A node answers queries that are posted to it as documents. The result in an answer is passed on as
it stands there. `Node.ofNetwork` is the node behind an endpoint.
-/

namespace Registrar.Registry

/-- A question to a node. -/
structure Query where
  method : String
  params : Json.Value

/-- A node: the result of a query, or nothing if the query fails. -/
abbrev Node := Query → Option Json.Node

namespace Query

/-- The document that is posted for a query. -/
def payload (q : Query) : Bytes :=
  let document : Json.Value := .object [
    ("method", .text q.method), ("params", q.params), ("id", .number (.natural 0)),
    ("jsonrpc", .text "2.0")]
  Text.Utf8.write document.compactText

end Query

/-- The result in the document that a node answers with, the last one of several. -/
def resultOf? (document : Json.Document) : Option Json.Node :=
  match document with
  | ⟨.object members true, false⟩ =>
    if Json.Node.wholeMembers members && members.all (·.1.isSome) then
      (members.reverse.find? (·.1 = some "result")).map (·.2)
    else none
  | _ => none

/-- The result in a reply. -/
def Node.resultOfReply? : Reply → Option Json.Node
  | .answer status body true =>
    if Reply.isSuccess status then
      (Text.Utf8.read? body).bind fun text => resultOf? (Json.Document.ofText text)
    else none
  | _ => none

/-- The node behind an endpoint of a network. -/
def Node.ofNetwork (network : String → Bytes → Reply) (endpoint : String) : Node := fun q =>
  Node.resultOfReply? (.through (fun e => network e q.payload) endpoint)

end Registrar.Registry
