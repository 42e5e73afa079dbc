import Registrar.Bytes.Octets
import Registrar.Url

/-!
# Replies

What comes back when a document is posted to an endpoint.
-/

namespace Registrar

/-- What comes back from an endpoint. -/
inductive Reply where
  /-- Nothing can be posted to such an endpoint. -/
  | unsendable
  /-- The connection is refused, or it ends before there is an answer. -/
  | noAnswer
  /-- An answer; `whole` tells whether all of its body came. -/
  | answer (status : Nat) (body : Bytes) (whole : Bool)
deriving DecidableEq

namespace Reply

/-- The reply of an endpoint on a network: documents are posted to `http` locators only. -/
def through (network : String → Reply) (endpoint : String) : Reply :=
  if Url.isPostable endpoint then network endpoint else .unsendable

/-- Whether a status tells of success. -/
def isSuccess (status : Nat) : Bool := status / 100 = 2

end Reply

end Registrar
