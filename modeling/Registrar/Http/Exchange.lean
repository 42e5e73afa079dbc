import Registrar.Http.Reply
import Registrar.Text.Utf8

/-!
# Exchanges over a connection

The bytes that post a document, and what the bytes that have come back so far amount to: an answer,
or nothing yet. An answer starts with a status line and header fields; after a blank line comes the
body, which has a length, comes in chunks, or lasts until the connection is closed.

## Contents

- `Destination`, where a document is sent, and `posting`, the message that is sent;
- `Head` and `Head.read?`;
- `chunked`, a body in chunks, and `replyOf?`, the reply once it is known.
-/

namespace Registrar.Http

/-! ## Where it is sent -/

/-- Where a document is sent. -/
structure Destination where
  host : Url.Host
  port : Nat
  target : List Char

namespace Destination

/-- A character as it is written in a message: bytes outside the printable range are escaped. -/
def escaped (c : Char) : List Char :=
  if 0x20 < c.toNat ∧ c.toNat < 0x7F then [c]
  else (Text.Utf8.write (String.singleton c)).flatMap fun b =>
    '%' :: (Hex.encode [b]).map Char.toUpper

/-- The target of a message, from the text after the host: without the fragment, and with a slash in
front. -/
def targetOf (cs : List Char) : List Char :=
  let kept := cs.takeWhile (· ≠ '#')
  let path := (kept.takeWhile (· ≠ '?')).map fun c => if c = '\\' then '/' else c
  let kept := path ++ kept.dropWhile (· ≠ '?')
  (if kept.head? = some '/' then kept else '/' :: kept).flatMap escaped

/-- The destination that an endpoint names. Connections are never encrypted. -/
def ofEndpoint? (endpoint : String) : Option Destination :=
  match Url.read endpoint with
  | .error _ => none
  | .ok url =>
    if url.scheme = "http".toList then
      url.place.host.map fun host =>
        ⟨host, url.place.port.getD 80, targetOf url.place.target⟩
    else none

/-- The host as a message names it, with the port if it is not the usual one. -/
def hostText (d : Destination) : String :=
  let host := match d.host with
    | .ipv6 _ => "[" ++ d.host.text ++ "]"
    | host => host.text
  if d.port = 80 then host else host ++ ":" ++ toString d.port

end Destination

/-! ## What is sent -/

/-- A text as bytes, with a line break. -/
def line (s : String) : Bytes := Text.Utf8.write (s ++ "\r\n")

/-- The message that posts a document. The connection is to be closed after the answer. -/
def posting (d : Destination) (document : Bytes) : Bytes :=
  line ("POST " ++ String.ofList d.target ++ " HTTP/1.1") ++ line "content-type: application/json"
    ++ line "accept: */*" ++ line ("host: " ++ d.hostText)
    ++ line ("content-length: " ++ toString document.length) ++ line "connection: close"
    ++ line "" ++ document

/-! ## What comes back -/

/-- How the end of a body is found. -/
inductive Extent where
  | exactly (length : Nat)
  | inChunks
  | untilClosed
deriving DecidableEq

/-- What stands before a body. -/
structure Head where
  status : Nat
  extent : Extent
deriving DecidableEq

/-- The first line without its break, and the bytes after it. -/
def splitLine : Bytes → Option (Bytes × Bytes)
  | [] => none
  | 13 :: 10 :: rest => some ([], rest)
  | b :: rest => (splitLine rest).map fun (first, after) => (b :: first, after)

theorem length_of_splitLine {bs first rest : Bytes} (h : splitLine bs = some (first, rest)) :
    rest.length < bs.length := by
  fun_induction splitLine bs generalizing first with
  | case1 => simp at h
  | case2 =>
    simp only [Option.some.injEq, Prod.mk.injEq] at h
    rw [← h.2, List.length_cons, List.length_cons]
    omega
  | case3 b after _ ih =>
    simp only [Option.map_eq_some_iff, Prod.mk.injEq, Prod.exists] at h
    obtain ⟨inner, _, found, _, rfl⟩ := h
    have := ih found
    simp; omega

/-- The lines up to the first empty one, and the bytes after it. -/
def splitLines (bs : Bytes) : Option (List Bytes × Bytes) :=
  match _h : splitLine bs with
  | none => none
  | some ([], rest) => some ([], rest)
  | some (first, rest) => (splitLines rest).map fun (more, after) => (first :: more, after)
termination_by bs.length
decreasing_by exact length_of_splitLine _h

/-- The bytes of a line as characters, in lower case, without blanks at its ends. -/
def trimmed (bs : Bytes) : List Char :=
  let isBlank (c : Char) : Bool := c = ' ' || c = '\t'
  let cs := (bs.map fun b => (Char.ofNat b.toNat).toLower).dropWhile isBlank
  (cs.reverse.dropWhile isBlank).reverse

/-- The name and the value of a header field. -/
def field (bs : Bytes) : List Char × List Char :=
  (trimmed (bs.takeWhile (· ≠ 58)), trimmed ((bs.dropWhile (· ≠ 58)).drop 1))

/-- The status in the first line of an answer. -/
def status? (bs : Bytes) : Option Nat :=
  let cs := trimmed bs
  if "http/1.".toList.isPrefixOf cs then
    let digits := ((cs.dropWhile (· ≠ ' ')).drop 1).take 3
    if digits.length = 3 then Url.digits? 10 digits else none
  else none

/-- How the body ends after a status and header fields. -/
def extentOf (status : Nat) (fields : List (List Char × List Char)) : Extent :=
  if status = 204 ∨ status = 304 then .exactly 0
  else if fields.any fun (name, value) =>
      name = "transfer-encoding".toList && "chunked".toList.isSuffixOf value then .inChunks
  else
    match fields.find? (·.1 = "content-length".toList) with
    | some (_, digits) => .exactly ((Url.digits? 10 digits).getD 0)
    | none => .untilClosed

/-- The head in the first lines of an answer. -/
def Head.read? : List Bytes → Option Head
  | [] => none
  | first :: fields =>
    (status? first).map fun status => ⟨status, extentOf status (fields.map field)⟩

/-- The body that comes in chunks, as far as it has come, and whether all of it has. Each chunk
stands after a line with its length in hexadecimal digits; an empty one is the last. -/
def chunked : (fuel : Nat) → Bytes → Bytes × Bool
  | 0, _ => ([], false)
  | fuel + 1, bs =>
    match splitLine bs with
    | none => ([], false)
    | some (size, rest) =>
      match Url.digits? 16 (trimmed (size.takeWhile (· ≠ 59))) with
      | none => ([], false)
      | some 0 => ([], (splitLine rest).isSome)
      | some (n + 1) =>
        if rest.length < n + 3 then (rest.take (n + 1), false)
        else
          let (more, whole) := chunked fuel (rest.drop (n + 3))
          (rest.take (n + 1) ++ more, whole)

/-- The body with the given extent, as far as it has come, and whether all of it has. -/
def bodyOf (extent : Extent) (closed : Bool) (bs : Bytes) : Bytes × Bool :=
  match extent with
  | .exactly n => (bs.take n, n ≤ bs.length)
  | .inChunks => chunked bs.length bs
  | .untilClosed => (bs, closed)

/-- The reply that the bytes received so far make. There is none yet if more bytes can come and are
needed. -/
def replyOf? (received : Bytes) (closed : Bool) : Option Reply :=
  match splitLines received with
  | none => if closed then some .noAnswer else none
  | some (lines, rest) =>
    match Head.read? lines with
    | none => some .noAnswer
    | some head =>
      let (body, whole) := bodyOf head.extent closed rest
      if whole ∨ closed then some (.answer head.status body whole) else none

/-- A closed connection always makes a reply. -/
theorem isSome_replyOf?_closed (received : Bytes) : (replyOf? received true).isSome := by
  unfold replyOf?
  split
  · rfl
  · split
    · rfl
    · simp

end Registrar.Http
