import Registrar.Json.Fault
import Registrar.Json.Value

/-!
# Formats

A `Format α` says how a type is read from a node and written as a value. Reading follows the order
of the text and reports the first fault; a `room` limits the depth. Records are put together from
`Fields`: they are read from an object, with unknown members left out, or from an array of their
fields in order, and written as an object.

## Contents

- `text`, `u64`, `u32`, `flag`, `octets`, `list`, `dictionary`;
- `Fields.none`, `Fields.field`, `Fields.optional`, and `record`;
- `Format.ofText` and `Format.ofValue`, the ways to read; `Format.compactText` and
  `Format.prettyText`, the ways to write.
-/

namespace Registrar.Json

/-- How a type is read and written. -/
structure Format (α : Type) where
  read : (room : Nat) → Node → Except Fault α
  write : α → Value

namespace Format

variable {α β : Type}

/-! ## Scalars -/

/-- Texts. -/
def text : Format String where
  read _ v :=
    match v with
    | .text (some s) => .ok s
    | v => .error (.ofNode v "a string")
  write := .text

/-- Truth values. -/
def flag : Format Bool where
  read _ v :=
    match v with
    | .bool b => .ok b
    | v => .error (.ofNode v "a boolean")
  write := .bool

/-- A natural number below `limit`. -/
def readNatural (limit : Nat) (expected : String) (v : Node) : Except Fault Nat :=
  match v with
  | .number (some (.natural n)) =>
    if n.toNat < limit then .ok n.toNat else .error (.wrongValue (.number (.natural n)) expected)
  | .number (some (.negative n)) => .error (.wrongValue (.number (.negative n)) expected)
  | v => .error (.ofNode v expected)

/-- Numbers of 64 bits; `expected` is the name of their type in messages. -/
def unsigned64 (expected : String) : Format UInt64 where
  read _ v := (readNatural UInt64.size expected v).map UInt64.ofNat
  write n := .number (.natural n)

/-- Numbers of 64 bits. -/
def u64 : Format UInt64 := unsigned64 "u64"

/-- Positions and lengths. -/
def usize : Format UInt64 := unsigned64 "usize"

/-- Numbers of 32 bits. -/
def u32 : Format UInt32 where
  read _ v := (readNatural UInt32.size "u32" v).map UInt32.ofNat
  write n := .number (.natural n.toUInt64)

/-! ## Byte strings -/

/-- One byte of an array of bytes. -/
def readByte (v : Node) : Except Fault UInt8 := (readNatural 256 "u8" v).map UInt8.ofNat

/-- The bytes at the start of an array, `n` of them, and the items after them. -/
def readBytes : Nat → List Node → (closed : Bool) → Except Fault (Bytes × List Node)
  | 0, rest, _ => .ok ([], rest)
  | _ + 1, [], closed => if closed then .error .noBytes else .error .malformed
  | n + 1, v :: rest, closed =>
    match readByte v with
    | .error fault => .error fault
    | .ok b =>
      match readBytes n rest closed with
      | .error fault => .error fault
      | .ok (bs, rest) => .ok (b :: bs, rest)

/-- Whether items may follow the bytes of an array: one scalar that is no byte is passed over. -/
def readSurplus (rest : List Node) (closed : Bool) : Except Fault Unit :=
  match rest with
  | [] => if closed then .ok () else .error .malformed
  | v :: more =>
    match readByte v, v with
    | .ok _, _ => .error .noBytes
    | .error _, .array _ _ | .error _, .object _ _ | .error _, .fault | .error _, .text none =>
      .error .malformed
    | .error _, _ => if closed && more.isEmpty then .ok () else .error .malformed

/-- The digits of a text after one marker. -/
def unmarked (s : String) : List Char :=
  match s.toList with
  | '0' :: 'x' :: digits => digits
  | digits => digits

/-- Byte strings of a fixed length: digits, with or without a marker, or an array of bytes. -/
def octets (n : Nat) : Format (Octets n) where
  read room v :=
    match v with
    | .text (some s) =>
      match Hex.decode (unmarked s) with
      | .error _ => .error .noBytes
      | .ok bs =>
        match Octets.ofList? n bs with
        | some a => .ok a
        | none => .error .noBytes
    | .array items closed =>
      if room ≤ 1 then .error .malformed
      else match readBytes n items closed with
        | .error fault => .error fault
        | .ok (bs, rest) =>
          match readSurplus rest closed, Octets.ofList? n bs with
          | .error fault, _ => .error fault
          | .ok _, some a => .ok a
          | .ok _, none => .error .noBytes
    | v => .error (.ofNode v "bytes")
  write a := .text (Hex.ofOctets a)

/-! ## Sequences and dictionaries -/

/-- Reads items up to the first fault. -/
def readItems (f : Format α) (room : Nat) : List Node → Except Fault (List α)
  | [] => .ok []
  | v :: rest =>
    match f.read room v with
    | .error fault => .error fault
    | .ok a =>
      match readItems f room rest with
      | .error fault => .error fault
      | .ok as => .ok (a :: as)

/-- Sequences. -/
def list (f : Format α) : Format (List α) where
  read room v :=
    match v with
    | .array items closed =>
      if room ≤ 1 then .error .malformed
      else match readItems f (room - 1) items with
        | .error fault => .error fault
        | .ok as => if closed then .ok as else .error .malformed
    | v => .error (.ofNode v "a sequence")
  write as := .array (as.map f.write)

/-- Any data. -/
def value : Format Value where
  read := Value.ofNode Value.ofText
  write := id

/-- Dictionaries of any data, sorted by key. No key of a dictionary is reserved. -/
def dictionary : Format (List (String × Value)) where
  read room v :=
    match v with
    | .object members closed =>
      if room ≤ 1 then .error .malformed
      else match Value.ofMembers Value.ofText (room - 1) members with
        | .error fault => .error fault
        | .ok ms => if closed then .ok (Value.sorted ms) else .error .malformed
    | v => .error (.ofNode v "a map")
  write := .object

/-- The format of a type that is built from another one. -/
def along (f : Format α) (build : α → β) (parts : β → α) : Format β where
  read room v := (f.read room v).map build
  write b := f.write (parts b)

end Format

/-! ## Records -/

/-- The fields of a record: `Slots` holds those that were read so far. -/
structure Fields (α : Type) where
  count : Nat
  Slots : Type
  empty : Slots
  /-- Reads the field of a name; `none` if there is no such field. -/
  put : (room : Nat) → (key : String) → Node → Slots → Except Fault (Option Slots)
  finish : Slots → Except Fault α
  /-- Reads fields in order, `done` of which are read; also the items left over. -/
  inOrder : (room : Nat) → (expected : String) → (done : Nat) → List Node → (closed : Bool) →
    Except Fault (α × List Node)
  members : α → List (String × Value)

namespace Fields

variable {α β : Type}

/-- No fields. -/
def none : Fields Unit where
  count := 0
  Slots := Unit
  empty := ()
  put _ _ _ _ := .ok Option.none
  finish _ := .ok ()
  inOrder _ _ _ items _ := .ok ((), items)
  members _ := []

/-- One more field in front; a `blank` stands for a field that is not given. -/
def cons (name : String) (blank : Option α) (f : Format α) (rest : Fields β) : Fields (α × β) where
  count := rest.count + 1
  Slots := Option α × rest.Slots
  empty := (Option.none, rest.empty)
  put room key v slots :=
    if key = name then
      match slots.1 with
      | some _ => .error (.duplicate name)
      | Option.none =>
        match f.read room v with
        | .error fault => .error fault
        | .ok a => .ok (some (some a, slots.2))
    else
      match rest.put room key v slots.2 with
      | .error fault => .error fault
      | .ok Option.none => .ok Option.none
      | .ok (some others) => .ok (some (slots.1, others))
  finish slots :=
    match slots.1.or blank with
    | Option.none => .error (.missing name)
    | some a =>
      match rest.finish slots.2 with
      | .error fault => .error fault
      | .ok b => .ok (a, b)
  inOrder room expected done items closed :=
    match items with
    | [] =>
      if !closed then .error .malformed
      else match blank with
        | Option.none => .error (.wrongLength done expected)
        | some a =>
          match rest.inOrder room expected (done + 1) [] closed with
          | .error fault => .error fault
          | .ok (b, left) => .ok ((a, b), left)
    | v :: items =>
      match f.read room v with
      | .error fault => .error fault
      | .ok a =>
        match rest.inOrder room expected (done + 1) items closed with
        | .error fault => .error fault
        | .ok (b, left) => .ok ((a, b), left)
  members p := (name, f.write p.1) :: rest.members p.2

/-- A field that must be given. -/
def field (name : String) (f : Format α) (rest : Fields β) : Fields (α × β) :=
  cons name Option.none f rest

/-- A field that may be left out. -/
def optional (name : String) (blank : α) (f : Format α) (rest : Fields β) : Fields (α × β) :=
  cons name (some blank) f rest

/-- Reads members into their fields. -/
def putAll (fields : Fields α) (room : Nat) :
    List (Option String × Node) → fields.Slots → Except Fault fields.Slots
  | [], slots => .ok slots
  | (Option.none, _) :: _, _ => .error .malformed
  | (some key, v) :: rest, slots =>
    match fields.put room key v slots with
    | .error fault => .error fault
    | .ok (some slots) => putAll fields room rest slots
    | .ok Option.none => if v.whole then putAll fields room rest slots else .error .malformed

end Fields

namespace Format

variable {α : Type}

/-- The format of a record; `title` is its name in messages. -/
def record (title : String) (fields : Fields α) : Format α where
  read room v :=
    match v with
    | .object members closed =>
      if room ≤ 1 then .error .malformed
      else match fields.putAll (room - 1) members fields.empty with
        | .error fault => .error fault
        | .ok slots => if closed then fields.finish slots else .error .malformed
    | .array items closed =>
      if room ≤ 1 then .error .malformed
      else
        let expected := "struct " ++ title ++ " with " ++ toString fields.count
          ++ (if fields.count = 1 then " element" else " elements")
        match fields.inOrder (room - 1) expected 0 items closed with
        | .error fault => .error fault
        | .ok (a, []) => if closed then .ok a else .error .malformed
        | .ok (_, _ :: _) => .error (.excess items.length)
    | v => .error (.ofNode v ("struct " ++ title))
  write a := .object (fields.members a)

/-! ## Texts -/

/-- Reads a text. A sequence with surplus items breaks off before them, and so does a document
with something after its end. -/
def ofText (f : Format α) (s : String) : Except Fault α :=
  let document := Document.ofText s
  match f.read fullRoom document.node with
  | .error (.excess _) => .error .malformed
  | .error fault => .error fault
  | .ok a => if document.trailing then .error .malformed else .ok a

/-- Reads data. -/
def ofValue (f : Format α) (v : Value) : Except Fault α := f.read fullRoom v.toNode

/-- Writes a text in one line. -/
def compactText (f : Format α) (a : α) : String := (f.write a).compactText

/-- Writes a text in lines. -/
def prettyText (f : Format α) (a : α) : String := (f.write a).prettyText

end Format

end Registrar.Json
