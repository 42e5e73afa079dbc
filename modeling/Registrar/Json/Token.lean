import Registrar.Bytes.Hex
import Registrar.Json.Number

/-!
# Tokens

`Token.ofText` cuts a text into tokens with an automaton that reads one character at a time and
always takes the longest token. The first thing that is no token becomes `bad` and ends the list.

A text token holds `none` if its escapes name half of a surrogate pair: such a text is well formed,
but it has no value.
-/

namespace Registrar.Json

/-- The pieces of a document. -/
inductive Token where
  | openArray
  | closeArray
  | openObject
  | closeObject
  | colon
  | comma
  | null
  | bool (b : Bool)
  | number (n : Numeral)
  | text (s : Option String)
  | bad
deriving DecidableEq

namespace Token

/-! ## Numerals -/

/-- How far a numeral has been read. -/
inductive Stage where
  | sign
  | zero
  | whole
  | point
  | fraction
  | mark
  | markSign
  | exponent
deriving DecidableEq

/-- Whether a numeral may end here. -/
def Stage.complete : Stage → Bool
  | .zero | .whole | .fraction | .exponent => true
  | .sign | .point | .mark | .markSign => false

/-- The value of a decimal digit. -/
def digit? (c : Char) : Option Nat :=
  if '0' ≤ c ∧ c ≤ '9' then some (c.toNat - 48) else none

/-- Whether the character marks an exponent. -/
def isMark (c : Char) : Bool := c = 'e' || c = 'E'

/-- The exponent with one more digit. -/
def addExponent (n : Numeral) (d : Nat) : Numeral :=
  match n.exponent with
  | none => { n with exponent := some (false, [d]) }
  | some (minus, ds) => { n with exponent := some (minus, ds ++ [d]) }

/-- Takes one more character into a numeral, if it belongs there. -/
def extend (stage : Stage) (n : Numeral) (c : Char) : Option (Stage × Numeral) :=
  match stage, digit? c with
  | .sign, some 0 => some (.zero, { n with whole := [0] })
  | .sign, some d => some (.whole, { n with whole := [d] })
  | .whole, some d => some (.whole, { n with whole := n.whole ++ [d] })
  | .point, some d | .fraction, some d => some (.fraction, { n with fraction := n.fraction ++ [d] })
  | .mark, some d | .markSign, some d | .exponent, some d => some (.exponent, addExponent n d)
  | .zero, none | .whole, none =>
    if c = '.' then some (.point, n)
    else if isMark c then some (.mark, { n with exponent := some (false, []) }) else none
  | .fraction, none =>
    if isMark c then some (.mark, { n with exponent := some (false, []) }) else none
  | .mark, none =>
    if c = '+' then some (.markSign, n)
    else if c = '-' then some (.markSign, { n with exponent := some (true, []) }) else none
  | _, _ => none

/-! ## The automaton -/

/-- What is being read. In a text, `high` is the first half of a surrogate pair just read. -/
inductive Mode where
  | between
  | number (stage : Stage) (n : Numeral)
  | word (rest : List Char) (token : Token)
  | text (reversed : Option (List Char)) (high : Option Nat)
  | escape (reversed : Option (List Char)) (high : Option Nat)
  | unit (reversed : Option (List Char)) (high : Option Nat) (digits : List Nat)
  | stopped

/-- A text with one more character; a half pair before it leaves it without a value. -/
def addChar (reversed : Option (List Char)) (high : Option Nat) (c : Char) : Mode :=
  .text (if high.isSome then none else reversed.map (c :: ·)) none

/-- A text with one more 16-bit unit. -/
def addUnit (reversed : Option (List Char)) (high : Option Nat) (n : Nat) : Mode :=
  match high with
  | some h =>
    if 0xDC00 ≤ n ∧ n ≤ 0xDFFF then
      .text (reversed.map (Char.ofNat (0x10000 + (h - 0xD800) * 0x400 + (n - 0xDC00)) :: ·)) none
    else .text none none
  | none =>
    if 0xD800 ≤ n ∧ n < 0xDC00 then .text reversed (some n)
    else if 0xDC00 ≤ n ∧ n ≤ 0xDFFF then .text none none
    else .text (reversed.map (Char.ofNat n :: ·)) none

/-- The character that a single-letter escape stands for. -/
def unescape? (c : Char) : Option Char :=
  if c = '"' ∨ c = '\\' ∨ c = '/' then some c
  else if c = 'b' then some '\x08'
  else if c = 'f' then some '\x0c'
  else if c = 'n' then some '\n'
  else if c = 'r' then some '\r'
  else if c = 't' then some '\t'
  else none

/-- Whether the character may stand between tokens. -/
def isBlank (c : Char) : Bool := c = ' ' || c = '\t' || c = '\n' || c = '\r'

/-- Reads a character that starts a token. -/
def start (c : Char) : List Token × Mode :=
  if isBlank c then ([], .between)
  else if c = '[' then ([.openArray], .between)
  else if c = ']' then ([.closeArray], .between)
  else if c = '\x7b' then ([.openObject], .between)
  else if c = '\x7d' then ([.closeObject], .between)
  else if c = ':' then ([.colon], .between)
  else if c = ',' then ([.comma], .between)
  else if c = '"' then ([], .text (some []) none)
  else if c = 'n' then ([], .word ['u', 'l', 'l'] .null)
  else if c = 't' then ([], .word ['r', 'u', 'e'] (.bool true))
  else if c = 'f' then ([], .word ['a', 'l', 's', 'e'] (.bool false))
  else if c = '-' then ([], .number .sign ⟨true, [], [], none⟩)
  else match extend .sign ⟨false, [], [], none⟩ c with
    | some (stage, n) => ([], .number stage n)
    | none => ([.bad], .stopped)

/-- Reads one character: the tokens that it ends, and what is being read after it. -/
def step (mode : Mode) (c : Char) : List Token × Mode :=
  match mode with
  | .between => start c
  | .number stage n =>
    match extend stage n c with
    | some (stage, n) => ([], .number stage n)
    | none =>
      if stage.complete && !(stage = .zero && (digit? c).isSome) then
        let (tokens, mode) := start c
        (.number n :: tokens, mode)
      else ([.bad], .stopped)
  | .word [] token => ([token], .stopped)
  | .word [d] token => if c = d then ([token], .between) else ([.bad], .stopped)
  | .word (d :: rest) token => if c = d then ([], .word rest token) else ([.bad], .stopped)
  | .text reversed high =>
    if c = '"' then
      let value := if high.isSome then none else reversed.map fun cs => String.ofList cs.reverse
      ([.text value], .between)
    else if c = '\\' then ([], .escape reversed high)
    else if c.toNat < 0x20 then ([.bad], .stopped)
    else ([], addChar reversed high c)
  | .escape reversed high =>
    if c = 'u' then ([], .unit reversed high [])
    else match unescape? c with
      | some d => ([], addChar reversed high d)
      | none => ([.bad], .stopped)
  | .unit reversed high digits =>
    match Hex.digit? c with
    | none => ([.bad], .stopped)
    | some d =>
      match digits with
      | [x, y, z] => ([], addUnit reversed high (((x * 16 + y) * 16 + z) * 16 + d))
      | _ => ([], .unit reversed high (digits ++ [d]))
  | .stopped => ([], .stopped)

/-- What is left when the text ends. -/
def finish : Mode → List Token
  | .between | .stopped => []
  | .number stage n => if stage.complete then [.number n] else [.bad]
  | _ => [.bad]

/-- The tokens that the rest of a text makes. -/
def ofChars (mode : Mode) : List Char → List Token
  | [] => finish mode
  | c :: cs =>
    let (tokens, mode) := step mode c
    tokens ++ ofChars mode cs

/-- The tokens of a text. -/
def ofText (s : String) : List Token := ofChars .between s.toList

end Token

end Registrar.Json
