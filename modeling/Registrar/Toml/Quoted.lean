import Registrar.Bytes.Hex

/-!
# Quoted text of a settings file

The four kinds of quoted text: in double quotes with escapes, in single quotes without, and both
over several lines between three quotes. Every reader starts after the opening quotes and gives the
text and what follows it.
-/

namespace Registrar.Toml.Quoted

/-- Whether a character may stand in quoted text or in a comment: no control character but the
tab. -/
def isPlain (c : Char) : Bool := c = '\t' || (decide (0x20 ≤ c.toNat) && c.toNat ≠ 0x7F)

/-- The character with a number in hexadecimal digits. -/
def codePoint? (ds : List Char) : Option Char :=
  match ds.mapM Hex.digit? with
  | none => none
  | some ns =>
    let n := ns.foldl (fun n d => 16 * n + d) 0
    if n.isValidChar then some (Char.ofNat n) else none

/-- The character that an escape stands for, and the text after it; the backslash has been read. -/
def escape? : List Char → Option (Char × List Char)
  | 'b' :: rest => some ('\x08', rest)
  | 't' :: rest => some ('\t', rest)
  | 'n' :: rest => some ('\n', rest)
  | 'f' :: rest => some ('\x0c', rest)
  | 'r' :: rest => some ('\r', rest)
  | '"' :: rest => some ('"', rest)
  | '\\' :: rest => some ('\\', rest)
  | 'u' :: rest =>
    if (rest.take 4).length = 4 then (codePoint? (rest.take 4)).map fun c => (c, rest.drop 4)
    else none
  | 'U' :: rest =>
    if (rest.take 8).length = 8 then (codePoint? (rest.take 8)).map fun c => (c, rest.drop 8)
    else none
  | _ => none

/-- A line break at the start of a text is left out. -/
def skipBreak : List Char → List Char
  | '\n' :: rest => rest
  | '\r' :: '\n' :: rest => rest
  | cs => cs

/-- The text after the blanks and line breaks at the start, of which there has to be one in the
first line. -/
def afterBreaks? (cs : List Char) : Option (List Char) :=
  let isSpace (c : Char) : Bool := c = ' ' || c = '\t'
  let line := cs.dropWhile isSpace
  let skip := fun (c : Char) => isSpace c || c = '\n' || c = '\r'
  match line with
  | '\n' :: _ => some (line.dropWhile skip)
  | '\r' :: '\n' :: _ => some (line.dropWhile skip)
  | _ => none

/-- Text up to a quote, in one line; `escapes` tells whether a backslash starts an escape. -/
def line? (quote : Char) (escapes : Bool) : (fuel : Nat) → List Char →
    Option (List Char × List Char)
  | 0, _ => none
  | _ + 1, [] => none
  | fuel + 1, c :: rest =>
    if c = quote then some ([], rest)
    else if c = '\\' ∧ escapes then
      match escape? rest with
      | none => none
      | some (d, rest) => (line? quote escapes fuel rest).map fun (s, rest) => (d :: s, rest)
    else if isPlain c then (line? quote escapes fuel rest).map fun (s, rest) => (c :: s, rest)
    else none

/-- Text up to three quotes, of any number of lines. Up to two more quotes at the end belong to the
text. -/
def lines? (quote : Char) (escapes : Bool) : (fuel : Nat) → List Char →
    Option (List Char × List Char)
  | 0, _ => none
  | _ + 1, [] => none
  | fuel + 1, c :: rest =>
    let goOn (d : Char) (rest : List Char) : Option (List Char × List Char) :=
      (lines? quote escapes fuel rest).map fun (s, rest) => (d :: s, rest)
    if c = quote then
      let run := (c :: rest).takeWhile (· = quote)
      if 3 ≤ run.length then
        let kept := min (run.length - 3) 2
        some (List.replicate kept quote, (c :: rest).drop (kept + 3))
      else goOn c rest
    else if c = '\\' ∧ escapes then
      match afterBreaks? rest with
      | some rest => lines? quote escapes fuel rest
      | none =>
        match escape? rest with
        | some (d, rest) => goOn d rest
        | none => none
    else if c = '\n' then goOn '\n' rest
    else if c = '\r' then
      match rest with
      | '\n' :: rest => goOn '\n' rest
      | _ => none
    else if isPlain c then goOn c rest
    else none

/-- Text in one line with a quote at its start. -/
def short? (cs : List Char) : Option (List Char × List Char) :=
  match cs with
  | '"' :: rest => line? '"' true cs.length rest
  | '\x27' :: rest => line? '\x27' false cs.length rest
  | _ => none

/-- Text of any kind with its opening quotes. -/
def read? (cs : List Char) : Option (List Char × List Char) :=
  match cs with
  | '"' :: '"' :: '"' :: rest => lines? '"' true cs.length (skipBreak rest)
  | '\x27' :: '\x27' :: '\x27' :: rest => lines? '\x27' false cs.length (skipBreak rest)
  | cs => short? cs

end Registrar.Toml.Quoted
