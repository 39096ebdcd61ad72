import ModePolicy.Json.Basic
import ModePolicy.Text.Hex
import ModePolicy.Text.Lines

/-!
Reading JSON text.

The reader goes through the characters once and stops at the first that cannot be read; a fault
names its cause and holds the characters from there on, which gives its place. Beyond the standard
it accepts `NaN`, `Infinity` and `-Infinity`. A name that is repeated within an object keeps its
first place and its last value.
-/

namespace ModePolicy.Json

/-- Why a text is not JSON. -/
inductive ReadCause where
  | value
  | name
  | colon
  | comma
  | extra
  | unterminated
  | control
  | escape
  | unicodeEscape
  | byteOrderMark
  deriving DecidableEq, Repr

/-- The wording of a cause. -/
def ReadCause.message : ReadCause → String
  | .value => "Expecting value"
  | .name => "Expecting property name enclosed in double quotes"
  | .colon => "Expecting ':' delimiter"
  | .comma => "Expecting ',' delimiter"
  | .extra => "Extra data"
  | .unterminated => "Unterminated string starting at"
  | .control => "Invalid control character at"
  | .escape => "Invalid \\escape"
  | .unicodeEscape => "Invalid \\uXXXX escape"
  | .byteOrderMark => "Unexpected UTF-8 BOM (decode using utf-8-sig)"

/-- A cause and the characters from the place where it was found. -/
structure Fault where
  cause : ReadCause
  rest : List Char
  deriving DecidableEq, Repr

/-- A cause and its place in the text. -/
structure ReadError where
  cause : ReadCause
  place : Text.Place
  deriving DecidableEq, Repr

/-- White space between the parts of JSON. -/
def isSpace (c : Char) : Bool := c == ' ' || c == '\t' || c == '\n' || c == '\r'

/-- The characters after the white space. -/
def skipSpace (cs : List Char) : List Char := cs.dropWhile isSpace

/-- The character that a one-letter escape stands for. -/
def unescape? (c : Char) : Option Char :=
  if c == '\x22' || c == '\\' || c == '/' then some c
  else if c == 'b' then some '\x08'
  else if c == 'f' then some '\x0c'
  else if c == 'n' then some '\n'
  else if c == 'r' then some '\r'
  else if c == 't' then some '\t'
  else none

/-- The first half of a surrogate pair. -/
def isHighSurrogate (n : Nat) : Bool := 0xD800 ≤ n && n ≤ 0xDBFF

/-- The second half of a surrogate pair. -/
def isLowSurrogate (n : Nat) : Bool := 0xDC00 ≤ n && n ≤ 0xDFFF

/-- The character of a surrogate pair. -/
def joinSurrogates (high low : Nat) : Char :=
  Char.ofNat (0x10000 + (high - 0xD800) * 0x400 + (low - 0xDC00))

/-- The character of a code; half a surrogate pair becomes the replacement character. -/
def charOfCode (n : Nat) : Char := if 0xD800 ≤ n && n ≤ 0xDFFF then '\uFFFD' else Char.ofNat n

/-- Reads the inside of a string up to its closing quotation mark; `start` begins at the opening
one. -/
def readString (start : List Char) : List Char → Except Fault (List Char × List Char)
  | [] => .error ⟨.unterminated, start⟩
  | '\\' :: 'u' :: a :: b :: c :: d :: '\\' :: 'u' :: e :: f :: g :: h :: x :: rest =>
    match Text.hexNumber? [a, b, c, d] with
    | none =>
      .error ⟨.unicodeEscape,
        'u' :: a :: b :: c :: d :: '\\' :: 'u' :: e :: f :: g :: h :: x :: rest⟩
    | some high =>
      if isHighSurrogate high then
        match Text.hexNumber? [e, f, g, h] with
        | none => .error ⟨.unicodeEscape, 'u' :: e :: f :: g :: h :: x :: rest⟩
        | some low =>
          if isLowSurrogate low then do
            let (cs, after) ← readString start (x :: rest)
            return (joinSurrogates high low :: cs, after)
          else do
            let (cs, after) ← readString start ('\\' :: 'u' :: e :: f :: g :: h :: x :: rest)
            return (charOfCode high :: cs, after)
      else do
        let (cs, after) ← readString start ('\\' :: 'u' :: e :: f :: g :: h :: x :: rest)
        return (charOfCode high :: cs, after)
  | '\\' :: 'u' :: a :: b :: c :: d :: x :: rest =>
    match Text.hexNumber? [a, b, c, d] with
    | none => .error ⟨.unicodeEscape, 'u' :: a :: b :: c :: d :: x :: rest⟩
    | some n => do
      let (cs, after) ← readString start (x :: rest)
      return (charOfCode n :: cs, after)
  | '\\' :: 'u' :: rest => .error ⟨.unicodeEscape, 'u' :: rest⟩
  | ['\\'] => .error ⟨.unterminated, start⟩
  | '\\' :: c :: rest =>
    match unescape? c with
    | none => .error ⟨.escape, '\\' :: c :: rest⟩
    | some e => do
      let (cs, after) ← readString start rest
      return (e :: cs, after)
  | c :: rest =>
    if c == '\x22' then .ok ([], rest)
    else if c.toNat < 0x20 then .error ⟨.control, c :: rest⟩
    else do
      let (cs, after) ← readString start rest
      return (c :: cs, after)

/-- A decimal digit of ASCII. -/
def isDigit (c : Char) : Bool := '0' ≤ c && c ≤ '9'

/-- The number that decimal digits spell. -/
def decimal (cs : List Char) : Nat := cs.foldl (fun n c => n * 10 + (c.toNat - 48)) 0

/-- The whole part of a number: a lone zero, or digits that do not start with one. -/
def wholePart? : List Char → Option (List Char × List Char)
  | [] => none
  | c :: rest =>
    if c == '0' then some ([c], rest)
    else if isDigit c then some (c :: rest.takeWhile isDigit, rest.dropWhile isDigit)
    else none

/-- The digits after a point; a point without a digit is left alone. -/
def fractionPart : List Char → List Char × List Char
  | '.' :: c :: rest =>
    if isDigit c then (c :: rest.takeWhile isDigit, rest.dropWhile isDigit)
    else ([], '.' :: c :: rest)
  | cs => ([], cs)

/-- The exponent; a letter without digits after it is left alone. -/
def exponentPart (cs : List Char) : Option Int × List Char :=
  match cs with
  | [] => (none, cs)
  | e :: rest =>
    if e == 'e' || e == 'E' then
      let (negative, digits) := match rest with
        | '-' :: r => (true, r)
        | '+' :: r => (false, r)
        | r => (false, r)
      match digits.takeWhile isDigit with
      | [] => (none, cs)
      | ds =>
        (some (if negative then -(decimal ds : Int) else decimal ds), digits.dropWhile isDigit)
    else (none, cs)

/-- Reads a number. -/
def readNumber? (cs : List Char) : Option (Json × List Char) := do
  let (negative, unsigned) := match cs with
    | '-' :: rest => (true, rest)
    | _ => (false, cs)
  let (whole, rest) ← wholePart? unsigned
  let (fraction, rest) := fractionPart rest
  let (exponent, rest) := exponentPart rest
  let value : Json :=
    if fraction.isEmpty && exponent.isNone then
      .int (if negative then -(decimal whole : Int) else decimal whole)
    else
      .float (.ofDecimal negative (decimal (whole ++ fraction)) (exponent.getD 0 - fraction.length))
  return (value, rest)

/-- Reads a value that is no string, list or object. -/
def readScalar (cs : List Char) : Except Fault (Json × List Char) :=
  match cs with
  | 'n' :: 'u' :: 'l' :: 'l' :: rest => .ok (.null, rest)
  | 't' :: 'r' :: 'u' :: 'e' :: rest => .ok (.bool true, rest)
  | 'f' :: 'a' :: 'l' :: 's' :: 'e' :: rest => .ok (.bool false, rest)
  | 'N' :: 'a' :: 'N' :: rest => .ok (.float .nan, rest)
  | 'I' :: 'n' :: 'f' :: 'i' :: 'n' :: 'i' :: 't' :: 'y' :: rest =>
    .ok (.float (.infinity false), rest)
  | '-' :: 'I' :: 'n' :: 'f' :: 'i' :: 'n' :: 'i' :: 't' :: 'y' :: rest =>
    .ok (.float (.infinity true), rest)
  | _ =>
    match readNumber? cs with
    | some result => .ok result
    | none => .error ⟨.value, cs⟩

mutual

/-- Reads a value. The first argument bounds the steps; the length of the text is enough. -/
def readValue (steps : Nat) (cs : List Char) : Except Fault (Json × List Char) :=
  match steps with
  | 0 => .error ⟨.value, cs⟩
  | steps + 1 =>
    match cs with
    | '\x22' :: rest => do
      let (text, after) ← readString cs rest
      return (.str (String.ofList text), after)
    | '\x7b' :: rest =>
      match skipSpace rest with
      | '\x7d' :: after => .ok (.obj [], after)
      | inside => do
        let (fields, after) ← readFields steps inside
        return (.obj (Fields.ofList fields), after)
    | '[' :: rest =>
      match skipSpace rest with
      | ']' :: after => .ok (.arr [], after)
      | inside => do
        let (items, after) ← readItems steps inside
        return (.arr items, after)
    | _ => readScalar cs

/-- Reads the items of a list up to its closing bracket. -/
def readItems (steps : Nat) (cs : List Char) : Except Fault (List Json × List Char) :=
  match steps with
  | 0 => .error ⟨.value, cs⟩
  | steps + 1 => do
    let (item, after) ← readValue steps cs
    match skipSpace after with
    | ']' :: rest => return ([item], rest)
    | ',' :: rest =>
      let (items, rest) ← readItems steps (skipSpace rest)
      return (item :: items, rest)
    | rest => .error ⟨.comma, rest⟩

/-- Reads the fields of an object up to its closing brace. -/
def readFields (steps : Nat) (cs : List Char) : Except Fault (List (String × Json) × List Char) :=
  match steps with
  | 0 => .error ⟨.value, cs⟩
  | steps + 1 =>
    match cs with
    | '\x22' :: inside => do
      let (name, after) ← readString cs inside
      match skipSpace after with
      | ':' :: rest =>
        let (value, after) ← readValue steps (skipSpace rest)
        match skipSpace after with
        | '\x7d' :: rest => return ([(String.ofList name, value)], rest)
        | ',' :: rest =>
          let (fields, rest) ← readFields steps (skipSpace rest)
          return ((String.ofList name, value) :: fields, rest)
        | rest => .error ⟨.comma, rest⟩
      | rest => .error ⟨.colon, rest⟩
    | _ => .error ⟨.name, cs⟩

end

/-- Reads a text that holds one value and nothing else. -/
def readDocument (cs : List Char) : Except Fault Json :=
  match cs with
  | '\uFEFF' :: _ => .error ⟨.byteOrderMark, cs⟩
  | _ => do
    let (value, after) ← readValue (2 * cs.length + 1) (skipSpace cs)
    match skipSpace after with
    | [] => return value
    | rest => .error ⟨.extra, rest⟩

/-- The value that a text holds. -/
def parse (text : String) : Except ReadError Json :=
  (readDocument text.toList).mapError fun fault =>
    ⟨fault.cause, .after (text.toList.take (text.toList.length - fault.rest.length))⟩

end ModePolicy.Json
