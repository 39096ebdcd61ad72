import ModePolicy.Pattern.Basic
import ModePolicy.Pattern.Error
import ModePolicy.Text.Blank
import ModePolicy.Text.Hex
import ModePolicy.Text.Identifier

/-!
Reading regular expressions.

An expression is read token by token: a token is a character, or a backslash with the character
after it. The parser always knows the next token, so a backslash at the very end is found as soon as
the token before it has been taken. Reading an expression is one pass; what can only be judged at
its end (references to groups by number, the width of look-behinds) is noted on the way.
-/

namespace ModePolicy.Pattern

/-- A repetition count from here on cannot be represented. -/
def repeatLimit : Nat := 4294967295

/-- A group number from here on cannot be represented. -/
def groupLimit : Nat := 1073741823

/-- What stops the parser. -/
inductive Halt where
  | wrong (cause : Cause) (position : Nat)
  | repeatTooLarge
  deriving DecidableEq, Repr

/-- What the parser knows. -/
structure ParserState where
  size : Nat
  rest : List Char
  groups : Nat := 1
  names : List (String × Nat) := []
  widths : List (Nat × (Nat × Option Nat)) := []
  /-- Inside a look-behind, the number of its first group. -/
  lookBehindFrom : Option Nat := none
  /-- Conditions on group numbers, each with the position of the first. -/
  references : List (Nat × Nat) := []
  flags : Flags := {}
  variableLookBehind : Bool := false

/-- A step of the parser. -/
abbrev Parser (α : Type) := StateT ParserState (Except Halt) α

/-- A character or an escape. -/
inductive Token where
  | plain (c : Char)
  | escaped (c : Char)
  deriving DecidableEq, Repr

/-- The characters of a token. -/
def Token.chars : Token → List Char
  | .plain c => [c]
  | .escaped c => ['\\', c]

/-- A token as text. -/
def Token.text (t : Token) : String := String.ofList t.chars

/-- A letter by itself. -/
def Token.isLetter : Token → Bool
  | .plain c => Text.isLetter c.toNat
  | .escaped _ => false

/-- The first token. -/
def firstToken? : List Char → Option Token
  | [] => none
  | '\\' :: c :: _ => some (.escaped c)
  | c :: _ => some (.plain c)

/-- The position of the next token. -/
def position : Parser Nat := do
  let s ← get
  return s.size - s.rest.length

/-- Stops with an error at a position. -/
def failAt {α : Type} (cause : Cause) (position : Nat) : Parser α := throw (.wrong cause position)

/-- Stops with an error a number of characters before the next token. -/
def failBefore {α : Type} (cause : Cause) (offset : Nat) : Parser α := do
  failAt cause ((← position) - offset)

/-- Goes on with what is left, and looks at the next token. -/
def moveTo (rest : List Char) : Parser Unit := do
  modify fun s => { s with rest := rest }
  if rest == ['\\'] then failBefore .trailingBackslash 0

/-- The next token. -/
def peek : Parser (Option Token) := do
  return firstToken? (← get).rest

/-- Takes the next token. -/
def next : Parser (Option Token) := do
  match ← peek with
  | none => return none
  | some t =>
    moveTo ((← get).rest.drop t.chars.length)
    return some t

/-- Takes the next token if it is this character. -/
def accept (c : Char) : Parser Bool := do
  if (← peek) == some (.plain c) then
    moveTo ((← get).rest.drop 1)
    return true
  else return false

/-- Takes characters of a class, at most `limit` of them. -/
def takeWhile (limit : Nat) (p : Char → Bool) : Parser (List Char) := do
  let taken := ((← get).rest.take limit).takeWhile p
  if !taken.isEmpty then moveTo ((← get).rest.drop taken.length)
  return taken

/-- A digit. -/
def isDigit (c : Char) : Bool := '0' ≤ c && c ≤ '9'

/-- An octal digit. -/
def isOctal (c : Char) : Bool := '0' ≤ c && c ≤ '7'

/-- A hexadecimal digit. -/
def isHex (c : Char) : Bool := (Text.hexValue? c).isSome

/-- The number that digits spell in a base up to ten. -/
def numeral (base : Nat) (cs : List Char) : Nat := cs.foldl (fun n c => n * base + (c.toNat - 48)) 0

/-- The number that hexadecimal digits spell. -/
def hexNumeral (cs : List Char) : Nat := (Text.hexNumber? cs).getD 0

/-- The characters up to a terminator that stands by itself, and what is left from there on. A
backslash at the very end is left. -/
def splitName (terminator : Char) : List Char → List Char × List Char
  | [] => ([], [])
  | ['\\'] => ([], ['\\'])
  | '\\' :: c :: rest =>
    let (name, after) := splitName terminator rest
    ('\\' :: c :: name, after)
  | c :: rest =>
    if c == terminator then ([], c :: rest)
    else
      let (name, after) := splitName terminator rest
      (c :: name, after)

/-- Takes a name and its terminator. -/
def takeName (terminator : Char) (what : String) : Parser (List Char) := do
  let (name, rest) := splitName terminator (← get).rest
  moveTo rest
  match rest with
  | [] =>
    if name.isEmpty then failBefore (.missingName what) 0
    else failBefore (.unterminatedName terminator) name.length
  | _ :: after =>
    moveTo after
    if name.isEmpty then failBefore (.missingName what) 1
    return name

/-- Refuses a group name that is no identifier. -/
def checkName (name : List Char) : Parser Unit := do
  if !Text.isIdentifier name then failBefore (.badName (String.ofList name)) (name.length + 1)

/-- The group has ended. -/
def isClosed (index : Nat) : Parser Bool := do
  return ((← get).widths.lookup index).isSome

/-- Refuses a reference that cannot be followed inside a look-behind. -/
def checkLookBehind (index : Nat) : Parser Unit := do
  match (← get).lookBehindFrom with
  | none => return
  | some first =>
    if !(← isClosed index) then failBefore .openGroup 0
    if index ≥ first then failBefore .groupInLookBehind 0

/-- The width of an expression, given the groups that have ended. -/
def widthHere (p : Pattern) : Parser (Nat × Option Nat) := do
  let widths := (← get).widths
  return p.width fun index => (widths.lookup index).getD (0, some 0)

/-- The kind of characters that a letter after a backslash names. -/
def kindOf? (c : Char) : Option ClassItem :=
  if c == 'd' then some (.kind .digit false)
  else if c == 'D' then some (.kind .digit true)
  else if c == 's' then some (.kind .space false)
  else if c == 'S' then some (.kind .space true)
  else if c == 'w' then some (.kind .word false)
  else if c == 'W' then some (.kind .word true)
  else none

/-- The place that a letter after a backslash names. -/
def anchorOf? (c : Char) : Option Anchor :=
  if c == 'A' then some .textStart
  else if c == 'Z' then some .textEnd
  else if c == 'b' then some .wordEdge
  else if c == 'B' then some .noWordEdge
  else none

/-- The control character that a letter after a backslash names. -/
def controlOf? (c : Char) : Option Nat :=
  if c == 'a' then some 7
  else if c == 'b' then some 8
  else if c == 't' then some 9
  else if c == 'n' then some 10
  else if c == 'v' then some 11
  else if c == 'f' then some 12
  else if c == 'r' then some 13
  else none

/-- Reads the digits of an escape by code. -/
def takeCode (letter : Char) (count : Nat) : Parser Nat := do
  let digits ← takeWhile count isHex
  let text := '\\' :: letter :: digits
  if digits.length != count then failBefore (.incompleteEscape (String.ofList text)) text.length
  let code := hexNumeral digits
  if code ≥ 0x110000 then failBefore (.badEscape (String.ofList text)) text.length
  return code

/-- Reads an escape by code or by name, or an escaped character that stands for itself. -/
def takeEscapedCode (c : Char) : Parser Nat := do
  if c == 'x' then takeCode c 2
  else if c == 'u' then takeCode c 4
  else if c == 'U' then takeCode c 8
  else if c == 'N' then
    if !(← accept '\x7b') then failBefore .missingBrace 0
    let name ← takeName '\x7d' "character name"
    failBefore (.unknownCharacter (String.ofList name)) (name.length + 4)
  else if Text.isAsciiLetter c.toNat then failBefore (.badEscape (Token.escaped c).text) 2
  else return c.toNat

/-- Reads the rest of an escape inside a character class. -/
def classEscape (c : Char) : Parser ClassItem := do
  match kindOf? c with
  | some item => return item
  | none =>
    match controlOf? c with
    | some n => return .code n
    | none =>
      if isOctal c then
        let digits ← takeWhile 2 isOctal
        let text := '\\' :: c :: digits
        let code := numeral 8 (c :: digits)
        if code > 0o377 then failBefore (.octalEscape (String.ofList text)) text.length
        return .code code
      else if isDigit c then failBefore (.badEscape (Token.escaped c).text) 2
      else return .code (← takeEscapedCode c)

/-- Reads one end of a range or a single member of a character class. -/
def classMember : Token → Parser ClassItem
  | .escaped c => classEscape c
  | .plain c => return .code c.toNat

/-- Reads the members of a character class up to its closing bracket; `start` is where the class
began. -/
def classMembers (start : Nat) : Nat → List ClassItem → Parser (List ClassItem)
  | 0, _ => failAt .unterminatedClass start
  | steps + 1, members => do
    match ← next with
    | none => failAt .unterminatedClass start
    | some token =>
      if token == .plain ']' && !members.isEmpty then return members
      let first ← classMember token
      if ← accept '-' then
        match ← next with
        | none => failAt .unterminatedClass start
        | some last =>
          if last == .plain ']' then return members ++ [first, .code '-'.toNat]
          let second ← classMember last
          let wrong : Cause := .badRange token.text last.text
          let offset := token.chars.length + 1 + last.chars.length
          match first, second with
          | .code low, .code high =>
            if high < low then failBefore wrong offset
            classMembers start steps (members ++ [.range low high])
          | _, _ => failBefore wrong offset
      else classMembers start steps (members ++ [first])

/-- Reads a character class after its opening bracket. -/
def characterClass : Parser Pattern := do
  let start := (← position) - 1
  let negated ← accept '^'
  let members ← classMembers start ((← get).rest.length + 1) []
  return .ofClass negated members

/-- A part of a sequence, with what a repetition must know about it. -/
structure Item where
  pattern : Pattern
  isAnchor : Bool := false
  isRepetition : Bool := false

/-- Reads the rest of an escape outside a character class. -/
def escape (c : Char) : Parser Item := do
  match anchorOf? c, kindOf? c, controlOf? c with
  | some a, _, _ => return { pattern := .anchor a, isAnchor := true }
  | _, some item, _ => return { pattern := .oneOf false [item] }
  | _, _, some n => return { pattern := .code n }
  | none, none, none =>
    if c == '0' then
      return { pattern := .code (numeral 8 (← takeWhile 2 isOctal)) }
    else if isDigit c then
      let second ← takeWhile 1 isDigit
      let third ← if isOctal c && !second.isEmpty && second.all isOctal then takeWhile 1 isOctal
        else pure []
      let digits := c :: second ++ third
      if !third.isEmpty then
        let code := numeral 8 digits
        if code > 0o377 then failBefore (.octalEscape (String.ofList ('\\' :: digits))) 4
        return { pattern := .code code }
      let index := numeral 10 digits
      if index < (← get).groups then
        if !(← isClosed index) then failBefore .openGroup (digits.length + 1)
        checkLookBehind index
        return { pattern := .again index }
      failBefore (.invalidGroup index) digits.length
    else return { pattern := .code (← takeEscapedCode c) }

/-- Reads the bounds of a repetition after its opening brace; none if the brace begins no
repetition. -/
def bounds? : Parser (Option (Nat × Option Nat)) := do
  let before := (← get).rest
  let here ← position
  if (← peek) == some (.plain '\x7d') then return none
  let low ← takeWhile before.length isDigit
  let comma ← accept ','
  let high ← if comma then takeWhile before.length isDigit else pure low
  if !(← accept '\x7d') then
    moveTo before
    return none
  let least := numeral 10 low
  let most := if high.isEmpty then none else some (numeral 10 high)
  if least ≥ repeatLimit || most.any (· ≥ repeatLimit) then throw .repeatTooLarge
  if most.any (· < least) then failAt .repeatBounds here
  return some (least, most)

/-- Reads how a repetition is tried, and makes it of the part before; `start` is where it began. -/
def repetition (start least : Nat) (most : Option Nat) (items : List Item) :
    Parser (List Item) := do
  match items with
  | [] => failAt .nothingToRepeat start
  | item :: others =>
    if item.isAnchor then failAt .nothingToRepeat start
    if item.isRepetition then failAt .multipleRepeat start
    let isLazy ← accept '?'
    let isPossessive ← if isLazy then pure false else accept '+'
    let greed := if isLazy then Greed.lazy else if isPossessive then .possessive else .greedy
    let more := most.map (· - least)
    return { pattern := .repeated least more greed item.pattern, isRepetition := true } :: others

/-- The flag of a letter. -/
def flagOf? : Token → Option Flags
  | .plain c =>
    if c == 'i' then some { ignoreCase := true }
    else if c == 'm' then some { multiLine := true }
    else if c == 's' then some { dotAll := true }
    else if c == 'x' then some { verbose := true }
    else if c == 'a' then some { ascii := true }
    else if c == 'u' then some { unicode := true }
    else if c == 't' then some { template := true }
    else none
  | .escaped _ => none

/-- Reads flags to switch on, the first of which has been taken, up to the token that ends them. -/
def flagsOn : Nat → Token → Flags → Parser (Flags × Token)
  | 0, _, _ => failBefore .missingFlagEnd 0
  | steps + 1, token, flags => do
    if token == .plain 'L' then failBefore .localeFlag 0
    let flags := flags.union ((flagOf? token).getD {})
    if flags.ascii && flags.unicode then failBefore .incompatibleFlags 0
    match ← next with
    | none => failBefore .missingFlagEnd 0
    | some token =>
      if token == .plain ')' || token == .plain '-' || token == .plain ':' then
        return (flags, token)
      if (flagOf? token).isNone && token != .plain 'L' then
        failBefore (if token.isLetter then .unknownFlag else .missingFlagEnd) token.chars.length
      flagsOn steps token flags

/-- Reads flags to switch off, the first of which has been taken, up to the colon. -/
def flagsOff : Nat → Token → Flags → Parser Flags
  | 0, _, _ => failBefore .missingColon 0
  | steps + 1, token, flags => do
    if token == .plain 'L' || token == .plain 'a' || token == .plain 'u' then
      failBefore .kindFlagOff 0
    let flags := flags.union ((flagOf? token).getD {})
    match ← next with
    | none => failBefore .missingColon 0
    | some token =>
      if token == .plain ':' then return flags
      if (flagOf? token).isNone && token != .plain 'L' then
        failBefore (if token.isLetter then .unknownFlag else .missingColon) token.chars.length
      flagsOff steps token flags

/-- Reads the flags of a group, the first token of which has been taken. Flags for the whole
expression are set and give none; flags for a part are given as those on and those off. -/
def groupFlags (token : Token) : Parser (Option (Flags × Flags)) := do
  let steps := (← get).rest.length + 1
  let (on, ending) ← if token == .plain '-' then pure (({} : Flags), token)
    else flagsOn steps token {}
  if ending == .plain ')' then
    modify fun s => { s with flags := s.flags.union on }
    return none
  if on.template then failBefore .globalFlagOn 1
  if ending == .plain '-' then
    match ← next with
    | none => failBefore .missingFlag 0
    | some token =>
      if (flagOf? token).isNone && token != .plain 'L' then
        failBefore (if token.isLetter then .unknownFlag else .missingFlag) token.chars.length
      let off ← flagsOff steps token {}
      if off.template then failBefore .globalFlagOff 1
      if !(on.inter off).isEmpty then failBefore .flagOnAndOff 1
      return some (on, off)
  return some (on, {})

/-- The number that a text spells in decimal digits of any script. White space around it, a sign
before it and single low lines between digits are allowed. -/
def groupNumber? (cs : List Char) : Option Nat :=
  let cs := Text.trim cs
  let (negative, cs) := match cs with
    | '-' :: rest => (true, rest)
    | '+' :: rest => (false, rest)
    | _ => (false, cs)
  let rec digits (value : Nat) (afterDigit : Bool) : List Char → Option Nat
    | [] => if afterDigit then some value else none
    | c :: rest =>
      if c == '_' then if afterDigit then digits value false rest else none
      else match Text.decimalDigitValue? c.toNat with
        | some d => digits (value * 10 + d) true rest
        | none => none
  match digits 0 false cs with
  | some 0 => some 0
  | some n => if negative then none else some n
  | none => none

/-- Reads the condition of a conditional after its opening parenthesis. -/
def condition : Parser Nat := do
  let name ← takeName ')' "group name"
  let index ← if Text.isIdentifier name then
      match (← get).names.lookup (String.ofList name) with
      | none => failBefore (.unknownName (String.ofList name)) (name.length + 1)
      | some index => pure index
    else
      match groupNumber? name with
      | none => failBefore (.badName (String.ofList name)) (name.length + 1)
      | some index => do
        if index == 0 then failBefore .badGroupNumber (name.length + 1)
        if index ≥ groupLimit then failBefore (.invalidGroup index) (name.length + 1)
        let here := (← position) - name.length - 1
        modify fun s =>
          if (s.references.lookup index).isSome then s
          else { s with references := s.references ++ [(index, here)] }
        pure index
  checkLookBehind index
  return index

/-- Begins a group that keeps its text. -/
def openGroup (name : Option (List Char)) : Parser Nat := do
  let index := (← get).groups
  match name with
  | none => pure ()
  | some name =>
    match (← get).names.lookup (String.ofList name) with
    | some earlier =>
      failBefore (.redefinedName (String.ofList name) index earlier) (name.length + 1)
    | none => modify fun s => { s with names := (String.ofList name, index) :: s.names }
  modify fun s => { s with groups := index + 1 }
  return index

/-- Ends a group that keeps its text. -/
def closeGroup (index : Nat) (body : Pattern) : Parser Unit := do
  let width ← widthHere body
  modify fun s => { s with widths := (index, width) :: s.widths }

/-- Takes the parenthesis that ends the group begun at a position. -/
def endGroup (start : Nat) : Parser Unit := do
  if !(← accept ')') then failAt .unterminatedGroup start

/-- How a group begins. -/
inductive GroupHead where
  | capture (name : Option (List Char))
  | bare
  | atomic
  | flagged (on off : Flags)
  | globalFlags
  | comment
  | again (index : Nat)
  | ahead (negated : Bool)
  | behind (negated : Bool)
  | ifGroup (index : Nat)

/-- Skips a comment up to its parenthesis; `start` is where it began. -/
def skipComment (start : Nat) : Nat → Parser Unit
  | 0 => failAt .unterminatedComment start
  | steps + 1 => do
    match ← next with
    | none => failAt .unterminatedComment start
    | some token => if token != .plain ')' then skipComment start steps

/-- Reads how a group begins, after its parenthesis, which stood at `start`. -/
def groupHead (start : Nat) : Parser GroupHead := do
  if !(← accept '?') then return .capture none
  match ← next with
  | none => failBefore .unexpectedEnd 0
  | some token =>
    if token == .plain 'P' then
      if ← accept '<' then
        let name ← takeName '>' "group name"
        checkName name
        return .capture (some name)
      else if ← accept '=' then
        let name ← takeName ')' "group name"
        checkName name
        match (← get).names.lookup (String.ofList name) with
        | none => failBefore (.unknownName (String.ofList name)) (name.length + 1)
        | some index =>
          if !(← isClosed index) then failBefore .openGroup (name.length + 1)
          checkLookBehind index
          return .again index
      else
        match ← next with
        | none => failBefore .unexpectedEnd 0
        | some other => failBefore (.unknownExtension ("P" ++ other.text)) (other.chars.length + 2)
    else if token == .plain ':' then return .bare
    else if token == .plain '#' then
      skipComment start ((← get).rest.length + 1)
      return .comment
    else if token == .plain '=' then return .ahead false
    else if token == .plain '!' then return .ahead true
    else if token == .plain '<' then
      match ← next with
      | none => failBefore .unexpectedEnd 0
      | some other =>
        if other == .plain '=' then return .behind false
        else if other == .plain '!' then return .behind true
        else failBefore (.unknownExtension ("<" ++ other.text)) (other.chars.length + 2)
    else if token == .plain '(' then return .ifGroup (← condition)
    else if token == .plain '>' then return .atomic
    else if (flagOf? token).isSome || token == .plain 'L' || token == .plain '-' then
      match ← groupFlags token with
      | none => return .globalFlags
      | some (on, off) => return .flagged on off
    else failBefore (.unknownExtension token.text) (token.chars.length + 1)

/-- Skips a comment of a verbose expression up to the end of its line. -/
def skipLine : Nat → Parser Unit
  | 0 => return
  | steps + 1 => do
    match ← next with
    | none => return
    | some token => if token != .plain '\n' then skipLine steps

/-- White space that a verbose expression may hold. -/
def isLayout (c : Char) : Bool := Text.isAsciiBlankCode c.toNat

/-- The parts of a sequence, last part first, as one expression. -/
def sequenceOf (items : List Item) : Pattern := .ofList (items.reverse.flatMap (·.pattern.parts))

mutual

/-- Reads alternatives up to a closing parenthesis or the end. The first argument bounds the
steps. -/
def alternatives (steps : Nat) (verbose nested isFirst : Bool) : Parser (List Pattern) :=
  match steps with
  | 0 => failBefore .unexpectedEnd 0
  | steps + 1 => do
    let first ← sequenceItems steps verbose (!nested && isFirst) []
    if ← accept '|' then
      let flags := (← get).flags
      let verbose := if nested then verbose else flags.verbose
      return first :: (← alternatives steps verbose nested false)
    else return [first]

/-- Reads the parts of a sequence; `items` holds those read so far, the last one first. Where
`mayFlag` holds, flags for the whole expression may stand before the first part. -/
def sequenceItems (steps : Nat) (verbose mayFlag : Bool) (items : List Item) : Parser Pattern :=
  match steps with
  | 0 => failBefore .unexpectedEnd 0
  | steps + 1 => do
    match ← peek with
    | none => return sequenceOf items
    | some token =>
      if token == .plain '|' || token == .plain ')' then return sequenceOf items
      let start ← position
      discard next
      match token with
      | .escaped c => sequenceItems steps verbose mayFlag ((← escape c) :: items)
      | .plain c =>
        if verbose && isLayout c then sequenceItems steps verbose mayFlag items
        else if verbose && c == '#' then
          skipLine ((← get).rest.length + 1)
          sequenceItems steps verbose mayFlag items
        else if c == '[' then
          sequenceItems steps verbose mayFlag ({ pattern := ← characterClass } :: items)
        else if c == '?' then
          sequenceItems steps verbose mayFlag (← repetition start 0 (some 1) items)
        else if c == '*' then
          sequenceItems steps verbose mayFlag (← repetition start 0 none items)
        else if c == '+' then
          sequenceItems steps verbose mayFlag (← repetition start 1 none items)
        else if c == '\x7b' then
          match ← bounds? with
          | none => sequenceItems steps verbose mayFlag ({ pattern := .code c.toNat } :: items)
          | some (least, most) =>
            sequenceItems steps verbose mayFlag (← repetition start least most items)
        else if c == '.' then sequenceItems steps verbose mayFlag ({ pattern := .any } :: items)
        else if c == '^' then
          sequenceItems steps verbose mayFlag
            ({ pattern := .anchor .lineStart, isAnchor := true } :: items)
        else if c == '$' then
          sequenceItems steps verbose mayFlag
            ({ pattern := .anchor .lineEnd, isAnchor := true } :: items)
        else if c == '(' then
          match ← groupHead start with
          | .comment => sequenceItems steps verbose mayFlag items
          | .globalFlags =>
            if !mayFlag || !items.isEmpty then failAt .misplacedFlags start
            sequenceItems steps (← get).flags.verbose mayFlag items
          | head =>
            let item := { pattern := ← group steps verbose start head }
            sequenceItems steps verbose mayFlag (item :: items)
        else sequenceItems steps verbose mayFlag ({ pattern := .code c.toNat } :: items)

/-- Reads the body and the end of a group that began at `start`. -/
def group (steps : Nat) (verbose : Bool) (start : Nat) (head : GroupHead) : Parser Pattern :=
  match steps with
  | 0 => failBefore .unexpectedEnd 0
  | steps + 1 =>
    match head with
    | .capture name => do
      let index ← openGroup name
      let body ← ofBranches <$> alternatives steps verbose true false
      endGroup start
      closeGroup index body
      return .capture index body
    | .bare => do
      let body ← ofBranches <$> alternatives steps verbose true false
      endGroup start
      return body
    | .atomic => do
      let body ← ofBranches <$> alternatives steps verbose true false
      endGroup start
      return .atomic body
    | .flagged on off => do
      let verbose := (verbose || on.verbose) && !off.verbose
      let body ← ofBranches <$> alternatives steps verbose true false
      endGroup start
      return .flagged on off body
    | .ahead negated => do
      let body ← ofBranches <$> alternatives steps verbose true false
      endGroup start
      return .ahead negated body
    | .behind negated => do
      let outer := (← get).lookBehindFrom
      modify fun s => { s with lookBehindFrom := some (outer.getD s.groups) }
      let body ← ofBranches <$> alternatives steps verbose true false
      modify fun s => { s with lookBehindFrom := outer }
      endGroup start
      let (least, most) ← widthHere body
      if most != some least || least ≥ repeatLimit then
        modify fun s => { s with variableLookBehind := true }
      return .behind negated least body
    | .ifGroup index => do
      let yes ← sequenceItems steps verbose false []
      let no ← if ← accept '|' then
          let no ← sequenceItems steps verbose false []
          if (← peek) == some (.plain '|') then failBefore .tooManyBranches 0
          pure no
        else pure .empty
      endGroup start
      return .ifGroup index yes no
    | .again index => return .again index
    | .globalFlags | .comment => return .empty

end

/-- Reads a whole expression. -/
def expression : Parser Regex := do
  moveTo (← get).rest
  let body ← ofBranches <$> alternatives (4 * (← get).size + 8) false false true
  return { body := body, flags := (← get).flags, least := (← widthHere body).1 }

/-- Reads the text of a regular expression. -/
def compileChars (source : List Char) : Except Defect Regex := do
  let wrong (cause : Cause) (position : Option Nat) : Defect :=
    .syntaxError ⟨source, cause, position⟩
  match expression.run { size := source.length, rest := source } with
  | .error .repeatTooLarge => throw .repeatTooLarge
  | .error (.wrong cause position) => throw (wrong cause (some position))
  | .ok (regex, s) =>
    if s.flags.ascii && s.flags.unicode then throw .flagConflict
    if !s.rest.isEmpty then throw (wrong .unbalanced (some (source.length - s.rest.length)))
    match s.references.find? fun r => r.1 ≥ s.groups with
    | some (index, position) => throw (wrong (.invalidGroup index) (some position))
    | none =>
      if s.variableLookBehind then throw (wrong .lookBehindWidth none)
      match regex.body.firstRepetition? with
      | some greed =>
        if regex.flags.template then throw (wrong (.templateRepetition greed) none)
        return regex
      | none => return regex

/-- Reads the text of a regular expression. -/
def compile (source : String) : Except Defect Regex := compileChars source.toList

end ModePolicy.Pattern
