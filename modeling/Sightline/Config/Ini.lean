import Sightline.Text.Blank
import Sightline.Text.Numeral

/-!
# INI texts

A text is a sequence of section headings and entries. Comments take whole lines; a value runs to
the end of its line and may be quoted in parts; a backslash escapes the next character.

A line that begins with a space or a tab is indented. An indented heading is like any other, but
an indented comment sign belongs to a key, and an indented key that cannot be read is passed over.
The first line of a text may be indented, and so may a line after a heading, a value or a blank
line. The line straight after a comment is not: the blanks in front of its text are dropped.
-/

namespace Sightline.Ini

/-- A part of a text. -/
inductive Item
  | heading (name : String)
  | entry (key value : String)
  deriving DecidableEq, Repr

/-- A text in the order of its parts. -/
abbrev Document := List Item

/-! ### Looking up -/

/-- The entries under the first heading of a name. -/
def entries (name : String) : Document → List (String × String)
  | [] => []
  | .heading n :: rest => if n = name then takeEntries rest else entries name rest
  | .entry _ _ :: rest => entries name rest
where
  /-- The entries up to the next heading. -/
  takeEntries : Document → List (String × String)
    | .entry key value :: rest => (key, value) :: takeEntries rest
    | _ => []

/-- The first value of a key under the first heading of a name. -/
def value? (doc : Document) (name key : String) : Option String :=
  ((entries name doc).find? fun e => e.1 = key).map (·.2)

/-! ### Reading -/

/-- What an escaped character stands for. -/
def unescape : Char → Char
  | '0' => '\x00'
  | 'a' => '\x07'
  | 'b' => '\x08'
  | 't' => '\t'
  | 'r' => '\r'
  | 'n' => '\n'
  | c => c

/-- The character of a four-place code; the first place may be a plus sign. -/
def codeChar? (code : List Char) : Option Char := do
  let digits := match code with
    | '+' :: rest => rest
    | digits => digits
  let n ← Text.hexNumber? digits
  if n.isValidChar then some (Char.ofNat n) else none

/-- A place in a text: what follows, and whether that begins a line. -/
structure Place where
  atStart : Bool
  rest : List Char
  deriving DecidableEq, Repr

/-- Where the reading of a bad code stops, `left` places before its last one. A backslash in a code
has to end its line. -/
def codeStop (atStart : Bool) (left : Nat) : List Char → Place
  | [] => ⟨false, []⟩
  | '\\' :: '\n' :: rest =>
    match left with
    | 0 => ⟨false, '\n' :: rest⟩
    | left + 1 => codeStop true left rest
  | '\\' :: rest => ⟨false, rest⟩
  | c :: rest =>
    match left with
    | 0 => ⟨atStart, c :: rest⟩
    | left + 1 => codeStop (c = '\n') left rest

/-- Reads up to a character that stops, which is left. The end of the text stops only where
`endStops` says so; otherwise the place where the reading failed is answered. A backslash before a
line end joins lines, and at the end of the text it stands for itself. -/
def readUntil (stops : Char → Bool) (endStops : Bool) :
    List Char → Except Place (List Char × List Char)
  | [] => if endStops then .ok ([], []) else .error ⟨false, []⟩
  | '\\' :: rest =>
    match rest with
    | [] => if endStops then .ok (['\\'], []) else .error ⟨false, []⟩
    | '\n' :: rest => readUntil stops endStops rest
    | 'x' :: a :: b :: c :: d :: rest =>
      match codeChar? [a, b, c, d] with
      | none => .error (codeStop false 3 (a :: b :: c :: d :: rest))
      | some code => do
        let (text, rest) ← readUntil stops endStops rest
        return (code :: text, rest)
    | 'x' :: rest => .error (codeStop false 3 rest)
    | c :: rest => do
      let (text, rest) ← readUntil stops endStops rest
      return (unescape c :: text, rest)
  | c :: rest =>
    if stops c then .ok ([], c :: rest) else do
      let (text, rest) ← readUntil stops endStops rest
      return (c :: text, rest)

/-- Whether a character ends a line. -/
def isLineEnd (c : Char) : Bool := c = '\n' || c = '\r'

/-- A value after its delimiter and blanks: quoted parts, then text to the end of the line. Text
after a quoted part keeps its blanks in front. -/
def readParts : Nat → Bool → List Char → Option (List Char × List Char)
  | 0, _, _ => none
  | _ + 1, _, [] => some ([], [])
  | fuel + 1, first, q :: rest =>
    if q = '"' ∨ q = '\'' then do
      let (part, rest) ← (readUntil (· = q) false rest).toOption
      let (text, rest) ← readParts fuel false (rest.drop 1)
      return (part ++ text, rest)
    else do
      let (text, rest) ← (readUntil isLineEnd true (q :: rest)).toOption
      return (if first then Text.trim text else Text.trimEnd text, rest)

/-- A value after its delimiter. -/
def readValue (cs : List Char) : Option (List Char × List Char) :=
  let cs := cs.dropWhile fun c => Text.isBlank c && !isLineEnd c
  readParts (cs.length + 1) true cs

/-- Whether a character indents a line. -/
def isIndent (c : Char) : Bool := c = ' ' || c = '\t'

/-- Drops the blanks before the next part of a text. Where a line end is dropped and an indent
follows, the indent is left. -/
def skipBlanks (atStart : Bool) : List Char → Place
  | [] => ⟨atStart, []⟩
  | c :: rest =>
    if isLineEnd c then
      if rest.head?.any isIndent then ⟨c = '\n', rest⟩ else skipBlanks (c = '\n') rest
    else if Text.isBlank c then skipBlanks false rest
    else ⟨atStart, c :: rest⟩

/-- Drops the rest of a comment with its line end. -/
def skipComment (cs : List Char) : List Char := (cs.dropWhile (· != '\n')).drop 1

/-- Whether a character ends a key. -/
def isDelimiter (c : Char) : Bool := c = '=' || c = ':'

/-- Reads the parts of a text from a place on. Every part takes a unit of fuel, and so do an indent
without a key and a line end that no earlier part has dropped. -/
def readItems : Nat → Place → Option Document
  | 0, _ => none
  | _ + 1, ⟨_, []⟩ => some []
  | fuel + 1, ⟨atStart, c :: rest⟩ =>
    if isLineEnd c then readItems fuel (skipBlanks (c = '\n') rest)
    else if c = ';' ∨ c = '#' then
      if atStart then readItems fuel (skipBlanks true (skipComment rest)) else none
    else if c = '[' then do
      let (name, rest) ← (readUntil (· = ']') false rest).toOption
      let items ← readItems fuel (skipBlanks false (rest.drop 1))
      return .heading (String.ofList (Text.trim name)) :: items
    else
      match (c :: rest).dropWhile isIndent with
      | [] => some []
      | d :: rest =>
        if isLineEnd d then readItems fuel ⟨d = '\n', rest⟩
        else if d = '[' then readItems fuel ⟨false, d :: rest⟩
        else
          match readUntil isDelimiter false (d :: rest) with
          | .error place =>
            if isIndent c then readItems fuel (skipBlanks place.atStart place.rest) else none
          | .ok (key, rest) =>
            let key := Text.trim key
            if key.isEmpty then none else do
              let (value, rest) ← readValue (rest.drop 1)
              let items ← readItems fuel (skipBlanks false rest)
              return .entry (String.ofList key) (String.ofList value) :: items

/-- Reads a text. A key without a value, a value without a key, an open quote or heading and a
comment behind other text are refused. -/
def parse? (text : String) : Option Document :=
  readItems (text.length + 1) ⟨true, text.toList⟩

end Sightline.Ini
