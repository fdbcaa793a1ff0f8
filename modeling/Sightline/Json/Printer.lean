import Sightline.Decimal.Layout
import Sightline.Json.Basic

/-!
# Printing JSON

The text of a value has no spaces. In strings only quotes, backslashes and control characters are
escaped; a double that is not finite is written `null`.
-/

namespace Sightline.Json

/-- The lower-case hexadecimal digit of a number below sixteen. -/
def hexDigit (n : Nat) : Char := (Nat.toDigits 16 (n % 16)).headD '0'

/-- A character inside a string literal. -/
def escape (c : Char) : List Char :=
  match c with
  | '"' => ['\\', '"']
  | '\\' => ['\\', '\\']
  | '\n' => ['\\', 'n']
  | '\r' => ['\\', 'r']
  | '\t' => ['\\', 't']
  | '\x08' => ['\\', 'b']
  | '\x0c' => ['\\', 'f']
  | c =>
    if c.toNat < 0x20 then ['\\', 'u', '0', '0', hexDigit (c.toNat / 16), hexDigit c.toNat]
    else [c]

/-- A string literal. -/
def quote (s : String) : List Char := '"' :: (s.toList.flatMap escape ++ ['"'])

/-- The digits of a whole number. -/
def renderInt (n : Int) : List Char := Decimal.signed (n < 0) (Nat.toDigits 10 n.natAbs)

/-- The number, or `null` for what is not finite. -/
def renderFloat (x : Float) : List Char := (Decimal.json? x).getD "null".toList

mutual

/-- The text of a value. -/
def render : Json → List Char
  | .null => "null".toList
  | .bool true => "true".toList
  | .bool false => "false".toList
  | .int n => renderInt n
  | .float x => renderFloat x
  | .str s => quote s
  | .arr items => '[' :: (renderItems items ++ [']'])
  | .obj members => '\x7b' :: (renderMembers members ++ ['\x7d'])

/-- The items of an array, separated by commas. -/
def renderItems : List Json → List Char
  | [] => []
  | [v] => v.render
  | v :: rest => v.render ++ ',' :: renderItems rest

/-- The members of an object, separated by commas. -/
def renderMembers : List (String × Json) → List Char
  | [] => []
  | [(k, v)] => quote k ++ ':' :: v.render
  | (k, v) :: rest => quote k ++ ':' :: (v.render ++ ',' :: renderMembers rest)

end

/-- The text of a value as a string. -/
def text (v : Json) : String := String.ofList v.render

end Sightline.Json
