import TelemetrySender.Decimal.Integer
import TelemetrySender.Text.Hex

/-!
JSON values and their compact text: no space between tokens, members in the order given, and in
strings an escape for the quote, the backslash and the characters below U+0020 only.
-/

set_option autoImplicit false
set_option relaxedAutoImplicit false

namespace TelemetrySender

inductive Json where
  | null
  | integer (value : Int)
  | text (value : String)
  | array (items : List Json)
  | object (members : List (String × Json))

namespace Json

/-- The short escapes; other characters below U+0020 are written by their number. -/
def escapeChar (c : Char) : List Char :=
  if c = '"' then ['\\', '"']
  else if c = '\\' then ['\\', '\\']
  else if c = '\x08' then ['\\', 'b']
  else if c = '\x0c' then ['\\', 'f']
  else if c = '\n' then ['\\', 'n']
  else if c = '\r' then ['\\', 'r']
  else if c = '\t' then ['\\', 't']
  else if c.toNat < 0x20 then ['\\', 'u'] ++ Text.Hex.digits c.toNat 4
  else [c]

def quote (s : String) : List Char :=
  '"' :: (s.toList.flatMap escapeChar ++ ['"'])

mutual

def render : Json → List Char
  | null => "null".toList
  | integer n => Decimal.integerText n
  | text s => quote s
  | array items => '[' :: (renderItems items ++ [']'])
  | object members => '\x7b' :: (renderMembers members ++ ['\x7d'])

def renderItems : List Json → List Char
  | [] => []
  | [j] => render j
  | j :: k :: rest => render j ++ ',' :: renderItems (k :: rest)

def renderMembers : List (String × Json) → List Char
  | [] => []
  | [(key, j)] => quote key ++ ':' :: render j
  | (key, j) :: m :: rest => quote key ++ ':' :: render j ++ ',' :: renderMembers (m :: rest)

end

end Json

end TelemetrySender
