import Conform.Json.Basic

/-!
# Writing JSON text

Documents are written without spaces, members in order.  Inside a string only the quote, the
backslash and the control characters are escaped.  This file defines:

* `Json.escape` and `Json.quoted`: the written form of a string;
* `Json.write`: the written form of a document, and `Json.text` the same as a string.
-/

namespace Conform

namespace Json

/-- The lower-case hexadecimal digits of a number below 256, two of them. -/
def twoHexDigits (n : Nat) : List Char :=
  [Nat.digitChar (n / 16 % 16), Nat.digitChar (n % 16)]

/-- The written form of one character of a string. -/
def escape (c : Char) : List Char :=
  if c = '"' then ['\\', '"']
  else if c = '\\' then ['\\', '\\']
  else if c = '\n' then ['\\', 'n']
  else if c = '\r' then ['\\', 'r']
  else if c = '\t' then ['\\', 't']
  else if c.toNat = 8 then ['\\', 'b']
  else if c.toNat = 12 then ['\\', 'f']
  else if c.toNat < 32 then '\\' :: 'u' :: '0' :: '0' :: twoHexDigits c.toNat
  else [c]

def quoted (s : String) : List Char := '"' :: (s.toList.flatMap escape ++ ['"'])

mutual

def write : Json → List Char
  | null => ['n', 'u', 'l', 'l']
  | bool true => ['t', 'r', 'u', 'e']
  | bool false => ['f', 'a', 'l', 's', 'e']
  | number n => n.text
  | string s => quoted s
  | array items => '[' :: (writeItems items ++ [']'])
  | object members => '\x7b' :: (writeMembers members ++ ['\x7d'])

def writeItems : List Json → List Char
  | [] => []
  | [item] => write item
  | item :: rest => write item ++ ',' :: writeItems rest

/-- Members separated by commas, each a quoted key, a colon and a value. -/
def writeMembers : List (String × Json) → List Char
  | [] => []
  | [(key, value)] => quoted key ++ ':' :: write value
  | (key, value) :: rest => quoted key ++ ':' :: (write value ++ ',' :: writeMembers rest)

end

/-- The compact written form of a document as a string. -/
def text (document : Json) : String := String.ofList document.write

end Json

end Conform
