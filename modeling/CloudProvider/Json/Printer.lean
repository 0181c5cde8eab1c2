import CloudProvider.Json.Basic

/-!
The compact text of a value: no blanks, members in their order, and text escaped only where the
grammar asks for it. Control characters without a name of their own take four lower-case hexadecimal
digits.
-/

namespace CloudProvider.Json

def hexDigit (n : Nat) : Char := if n < 10 then Char.ofNat (48 + n) else Char.ofNat (87 + n)

def escape (c : Char) : List Char :=
  if c = '"' then ['\\', '"']
  else if c = '\\' then ['\\', '\\']
  else if c = '\n' then ['\\', 'n']
  else if c = '\r' then ['\\', 'r']
  else if c = '\t' then ['\\', 't']
  else if c = '\x08' then ['\\', 'b']
  else if c = '\x0c' then ['\\', 'f']
  else if c.toNat < 0x20 then
    ['\\', 'u', '0', '0', hexDigit (c.toNat / 16), hexDigit (c.toNat % 16)]
  else [c]

def quote (s : String) : List Char := '"' :: s.toList.flatMap escape ++ ['"']

mutual
def chars : Json → List Char
  | .null => ['n', 'u', 'l', 'l']
  | .bool true => ['t', 'r', 'u', 'e']
  | .bool false => ['f', 'a', 'l', 's', 'e']
  | .num n => n.chars
  | .str s => quote s
  | .arr items => '[' :: (charsItems items ++ [']'])
  | .obj fields => '\x7b' :: (charsFields fields ++ ['\x7d'])
termination_by structural j => j

def charsItems : List Json → List Char
  | [] => []
  | [j] => j.chars
  | j :: js => j.chars ++ ',' :: charsItems js
termination_by structural js => js

def charsFields : List (String × Json) → List Char
  | [] => []
  | [(k, j)] => quote k ++ ':' :: j.chars
  | (k, j) :: fields => quote k ++ ':' :: (j.chars ++ ',' :: charsFields fields)
termination_by structural fields => fields
end

def text (j : Json) : String := .ofList j.chars

end CloudProvider.Json
