import CloudProvider.Text.Printable

/-!
Text in quotes, for messages: quote and backslash are escaped, as is every character that would not
show as itself. An apostrophe is left alone.
-/

namespace CloudProvider.Text

/-- The named escapes, then `\u` with the code point in braces. -/
def escapeUnseen (c : Char) : List Char :=
  match c with
  | '\x00' => ['\\', '0']
  | '\t' => ['\\', 't']
  | '\n' => ['\\', 'n']
  | '\r' => ['\\', 'r']
  | '"' => ['\\', '"']
  | '\\' => ['\\', '\\']
  | c => if isPrintable c then [c] else
      ['\\', 'u', '\x7b'] ++ Nat.toDigits 16 c.toNat ++ ['\x7d']

def quoted (s : String) : String := .ofList ('"' :: s.toList.flatMap escapeUnseen ++ ['"'])

end CloudProvider.Text
