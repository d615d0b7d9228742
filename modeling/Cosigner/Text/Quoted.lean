import Cosigner.Text.Hidden

/-!
# Quoted Text in Messages

A refusal that shows a text from outside puts it between quotes and escapes what
would break the quotes or would not be seen: the quote itself, the backslash, and
every character that does not show. Four of these have a letter or a digit, the
others are written by their number.

## Main definitions

* `Quoted.text`: A text between quotes.
* `Quoted.option`: A text that may be absent.
-/

namespace Cosigner

namespace Quoted

/-- A character as it stands between quotes. -/
def escapeChar (c : Char) : List Char :=
  if c = '"' then ['\\', '"']
  else if c = '\\' then ['\\', '\\']
  else if c = '\t' then ['\\', 't']
  else if c = '\n' then ['\\', 'n']
  else if c = '\r' then ['\\', 'r']
  else if c = '\x00' then ['\\', '0']
  else if Hidden.contains c then
    ['\\', 'u', '\x7b'] ++ Nat.toDigits 16 c.toNat ++ ['\x7d']
  else [c]

/-- A text between quotes. -/
def text (s : String) : String :=
  String.ofList ('"' :: s.toList.flatMap escapeChar ++ ['"'])

/-- A text that may be absent. -/
def option : Option String → String
  | some s => s!"Some({text s})"
  | none => "None"

end Quoted

end Cosigner
