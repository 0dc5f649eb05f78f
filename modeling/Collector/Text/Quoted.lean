import Collector.Text.Unprintable

/-!
# Quoted text in messages

Values that a message of `harvest-model` or `harvest-heartbeat` repeats stand between
double quotes, so that blanks at their ends and characters without a shape of their own
can be seen.
-/

namespace Collector.Text

/-- A character by number: `\u`, and its code point in hexadecimal between
braces. -/
def numbered (c : Char) : List Char :=
  '\\' :: 'u' :: '{' :: (Nat.toDigits 16 c.toNat ++ ['}'])

/-- A character inside quotes. -/
def quotedChar (c : Char) : List Char :=
  if c = '"' then ['\\', '"']
  else if c = '\\' then ['\\', '\\']
  else if c = '\n' then ['\\', 'n']
  else if c = '\r' then ['\\', 'r']
  else if c = '\t' then ['\\', 't']
  else if c.toNat = 0 then ['\\', '0']
  else if isUnprintable c then numbered c
  else [c]

/-- A text between double quotes, with escapes. -/
def quoted (s : String) : String :=
  String.ofList ('"' :: (s.toList.flatMap quotedChar ++ ['"']))

end Collector.Text
