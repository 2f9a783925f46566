import Gradual.Text.DefaultIgnorable
import Gradual.Text.GraphemeExtend
import Gradual.Text.Unprintable

/-!
# Quoted text

Between double quotes every character of a text can be seen. What a screen does not show as a mark
of its own is written by its code, `\u{301}`.
-/

namespace Gradual.Text

def isHidden (c : Char) : Bool :=
  isUnprintable c || isDefaultIgnorable c || (isGraphemeExtend c && !isHalfwidthSoundMark c)

/-- The code of a character in lower-case hexadecimal, without leading zeros. -/
def codeEscape (c : Char) : List Char :=
  ['\\', 'u', '\x7b'] ++ Nat.toDigits 16 c.toNat ++ ['\x7d']

def escape (c : Char) : List Char :=
  if c = '"' then ['\\', '"']
  else if c = '\\' then ['\\', '\\']
  else if c = '\n' then ['\\', 'n']
  else if c = '\r' then ['\\', 'r']
  else if c = '\t' then ['\\', 't']
  else if c = '\x00' then ['\\', '0']
  else if isHidden c then codeEscape c
  else [c]

def quote (s : String) : String :=
  "\"" ++ String.ofList (s.toList.flatMap escape) ++ "\""

end Gradual.Text
