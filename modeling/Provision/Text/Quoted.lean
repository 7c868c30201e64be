import Provision.Text.Unprintable
/-!
Quoted texts, as diagnostic output shows them.

A quoted text stands between double quotes. Quotes and backslashes are escaped, the usual controls
have short escapes, and every other unprintable character is written by its code point in
hexadecimal.
-/

namespace Provision.Text

/-- The escape of a code point: its hexadecimal digits in braces, without leading zeros. -/
def codePoint (c : Char) : List Char :=
  ['\\', 'u', '\x7b'] ++ Nat.toDigits 16 c.toNat ++ ['\x7d']

def escape (c : Char) : List Char :=
  match c with
  | '"' => ['\\', '"']
  | '\\' => ['\\', '\\']
  | '\n' => ['\\', 'n']
  | '\r' => ['\\', 'r']
  | '\t' => ['\\', 't']
  | '\x00' => ['\\', '0']
  | other => if isUnprintable other then codePoint other else [other]

def quoted (s : String) : String :=
  String.ofList ('"' :: s.toList.flatMap escape ++ ['"'])

end Provision.Text
