import Depot.Digest.Bytes
import Depot.Unicode.Unprintable

/-!
# Quoted texts

A message shows a text between double quotes. A backslash stands before the quote and the
backslash, and before the letters that name the common controls; a character without a visible
shape is shown by its code point.

## Main definitions

* `quoted` : a text between quotes.
-/

namespace Depot.Text

/-- The hexadecimal digits of a number. -/
def hexDigits (n : Nat) : List Char :=
  if n < 16 then [Digest.hexDigit n] else hexDigits (n / 16) ++ [Digest.hexDigit (n % 16)]

/-- How a character is shown inside quotes. -/
def quotedChar (c : Char) : List Char :=
  match c with
  | '\x00' => ['\\', '0']
  | '\t' => ['\\', 't']
  | '\r' => ['\\', 'r']
  | '\n' => ['\\', 'n']
  | '"' => ['\\', '"']
  | '\\' => ['\\', '\\']
  | c =>
    if Unicode.isUnprintable c then '\\' :: 'u' :: '\x7b' :: hexDigits c.toNat ++ ['\x7d'] else [c]

/-- A text between quotes. -/
def quoted (s : String) : String :=
  String.ofList ('"' :: s.toList.flatMap quotedChar ++ ['"'])

end Depot.Text
