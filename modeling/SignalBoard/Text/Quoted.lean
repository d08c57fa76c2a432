import SignalBoard.Text.Printable

/-!
# Quoted texts

`quote` writes a text between double quotes so that every character of it can be seen.  Five
characters and the quote itself have short escapes; any other character that cannot be shown as it
is stands as its code point in hexadecimal, `\u` followed by braces.
-/

namespace SignalBoard.Text

set_option autoImplicit false

/-- Lower-case hexadecimal digits, without leading zeros. -/
def hexDigits (n : Nat) : List Char := Nat.toDigits 16 n

/-- How one character is written inside double quotes. -/
def quoteChar (c : Char) : List Char :=
  match c with
  | '\x00' => ['\\', '0']
  | '\t' => ['\\', 't']
  | '\r' => ['\\', 'r']
  | '\n' => ['\\', 'n']
  | '\\' => ['\\', '\\']
  | '"' => ['\\', '"']
  | c => if isShowable c then [c] else ['\\', 'u', '\x7b'] ++ hexDigits c.toNat ++ ['\x7d']

def quote (text : String) : String :=
  String.ofList ('"' :: text.toList.flatMap quoteChar ++ ['"'])

end SignalBoard.Text
