import Anchormark.Text.Visible

/-!
# Quoted Text

Outlines and messages show strings and characters in quotes, on one line and without anything
invisible. Backslash escapes stand for the quote itself, the backslash and the common control
characters; every other character that would not be seen is written as its code point in
hexadecimal, `\u{200b}`.

The two forms differ in one thing only: a quoted string escapes the double quote, a quoted
character the single one.

## Main definitions

* `escaped`: the escaped form of one character, given the quote around it.
* `quoted`: a string in double quotes.
* `quotedChar`: a character in single quotes.
-/

namespace Anchormark.Text

/-- The digits of `n` in lower-case hexadecimal. -/
def hexDigits (n : Nat) : List Char :=
  Nat.toDigits 16 n

/-- `c` as written between quotes `quote`. -/
def escaped (quote c : Char) : List Char :=
  if c = '\x00' then ['\\', '0']
  else if c = '\t' then ['\\', 't']
  else if c = '\n' then ['\\', 'n']
  else if c = '\r' then ['\\', 'r']
  else if c = '\\' || c = quote then ['\\', c]
  else if isPrintable c && !isExtender c then [c]
  else ['\\', 'u', '\x7b'] ++ hexDigits c.toNat ++ ['\x7d']

/-- `s` in double quotes. -/
def quoted (s : String) : String :=
  String.ofList (['"'] ++ s.toList.flatMap (escaped '"') ++ ['"'])

/-- `c` in single quotes. -/
def quotedChar (c : Char) : String :=
  String.ofList (['\''] ++ escaped '\'' c ++ ['\''])

end Anchormark.Text
