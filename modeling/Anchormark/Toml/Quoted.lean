import Anchormark.Toml.Scalar

/-!
# Strings

A string stands between quotes. Between double quotes a backslash begins an escape; between single
quotes all characters stand for themselves. With three quotes of either kind the string may go over
several lines. A line ending right behind the opening quotes does not count, and the closing quotes
may be preceded by up to two more, which belong to the string.

Writing is asked for single characters only, because markers are characters. Each one gets the
plainest form that can hold it.

## Main definitions

* `readBasic?`, `readLiteral?`: what stands between single-line quotes.
* `readText?`: what stands between three quotes.
* `readString?`: a string of any of the four forms.
* `quoteChar`: the string with one character in it.
-/

namespace Anchormark.Toml

/-- A character that stands for itself in strings and comments: anything but a control character,
    of which only the tab may occur. -/
def isPlain (c : Char) : Bool :=
  c = '\t' || (' ' ≤ c && c ≠ '\x7f')

/-- The character whose code point is written in `count` hexadecimal digits, and the length of the
    escape behind its backslash. -/
def codePoint? (count : Nat) (cs : List Char) : Option (Char × Nat) :=
  let digits := cs.take count
  let code := digitsValue 16 digits
  if digits.length = count && digits.all (isDigitIn 16) && code.isValidChar then
    some (Char.ofNat code, count + 1)
  else none

/-- The character that an escape stands for, and the length of the escape behind its backslash. -/
def escape? : List Char → Option (Char × Nat)
  | [] => none
  | 'b' :: _ => some ('\x08', 1)
  | 't' :: _ => some ('\t', 1)
  | 'n' :: _ => some ('\n', 1)
  | 'f' :: _ => some ('\x0c', 1)
  | 'r' :: _ => some ('\r', 1)
  | 'e' :: _ => some ('\x1b', 1)
  | '"' :: _ => some ('"', 1)
  | '\\' :: _ => some ('\\', 1)
  | 'x' :: rest => codePoint? 2 rest
  | 'u' :: rest => codePoint? 4 rest
  | 'U' :: rest => codePoint? 8 rest
  | _ :: _ => none

/-- The string up to a double quote, and what follows that. `skip` characters belong to an escape. -/
def readBasic? : (skip : Nat) → List Char → Option (List Char × List Char)
  | _, [] => none
  | skip + 1, _ :: rest => readBasic? skip rest
  | 0, c :: rest =>
    if c = '"' then some ([], rest)
    else if c = '\\' then
      match escape? rest with
      | some (d, length) => (readBasic? length rest).map fun (s, rest) => (d :: s, rest)
      | none => none
    else if isPlain c then (readBasic? 0 rest).map fun (s, rest) => (c :: s, rest)
    else none

/-- The string up to a single quote, and what follows that. -/
def readLiteral? : List Char → Option (List Char × List Char)
  | [] => none
  | c :: rest =>
    if c = '\'' then some ([], rest)
    else if isPlain c then (readLiteral? rest).map fun (s, rest) => (c :: s, rest)
    else none

/-- The length of the blanks and line endings that the characters begin with. -/
def gapLength : List Char → Nat
  | '\r' :: '\n' :: rest => gapLength rest + 2
  | c :: rest => if c = ' ' || c = '\t' || c = '\n' then gapLength rest + 1 else 0
  | [] => 0

/-- A line ending, with nothing but blanks before it. -/
def endsLine (cs : List Char) : Bool :=
  match cs.dropWhile fun c => c = ' ' || c = '\t' with
  | '\n' :: _ | '\r' :: '\n' :: _ => true
  | _ => false

/-- The string up to three quotes, and what follows those. A backslash at the end of a line takes
    all blanks and line endings behind it away. `skip` characters belong to an escape. -/
def readText? (quote : Char) : (skip : Nat) → List Char → Option (List Char × List Char)
  | _, [] => none
  | skip + 1, _ :: rest => readText? quote skip rest
  | 0, c :: rest =>
    let more (_ : Unit) : Option (List Char × List Char) :=
      (readText? quote 0 rest).map fun (s, rest) => (c :: s, rest)
    if c = quote then
      match rest with
      | d :: e :: rest =>
        if d = quote && e = quote then
          -- Of four or five quotes in a row, the last three close the string.
          let extra := (rest.take 2).takeWhile (· = quote)
          some (extra, rest.drop extra.length)
        else more ()
      | _ => none
    else if c = '\\' && quote = '"' then
      if endsLine rest then readText? quote (gapLength rest) rest
      else
        match escape? rest with
        | some (d, length) => (readText? quote length rest).map fun (s, rest) => (d :: s, rest)
        | none => none
    else if isPlain c || c = '\n' || (c = '\r' && rest.head? = some '\n') then more ()
    else none

/-- The characters without a line ending at their front. -/
def dropLineEnd : List Char → List Char
  | '\n' :: rest | '\r' :: '\n' :: rest => rest
  | cs => cs

/-- A string in quotes of any kind, and what follows it. -/
def readString? : List Char → Option (List Char × List Char)
  | '"' :: '"' :: '"' :: rest => readText? '"' 0 (dropLineEnd rest)
  | '\'' :: '\'' :: '\'' :: rest => readText? '\'' 0 (dropLineEnd rest)
  | '"' :: rest => readBasic? 0 rest
  | '\'' :: rest => readLiteral? rest
  | _ => none

/-- A hexadecimal digit. -/
def hexDigit (n : Nat) : Char :=
  (Nat.digitChar n).toUpper

/-- A character as it stands between double quotes. -/
def escapeChar (c : Char) : List Char :=
  if c = '\x08' then ['\\', 'b']
  else if c = '\t' then ['\\', 't']
  else if c = '\x0c' then ['\\', 'f']
  else if c = '\r' then ['\\', 'r']
  else if isPlain c then [c]
  else ['\\', 'u', '0', '0', hexDigit (c.toNat / 16), hexDigit (c.toNat % 16)]

/-- The string that consists of one character. A character that would need a backslash only because
    it is a quote or a backslash goes between single quotes, and a line feed between three. -/
def quoteChar (c : Char) : List Char :=
  if c = '"' || c = '\\' then ['\'', c, '\'']
  else if c = '\n' then ['"', '"', '"', '\n', '\n', '"', '"', '"']
  else ['"'] ++ escapeChar c ++ ['"']

end Anchormark.Toml
