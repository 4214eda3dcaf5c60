import Abacus.Text.Printable

/-!
# Quoted text

Text is quoted in messages so that every character of it shows. Single quotes are used unless the
text has single quotes and no double ones. Within the quotes, the quote and the backslash follow a
backslash, line ends, carriage returns and tabs have a letter, and other characters that would not
show are given by their code point in hexadecimal.
-/

namespace Abacus.Text.Quoted

/-- The given number of hexadecimal digits of a number, from the highest on. -/
def hexDigits : Nat → Nat → List Char
  | 0, _ => []
  | count + 1, n => hexDigits count (n / 16) ++ [Nat.digitChar (n % 16)]

/-- A code point in hexadecimal, in the shortest of three lengths, each with its own letter. -/
def escapeCode (n : Nat) : List Char :=
  if n < 0x100 then '\\' :: 'x' :: hexDigits 2 n
  else if n < 0x10000 then '\\' :: 'u' :: hexDigits 4 n
  else '\\' :: 'U' :: hexDigits 8 n

/-- What stands for a character within the given quotes. -/
def escape (quote c : Char) : List Char :=
  if c = quote ∨ c = '\\' then ['\\', c]
  else if c = '\t' then ['\\', 't']
  else if c = '\n' then ['\\', 'n']
  else if c = '\x0d' then ['\\', 'r']
  else if isPrintable c then [c]
  else escapeCode c.toNat

/-- The quote that goes around a text. -/
def quoteFor (text : List Char) : Char :=
  if '\'' ∈ text ∧ '"' ∉ text then '"' else '\''

/-- A text in quotes. -/
def encode (text : List Char) : List Char :=
  let quote := quoteFor text
  quote :: text.flatMap (escape quote) ++ [quote]

end Abacus.Text.Quoted
