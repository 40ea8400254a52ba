import Mosaic.Text.Half
import Mosaic.Text.Printable

/-!
# Quoted text

Messages show a text between quotes.  Single quotes are used unless the text holds a single quote
and no double quote.  The quote in use and the backslash are written after a backslash, line feed,
carriage return and tab by their letters, and any other unprintable character by its code point in
two, four or eight small hexadecimal digits.
-/

namespace Mosaic
namespace Text

def hexadecimal (width n : Nat) : List Char :=
  let digits := Nat.toDigits 16 n
  List.replicate (width - digits.length) '0' ++ digits

def pointEscape (n : Nat) : List Char :=
  if n < 0x100 then '\\' :: 'x' :: hexadecimal 2 n
  else if n < 0x10000 then '\\' :: 'u' :: hexadecimal 4 n
  else '\\' :: 'U' :: hexadecimal 8 n

def quoteFor (cs : List Char) : Char :=
  if cs.contains '\x27' && !cs.contains '\x22' then '\x22' else '\x27'

def quotedChar (quote c : Char) : List Char :=
  if c = quote || c = '\\' then ['\\', c]
  else if c = '\n' then ['\\', 'n']
  else if c = '\r' then ['\\', 'r']
  else if c = '\t' then ['\\', 't']
  else if isPrintable c then [c]
  else pointEscape (codePoint c)

/-- One character between quotes, as it is held: a marked one is private, so it is written out. -/
def quotedCharacter (quote : Char) : List Char -> List Char
  | [c] => quotedChar quote c
  | cs => pointEscape (heldPoint cs)

def quotedChars (quote : Char) (cs : List Char) : List Char :=
  (characters cs).flatMap (quotedCharacter quote)

def quoted (cs : List Char) : List Char :=
  let quote := quoteFor cs
  quote :: (quotedChars quote cs ++ [quote])

end Text
end Mosaic
