/-!
# Capital forms

Names of modes, colour letters and words of the screen language are compared in capitals.  They
are all written in ASCII, so only the characters whose capital form holds an ASCII letter are
changed here: the small ASCII letters, and the few other characters that have a capital form in
ASCII, some of them of two or three letters.  Any other character stays as it is, and then equals
no ASCII letter, just as its capital form would not.

Keywords are compared letter by letter instead: there the dotless and the dotted i count as i.
-/

namespace Mosaic
namespace Text

/-- The characters outside ASCII whose capital form is written in ASCII. -/
def foreignCapitals : List (Char × List Char) := [
  ('ß', ['S', 'S']), ('ı', ['I']), ('ſ', ['S']), ('\ufb00', ['F', 'F']), ('\ufb01', ['F', 'I']),
  ('\ufb02', ['F', 'L']), ('\ufb03', ['F', 'F', 'I']), ('\ufb04', ['F', 'F', 'L']),
  ('\ufb05', ['S', 'T']), ('\ufb06', ['S', 'T'])]

def capital (c : Char) : List Char :=
  if c.toNat < 128 then [c.toUpper] else (foreignCapitals.lookup c).getD [c]

def capitals (cs : List Char) : List Char := cs.flatMap capital

/-- A letter of a keyword as it is compared: small, with every i alike. -/
def keywordLetter (c : Char) : Char :=
  if c = '\u0130' || c = '\u0131' then 'i' else c.toLower

def isKeyword (word : List Char) (cs : List Char) : Bool := cs.map keywordLetter == word

end Text
end Mosaic
