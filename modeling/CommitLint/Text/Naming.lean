/-!
# Names of characters

The character database gives characters names, by which a pattern can write
them. The database is a parameter of all that reads patterns; the names of
the basic alphabet stand here.
-/

namespace CommitLint

/-- The character that a name belongs to; a name of none, or of several, has no answer. -/
class CharacterNames where
  named? : String → Option Char

namespace CharacterNames

def signs : List (String × Char) :=
  [("SPACE", ' '), ("EXCLAMATION MARK", '!'), ("QUOTATION MARK", '"'), ("NUMBER SIGN", '#'),
  ("DOLLAR SIGN", '$'), ("PERCENT SIGN", '%'), ("AMPERSAND", '&'), ("APOSTROPHE", '\''),
  ("LEFT PARENTHESIS", '('), ("RIGHT PARENTHESIS", ')'), ("ASTERISK", '*'), ("PLUS SIGN", '+'),
  ("COMMA", ','), ("HYPHEN-MINUS", '-'), ("FULL STOP", '.'), ("SOLIDUS", '/'), ("COLON", ':'),
  ("SEMICOLON", ';'), ("LESS-THAN SIGN", '<'), ("EQUALS SIGN", '='), ("GREATER-THAN SIGN", '>'),
  ("QUESTION MARK", '?'), ("COMMERCIAL AT", '@'), ("LEFT SQUARE BRACKET", '['),
  ("REVERSE SOLIDUS", '\\'), ("RIGHT SQUARE BRACKET", ']'), ("CIRCUMFLEX ACCENT", '^'),
  ("LOW LINE", '_'), ("GRAVE ACCENT", '\x60'), ("LEFT CURLY BRACKET", '\x7b'),
  ("VERTICAL LINE", '|'), ("RIGHT CURLY BRACKET", '\x7d'), ("TILDE", '~')]

def digits : List (String × Char) :=
  ["ZERO", "ONE", "TWO", "THREE", "FOUR", "FIVE", "SIX", "SEVEN", "EIGHT", "NINE"].mapIdx
    fun value name => ("DIGIT " ++ name, Char.ofNat (48 + value))

def letters : List (String × Char) :=
  (List.range 26).flatMap fun index =>
    let capital := Char.ofNat (65 + index)
    [("LATIN CAPITAL LETTER " ++ capital.toString, capital),
      ("LATIN SMALL LETTER " ++ capital.toString, Char.ofNat (97 + index))]

/-- The names of the basic alphabet; upper and lower case are not told apart. -/
scoped instance basic : CharacterNames where
  named? name := (signs ++ digits ++ letters).lookup (name.map Char.toUpper)

end CharacterNames

end CommitLint
