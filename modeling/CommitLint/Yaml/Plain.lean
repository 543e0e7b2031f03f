import CommitLint.Yaml.Quoted

/-!
# Plain scalars

A scalar without quotes goes on over spaces and breaks until something ends
it: a colon before a space, a comment behind a gap, a line that stands too
far left, or within brackets one of their signs.
-/

namespace CommitLint.Yaml

/-- The signs that structure a collection in brackets. -/
def isFlowSign (c : Char) : Bool :=
  c == ',' || c == '[' || c == ']' || c == '\x7b' || c == '\x7d'

/-- Whether `c`, with `rest` behind it, ends a plain scalar. -/
def endsPlain (inFlow : Bool) (c : Char) (rest : List Char) : Bool :=
  isSpace c || isBreak c || (inFlow && (isFlowSign c || c == '?')) ||
    (c == ':' &&
      (endsWord rest || (inFlow && (rest.head?.map isFlowSign).getD false)))

/-- A plain scalar, where reading goes on, and whether a break was passed behind its text. -/
structure Plain where
  text : List Char
  cursor : Cursor
  crossed : Bool

namespace Plain

def stop (gap : Gap) (place : Place) (rest : List Char) : Plain :=
  ⟨[], ⟨place, rest⟩, gap.hasBreak⟩

def before (text : List Char) (plain : Plain) : Plain :=
  { plain with text := text ++ plain.text }

end Plain

/-- Read on behind a gap; outside brackets a new line has to start at `indent` or further right. -/
def readPlain (inFlow : Bool) (indent : Nat) (gap : Gap) (place : Place) : List Char → Plain
  | [] => .stop gap place []
  | c :: rest =>
      if c == ' ' then readPlain inFlow indent (gap.space c) (place.after c) rest
      else if isBreak c then
        let gap := gap.newLine c
        if separatorAhead rest then .stop gap (place.after c) rest
        else readPlain inFlow indent gap (place.after c) rest
      else if (c == '#' && !gap.isEmpty) ||
          (gap.hasBreak && !inFlow && place.column < indent) || endsPlain inFlow c rest then
        .stop gap place (c :: rest)
      else
        (readPlain inFlow indent .empty (place.after c) rest).before (gap.text ++ [c])

/-- Whether a plain scalar can start with `c` before `rest`. -/
def startsPlain (inFlow : Bool) (c : Char) (rest : List Char) : Bool :=
  !(isSpace c || isBreak c || isFlowSign c || "-?:#&*!|>'\"%@\x60".toList.contains c) ||
    (!endsWord rest && (c == '-' || (!inFlow && (c == '?' || c == ':'))))

end CommitLint.Yaml
