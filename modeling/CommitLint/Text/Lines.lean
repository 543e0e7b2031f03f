/-!
# Lines

A text is the sequence of its lines, joined by line feeds. Splitting never
yields an empty sequence, and joining undoes it.
-/

namespace CommitLint.Text

/-- Cut at every `separator`; the pieces are one more than the separators. -/
def splitOn (separator : Char) : List Char → List (List Char)
  | [] => [[]]
  | first :: rest =>
      if first = separator then [] :: splitOn separator rest
      else
        match splitOn separator rest with
        | [] => [[first]]
        | piece :: pieces => (first :: piece) :: pieces

def joinWith (separator : Char) : List (List Char) → List Char
  | [] => []
  | [piece] => piece
  | piece :: next :: pieces => piece ++ separator :: joinWith separator (next :: pieces)

theorem splitOn_ne_nil (separator : Char) (text : List Char) :
    splitOn separator text ≠ [] := by
  induction text with
  | nil => simp [splitOn]
  | cons first rest ih =>
      by_cases cut : first = separator
      · simp [splitOn, cut]
      · cases pieces : splitOn separator rest <;> simp [splitOn, cut, pieces]

theorem joinWith_splitOn (separator : Char) (text : List Char) :
    joinWith separator (splitOn separator text) = text := by
  induction text with
  | nil => rfl
  | cons first rest ih =>
      cases pieces : splitOn separator rest with
      | nil => exact absurd pieces (splitOn_ne_nil separator rest)
      | cons piece others =>
          rw [pieces] at ih
          by_cases cut : first = separator
          · simp [splitOn, cut, pieces, joinWith, ih]
          · cases others with
            | nil => simpa [splitOn, cut, pieces, joinWith] using ih
            | cons next tail => simpa [splitOn, cut, pieces, joinWith] using ih

def lines (text : List Char) : List (List Char) :=
  splitOn '\n' text

def unlines (pieces : List (List Char)) : List Char :=
  joinWith '\n' pieces

/-- What stands before the first line feed. -/
def firstLine (text : List Char) : List Char :=
  text.takeWhile (· != '\n')

/-- A carriage return, alone or before a line feed, is read as one line feed. -/
def unifyNewlines : List Char → List Char
  | [] => []
  | '\r' :: '\n' :: rest => '\n' :: unifyNewlines rest
  | '\r' :: rest => '\n' :: unifyNewlines rest
  | first :: rest => first :: unifyNewlines rest

end CommitLint.Text
