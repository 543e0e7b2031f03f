import CommitLint.Text.Quoted

/-!
# Indented JSON

A document of null, truth values, texts, arrays and objects whose fields
keep their order, and its layout over several lines with two blanks for
each level. Texts are written either within the basic alphabet or with all
characters but the controls as they are.
-/

namespace CommitLint

inductive Json where
  | null
  | bool (truth : Bool)
  | text (content : String)
  | array (items : List Json)
  | object (fields : List (String × Json))
deriving Inhabited

namespace Json

/-- A code beyond the basic plane as the two codes that stand for it. -/
def surrogates (code : Nat) : Nat × Nat :=
  (0xD800 + (code - 0x10000) / 0x400, 0xDC00 + (code - 0x10000) % 0x400)

def escapeUnit (code : Nat) : List Char :=
  '\\' :: 'u' :: Text.hexDigits 4 code

def escapeChar (ascii : Bool) (c : Char) : List Char :=
  let code := c.toNat
  if c = '"' || c = '\\' then ['\\', c]
  else if c = '\n' then ['\\', 'n']
  else if c = '\r' then ['\\', 'r']
  else if c = '\t' then ['\\', 't']
  else if code = 8 then ['\\', 'b']
  else if code = 12 then ['\\', 'f']
  else if code < 32 then escapeUnit code
  else if !ascii || code < 127 then [c]
  else if code < 0x10000 then escapeUnit code
  else escapeUnit (surrogates code).1 ++ escapeUnit (surrogates code).2

def quotedText (ascii : Bool) (content : String) : List Char :=
  '"' :: content.toList.flatMap (escapeChar ascii) ++ ['"']

/-- A new line at the given level. -/
def newLine (level : Nat) : List Char :=
  '\n' :: List.replicate (2 * level) ' '

mutual

def write (ascii : Bool) (level : Nat) : Json → List Char
  | .null => "null".toList
  | .bool truth => if truth then "true".toList else "false".toList
  | .text content => quotedText ascii content
  | .array [] => ['[', ']']
  | .array items => '[' :: writeItems ascii (level + 1) items ++ newLine level ++ [']']
  | .object [] => ['\x7b', '\x7d']
  | .object fields => '\x7b' :: writeFields ascii (level + 1) fields ++ newLine level ++ ['\x7d']

def writeItems (ascii : Bool) (level : Nat) : List Json → List Char
  | [] => []
  | [item] => newLine level ++ write ascii level item
  | item :: rest => newLine level ++ write ascii level item ++ ',' :: writeItems ascii level rest

def writeFields (ascii : Bool) (level : Nat) : List (String × Json) → List Char
  | [] => []
  | [(name, item)] =>
      newLine level ++ quotedText ascii name ++ ':' :: ' ' :: write ascii level item
  | (name, item) :: rest =>
      newLine level ++ quotedText ascii name ++ ':' :: ' ' :: write ascii level item ++
        ',' :: writeFields ascii level rest

end

def render (ascii : Bool) (document : Json) : String :=
  String.ofList (write ascii 0 document)

def ofOption : Option String → Json
  | none => .null
  | some content => .text content

end Json

end CommitLint
