import CommitLint.Yaml.Schema
import CommitLint.Yaml.Token

/-!
# Nodes

A document as a tree of scalars, sequences and mappings, each of some kind.
An alias stands for the node that its anchor was given to. The tree is read
from the tokens with one step for each node and each end of a collection,
so a budget of a few steps for every token suffices. A tree cannot hold a
collection that contains itself: an alias inside the collection that has its
anchor ends the reading, though such documents are well formed.
-/

namespace CommitLint.Yaml

inductive Node where
  | scalar (kind : Kind) (text : List Char)
  | sequence (kind : Kind) (items : List Node)
  | mapping (kind : Kind) (entries : List (Node × Node))
deriving Inhabited

namespace Node

def kind : Node → Kind
  | .scalar kind _ => kind
  | .sequence kind _ => kind
  | .mapping kind _ => kind

/-- The node that stands where nothing is written. -/
def absent : Node :=
  .scalar .null []

end Node

/-- What is still to be read, and what was declared so far. -/
structure Source where
  tokens : List Token
  fault : Option Fault
  handles : List (String × String)
  /-- The nodes with anchors; a collection that is still being read is not there yet. -/
  anchors : List (String × Option Node)

abbrev NodeReader := StateT Source (Except Fault)

/-- Where a node stands: in brackets, in a block, or where entries of a sequence need no
indentation. -/
inductive Context where
  | flow
  | block
  | unindented
deriving DecidableEq

namespace NodeReader

def defaultHandles : List (String × String) :=
  [("!", "!"), ("!!", Kind.address)]

/-- The next token; behind the last one stands the fault, if there is one. -/
def peek : NodeReader Token := fun source =>
  match source.tokens, source.fault with
  | token :: _, _ => .ok (token, source)
  | [], some fault => .error fault
  | [], none => .ok (.streamEnd, source)

def skip : NodeReader Unit :=
  modify fun source => { source with tokens := source.tokens.tail }

def malformed {α : Type} : NodeReader α :=
  throw .malformed

/-- The anchor of a node and the address of its kind; an exclamation mark names no kind. -/
structure Properties where
  anchor : Option String
  address : Option String

namespace Properties

def isNone (properties : Properties) : Bool :=
  properties.anchor.isNone && properties.address.isNone

/-- The kind of the address, or `implied` without one. -/
def kind (properties : Properties) (implied : Kind) : Kind :=
  match properties.address with
  | none => implied
  | some "!" => implied
  | some address => .ofAddress address

/-- A quoted scalar without an address is a text; behind an exclamation mark its form counts. -/
def scalar (properties : Properties) (text : List Char) (plain : Bool) : Node :=
  let implied :=
    if plain || properties.address.isSome then Kind.ofForm text else .text
  .scalar (properties.kind implied) text

end Properties

def resolveTag (tag : WrittenTag) : NodeReader String := do
  match tag.handle with
  | none => return tag.suffix
  | some handle =>
      match (← get).handles.lookup handle with
      | some address => return address ++ tag.suffix
      | none => malformed

/-- An anchor and a tag in either order, each at most once. -/
def readProperties : NodeReader Properties := do
  match ← peek with
  | .anchor name =>
      skip
      match ← peek with
      | .tag tag =>
          skip
          return ⟨some name, some (← resolveTag tag)⟩
      | _ => return ⟨some name, none⟩
  | .tag tag =>
      skip
      match ← peek with
      | .anchor name =>
          skip
          return ⟨some name, some (← resolveTag tag)⟩
      | _ => return ⟨none, some (← resolveTag tag)⟩
  | _ => return ⟨none, none⟩

/-- Give a node to an anchor, or nothing yet. -/
def bindAnchor (properties : Properties) (node : Option Node) : NodeReader Unit :=
  match properties.anchor with
  | none => pure ()
  | some name => modify fun source => { source with anchors := (name, node) :: source.anchors }

/-- Give a node or nothing yet to an anchor that was not there before. -/
def reserveAnchor (properties : Properties) (node : Option Node) : NodeReader Unit := do
  if let some name := properties.anchor then
    if ((← get).anchors.lookup name).isSome then malformed
  bindAnchor properties node

def readAlias (name : String) : NodeReader Node := do
  match (← get).anchors.lookup name with
  | some (some node) => return node
  | some none => throw .selfContaining
  | none => malformed

def finishScalar (properties : Properties) (text : List Char) (plain : Bool) :
    NodeReader Node := do
  let node := properties.scalar text plain
  reserveAnchor properties (some node)
  return node

/-- A sequence, which has its anchor once its items are read. -/
def finishSequence (properties : Properties) (readItems : NodeReader (List Node)) :
    NodeReader Node := do
  let kind := properties.kind .sequence
  reserveAnchor properties none
  skip
  let node := Node.sequence kind (← readItems)
  bindAnchor properties (some node)
  return node

def finishMapping (properties : Properties) (readEntries : NodeReader (List (Node × Node))) :
    NodeReader Node := do
  let kind := properties.kind .mapping
  reserveAnchor properties none
  skip
  let node := Node.mapping kind (← readEntries)
  bindAnchor properties (some node)
  return node

/-- Whether nothing is written before a token that goes on with a block mapping. -/
def isBlockGap : Token → Bool
  | .key | .value | .blockEnd => true
  | _ => false

def isSequenceGap : Token → Bool
  | .value | .flowEntry | .flowSequenceEnd => true
  | _ => false

def isMappingGap : Token → Bool
  | .value | .flowEntry | .flowMappingEnd => true
  | _ => false

mutual

def readNode : Nat → Context → NodeReader Node
  | 0, _ => malformed
  | fuel + 1, context => do
      if let .alias name ← peek then
        skip
        return ← readAlias name
      let properties ← readProperties
      match ← peek, context with
      | .scalar text plain, _ =>
          skip
          finishScalar properties text plain
      | .flowSequence, _ => finishSequence properties (readFlowItems fuel true)
      | .flowMapping, _ => finishMapping properties (readFlowEntries fuel true)
      | .blockSequence, .block => finishSequence properties (readBlockItems fuel)
      | .blockSequence, .unindented => finishSequence properties (readBlockItems fuel)
      | .blockMapping, .block => finishMapping properties (readBlockEntries fuel)
      | .blockMapping, .unindented => finishMapping properties (readBlockEntries fuel)
      | .blockEntry, .unindented => finishSequence properties (readUnindented fuel)
      | _, _ => if properties.isNone then malformed else finishScalar properties [] true

/-- A node, or nothing before a token of the given sort. -/
def readNodeUnless : Nat → (Token → Bool) → Context → NodeReader Node
  | 0, _, _ => malformed
  | fuel + 1, isGap, context => do
      if isGap (← peek) then return .absent else readNode fuel context

/-- The value behind a key, if its sign is there. -/
def readValue : Nat → (Token → Bool) → Context → NodeReader Node
  | 0, _, _ => malformed
  | fuel + 1, isGap, context => do
      match ← peek with
      | .value =>
          skip
          readNodeUnless fuel isGap context
      | _ => return .absent

/-- The items of a block sequence up to its end. -/
def readBlockItems : Nat → NodeReader (List Node)
  | 0 => malformed
  | fuel + 1 => do
      match ← peek with
      | .blockEntry =>
          skip
          let item ← readNodeUnless fuel (fun token => token matches .blockEntry | .blockEnd) .block
          return item :: (← readBlockItems fuel)
      | .blockEnd =>
          skip
          return []
      | _ => malformed

/-- The items of a sequence that stands at the column of its key, behind the sign of the first. -/
def readUnindented : Nat → NodeReader (List Node)
  | 0 => malformed
  | fuel + 1 => do
      let item ← readNodeUnless fuel
        (fun token => token matches .blockEntry | .key | .value | .blockEnd) .block
      match ← peek with
      | .blockEntry =>
          skip
          return item :: (← readUnindented fuel)
      | _ => return [item]

def readBlockEntries : Nat → NodeReader (List (Node × Node))
  | 0 => malformed
  | fuel + 1 => do
      match ← peek with
      | .key =>
          skip
          let key ← readNodeUnless fuel isBlockGap .unindented
          let value ← readValue fuel isBlockGap .unindented
          return (key, value) :: (← readBlockEntries fuel)
      | .blockEnd =>
          skip
          return []
      | _ => malformed

/-- The items of a sequence in brackets; behind the first a comma separates them. -/
def readFlowItems : Nat → Bool → NodeReader (List Node)
  | 0, _ => malformed
  | fuel + 1, first => do
      if (← peek) matches .flowSequenceEnd then
        skip
        return []
      if !first then
        if (← peek) matches .flowEntry then skip else malformed
      match ← peek with
      | .key =>
          skip
          let key ← readNodeUnless fuel isSequenceGap .flow
          let value ← readValue fuel isSequenceGap .flow
          return .mapping .mapping [(key, value)] :: (← readFlowItems fuel false)
      | .flowSequenceEnd =>
          skip
          return []
      | _ =>
          let item ← readNode fuel .flow
          return item :: (← readFlowItems fuel false)

/-- The entries of a mapping in brackets; a key without a sign has no value. -/
def readFlowEntries : Nat → Bool → NodeReader (List (Node × Node))
  | 0, _ => malformed
  | fuel + 1, first => do
      if (← peek) matches .flowMappingEnd then
        skip
        return []
      if !first then
        if (← peek) matches .flowEntry then skip else malformed
      match ← peek with
      | .key =>
          skip
          let key ← readNodeUnless fuel isMappingGap .flow
          let value ← readValue fuel isMappingGap .flow
          return (key, value) :: (← readFlowEntries fuel false)
      | .flowMappingEnd =>
          skip
          return []
      | _ =>
          let key ← readNode fuel .flow
          return (key, .absent) :: (← readFlowEntries fuel false)

end

/-- Take the directives before a document; the version and every handle are declared once. -/
def readDirectives (seen : Bool) (handles : List (String × String)) :
    List Token → Except Fault (List (String × String) × List Token)
  | .directive (.version major) :: rest =>
      if seen || major != 1 then .error .malformed else readDirectives true handles rest
  | .directive (.handle name address) :: rest =>
      if (handles.lookup name).isSome then .error .malformed
      else readDirectives seen (handles ++ [(name, address)]) rest
  | .directive .unknown :: rest => readDirectives seen handles rest
  | rest => .ok (handles ++ defaultHandles, rest)

/-- The start of a document behind its directives. -/
def readStart : NodeReader Unit := do
  let source ← get
  let (handles, rest) ← readDirectives false [] source.tokens
  set { source with handles := handles, tokens := rest }
  match ← peek with
  | .documentStart => skip
  | _ => malformed

def isDocumentGap : Token → Bool
  | .directive _ | .documentStart | .documentEnd | .streamEnd => true
  | _ => false

/-- The end of a document, behind which no other one starts. -/
def readEnd : NodeReader Unit := do
  modify fun source =>
    { source with tokens := source.tokens.dropWhile fun token => token matches .documentEnd }
  match ← peek with
  | .streamEnd => pure ()
  | _ =>
      readStart
      malformed

/-- The only document, or `none` if the stream has none. -/
def readStream (fuel : Nat) : NodeReader (Option Node) := do
  match ← peek with
  | .streamEnd => return none
  | .directive _ | .documentStart =>
      readStart
      let node ← readNodeUnless fuel isDocumentGap .block
      readEnd
      return some node
  | _ =>
      let node ← readNode fuel .block
      readEnd
      return some node

end NodeReader

/-- The tree of a document. -/
def Node.ofText? (text : List Char) : Except Fault (Option Node) :=
  let tokens := Tokens.ofText text
  (NodeReader.readStream (4 * tokens.items.length + 4)
    ⟨tokens.items, tokens.fault, NodeReader.defaultHandles, []⟩).map (·.1)

end CommitLint.Yaml
