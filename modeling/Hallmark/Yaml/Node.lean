/-
# Hallmark.Yaml.Node -- the nodes that a document writes

A node is a scalar, a sequence or a mapping with its tag.  The nodes of a document are
numbered in the order in which they begin, and a collection names what it holds by number:
an alias is the number of its anchor's node, so that a node may be held twice, and even by
itself.

Tokens are read by recursive descent: block collections are delimited by the tokens that
stand for indentation, flow collections by their brackets, and a missing node is an empty
plain scalar.  An anchor may not be set twice, collections may be nested up to a limit, and
only one document may be written.  No more tokens are asked for than are needed to tell
what is wrong, so a text that cannot be read further may be refused before that shows.
-/
import Hallmark.Yaml.Scalar

namespace Hallmark.Yaml

set_option autoImplicit false

inductive Content where
  | scalar (text : String)
  | sequence (items : List Nat)
  | mapping (entries : List (Nat × Nat))

structure Node where
  tag : Tag
  content : Content

/-- What is left to read and why it may end early, the nodes so far, the anchors by name,
the expansions of tag handles, and how many collections are open. -/
structure Reader where
  tokens : Tokens
  nodes : Array Node
  anchors : List (String × Nat)
  handles : List (String × String)
  depth : Nat

abbrev Read := StateT Reader (Except Unreadable)

namespace Read

def malformed {α : Type} : Read α := throw .malformed

def peek : Read Token := do
  let tokens := (← get).tokens
  match tokens.settled, tokens.fault with
  | t :: _, _ => return t
  | [], some e => throw e
  | [], none => return .streamEnd

def skip : Read Unit := modify fun s =>
  { s with tokens := { s.tokens with settled := s.tokens.settled.drop 1 } }

def accept (t : Token) : Read Bool := do
  if (← peek) = t then
    skip
    return true
  return false

def expect (t : Token) : Read Unit := do
  if !(← accept t) then malformed

def standardHandles : List (String × String) := [("!", "!"), ("!!", Tag.standard)]

/-! ## Properties -/

/-- The properties of a node: its anchor and its written tag. -/
structure Properties where
  anchor : Option String
  tag : Option String

def anchor? : Read (Option String) := do
  match ← peek with
  | .anchor name => do
    skip
    return some name
  | _ => return none

/-- A tag as a handle, which may be left out, and what follows it. -/
abbrev WrittenTag := Option String × String

def tag? : Read (Option WrittenTag) := do
  match ← peek with
  | .tag handle suffix => do
    skip
    return some (handle, suffix)
  | _ => return none

def expandTag : WrittenTag → Read String
  | (none, suffix) => return suffix
  | (some name, suffix) => do
    match (← get).handles.lookup name with
    | some expansion => return expansion ++ suffix
    | none => malformed

def properties : Read Properties := do
  let (anchor, tag) ← match ← anchor? with
    | some name => do pure (some name, ← tag?)
    | none => do
      let tag ← tag?
      pure (← if tag.isSome then anchor? else pure none, tag)
  return ⟨anchor, ← tag.mapM expandTag⟩

/-- The tag of a scalar: as written, or by its content where it is plain or asks for it. -/
def scalarTag (written : Option String) (plain : Bool) (content : String) : Tag :=
  match written with
  | none => if plain then Tag.ofSpelling content.toList else .text
  | some "!" => Tag.ofSpelling content.toList
  | some name => Tag.ofName name

def collectionTag (written : Option String) (standard : Tag) : Tag :=
  match written with
  | none => standard
  | some "!" => standard
  | some name => Tag.ofName name

/-! ## Nodes -/

/-- A new node, which its anchor names from now on. -/
def start (anchor : Option String) (node : Node) : Read Nat := do
  let s ← get
  if anchor.any fun name => (s.anchors.lookup name).isSome then malformed
  let number := s.nodes.size
  set { s with
    nodes := s.nodes.push node
    anchors := (anchor.map fun name => (name, number)).toList ++ s.anchors }
  return number

def empty : Read Nat := start none ⟨.null, .scalar ""⟩

/-- How many collections may lie within one another. -/
def deepest : Nat := 490

/-- A new collection that holds what is read next. -/
def collect (anchor : Option String) (tag : Tag) (content : Read Content) : Read Nat := do
  let number ← start anchor ⟨tag, .sequence []⟩
  if deepest ≤ (← get).depth then throw (.fault .tooDeep)
  modify fun s => { s with depth := s.depth + 1 }
  let content ← content
  modify fun s =>
    { s with depth := s.depth - 1, nodes := s.nodes.setIfInBounds number ⟨tag, content⟩ }
  return number

/-- A node of which only the properties are written. -/
def bare (p : Properties) : Read Nat := do
  if p.anchor.isNone ∧ p.tag.isNone then malformed
  start p.anchor ⟨scalarTag p.tag true "", .scalar ""⟩

/-- Where a node may stand: in block context, block collections may begin; after a key
or a value, so may a sequence that is not indented. -/
structure Place where
  block : Bool
  sameIndent : Bool

def inBlock : Place := ⟨true, false⟩

def inMapping : Place := ⟨true, true⟩

def inFlow : Place := ⟨false, false⟩

mutual

def node (fuel : Nat) (place : Place) : Read Nat :=
  match fuel with
  | 0 => malformed
  | fuel + 1 => do
    match ← peek with
    | .alias name => do
      skip
      match (← get).anchors.lookup name with
      | some number => return number
      | none => malformed
    | _ => do
      let p ← properties
      let sequence (items : Read (List Nat)) : Read Nat :=
        collect p.anchor (collectionTag p.tag .sequence) (.sequence <$> items)
      let mapping (entries : Read (List (Nat × Nat))) : Read Nat :=
        collect p.anchor (collectionTag p.tag .mapping) (.mapping <$> entries)
      match ← peek with
      | .blockEntry => if place.sameIndent then sequence (sameIndentItems fuel) else bare p
      | .scalar content plain => do
        skip
        start p.anchor ⟨scalarTag p.tag plain content, .scalar content⟩
      | .openSequence => sequence do
        skip
        flowItems fuel true
      | .openMapping => mapping do
        skip
        flowEntries fuel true
      | .blockSequence =>
        if place.block then sequence do
          skip
          blockItems fuel
        else bare p
      | .blockMapping =>
        if place.block then mapping do
          skip
          blockEntries fuel
        else bare p
      | _ => bare p

/-- The node here, or an empty one before any of `ends`. -/
def nodeOrEmpty (fuel : Nat) (place : Place) (ends : List Token) : Read Nat :=
  match fuel with
  | 0 => malformed
  | fuel + 1 => do
    if ends.contains (← peek) then empty else node fuel place

def blockItems (fuel : Nat) : Read (List Nat) :=
  match fuel with
  | 0 => malformed
  | fuel + 1 => do
    if ← accept .blockEntry then
      let item ← nodeOrEmpty fuel inBlock [.blockEntry, .blockEnd]
      return item :: (← blockItems fuel)
    expect .blockEnd
    return []

def sameIndentItems (fuel : Nat) : Read (List Nat) :=
  match fuel with
  | 0 => malformed
  | fuel + 1 => do
    if ← accept .blockEntry then
      let item ← nodeOrEmpty fuel inBlock [.blockEntry, .key, .value, .blockEnd]
      return item :: (← sameIndentItems fuel)
    return []

/-- The value after a key, which is empty unless a `:` follows. -/
def valueAfterKey (fuel : Nat) (place : Place) (ends : List Token) : Read Nat :=
  match fuel with
  | 0 => malformed
  | fuel + 1 => do
    if ← accept .value then nodeOrEmpty fuel place ends else empty

def blockEntries (fuel : Nat) : Read (List (Nat × Nat)) :=
  match fuel with
  | 0 => malformed
  | fuel + 1 => do
    let ends := [Token.key, .value, .blockEnd]
    if ← accept .key then
      let key ← nodeOrEmpty fuel inMapping ends
      let value ← valueAfterKey fuel inMapping ends
      return (key, value) :: (← blockEntries fuel)
    expect .blockEnd
    return []

/-- The items of a flow sequence; one that begins with a key is a mapping of one entry. -/
def flowItems (fuel : Nat) (first : Bool) : Read (List Nat) :=
  match fuel with
  | 0 => malformed
  | fuel + 1 => do
    if ← accept .closeSequence then return []
    if !first then expect .flowEntry
    if (← peek) = .key then
      let entry : Read Content := do
        skip
        let key ← nodeOrEmpty fuel inFlow [.value, .flowEntry, .closeSequence]
        let value ← valueAfterKey fuel inFlow [.flowEntry, .closeSequence]
        return .mapping [(key, value)]
      let item ← collect none .mapping entry
      return item :: (← flowItems fuel false)
    if ← accept .closeSequence then return []
    let item ← node fuel inFlow
    return item :: (← flowItems fuel false)

def flowEntries (fuel : Nat) (first : Bool) : Read (List (Nat × Nat)) :=
  match fuel with
  | 0 => malformed
  | fuel + 1 => do
    if ← accept .closeMapping then return []
    if !first then expect .flowEntry
    if ← accept .key then
      let key ← nodeOrEmpty fuel inFlow [.value, .flowEntry, .closeMapping]
      let value ← valueAfterKey fuel inFlow [.flowEntry, .closeMapping]
      return (key, value) :: (← flowEntries fuel false)
    if ← accept .closeMapping then return []
    let key ← node fuel inFlow
    return (key, ← empty) :: (← flowEntries fuel false)

end

/-! ## Documents -/

/-- The directives before a document: at most one version, which has to be 1, and
handles that differ. -/
def directives (fuel : Nat) (version : Bool) (handles : List (String × String)) :
    Read (List (String × String)) :=
  match fuel with
  | 0 => malformed
  | fuel + 1 => do
    match ← peek with
    | .version major => do
      if version ∨ major ≠ 1 then malformed
      skip
      directives fuel true handles
    | .handle name expansion => do
      if (handles.lookup name).isSome then malformed
      skip
      directives fuel version ((name, expansion) :: handles)
    | .otherDirective => do
      skip
      directives fuel version handles
    | _ => return handles

def skipEnds (fuel : Nat) : Read Unit :=
  match fuel with
  | 0 => malformed
  | fuel + 1 => do
    if ← accept .documentEnd then skipEnds fuel

def startsDocument : Token → Bool
  | .version _ => true
  | .handle _ _ => true
  | .otherDirective => true
  | .documentStart => true
  | .streamEnd => true
  | _ => false

/-- The only document of a stream, if there is one. -/
def document (fuel : Nat) : Read (Option Nat) := do
  let explicit := startsDocument (← peek)
  if explicit then
    if (← peek) = .streamEnd then return none
    let handles ← directives fuel false []
    modify fun s => { s with handles := handles ++ standardHandles }
    expect .documentStart
  let root ← if explicit ∧ (startsDocument (← peek) ∨ (← peek) = .documentEnd) then empty
    else node fuel inBlock
  skipEnds fuel
  if (← peek) ≠ .streamEnd then
    let _ ← directives fuel false []
    malformed
  return some root

end Read

/-- The nodes of a document and which of them is its root; a text without a document has
no root. -/
structure Nodes where
  all : Array Node
  root : Option Nat

def Nodes.ofTokens (tokens : Tokens) : Except Unreadable Nodes := do
  let fuel := 4 * tokens.settled.length + 16
  let (root, reader) ← (Read.document fuel).run ⟨tokens, #[], [], Read.standardHandles, 0⟩
  return ⟨reader.nodes, root⟩

end Hallmark.Yaml
