/-
# Hallmark.Yaml.Document -- the value of a document

A node becomes a value by its tag.  A collection begins empty and is filled when its turn
comes, in the order in which collections began; so of several nodes that write no value the
one nearest to the root is reported, and of those the first.  Filling a mapping first takes
in what its merge keys name, before its own entries, and the last of several entries for
one key decides.  What merge keys named stays taken in wherever the mapping is held.

`Assembly` is the state of this: the nodes, and for each node that has begun its draft, in
which collections name what they hold by node.  When everything is filled, the draft of the
root is read off as a value, in which a collection that holds itself is a knot.

The items of a set have the order in which the process at hand shows them.
-/
import Hallmark.Yaml.Node
import Hallmark.Document.SetOrder

namespace Hallmark.Yaml

set_option autoImplicit false

open Document

/-- What a node has become.  An item of `pairs` is a key and its value under a mark. -/
inductive Draft where
  | value (v : Value)
  | list (items : List Nat)
  | pairs (items : List (Nat × Nat × Nat))
  | map (entries : Dictionary Value Nat)
  | set (keys : List Value)

namespace Draft

def bracket : Draft → Bracket
  | .map _ => .curly
  | .set _ => .curly
  | _ => .square

/-- The draft with which a collection begins; scalars have none. -/
def empty? : Tag → Option Draft
  | .sequence => some (.list [])
  | .orderedMapping => some (.pairs [])
  | .pairs => some (.pairs [])
  | .mapping => some (.map [])
  | .set => some (.set [])
  | _ => none

end Draft

/-- How many entries the mappings among some nodes have. -/
def countEntries (nodes : Array Node) : Nat :=
  nodes.foldl (fun total node =>
    match node.content with
    | .mapping entries => total + entries.length
    | _ => total) 0

/-- `places` is more than the merge keys of the document; `waiting` holds the collections
that have begun and are not filled, the last one first; `marks` is the next mark for an item
of `pairs`. -/
structure Assembly where
  nodes : Array Node
  places : Nat
  drafts : Array (Option Draft)
  waiting : List Nat
  marks : Nat

abbrev Assemble := StateT Assembly (Except Unreadable)

namespace Assemble

def malformed {α : Type} : Assemble α := throw .malformed

def node (number : Nat) : Assemble Node := do
  match (← get).nodes[number]? with
  | some node => return node
  | none => malformed

def setContent (number : Nat) (content : Content) : Assemble Unit := modify fun s =>
  { s with nodes := s.nodes.modify number fun node => { node with content := content } }

def setTag (number : Nat) (tag : Tag) : Assemble Unit := modify fun s =>
  { s with nodes := s.nodes.modify number fun node => { node with tag := tag } }

def setDraft (number : Nat) (d : Draft) : Assemble Unit := modify fun s =>
  { s with drafts := s.drafts.setIfInBounds number (some d) }

/-! ## Merge keys -/

/-- The place of the first merge key among entries. -/
def mergePlace? (entries : List (Nat × Nat)) : Assemble (Option Nat) := do
  let tags ← entries.mapM fun e => (·.tag) <$> node e.1
  return tags.findIdx? (· = .merge)

def entriesOf (number : Nat) : Assemble (List (Nat × Nat)) := do
  match (← node number).content with
  | .mapping entries => return entries
  | _ => malformed

/-- Takes merge keys out of a mapping one by one, and at last puts what they named, which
is `merged` so far, in front; the keys `=` are texts then.  Every step but the last leaves
fewer merge keys in the document, and `fuel` bounds their number. -/
def takeIn (number : Nat) : Nat → List (Nat × Nat) → Assemble Unit
  | 0, _ => malformed
  | fuel + 1, merged => do
    let entries ← entriesOf number
    let place ← mergePlace? entries
    match place.bind fun place => (entries[place]?).map (place, ·.2) with
    | none => do
      for (key, _) in entries do
        if (← node key).tag = .value then setTag key .text
      setContent number (.mapping (merged ++ entries))
    | some (place, named) => do
      setContent number (.mapping (entries.eraseIdx place))
      let taken (mapping : Nat) : Assemble (List (Nat × Nat)) := do
        takeIn mapping fuel []
        entriesOf mapping
      let more ← match (← node named).content with
        | .mapping _ => taken named
        | .sequence items => do pure ((← items.mapM taken).reverse.flatten)
        | .scalar _ => malformed
      takeIn number fuel (merged ++ more)

/-- The entries of a mapping with what its merge keys name. -/
def mergedEntries (number : Nat) : Assemble (List (Nat × Nat)) := do
  let _ ← entriesOf number
  takeIn number (← get).places []
  entriesOf number

/-! ## Scalars -/

/-- The content of a scalar; a mapping has that of the value of its first `=` key.  A
mapping for which that is the mapping itself has no end. -/
def content : Nat → Nat → Assemble String
  | 0, _ => throw (.fault .tooDeep)
  | fuel + 1, number => do
    match (← node number).content with
    | .scalar text => return text
    | .sequence _ => malformed
    | .mapping entries => do
      let tags ← entries.mapM fun e => (·.tag) <$> node e.1
      match (tags.zip entries).find? (·.1 = .value) with
      | some (_, _, value) => content fuel value
      | none => malformed

def scalar (number : Nat) : Assemble Value := do
  let tag := (← node number).tag
  if tag = .unknown ∨ tag = .merge ∨ tag = .value then malformed
  let text ← content ((← get).nodes.size + 1) number
  match tag, (← node number).content with
  | .timestamp, .scalar _ => tag.read (number + 1) text
  | .timestamp, _ => throw (.fault (.notWritten "list"))
  | _, _ => tag.read (number + 1) text

/-! ## Drafts -/

/-- The draft of a node, which begins now unless it has begun. -/
def begin (number : Nat) : Assemble Draft := do
  match (← get).drafts[number]?.join with
  | some d => return d
  | none =>
    match Draft.empty? (← node number).tag with
    | some d => do
      setDraft number d
      modify fun s => { s with waiting := number :: s.waiting }
      return d
    | none => do
      let d := Draft.value (← scalar number)
      setDraft number d
      return d

/-- A key has to be a value that can be one. -/
def key (number : Nat) : Assemble Value := do
  match ← begin number with
  | .value v => if v.isKey then return v else malformed
  | _ => malformed

def entry (e : Nat × Nat) : Assemble (Value × Nat) := do
  let k ← key e.1
  let _ ← begin e.2
  return (k, e.2)

def dictionary (number : Nat) : Assemble (Dictionary Value Nat) := do
  Dictionary.ofEntries <$> (← mergedEntries number).mapM entry

/-- A mapping of one entry as an item of `pairs`. -/
def pair (number : Nat) : Assemble (Nat × Nat × Nat) := do
  match ← entriesOf number with
  | [(k, v)] => do
    let _ ← begin k
    let _ ← begin v
    let mark := (← get).marks
    modify fun s => { s with marks := mark + 1 }
    return (mark, k, v)
  | _ => malformed

variable (order : SetOrder)

def fill (number : Nat) : Assemble Unit := do
  let node ← node number
  let draft ← match node.tag, node.content with
    | .sequence, .sequence items => do
      let _ ← items.mapM begin
      pure (.list items)
    | .orderedMapping, .sequence items => .pairs <$> items.mapM pair
    | .pairs, .sequence items => .pairs <$> items.mapM pair
    | .mapping, _ => .map <$> dictionary number
    | .set, _ => (fun d => .set (Value.arranged order d.keys)) <$> dictionary number
    | _, _ => malformed
  setDraft number draft

/-- Fills what is waiting and what begins meanwhile; no node waits twice. -/
def fillAll : Nat → Assemble Unit
  | 0 => pure ()
  | fuel + 1 => do
    let waiting := (← get).waiting.reverse
    modify fun s => { s with waiting := [] }
    waiting.forM (fill order)
    if !waiting.isEmpty then fillAll fuel

end Assemble

/-! ## Reading off -/

/-- A value, and the nodes that it stands for without holding them. -/
structure Loose where
  value : Value
  free : List Nat

def unite (xs ys : List Nat) : List Nat := xs ++ ys.filter (· ∉ xs)

/-- A collection with the items that were read off for it; it holds itself if an item
stands for a node around it. -/
def Loose.collection (mark : Nat) (make : List Value → Value) (items : List Loose) : Loose :=
  let v := make (items.map (·.value))
  let free := items.foldl (fun free item => unite free item.free) []
  if free.isEmpty then ⟨v, []⟩ else ⟨.knot mark v, free.filter (· ≠ mark)⟩

/-- The values of the nodes that hold no node around them. -/
abbrev ReadOff := StateM (Array (Option Value))

/-- The value of a node within the nodes `around`; `fuel` bounds how many can be. -/
def readOff (drafts : Array (Option Draft)) : Nat → List Nat → Nat → ReadOff Loose
  | 0, _, _ => return ⟨.none, []⟩
  | fuel + 1, around, number => do
    let draft := drafts[number]?.join.getD (.value .none)
    if number ∈ around then return ⟨.again number draft.bracket, [number]⟩
    match (← get)[number]?.join with
    | some v => return ⟨v, []⟩
    | none =>
      let within := readOff drafts fuel (number :: around)
      let result : Loose ← match draft with
        | .value v => pure ⟨v, []⟩
        | .set keys => pure ⟨.set keys, []⟩
        | .list items => Loose.collection number .list <$> items.mapM within
        | .map entries =>
          Loose.collection number (fun values => .map (entries.keys.zip values))
            <$> entries.mapM fun e => within e.2
        | .pairs items =>
          Loose.collection number .list <$> items.mapM fun (mark, k, v) => do
            return Loose.collection mark .tuple [← within k, ← within v]
      if result.free.isEmpty then
        match result.value with
        | .knot _ _ => pure ()
        | v => modify fun known => known.setIfInBounds number (some v)
      return result

/-- The value of the root of some nodes; without a root it is nothing. -/
def Nodes.value (order : SetOrder) (nodes : Nodes) : Except Unreadable Value := do
  match nodes.root with
  | none => return .none
  | some root =>
    let size := nodes.all.size
    let blank : Array (Option Draft) := Array.replicate size none
    let build : Assemble Unit := do
      let _ ← Assemble.begin root
      Assemble.fillAll order (size + 1)
    let (_, s) ← build.run ⟨nodes.all, countEntries nodes.all + 1, blank, [], size⟩
    return ((readOff s.drafts (size + 1) [] root).run (Array.replicate size none)).1.value

/-- The value that a text writes; a text without a document writes nothing. -/
def read (order : SetOrder) (text : List Char) : Except Unreadable Value := do
  if !text.all isAllowed then throw .malformed
  (← Nodes.ofTokens (Tokens.ofText text)).value order

end Hallmark.Yaml
