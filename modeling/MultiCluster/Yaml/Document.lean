/-
YAML documents. `Node.read?` builds the nodes of a document from its tokens, with aliases by number
and the numbered nodes beside them; `Node.value?` puts the nodes in place of their aliases and reads
the scalars. `Value.read?` is the one value of a text: a text with two documents has none, an empty
one is null.

A name stands for the number of names known when it was given out, and a number for the node that
took it last. Values may lie 128 collections deep, and aliases may be followed a hundred times as
often as the document has events, so a document that contains itself ends in a refusal.
-/
import MultiCluster.Yaml.Token
import MultiCluster.Yaml.Value
namespace MultiCluster.Yaml

/-- A node, with its tag as written out by the handles in force. -/
inductive Node where
  | alias (number : Nat)
  | scalar (tag : Option String) (plain : Bool) (text : String)
  | sequence (tag : Option String) (items : List Node)
  | mapping (tag : Option String) (entries : List (Node × Node))

namespace Node

/-- The null that stands where a node is left out. -/
def empty : Node := .scalar none true ""

/-- The state of reading: tokens left, tag handles, names with their numbers, the numbered nodes with
the event at which each began, and the events so far. -/
structure Reading where
  tokens : List Token
  handles : List (String × String) := []
  names : List (String × Nat) := []
  numbered : List (Nat × Nat × Node) := []
  events : Nat := 0

abbrev Read := StateT Reading Option

def peek : Read Token := do
  match (← get).tokens with
  | t :: _ => return t
  | [] => failure

def advance : Read Unit := modify fun s => { s with tokens := s.tokens.tail }

/-- Counts `n` events. -/
def count (n : Nat) : Read Unit := modify fun s => { s with events := s.events + n }

def emptyNode : Read Node := do
  count 1
  return empty

/-- Gives out a number for the name. -/
def register (name : String) : Read (Nat × Nat) := do
  let s ← get
  let number := s.names.length
  set { s with names := (name, number) :: s.names.filter fun p => p.1 != name }
  return (number, s.events)

def remember (place : Option (Nat × Nat)) (n : Node) : Read Node := do
  match place with
  | none => return n
  | some (number, start) =>
    modify fun s => { s with numbered := (number, start, n) :: s.numbered }
    return n

/-- A tag with its handle written out. -/
def expandTag (handle suffix : String) : Read String := do
  if handle.isEmpty then return suffix
  else match (← get).handles.lookup handle with
    | some e => return e ++ suffix
    | none => failure

/-- The anchor and the tag before a node, in either order, each at most once. -/
def properties : Read (Option String × Option String) := do
  match ← peek with
  | .anchor a => do
    advance
    match ← peek with
    | .tag h s => do
      advance
      return (some a, some (← expandTag h s))
    | _ => return (some a, none)
  | .tag h s => do
    advance
    match ← peek with
    | .anchor a => do
      advance
      return (some a, some (← expandTag h s))
    | _ => return (none, some (← expandTag h s))
  | _ => return (none, none)

mutual
/-- A node. `block` says whether block collections may start here, `indentless` whether a sequence
may stand without indentation of its own. The bound falls at each call. -/
def node (block indentless : Bool) : Nat → Read Node
  | 0 => failure
  | n + 1 => do
    match ← peek with
    | .alias name => do
      advance
      count 1
      match (← get).names.lookup name with
      | some number => return .alias number
      | none => failure
    | _ => do
      let (anchor, tag) ← properties
      let place ← match anchor with
        | some a => some <$> register a
        | none => pure none
      match ← peek with
      | .scalar plain text => do
        advance
        count 1
        let bare := tag == some "!"
        remember place (.scalar (if bare then none else tag) plain text)
      | .flowSequence => do
        advance
        count 2
        remember place (.sequence tag (← flowItems true n))
      | .flowMapping => do
        advance
        count 2
        remember place (.mapping tag (← flowEntries true n))
      | .blockSequence => do
        if !block then failure
        advance
        count 2
        remember place (.sequence tag (← blockItems n))
      | .blockMapping => do
        if !block then failure
        advance
        count 2
        remember place (.mapping tag (← blockEntries n))
      | .blockEntry => do
        -- the dashes of a sequence may stand under the key that it belongs to
        if indentless then
          count 2
          remember place (.sequence tag (← indentlessItems n))
        else if place.isSome || tag.isSome then
          count 1
          remember place (.scalar (if tag == some "!" then none else tag) true "")
        else failure
      | _ => do
        if anchor.isSome || tag.isSome then
          count 1
          remember place (.scalar tag true "")
        else failure

/-- A node, or the null that stands before one of the closing tokens. -/
def nodeUnless (closing : List Token) (block indentless : Bool) : Nat → Read Node
  | 0 => failure
  | n + 1 => do
    if closing.contains (← peek) then emptyNode else node block indentless n

def blockItems : Nat → Read (List Node)
  | 0 => failure
  | n + 1 => do
    match ← peek with
    | .blockEntry => do
      advance
      let x ← nodeUnless [.blockEntry, .blockEnd] true false n
      return x :: (← blockItems n)
    | .blockEnd => do
      advance
      return []
    | _ => failure

def indentlessItems : Nat → Read (List Node)
  | 0 => failure
  | n + 1 => do
    match ← peek with
    | .blockEntry => do
      advance
      let x ← nodeUnless [.blockEntry, .key, .value, .blockEnd] true false n
      return x :: (← indentlessItems n)
    | _ => return []

def blockEntries : Nat → Read (List (Node × Node))
  | 0 => failure
  | n + 1 => do
    match ← peek with
    | .key => do
      advance
      let k ← nodeUnless [.key, .value, .blockEnd] true true n
      match ← peek with
      | .value => do
        advance
        let v ← nodeUnless [.key, .value, .blockEnd] true true n
        return (k, v) :: (← blockEntries n)
      | _ => do
        let v ← emptyNode
        return (k, v) :: (← blockEntries n)
    | .blockEnd => do
      advance
      return []
    | _ => failure

/-- Items of a flow sequence up to its bracket; a comma stands before each but the first, and one
may stand before the bracket. An item with a key is a mapping of one entry. -/
def flowItems (first : Bool) : Nat → Read (List Node)
  | 0 => failure
  | n + 1 => do
    match ← peek with
    | .flowSequenceEnd => do
      advance
      return []
    | t => do
      if !first then
        if t = .flowEntry then advance else failure
      match ← peek with
      | .key => do
        advance
        count 2
        let k ← singleKey n
        let v ← singleValue n
        return .mapping none [(k, v)] :: (← flowItems false n)
      | .flowSequenceEnd => do
        advance
        return []
      | _ => do
        let x ← node false false n
        return x :: (← flowItems false n)

/-- The key of an entry inside a flow sequence. Where it is left out the token behind it goes
too. -/
def singleKey : Nat → Read Node
  | 0 => failure
  | n + 1 => do
    match ← peek with
    | .value | .flowEntry | .flowSequenceEnd => do
      advance
      emptyNode
    | _ => node false false n

def singleValue : Nat → Read Node
  | 0 => failure
  | n + 1 => do
    match ← peek with
    | .value => do
      advance
      nodeUnless [.flowEntry, .flowSequenceEnd] false false n
    | _ => emptyNode

/-- Entries of a flow mapping up to its brace; an item without a colon is a key with null. -/
def flowEntries (first : Bool) : Nat → Read (List (Node × Node))
  | 0 => failure
  | n + 1 => do
    match ← peek with
    | .flowMappingEnd => do
      advance
      return []
    | t => do
      if !first then
        if t = .flowEntry then advance else failure
      match ← peek with
      | .key => do
        advance
        let k ← nodeUnless [.value, .flowEntry, .flowMappingEnd] false false n
        match ← peek with
        | .value => do
          advance
          let v ← nodeUnless [.flowEntry, .flowMappingEnd] false false n
          return (k, v) :: (← flowEntries false n)
        | _ => do
          let v ← emptyNode
          return (k, v) :: (← flowEntries false n)
      | .flowMappingEnd => do
        advance
        return []
      | _ => do
        let k ← node false false n
        let v ← emptyNode
        return (k, v) :: (← flowEntries false n)
end

/-! ## Documents -/

/-- The directives before a document: at most one version, 1.1 or 1.2, and each handle once. -/
def directives : Nat → Bool → List (String × String) → Read (List (String × String))
  | 0, _, _ => failure
  | n + 1, seen, handles => do
    match ← peek with
    | .version major minor => do
      advance
      if seen || major != 1 || (minor != 1 && minor != 2) then failure
      directives n true handles
    | .tagDirective h e => do
      advance
      if (handles.lookup h).isSome then failure
      directives n seen ((h, e) :: handles)
    | _ => return handles

def defaultHandles : List (String × String) := [("!", "!"), ("!!", "tag:yaml.org,2002:")]

def startsDocument : Token → Bool
  | .version .. | .tagDirective .. | .documentStart => true
  | _ => false

def skipDocumentEnds : Nat → Read Unit
  | 0 => failure
  | n + 1 => do
    match ← peek with
    | .documentEnd => do
      advance
      skipDocumentEnds n
    | _ => return ()

/-- The one document of the tokens, or none if there are none. -/
def document (n : Nat) : Read (Option Node) := do
  match ← peek with
  | .streamEnd => return none
  | t => do
    let root ← if startsDocument t then do
        let handles ← directives n false []
        match ← peek with
        | .documentStart => do
          advance
          modify fun s => { s with handles := handles ++ defaultHandles }
          match ← peek with
          | .version .. | .tagDirective .. | .documentStart | .documentEnd | .streamEnd => emptyNode
          | _ => node true false n
        | _ => failure
      else do
        modify fun s => { s with handles := defaultHandles }
        node true false n
    skipDocumentEnds n
    match ← peek with
    | .streamEnd => return some root
    | _ => failure

/-- A document with what its aliases stand for. -/
structure Document where
  root : Node
  numbered : List (Nat × Nat × Node)
  events : Nat

/-- The node a number stands for: the one that took it last. -/
def Document.node? (d : Document) (number : Nat) : Option Node :=
  let candidates := d.numbered.filter fun p => p.1 == number
  (candidates.foldl (fun best p =>
    match best with
    | none => some p.2
    | some b => if p.2.1 > b.1 then some p.2 else some b) none).map Prod.snd

def read? (tokens : List Token) : Option (Option Document) := do
  let (root, s) ← (document (8 * tokens.length + 16)).run { tokens }
  return root.map fun root => ⟨root, s.numbered, s.events⟩

/-! ## Values -/

/-- Expansion counts the aliases followed. -/
abbrev Expand := StateT Nat Option

/-- The tag of a value, if it is one of the document's own: those begin with an exclamation mark. -/
def localTag? (tag : Option String) : Option String :=
  match tag.map String.toList with
  | some ('!' :: r) => some (String.ofList (if r.isEmpty then ['!'] else r))
  | _ => none

/-- The value of a scalar. The core tags ask for one kind of value; a foreign tag makes a text. -/
def scalarValue (tag : Option String) (plain : Bool) (text : String) : Option Value :=
  match tag with
  | none => if plain then plainValue text else some (.text text)
  | some t =>
    if (localTag? tag).isSome then if plain then plainValue text else some (.text text)
    else if t = "tag:yaml.org,2002:bool" then (bool? text).map .bool
    else if t = "tag:yaml.org,2002:int" then
      match readInt text with
      | .number n => some (.number (.int n))
      | _ => none
    else if t = "tag:yaml.org,2002:float" then (real? text).map fun x => .number (.real x)
    else if t = "tag:yaml.org,2002:null" then if isNull text then some .null else none
    else some (.text text)

/-- A mapping's entries; a key may stand once. -/
def entryValues (inner : Node → Expand Value) :
    List (Node × Node) → List (Value × Value) → Expand (List (Value × Value))
  | [], acc => return acc.reverse
  | (k, v) :: r, acc => do
    let k ← inner k
    if acc.any fun p => p.1.same k then failure
    let v ← inner v
    entryValues inner r ((k, v) :: acc)

/-- The value of a node whose parts have the values that `inner` gives; without `inner` the node may
not be a collection. -/
def valueStep (d : Document) (inner : Option (Node → Expand Value)) (n : Node) : Expand Value := do
  let n ← match n with
    | .alias number => do
      let followed ← get
      -- nested aliases could make a short document expand without bound
      if followed + 1 > d.events * 100 then failure
      set (followed + 1)
      match d.node? number with
      | some n => pure n
      | none => failure
    | n => pure n
  let tagging (tag : Option String) (v : Value) : Value :=
    match localTag? tag with
    | some t => .tagged t v
    | none => v
  match n, inner with
  | .scalar tag plain text, _ =>
    match scalarValue tag plain text with
    | some v => return tagging tag v
    | none => failure
  | .sequence tag items, some inner => do return tagging tag (.sequence (← items.mapM inner))
  | .mapping tag entries, some inner => do return tagging tag (.mapping (← entryValues inner entries []))
  | _, _ => failure

/-- The value of a node at most `depth` collections deep. -/
def valueIn (d : Document) : Nat → Node → Expand Value
  | 0 => valueStep d none
  | depth + 1 => valueStep d (some (valueIn d depth))

/-- Collections may lie this deep in each other. -/
def maxDepth : Nat := 128

def Document.value? (d : Document) : Option Value := ((valueIn d maxDepth d.root).run 0).map Prod.fst

end Node

/-- The value a text holds. -/
def Value.read? (text : String) : Option Value := do
  let tokens ← Token.scan? text
  match ← Node.read? tokens with
  | none => return .null
  | some d => d.value?

end MultiCluster.Yaml
