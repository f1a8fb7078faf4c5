/-
BrowserScript.Yaml.Node — the nodes of a document.

A node is a scalar, a list or a list of pairs, each with a complete tag. Anchors name nodes and aliases
stand for them, also inside the node that they name, so nodes know each other by number.

* `Node` is one of them, `Nodes` are all of a document by number.
* `Composer` is a step of reading them from tokens. A step that needs a token which a fault keeps back
  ends in that fault.
* `readNodes` reads the single document of a text.
-/
import BrowserScript.Yaml.Spelling
import BrowserScript.Yaml.Tokens

namespace BrowserScript.Yaml

/-- What a node holds: a text, or the numbers of other nodes. -/
inductive Content where
  | scalar (text : String)
  | seq (items : List Nat)
  | map (entries : List (Nat × Nat))
  deriving Repr, Inhabited, DecidableEq

/-- A node with its tag. -/
structure Node where
  tag : String
  content : Content
  deriving Repr, Inhabited, DecidableEq

/-- The nodes of a document by number. -/
abbrev Nodes := Array Node

/-! ## Steps -/

/-- What is known while a document is read: the tokens left and the fault behind them, the numbers of
nodes by anchor, the handles of tags, the nodes so far, and in how many nodes the present one lies. -/
structure Compose where
  left : List Token
  fault : Option YamlFault
  anchors : List (String × Nat)
  handles : List (String × String)
  nodes : Nodes
  depth : Nat

/-- A step of reading a document. -/
abbrev Composer := StateT Compose (Except YamlFault)

/-- Nodes do not lie in more nodes than these. -/
def depthLimit : Nat := 485

namespace Composer

/-- A text that breaks the rules. -/
def refuse {α : Type} (reason : String) : Composer α := fun _ => .error (.invalid reason)

/-- The next token. -/
def peek : Composer (Option Token) := fun s =>
  match s.left, s.fault with
  | [], some fault => .error fault
  | left, _ => .ok (left.head?, s)

/-- Passes a token. -/
def pass : Composer Unit := fun s => .ok ((), { s with left := s.left.tail })

/-- Whether the next token is one of some kinds. -/
def nextIs (kinds : List Token) : Composer Bool := do
  match ← peek with
  | some t => pure (kinds.contains t)
  | none => pure false

/-- Passes the next token if it is of a kind. -/
def passIf (kind : Token) : Composer Bool := do
  if ← nextIs [kind] then pass; pure true else pure false

/-- The complete tag of a written one. -/
def fullTag (t : TagName) : Composer String := fun s =>
  match t.handle with
  | none => .ok (t.suffix, s)
  | some handle =>
    match (s.handles.find? (·.1 == handle)).map (·.2) with
    | some start => .ok (start ++ t.suffix, s)
    | none => .error (.invalid "found undefined tag handle")

/-- The number of the node that an alias stands for. -/
def aliased (name : String) : Composer Nat := do
  match ((← get).anchors.find? (·.1 == name)).map (·.2) with
  | some n => pure n
  | none => refuse "found undefined alias"

/-- A new node, which an anchor may name. -/
def add (anchor : Option String) (n : Node) : Composer Nat := do
  let s ← get
  let number := s.nodes.size
  match anchor with
  | none => set { s with nodes := s.nodes.push n }
  | some name =>
    if s.anchors.any (·.1 == name) then refuse "found duplicate anchor"
    else set { s with nodes := s.nodes.push n, anchors := (name, number) :: s.anchors }
  pure number

/-- What a node holds, when the nodes in it have been read. -/
def fill (number : Nat) (content : Content) : Composer Nat := do
  modify (fun s => { s with nodes := s.nodes.modify number (fun n => { n with content }) })
  pure number

/-- A step one node deeper. -/
def deeper {α : Type} (step : Composer α) : Composer α := do
  let depth := (← get).depth
  if depthLimit < depth then
    fun _ => .error (.unbuildable "RecursionError" "maximum recursion depth exceeded")
  else
    modify (fun s => { s with depth := depth + 1 })
    let a ← step
    modify (fun s => { s with depth })
    pure a

/-- The properties before a node: anchor and tag in either order. -/
def properties : Composer (Option String × Option String) := do
  match ← peek with
  | some (.anchor name) =>
    pass
    match ← peek with
    | some (.tag t) =>
      pass
      let full ← fullTag t
      pure (some name, some full)
    | _ => pure (some name, none)
  | some (.tag t) =>
    pass
    match ← peek with
    | some (.anchor name) =>
      pass
      let full ← fullTag t
      pure (some name, some full)
    | _ =>
      let full ← fullTag t
      pure (none, some full)
  | _ => pure (none, none)

end Composer

open Composer

/-! ## Nodes -/

/-- The tag of a scalar. -/
def scalarTag (tag : Option String) (text : String) (plain : Bool) : String :=
  match tag with
  | none => if plain then plainTag text else commonTag "str"
  | some "!" => plainTag text
  | some tag => tag

/-- The tag of a list or of pairs. -/
def collectionTag (tag : Option String) (name : String) : String :=
  match tag with
  | none => commonTag name
  | some "!" => commonTag name
  | some tag => tag

/-- A scalar. -/
def addScalar (anchor tag : Option String) (text : String) (plain : Bool) : Composer Nat :=
  add anchor ⟨scalarTag tag text plain, .scalar text⟩

/-- The node of nothing at all. -/
def addEmpty : Composer Nat := addScalar none none "" true

/-- A list, whose items a step reads. -/
def addSeq (anchor tag : Option String) (items : Composer (List Nat)) : Composer Nat := do
  let number ← add anchor ⟨collectionTag tag "seq", .seq []⟩
  fill number (.seq (← items))

/-- Pairs, which a step reads. -/
def addMap (anchor tag : Option String) (entries : Composer (List (Nat × Nat))) : Composer Nat := do
  let number ← add anchor ⟨collectionTag tag "map", .map []⟩
  fill number (.map (← entries))

mutual

/-- One node. In a block, blocks may begin; `bare` allows a list without an indentation of its
own. -/
def readNode : Nat → Bool → Bool → Composer Nat
  | 0, _, _ => refuse "expected the node content"
  | fuel + 1, block, bare => do
    match ← peek with
    | some (.alias name) => pass; aliased name
    | _ => deeper do
      let (anchor, tag) ← properties
      readContent fuel block bare anchor tag

/-- A node after its properties. -/
def readContent : Nat → Bool → Bool → Option String → Option String → Composer Nat
  | 0, _, _, _, _ => refuse "expected the node content"
  | fuel + 1, block, bare, anchor, tag => do
    match ← peek, block, bare with
    | some (.scalar text plain), _, _ => pass; addScalar anchor tag text plain
    | some .flowSequenceStart, _, _ => addSeq anchor tag do pass; flowItems fuel true
    | some .flowMappingStart, _, _ => addMap anchor tag do pass; flowEntries fuel true
    | some .blockEntry, _, true => addSeq anchor tag (bareItems fuel)
    | some .blockSequenceStart, true, _ => addSeq anchor tag do pass; blockItems fuel
    | some .blockMappingStart, true, _ => addMap anchor tag do pass; blockEntries fuel
    | _, _, _ =>
      if anchor.isSome || tag.isSome then addScalar anchor tag "" true
      else refuse "expected the node content"

/-- A node unless one of some tokens comes. -/
def nodeUnless : Nat → List Token → Bool → Bool → Composer Nat
  | 0, _, _, _ => refuse "expected the node content"
  | fuel + 1, stops, block, bare => do
    if ← nextIs stops then addEmpty else readNode fuel block bare

/-- The node after a mark, nothing when the mark or the node is left out. -/
def nodeAfter : Nat → Token → List Token → Bool → Composer Nat
  | 0, _, _, _ => refuse "expected the node content"
  | fuel + 1, mark, stops, block => do
    if ← passIf mark then nodeUnless fuel stops block block else addEmpty

/-- The items of a list in a block. -/
def blockItems : Nat → Composer (List Nat)
  | 0 => refuse "expected <block end>"
  | fuel + 1 => do
    if ← passIf .blockEntry then
      let item ← nodeUnless fuel [.blockEntry, .blockEnd] true false
      let more ← blockItems fuel
      pure (item :: more)
    else if ← passIf .blockEnd then pure []
    else refuse "expected <block end>"

/-- The items of a list without an indentation of its own. -/
def bareItems : Nat → Composer (List Nat)
  | 0 => refuse "expected <block end>"
  | fuel + 1 => do
    if ← passIf .blockEntry then
      let item ← nodeUnless fuel [.blockEntry, .key, .value, .blockEnd] true false
      let more ← bareItems fuel
      pure (item :: more)
    else pure []

/-- The pairs of a block. -/
def blockEntries : Nat → Composer (List (Nat × Nat))
  | 0 => refuse "expected <block end>"
  | fuel + 1 => do
    if ← passIf .key then
      let k ← nodeUnless fuel [.key, .value, .blockEnd] true true
      let v ← nodeAfter fuel .value [.key, .value, .blockEnd] true
      let more ← blockEntries fuel
      pure ((k, v) :: more)
    else if ← passIf .blockEnd then pure []
    else refuse "expected <block end>"

/-- The items of a list in brackets. -/
def flowItems : Nat → Bool → Composer (List Nat)
  | 0, _ => refuse "expected ',' or ']'"
  | fuel + 1, first => do
    if ← passIf .flowSequenceEnd then pure []
    else
      if !first then
        if !(← passIf .flowEntry) then refuse "expected ',' or ']'"
      if ← passIf .key then
        let item ← deeper (addMap none none do
          let k ← nodeUnless fuel [.value, .flowEntry, .flowSequenceEnd] false false
          let v ← nodeAfter fuel .value [.flowEntry, .flowSequenceEnd] false
          pure [(k, v)])
        let more ← flowItems fuel false
        pure (item :: more)
      else if ← passIf .flowSequenceEnd then pure []
      else
        let item ← readNode fuel false false
        let more ← flowItems fuel false
        pure (item :: more)

/-- The pairs in braces. -/
def flowEntries : Nat → Bool → Composer (List (Nat × Nat))
  | 0, _ => refuse "expected ',' or '\x7d'"
  | fuel + 1, first => do
    if ← passIf .flowMappingEnd then pure []
    else
      if !first then
        if !(← passIf .flowEntry) then refuse "expected ',' or '\x7d'"
      if ← passIf .key then
        let k ← nodeUnless fuel [.value, .flowEntry, .flowMappingEnd] false false
        let v ← nodeAfter fuel .value [.flowEntry, .flowMappingEnd] false
        let more ← flowEntries fuel false
        pure ((k, v) :: more)
      else if ← passIf .flowMappingEnd then pure []
      else
        let k ← readNode fuel false false
        let v ← addEmpty
        let more ← flowEntries fuel false
        pure ((k, v) :: more)

end

/-! ## Documents -/

/-- The handles that every document knows. -/
def defaultHandles : List (String × String) := [("!", "!"), ("!!", commonTag "")]

/-- The directives before a document; each may be given once. -/
def directives : Nat → Bool → List (String × String) → Composer (List (String × String))
  | 0, _, handles => pure handles
  | fuel + 1, seen, handles => do
    match ← peek with
    | some (.yamlDirective major _) =>
      if seen then refuse "found duplicate YAML directive"
      else if major != 1 then refuse "found incompatible YAML document"
      else pass; directives fuel true handles
    | some (.tagDirective handle start) =>
      if handles.any (·.1 == handle) then refuse "duplicate tag handle"
      else pass; directives fuel seen (handles ++ [(handle, start)])
    | some .otherDirective => pass; directives fuel seen handles
    | _ => pure handles

/-- Marks of document ends. -/
def skipEnds : Nat → Composer Unit
  | 0 => pure ()
  | fuel + 1 => do if ← passIf .documentEnd then skipEnds fuel

/-- Whether a directive comes. -/
def atDirective : Composer Bool := do
  match ← peek with
  | some (.yamlDirective ..) | some (.tagDirective ..) | some .otherDirective => pure true
  | _ => pure false

/-- The beginning of a document after its directives, whose handles hold in it. -/
def beginDocument (fuel : Nat) : Composer Unit := do
  let handles ← directives fuel false []
  let added := defaultHandles.filter (fun h => !handles.any (·.1 == h.1))
  modify (fun s => { s with handles := handles ++ added })
  if !(← passIf .documentStart) then refuse "expected '<document start>'"

/-- Nothing but marks of ends follows the document. -/
def endDocuments (fuel : Nat) : Composer Unit := do
  skipEnds fuel
  if !(← nextIs [.streamEnd]) then
    beginDocument fuel
    refuse "expected a single document in the stream"

/-- The single document of some tokens, nothing when there is none. -/
def document (fuel : Nat) : Composer (Option Nat) := do
  if !((← atDirective) || (← nextIs [.documentStart, .streamEnd])) then
    modify (fun s => { s with handles := defaultHandles })
    let n ← readNode fuel true false
    endDocuments fuel
    pure (some n)
  else
    skipEnds fuel
    if ← nextIs [.streamEnd] then pure none
    else
      beginDocument fuel
      let empty := (← atDirective) || (← nextIs [.documentStart, .documentEnd, .streamEnd])
      let n ← if empty then addEmpty else readNode fuel true false
      endDocuments fuel
      pure (some n)

/-- The nodes of the single document of a text, with the number of the outermost one; nothing when there
is no document. -/
def readNodes (text : String) : Except YamlFault (Option Nat × Nodes) :=
  let ts := Tokens.ofText text
  match (document (4 * ts.list.length + 8)).run ⟨ts.list, ts.fault, [], [], #[], 0⟩ with
  | .ok (n, s) => .ok (n, s.nodes)
  | .error fault => .error fault

end BrowserScript.Yaml
