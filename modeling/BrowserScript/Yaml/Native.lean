/-
BrowserScript.Yaml.Native — what nodes stand for.

A list, entries or a set is there as soon as its node is met, and is filled when its turn comes: first
the outermost one, then those that were met while it was filled, and so on. So a node can be met inside
itself, and of two faults the one counts that this order reaches first.

* `Native` is what a node stands for; lists and entries name the nodes in them by number.
* `spread` puts the pairs of merged nodes before the pairs of a node.
* `make` and `fill` are the two steps, `build` takes all of them.
-/
import BrowserScript.Yaml.Node
import BrowserScript.Yaml.ScalarValue

namespace BrowserScript.Yaml

/-- What a node stands for. The word for no number stands for one thing wherever it is written, unlike
other spellings of no number. -/
inductive Native where
  | leaf (v : Scalar)
  | nan
  | list (items : List Nat)
  | pairs (items : List (Nat × Nat))
  | dict (entries : List (Nat × Nat))
  | set (members : List Nat)
  deriving Repr, Inhabited

/-- The nodes, what those stand for that have been met, and those that wait to be filled. -/
structure Building where
  nodes : Nodes
  natives : Array (Option Native)
  waiting : List Nat

/-- A step of building. -/
abbrev Builder := StateT Building (Except YamlFault)

namespace Builder

/-- A node that does not fit its tag. -/
def refuse {α : Type} (reason : String) : Builder α := fun _ => .error (.invalid reason)

/-- A node. -/
def nodeAt (n : Nat) : Builder Node := return (← get).nodes[n]?.getD default

/-- The pairs of a node, nothing when it has none. -/
def entries? (n : Nat) : Builder (Option (List (Nat × Nat))) := do
  match (← nodeAt n).content with
  | .map entries => return some entries
  | _ => return none

/-- Changes a node. -/
def change (n : Nat) (f : Node → Node) : Builder Unit :=
  modify (fun s => { s with nodes := s.nodes.modify n f })

/-- What a node stands for. -/
def native? (n : Nat) : Builder (Option Native) := return ((← get).natives[n]?).join

/-- Sets what a node stands for. -/
def put (n : Nat) (native : Native) : Builder Unit :=
  modify (fun s => { s with natives := s.natives.setIfInBounds n (some native) })

end Builder

open Builder

/-! ## Merged pairs -/

/-- The pairs that a node adds to another when it is merged: its own, or those of each node in it, the
last node first. -/
def contribution (spread : Nat → Builder Unit) (n : Nat) : Builder (List (Nat × Nat)) := do
  let added (m : Nat) : Builder (List (Nat × Nat)) := do
    match ← entries? m with
    | none => refuse "expected a mapping for merging"
    | some _ =>
      spread m
      return (← entries? m).getD []
  match (← nodeAt n).content with
  | .seq items => return (← items.mapM added).reverse.flatten
  | _ => added n

/-- Takes the pairs with a merge mark from the pairs of a node after the first `i`, and lists what they
add; `merges` bounds their number. A key that is the mark of a value is a text from then on. -/
def takeMerges : Nat → Nat → Nat → List (Nat × Nat) → Builder (List (Nat × Nat))
  | 0, _, _, added => return added
  | merges + 1, n, i, added => do
    let nodes := (← get).nodes
    let tagOf (e : Nat × Nat) : String := (nodes[e.1]?.getD default).tag
    let entries := (← entries? n).getD []
    let before := (entries.drop i).takeWhile (fun e => tagOf e != commonTag "merge")
    for e in before do
      if tagOf e == commonTag "value" then change e.1 (fun k => { k with tag := commonTag "str" })
    match entries.drop (i + before.length) with
    | [] => return added
    | e :: after =>
      change n (fun k => { k with content := .map (entries.take (i + before.length) ++ after) })
      let spread (m : Nat) : Builder Unit := do
        let found ← takeMerges merges m 0 []
        let own := (← entries? m).getD []
        if !found.isEmpty then change m (fun k => { k with content := .map (found ++ own) })
      let more ← contribution spread e.2
      takeMerges merges n (i + before.length) (added ++ more)

/-- The number of pairs in a node. -/
def Content.pairCount : Content → Nat
  | .map entries => entries.length
  | _ => 0

/-- Puts what merged pairs add before the other pairs of a node. -/
def spread (n : Nat) : Builder Unit := do
  let merges := (← get).nodes.toList.foldl (fun n k => n + k.content.pairCount) 0
  let found ← takeMerges (merges + 1) n 0 []
  let own := (← entries? n).getD []
  if !found.isEmpty then change n (fun k => { k with content := .map (found ++ own) })

/-! ## Scalars -/

/-- The text of a node with the tag of a scalar. A node with pairs has the text of the value whose key is
the mark of a value; the first argument bounds the way to it. -/
def scalarText (nodes : Nodes) : Nat → Nat → Except YamlFault String
  | 0, _ => unbuildable "RecursionError" "maximum recursion depth exceeded"
  | fuel + 1, n =>
    match (nodes[n]?.getD default).content with
    | .scalar text => .ok text
    | .map entries =>
      match entries.find? (fun e => (nodes[e.1]?.getD default).tag == commonTag "value") with
      | some (_, v) => scalarText nodes fuel v
      | none => refuse "expected a scalar node"
    | .seq _ => refuse "expected a scalar node"

/-- What a node with the tag of a scalar stands for. A moment is read only from a node that is a scalar
itself. -/
def scalarNative (nodes : Nodes) (n : Nat) : Except YamlFault Native := do
  let node := nodes[n]?.getD default
  let text ← scalarText nodes (nodes.size + 1) n
  match node.content with
  | .scalar _ => pure ()
  | _ =>
    if node.tag == commonTag "timestamp" then
      unbuildable "TypeError" "expected string or bytes-like object, got 'list'"
  if node.tag == commonTag "float" && isNanWord text then return .nan
  else return .leaf (← scalarOf node.tag text)

/-! ## Steps -/

/-- A list, entries or a set with nothing in it. -/
def emptyNative (tag : String) : Option Native :=
  if tag == commonTag "seq" then some (.list [])
  else if tag == commonTag "omap" || tag == commonTag "pairs" then some (.pairs [])
  else if tag == commonTag "map" then some (.dict [])
  else if tag == commonTag "set" then some (.set [])
  else none

/-- What a node stands for when it is met for the first time. -/
def make (n : Nat) : Builder Unit := do
  if (← native? n).isNone then
    let tag := (← nodeAt n).tag
    match emptyNative tag with
    | some native =>
      put n native
      modify (fun s => { s with waiting := s.waiting ++ [n] })
    | none => put n (← scalarNative (← get).nodes n)

/-- Whether something can be a key. -/
def Native.canBeKey : Native → Bool
  | .leaf v => v.value.canBeKey
  | .nan => true
  | _ => false

/-- Whether two keys are one: they stand for the same thing, or for equal values. -/
def sameNative (natives : Array (Option Native)) (m n : Nat) : Bool :=
  m == n ||
    (match natives[m]?.join, natives[n]?.join with
      | some .nan, some .nan => true
      | some (.leaf v), some (.leaf w) => v.value.sameKey w.value
      | _, _ => false)

/-- Pairs with one more; an equal key keeps its place and takes the new value. -/
def insertPair (same : Nat → Nat → Bool) (k v : Nat) : List (Nat × Nat) → List (Nat × Nat)
  | [] => [(k, v)]
  | (l, w) :: rest => if same l k then (l, v) :: rest else (l, w) :: insertPair same k v rest

/-- The pairs of a node as entries: merged pairs first, and no key twice. -/
def entriesOf (n : Nat) : Builder (List (Nat × Nat)) := do
  match ← entries? n with
  | none => refuse "expected a mapping node"
  | some _ =>
    spread n
    ((← entries? n).getD []).foldlM (fun acc (k, v) => do
      make k
      if !((← native? k).map Native.canBeKey).getD false then refuse "found unhashable key"
      make v
      return insertPair (sameNative (← get).natives) k v acc) []

/-- The items of a node. -/
def itemsOf (n : Nat) : Builder (List Nat) := do
  match (← nodeAt n).content with
  | .seq items => return items
  | _ => refuse "expected a sequence node"

/-- Fills a list, entries or a set. -/
def fillNative (n : Nat) : Builder Unit := do
  match ← native? n with
  | some (.list _) =>
    let items ← itemsOf n
    items.forM make
    put n (.list items)
  | some (.pairs _) =>
    let pairs ← (← itemsOf n).mapM (fun item => do
      match ← entries? item with
      | some [(k, v)] =>
        make k
        make v
        return (k, v)
      | _ => refuse "expected a mapping of length 1")
    put n (.pairs pairs)
  | some (.dict _) => put n (.dict (← entriesOf n))
  | some (.set _) => put n (.set ((← entriesOf n).map (·.1)))
  | _ => return

/-- Fills what waits; the first argument bounds how often. -/
def fillAll : Nat → Builder Unit
  | 0 => return
  | fuel + 1 => do
    match (← get).waiting with
    | [] => return
    | n :: rest =>
      modify (fun s => { s with waiting := rest })
      fillNative n
      fillAll fuel

/-- What the nodes stand for, by number, as far as the node `n` leads to them. -/
def build (nodes : Nodes) (n : Nat) : Except YamlFault (Array (Option Native)) :=
  let steps : Builder Unit := do
    make n
    fillAll (nodes.size + 1)
  match steps.run ⟨nodes, Array.replicate nodes.size none, []⟩ with
  | .ok (_, s) => .ok s.natives
  | .error fault => .error fault

end BrowserScript.Yaml
