/-
BrowserScript.Yaml.Tokens — the tokens of a text.

Indentation opens and closes blocks. A key is recognised only at the colon after it, so the place of
every possible key is remembered until its line ends; when the colon comes, the key token is put
before the tokens of the key.

* `Scan` is what is known between two tokens.
* `fetchNext` reads the next token, with the blocks that it opens or closes.
* `Tokens.ofText` lists the tokens of a text up to its end or to the first fault. Tokens are handed on
  one by one: of those before a fault the ones count that are certain when the fault is met, which are
  the ones before the first possible key.
-/
import BrowserScript.Number.Reading
import BrowserScript.Yaml.Scalar

namespace BrowserScript.Yaml

/-- A place at which a key may have begun: the number of tokens before it, whether a colon must follow,
and the place itself. -/
structure KeyPlace where
  tokenNumber : Nat
  required : Bool
  index : Nat
  line : Nat
  column : Nat
  deriving Repr

/-- What is known between two tokens: the place, the depth of brackets, the indentation of the
innermost block and of those around it, the possible keys by depth, whether a key may begin here, and
the tokens so far. -/
structure Scan where
  place : Place
  depth : Nat
  indent : Int
  outer : List Int
  keys : List (Nat × KeyPlace)
  mayKey : Bool
  found : List Token
  deriving Repr

namespace Scan

/-- The beginning of a text. -/
def start (cs : List Char) : Scan := ⟨Place.start cs, 0, -1, [], [], true, []⟩

/-- One more token. -/
def emit (s : Scan) (t : Token) : Scan := { s with found := s.found ++ [t] }

/-- A token of `n` characters. -/
def emitSkip (s : Scan) (n : Nat) (t : Token) : Scan :=
  { s with found := s.found ++ [t], place := s.place.skip n }

/-- A token put before those from the number `n` on. -/
def insert (s : Scan) (n : Nat) (t : Token) : Scan :=
  { s with found := s.found.take n ++ t :: s.found.drop n }

/-- The possible key at the present depth. -/
def key? (s : Scan) : Option KeyPlace := (s.keys.find? (·.1 == s.depth)).map (·.2)

/-- Forgets the possible key at the present depth. -/
def forget (s : Scan) : Scan := { s with keys := s.keys.filter (·.1 != s.depth) }

/-- Forgets the possible key at the present depth, unless its colon must come. -/
def dropKey (s : Scan) : Except YamlFault Scan :=
  match s.key? with
  | some k => if k.required then refuse "could not find expected ':'" else .ok s.forget
  | none => .ok s

/-- Whether a possible key lies in an earlier line or has become too long. -/
def isStale (s : Scan) (k : KeyPlace) : Bool :=
  k.line != s.place.line || 1024 < s.place.index - k.index

/-- Forgets keys of earlier lines and keys that have become too long. -/
def dropStale (s : Scan) : Except YamlFault Scan :=
  if s.keys.any (fun k => s.isStale k.2 && k.2.required) then refuse "could not find expected ':'"
  else .ok { s with keys := s.keys.filter (fun k => !s.isStale k.2) }

/-- The tokens that no key token can come before any more. -/
def certain (s : Scan) : List Token :=
  let pending := (s.keys.filter (fun k => !s.isStale k.2)).map (·.2.tokenNumber)
  s.found.take (pending.foldl min s.found.length)

/-- Remembers that a key may begin here. -/
def saveKey (s : Scan) : Except YamlFault Scan :=
  if s.mayKey then do
    let required := s.depth == 0 && s.indent == s.place.column
    let s ← s.dropKey
    let k : KeyPlace := ⟨s.found.length, required, s.place.index, s.place.line, s.place.column⟩
    .ok { s with keys := (s.depth, k) :: s.keys }
  else .ok s

/-- Closes the blocks that are indented more than `column`. -/
def closeBlocks (column : Int) (s : Scan) : Scan :=
  if s.depth == 0 then go s.outer s else s
where
  /-- Closes blocks as long as one is indented more. -/
  go : List Int → Scan → Scan
    | [], s => s
    | i :: rest, s =>
      if column < s.indent then go rest { s.emit .blockEnd with indent := i, outer := rest } else s

/-- Whether a block begins at a column, and the state in which it has begun. -/
def openBlock (s : Scan) (column : Nat) : Bool × Scan :=
  if s.indent < column then (true, { s with outer := s.indent :: s.outer, indent := column })
  else (false, s)

end Scan

/-! ## Directives -/

/-- A whole number of a directive. -/
def directiveNumber (p : Place) : Except YamlFault (Nat × Place) :=
  let (ds, p) := p.takeWhile Char.isDigit
  if ds.isEmpty then refuse "expected a digit"
  else if Number.digitLimit < ds.length then
    .error (.unbuildable "ValueError" "too many digits in the number of a version")
  else .ok (Number.asciiNat ds, p)

/-- A directive, from its percent sign to the end of its line. -/
def readDirective (p : Place) : Except YamlFault (Token × Place) := do
  let (name, p) := p.step.takeWhile isNameChar
  if name.isEmpty || !isSpaceOrEnd (p.peek 0) then refuse "expected alphabetic or numeric character"
  let (t, p) ←
    if name == "YAML".toList then do
      let (major, p) ← directiveNumber (p.skipWhile (· == ' '))
      if p.peek 0 != some '.' then refuse "expected a digit or '.'"
      let (minor, p) ← directiveNumber p.step
      if !isSpaceOrEnd (p.peek 0) then refuse "expected a digit or ' '"
      pure (Token.yamlDirective major minor, p)
    else if name == "TAG".toList then do
      let (handle, p) ← readHandle (p.skipWhile (· == ' '))
      if p.peek 0 != some ' ' then refuse "expected ' '"
      let (start, p) ← readUri (p.skipWhile (· == ' '))
      if !isSpaceOrEnd (p.peek 0) then refuse "expected ' '"
      pure (Token.tagDirective handle start, p)
    else pure (Token.otherDirective, p.skipWhile (fun c => !isBreak c))
  let p ← restOfLine p
  .ok (t, p)

/-! ## Tokens -/

/-- Blanks, comments and line ends before a token. -/
def skipGaps : Nat → Scan → Scan
  | 0, s => s
  | fuel + 1, s =>
    let p := s.place.skipWhile (· == ' ')
    let p := if p.peek 0 == some '#' then p.skipWhile (fun c => !isBreak c) else p
    match p.peek 0 with
    | some c =>
      if isBreak c then
        skipGaps fuel { s with place := p.lineBreak.2, mayKey := s.mayKey || s.depth == 0 }
      else { s with place := p }
    | none => { s with place := p }

/-- Whether a plain scalar can begin at a place. -/
def beginsPlain (s : Scan) : Bool :=
  match s.place.peek 0 with
  | none => false
  | some c =>
    !(isGapOrEnd (some c) || "-?:,[]\x7b\x7d#&*!|>'\"%@\x60".toList.contains c) ||
      (!isGapOrEnd (s.place.peek 1) && (c == '-' || (s.depth == 0 && (c == '?' || c == ':'))))

/-- A bracket that opens. -/
def openBracket (s : Scan) (t : Token) : Except YamlFault Scan := do
  let s ← s.saveKey
  .ok { s.emitSkip 1 t with depth := s.depth + 1, mayKey := true }

/-- A bracket that closes. -/
def closeBracket (s : Scan) (t : Token) : Except YamlFault Scan := do
  let s ← s.dropKey
  .ok { s.emitSkip 1 t with depth := s.depth - 1, mayKey := false }

/-- A document marker. -/
def documentMarker (s : Scan) (t : Token) : Except YamlFault Scan := do
  let s ← (s.closeBlocks (-1)).dropKey
  .ok { s.emitSkip 3 t with mayKey := false }

/-- The hyphen of a list in a block. -/
def blockEntry (s : Scan) : Except YamlFault Scan := do
  let s ←
    if s.depth == 0 then
      if !s.mayKey then refuse "sequence entries are not allowed here"
      else
        let (opened, s) := s.openBlock s.place.column
        pure (if opened then s.emit .blockSequenceStart else s)
    else pure s
  let s ← { s with mayKey := true }.dropKey
  .ok (s.emitSkip 1 .blockEntry)

/-- The question mark before a key. -/
def explicitKey (s : Scan) : Except YamlFault Scan := do
  let s ←
    if s.depth == 0 then
      if !s.mayKey then refuse "mapping keys are not allowed here"
      else
        let (opened, s) := s.openBlock s.place.column
        pure (if opened then s.emit .blockMappingStart else s)
    else pure s
  let s ← { s with mayKey := s.depth == 0 }.dropKey
  .ok (s.emitSkip 1 .key)

/-- The colon before a value. -/
def valueMark (s : Scan) : Except YamlFault Scan := do
  match s.key? with
  | some k =>
    let s := s.forget.insert k.tokenNumber .key
    let s :=
      if s.depth == 0 then
        let (opened, s) := s.openBlock k.column
        if opened then s.insert k.tokenNumber .blockMappingStart else s
      else s
    .ok ({ s with mayKey := false }.emitSkip 1 .value)
  | none =>
    let s ←
      if s.depth == 0 then
        if !s.mayKey then refuse "mapping values are not allowed here"
        else
          let (opened, s) := s.openBlock s.place.column
          pure (if opened then s.emit .blockMappingStart else s)
      else pure s
    let s ← { s with mayKey := s.depth == 0 }.dropKey
    .ok (s.emitSkip 1 .value)

/-- An item that a key may begin with. -/
def keyItem (s : Scan) (read : Place → Except YamlFault (Token × Place)) : Except YamlFault Scan := do
  let s ← s.saveKey
  let (t, p) ← read s.place
  .ok { s.emit t with place := p, mayKey := false }

/-- The end of the text. -/
def finish (s : Scan) : Except YamlFault Scan := do
  let s ← (s.closeBlocks (-1)).dropKey
  .ok (s.emit .streamEnd)

/-- The next token, which begins with `c`. -/
def fetchAt (s : Scan) (c : Char) : Except YamlFault Scan := do
  let p := s.place
  let top := p.column == 0
  let gap := isGapOrEnd (p.peek 1)
  if top && c == '%' then
    let s ← (s.closeBlocks (-1)).dropKey
    let (t, p) ← readDirective p
    .ok { s.emit t with place := p, mayKey := false }
  else if top && p.atMarker '-' then documentMarker s .documentStart
  else if top && p.atMarker '.' then documentMarker s .documentEnd
  else if c == '[' then openBracket s .flowSequenceStart
  else if c == '\x7b' then openBracket s .flowMappingStart
  else if c == ']' then closeBracket s .flowSequenceEnd
  else if c == '\x7d' then closeBracket s .flowMappingEnd
  else if c == ',' then
    let s ← { s with mayKey := true }.dropKey
    .ok (s.emitSkip 1 .flowEntry)
  else if c == '-' && gap then blockEntry s
  else if c == '?' && (s.depth != 0 || gap) then explicitKey s
  else if c == ':' && (s.depth != 0 || gap) then valueMark s
  else if c == '*' then
    keyItem s (fun p => (readName p).map (fun r => (.alias r.1, r.2)))
  else if c == '&' then
    keyItem s (fun p => (readName p).map (fun r => (.anchor r.1, r.2)))
  else if c == '!' then keyItem s (fun p => (readTag p).map (fun r => (.tag r.1, r.2)))
  else if (c == '|' || c == '>') && s.depth == 0 then
    let s ← { s with mayKey := true }.dropKey
    let (text, p) ← readBlock (c == '>') s.indent s.place
    .ok { s.emit (.scalar text false) with place := p }
  else if c == '\'' || c == '"' then
    keyItem s (fun p => (readFlow (c == '"') p).map (fun r => (.scalar r.1 false, r.2)))
  else if beginsPlain s then
    let s ← s.saveKey
    let ((text, mayKey), p) := readPlain (s.depth != 0) s.indent s.place
    .ok { s.emit (.scalar text true) with place := p, mayKey := mayKey }
  else refuse "found character that cannot start any token"

/-- The next token with the gaps before it; whether it is the last. -/
def fetchNext (s : Scan) : Except YamlFault (Bool × Scan) := do
  let s := skipGaps (s.place.rest.length + 1) s
  let s ← s.dropStale
  let s := s.closeBlocks s.place.column
  match s.place.peek 0 with
  | none => (finish s).map (true, ·)
  | some c => (fetchAt s c).map (false, ·)

/-- The tokens of a text that can be taken before its end or its first fault, and that fault. -/
structure Tokens where
  list : List Token
  fault : Option YamlFault
  deriving Repr

/-- Reads tokens as long as there are any; the first argument bounds their number. -/
def fetchAll : Nat → Scan → Tokens
  | 0, s => ⟨s.found, none⟩
  | fuel + 1, s =>
    match fetchNext s with
    | .error fault => ⟨s.certain, some fault⟩
    | .ok (true, s) => ⟨s.found, none⟩
    | .ok (false, s) => fetchAll fuel s

/-- The tokens of a text. A mark of the byte order at its beginning does not count. -/
def Tokens.ofText (text : String) : Tokens :=
  let cs := text.toList
  if !cs.all isAllowed then ⟨[], some (.invalid "special characters are not allowed")⟩
  else
    let p := Place.start cs
    let p := if p.peek 0 == some '\ufeff' then p.step else p
    fetchAll (cs.length + 1) { Scan.start cs with place := p }

end BrowserScript.Yaml
