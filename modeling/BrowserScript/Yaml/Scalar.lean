/-
BrowserScript.Yaml.Scalar — reading the scalars of a YAML document.

Every function here takes the place where something begins and returns what it read with the place
after it.

* `readFlow` reads a scalar between quotes; line ends inside it become blanks.
* `readBlock` reads a literal or folded block.
* `readPlain` reads a scalar without quotes.
* `readTag` and `readName` read tags, anchors and aliases.
-/
import BrowserScript.Yaml.Token
import BrowserScript.File.Utf8
import BrowserScript.Text.Digit
import BrowserScript.Text.Half

namespace BrowserScript.Yaml

/-- A text that breaks the rules. -/
def refuse {α : Type} (reason : String) : Except YamlFault α := .error (.invalid reason)

/-! ## Quoted scalars -/

/-- The character that a letter after a backslash stands for. -/
def escapeChar (c : Char) : Option Char :=
  match c with
  | '0' => some '\x00'
  | 'a' => some '\x07'
  | 'b' => some '\x08'
  | 't' | '\t' => some '\t'
  | 'n' => some '\n'
  | 'v' => some '\x0b'
  | 'f' => some '\x0c'
  | 'r' => some '\r'
  | 'e' => some '\x1b'
  | ' ' | '"' | '\\' | '/' => some c
  | 'N' => some '\u0085'
  | '_' => some '\u00a0'
  | 'L' => some '\u2028'
  | 'P' => some '\u2029'
  | _ => none

/-- The number of hexadecimal digits after a letter. -/
def escapeWidth (c : Char) : Option Nat :=
  match c with
  | 'x' => some 2
  | 'u' => some 4
  | 'U' => some 8
  | _ => none

/-- A number of exactly `width` hexadecimal digits. -/
def hexCode (width : Nat) (cs : List Char) : Option Nat :=
  let ds := cs.take width
  if ds.length == width then
    ds.foldl (fun acc c => match acc, Text.hexValue c with
      | some n, some d => some (16 * n + d)
      | _, _ => none) (some 0)
  else none

/-- The character of a code of at most eight hexadecimal digits. There are no characters from 0x110000
on, and codes of more than 31 bits are no numbers of characters at all. -/
def escapedChar (code : Nat) : Except YamlFault Char :=
  if 0x80000000 ≤ code then
    .error (.unbuildable "OverflowError" "Python int too large to convert to C int")
  else if 0x110000 ≤ code then .error (.unbuildable "ValueError" "chr() arg not in range(0x110000)")
  else .ok (Text.ofCode code)

/-- The line ends after the first one inside quotes; blanks around them do not count. A document
marker must not stand at the beginning of a line. -/
def flowBreaks : Nat → Place → Except YamlFault (List Char × Place)
  | 0, p => .ok ([], p)
  | fuel + 1, p =>
    if p.atMarker '-' || p.atMarker '.' then refuse "unexpected document separator"
    else
      let p := p.skipWhile (fun c => c == ' ' || c == '\t')
      match p.peek 0 with
      | some c =>
        if isBreak c then do
          let (b, p) := p.lineBreak
          let (more, p) ← flowBreaks fuel p
          .ok (b ++ more, p)
        else .ok ([], p)
      | none => .ok ([], p)

/-- What a line end and the ones after it stand for: one line feed is a blank, others vanish before
further line ends. -/
def foldBreak (b breaks : List Char) : List Char :=
  if b != ['\n'] then b ++ breaks else if breaks.isEmpty then [' '] else breaks

/-- A scalar whose opening quote has been read. -/
def flowRest (double : Bool) : Nat → Place → Except YamlFault (List Char × Place)
  | 0, _ => refuse "found unexpected end of stream"
  | fuel + 1, p =>
    match p.peek 0 with
    | none => refuse "found unexpected end of stream"
    | some c =>
      if c == ' ' || c == '\t' then do
        let (blanks, p) := p.takeWhile (fun c => c == ' ' || c == '\t')
        match p.peek 0 with
        | none => refuse "found unexpected end of stream"
        | some d =>
          if isBreak d then
            let (b, p) := p.lineBreak
            let (breaks, p) ← flowBreaks (p.rest.length + 1) p
            let (more, p) ← flowRest double fuel p
            .ok (foldBreak b breaks ++ more, p)
          else
            let (more, p) ← flowRest double fuel p
            .ok (blanks ++ more, p)
      else if isBreak c then do
        let (b, p) := p.lineBreak
        let (breaks, p) ← flowBreaks (p.rest.length + 1) p
        let (more, p) ← flowRest double fuel p
        .ok (foldBreak b breaks ++ more, p)
      else if !double && c == '\'' then
        if p.peek 1 == some '\'' then do
          let (more, p) ← flowRest double fuel (p.skip 2)
          .ok ('\'' :: more, p)
        else .ok ([], p.step)
      else if double && c == '"' then .ok ([], p.step)
      else if double && c == '\\' then
        match p.peek 1 with
        | none => refuse "found unknown escape character"
        | some e =>
          match escapeChar e with
          | some d => do
            let (more, p) ← flowRest double fuel (p.skip 2)
            .ok (d :: more, p)
          | none =>
            match escapeWidth e with
            | some width =>
              match hexCode width (p.rest.drop 2) with
              | none => refuse "expected escape sequence of hexadecimal numbers"
              | some n => do
                let d ← escapedChar n
                let (more, p) ← flowRest double fuel (p.skip (2 + width))
                .ok (d :: more, p)
            | none =>
              if isBreak e then do
                let (_, p) := p.step.lineBreak
                let (breaks, p) ← flowBreaks (p.rest.length + 1) p
                let (more, p) ← flowRest double fuel p
                .ok (breaks ++ more, p)
              else refuse "found unknown escape character"
      else do
        let (more, p) ← flowRest double fuel p.step
        .ok (c :: more, p)

/-- A scalar between quotes. -/
def readFlow (double : Bool) (p : Place) : Except YamlFault (String × Place) := do
  let (cs, p) ← flowRest double (p.rest.length + 1) p.step
  .ok (String.ofList cs, p)

/-! ## Block scalars -/

/-- What happens to the line ends at the end of a block: one stays, none stays, all stay. -/
inductive Chomping where
  | clip
  | strip
  | keep
  deriving DecidableEq, Repr

/-- The chomping of a sign. -/
def chompingOf (c : Char) : Option Chomping :=
  if c == '+' then some .keep else if c == '-' then some .strip else none

/-- The signs after a block mark: chomping and indentation in either order. -/
def blockHeader (p : Place) : Except YamlFault ((Chomping × Option Nat) × Place) := do
  let (chomping, p) := takeChomping p
  let (increment, p) ← takeIncrement p
  let (chomping, p) := if chomping.isNone && increment.isSome then takeChomping p else (chomping, p)
  if isSpaceOrEnd (p.peek 0) then .ok ((chomping.getD .clip, increment), p)
  else refuse "expected chomping or indentation indicators"
where
  /-- The chomping at a place. -/
  takeChomping (p : Place) : Option Chomping × Place :=
    match (p.peek 0).bind chompingOf with
    | some c => (some c, p.step)
    | none => (none, p)
  /-- The indentation at a place. -/
  takeIncrement (p : Place) : Except YamlFault (Option Nat × Place) :=
    match p.peek 0 with
    | some c =>
      if c == '0' then refuse "expected indentation indicator in the range 1-9, but found 0"
      else if c.isDigit then .ok (some (c.toNat - 48), p.step)
      else .ok (none, p)
    | none => .ok (none, p)

/-- Blanks and a comment up to the end of the line, with the line end. -/
def restOfLine (p : Place) : Except YamlFault Place :=
  let p := p.skipWhile (· == ' ')
  let p := if p.peek 0 == some '#' then p.skipWhile (fun c => !isBreak c) else p
  if isBreakOrEnd (p.peek 0) then .ok p.lineBreak.2 else refuse "expected a comment or a line break"

/-- The blank lines before a block whose indentation is not given: their line ends and the greatest
column reached. -/
def blockIndentation : Nat → Nat → Place → (List Char × Nat) × Place
  | 0, deepest, p => (([], deepest), p)
  | fuel + 1, deepest, p =>
    match p.peek 0 with
    | some c =>
      if c == ' ' then
        let p := p.step
        blockIndentation fuel (max deepest p.column) p
      else if isBreak c then
        let (b, p) := p.lineBreak
        let ((breaks, deepest), p) := blockIndentation fuel deepest p
        ((b ++ breaks, deepest), p)
      else (([], deepest), p)
    | none => (([], deepest), p)

/-- The blanks of an indentation. -/
def skipIndent : Nat → Nat → Place → Place
  | 0, _, p => p
  | fuel + 1, indent, p =>
    if p.column < indent && p.peek 0 == some ' ' then skipIndent fuel indent p.step else p

/-- The line ends before the next line of a block, and its indentation. -/
def blockBreaks : Nat → Nat → Place → List Char × Place
  | 0, _, p => ([], p)
  | fuel + 1, indent, p =>
    let p := skipIndent indent indent p
    match p.peek 0 with
    | some c =>
      if isBreak c then
        let (b, p) := p.lineBreak
        let (breaks, p) := blockBreaks fuel indent p
        (b ++ breaks, p)
      else ([], p)
    | none => ([], p)

/-- Whether a line begins with a blank or tab, which keeps the line end before it. -/
def beginsBlank (p : Place) : Bool :=
  match p.peek 0 with
  | some c => c == ' ' || c == '\t'
  | none => false

/-- The lines of a block after the line ends `breaks`. -/
def blockLines (folded : Bool) (chomping : Chomping) (indent : Nat) :
    Nat → List Char → Place → List Char × Place
  | 0, _, p => ([], p)
  | fuel + 1, breaks, p =>
    let blank := beginsBlank p
    let (line, p) := p.takeWhile (fun c => !isBreak c)
    let (b, p) := p.lineBreak
    let (after, p) := blockBreaks (p.rest.length + 1) indent p
    if p.column == indent && (p.peek 0).isSome then
      let between :=
        if folded && b == ['\n'] && !blank && !beginsBlank p then
          if after.isEmpty then [' '] else []
        else b
      let (more, p) := blockLines folded chomping indent fuel after p
      (breaks ++ line ++ between ++ more, p)
    else
      let ending := match chomping with
        | .strip => []
        | .clip => b
        | .keep => b ++ after
      (breaks ++ line ++ ending, p)

/-- A literal or folded block under the indentation `parent`, which is -1 at the top. -/
def readBlock (folded : Bool) (parent : Int) (p : Place) : Except YamlFault (String × Place) := do
  let ((chomping, increment), p) ← blockHeader p.step
  let p ← restOfLine p
  let least := (max (parent + 1) 1).toNat
  let (breaks, indent, p) :=
    match increment with
    | some n =>
      let (breaks, p) := blockBreaks (p.rest.length + 1) (least + n - 1) p
      (breaks, least + n - 1, p)
    | none =>
      let ((breaks, deepest), p) := blockIndentation (p.rest.length + 1) 0 p
      (breaks, max least deepest, p)
  let (cs, p) :=
    if p.column == indent && (p.peek 0).isSome then
      blockLines folded chomping indent (p.rest.length + 1) breaks p
    else (if chomping == .keep then breaks else [], p)
  .ok (String.ofList cs, p)

/-! ## Plain scalars -/

/-- Whether a plain scalar ends before the character `n` places on. -/
def plainEnds (flow : Bool) (p : Place) (n : Nat) : Bool :=
  match p.peek n with
  | none => true
  | some c =>
    isGapOrEnd (some c) ||
      (c == ':' && (isGapOrEnd (p.peek (n + 1)) ||
        (flow && (match p.peek (n + 1) with
          | some d => ",[]\x7b\x7d".toList.contains d
          | none => true)))) ||
      (flow && ",?[]\x7b\x7d".toList.contains c)

/-- The number of characters before the next gap of a plain scalar. -/
def plainLength (flow : Bool) (p : Place) : Nat → Nat → Nat
  | 0, n => n
  | fuel + 1, n => if plainEnds flow p n then n else plainLength flow p fuel (n + 1)

/-- The line ends and indentations after the first line end of a plain scalar; nothing when a document
marker begins a line. -/
def plainBreaks : Nat → Place → Option (List Char) × Place
  | 0, p => (some [], p)
  | fuel + 1, p =>
    match p.peek 0 with
    | some c =>
      if c == ' ' then plainBreaks fuel p.step
      else if isBreak c then
        let (b, p) := p.lineBreak
        if p.atMarker '-' || p.atMarker '.' then (none, p)
        else
          let (more, p) := plainBreaks fuel p
          (more.map (b ++ ·), p)
      else (some [], p)
    | none => (some [], p)

/-- The gap after a word of a plain scalar, empty when the scalar ends there, and whether a line end was
passed. -/
def plainGap (p : Place) : (List Char × Bool) × Place :=
  let (blanks, p) := p.takeWhile (· == ' ')
  match p.peek 0 with
  | some c =>
    if isBreak c then
      let (b, p) := p.lineBreak
      if p.atMarker '-' || p.atMarker '.' then (([], true), p)
      else
        match plainBreaks (p.rest.length + 1) p with
        | (none, p) => (([], true), p)
        | (some breaks, p) => ((foldBreak b breaks, true), p)
    else ((blanks, false), p)
  | none => ((blanks, false), p)

/-- The words of a plain scalar after the gap `gap`; the second part of the result tells whether a key
may follow, which it may after a line end. -/
def plainWords (flow : Bool) (indent : Int) :
    Nat → List Char → Bool → Place → (List Char × Bool) × Place
  | 0, _, mayKey, p => (([], mayKey), p)
  | fuel + 1, gap, mayKey, p =>
    if p.peek 0 == some '#' then (([], mayKey), p)
    else
      let n := plainLength flow p (p.rest.length + 1) 0
      if n == 0 then (([], mayKey), p)
      else
        let word := p.rest.take n
        let ((next, passed), p) := plainGap (p.skip n)
        if next.isEmpty || p.peek 0 == some '#' || (!flow && (p.column : Int) < indent) then
          ((gap ++ word, passed), p)
        else
          let ((more, mayKey), p) := plainWords flow indent fuel next passed p
          ((gap ++ word ++ more, mayKey), p)

/-- A scalar without quotes under the indentation `parent`; also whether a key may follow it. -/
def readPlain (flow : Bool) (parent : Int) (p : Place) : (String × Bool) × Place :=
  let ((cs, mayKey), p) := plainWords flow (parent + 1) (p.rest.length + 1) [] false p
  ((String.ofList cs, mayKey), p)

/-! ## Names and tags -/

/-- The name after the mark of an anchor or alias. -/
def readName (p : Place) : Except YamlFault (String × Place) :=
  let (cs, p) := p.step.takeWhile isNameChar
  let ends := match p.peek 0 with
    | none => true
    | some c => isGapOrEnd (some c) || "?:,]\x7d%@\x60".toList.contains c
  if cs.isEmpty || !ends then refuse "expected alphabetic or numeric character"
  else .ok (String.ofList cs, p)

/-- The bytes of percent escapes at a place. -/
def uriEscapes : Nat → Place → Except YamlFault (List UInt8 × Place)
  | 0, p => .ok ([], p)
  | fuel + 1, p =>
    if p.peek 0 == some '%' then
      match hexCode 2 (p.rest.drop 1) with
      | none => refuse "expected URI escape sequence of 2 hexadecimal numbers"
      | some n => do
        let (more, p) ← uriEscapes fuel (p.skip 3)
        .ok (UInt8.ofNat n :: more, p)
    else .ok ([], p)

/-- The characters of a tag. -/
def uriChars : Nat → Place → Except YamlFault (List Char × Place)
  | 0, p => .ok ([], p)
  | fuel + 1, p =>
    match p.peek 0 with
    | some '%' => do
      let (bytes, p) ← uriEscapes (p.rest.length + 1) p
      match File.decode bytes with
      | .error _ => refuse "invalid URI escape"
      | .ok s =>
        let (more, p) ← uriChars fuel p
        .ok (s.toList ++ more, p)
    | some c =>
      if isUriChar c then do
        let (more, p) ← uriChars fuel p.step
        .ok (c :: more, p)
      else .ok ([], p)
    | none => .ok ([], p)

/-- A part of a tag, which must not be empty. -/
def readUri (p : Place) : Except YamlFault (String × Place) := do
  match p.peek 0 with
  | some c => if isUriChar c then pure () else refuse "expected URI"
  | none => refuse "expected URI"
  let (cs, p) ← uriChars (p.rest.length + 1) p
  .ok (String.ofList cs, p)

/-- A handle: an exclamation mark, or a name between two of them. -/
def readHandle (p : Place) : Except YamlFault (String × Place) :=
  if p.peek 0 != some '!' then refuse "expected '!'"
  else
    let (cs, q) := p.step.takeWhile isNameChar
    if p.peek 1 == some ' ' then .ok ("!", p.step)
    else if q.peek 0 == some '!' then .ok (String.ofList ('!' :: cs ++ ['!']), q.step)
    else refuse "expected '!'"

/-- A tag. -/
def readTag (p : Place) : Except YamlFault (TagName × Place) := do
  match p.peek 1 with
  | some '<' =>
    let (suffix, p) ← readUri (p.skip 2)
    if p.peek 0 == some '>' then finish ⟨none, suffix⟩ p.step else refuse "expected '>'"
  | c =>
    if isGapOrEnd c then finish ⟨none, "!"⟩ p.step
    else
      let body := (p.rest.drop 1).takeWhile (fun c => !isSpaceOrEnd (some c))
      let (handle, p) ← if body.contains '!' then readHandle p else pure ("!", p.step)
      let (suffix, p) ← readUri p
      finish ⟨some handle, suffix⟩ p
where
  /-- A tag is followed by a blank or a line end. -/
  finish (t : TagName) (p : Place) : Except YamlFault (TagName × Place) :=
    if isSpaceOrEnd (p.peek 0) then .ok (t, p) else refuse "expected ' '"

end BrowserScript.Yaml
