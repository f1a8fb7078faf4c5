/-
BrowserScript.Target.Candidates — selectors for a loose description.

A short description such as `search` is turned into selectors, most reliable first: the description
itself, attributes of fields, attributes of any element, visible text, class and identifier, and
attributes for automated tests.

* `Template` is a selector with one gap; `candidateTable` lists the templates by group.
* `sanitize` removes quotes from a description and escapes its backslashes.
* `candidates` lists the selectors of a description.
-/
import BrowserScript.Text.Blank
import BrowserScript.Text.Letter
import BrowserScript.Text.Search

namespace BrowserScript.Target

/-- A selector with a gap between `before` and `after`. -/
structure Template where
  before : String
  after : String
  deriving Repr, DecidableEq

/-- The template with its gap filled. -/
def Template.fill (t : Template) (text : String) : String := t.before ++ text ++ t.after

/-- A group of templates. Some groups are only for descriptions that are identifiers. -/
structure TemplateGroup where
  name : String
  templates : List Template
  identifierOnly : Bool
  deriving Repr, DecidableEq

/-- An attribute that contains the text, in any case. -/
def attributeHas (tag name : String) : Template := ⟨tag ++ "[" ++ name ++ "*=\"", "\" i]"⟩

/-- An attribute that equals the text. -/
def attributeIs (name : String) : Template := ⟨"[" ++ name ++ "=\"", "\"]"⟩

/-- The attributes that name a field. -/
def namingAttributes : List String := ["placeholder", "aria-label", "name", "id"]

/-- The groups in order of priority. -/
def candidateTable : List TemplateGroup := [
  ⟨"field",
    namingAttributes.map (attributeHas "input") ++ namingAttributes.map (attributeHas "textarea"),
    false⟩,
  ⟨"attribute", namingAttributes.map (attributeHas ""), false⟩,
  ⟨"text",
    [⟨"button:has-text(\"", "\")"⟩, ⟨"a:has-text(\"", "\")"⟩, ⟨"text=\"", "\""⟩, ⟨"text=", ""⟩],
    false⟩,
  ⟨"structural", [⟨".", ""⟩, ⟨"#", ""⟩], true⟩,
  ⟨"test-attribute",
    [attributeIs "data-testid", attributeIs "data-test", attributeIs "data-cy",
      attributeIs "data-qa"],
    false⟩]

/-- The quotes that a description loses: they would end the quotes around it in a selector. -/
def isSelectorQuote (c : Char) : Bool := c == '\'' || c == '"' || c == '\x60'

/-- A description as it stands inside the quotes of a selector. -/
def sanitizeChars (cs : List Char) : List Char :=
  Text.replaceChar '\\' ['\\', '\\'] (Text.trimChars (cs.filter (fun c => !isSelectorQuote c)))

/-- A description as it stands inside the quotes of a selector. -/
def sanitize (description : String) : String := String.ofList (sanitizeChars description.toList)

/-- An identifier: a hyphen if any, an ASCII letter or low line, then letters, numbers, low lines and
hyphens. -/
def isIdentifier (cs : List Char) : Bool :=
  match (if cs.head? == some '-' then cs.drop 1 else cs) with
  | [] => false
  | c :: rest => (c.isAlpha || c == '_') && rest.all (fun c => Text.isWordChar c || c == '-')

/-- The groups that apply to a sanitised description: those asked for, identifiers-only groups only to
identifiers. -/
def groupsFor (wanted : Option (List String)) (clean : String) : List TemplateGroup :=
  candidateTable.filter (fun g =>
    (match wanted with
      | none => true
      | some names => names.contains g.name) &&
    (!g.identifierOnly || isIdentifier clean.toList))

/-- The first of equal texts stays, the others go. -/
def firstOccurrences (seen : List String) : List String → List String
  | [] => []
  | s :: rest =>
    if seen.contains s then firstOccurrences seen rest else s :: firstOccurrences (s :: seen) rest

/-- All selectors of a description that is not blank. -/
def rendered (wanted : Option (List String)) (raw : String) : List String :=
  let clean := sanitize raw
  raw ::
    (if clean == "" then []
      else (groupsFor wanted clean).flatMap (fun g => g.templates.map (·.fill clean)))

/-- The selectors of a description in the order in which they are tried, each once. -/
def candidates (description : String) (wanted : Option (List String)) : List String :=
  let raw := Text.trim description
  if raw == "" then [] else firstOccurrences [] (rendered wanted raw)

end BrowserScript.Target
