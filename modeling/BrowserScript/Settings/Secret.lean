/-
BrowserScript.Settings.Secret — secrets by reference.

A parameter `env:NAME` stands for a secret. It is looked for among the environment variables, in the
file `.env` of the current directory, among the named secrets of the configuration and in the
configuration file of the project; the first value that is not empty counts.

* `envValue` finds a name in the lines of an environment file.
* `documentSecret` finds a name in a configuration document.
* `resolveSecret` resolves a parameter; any other parameter stands for itself.
* `mask` shows no more than the ends of a secret.
-/
import BrowserScript.Settings.Loading

namespace BrowserScript

open File

/-- The beginning of references. -/
def secretMark : String := "env:"

/-- A text without quotes at its ends. -/
def stripQuotes (cs : List Char) : List Char :=
  let isMark (c : Char) : Bool := c == '\'' || c == '"'
  ((cs.dropWhile isMark).reverse.dropWhile isMark).reverse

/-- The value that a line of an environment file gives to a name. -/
def lineValue (name : List Char) (line : List Char) : Option (List Char) :=
  let line := Text.trimChars line
  if line.head? == some '#' then none
  else match Text.splitAt? '=' line with
    | none => none
    | some (key, value) =>
      if Text.trimChars key == name then some (stripQuotes (Text.trimChars value)) else none

/-- The value of a name in the text of an environment file: the first line that has the name counts. -/
def envValue (name : String) (text : String) : Option String :=
  ((Text.linesKeeping text.toList).findSome? (lineValue name.toList)).map String.ofList

/-- The value of a name in an environment file; a file that cannot be opened has none. -/
def envFileValue (disk : Disk) (path : Path) (name : String) : Except Failure (Option String) :=
  match disk.read path with
  | .ok text => .ok (envValue name text)
  | .error (.os _) => .ok none
  | .error (.decode fault) => .error (.ordinary (.decode fault))

/-- The value of a name among entries of a document. -/
def Yaml.Document.entry? (d : Yaml.Document) (place : Nat) (name : String) : Option Nat :=
  (d.entriesAt place).bind (fun entries =>
    (entries.find? (fun e => e.1.sameKey (.text name))).map (·.2))

/-- The secret of a name in a configuration document. -/
def documentSecret (d : Yaml.Document) (name : String) : Except Failure (Option String) :=
  match d.outermost.bind (fun place =>
    (d.entry? place "secrets").bind (fun secrets => d.entry? secrets name)) with
  | none => .ok none
  | some place =>
    let v := d.valueAt place
    if v.truthy then (shownPlain v).map some else .ok none

/-- The secret of a name in a configuration file; a file that cannot be opened or understood has
none. -/
def fileSecret (disk : Disk) (path : Path) (name : String) : Except Failure (Option String) :=
  match disk.read path with
  | .error (.os _) => .ok none
  | .error (.decode fault) => .error (.ordinary (.decode fault))
  | .ok text =>
    match Yaml.Document.read text with
    | .ok d => documentSecret d name
    | .error (.invalid _) => .ok none
    | .error (.unbuildable kind reason) =>
      if kind == "AttributeError" then .ok none else .error (.ordinary (.badDocument kind reason))

/-- A value that is not empty. -/
def nonempty? (s : Option String) : Option String :=
  match s with
  | some s => if s == "" then none else some s
  | none => none

/-- A look-up in a file that may not be there. -/
def ifExists (disk : Disk) (path : Path) (look : Except Failure (Option String)) :
    Except Failure (Option String) :=
  match disk.exists? path with
  | .error fault => .error (.ordinary (.os fault))
  | .ok false => .ok none
  | .ok true => look.map nonempty?

/-- The value of a name, from the first place that has one. -/
def secretValue (disk : Disk) (projectDir : Option Path) (secrets : List (String × String))
    (name : String) : Except Failure (Option String) :=
  match nonempty? (disk.environmentValue name) with
  | some s => .ok (some s)
  | none =>
    let envPath := Path.ofString ".env"
    match ifExists disk envPath (envFileValue disk envPath name) with
    | .error e => .error e
    | .ok (some s) => .ok (some s)
    | .ok none =>
      match nonempty? ((secrets.find? (·.1 == name)).map (·.2)) with
      | some s => .ok (some s)
      | none =>
        match projectDir with
        | none => .ok none
        | some dir =>
          let path := dir.child "config.yaml"
          ifExists disk path (fileSecret disk path name)

/-- The name in a reference. -/
def secretName? (parameter : String) : Option String :=
  if Text.startsWith parameter secretMark then
    some (Text.trim (Text.dropFirst parameter secretMark.length))
  else none

/-- What a parameter stands for. -/
def resolveSecret (disk : Disk) (projectDir : Option Path) (secrets : List (String × String))
    (parameter : String) : Except Failure String :=
  match secretName? parameter with
  | none => .ok parameter
  | some name =>
    if name == "" then badSettings .emptySecretName
    else match secretValue disk projectDir secrets name with
      | .error e => .error e
      | .ok (some s) => .ok s
      | .ok none => badSettings (.secretNotSet name parameter)

/-- A secret for display: the first and the last character, or nothing of a short one. -/
def mask (secret : String) : String :=
  match secret.toList with
  | first :: rest =>
    if secret.length ≤ 4 then "***"
    else String.ofList (first :: '*' :: '*' :: '*' :: [rest.getLast?.getD first])
  | [] => "***"

end BrowserScript
