/-
BrowserScript.File.Path — paths of files.

A path is a root and the names after it. Empty names and single dots vanish when a path is read; two
dots stay, since what they mean depends on the disk.

* `Path.ofString` reads a path and `Path.toString` writes it.
* `join`, `parent`, `name`, `suffix` and `withSuffix` are the usual operations.
* `expandHome` replaces a leading tilde.
* `lexical` removes single names before two dots.
-/
import BrowserScript.Text.Search

namespace BrowserScript.File

/-- A path: its root (`""` for a relative path, `"/"`, or `"//"` for the one that keeps two slashes)
and the names after it. -/
structure Path where
  root : String
  names : List String
  deriving DecidableEq, Repr, Inhabited

namespace Path

/-- The path that names nothing but the current directory. -/
def here : Path := ⟨"", []⟩

/-- The root of a written path: exactly two slashes stay two. -/
def rootOf : List Char → String
  | '/' :: '/' :: '/' :: _ => "/"
  | '/' :: '/' :: _ => "//"
  | '/' :: _ => "/"
  | _ => ""

/-- The names between the slashes of a text. -/
def namesOf (cs : List Char) : List String :=
  ((Text.splitOn '/' cs).map String.ofList).filter (fun n => n != "" && n != ".")

/-- A path as it is written. -/
def ofString (s : String) : Path := ⟨rootOf s.toList, namesOf s.toList⟩

/-- The text of a path; the empty path is a dot. -/
def toString (p : Path) : String :=
  if p.root == "" && p.names.isEmpty then "." else p.root ++ Text.joined "/" p.names

/-- Whether a path begins at a root. -/
def isAbsolute (p : Path) : Bool := p.root != ""

/-- The second path seen from the first: an absolute path stays as it is. -/
def join (p q : Path) : Path := if q.isAbsolute then q else ⟨p.root, p.names ++ q.names⟩

/-- A name below a path. -/
def child (p : Path) (name : String) : Path := ⟨p.root, p.names ++ [name]⟩

/-- The path without its last name. -/
def parent (p : Path) : Path := { p with names := p.names.dropLast }

/-- The last name, empty when there is none. -/
def name (p : Path) : String := p.names.getLast?.getD ""

/-- A name cut before its last dot, when something stands on both sides of the dot. -/
def suffixOf (cs : List Char) : List Char :=
  let after := cs.reverse.takeWhile (· != '.')
  let before := (cs.reverse.dropWhile (· != '.')).drop 1
  if after.isEmpty || before.isEmpty then [] else '.' :: after.reverse

/-- The part of the last name from its last dot on. -/
def suffix (p : Path) : String := String.ofList (suffixOf p.name.toList)

/-- The path with a suffix added to its last name. -/
def addSuffix (p : Path) (suffix : String) : Path :=
  { p with names := p.names.dropLast ++ [p.name ++ suffix] }

/-- The home that the first name of a path asks for: a tilde alone asks for one's own, `~root` for that of
the administrator. The homes of others are unknown. -/
def homeFor (first home : String) : Option String :=
  if first == "~" then some home else if first == "~root" then some "/root" else none

/-- The path with a home directory in the place of a leading tilde; a home without a text is the root.
There is no such path when the home is unknown or begins with a tilde itself. -/
def expandHome (p : Path) (home : String) : Option Path :=
  match p.root, p.names with
  | "", first :: rest =>
    if !Text.startsWith first "~" then some p
    else match homeFor first home with
      | none => none
      | some home =>
        if Text.startsWith home "~" then none
        else
          let start := ofString (if home == "" then "/" else home)
          some ⟨start.root, start.names ++ rest⟩
  | _, _ => some p

/-- Two dots take the name before them away; at the root they stay there. `kept` holds the names so
far, last first. -/
def foldDots (kept : List String) : List String → List String
  | [] => kept.reverse
  | n :: rest => if n == ".." then foldDots kept.tail rest else foldDots (n :: kept) rest

/-- An absolute path without double dots. -/
def lexical (p : Path) : Path := { p with names := foldDots [] p.names }

end Path
end BrowserScript.File
