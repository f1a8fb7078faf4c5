/-
BrowserScript.File.Disk — the files a program sees.

A disk holds directories and files under absolute names; the program stands in one directory and has
environment variables. Paths are followed name by name: two dots lead from an existing directory to the
one above it.

* `Disk.find` follows a path; `isFile`, `isDir` and `exists` ask what is there.
* `Disk.read` reads a text file, with all line ends as line feeds.
* `Disk.makeDirs` makes a directory and the ones above it, `Disk.write` writes a text file.
* `Disk.search` looks for a directory from the current one upwards.
-/
import BrowserScript.File.Path
import BrowserScript.File.Utf8
import BrowserScript.Text.Lines

namespace BrowserScript.File

/-- What a file holds: text, or bytes that need not be text. -/
inductive Content where
  | text (s : String)
  | bytes (bs : List UInt8)
  deriving Repr, DecidableEq

/-- The text of a file, with all line ends as line feeds. -/
def Content.read : Content → Except DecodeFault String
  | .text s => .ok (String.ofList (Text.unifyLineEnds s.toList))
  | .bytes bs => (decode bs).map (fun s => String.ofList (Text.unifyLineEnds s.toList))

/-- A directory or a file. -/
inductive Entry where
  | dir
  | file (content : Content)
  deriving Repr, DecidableEq

/-- Why the system refuses an operation. -/
inductive OsReason where
  | missing
  | exists
  | notDirectory
  | isDirectory
  | nameTooLong
  deriving Repr, DecidableEq

/-- A refused operation on a path. -/
structure OsFault where
  reason : OsReason
  path : Path
  deriving Repr, DecidableEq

/-- The wording of a refusal. -/
def OsFault.message (f : OsFault) : String :=
  (match f.reason with
    | .missing => "[Errno 2] No such file or directory: "
    | .exists => "[Errno 17] File exists: "
    | .notDirectory => "[Errno 20] Not a directory: "
    | .isDirectory => "[Errno 21] Is a directory: "
    | .nameTooLong => "[Errno 36] File name too long: ") ++ Text.quoted f.path.toString

/-- Why a text file cannot be read. -/
inductive ReadFault where
  | os (fault : OsFault)
  | decode (fault : DecodeFault)
  deriving Repr, DecidableEq

/-- The wording of a fault. -/
def ReadFault.message : ReadFault → String
  | .os fault => fault.message
  | .decode fault => fault.message

/-- Directories and files by their absolute names, the current directory and the environment
variables. The directory without names is always there. -/
structure Disk where
  entries : List (List String × Entry)
  current : List String
  environment : List (String × String)
  deriving Repr

namespace Disk

/-- What has an absolute name. -/
def at? (d : Disk) (names : List String) : Option Entry :=
  if names.isEmpty then some .dir else (d.entries.find? (·.1 == names)).map (·.2)

/-- The value of an environment variable. -/
def environmentValue (d : Disk) (name : String) : Option String :=
  (d.environment.find? (·.1 == name)).map (·.2)

/-- The home directory as the environment tells it, without slashes at its end. -/
def home (d : Disk) : String :=
  String.ofList (((d.environmentValue "HOME").getD "").toList.reverse.dropWhile (· == '/')).reverse

/-- The absolute form of a path. -/
def absolute (d : Disk) (p : Path) : Path := (Path.mk "/" d.current).join p

/-- The longest name a directory can hold, in bytes. -/
def nameLimit : Nat := 255

/-- The shortest text that is too long for a path, in bytes. -/
def pathLimit : Nat := 4096

/-- Whether the text of a path is too long. -/
def isTooLong (p : Path) : Bool := pathLimit ≤ p.toString.utf8ByteSize

/-- Follows names from a place that exists. -/
def follow (d : Disk) (place : List String) : List String → Except OsReason (List String × Entry)
  | [] => match d.at? place with
    | some e => .ok (place, e)
    | none => .error .missing
  | n :: rest =>
    match d.at? place with
    | none => .error .missing
    | some (.file _) => .error .notDirectory
    | some .dir =>
      if nameLimit < n.utf8ByteSize then .error .nameTooLong
      else if n == ".." then follow d place.dropLast rest else follow d (place ++ [n]) rest

/-- What a path leads to. -/
def find (d : Disk) (p : Path) : Except OsReason (List String × Entry) :=
  if isTooLong p then .error .nameTooLong else d.follow [] (d.absolute p).names

/-- Whether a path leads to a file. A name that is too long is a refusal, not an answer. -/
def isFile (d : Disk) (p : Path) : Except OsFault Bool :=
  match d.find p with
  | .ok (_, .file _) => .ok true
  | .error .nameTooLong => .error ⟨.nameTooLong, p⟩
  | _ => .ok false

/-- Whether a path leads to a directory. -/
def isDir (d : Disk) (p : Path) : Bool :=
  match d.find p with
  | .ok (_, .dir) => true
  | _ => false

/-- Whether a path leads to anything. -/
def exists? (d : Disk) (p : Path) : Except OsFault Bool :=
  match d.find p with
  | .ok _ => .ok true
  | .error .nameTooLong => .error ⟨.nameTooLong, p⟩
  | .error _ => .ok false

/-- Reads a text file. -/
def read (d : Disk) (p : Path) : Except ReadFault String :=
  match d.find p with
  | .ok (_, .file content) => content.read.mapError .decode
  | .ok (_, .dir) => .error (.os ⟨.isDirectory, p⟩)
  | .error reason => .error (.os ⟨reason, p⟩)

/-- The disk with a directory or file put under an absolute name. -/
def put (d : Disk) (names : List String) (e : Entry) : Disk :=
  if d.entries.any (·.1 == names) then
    { d with entries := d.entries.map (fun x => if x.1 == names then (names, e) else x) }
  else { d with entries := d.entries ++ [(names, e)] }

/-- The directory in which the last name of a path stands, and that name; no name when the path ends
at an existing place. -/
def place (d : Disk) (p : Path) : Except OsReason (List String × Option String) :=
  let names := (d.absolute p).names
  if isTooLong p then .error .nameTooLong else
  match names.getLast? with
  | none => .ok ([], none)
  | some last =>
    match d.follow [] names.dropLast with
    | .error reason => .error reason
    | .ok (_, .file _) => .error .notDirectory
    | .ok (place, .dir) =>
      if last == ".." then .ok (place.dropLast, none)
      else if nameLimit < last.utf8ByteSize then .error .nameTooLong
      else .ok (place, some last)

/-- Makes one directory. -/
def makeDir (d : Disk) (p : Path) : Except OsReason Disk :=
  match d.place p with
  | .error reason => .error reason
  | .ok (_, none) => .error .exists
  | .ok (place, some last) =>
    if (d.at? (place ++ [last])).isSome then .error .exists
    else .ok (d.put (place ++ [last]) .dir)

/-- Makes a directory that may exist already. -/
def ensureDir (d : Disk) (p : Path) : Except OsFault Disk :=
  match d.makeDir p with
  | .ok d => .ok d
  | .error reason => if d.isDir p then .ok d else .error ⟨reason, p⟩

/-- Makes a directory and the missing ones above it; the first argument bounds how many there are. -/
def makeDirsFrom : Nat → Disk → Path → Except OsFault Disk
  | 0, d, p => d.ensureDir p
  | fuel + 1, d, p =>
    match d.makeDir p with
    | .ok d => .ok d
    | .error .missing =>
      if p.names.isEmpty then .error ⟨.missing, p⟩
      else match makeDirsFrom fuel d p.parent with
        | .ok d => d.ensureDir p
        | .error e => .error e
    | .error reason => if d.isDir p then .ok d else .error ⟨reason, p⟩

/-- Makes a directory and the missing ones above it. -/
def makeDirs (d : Disk) (p : Path) : Except OsFault Disk := makeDirsFrom p.names.length d p

/-- Writes a text file in the place of whatever it held. -/
def write (d : Disk) (p : Path) (text : String) : Except OsFault Disk :=
  match d.place p with
  | .error reason => .error ⟨reason, p⟩
  | .ok (_, none) => .error ⟨.isDirectory, p⟩
  | .ok (place, some last) =>
    match d.at? (place ++ [last]) with
    | some .dir => .error ⟨.isDirectory, p⟩
    | _ => .ok (d.put (place ++ [last]) (.file (.text text)))

/-- The first of the directories from `names` upwards in which a directory `name` stands. -/
def searchFrom (d : Disk) (name : String) : Nat → List String → Option (List String)
  | 0, names => if d.isDir ⟨"/", names ++ [name]⟩ then some names else none
  | fuel + 1, names =>
    if d.isDir ⟨"/", names ++ [name]⟩ then some names else searchFrom d name fuel names.dropLast

/-- The nearest directory called `name` in the current directory or above it. -/
def search (d : Disk) (name : String) : Option Path :=
  (searchFrom d name d.current.length d.current).map (fun names => ⟨"/", names ++ [name]⟩)

end Disk
end BrowserScript.File
