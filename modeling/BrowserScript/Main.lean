/-
BrowserScript.Main — the command line.

The program works on a copy of the files around the current directory, and what it changed is written
back. Its browser is one that a document describes: the environment variable `BROWSER_WORLD` names the
file; without it the browser has one blank page. Browsers are not installed from here: the command line
for that is only shown, for the interpreter that the variable `INTERPRETER` names.
-/
import BrowserScript.Browser.Description
import BrowserScript.Command.Program
import Std.Time.DateTime

open BrowserScript BrowserScript.Command

/-! ## Surroundings -/

/-- The environment variables of this process. -/
def readEnvironment : IO (List (String × String)) := do
  try
    let bytes ← IO.FS.readBinFile "/proc/self/environ"
    let entries := ((String.fromUTF8? bytes).getD "").splitOn "\x00"
    return entries.filterMap (fun entry =>
      (Text.splitAt? '=' entry.toList).map (fun (k, v) => (String.ofList k, String.ofList v)))
  catch _ => return []

/-- A file as the program sees it. -/
def readEntry (path : String) : IO File.Entry := do
  return .file (.bytes (← IO.FS.readBinFile path).toList)

/-- The directories above a name. -/
def dirsAbove (names : List String) : List (List String × File.Entry) :=
  (List.range names.length).tail.map (fun i => (names.take i, .dir))

/-- The name of a file or directory below the root. -/
def absoluteText (names : List String) : String := "/" ++ Text.joined "/" names

/-- The files and directories below a directory, to some depth; hidden directories other than those of
projects are left out. -/
def readTree (names : List String) : Nat → IO (List (List String × File.Entry))
  | 0 => return [(names, .dir)]
  | depth + 1 => do
    let dir ← IO.FS.realPath (absoluteText names)
    let mut found := [(names, File.Entry.dir)]
    for e in ← dir.readDir do
      let below := names ++ [e.fileName]
      try
        if ← e.path.isDir then
          if e.fileName == projectName || !e.fileName.startsWith "." then
            found := found ++ (← readTree below depth)
        else found := found ++ [(below, ← readEntry e.path.toString)]
      catch _ => pure ()
    return found

/-- The project directories in the directories above a name. -/
def readProjects (names : List String) : IO (List (List String × File.Entry)) := do
  let mut found := []
  for i in List.range names.length do
    let project := names.take i ++ [projectName]
    try found := found ++ (← readTree project 1)
    catch _ => pure ()
  return found

/-- The files and directories that arguments name outside the current directory. -/
def readNamed (current : List String) (arguments : List String) :
    IO (List (List String × File.Entry)) := do
  let mut found := []
  for a in arguments do
    let names := ((File.Path.mk "/" current).join (.ofString a)).lexical.names
    if !current.isPrefixOf names then
      try
        let path ← IO.FS.realPath (absoluteText names)
        if ← path.isDir then found := found ++ (← readTree names 2)
        else found := found ++ dirsAbove names ++ [(names, ← readEntry path.toString)]
      catch _ => pure ()
  return found

/-- The disk around the current directory. -/
def readDisk (arguments : List String) : IO File.Disk := do
  let current := (File.Path.ofString (← IO.currentDir).toString).names
  let entries := dirsAbove current ++ (← readProjects current) ++ (← readNamed current arguments) ++
    (← readTree current 6)
  return ⟨entries, current, ← readEnvironment⟩

/-- The browser that a document describes. -/
def readWorld : IO Browser.World := do
  match ← IO.getEnv "BROWSER_WORLD" with
  | none => return .ofValue .null
  | some path =>
    match JsonText.read (← IO.FS.readFile path) with
    | .ok description => return .ofValue description
    | .error _ => throw (.userError ("no description of a browser: " ++ path))

/-- The date and the time of day. -/
def readClock : IO Moment := do
  let now := (Std.Time.DateTime.ofTimestamp (← Std.Time.Timestamp.now)
    Std.Time.TimeZone.ZoneRules.UTC).toPlainDateTime
  return ⟨⟨now.year.toInt.toNat, now.month.toNat, now.day.toNat⟩, now.hour.toNat, now.minute.toNat,
    now.second.toNat, 0, some 0⟩

/-! ## Effects -/

/-- Writes the files and directories that changed. -/
def writeBack (before after : File.Disk) : IO Unit := do
  for (names, entry) in after.entries do
    if before.at? names != some entry then
      match entry with
      | .dir => IO.FS.createDirAll (absoluteText names)
      | .file (.text s) => IO.FS.writeFile (absoluteText names) s
      | .file (.bytes bs) => IO.FS.writeBinFile (absoluteText names) ⟨bs.toArray⟩

/-- Prints what the program has shown. -/
def printShown (t : Terminal) : IO Unit := do
  for line in t.messages do IO.eprintln line
  match t.document with
  | some document => IO.println document.jsonIndented
  | none => for line in t.output do IO.println line

/-- Runs the program on the files and the browser around it. -/
def main (arguments : List String) : IO UInt32 := do
  let disk ← readDisk arguments
  let world ← readWorld
  let terminal : Terminal :=
    { machine := ⟨disk, {}, world, .on world.firstPage true⟩
      interpreter := (← IO.getEnv "INTERPRETER").getD "interpreter"
      installer := .ended 1 "" "Browsers cannot be installed from here."
      clock := ← readClock }
  let (ending, shown) := program arguments terminal
  printShown shown
  match ending.usage with
  | some fault => IO.eprintln fault.message
  | none => pure ()
  match ending.escaped with
  | some kind => IO.eprintln kind
  | none => pure ()
  writeBack disk shown.machine.disk
  return UInt32.ofNat ending.code
