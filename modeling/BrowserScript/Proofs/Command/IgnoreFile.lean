/-
BrowserScript.Proofs.Command.IgnoreFile — the ignore file of a new project.

Making a project adds the missing entries to the ignore file, whatever stood in it, and leaves alone one that has
them all. A line of the file is what cutting it at its line ends gives, so carriage returns and the line feeds at
the end of the file do not count, and an entry is there only if it is a line of its own.

* `lines_withEntries`: the lines of a file with entries added, next to those of the file before.
* `Complete`, `Extends`: all entries are lines; no earlier line was lost, and no entry was added twice.
* `updateIgnoreFile_ok`, `updateIgnoreFile_of_complete`: what the update does where it succeeds, and that it does
  nothing to a complete file.
* `Spares`: a disk on which a path still leads to the file it led to. `sparing_makeFiles`: all that comes before
  the update spares the ignore file, since its path has another name than theirs.

Main statement: `ignore_file_of_makeProject`.
-/
import BrowserScript.Proofs.Command.Steps
import BrowserScript.Proofs.Text.Lines
import Mathlib.Data.Bool.AllAny
import Mathlib.Data.List.TakeWhile

namespace BrowserScript.Command

open Screen (Block)

/-! ## §1 Lines -/

/-- Lines without the blank ones at the end. -/
def keptLines (ls : List String) : List String := (ls.reverse.dropWhile (· == "")).reverse

theorem keptLines_append_blanks (ls : List String) (n : Nat) :
    keptLines (ls ++ List.replicate n "") = keptLines ls := by
  have hblank : ∀ s ∈ List.replicate n "", (s == "") = true := by simp
  rw [keptLines, List.reverse_append, List.reverse_replicate, List.dropWhile_append_of_pos hblank, ← keptLines]

theorem keptLines_begins (ls : List String) : keptLines ls <+: ls := by
  rw [← List.reverse_suffix, keptLines, List.reverse_reverse]
  exact List.dropWhile_suffix _

/-- A text is the text without the line feeds at its end, and these. -/
theorem exists_feeds (s : String) : ∃ n, s.toList = (withoutFeeds s).toList ++ List.replicate n '\n' := by
  have hfeeds : s.toList.reverse.takeWhile (· == '\n')
      = List.replicate (s.toList.reverse.takeWhile (· == '\n')).length '\n' :=
    List.eq_replicate_iff.2 ⟨rfl, fun c hc => by simpa using List.mem_takeWhile_imp hc⟩
  refine ⟨(s.toList.reverse.takeWhile (· == '\n')).length, ?_⟩
  rw [withoutFeeds, String.toList_ofList, ← List.reverse_replicate, ← hfeeds, ← List.reverse_append,
    List.takeWhile_append_dropWhile, List.reverse_reverse]

theorem toList_joined_feed {parts : List String} (h : parts ≠ []) :
    (Text.joined "\n" parts ++ "\n").toList = parts.flatMap (fun s => s.toList ++ ['\n']) := by
  have hfeed : "\n".toList = ['\n'] := rfl
  induction parts with
  | nil => exact absurd rfl h
  | cons s parts ih =>
    cases parts with
    | nil => rw [Text.joined, String.toList_append, hfeed, List.flatMap_cons, List.flatMap_nil, List.append_nil]
    | cons t parts =>
      rw [List.flatMap_cons, ← ih nofun, Text.joined]
      · simp only [String.toList_append, hfeed, List.append_assoc]
      · nofun

/-- The line above the entries. -/
def entriesHeading : String := "# pagescript"

/-- Added entries stand in lines of their own, after what the file held without the blank lines at its end, and
below a heading. -/
theorem lines_withEntries {existing : String} (hexisting : '\r' ∉ existing.toList) {entries : List String}
    (hne : entries ≠ []) (hentries : ∀ e ∈ entries, ∀ c ∈ e.toList, Text.isLineEnd c = false) :
    ∃ front m n, Text.lines existing = front ++ List.replicate m "" ∧
      Text.lines (withEntries existing entries) = front ++ List.replicate n "" ++ entriesHeading :: entries := by
  have hblock : Text.linesAfter [] ("# pagescript\n" ++ Text.joined "\n" entries ++ "\n").toList
      = (entriesHeading :: entries).map String.toList := by
    have hheading : "# pagescript\n".toList = entriesHeading.toList ++ ['\n'] := by decide
    have hplain : ∀ e ∈ entriesHeading :: entries, ∀ c ∈ e.toList, Text.isLineEnd c = false :=
      List.forall_mem_cons.2 ⟨List.all_iff_forall_prop.1 (by decide), hentries⟩
    rw [← Text.linesAfter_terminated hplain, List.flatMap_cons, String.append_assoc, String.toList_append,
      toList_joined_feed hne, hheading]
  have hmap : ((entriesHeading :: entries).map String.toList).map String.ofList = entriesHeading :: entries := by
    simp
  by_cases hempty : existing = ""
  · subst hempty
    refine ⟨[], 0, 0, rfl, ?_⟩
    rw [withEntries, if_pos (by decide), String.empty_append, Text.lines, hblock, hmap]
    rfl
  · obtain ⟨feeds, hfeeds⟩ := exists_feeds existing
    have hfree : '\r' ∉ (withoutFeeds existing).toList := by
      rw [hfeeds, List.mem_append, not_or] at hexisting
      exact hexisting.1
    obtain ⟨m, hm⟩ := Text.linesAfter_feeds hfree feeds
    obtain ⟨n, hn⟩ := Text.linesAfter_feed hfree []
    refine ⟨Text.lines (withoutFeeds existing), m, n + 1, ?_, ?_⟩
    · rw [Text.lines, hfeeds, hm, List.map_append, List.map_replicate]
      rfl
    · have htext : (withEntries existing entries).toList = (withoutFeeds existing).toList
          ++ '\n' :: '\n' :: ("# pagescript\n" ++ Text.joined "\n" entries ++ "\n").toList := by
        have hfeed : "\n\n".toList = ['\n', '\n'] := rfl
        rw [withEntries, if_neg (by simpa using hempty), String.append_assoc, String.append_assoc,
          String.toList_append, String.toList_append, hfeed, ← String.append_assoc]
        simp only [List.append_assoc, List.cons_append, List.nil_append]
      have hblank : String.ofList [] = "" := rfl
      rw [Text.lines, htext, Text.linesAfter_append_feed hfree, Text.linesAfter_feed_cons, hblock, hn,
        List.map_append, List.map_cons, hmap, List.map_append, ← Text.lines]
      simp only [List.map_replicate, List.reverse_nil, hblank, List.replicate_succ', List.append_assoc,
        List.singleton_append]

/-! ## §2 Complete files -/

/-- A text in which every ignore entry is a line. -/
def Complete (text : String) : Prop := ∀ e ∈ ignoreEntries, e ∈ Text.lines text

/-- What an earlier text may have become: its lines, without the blank ones at the end, come first, and entries
that were there are there as often as before. -/
@[mk_iff]
structure Extends (earlier text : String) : Prop where
  kept : keptLines (Text.lines earlier) <+: Text.lines text
  notAgain : ∀ e ∈ ignoreEntries, e ∈ Text.lines earlier →
    (Text.lines text).count e = (Text.lines earlier).count e

theorem Extends.refl (text : String) : Extends text text where
  kept := keptLines_begins _
  notAgain := fun _ _ _ => rfl

theorem missingEntries_eq_nil_iff {text : String} : missingEntries text = [] ↔ Complete text := by
  simp [missingEntries, Complete, List.filter_eq_nil_iff]

theorem mem_missingEntries {text e : String} :
    e ∈ missingEntries text ↔ e ∈ ignoreEntries ∧ e ∉ Text.lines text := by
  simp [missingEntries]

theorem ignoreEntries_plain : ∀ e ∈ ignoreEntries,
    e ≠ "" ∧ e ≠ entriesHeading ∧ ∀ c ∈ e.toList, Text.isLineEnd c = false := by
  have hall : ignoreEntries.all (fun e =>
      e != "" && e != entriesHeading && e.toList.all (fun c => !Text.isLineEnd c)) = true := by decide
  intro e he
  simpa [and_assoc] using List.all_eq_true.1 hall e he

/-- With its missing entries added, a text is complete and extends what it was. -/
theorem withEntries_missing {existing : String} (hexisting : '\r' ∉ existing.toList)
    (hmissing : missingEntries existing ≠ []) :
    Complete (withEntries existing (missingEntries existing)) ∧
      Extends existing (withEntries existing (missingEntries existing)) := by
  have hplain : ∀ e ∈ missingEntries existing, ∀ c ∈ e.toList, Text.isLineEnd c = false :=
    fun e he => (ignoreEntries_plain e (mem_missingEntries.1 he).1).2.2
  obtain ⟨front, m, n, hbefore, hafter⟩ := lines_withEntries hexisting hmissing hplain
  refine ⟨?_, ?_, ?_⟩
  · intro e he
    by_cases hthere : e ∈ Text.lines existing
    · have hfull : e ∈ front := by
        rw [hbefore, List.mem_append] at hthere
        exact hthere.resolve_right (fun h => (ignoreEntries_plain e he).1 (List.eq_of_mem_replicate h))
      rw [hafter]
      exact List.mem_append_left _ (List.mem_append_left _ hfull)
    · rw [hafter]
      exact List.mem_append_right _ (List.mem_cons_of_mem _ (mem_missingEntries.2 ⟨he, hthere⟩))
  · rw [hbefore, hafter, keptLines_append_blanks, List.append_assoc]
    exact (keptLines_begins front).trans (List.prefix_append _ _)
  · intro e he hthere
    obtain ⟨hfull, hheading, -⟩ := ignoreEntries_plain e he
    have hblanks : ∀ k, (List.replicate k "").count e = 0 :=
      fun k => List.count_eq_zero.2 (fun h => hfull (List.eq_of_mem_replicate h))
    have hadded : (entriesHeading :: missingEntries existing).count e = 0 := by
      rw [List.count_eq_zero, List.mem_cons, not_or]
      exact ⟨hheading, fun h => (mem_missingEntries.1 h).2 hthere⟩
    rw [hbefore, hafter, List.count_append, List.count_append, List.count_append, hblanks, hblanks, hadded]

/-! ## §3 Reading the file -/

/-- The text of a file, with its line ends as they are. -/
def textOf : File.Content → Option String
  | .text s => some s
  | .bytes bs => (File.decode bs).toOption

/-- What is read of a text. -/
def readText (text : String) : String := String.ofList (Text.unifyLineEnds text.toList)

theorem read_eq_ok_iff {content : File.Content} {existing : String} :
    content.read = .ok existing ↔ ∃ text, textOf content = some text ∧ existing = readText text := by
  cases content with
  | text s => simp [File.Content.read, textOf, readText, eq_comm]
  | bytes bs =>
    rw [File.Content.read, textOf]
    cases File.decode bs with
    | ok s => simp [Except.map, Except.toOption, readText, eq_comm]
    | error fault => simp [Except.map, Except.toOption]

theorem lines_readText (text : String) : Text.lines (readText text) = Text.lines text :=
  Text.lines_unifyLineEnds text

theorem complete_readText {text : String} : Complete (readText text) ↔ Complete text := by
  rw [Complete, lines_readText, ← Complete]

theorem extends_readText {earlier text : String} : Extends (readText earlier) text ↔ Extends earlier text := by
  rw [extends_iff, extends_iff, lines_readText]

theorem return_not_mem_readText (text : String) : '\r' ∉ (readText text).toList := by
  rw [readText, String.toList_ofList]
  exact Text.not_mem_unifyLineEnds _

/-! ## §4 The update -/

variable {p : File.Path} {t t' : Terminal}

/-- Where there is a file, its text is brought up to date. -/
theorem updateIgnoreFile_run_of_file {q : List String} {content : File.Content} {text : String}
    (hfind : t.machine.disk.find p = .ok (q, .file content)) (htext : textOf content = some text) :
    (updateIgnoreFile p).run t = (addMissing p (readText text)).run t := by
  have hthere : (fileExists p).run t = (.ok true, t) := by
    rw [fileExists_run, File.Disk.exists?, hfind]
  have hread : (readFile p).run t = (.ok (readText text), t) := by
    rw [readFile_run, File.Disk.read, hfind]
    simp only [read_eq_ok_iff.2 ⟨text, htext, rfl⟩, Except.mapError]
  unfold updateIgnoreFile
  rw [run_bind_ok hthere, if_pos rfl, run_bind_ok hread]

/-- Where the update succeeds, it brought the text of a file up to date, or there was nothing before. -/
theorem updateIgnoreFile_eq_ok (h : (updateIgnoreFile p).run t = (.ok (), t')) :
    (∃ q content text, t.machine.disk.find p = .ok (q, .file content) ∧ textOf content = some text ∧
      (addMissing p (readText text)).run t = (.ok (), t')) ∨
    ((∀ found, t.machine.disk.find p ≠ .ok found) ∧ (addMissing p "").run t = (.ok (), t')) := by
  unfold updateIgnoreFile at h
  obtain ⟨there, t₁, hthere, hrest⟩ := run_bind_eq_ok h
  rw [fileExists_run, File.Disk.exists?] at hthere
  rcases hfind : t.machine.disk.find p with reason | ⟨q, entry⟩
  · refine .inr ⟨nofun, ?_⟩
    rw [hfind] at hthere
    have hnone : there = false ∧ t₁ = t := by
      cases reason <;> cases hthere <;> exact ⟨rfl, rfl⟩
    obtain ⟨rfl, rfl⟩ := hnone
    exact hrest
  · rw [hfind] at hthere
    cases hthere
    obtain ⟨existing, t₂, hread, hadd⟩ := run_bind_eq_ok hrest
    rw [readFile_run, File.Disk.read, hfind] at hread
    cases entry with
    | dir => cases hread
    | file content =>
      cases hcontent : content.read with
      | error fault =>
        simp only [hcontent, Except.mapError] at hread
        cases hread
      | ok s =>
        simp only [hcontent, Except.mapError] at hread
        cases hread
        obtain ⟨text, htext, rfl⟩ := read_eq_ok_iff.1 hcontent
        exact .inl ⟨q, content, text, rfl, htext, hadd⟩

theorem addMissing_of_complete {existing : String} (h : Complete existing) (p : File.Path) (t : Terminal) :
    (addMissing p existing).run t = (.ok (), t) := by
  rw [addMissing, ignoreUpdate, missingEntries_eq_nil_iff.2 h]
  rfl

/-- Entries are added by writing the file. -/
theorem addMissing_eq_ok {existing : String} (hmissing : ¬ Complete existing)
    (h : (addMissing p existing).run t = (.ok (), t')) :
    ∃ d, t.machine.disk.write p (withEntries existing (missingEntries existing)) = .ok d ∧ t' = t.withDisk d := by
  have hupdate : ignoreUpdate existing = some (withEntries existing (missingEntries existing)) := by
    rw [ignoreUpdate]
    split
    · rename_i hnil
      exact absurd (missingEntries_eq_nil_iff.1 hnil) hmissing
    · rfl
  rw [addMissing, hupdate] at h
  dsimp only at h
  rw [writeFile_run] at h
  cases hwrite : t.machine.disk.write p (withEntries existing (missingEntries existing)) with
  | error fault =>
    rw [hwrite] at h
    cases h
  | ok d =>
    rw [hwrite] at h
    cases h
    exact ⟨d, rfl, rfl⟩

/-- A complete file is left as it is. -/
theorem updateIgnoreFile_of_complete {q : List String} {content : File.Content} {text : String}
    (hfind : t.machine.disk.find p = .ok (q, .file content)) (htext : textOf content = some text)
    (hcomplete : Complete text) : (updateIgnoreFile p).run t = (.ok (), t) := by
  rw [updateIgnoreFile_run_of_file hfind htext, addMissing_of_complete (complete_readText.2 hcomplete)]

/-- What an update makes of what stood at a path: a complete file, which extends what was there, and is the same
file if that was complete. -/
structure Updated (p : File.Path) (d d' : File.Disk) (q : List String) (content : File.Content) (text : String) :
    Prop where
  found : d'.find p = .ok (q, .file content)
  reads : textOf content = some text
  complete : Complete text
  earlier {q' : List String} {before : File.Content} {earlier : String} :
    d.find p = .ok (q', .file before) → textOf before = some earlier →
      Extends earlier text ∧ (Complete earlier → q = q' ∧ content = before)

theorem updateIgnoreFile_ok (h : (updateIgnoreFile p).run t = (.ok (), t')) :
    t'.machine.disk.current = t.machine.disk.current ∧
      ∃ q content text, Updated p t.machine.disk t'.machine.disk q content text := by
  rcases updateIgnoreFile_eq_ok h with ⟨q, content, text, hfind, htext, hadd⟩ | ⟨hnone, hadd⟩
  · by_cases hcomplete : Complete text
    · cases (updateIgnoreFile_of_complete hfind htext hcomplete).symm.trans h
      refine ⟨rfl, q, content, text, hfind, htext, hcomplete, ?_⟩
      intro q' before earlier hbefore hearlier
      cases hfind.symm.trans hbefore
      cases htext.symm.trans hearlier
      exact ⟨.refl text, fun _ => ⟨rfl, rfl⟩⟩
    · have hread : ¬ Complete (readText text) := fun h => hcomplete (complete_readText.1 h)
      obtain ⟨d, hwrite, rfl⟩ := addMissing_eq_ok hread hadd
      obtain ⟨hwritten, hextends⟩ := withEntries_missing (return_not_mem_readText text)
        (fun h => hread (missingEntries_eq_nil_iff.1 h))
      obtain ⟨⟨q', hfound⟩, -⟩ := File.Disk.find_write hwrite
      refine ⟨File.Disk.write_current hwrite, q', _, _, hfound, rfl, hwritten, ?_⟩
      intro q'' before earlier hbefore hearlier
      cases hfind.symm.trans hbefore
      cases htext.symm.trans hearlier
      exact ⟨extends_readText.1 hextends, fun hthere => absurd hthere hcomplete⟩
  · -- without a file, the entries are added to nothing
    have hempty : ¬ Complete "" := by
      rw [← missingEntries_eq_nil_iff]
      decide
    obtain ⟨d, hwrite, rfl⟩ := addMissing_eq_ok hempty hadd
    obtain ⟨hwritten, -⟩ := withEntries_missing (by decide : '\r' ∉ "".toList)
      (fun h => hempty (missingEntries_eq_nil_iff.1 h))
    obtain ⟨⟨q', hfound⟩, -⟩ := File.Disk.find_write hwrite
    refine ⟨File.Disk.write_current hwrite, q', _, _, hfound, rfl, hwritten, ?_⟩
    intro q'' before earlier hbefore
    exact absurd hbefore (hnone _)

/-! ## §5 What comes before -/

/-- The program stands where it stood, and a path that led to a file leads to it still. -/
structure Spares (p : File.Path) (d d' : File.Disk) : Prop where
  current : d'.current = d.current
  kept {q : List String} {content : File.Content} :
    d.find p = .ok (q, .file content) → d'.find p = .ok (q, .file content)

theorem Spares.trans {d d' d'' : File.Disk} (h : Spares p d d') (h' : Spares p d' d'') : Spares p d d'' where
  current := h'.current.trans h.current
  kept := fun hfind => h'.kept (h.kept hfind)

/-- However a command ends, it spares what a path leads to. -/
def Sparing (p : File.Path) {α : Type} (x : CommandM α) : Prop :=
  ∀ t, Spares p t.machine.disk (x.run t).2.machine.disk

namespace Sparing

variable {α β : Type} {x : CommandM α} {f : α → CommandM β} {p' : File.Path}

theorem spares (hx : Sparing p x) {result : Except Halt α} (h : x.run t = (result, t')) :
    Spares p t.machine.disk t'.machine.disk := by
  have hspares := hx t
  rwa [h] at hspares

theorem of_disk_eq (h : ∀ t, (x.run t).2.machine.disk = t.machine.disk) : Sparing p x := by
  intro t
  rw [h t]
  exact ⟨rfl, id⟩

theorem bind (hx : Sparing p x) (hf : ∀ a, Sparing p (f a)) : Sparing p (x >>= f) := by
  intro t
  rcases hrun : x.run t with ⟨halt | a, t₁⟩
  · rw [run_bind_error hrun]
    exact hx.spares hrun
  · rw [run_bind_ok hrun]
    exact (hx.spares hrun).trans (hf a t₁)

theorem pure (a : α) : Sparing p (Pure.pure a : CommandM α) := of_disk_eq (fun _ => rfl)

theorem exit (code : Nat) : Sparing p (Command.exit code : CommandM α) := of_disk_eq (fun _ => rfl)

theorem fileExists (p' : File.Path) : Sparing p (Command.fileExists p') := by
  refine of_disk_eq (fun t => ?_)
  rw [fileExists_run]
  cases t.machine.disk.exists? p' <;> rfl

theorem say (b : Block) : Sparing p (Command.say b) := by
  refine bind (of_disk_eq (fun t => ?_)) (fun lines => of_disk_eq (fun _ => rfl))
  unfold drawn
  cases b.lines <;> rfl

theorem makeDirs (p' : File.Path) : Sparing p (Command.makeDirs p') := by
  intro t
  rw [makeDirs_run]
  cases hmade : t.machine.disk.makeDirs p' with
  | error fault => exact ⟨rfl, id⟩
  | ok d =>
    have hgrown := File.Disk.makeDirs_grown hmade
    exact ⟨hgrown.current, fun h => File.Disk.find_grown hgrown h⟩

/-- A file with other names is written elsewhere. -/
theorem writeFile (hp : p.Plain) (hp' : p'.Plain) (hne : p'.names ≠ p.names) (text : String) :
    Sparing p (Command.writeFile p' text) := by
  intro t
  rw [writeFile_run]
  cases hwrite : t.machine.disk.write p' text with
  | error fault => exact ⟨rfl, id⟩
  | ok d =>
    exact ⟨File.Disk.write_current hwrite, fun h => File.Disk.find_write_other hp' hp hne hwrite h⟩

end Sparing

/-- The files of a project are not its ignore file. -/
theorem sparing_makeFiles {root : File.Path} (hroot : root.Plain) (force : Bool) :
    Sparing (root.child ".gitignore") (makeFiles root force) := by
  have hignore : (root.child ".gitignore").Plain := hroot.child (by decide)
  have hconfig : ((root.child projectName).child "config.yaml").Plain := (hroot.child (by decide)).child (by decide)
  have hinstructions : (root.child "instructions.txt").Plain := hroot.child (by decide)
  unfold makeFiles
  refine .bind (.fileExists _) (fun there => ?_)
  have hfiles : Sparing (root.child ".gitignore") (do
      makeDirs (root.child projectName)
      writeFile ((root.child projectName).child "config.yaml") sampleConfig
      let there ← fileExists (root.child "instructions.txt")
      if force || !there then writeFile (root.child "instructions.txt") sampleInstructions
      return force || !there) := by
    refine .bind (.makeDirs _) (fun _ => .bind ?_ (fun _ => .bind (.fileExists _) (fun there => ?_)))
    · exact .writeFile hignore hconfig (by simp [File.Path.child]) _
    · dsimp only
      split
      · exact .bind (.writeFile hignore hinstructions (by simp [File.Path.child]) _) (fun _ => .pure _)
      · exact .pure _
  dsimp only
  split
  · exact .bind (.say _) (fun _ => .bind (.exit 2) (fun _ => hfiles))
  · exact hfiles

theorem sparing_sayInitialized (root : File.Path) (wroteInstructions : Bool) :
    Sparing p (sayInitialized root wroteInstructions) :=
  .bind (.say _) (fun _ => .bind (.say _) (fun _ => .bind (.say _) (fun _ => .bind (.say _) (fun _ => .say _))))

/-! ## §6 Making a project -/

/-- The ignore file of the project in a directory. -/
def ignorePath (d : File.Disk) (dir : File.Path) : File.Path := ((d.absolute dir).lexical).child ".gitignore"

theorem ignorePath_of_current_eq {d d' : File.Disk} (h : d'.current = d.current) (dir : File.Path) :
    ignorePath d' dir = ignorePath d dir := by
  unfold ignorePath File.Disk.absolute
  rw [h]

variable {dir : File.Path} {force : Bool}

theorem makeProject_run (dir : File.Path) (force : Bool) (t : Terminal) :
    (makeProject dir force).run t = (do
      let wroteInstructions ← makeFiles ((t.machine.disk.absolute dir).lexical) force
      updateIgnoreFile (ignorePath t.machine.disk dir)
      sayInitialized ((t.machine.disk.absolute dir).lexical) wroteInstructions : CommandM Unit).run t :=
  run_bind_ok (disk_run t)

theorem sparing_makeFiles_ignorePath (d : File.Disk) (dir : File.Path) (force : Bool) :
    Sparing (ignorePath d dir) (makeFiles ((d.absolute dir).lexical) force) :=
  sparing_makeFiles (File.Path.plain_lexical (d.isAbsolute_absolute dir)) force

/-- Making the project again, with or without force and however that ends, leaves a complete ignore file alone. -/
theorem makeProject_spares_complete {q : List String} {content : File.Content} {text : String}
    (hfind : t.machine.disk.find (ignorePath t.machine.disk dir) = .ok (q, .file content))
    (htext : textOf content = some text) (hcomplete : Complete text) {result : Except Halt Unit}
    (h : (makeProject dir force).run t = (result, t')) :
    Spares (ignorePath t.machine.disk dir) t.machine.disk t'.machine.disk := by
  have hmade := sparing_makeFiles_ignorePath t.machine.disk dir force
  rw [makeProject_run] at h
  rcases hrun : (makeFiles ((t.machine.disk.absolute dir).lexical) force).run t with ⟨halt | wrote, t₁⟩
  · rw [run_bind_error hrun] at h
    cases h
    exact hmade.spares hrun
  · have hfiles := hmade.spares hrun
    have hupdate := updateIgnoreFile_of_complete (hfiles.kept hfind) htext hcomplete
    rw [run_bind_ok hrun, run_bind_ok hupdate] at h
    exact hfiles.trans ((sparing_sayInitialized _ wrote).spares h)

/-- The terminal after making the project by force a number of times more. -/
def forcedAgain (dir : File.Path) : Nat → Terminal → Terminal
  | 0, t => t
  | n + 1, t => forcedAgain dir n ((makeProject dir true).run t).2

theorem find_forcedAgain {q : List String} {content : File.Content} {text : String}
    (hfind : t.machine.disk.find (ignorePath t.machine.disk dir) = .ok (q, .file content))
    (htext : textOf content = some text) (hcomplete : Complete text) (n : Nat) :
    (forcedAgain dir n t).machine.disk.find (ignorePath t.machine.disk dir) = .ok (q, .file content) := by
  induction n generalizing t with
  | zero => exact hfind
  | succ n ih =>
    rw [forcedAgain]
    rcases hrun : (makeProject dir true).run t with ⟨result, t₁⟩
    have hspares := makeProject_spares_complete hfind htext hcomplete hrun
    -- the path goes by where the program stands, which is the same before the next time
    have hpath := ignorePath_of_current_eq hspares.current dir
    rw [← hpath] at hspares ⊢
    exact ih (hspares.kept (hpath ▸ hfind))

/-- After a project was made, its ignore file is complete: every ignore entry is a line of it. If there was an
ignore file before, its lines come first, in their order, except for blank ones at the end; no entry that was a
line is added again; and a complete file is the same file still, byte by byte. Making the project by force
again, any number of times, leaves the ignore file as it is. -/
theorem ignore_file_of_makeProject (h : (makeProject dir force).run t = (.ok (), t')) :
    ∃ q content text, Updated (ignorePath t.machine.disk dir) t.machine.disk t'.machine.disk q content text ∧
      ∀ n, (forcedAgain dir n t').machine.disk.find (ignorePath t.machine.disk dir) = .ok (q, .file content) := by
  rw [makeProject_run] at h
  obtain ⟨wrote, t₁, hfiles, hrest⟩ := run_bind_eq_ok h
  obtain ⟨⟨⟩, t₂, hupdate, hsaid⟩ := run_bind_eq_ok hrest
  have hbefore := (sparing_makeFiles_ignorePath t.machine.disk dir force).spares hfiles
  have hafter := (sparing_sayInitialized (p := ignorePath t.machine.disk dir) _ wrote).spares hsaid
  obtain ⟨hcurrent, q, content, text, hupdated⟩ := updateIgnoreFile_ok hupdate
  have hfound := hafter.kept hupdated.found
  refine ⟨q, content, text, ⟨hfound, hupdated.reads, hupdated.complete, ?_⟩, ?_⟩
  · exact fun hfind hearlier => hupdated.earlier (hbefore.kept hfind) hearlier
  · intro n
    rw [← ignorePath_of_current_eq (hafter.current.trans (hcurrent.trans hbefore.current)) dir] at hfound ⊢
    exact find_forcedAgain hfound hupdated.reads hupdated.complete n

/-- An ignore file with carriage returns, one of the entries and a blank line at the end. -/
def halfIgnoring : File.Content := .bytes ("build/\r\n.env\r\n\r\n".toList.map Char.toUInt8)

/-- A terminal in a directory with this file. -/
def halfIgnored : Terminal where
  machine := {
    disk := {
      entries := [(["work"], .dir), (["work", ".gitignore"], .file halfIgnoring)]
      current := ["work"]
      environment := [] }
    config := {}
    world := { pages := [], context := [] }
    tab := .on "main" true }
  interpreter := "python"
  installer := .timedOut
  clock := ⟨⟨2026, 1, 1⟩, 0, 0, 0, 0, none⟩

/-- The lines before stay where they are, one entry is kept and the other one added. -/
theorem ignore_file_of_halfIgnored :
    ∃ t', (makeProject .here false).run halfIgnored = (.ok (), t') ∧
      ∃ q content text, t'.machine.disk.find ⟨"/", ["work", ".gitignore"]⟩ = .ok (q, .file content) ∧
        textOf content = some text ∧ ["build/", ".env"] <+: Text.lines text ∧
        (Text.lines text).count ".env" = 1 ∧ "artifacts/" ∈ Text.lines text := by
  have hok : ((makeProject .here false).run halfIgnored).1.isOk = true := by decide +kernel
  rcases hrun : (makeProject .here false).run halfIgnored with ⟨halt | _, t'⟩
  · rw [hrun] at hok
    cases hok
  · obtain ⟨q, content, text, hupdated, -⟩ := ignore_file_of_makeProject hrun
    have hpath : ignorePath halfIgnored.machine.disk .here = ⟨"/", ["work", ".gitignore"]⟩ := by decide +kernel
    have hfind : halfIgnored.machine.disk.find (ignorePath halfIgnored.machine.disk .here)
        = .ok (["work", ".gitignore"], .file halfIgnoring) := by decide +kernel
    have hearlier : textOf halfIgnoring = some "build/\r\n.env\r\n\r\n" := by decide +kernel
    obtain ⟨hextends, -⟩ := hupdated.earlier hfind hearlier
    have hlines : Text.lines "build/\r\n.env\r\n\r\n" = ["build/", ".env", ""] := by decide +kernel
    have hkept := hextends.kept
    have hcount := hextends.notAgain ".env" (by decide)
    rw [hlines] at hkept hcount
    refine ⟨t', rfl, q, content, text, hpath ▸ hupdated.found, hupdated.reads, hkept, ?_, ?_⟩
    · exact hcount (by decide)
    · exact hupdated.complete _ (by decide)

end BrowserScript.Command
