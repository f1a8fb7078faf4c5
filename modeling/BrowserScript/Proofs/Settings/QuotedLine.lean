/-
BrowserScript.Proofs.Settings.QuotedLine — a secret between quotes in the file `.env`.

A secret is written down as `NAME=` and the secret between two quotes of the other kind than those in it. It is
read by cutting at the first equals sign, trimming, and taking all quotes of either kind off both ends
(`stripQuotes_between`). Blanks inside the quotes, equals signs and number signs come back as they are. The
quotes are taken off as a set of characters and not as a pair, so quotes at the ends of the secret itself go
with them.

* `Bare`: no quote at either end of a text.
* `HoldsLine`: a file with one line, however it ends.
* `linesKeeping_single`, `Text.unifyLineEnds_append`: such a file has that line only when it is read.

Main statement: `resolveSecret_quoted_iff`. The secret comes back, wherever else it is looked for, exactly when
it has no quote at either end.
-/
import BrowserScript.Proofs.Settings.FirstSource
import Mathlib.Data.List.DropRight

namespace BrowserScript

open File

/-! ## §1 Quotes -/

/-- The quotes that are taken off a value. -/
def isQuote (c : Char) : Bool := c == '\'' || c == '"'

theorem stripQuotes_eq (cs : List Char) : stripQuotes cs = (cs.dropWhile isQuote).rdropWhile isQuote := rfl

/-- A text without a quote at either end. -/
structure Bare (cs : List Char) : Prop where
  first : ∀ c ∈ cs.head?, isQuote c = false
  last : ∀ c ∈ cs.getLast?, isQuote c = false

/-- Quotes around a text go, and so do those at its own ends. -/
theorem stripQuotes_between {q : Char} (hq : isQuote q = true) (cs : List Char) :
    stripQuotes (q :: (cs ++ [q])) = stripQuotes cs := by
  simp only [stripQuotes_eq]
  rw [List.dropWhile_cons_of_pos hq, List.dropWhile_append]
  split
  · rename_i hempty
    rw [List.isEmpty_iff.1 hempty]
    simp [hq]
  · rw [List.rdropWhile_concat_pos _ _ _ hq]

theorem stripQuotes_eq_self_iff {cs : List Char} : stripQuotes cs = cs ↔ Bare cs := by
  rw [stripQuotes_eq]
  constructor
  · intro h
    -- neither scan can take anything, or the result would be shorter
    have hprefix := (List.rdropWhile_prefix isQuote (cs.dropWhile isQuote)).length_le
    have hsuffix := (List.dropWhile_suffix isQuote (l := cs)).length_le
    have hfront : cs.dropWhile isQuote = cs :=
      (List.dropWhile_suffix isQuote).eq_of_length (by rw [h] at hprefix; omega)
    rw [hfront] at h
    refine ⟨?_, ?_⟩
    · intro c hc
      obtain ⟨rest, rfl⟩ := List.head?_eq_some_iff.1 hc
      exact Bool.eq_false_iff.2 (List.dropWhile_eq_self_iff.1 hfront (Nat.succ_pos _))
    · intro c hc
      obtain ⟨rest, rfl⟩ := List.getLast?_eq_some_iff.1 hc
      simpa using List.rdropWhile_eq_self_iff.1 h (by simp)
  · rintro ⟨hfirst, hlast⟩
    have hfront : cs.dropWhile isQuote = cs := by
      refine List.dropWhile_eq_self_iff.2 fun hpos => ?_
      simp [hfirst cs[0] (by simp [List.head?_eq_getElem?])]
    rw [hfront]
    refine List.rdropWhile_eq_self_iff.2 fun hne => ?_
    simp [hlast _ (List.getLast?_eq_some_getLast hne)]

/-! ## §2 Files with one line -/

namespace Text

theorem unifyLineEnds_append {line : List Char} (h : '\r' ∉ line) (rest : List Char) :
    unifyLineEnds (line ++ rest) = line ++ unifyLineEnds rest := by
  induction line with
  | nil => rfl
  | cons c line ih =>
    have hc : c ≠ '\r' := fun hc => h (by simp [hc])
    rw [List.cons_append, unifyLineEnds, ih fun hr => h (List.mem_cons_of_mem c hr)]
    · simp [hc]
    · intro _ hcr
      exact absurd hcr hc

theorem piecesAfter_append {line : List Char} (h : '\n' ∉ line) (piece rest : List Char) :
    piecesAfter piece (line ++ rest) = piecesAfter (line.reverse ++ piece) rest := by
  induction line generalizing piece with
  | nil => rfl
  | cons c line ih =>
    have hc : c ≠ '\n' := fun hc => h (by simp [hc])
    rw [List.cons_append, piecesAfter, if_neg (by simpa using hc),
      ih fun hn => h (List.mem_cons_of_mem c hn)]
    simp

/-- A line that may have a line feed after it is the only one. -/
theorem linesKeeping_single {line ending : List Char} (hne : line ≠ []) (h : '\n' ∉ line)
    (hending : ending = [] ∨ ending = ['\n']) : linesKeeping (line ++ ending) = [line ++ ending] := by
  rw [linesKeeping, piecesAfter_append h]
  rcases hending with rfl | rfl <;> simp [piecesAfter, hne]

end Text

/-- The ways in which the last line of a file can end. -/
def lineEnds : List String := ["", "\n", "\r\n", "\r"]

/-- A file with one line, as a text or as the bytes of one. -/
inductive HoldsLine (disk : Disk) (path : Path) (line : String) : Prop
  | text {names : List String} {ending : String} (hending : ending ∈ lineEnds)
      (hfile : disk.find path = .ok (names, .file (.text (line ++ ending)))) : HoldsLine disk path line
  | bytes {names : List String} {ending : String} {bs : List UInt8} (hending : ending ∈ lineEnds)
      (hfile : disk.find path = .ok (names, .file (.bytes bs)))
      (hdecode : decode bs = .ok (line ++ ending)) : HoldsLine disk path line

/-- What can be read is the line, with a line feed after it or nothing. -/
theorem HoldsLine.shows {disk : Disk} {path : Path} {line : String} (hfree : '\r' ∉ line.toList)
    (h : HoldsLine disk path line) :
    ∃ ending : List Char, (ending = [] ∨ ending = ['\n']) ∧
      Shows disk path (some (String.ofList (line.toList ++ ending))) := by
  have hunified : ∀ ending ∈ lineEnds, ∃ after : List Char, (after = [] ∨ after = ['\n']) ∧
      Text.unifyLineEnds (line ++ ending).toList = line.toList ++ after := by
    intro ending hending
    refine ⟨Text.unifyLineEnds ending.toList, ?_, ?_⟩
    · have hall : ∀ e ∈ lineEnds, Text.unifyLineEnds e.toList = [] ∨ Text.unifyLineEnds e.toList = ['\n'] := by
        decide
      exact hall ending hending
    · rw [String.toList_append, Text.unifyLineEnds_append hfree]
  cases h with
  | text hending hfile =>
    obtain ⟨after, hafter, heq⟩ := hunified _ hending
    refine ⟨after, hafter, .text (by simp [Disk.exists?, hfile]) ?_⟩
    simp only [Disk.read, hfile, Content.read, heq, Except.mapError]
  | bytes hending hfile hdecode =>
    obtain ⟨after, hafter, heq⟩ := hunified _ hending
    refine ⟨after, hafter, .text (by simp [Disk.exists?, hfile]) ?_⟩
    simp only [Disk.read, hfile, Content.read, hdecode, heq, Except.map, Except.mapError]

/-! ## §3 Secrets between quotes -/

section Quoted

variable {disk : Disk} {name v : String} {q : Char}

/-- A line that gives a name a secret between quotes. -/
def quotedLine (name v : String) (q : Char) : String := name ++ "=" ++ String.ofList [q] ++ v ++ String.ofList [q]

theorem quotedLine_toList : (quotedLine name v q).toList = name.toList ++ '=' :: q :: (v.toList ++ [q]) := by
  simp [quotedLine]

theorem not_blank_of_isQuote (hq : isQuote q = true) : Text.isBlank q = false := by
  have hcases : q = '\'' ∨ q = '"' := by simpa [isQuote] using hq
  rcases hcases with rfl | rfl <;> decide

theorem trimChars_name (hblank : ∀ c ∈ name.toList, Text.isBlank c = false) :
    Text.trimChars name.toList = name.toList :=
  Text.trimChars_eq_self (fun c hc => hblank c (List.mem_of_mem_head? hc))
    (fun c hc => hblank c (List.mem_of_mem_getLast? hc))

theorem secretName?_reference (hblank : ∀ c ∈ name.toList, Text.isBlank c = false) :
    secretName? ("env:" ++ name) = some name := by
  have hnothing : Text.AllBlank [] := nofun
  have hpadded := secretName?_padded hnothing hnothing name
  rw [Text.trim, trimChars_name hblank] at hpadded
  simpa using hpadded

/-- The line gives its name what is left of the secret without the quotes at its ends. -/
theorem quotedLine_gives (hname : name ≠ "") (hblank : ∀ c ∈ name.toList, Text.isBlank c = false)
    (hequals : '=' ∉ name.toList) (hcomment : name.toList.head? ≠ some '#') (hq : isQuote q = true)
    {ending : List Char} (hending : Text.AllBlank ending) :
    LineGives name.toList ((quotedLine name v q).toList ++ ending) (stripQuotes v.toList) := by
  have hchars : name.toList ≠ [] := by simpa using hname
  have hqblank := not_blank_of_isQuote hq
  have htrim : Text.trimChars ((quotedLine name v q).toList ++ ending)
      = name.toList ++ '=' :: q :: (v.toList ++ [q]) := by
    rw [Text.trimChars_append hending, quotedLine_toList]
    have haround := Text.trimChars_around hchars (List.cons_ne_nil q [])
      (fun c hc => hblank c (List.mem_of_mem_head? hc)) (by simpa using hqblank) ('=' :: q :: v.toList)
    simpa using haround
  have hquoted : Text.trimChars (q :: (v.toList ++ [q])) = q :: (v.toList ++ [q]) :=
    Text.trimChars_between hqblank hqblank v.toList
  rw [← stripQuotes_between hq, ← hquoted]
  refine .intro htrim hequals ?_ (trimChars_name hblank)
  rw [htrim, List.head?_append_of_ne_nil _ hchars]
  exact hcomment

variable (hname : name ≠ "") (hblank : ∀ c ∈ name.toList, Text.isBlank c = false)
  (hequals : '=' ∉ name.toList) (hcomment : name.toList.head? ≠ some '#')
  (hlines : '\n' ∉ v.toList ∧ '\r' ∉ v.toList) (hq : isQuote q = true)
  (hfile : HoldsLine disk (Path.ofString ".env") (quotedLine name v q))

include hname hblank hequals hcomment hlines hq hfile

/-- The file `.env` gives the name what is left of the secret. -/
theorem envFile_quoted : EnvFileGives disk name (some (String.ofList (stripQuotes v.toList))) := by
  have hfree : ∀ c : Char, Text.isBlank c = true → c ≠ '=' → c ∉ v.toList →
      c ∉ (quotedLine name v q).toList := by
    intro c hc hne hv hmem
    have hqblank := not_blank_of_isQuote hq
    rw [quotedLine_toList] at hmem
    simp only [List.mem_append, List.mem_cons, List.not_mem_nil, or_false] at hmem
    rcases hmem with hn | hn | hn | hn | hn
    · simp [hblank c hn] at hc
    · exact hne hn
    · simp [hn, hqblank] at hc
    · exact hv hn
    · simp [hn, hqblank] at hc
  obtain ⟨ending, hending, hshows⟩ := hfile.shows (hfree '\r' (by decide) (by decide) hlines.2)
  have hallBlank : Text.AllBlank ending := by
    rcases hending with rfl | rfl
    · exact nofun
    · exact List.forall_mem_singleton.2 (by decide)
  have hsingle : Text.linesKeeping (String.ofList ((quotedLine name v q).toList ++ ending)).toList
      = [] ++ ((quotedLine name v q).toList ++ ending) :: [] := by
    rw [String.toList_ofList]
    exact Text.linesKeeping_single (by simp [quotedLine_toList])
      (hfree '\n' (by decide) (by decide) hlines.1) hending
  exact .text hshows (.found hsingle nofun (quotedLine_gives hname hblank hequals hcomment hq hallBlank))

/-- A reference to the name stands for what is left of the secret, if something is left. -/
theorem resolveSecret_quoted (hunset : disk.environmentValue name = none) (hleft : stripQuotes v.toList ≠ [])
    (project : Option Path) (mapping : List (String × String)) :
    resolveSecret disk project mapping ("env:" ++ name) = .ok (String.ofList (stripQuotes v.toList)) := by
  have hgives := envFile_quoted hname hblank hequals hcomment hlines hq hfile
  have hfound : (earlierValues disk (some (String.ofList (stripQuotes v.toList))) mapping name).findSome? nonempty?
      = some (String.ofList (stripQuotes v.toList)) := by
    have hsome : nonempty? (some (String.ofList (stripQuotes v.toList)))
        = some (String.ofList (stripQuotes v.toList)) := if_neg (by simpa using hleft)
    rw [earlierValues, hunset, List.findSome?_cons, List.findSome?_cons, hsome]
    rfl
  have hunneeded :
      (earlierValues disk (some (String.ofList (stripQuotes v.toList))) mapping name).findSome? nonempty? = none →
        ConfigHolds disk project [] := by simp [hfound]
  rw [resolveSecret_of_short (secretName?_reference hblank) (fun _ => hgives) hunneeded
    (.inr (.inl (by simp [hfound]))), firstSecret_append hname, hfound]

/-- A reference to the name stands for nothing, if nothing is left of the secret and no other place has the
name. -/
theorem resolveSecret_quoted_nothing (hunset : disk.environmentValue name = none)
    (hleft : stripQuotes v.toList = []) :
    resolveSecret disk none [] ("env:" ++ name) = .error (.settings (.secretNotSet name ("env:" ++ name))) := by
  have hgives := envFile_quoted hname hblank hequals hcomment hlines hq hfile
  have hnone : (earlierValues disk (some (String.ofList (stripQuotes v.toList))) [] name).findSome? nonempty?
      = none := by
    simp [earlierValues, hunset, nonempty?, hleft]
  rw [resolveSecret_of_short (secretName?_reference hblank) (fun _ => hgives) (fun _ => ConfigHolds.noProject)
    (.inr (.inr (by simp [Burdened]))), firstSecret_append hname, hnone]
  rfl

end Quoted

/-- Let the file `.env` hold one line, which gives a name a secret between two quotes. A reference to the name
then stands for that very secret, whatever the other places have, exactly when the secret has no quote at
either end. -/
theorem resolveSecret_quoted_iff {disk : Disk} {name v : String} {q : Char} (hname : name ≠ "")
    (hblank : ∀ c ∈ name.toList, Text.isBlank c = false) (hequals : '=' ∉ name.toList)
    (hcomment : name.toList.head? ≠ some '#') (hunset : disk.environmentValue name = none) (hv : v ≠ "")
    (hlines : '\n' ∉ v.toList ∧ '\r' ∉ v.toList) (hq : q = '\'' ∨ q = '"')
    (hfile : HoldsLine disk (Path.ofString ".env") (quotedLine name v q)) :
    (∀ (project : Option Path) (mapping : List (String × String)),
        resolveSecret disk project mapping ("env:" ++ name) = .ok v) ↔ Bare v.toList := by
  have hquote : isQuote q = true := by simpa [isQuote] using hq
  rw [← stripQuotes_eq_self_iff]
  constructor
  · intro h
    have hanswer := h none []
    by_cases hleft : stripQuotes v.toList = []
    · rw [resolveSecret_quoted_nothing hname hblank hequals hcomment hlines hquote hfile hunset hleft] at hanswer
      cases hanswer
    · rw [resolveSecret_quoted hname hblank hequals hcomment hlines hquote hfile hunset hleft] at hanswer
      exact String.ofList_injective ((Except.ok.inj hanswer).trans String.ofList_toList.symm)
  · intro hbare project mapping
    have hleft : stripQuotes v.toList ≠ [] := by rw [hbare]; simpa using hv
    rw [resolveSecret_quoted hname hblank hequals hcomment hlines hquote hfile hunset hleft, hbare,
      String.ofList_toList]

/-- A project whose file `.env` has one line, and a mapping with the same name. -/
def oneLineDisk (line : String) : Disk where
  entries := [([".env"], .file (.text line))]
  current := []
  environment := [("HOME", "/")]

theorem pin_not_blank : ∀ c ∈ "PIN".toList, Text.isBlank c = false :=
  fun c hc => Bool.eq_false_iff.mpr (List.any_eq_false.mp (by decide) c hc)

/-- Blanks, an equals sign and a quote of the other kind inside of a secret come back. -/
theorem resolveSecret_quoted_phrase :
    resolveSecret (oneLineDisk "PIN=' a=\"b\" # '\r\n") none [("PIN", "c")] "env:PIN" = .ok " a=\"b\" # " := by
  have hfile : HoldsLine (oneLineDisk "PIN=' a=\"b\" # '\r\n") (Path.ofString ".env")
      (quotedLine "PIN" " a=\"b\" # " '\'') := .text (by decide : "\r\n" ∈ lineEnds) (by rfl)
  have hblank : isQuote ' ' = false := by decide
  have hbare : Bare " a=\"b\" # ".toList :=
    ⟨fun c hc => Option.some.inj hc ▸ hblank, fun c hc => Option.some.inj hc ▸ hblank⟩
  exact (resolveSecret_quoted_iff (by decide) pin_not_blank (by decide) (by decide) (by rfl) (by decide)
    (by decide) (.inl rfl) hfile).mpr hbare none [("PIN", "c")]

/-- A secret with quotes at its ends loses them. -/
theorem resolveSecret_quoted_short :
    resolveSecret (oneLineDisk "PIN='\"a\"'\n") none [] "env:PIN" = .ok "a" := by
  have hfile : HoldsLine (oneLineDisk "PIN='\"a\"'\n") (Path.ofString ".env") (quotedLine "PIN" "\"a\"" '\'') :=
    .text (by decide : "\n" ∈ lineEnds) (by rfl)
  exact resolveSecret_quoted (by decide) pin_not_blank (by decide) (by decide) (by decide) (by decide) hfile
    (by rfl) (by decide) none []

end BrowserScript
