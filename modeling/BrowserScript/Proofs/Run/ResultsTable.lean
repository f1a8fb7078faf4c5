/-
BrowserScript.Proofs.Run.ResultsTable — the table of a report is read back.

The table is lines of text, each a row of cells between pipes. Instructions, errors and results are any texts: a
pipe in one of them is written with a backslash before it, and a line feed as a blank. So a reader who cuts the
section at its line feeds and each row at its pipes without a backslash finds what was written, also where a
text ends with a backslash, since a blank stands between each cell and the pipe after it.

* `readRow` is that reader. `readRow_barred`: it finds the texts that the cells of a row stand for (`Stands`).
* `Tabular`: an outcome whose action can stand in a row as it is. `RecordedAll.tabular`: the outcomes of a run
  with the built-in vocabulary are such.
* `Timed`: the outcomes of a run with the times that its lines took.
* `header_pass_iff`, `failures_none_iff`, `tally_iff`: what header, failures and summary say of the outcomes.

Main statement: `table_reads_back`. The table of a report of a run is read back row by row, and verdict, rows,
summary and failures agree about whether every line succeeded.
-/
import BrowserScript.Proofs.Instruction.JoinedPieces
import BrowserScript.Proofs.Run.ShortText
import BrowserScript.Proofs.Run.Validation
import BrowserScript.Proofs.Text.Escaping
import BrowserScript.Proofs.Text.Searching
import BrowserScript.Run.Report

namespace BrowserScript.Run

open Browser Instruction Vocabulary

/-! ## §1 Reading a row -/

/-- A text without the blank at each of its ends. -/
def unpadded? : List Char → Option (List Char)
  | ' ' :: rest => if rest.getLast? == some ' ' then some rest.dropLast else none
  | _ => none

/-- The texts in the cells of a row: it is cut at its bare pipes, of which the first and the last stand at its
ends, and each cell loses a blank at each end and the backslashes before its pipes. -/
def readRow (line : String) : Option (List String) :=
  match cutBare '|' false line.toList with
  | [] :: rest =>
    if rest.getLast? == some [] then
      (rest.dropLast.mapM unpadded?).map (List.map (fun cell => String.ofList (unescape '|' cell)))
    else none
  | _ => none

/-- A cell without bare pipes that stands for a text. -/
structure Stands (cell text : String) : Prop where
  bare : hasBare '|' false cell.toList = false
  reads : unescape '|' cell.toList = text.toList

/-- A text with its line feeds as blanks. -/
def flat (s : String) : String := String.ofList (Text.replaceChar '\n' [' '] s.toList)

theorem stands_plain {s : String} (h : '|' ∉ s.toList) : Stands s s :=
  ⟨hasBare_eq_false h false, unescape_eq_self h⟩

theorem replaceChar_escapeMarks (cs : List Char) :
    Text.replaceChar '\n' [' '] (escapeMarks '|' cs) = escapeMarks '|' (Text.replaceChar '\n' [' '] cs) := by
  induction cs with
  | nil => rfl
  | cons c cs ih =>
    by_cases hpipe : c = '|'
    · subst hpipe
      rw [escapeMarks_cons_mark]
      simpa [Text.replaceChar, escapeMarks] using ih
    · rw [escapeMarks_cons hpipe]
      by_cases hfeed : c = '\n'
      · subst hfeed
        simpa [Text.replaceChar, escapeMarks] using ih
      · simpa [Text.replaceChar, escapeMarks, hfeed, hpipe] using ih

theorem toList_cell (s : String) : (cell s).toList = escapeMarks '|' (flat s).toList := by
  rw [cell, flat, String.toList_ofList, String.toList_ofList]
  exact replaceChar_escapeMarks s.toList

theorem stands_cell (s : String) : Stands (cell s) (flat s) where
  bare := by
    rw [toList_cell]
    exact hasBare_escapeMarks (by decide) false _
  reads := by
    rw [toList_cell]
    exact unescape_escapeMarks (by decide) _

/-- A cell with a blank at each end. -/
def padded (cell : String) : List Char := ' ' :: (cell.toList ++ [' '])

/-- A row: a pipe, and one after each cell. -/
def barred (cells : List String) : List Char := '|' :: cells.flatMap (fun cell => padded cell ++ ['|'])

theorem unpadded?_padded (cell : String) : unpadded? (padded cell) = some cell.toList := by
  simp [unpadded?, padded]

theorem mapM_unpadded? (cells : List String) :
    (cells.map padded).mapM unpadded? = some (cells.map String.toList) := by
  induction cells with
  | nil => rfl
  | cons cell cells ih => simp [List.mapM_cons, unpadded?_padded, ih]

/-- A row is cut into its cells, between two empty pieces. -/
theorem cutBare_barred {cells : List String} (h : ∀ cell ∈ cells, hasBare '|' false cell.toList = false) :
    cutBare '|' false (barred cells) = [] :: (cells.map padded ++ [[]]) := by
  have hcells : cutBare '|' false (cells.flatMap (fun cell => padded cell ++ ['|'])) = cells.map padded ++ [[]] := by
    induction cells with
    | nil => rfl
    | cons cell cells ih =>
      obtain ⟨hcell, hrest⟩ := List.forall_mem_cons.1 h
      have hpiece : ∀ rest, cutBare '|' false (padded cell ++ '|' :: rest)
          = padded cell :: cutBare '|' false rest := by
        intro rest
        have hbare : hasBare '|' false (' ' :: cell.toList) = false := by simpa [hasBare] using hcell
        have hcut := cutBare_append_blank (by decide) hbare ('|' :: rest)
        have hpipe : cutBare '|' false ('|' :: rest) = [] :: cutBare '|' false rest := rfl
        rw [hpipe, foldr_consPiece, List.append_nil] at hcut
        simpa [padded] using hcut
      rw [List.flatMap_cons, List.append_assoc, List.singleton_append, hpiece, ih hrest, List.map_cons,
        List.cons_append]
  rw [barred, ← hcells]
  rfl

theorem forall_bare_of_stands {cells texts : List String} (h : List.Forall₂ Stands cells texts) :
    ∀ cell ∈ cells, hasBare '|' false cell.toList = false := by
  induction h with
  | nil => nofun
  | cons hcell _ ih => exact List.forall_mem_cons.2 ⟨hcell.bare, ih⟩

theorem map_unescape_of_stands {cells texts : List String} (h : List.Forall₂ Stands cells texts) :
    (cells.map String.toList).map (fun cell => String.ofList (unescape '|' cell)) = texts := by
  induction h with
  | nil => rfl
  | cons hcell _ ih =>
    rw [List.map_cons, List.map_cons, ih, hcell.reads, String.ofList_toList]

/-- A row is read as the texts that its cells stand for. -/
theorem readRow_barred {line : String} {cells texts : List String} (hline : line.toList = barred cells)
    (h : List.Forall₂ Stands cells texts) : readRow line = some texts := by
  rw [readRow, hline, cutBare_barred (forall_bare_of_stands h)]
  simp only [List.getLast?_concat, beq_self_eq_true, if_true, List.dropLast_concat, mapM_unpadded?,
    Option.map_some, map_unescape_of_stands h]

/-! ## §2 Rows of a report -/

/-- An outcome whose action can stand in a row as it is, and which is a success if it asked for nothing. -/
structure Tabular (o : Outcome) : Prop where
  onePiece : '|' ∉ o.action.toList
  oneLine : '\n' ∉ o.action.toList
  skips : o.action = skipKey → o.success = true

/-- What a row says: the number of the line, its text, the action or a dash, the verdict, the duration and the
note. -/
def rowTexts (number : Nat) (o : Outcome) : List String :=
  [Report.count number, flat o.instruction, if o.action = "" then "-" else o.action,
    if o.success then "PASS" else "FAIL", Number.intText o.duration ++ "ms", flat (Report.note o)]

namespace Report

/-- The cells of a row. -/
def rowCells (number : Nat) (o : Outcome) : List String :=
  [count number, cell o.instruction, if o.action = "" then "-" else o.action, verdict o.success,
    Number.intText o.duration ++ "ms", cell (note o)]

theorem toList_row (number : Nat) (o : Outcome) : (row number o).toList = barred (rowCells number o) := by
  have hstart : "| ".toList = ['|', ' '] := rfl
  have hnext : " | ".toList = [' ', '|', ' '] := rfl
  have hunit : "ms | ".toList = "ms".toList ++ [' ', '|', ' '] := rfl
  have hlast : " |".toList = [' ', '|'] := rfl
  unfold row rowCells
  simp only [barred, padded, String.toList_append, hstart, hnext, hunit, hlast, beq_iff_eq, List.flatMap_cons,
    List.flatMap_nil, List.append_assoc, List.cons_append, List.nil_append, List.append_nil]

theorem stands_rowCells {o : Outcome} (h : Tabular o) (number : Nat) :
    List.Forall₂ Stands (rowCells number o) (rowTexts number o) := by
  have hnumber := stands_plain (Number.not_mem_intText (c := '|') (by decide) (by decide) (Int.ofNat number))
  have haction : Stands (if o.action = "" then "-" else o.action) (if o.action = "" then "-" else o.action) := by
    refine stands_plain ?_
    split
    · decide
    · exact h.onePiece
  have hverdict : Stands (verdict o.success) (if o.success then "PASS" else "FAIL") := by
    cases o.success
    · exact stands_plain (by decide)
    · exact stands_plain (by decide)
  have hduration : Stands (Number.intText o.duration ++ "ms") (Number.intText o.duration ++ "ms") := by
    refine stands_plain ?_
    rw [String.toList_append, List.mem_append, not_or]
    exact ⟨Number.not_mem_intText (by decide) (by decide) _, by decide⟩
  exact .cons hnumber (.cons (stands_cell _) (.cons haction (.cons hverdict (.cons hduration
    (.cons (stands_cell _) .nil)))))

/-- A row is read as what it says. -/
theorem readRow_row {o : Outcome} (h : Tabular o) (number : Nat) :
    readRow (row number o) = some (rowTexts number o) :=
  readRow_barred (toList_row number o) (stands_rowCells h number)

theorem not_mem_barred {c : Char} (hpipe : c ≠ '|') (hblank : c ≠ ' ') {cells : List String}
    (h : ∀ cell ∈ cells, c ∉ cell.toList) : c ∉ barred cells := by
  intro hmem
  rcases List.mem_cons.1 hmem with hc | hmem
  · exact hpipe hc
  · obtain ⟨cell, hcell, hc⟩ := List.mem_flatMap.1 hmem
    simp [padded, hpipe, hblank, h cell hcell] at hc

/-- A row is one line. -/
theorem feed_not_mem_row {o : Outcome} (h : Tabular o) (number : Nat) : '\n' ∉ (row number o).toList := by
  have hcell : ∀ s, '\n' ∉ (cell s).toList := by
    intro s
    rw [cell, String.toList_ofList]
    exact Text.not_mem_replaceChar (by decide) _
  have hwhole := fun n => Number.not_mem_intText (c := '\n') (by decide) (by decide) n
  rw [toList_row]
  refine not_mem_barred (by decide) (by decide) ?_
  simp only [rowCells, List.forall_mem_cons]
  refine ⟨hwhole _, hcell _, ?_, ?_, ?_, hcell _, nofun⟩
  · split
    · decide
    · exact h.oneLine
  · cases o.success <;> decide
  · rw [String.toList_append, List.mem_append, not_or]
    exact ⟨hwhole _, by decide⟩

/-! ## §3 The table -/

variable {r : Report}

/-- The heading, the names of the columns and the rule below them. -/
def tableHead : List String :=
  ["## Instruction Results", "| # | Instruction | Action | Result | Duration | Notes |",
    "|---|-------------|--------|--------|----------|-------|"]

/-- The outcomes that have rows, each with the number of its line. -/
def shown (r : Report) : List (Outcome × Nat) := (r.outcomes.zipIdx 1).filter (fun x => x.1.action != skipKey)

theorem numbered_eq (r : Report) : r.numbered = (r.outcomes.zipIdx 1).map Prod.swap := by
  rw [numbered, List.zipIdx_succ, List.map_map]
  rfl

theorem rows_eq (r : Report) : r.rows = r.shown.map (fun x => row x.2 x.1) := by
  rw [rows, numbered_eq, List.filter_map, List.map_map]
  rfl

theorem map_shown (r : Report) : r.shown.map Prod.fst = r.executed := by
  have hfst := List.filter_map (p := fun o => o.action != "skip") (f := Prod.fst) (l := r.outcomes.zipIdx 1)
  rw [List.zipIdx_map_fst] at hfst
  exact hfst.symm

theorem splitOn_table (h : ∀ o ∈ r.outcomes, Tabular o) :
    Text.splitOn '\n' (sectionText r.table).toList = (tableHead ++ r.rows).map String.toList := by
  refine @Text.splitOn_joined _ "\n" _ rfl _ ?_
  have hhead : ∀ line ∈ tableHead, '\n' ∉ line.toList := by decide
  have hrows : ∀ line ∈ r.rows, '\n' ∉ line.toList := by
    intro line hline
    rw [rows_eq] at hline
    obtain ⟨x, hx, rfl⟩ := List.mem_map.1 hline
    exact feed_not_mem_row (h _ (List.fst_mem_of_mem_zipIdx (List.mem_filter.1 hx).1)) _
  exact List.forall_mem_append.2 ⟨hhead, hrows⟩

theorem map_readRow_rows (h : ∀ o ∈ r.outcomes, Tabular o) :
    r.rows.map readRow = r.shown.map (fun x => some (rowTexts x.2 x.1)) := by
  rw [rows_eq, List.map_map]
  refine List.map_congr_left ?_
  intro x hx
  rw [Function.comp_apply]
  exact readRow_row (h _ (List.fst_mem_of_mem_zipIdx (List.mem_filter.1 hx).1)) x.2

/-! ## §4 Verdict, rows, summary and failures -/

/-- What is not shown in the table did not fail. -/
theorem forall_executed_iff (h : ∀ o ∈ r.outcomes, Tabular o) :
    (∀ o ∈ r.executed, o.success = true) ↔ ∀ o ∈ r.outcomes, o.success = true := by
  constructor
  · intro hexecuted o ho
    by_cases hskip : o.action = skipKey
    · exact (h o ho).skips hskip
    · exact hexecuted o (List.mem_filter.2 ⟨ho, by simpa [skipKey] using hskip⟩)
  · exact fun hall o ho => hall o (List.mem_filter.1 ho).1

theorem header_pass_iff :
    r.header.getLast? = some "**Verdict:** PASS" ↔ ∀ o ∈ r.outcomes, o.success = true := by
  have hlast : r.header.getLast? = some ("**Verdict:** " ++ verdict r.passed) := rfl
  rw [hlast, ← List.all_eq_true, ← passed]
  cases r.passed <;> decide

theorem rows_pass_iff (h : ∀ o ∈ r.outcomes, Tabular o) :
    (∀ line ∈ r.rows, ∃ cells, readRow line = some cells ∧ cells[3]? = some "PASS") ↔
      ∀ o ∈ r.executed, o.success = true := by
  rw [rows_eq, List.forall_mem_map, ← map_shown, List.forall_mem_map]
  refine forall₂_congr ?_
  intro x hx
  have hread := readRow_row (h _ (List.fst_mem_of_mem_zipIdx (List.mem_filter.1 hx).1)) x.2
  have hverdict : (if x.1.success then "PASS" else "FAIL") = "PASS" ↔ x.1.success = true := by
    cases x.1.success <;> decide
  simp [hread, rowTexts, hverdict]

theorem failures_none_iff :
    r.failures = ["## Failures", "", "No failures."] ↔ ∀ o ∈ r.outcomes, o.success = true := by
  have hnone : r.numbered.filter (fun x => !x.2.success) = [] ↔ ∀ o ∈ r.outcomes, o.success = true := by
    have hall : (∀ o ∈ r.outcomes, o.success = true) ↔ ∀ x ∈ r.outcomes.zipIdx 1, x.1.success = true := by
      conv_lhs => rw [← List.zipIdx_map_fst 1 r.outcomes]
      exact List.forall_mem_map
    rw [hall, List.filter_eq_nil_iff, numbered_eq, List.forall_mem_map]
    simp
  rw [← hnone, failures]
  cases r.numbered.filter (fun x => !x.2.success) with
  | nil => simp
  | cons x failed =>
    -- a failed line begins with a dash, the line that there are none with a letter
    have hdash : ∀ front a b c d e : String, front.toList = ['-', ' ', '*', '*'] →
        (front ++ a ++ b ++ c ++ d ++ e).toList.head? = some '-' := by
      intro front a b c d e hfront
      simp only [String.toList_append, hfront, List.cons_append, List.head?_cons]
    simp only [List.map_cons, List.cons_append, List.nil_append, List.cons.injEq, true_and, reduceCtorEq,
      iff_false, not_and]
    intro hline
    have hfirst := hdash "- **" (count x.1) "** \x60" x.2.instruction "\x60: " x.2.error rfl
    rw [hline] at hfirst
    exact absurd hfirst (by decide)

theorem count_injective : Function.Injective count := by
  intro m n h
  have hdigits : ∀ k, (count k).toList = Nat.toDigits 10 k := fun k => String.toList_ofList
  have hvalue := congrArg (fun s => Nat.ofDigitChars 10 s.toList 0) h
  simpa only [hdigits, Nat.ofDigitChars_toDigits (b := 10) (by decide) (by decide)] using hvalue

/-- The line of the summary about the executed lines. -/
def tally (passed all : Nat) : String := "- Instructions: " ++ count passed ++ "/" ++ count all ++ " passed"

theorem tally_inj {m n m' n' : Nat} (h : tally m n = tally m' n') : m = m' ∧ n = n' := by
  have hslash : ∀ k, '/' ∉ (count k).toList :=
    fun k => Number.not_mem_intText (c := '/') (by decide) (by decide) (Int.ofNat k)
  have hmark : "/".toList = ['/'] := rfl
  unfold tally at h
  have hchars := congrArg String.toList h
  simp only [String.toList_append, List.append_assoc, hmark, List.cons_append, List.nil_append] at hchars
  have hparts := congrArg (Text.splitAt? '/') (List.append_cancel_left hchars)
  rw [Text.splitAt?_append_cons (hslash m), Text.splitAt?_append_cons (hslash m'), Option.some.injEq,
    Prod.mk.injEq] at hparts
  exact ⟨count_injective (String.toList_inj.1 hparts.1),
    count_injective (String.toList_inj.1 (List.append_cancel_right hparts.2))⟩

/-- The summary counts all executed lines as passed exactly when they succeeded. -/
theorem tally_iff {summary : List String} (h : r.summaryLines = .ok summary) :
    (∃ n, summary[1]? = some (tally n n)) ↔ ∀ o ∈ r.executed, o.success = true := by
  have hline : summary[1]? = some (tally r.passedCount r.executed.length) := by
    rw [summaryLines] at h
    cases hseconds : r.duration.tenths with
    | error e =>
      rw [hseconds] at h
      cases h
    | ok seconds =>
      rw [hseconds] at h
      cases h
      rfl
  have hcount : r.passedCount = r.executed.length ↔ ∀ o ∈ r.executed, o.success = true :=
    List.length_filter_eq_length_iff
  rw [hline, ← hcount]
  constructor
  · rintro ⟨n, hn⟩
    obtain ⟨hpassed, hall⟩ := tally_inj (Option.some.inj hn)
    exact hpassed.trans hall.symm
  · exact fun heq => ⟨r.executed.length, by rw [heq]⟩

end Report

/-! ## §5 Runs -/

variable {m m' : Machine} {marker line : String} {lines : List String} {o : Outcome} {os timed : List Outcome}

/-- The keys of the built-in vocabulary can stand in rows. -/
theorem tabular_key {a : Action Handler} (ha : a ∈ frozenVocabulary.actions) :
    '|' ∉ a.key.toList ∧ '\n' ∉ a.key.toList := by
  have hall : frozenVocabulary.actions.all
      (fun a => !a.key.toList.contains '|' && !a.key.toList.contains '\n') = true := by
    decide +kernel
  simpa using List.all_eq_true.1 hall a ha

theorem Recorded.tabular (h : Recorded ⟨frozenVocabulary, frozenVocabulary, marker⟩ m line o m') : Tabular o := by
  have hskips := (h.agrees proper_frozenVocabulary).success
  have haction : '|' ∉ o.action.toList ∧ '\n' ∉ o.action.toList := by
    have hasked : ∀ {a params}, Asks ⟨frozenVocabulary, frozenVocabulary, marker⟩ line a params →
        '|' ∉ a.key.toList ∧ '\n' ∉ a.key.toList := by
      rintro a params ⟨-, key, -, hlookup⟩
      exact tabular_key (List.mem_of_find?_eq_some hlookup)
    have hskip : '|' ∉ skipKey.toList ∧ '\n' ∉ skipKey.toList := by decide
    have hnone : '|' ∉ "".toList ∧ '\n' ∉ "".toList := by decide
    cases h with
    | skipped _ => exact hskip
    | unreadable _ _ => exact hnone
    | unknown _ _ _ => exact hnone
    | failed hasks _ => exact hasked hasks
    | succeeded hasks _ _ => exact hasked hasks
    | opened hasks _ _ _ => exact hasked hasks
  exact ⟨haction.1, haction.2, hskips⟩

theorem RecordedAll.tabular (h : RecordedAll ⟨frozenVocabulary, frozenVocabulary, marker⟩ m lines os m') :
    ∀ o ∈ os, Tabular o := by
  induction h with
  | nil m => nofun
  | cons hline _ ih => exact List.forall_mem_cons.2 ⟨hline.tabular, ih⟩

/-- The outcomes of a run, each with the time that its line took. -/
def Timed (os timed : List Outcome) : Prop :=
  List.Forall₂ (fun o t => t = { o with duration := t.duration }) os timed

theorem Timed.tabular (h : Timed os timed) (hos : ∀ o ∈ os, Tabular o) : ∀ o ∈ timed, Tabular o := by
  induction h with
  | nil => nofun
  | cons ht _ ih =>
    obtain ⟨ho, hos⟩ := List.forall_mem_cons.1 hos
    refine List.forall_mem_cons.2 ⟨?_, ih hos⟩
    rw [ht]
    exact ⟨ho.onePiece, ho.oneLine, ho.skips⟩

/-- The table of the report of a run. Cut at its line feeds, it is the head and one line for each outcome that is
not of a skipped line, in their order; and each of these is read as the number of the line, its text, the action
or a dash, the verdict, the duration and the note, which has 80 characters at most. The verdict in the header is
PASS exactly when that of every row is, exactly when nothing is listed as a failure, and exactly when the summary
counts as many passed lines as lines. (There is a summary unless the duration is a whole number too large to be
written with decimals.) -/
theorem table_reads_back {r : Report}
    (hrun : Runner.run ⟨frozenVocabulary, frozenVocabulary, marker⟩ m lines = (.ok os, m'))
    (htimed : Timed os r.outcomes) :
    ∃ rows : List String,
      Text.splitOn '\n' (Report.sectionText r.table).toList = (Report.tableHead ++ rows).map String.toList ∧
      rows.map readRow = r.shown.map (fun x => some (rowTexts x.2 x.1)) ∧
      (∀ o, (Report.note o).length ≤ 80) ∧
      (r.header.getLast? = some "**Verdict:** PASS" ↔
        ∀ line ∈ rows, ∃ cells, readRow line = some cells ∧ cells[3]? = some "PASS") ∧
      (r.header.getLast? = some "**Verdict:** PASS" ↔ r.failures = ["## Failures", "", "No failures."]) ∧
      (∀ x, r.duration = .fraction x → ∃ summary, r.summaryLines = .ok summary) ∧
      ∀ summary, r.summaryLines = .ok summary →
        (r.header.getLast? = some "**Verdict:** PASS" ↔ ∃ n, summary[1]? = some (Report.tally n n)) := by
  have htabular := htimed.tabular (recordedAll_of_run hrun).tabular
  have hexecuted := Report.forall_executed_iff htabular
  refine ⟨r.rows, Report.splitOn_table htabular, Report.map_readRow_rows htabular,
    fun o => Text.length_clip_le _, ?_, ?_, ?_, ?_⟩
  · rw [Report.header_pass_iff, Report.rows_pass_iff htabular, hexecuted]
  · rw [Report.header_pass_iff, Report.failures_none_iff]
  · intro x hx
    exact ⟨_, by rw [Report.summaryLines, hx, Seconds.tenths, Except.map]⟩
  · intro summary hsummary
    rw [Report.header_pass_iff, Report.tally_iff hsummary, hexecuted]

/-- Lines with a pipe and with a backslash at the end. -/
def pipedLines : List String := ["# note", "fly to|from \\", "press Enter"]

/-- A report of three seconds. -/
def briefReport (outcomes : List Outcome) : Report where
  runId := "run"
  instructionsFile := "steps.txt"
  browser := "chromium"
  viewport := (.int 1280, .int 720)
  startTime := "start"
  endTime := "end"
  duration := .whole 3
  outcomes := outcomes

/-- The second row is read as it was written, and the third line is not joined to it. -/
theorem table_reads_back_piped :
    ∃ os m', Runner.run ⟨frozenVocabulary, frozenVocabulary, "#"⟩ blank pipedLines = (.ok os, m') ∧
      Timed os (briefReport os).outcomes ∧
      ∃ rows : List String,
        Text.splitOn '\n' (Report.sectionText (briefReport os).table).toList
          = (Report.tableHead ++ rows).map String.toList ∧
        rows.map (fun line => (readRow line).map (List.take 5)) = [
          some ["2", "fly to|from \\", "-", "FAIL", "0ms"],
          some ["3", "press Enter", "pressKey", "PASS", "0ms"]] := by
  have htexts : (Runner.run ⟨frozenVocabulary, frozenVocabulary, "#"⟩ blank pipedLines).1.toOption.map
      (fun os => (briefReport os).shown.map (fun x => (rowTexts x.2 x.1).take 5)) = some [
        ["2", "fly to|from \\", "-", "FAIL", "0ms"], ["3", "press Enter", "pressKey", "PASS", "0ms"]] := by
    decide +kernel
  rcases hrun : Runner.run ⟨frozenVocabulary, frozenVocabulary, "#"⟩ blank pipedLines with ⟨e | os, m'⟩
  · rw [hrun] at htexts
    cases htexts
  · rw [hrun] at htexts
    have htimed : Timed os (briefReport os).outcomes := List.forall₂_same.2 (fun o _ => rfl)
    obtain ⟨rows, hlines, hrows, -⟩ := table_reads_back hrun htimed
    refine ⟨os, m', rfl, htimed, rows, hlines, ?_⟩
    have hread := congrArg (List.map (Option.map (List.take 5))) hrows
    rw [List.map_map, List.map_map] at hread
    refine hread.trans ?_
    have hshown := congrArg (List.map some) (Option.some.inj htexts)
    rw [List.map_map] at hshown
    exact hshown

end BrowserScript.Run
