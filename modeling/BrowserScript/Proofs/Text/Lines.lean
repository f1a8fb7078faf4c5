/-
BrowserScript.Proofs.Text.Lines — lines of texts that are put together.

Reading a text file turns its carriage returns into line feeds, and cutting it into lines takes a carriage return
with the line feed after it for one end. The two agree: a text has the lines of what is read of it. After that no
carriage return is left, and every line end is a single character, so the lines of a text up to a line feed are
settled whatever follows.

* `linesAfter_unifyLineEnds`: reading a file keeps its lines. By induction on what is read, along its cases.
* `linesAfter_append_feed`: the lines before and after a line feed.
* `linesAfter_feeds`: line feeds at the end of a text add blank lines only.
* `linesAfter_terminated`: lines written with a line feed after each are found again.
-/
import BrowserScript.Text.Lines
import Mathlib.Data.List.Basic

namespace BrowserScript.Text

variable {c : Char} {cs : List Char}

/-! ## §1 One character -/

/-- One character is read, unless it is a carriage return with its line feed. -/
theorem linesAfter_cons {rest : List Char} (hsingle : c = '\r' → rest.head? ≠ some '\n') (line : List Char) :
    linesAfter line (c :: rest)
      = if isLineEnd c then line.reverse :: linesAfter [] rest else linesAfter (c :: line) rest := by
  conv_lhs => unfold linesAfter
  split
  · rename_i hnil
    cases hnil
  · rename_i tail hpair
    cases hpair
    exact absurd rfl (hsingle rfl)
  · rename_i hcons
    cases hcons
    rfl

theorem linesAfter_of_end (hc : isLineEnd c = true) (hreturn : c ≠ '\r') (line rest : List Char) :
    linesAfter line (c :: rest) = line.reverse :: linesAfter [] rest := by
  rw [linesAfter_cons (fun h => absurd h hreturn), if_pos hc]

theorem linesAfter_of_other (hc : isLineEnd c = false) (line rest : List Char) :
    linesAfter line (c :: rest) = linesAfter (c :: line) rest := by
  have hreturn : c ≠ '\r' := by
    rintro rfl
    cases hc
  rw [linesAfter_cons (fun h => absurd h hreturn), if_neg (by simp [hc])]

theorem linesAfter_feed_cons (line rest : List Char) :
    linesAfter line ('\n' :: rest) = line.reverse :: linesAfter [] rest :=
  linesAfter_of_end (by decide) (by decide) line rest

/-! ## §2 Reading a file -/

/-- A text has the lines of what is read of it. -/
theorem linesAfter_unifyLineEnds (line cs : List Char) :
    linesAfter line (unifyLineEnds cs) = linesAfter line cs := by
  induction cs using unifyLineEnds.induct generalizing line with
  | case1 => rfl
  | case2 rest ih =>
    rw [unifyLineEnds, linesAfter_feed_cons, ih]
    rfl
  | case3 c rest hpair ih =>
    rw [unifyLineEnds]
    · by_cases hreturn : c = '\r'
      · -- a carriage return alone ends a line, as does the line feed that is read for it
        subst hreturn
        have hsingle : rest.head? ≠ some '\n' := by
          rintro hhead
          obtain ⟨tail, rfl⟩ := List.head?_eq_some_iff.1 hhead
          exact hpair tail rfl rfl
        rw [linesAfter_cons (fun _ => hsingle), if_pos (by decide)]
        exact (linesAfter_feed_cons line _).trans (congrArg _ (ih []))
      · rw [if_neg (by simpa using hreturn)]
        cases hc : isLineEnd c with
        | true =>
          rw [linesAfter_of_end hc hreturn, linesAfter_of_end hc hreturn, ih]
        | false => rw [linesAfter_of_other hc, linesAfter_of_other hc, ih]
    · exact hpair

theorem lines_unifyLineEnds (s : String) : lines (String.ofList (unifyLineEnds s.toList)) = lines s := by
  rw [lines, lines, String.toList_ofList, linesAfter_unifyLineEnds]

theorem not_mem_unifyLineEnds (cs : List Char) : '\r' ∉ unifyLineEnds cs := by
  induction cs using unifyLineEnds.induct with
  | case1 => nofun
  | case2 rest ih =>
    rw [unifyLineEnds, List.mem_cons, not_or]
    exact ⟨by decide, ih⟩
  | case3 c rest hpair ih =>
    rw [unifyLineEnds, List.mem_cons, not_or]
    · refine ⟨?_, ih⟩
      split
      · decide
      · rename_i hreturn
        simpa using Ne.symm (ne_of_beq_false (by simpa using hreturn))
    · exact hpair

/-! ## §3 Texts without carriage returns -/

/-- What follows a line feed has lines of its own. -/
theorem linesAfter_append_feed (hcs : '\r' ∉ cs) (line rest : List Char) :
    linesAfter line (cs ++ '\n' :: rest) = linesAfter line (cs ++ ['\n']) ++ linesAfter [] rest := by
  induction cs generalizing line with
  | nil => exact (linesAfter_feed_cons line rest).trans (congrArg (· ++ _) (linesAfter_feed_cons line []).symm)
  | cons c cs ih =>
    obtain ⟨hreturn, hcs⟩ := List.ne_and_not_mem_of_not_mem_cons hcs
    rw [List.cons_append, List.cons_append]
    cases hc : isLineEnd c with
    | true =>
      rw [linesAfter_of_end hc hreturn.symm, linesAfter_of_end hc hreturn.symm, ih hcs, List.cons_append]
    | false => rw [linesAfter_of_other hc, linesAfter_of_other hc, ih hcs]

/-- A line feed at the end of a text ends the last line of it, or adds a blank one. -/
theorem linesAfter_feed (hcs : '\r' ∉ cs) (line : List Char) :
    ∃ n, linesAfter line (cs ++ ['\n']) = linesAfter line cs ++ List.replicate n [] := by
  induction cs generalizing line with
  | nil =>
    cases line with
    | nil => exact ⟨1, rfl⟩
    | cons c line => exact ⟨0, rfl⟩
  | cons c cs ih =>
    obtain ⟨hreturn, hcs⟩ := List.ne_and_not_mem_of_not_mem_cons hcs
    cases hc : isLineEnd c with
    | true =>
      obtain ⟨n, hn⟩ := ih hcs []
      refine ⟨n, ?_⟩
      rw [List.cons_append, linesAfter_of_end hc hreturn.symm, linesAfter_of_end hc hreturn.symm, hn,
        List.cons_append]
    | false =>
      obtain ⟨n, hn⟩ := ih hcs (c :: line)
      refine ⟨n, ?_⟩
      rw [List.cons_append, linesAfter_of_other hc, linesAfter_of_other hc, hn]

/-- Line feeds at the end of a text add blank lines at most. -/
theorem linesAfter_feeds (hcs : '\r' ∉ cs) (feeds : Nat) :
    ∃ n, linesAfter [] (cs ++ List.replicate feeds '\n') = linesAfter [] cs ++ List.replicate n [] := by
  induction feeds with
  | zero => exact ⟨0, by simp⟩
  | succ feeds ih =>
    obtain ⟨n, hn⟩ := ih
    have hfree : '\r' ∉ cs ++ List.replicate feeds '\n' := by simp [hcs]
    obtain ⟨m, hm⟩ := linesAfter_feed hfree []
    refine ⟨n + m, ?_⟩
    rw [List.replicate_succ', ← List.append_assoc, hm, hn, List.append_assoc, List.replicate_append_replicate]

theorem linesAfter_append_of_other (hcs : ∀ c ∈ cs, isLineEnd c = false) (line rest : List Char) :
    linesAfter line (cs ++ rest) = linesAfter (cs.reverse ++ line) rest := by
  induction cs generalizing line with
  | nil => rfl
  | cons c cs ih =>
    obtain ⟨hc, hcs⟩ := List.forall_mem_cons.1 hcs
    rw [List.cons_append, linesAfter_of_other hc, ih hcs, List.reverse_cons, List.append_assoc,
      List.singleton_append]

/-- Lines written with a line feed after each. -/
theorem linesAfter_terminated {parts : List String} (h : ∀ s ∈ parts, ∀ c ∈ s.toList, isLineEnd c = false) :
    linesAfter [] (parts.flatMap (fun s => s.toList ++ ['\n'])) = parts.map String.toList := by
  induction parts with
  | nil => rfl
  | cons s parts ih =>
    obtain ⟨hs, hparts⟩ := List.forall_mem_cons.1 h
    rw [List.flatMap_cons, List.append_assoc, linesAfter_append_of_other hs, List.singleton_append,
      linesAfter_feed_cons, ih hparts, List.append_nil, List.reverse_reverse, List.map_cons]

end BrowserScript.Text
