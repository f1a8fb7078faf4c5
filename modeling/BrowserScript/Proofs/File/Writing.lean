/-
BrowserScript.Proofs.File.Writing — what stands in files after others were written.

Following a path goes through directories only, and neither a new directory nor a written file takes one away.
So what a path led to it leads to still, unless the file it led to is the one that was written.

* `follow_kept`: a path is followed as before where directories remain.
* `find_grown`: making directories changes nothing that a path led to.

* `Plain`: absolute paths without double dots. They lead to the names that they have, so two of them with
  different names never lead to one file (`find_write_other`).

Main statement: `find_write`. The path of a written file leads to what was written, and every other path that
led to a file leads to the same, or to the file that was written.
-/
import BrowserScript.Proofs.File.Growth

namespace BrowserScript.File

namespace Disk

variable {d d' : Disk} {p : Path}

/-- What a path leads to stands at the name that it leads to. -/
theorem at?_of_follow {place names q : List String} {e : Entry} (h : d.follow place names = .ok (q, e)) :
    d.at? q = some e := by
  induction names generalizing place with
  | nil =>
    unfold follow at h
    split at h
    · rename_i hplace
      cases h
      exact hplace
    · cases h
  | cons n rest ih =>
    unfold follow at h
    split at h
    · cases h
    · cases h
    · split at h
      · cases h
      · split at h
        · exact ih h
        · exact ih h

/-- A path is followed as before where directories remain, to whatever stands there now. -/
theorem follow_kept (hdirs : ∀ {names}, d.at? names = some .dir → d'.at? names = some .dir)
    {place names q : List String} {e e' : Entry} (h : d.follow place names = .ok (q, e))
    (he : d'.at? q = some e') : d'.follow place names = .ok (q, e') := by
  induction names generalizing place with
  | nil =>
    unfold follow at h ⊢
    split at h
    · cases h
      simp only [he]
    · cases h
  | cons n rest ih =>
    unfold follow at h ⊢
    split at h
    · cases h
    · cases h
    · rename_i hplace
      rw [hdirs hplace]
      dsimp only
      split at h
      · cases h
      · rename_i hshort
        rw [if_neg hshort]
        split at h
        · rename_i hup
          rw [if_pos hup]
          exact ih h
        · rename_i hdown
          rw [if_neg hdown]
          exact ih h

theorem find_kept (hdirs : ∀ {names}, d.at? names = some .dir → d'.at? names = some .dir)
    (hcurrent : d'.current = d.current) {q : List String} {e e' : Entry} (h : d.find p = .ok (q, e))
    (he : d'.at? q = some e') : d'.find p = .ok (q, e') := by
  have habsolute : d'.absolute p = d.absolute p := by unfold absolute; rw [hcurrent]
  unfold find at h ⊢
  rw [habsolute]
  split at h
  · cases h
  · rename_i hshort
    rw [if_neg hshort]
    exact follow_kept hdirs h he

theorem at?_of_find {q : List String} {e : Entry} (h : d.find p = .ok (q, e)) : d.at? q = some e := by
  unfold find at h
  split at h
  · cases h
  · exact at?_of_follow h

/-- Making directories changes nothing that a path led to. -/
theorem find_grown (hg : Grown d d') {q : List String} {e : Entry} (h : d.find p = .ok (q, e)) :
    d'.find p = .ok (q, e) :=
  find_kept hg.kept hg.current h (hg.kept (at?_of_find h))

/-- The place of a path stands in an existing directory, under a name that is not too long. -/
theorem place_eq_ok {place : List String} {last : String} (h : d.place p = .ok (place, some last)) :
    isTooLong p = false ∧ (∃ above, (d.absolute p).names = above ++ [last] ∧
      d.follow [] above = .ok (place, .dir)) ∧ last ≠ ".." ∧ ¬ nameLimit < last.utf8ByteSize := by
  unfold Disk.place at h
  dsimp only at h
  split at h
  · cases h
  · rename_i hshort
    cases hlast : (d.absolute p).names.getLast? with
    | none =>
      rw [hlast] at h
      cases h
    | some n =>
      rw [hlast] at h
      dsimp only at h
      split at h
      · cases h
      · cases h
      · rename_i found habove
        split at h
        · cases h
        · rename_i hdots
          split at h
          · cases h
          · rename_i hlimit
            cases h
            obtain ⟨above, hnames⟩ := List.getLast?_eq_some_iff.1 hlast
            rw [hnames, List.dropLast_concat] at habove
            exact ⟨by simpa using hshort, ⟨above, hnames, habove⟩, by simpa using hdots, hlimit⟩

/-- The place of a path, when it can be written: its directory is there, and its last name is not that of a
directory. -/
theorem write_eq_ok {text : String} (h : d.write p text = .ok d') :
    ∃ place last, d.place p = .ok (place, some last) ∧ d.at? (place ++ [last]) ≠ some .dir ∧
      d' = d.put (place ++ [last]) (.file (.text text)) := by
  unfold write at h
  split at h
  · cases h
  · cases h
  · rename_i place last hplace
    split at h
    · cases h
    · rename_i hfile
      cases h
      exact ⟨place, last, hplace, hfile, rfl⟩

/-- The path of a written file leads to what was written. A path that led to a file leads to it still, or it
leads to the written one. -/
theorem find_write {text : String} (h : d.write p text = .ok d') :
    (∃ q, d'.find p = .ok (q, .file (.text text))) ∧
      ∀ {p' q' content}, d.find p' = .ok (q', .file content) →
        d'.find p' = .ok (q', .file content) ∨ d'.find p' = d'.find p := by
  obtain ⟨place, last, hplace, hfile, rfl⟩ := write_eq_ok h
  have hne : place ++ [last] ≠ [] := by simp
  have hdirs : ∀ {names}, d.at? names = some .dir →
      (d.put (place ++ [last]) (.file (.text text))).at? names = some .dir := by
    intro names hnames
    rw [at?_put d hne, if_neg, hnames]
    rintro rfl
    exact hfile hnames
  have hcurrent := put_current d (place ++ [last]) (.file (.text text))
  have hthere : (d.put (place ++ [last]) (.file (.text text))).at? (place ++ [last])
      = some (.file (.text text)) := by
    rw [at?_put d hne, if_pos rfl]
  have hself : (d.put (place ++ [last]) (.file (.text text))).find p
      = .ok (place ++ [last], .file (.text text)) := by
    obtain ⟨hshort, ⟨above, hnames, habove⟩, hdots, hlimit⟩ := place_eq_ok hplace
    have habsolute : ((d.put (place ++ [last]) (.file (.text text))).absolute p).names = above ++ [last] := by
      rw [← hnames]
      unfold absolute
      rw [hcurrent]
    have hkept := follow_kept hdirs habove (hdirs (at?_of_follow habove))
    unfold find
    rw [hshort, habsolute, follow_concat, hkept]
    simp only [Bool.false_eq_true, if_false, if_neg hlimit, beq_iff_eq, hdots, follow, hthere]
  refine ⟨⟨_, hself⟩, ?_⟩
  intro p' q' content hfound
  by_cases hq : q' = place ++ [last]
  · subst hq
    exact .inr ((find_kept hdirs hcurrent hfound hthere).trans hself.symm)
  · refine .inl (find_kept hdirs hcurrent hfound ?_)
    rw [at?_put d hne, if_neg hq]
    exact at?_of_find hfound

theorem write_current {text : String} (h : d.write p text = .ok d') : d'.current = d.current := by
  obtain ⟨place, last, -, -, rfl⟩ := write_eq_ok h
  exact put_current d _ _

end Disk

/-! ## Plain paths -/

/-- An absolute path without double dots. -/
structure Path.Plain (p : Path) : Prop where
  absolute : p.isAbsolute = true
  noDots : ".." ∉ p.names

namespace Path

theorem Plain.child {p : Path} (h : p.Plain) {name : String} (hname : name ≠ "..") : (p.child name).Plain where
  absolute := h.absolute
  noDots := by
    rw [Path.child, List.mem_append, List.mem_singleton, not_or]
    exact ⟨h.noDots, hname.symm⟩

theorem dots_not_mem_foldDots {kept : List String} (hkept : ".." ∉ kept) (names : List String) :
    ".." ∉ foldDots kept names := by
  induction names generalizing kept with
  | nil => rwa [foldDots, List.mem_reverse]
  | cons n rest ih =>
    rw [foldDots]
    split
    · exact ih (fun h => hkept (List.mem_of_mem_tail h))
    · rename_i hn
      exact ih (List.not_mem_cons_of_ne_of_not_mem (fun h => hn (by simp [h])) hkept)

theorem plain_lexical {p : Path} (h : p.isAbsolute = true) : p.lexical.Plain where
  absolute := h
  noDots := dots_not_mem_foldDots List.not_mem_nil _

end Path

namespace Disk

variable {d d' : Disk} {p p' : Path}

theorem isAbsolute_absolute (d : Disk) (p : Path) : (d.absolute p).isAbsolute = true := by
  unfold absolute Path.join
  split
  · assumption
  · rfl

theorem absolute_of_isAbsolute (d : Disk) (h : p.isAbsolute = true) : d.absolute p = p := by
  rw [absolute, Path.join, if_pos h]

theorem follow_names {place names q : List String} {e : Entry} (hdots : ".." ∉ names)
    (h : d.follow place names = .ok (q, e)) : q = place ++ names := by
  induction names generalizing place with
  | nil =>
    unfold follow at h
    split at h
    · cases h
      exact (List.append_nil _).symm
    · cases h
  | cons n rest ih =>
    rw [List.mem_cons, not_or] at hdots
    unfold follow at h
    split at h
    · cases h
    · cases h
    · split at h
      · cases h
      · rw [if_neg (by simpa using Ne.symm hdots.1)] at h
        rw [ih hdots.2 h, List.append_assoc, List.singleton_append]

/-- A plain path leads to the names that it has. -/
theorem find_names (hp : p.Plain) {q : List String} {e : Entry} (h : d.find p = .ok (q, e)) : q = p.names := by
  unfold find at h
  rw [absolute_of_isAbsolute d hp.absolute] at h
  split at h
  · cases h
  · exact follow_names hp.noDots h

/-- Writing under other names changes nothing that a plain path led to. -/
theorem find_write_other (hp : p.Plain) (hp' : p'.Plain) (hne : p.names ≠ p'.names) {text : String}
    (h : d.write p text = .ok d') {q : List String} {content : Content} (hfind : d.find p' = .ok (q, .file content)) :
    d'.find p' = .ok (q, .file content) := by
  obtain ⟨⟨q₁, hwritten⟩, hother⟩ := find_write h
  rcases hother hfind with hsame | hone
  · exact hsame
  · rw [hwritten] at hone
    exact absurd ((find_names hp hwritten).symm.trans (find_names hp' hone)) hne

end Disk
end BrowserScript.File
