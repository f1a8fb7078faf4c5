/-
BrowserScript.Proofs.File.Growth — a run only adds directories.

The only change to a disk that an instruction can ask for is a directory where nothing stood. So what a path
led to it leads to from then on, and a path that led nowhere can come to lead to a directory, but to no file.
The last needs that every name stands in a directory (`Disk.Rooted`): else a new directory could be what a
file was waiting for. It also needs a path without double dots: a path that goes through a directory which is
not there yet, and up again, leads to whatever it likes once the directory is made.

* `Disk.Grown`: directories were added. `makeDirs_grown`: making directories adds directories.
* `Leads`: what a path may come to lead to.

Main statement: `leads_find`.
-/
import BrowserScript.Proofs.File.SameNames

namespace BrowserScript.File.Disk

/-! ## §1 Growth -/

/-- Directories were added where nothing stood. -/
structure Grown (d d' : Disk) : Prop where
  current : d'.current = d.current
  environment : d'.environment = d.environment
  kept : ∀ {names : List String} {e : Entry}, d.at? names = some e → d'.at? names = some e
  added : ∀ {names : List String}, d.at? names = none → d'.at? names = none ∨ d'.at? names = some .dir

namespace Grown

variable {d d' d'' : Disk}

theorem refl (d : Disk) : Grown d d where
  current := rfl
  environment := rfl
  kept := id
  added := .inl

theorem trans (h : Grown d d') (h' : Grown d' d'') : Grown d d'' where
  current := h'.current.trans h.current
  environment := h'.environment.trans h.environment
  kept := fun hnames => h'.kept (h.kept hnames)
  added := by
    intro names hnames
    rcases h.added hnames with hnone | hdir
    · exact h'.added hnone
    · exact .inr (h'.kept hdir)

theorem put_dir {names : List String} (hne : names ≠ []) (hnew : d.at? names = none) :
    Grown d (d.put names .dir) where
  current := put_current d names .dir
  environment := put_environment d names .dir
  kept := by
    intro ns e hns
    rw [at?_put d hne, if_neg, hns]
    rintro rfl
    cases hnew.symm.trans hns
  added := by
    intro ns hns
    rw [at?_put d hne]
    split
    · exact .inr rfl
    · exact .inl hns

end Grown

theorem makeDir_grown {d d' : Disk} {p : Path} (h : d.makeDir p = .ok d') : Grown d d' := by
  unfold makeDir at h
  split at h
  · cases h
  · cases h
  · split at h
    · cases h
    · rename_i hnew
      cases h
      exact .put_dir (List.append_ne_nil_of_right_ne_nil _ (List.cons_ne_nil _ _))
        (by simpa using hnew)

theorem ensureDir_grown {d d' : Disk} {p : Path} (h : d.ensureDir p = .ok d') : Grown d d' := by
  unfold ensureDir at h
  split at h
  · rename_i hmade
    cases h
    exact makeDir_grown hmade
  · split at h
    · cases h
      exact .refl d
    · cases h

theorem makeDirsFrom_grown {fuel : Nat} {d d' : Disk} {p : Path}
    (h : d.makeDirsFrom fuel p = .ok d') : Grown d d' := by
  induction fuel generalizing p d' with
  | zero => exact ensureDir_grown h
  | succ fuel ih =>
    unfold makeDirsFrom at h
    split at h
    · rename_i hmade
      cases h
      exact makeDir_grown hmade
    · split at h
      · cases h
      · split at h
        · rename_i habove
          exact (ih habove).trans (ensureDir_grown h)
        · cases h
    · split at h
      · cases h
        exact .refl d
      · cases h

/-- Making directories adds directories. -/
theorem makeDirs_grown {d d' : Disk} {p : Path} (h : d.makeDirs p = .ok d') : Grown d d' :=
  makeDirsFrom_grown h

/-! ## §2 Paths -/

/-- Everything stands in a directory, and so does the program. -/
structure Rooted (d : Disk) : Prop where
  parent : ∀ {names : List String} {n : String}, (d.at? (names ++ [n])).isSome = true →
    d.at? names = some .dir
  here : d.at? d.current = some .dir

theorem Rooted.of_sameNames {d e : Disk} (h : Rooted d) (hnames : d.SameNames e) : Rooted e where
  parent := by
    intro names n hn
    rw [← hnames.isSome_eq] at hn
    exact (hnames.kinds names).eq_dir (h.parent hn)
  here := by
    rw [← hnames.current]
    exact (hnames.kinds d.current).eq_dir h.here

/-- What a path may come to lead to: the same as before, or what it led to nowhere, a directory; or else one
of its names turns out to be too long. -/
inductive Leads : Except OsReason (List String × Entry) → Except OsReason (List String × Entry) → Prop
  | same (found : Except OsReason (List String × Entry)) : Leads found found
  | dir (place : List String) : Leads (.error .missing) (.ok (place, .dir))
  | long : Leads (.error .missing) (.error .nameTooLong)

variable {d d' : Disk}

/-- Below nothing there is nothing. -/
theorem Rooted.nothing_below (h : Rooted d) {place : List String} (hplace : d.at? place = none)
    (rest : List String) : d.at? (place ++ rest) = none := by
  induction rest generalizing place with
  | nil => rwa [List.append_nil]
  | cons n rest ih =>
    have hnext : d.at? (place ++ [n]) = none := by
      cases hn : d.at? (place ++ [n]) with
      | none => rfl
      | some e =>
        have hparent := h.parent (by rw [hn]; rfl)
        cases hplace.symm.trans hparent
    have hbelow := ih hnext
    rwa [List.append_assoc, List.singleton_append] at hbelow

/-- A path into nothing can come to lead to a directory only. -/
theorem leads_from_nothing (hg : Grown d d') (hr : Rooted d) {place rest : List String}
    (hplace : d.at? place = none) (hdots : ".." ∉ rest) :
    Leads (.error .missing) (d'.follow place rest) := by
  induction rest generalizing place with
  | nil =>
    unfold follow
    rcases hg.added hplace with hnone | hdir
    · rw [hnone]
      exact .same _
    · rw [hdir]
      exact .dir place
  | cons n rest ih =>
    rw [List.mem_cons, not_or] at hdots
    have hnext : d.at? (place ++ [n]) = none := hr.nothing_below hplace [n]
    unfold follow
    rcases hg.added hplace with hnone | hdir
    · rw [hnone]
      exact .same _
    · rw [hdir]
      dsimp only
      split
      · exact .long
      · rw [if_neg (by simpa using Ne.symm hdots.1)]
        exact ih hnext hdots.2

theorem follow_of_nothing {place : List String} (hplace : d.at? place = none) (rest : List String) :
    d.follow place rest = .error .missing := by
  cases rest <;> simp only [follow, hplace]

theorem leads_follow (hg : Grown d d') (hr : Rooted d) (place : List String) {rest : List String}
    (hdots : ".." ∉ rest) : Leads (d.follow place rest) (d'.follow place rest) := by
  induction rest generalizing place with
  | nil =>
    cases hplace : d.at? place with
    | none =>
      rw [follow_of_nothing hplace]
      exact leads_from_nothing hg hr hplace hdots
    | some e =>
      simp only [follow, hplace, hg.kept hplace]
      exact .same _
  | cons n rest ih =>
    cases hplace : d.at? place with
    | none =>
      rw [follow_of_nothing hplace]
      exact leads_from_nothing hg hr hplace hdots
    | some e =>
      rw [List.mem_cons, not_or] at hdots
      simp only [follow, hplace, hg.kept hplace]
      cases e with
      | file content => exact .same _
      | dir =>
        dsimp only
        split
        · exact .same _
        · rw [if_neg (by simpa using Ne.symm hdots.1), if_neg (by simpa using Ne.symm hdots.1)]
          exact ih _ hdots.2

theorem Grown.absolute_eq (h : Grown d d') (p : Path) : d'.absolute p = d.absolute p := by
  unfold absolute
  rw [h.current]

/-- What a path leads to after directories were added. -/
theorem leads_find (hg : Grown d d') (hr : Rooted d) {p : Path} (hdots : ".." ∉ (d.absolute p).names) :
    Leads (d.find p) (d'.find p) := by
  unfold find
  rw [hg.absolute_eq]
  split
  · exact .same _
  · exact leads_follow hg hr [] hdots

/-! ## §3 Files next to the program -/

/-- A place that exists is reached, unless a name on the way is too long. -/
theorem follow_ne_missing (hr : Rooted d) {place rest : List String} (hdots : ".." ∉ rest)
    (hthere : (d.at? (place ++ rest)).isSome = true) : d.follow place rest ≠ .error .missing := by
  induction rest generalizing place with
  | nil =>
    rw [List.append_nil] at hthere
    unfold follow
    intro hmissing
    split at hmissing
    · cases hmissing
    · rename_i hnone
      rw [hnone] at hthere
      cases hthere
  | cons n rest ih =>
    have hplace : (d.at? place).isSome = true := by
      cases hnone : d.at? place with
      | some e => rfl
      | none =>
        rw [hr.nothing_below hnone] at hthere
        cases hthere
    rw [List.mem_cons, not_or] at hdots
    unfold follow
    intro hmissing
    split at hmissing
    · rename_i hnone
      rw [hnone] at hplace
      cases hplace
    · cases hmissing
    · split at hmissing
      · cases hmissing
      · rw [if_neg (by simpa using Ne.symm hdots.1)] at hmissing
        refine ih hdots.2 ?_ hmissing
        rwa [List.append_assoc, List.singleton_append]

theorem follow_concat (d : Disk) (place names : List String) (n : String) :
    d.follow place (names ++ [n]) = match d.follow place names with
      | .error reason => .error reason
      | .ok (_, .file _) => .error .notDirectory
      | .ok (last, .dir) =>
        if nameLimit < n.utf8ByteSize then .error .nameTooLong
        else if n == ".." then d.follow last.dropLast [] else d.follow (last ++ [n]) [] := by
  induction names generalizing place with
  | nil =>
    rw [List.nil_append, follow, follow]
    cases d.at? place with
    | none => rfl
    | some e => cases e <;> rfl
  | cons x names ih =>
    rw [List.cons_append, follow, follow]
    cases d.at? place with
    | none => rfl
    | some e =>
      cases e with
      | file content => rfl
      | dir =>
        dsimp only
        split
        · rfl
        · split
          · exact ih _
          · exact ih _

/-- A short name in the directory of the program never turns out to be too long. -/
theorem find_beside_ne_tooLong (hg : Grown d d') (hr : Rooted d) (hdots : ".." ∉ d.current)
    {name : String} (hlength : name.utf8ByteSize ≤ nameLimit) (hname : name ≠ "..")
    (hmissing : d.find ⟨"", [name]⟩ = .error .missing) :
    d'.find ⟨"", [name]⟩ ≠ .error .nameTooLong := by
  have hnames : (d.absolute ⟨"", [name]⟩).names = d.current ++ [name] := rfl
  have hreached : d.follow [] d.current ≠ .error .missing :=
    follow_ne_missing hr hdots (by rw [List.nil_append, hr.here]; rfl)
  have hsame : d'.follow [] d.current = d.follow [] d.current := by
    have hleads := leads_follow hg hr [] hdots
    generalize d.follow [] d.current = found, d'.follow [] d.current = found' at hleads hreached ⊢
    cases hleads with
    | same => rfl
    | dir place => exact absurd rfl hreached
    | long => exact absurd rfl hreached
  unfold find at hmissing ⊢
  rw [hnames, follow_concat] at hmissing
  rw [hg.absolute_eq, hnames, follow_concat, hsame]
  split at hmissing
  · cases hmissing
  · rename_i hshort
    rw [if_neg hshort]
    generalize d.follow [] d.current = found at hmissing hreached ⊢
    rcases found with reason | ⟨last, _ | content⟩
    · exact absurd hmissing hreached
    · dsimp only
      rw [if_neg (Nat.not_lt.2 hlength), if_neg (by simpa using hname), follow]
      cases d'.at? (last ++ [name]) <;> nofun
    · nofun

end BrowserScript.File.Disk
