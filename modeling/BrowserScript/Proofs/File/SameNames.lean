/-
BrowserScript.Proofs.File.SameNames — disks that differ in what their files hold.

Two disks agree on names when the program stands in the same directory of both, with the same home, and the
same names stand for directories and for files. The files may hold anything, and so may the environment
variables apart from the home.

* Every path leads to the same place on both (`SameNames.find`), so questions about paths are answered
  alike: `SameNames.isFile_eq`, `SameNames.isDir_eq`.
* `SameNames.makeDirs`: directories are made on both, and then the disks agree again, or they are refused on
  both for the same reason. Each operation on the way has a lemma of its own, from `put` upwards.
-/
import BrowserScript.File.Disk

namespace BrowserScript

/-- Both have a result and the results are related, or both fail for the same reason. -/
inductive Both {ε α β : Type} (R : α → β → Prop) : Except ε α → Except ε β → Prop
  | ok {a : α} {b : β} (h : R a b) : Both R (.ok a) (.ok b)
  | error (e : ε) : Both R (.error e) (.error e)

namespace Both

variable {ε α β : Type} {R : α → β → Prop} {x : Except ε α} {y : Except ε β}

theorem eq {x y : Except ε α} (h : Both Eq x y) : x = y := by
  cases h with
  | ok h => rw [h]
  | error e => rfl

theorem error_left {e : ε} (h : Both R (.error e) y) : y = .error e := by
  cases h
  rfl

theorem error_right {e : ε} (h : Both R x (.error e)) : x = .error e := by
  cases h
  rfl

end Both

namespace File.Disk

/-! ## §1 Putting something down -/

/-- The first entry of a name. -/
def entryOf (entries : List (List String × Entry)) (ns : List String) : Option Entry :=
  (entries.find? (·.1 == ns)).map (·.2)

theorem entryOf_cons (x : List String × Entry) (rest : List (List String × Entry)) (ns : List String) :
    entryOf (x :: rest) ns = if x.1 = ns then some x.2 else entryOf rest ns := by
  unfold entryOf
  by_cases hx : x.1 = ns
  · simp [hx]
  · simp [hx]

/-- The list with the entries of a name replaced. -/
def replaced (entries : List (List String × Entry)) (names : List String) (e : Entry) :
    List (List String × Entry) :=
  entries.map (fun x => if x.1 == names then (names, e) else x)

theorem replaced_cons (x : List String × Entry) (rest : List (List String × Entry))
    (names : List String) (e : Entry) :
    replaced (x :: rest) names e
      = (if x.1 == names then (names, e) else x) :: replaced rest names e := rfl

theorem entryOf_replaced_of_ne {names ns : List String} (h : ns ≠ names)
    (entries : List (List String × Entry)) (e : Entry) :
    entryOf (replaced entries names e) ns = entryOf entries ns := by
  induction entries with
  | nil => rfl
  | cons x rest ih =>
    rw [replaced_cons]
    split
    · rename_i hx
      have hxns : x.1 ≠ ns := fun hns => h (hns.symm.trans (by simpa using hx))
      rw [entryOf_cons, entryOf_cons, if_neg (Ne.symm h), if_neg hxns, ih]
    · rw [entryOf_cons, entryOf_cons, ih]

theorem entryOf_replaced_self {names : List String} {entries : List (List String × Entry)}
    (h : entries.any (·.1 == names) = true) (e : Entry) :
    entryOf (replaced entries names e) names = some e := by
  induction entries with
  | nil => cases h
  | cons x rest ih =>
    rw [replaced_cons]
    split
    · rw [entryOf_cons, if_pos rfl]
    · rename_i hx
      have hx : x.1 ≠ names := by simpa using hx
      have hrest : rest.any (·.1 == names) = true := by simpa [hx] using h
      rw [entryOf_cons, if_neg hx, ih hrest]

theorem entryOf_append {names : List String} {entries : List (List String × Entry)}
    (h : entries.any (·.1 == names) = false) (e : Entry) (ns : List String) :
    entryOf (entries ++ [(names, e)]) ns = if ns = names then some e else entryOf entries ns := by
  induction entries with
  | nil =>
    show entryOf [(names, e)] ns = _
    rw [entryOf_cons]
    simp only [eq_comm]
  | cons x rest ih =>
    rw [List.any_cons, Bool.or_eq_false_iff, beq_eq_false_iff_ne] at h
    rw [List.cons_append, entryOf_cons, entryOf_cons, ih h.2]
    by_cases hx : x.1 = ns
    · have hns : ns ≠ names := fun hns => h.1 (hx.trans hns)
      rw [if_pos hx, if_neg hns, if_pos hx]
    · rw [if_neg hx, if_neg hx]

/-- What stands at a name after something was put there. -/
theorem at?_put (d : Disk) {names : List String} (hne : names ≠ []) (e : Entry) (ns : List String) :
    (d.put names e).at? ns = if ns = names then some e else d.at? ns := by
  have hentries : entryOf (d.put names e).entries ns
      = if ns = names then some e else entryOf d.entries ns := by
    unfold put
    split
    · rename_i hthere
      by_cases hns : ns = names
      · rw [if_pos hns, hns]
        exact entryOf_replaced_self hthere e
      · rw [if_neg hns]
        exact entryOf_replaced_of_ne hns d.entries e
    · rename_i hnew
      exact entryOf_append (Bool.eq_false_iff.2 hnew) e ns
  unfold at?
  by_cases hempty : ns.isEmpty = true
  · have hns : ns ≠ names := by
      rintro rfl
      exact hne (List.isEmpty_iff.1 hempty)
    rw [if_pos hempty, if_neg hns, if_pos hempty]
  · rw [if_neg hempty, if_neg hempty]
    exact hentries

theorem put_current (d : Disk) (names : List String) (e : Entry) :
    (d.put names e).current = d.current := by
  unfold put
  split <;> rfl

theorem put_environment (d : Disk) (names : List String) (e : Entry) :
    (d.put names e).environment = d.environment := by
  unfold put
  split <;> rfl

theorem put_home (d : Disk) (names : List String) (e : Entry) : (d.put names e).home = d.home := by
  unfold home environmentValue
  rw [put_environment]

/-! ## §2 The same names -/

/-- Nothing, a directory or a file at both places. -/
inductive SameKind : Option Entry → Option Entry → Prop
  | nothing : SameKind none none
  | dir : SameKind (some .dir) (some .dir)
  | file (c c' : Content) : SameKind (some (.file c)) (some (.file c'))

theorem SameKind.refl (there : Option Entry) : SameKind there there := by
  cases there with
  | none => exact .nothing
  | some e =>
    cases e with
    | dir => exact .dir
    | file c => exact .file c c

theorem SameKind.eq_dir {there there' : Option Entry} (h : SameKind there there')
    (hdir : there = some .dir) : there' = some .dir := by
  cases h with
  | dir => rfl
  | _ => cases hdir

/-- The same names on two disks, seen from the same directory and with the same home. -/
structure SameNames (d e : Disk) : Prop where
  current : d.current = e.current
  home : d.home = e.home
  kinds : ∀ names, SameKind (d.at? names) (e.at? names)

/-- A directory or a file at the same place. -/
inductive SamePlace : List String × Entry → List String × Entry → Prop
  | dir (place : List String) : SamePlace (place, .dir) (place, .dir)
  | file (place : List String) (c c' : Content) : SamePlace (place, .file c) (place, .file c')

namespace SameNames

variable {d e : Disk}

theorem follow (h : SameNames d e) (place names : List String) :
    Both SamePlace (d.follow place names) (e.follow place names) := by
  induction names generalizing place with
  | nil =>
    have hkind := h.kinds place
    unfold Disk.follow
    generalize d.at? place = there, e.at? place = there' at hkind ⊢
    cases hkind with
    | nothing => exact .error _
    | dir => exact .ok (.dir place)
    | file c c' => exact .ok (.file place c c')
  | cons n rest ih =>
    have hkind := h.kinds place
    unfold Disk.follow
    generalize d.at? place = there, e.at? place = there' at hkind ⊢
    cases hkind with
    | nothing => exact .error _
    | dir =>
      dsimp only
      split
      · exact .error _
      · split
        · exact ih _
        · exact ih _
    | file c c' => exact .error _

theorem absolute_eq (h : SameNames d e) (p : Path) : d.absolute p = e.absolute p := by
  unfold Disk.absolute
  rw [h.current]

theorem find (h : SameNames d e) (p : Path) : Both SamePlace (d.find p) (e.find p) := by
  unfold Disk.find
  rw [h.absolute_eq]
  split
  · exact .error _
  · exact h.follow _ _

theorem isFile_eq (h : SameNames d e) (p : Path) : d.isFile p = e.isFile p := by
  have hfind := h.find p
  unfold Disk.isFile
  generalize d.find p = found, e.find p = found' at hfind ⊢
  cases hfind with
  | error reason => rfl
  | ok hplace => cases hplace <;> rfl

theorem isDir_eq (h : SameNames d e) (p : Path) : d.isDir p = e.isDir p := by
  have hfind := h.find p
  unfold Disk.isDir
  generalize d.find p = found, e.find p = found' at hfind ⊢
  cases hfind with
  | error reason => rfl
  | ok hplace => cases hplace <;> rfl

/-! ## §3 Making directories -/

theorem place_eq (h : SameNames d e) (p : Path) : d.place p = e.place p := by
  unfold Disk.place
  rw [h.absolute_eq]
  dsimp only
  split
  · rfl
  · split
    · rfl
    · have hfollow := h.follow [] (e.absolute p).names.dropLast
      generalize d.follow [] (e.absolute p).names.dropLast = found,
        e.follow [] (e.absolute p).names.dropLast = found' at hfollow ⊢
      cases hfollow with
      | error reason => rfl
      | ok hplace => cases hplace <;> rfl

theorem isSome_eq (h : SameNames d e) (names : List String) :
    (d.at? names).isSome = (e.at? names).isSome := by
  have hkind := h.kinds names
  generalize d.at? names = there, e.at? names = there' at hkind ⊢
  cases hkind <;> rfl

theorem put_dir (h : SameNames d e) {names : List String} (hne : names ≠ []) :
    SameNames (d.put names .dir) (e.put names .dir) where
  current := by rw [put_current, put_current, h.current]
  home := by rw [put_home, put_home, h.home]
  kinds := by
    intro ns
    rw [at?_put d hne, at?_put e hne]
    split
    · exact .dir
    · exact h.kinds ns

theorem makeDir (h : SameNames d e) (p : Path) : Both SameNames (d.makeDir p) (e.makeDir p) := by
  unfold Disk.makeDir
  rw [h.place_eq]
  split
  · exact .error _
  · exact .error _
  · rw [h.isSome_eq]
    split
    · exact .error _
    · exact .ok (h.put_dir (List.append_ne_nil_of_right_ne_nil _ (List.cons_ne_nil _ _)))

theorem ensureDir (h : SameNames d e) (p : Path) : Both SameNames (d.ensureDir p) (e.ensureDir p) := by
  have hmake := h.makeDir p
  unfold Disk.ensureDir
  generalize d.makeDir p = made, e.makeDir p = made' at hmake ⊢
  cases hmake with
  | ok hmade => exact .ok hmade
  | error reason =>
    dsimp only
    rw [h.isDir_eq]
    split
    · exact .ok h
    · exact .error _

theorem makeDirsFrom (h : SameNames d e) (fuel : Nat) (p : Path) :
    Both SameNames (d.makeDirsFrom fuel p) (e.makeDirsFrom fuel p) := by
  induction fuel generalizing p with
  | zero => exact h.ensureDir p
  | succ fuel ih =>
    have hmake := h.makeDir p
    have habove := ih p.parent
    unfold Disk.makeDirsFrom
    generalize d.makeDir p = made, e.makeDir p = made' at hmake ⊢
    cases hmake with
    | ok hmade => exact .ok hmade
    | error reason =>
      rw [h.isDir_eq]
      cases reason with
      | missing =>
        dsimp only
        split
        · exact .error _
        · generalize d.makeDirsFrom fuel p.parent = above, e.makeDirsFrom fuel p.parent = above'
            at habove ⊢
          cases habove with
          | error fault => exact .error _
          | ok habove => exact habove.ensureDir p
      | _ =>
        dsimp only
        split
        · exact .ok h
        · exact .error _

/-- Directories are made on both disks or on none. -/
theorem makeDirs (h : SameNames d e) (p : Path) : Both SameNames (d.makeDirs p) (e.makeDirs p) :=
  h.makeDirsFrom _ p

end SameNames
end File.Disk
end BrowserScript
