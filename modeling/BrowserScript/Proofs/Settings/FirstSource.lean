/-
BrowserScript.Proofs.Settings.FirstSource — the first place that has a secret.

A secret has four places: the environment, the file `.env`, the secrets of the configuration, and the
configuration file of the project. Each of them may be missing, empty or unusable; none of that hides the
places behind it.

* `LineGives`, `EnvTextGives`: the value that a line, and a text of lines, gives to a name.
* `Shows`: what can be read at a path, if anything.
* `EnvFileGives`, `ConfigHolds`: what the two files say.
* `secretValue_first`, `firstSecret_append`: a reference as a walk through the places in front of the configuration
  file.
* `Burdened`: a secret of the configuration file that cannot be written as a text.

Main statement: `resolveSecret_first_iff`.
-/
import BrowserScript.Proofs.Settings.ConfigSecrets
import BrowserScript.Proofs.Text.Searching
import BrowserScript.Proofs.Text.Words

namespace BrowserScript

open File

/-! ## §1 Environment files -/

/-- A line gives a name a value: it is no comment, and the name is what stands before its first equals sign,
without blanks. -/
inductive LineGives (name line : List Char) : List Char → Prop
  | intro {key rest : List Char} (hline : Text.trimChars line = key ++ '=' :: rest) (hkey : '=' ∉ key)
      (hcomment : (Text.trimChars line).head? ≠ some '#') (hname : Text.trimChars key = name) :
      LineGives name line (stripQuotes (Text.trimChars rest))

theorem lineValue_iff {name line v : List Char} : lineValue name line = some v ↔ LineGives name line v := by
  unfold lineValue
  dsimp only
  constructor
  · intro h
    split at h
    next => cases h
    next hcomment =>
      split at h
      next => cases h
      next key rest hcut =>
        split at h
        next hname =>
          cases h
          obtain ⟨hline, hkey⟩ := Text.splitAt?_eq_some_iff.mp hcut
          exact ⟨hline, hkey, by simpa using hcomment, by simpa using hname⟩
        next => cases h
  · rintro ⟨hline, hkey, hcomment, hname⟩
    have hcut := Text.splitAt?_eq_some_iff.mpr ⟨hline, hkey⟩
    simp only [beq_iff_eq, hcomment, if_false, hcut, hname, if_true]

/-- The value that a text gives to a name: that of the first line which gives it one. -/
inductive EnvTextGives (name text : String) : Option String → Prop
  | missing (h : ∀ line ∈ Text.linesKeeping text.toList, ∀ v, ¬ LineGives name.toList line v) :
      EnvTextGives name text none
  | found {front back : List (List Char)} {line v : List Char}
      (hlines : Text.linesKeeping text.toList = front ++ line :: back)
      (hfront : ∀ earlier ∈ front, ∀ w, ¬ LineGives name.toList earlier w)
      (hline : LineGives name.toList line v) : EnvTextGives name text (some (String.ofList v))

theorem envValue_iff {name text : String} {v? : Option String} :
    envValue name text = v? ↔ EnvTextGives name text v? := by
  have hnone : ∀ {line : List Char}, lineValue name.toList line = none ↔
      ∀ v, ¬ LineGives name.toList line v := by
    intro line
    simp only [← lineValue_iff, Option.eq_none_iff_forall_ne_some]
  unfold envValue
  constructor
  · rintro rfl
    cases hfind : (Text.linesKeeping text.toList).findSome? (lineValue name.toList) with
    | none =>
      rw [List.findSome?_eq_none_iff] at hfind
      exact .missing (fun line hline => hnone.mp (hfind line hline))
    | some v =>
      obtain ⟨front, line, back, hlines, hvalue, hfront⟩ := List.findSome?_eq_some_iff.mp hfind
      exact .found hlines (fun earlier he => hnone.mp (hfront earlier he)) (lineValue_iff.mp hvalue)
  · intro h
    cases h with
    | missing h =>
      rw [List.findSome?_eq_none_iff.mpr (fun line hline => hnone.mpr (h line hline))]
      rfl
    | found hlines hfront hline =>
      have hfind : (Text.linesKeeping text.toList).findSome? (lineValue name.toList) = some _ :=
        List.findSome?_eq_some_iff.mpr ⟨_, _, _, hlines, lineValue_iff.mpr hline,
          fun earlier he => hnone.mpr (hfront earlier he)⟩
      rw [hfind]
      rfl

/-! ## §2 Files -/

/-- What can be read at a path: nothing where there is nothing or where it cannot be opened, and otherwise
the text of a file. -/
inductive Shows (disk : Disk) (path : Path) : Option String → Prop
  | absent (h : disk.exists? path = .ok false) : Shows disk path none
  | closed {fault : OsFault} (h : disk.exists? path = .ok true) (hread : disk.read path = .error (.os fault)) :
      Shows disk path none
  | text {s : String} (h : disk.exists? path = .ok true) (hread : disk.read path = .ok s) :
      Shows disk path (some s)

/-- A look-up goes by what can be read. -/
theorem ifExists_of_shows {disk : Disk} {path : Path} {shown : Option String}
    {said : Except ReadFault String → Except Failure (Option String)}
    (hclosed : ∀ fault, said (.error (.os fault)) = .ok none) (h : Shows disk path shown) :
    ifExists disk path (said (disk.read path))
      = shown.elim (.ok none) (fun s => (said (.ok s)).map nonempty?) := by
  cases h with
  | absent h => simp [ifExists, h]
  | closed h hread => simp [ifExists, h, hread, hclosed, Except.map, nonempty?]
  | text h hread => simp [ifExists, h, hread]

/-- What the file `.env` gives to a name. -/
inductive EnvFileGives (disk : Disk) (name : String) : Option String → Prop
  | nothing (h : Shows disk (Path.ofString ".env") none) : EnvFileGives disk name none
  | text {s : String} {v? : Option String} (h : Shows disk (Path.ofString ".env") (some s))
      (hgives : EnvTextGives name s v?) : EnvFileGives disk name v?

theorem envFileSecret_of_gives {disk : Disk} {name : String} {v? : Option String}
    (h : EnvFileGives disk name v?) : envFileSecret disk name = .ok (nonempty? v?) := by
  have hclosed : ∀ fault, saidByEnvFile name (.error (.os fault)) = .ok none := fun _ => rfl
  rw [envFileSecret, envFileValue_eq]
  cases h with
  | nothing h => exact ifExists_of_shows hclosed h
  | text h hgives =>
    rw [ifExists_of_shows hclosed h, ← envValue_iff.mpr hgives]
    rfl

/-- The entries under `secrets` in the configuration file of a project: none where there is no project, no
file that can be opened, or no document in it. -/
inductive ConfigHolds (disk : Disk) : Option Path → List (Value × Value) → Prop
  | noProject : ConfigHolds disk none []
  | nothing {dir : Path} (h : Shows disk (dir.child "config.yaml") none) : ConfigHolds disk (some dir) []
  | invalid {dir : Path} {s reason : String} (h : Shows disk (dir.child "config.yaml") (some s))
      (hread : Yaml.Document.read s = .error (.invalid reason)) : ConfigHolds disk (some dir) []
  | document {dir : Path} {s : String} {d : Yaml.Document}
      (h : Shows disk (dir.child "config.yaml") (some s)) (hread : Yaml.Document.read s = .ok d) :
      ConfigHolds disk (some dir) d.secretEntries

/-- The secret under a name in the configuration file counts as true, but holds a number of more digits than
can be written. -/
def Burdened (entries : List (Value × Value)) (name : String) : Prop :=
  ∃ e, entries.find? (·.1.sameKey (.text name)) = some e ∧ e.2.truthy = true ∧ e.2.isWritable = false

/-- The secret that the configuration file has for a name. -/
def projectSecret (disk : Disk) (project : Option Path) (name : String) : Except Failure (Option String) :=
  match project with
  | none => .ok none
  | some dir => ifExists disk (dir.child "config.yaml") (fileSecret disk (dir.child "config.yaml") name)

theorem documentSecret_of_burdened {d : Yaml.Document} {name : String} (h : Burdened d.secretEntries name) :
    documentSecret d name = .error (.ordinary .unwritableNumber) := by
  obtain ⟨e, hfind, htruthy, hlong⟩ := h
  simp [documentSecret_eq, hfind, htruthy, shownPlain, hlong, Except.map]

theorem isWritable_of_not_burdened {entries : List (Value × Value)} {name : String} (h : ¬ Burdened entries name)
    {e : Value × Value} (hfind : entries.find? (·.1.sameKey (.text name)) = some e) (htruthy : e.2.truthy = true) :
    e.2.isWritable = true := by
  by_contra hlong
  exact h ⟨e, hfind, htruthy, by simpa using hlong⟩

theorem projectSecret_of_holds {disk : Disk} {project : Option Path} {entries : List (Value × Value)}
    (h : ConfigHolds disk project entries) (name : String) :
    (Burdened entries name ∧ projectSecret disk project name = .error (.ordinary .unwritableNumber)) ∨
      (¬ Burdened entries name ∧ projectSecret disk project name = .ok (keyedSecret entries name)) := by
  have hclosed : ∀ fault, saidByConfig name (.error (.os fault)) = .ok none := fun _ => rfl
  have hempty : ¬ Burdened [] name := by simp [Burdened]
  cases h with
  | noProject => exact .inr ⟨hempty, rfl⟩
  | nothing h =>
    refine .inr ⟨hempty, ?_⟩
    rw [projectSecret, fileSecret_eq, ifExists_of_shows hclosed h]
    rfl
  | invalid h hread =>
    refine .inr ⟨hempty, ?_⟩
    rw [projectSecret, fileSecret_eq, ifExists_of_shows hclosed h]
    simp [saidByConfig, hread, Except.map, nonempty?, keyedSecret]
  | @document dir s d h hread =>
    have hsecret : projectSecret disk (some dir) name = (documentSecret d name).map nonempty? := by
      rw [projectSecret, fileSecret_eq, ifExists_of_shows hclosed h]
      simp [saidByConfig, hread]
    by_cases hlong : Burdened d.secretEntries name
    · exact .inl ⟨hlong, by rw [hsecret, documentSecret_of_burdened hlong]; rfl⟩
    · refine .inr ⟨hlong, ?_⟩
      rw [hsecret, documentSecret_keyed fun e => isWritable_of_not_burdened hlong]

/-! ## §3 One place after the other -/

/-- What a reference to a name stands for by the values in its places: the first that is not empty. -/
def firstSecret (name parameter : String) (values : List (Option String)) : Except Failure String :=
  if name = "" then .error (.settings .emptySecretName)
  else match values.findSome? nonempty? with
    | some s => .ok s
    | none => .error (.settings (.secretNotSet name parameter))

/-- A parameter with the mark in front refers to the rest of it, and blanks around a name do not count. -/
theorem secretName?_padded {before after : List Char} (hbefore : Text.AllBlank before)
    (hafter : Text.AllBlank after) (name : String) :
    secretName? ("env:" ++ String.ofList before ++ name ++ String.ofList after) = some (Text.trim name) := by
  have hchars : ("env:" ++ String.ofList before ++ name ++ String.ofList after).toList
      = secretMark.toList ++ (before ++ (name.toList ++ after)) := by
    simp [secretMark]
  have hmark : Text.startsWith ("env:" ++ String.ofList before ++ name ++ String.ofList after) secretMark
      = true := by
    rw [Text.startsWith, List.isPrefixOf_iff_prefix, hchars]
    exact List.prefix_append _ _
  have hlength : secretMark.length = secretMark.toList.length := rfl
  rw [secretName?, if_pos hmark, Text.trim, Text.dropFirst, hchars, hlength, List.drop_left,
    String.toList_ofList, Text.trimChars_blank_append hbefore, Text.trimChars_append hafter, Text.trim]

section Places

variable {disk : Disk} {project : Option Path} {mapping : List (String × String)} {name : String}
  {line? : Option String} {entries : List (Value × Value)}

/-- The values of the places in front of the configuration file. -/
def earlierValues (disk : Disk) (line? : Option String) (mapping : List (String × String)) (name : String) :
    List (Option String) :=
  [disk.environmentValue name, line?, (mapping.find? (·.1 == name)).map (·.2)]

theorem secretValue_first (hfile : nonempty? (disk.environmentValue name) = none → EnvFileGives disk name line?) :
    secretValue disk project mapping name
      = match (earlierValues disk line? mapping name).findSome? nonempty? with
        | some s => .ok (some s)
        | none => projectSecret disk project name := by
  cases henvironment : nonempty? (disk.environmentValue name) with
  | some s => simp [secretValue, earlierValues, henvironment]
  | none =>
    have hgives := envFileSecret_of_gives (hfile henvironment)
    rw [envFileSecret] at hgives
    simp only [secretValue, earlierValues, henvironment, List.findSome?_cons, List.findSome?_nil, hgives]
    cases nonempty? line? with
    | some s => rfl
    | none =>
      cases nonempty? ((mapping.find? (·.1 == name)).map (·.2)) with
      | some s => rfl
      | none => cases project <;> rfl

theorem nonempty?_nonempty? (v : Option String) : nonempty? (nonempty? v) = nonempty? v := by
  cases v with
  | none => rfl
  | some s => by_cases h : s = "" <;> simp [nonempty?, h]

theorem nonempty?_keyedSecret (entries : List (Value × Value)) (name : String) :
    nonempty? (keyedSecret entries name) = keyedSecret entries name := by
  unfold keyedSecret
  split
  · split
    · exact nonempty?_nonempty? _
    · rfl
  · rfl

/-- The places in front of the configuration file come first. -/
theorem firstSecret_append {parameter : String} (hne : name ≠ "") (values : List (Option String)) :
    firstSecret name parameter (values ++ [keyedSecret entries name]) = match values.findSome? nonempty? with
      | some s => .ok s
      | none => match keyedSecret entries name with
        | some s => .ok s
        | none => .error (.settings (.secretNotSet name parameter)) := by
  rw [firstSecret, if_neg hne, List.findSome?_append, List.findSome?_singleton, nonempty?_keyedSecret]
  cases values.findSome? nonempty? <;> rfl

variable {parameter : String}

/-- Every other reference stands for the first value of its places that is not empty. -/
theorem resolveSecret_of_short (hname : secretName? parameter = some name)
    (hfile : nonempty? (disk.environmentValue name) = none → EnvFileGives disk name line?)
    (hconfig : (earlierValues disk line? mapping name).findSome? nonempty? = none →
      ConfigHolds disk project entries)
    (hshort : name = "" ∨ (earlierValues disk line? mapping name).findSome? nonempty? ≠ none ∨
      ¬ Burdened entries name) :
    resolveSecret disk project mapping parameter
      = firstSecret name parameter (earlierValues disk line? mapping name ++ [keyedSecret entries name]) := by
  by_cases hne : name = ""
  · simp [resolveSecret, hname, hne, firstSecret, badSettings]
  · rw [firstSecret_append hne]
    cases hearlier : (earlierValues disk line? mapping name).findSome? nonempty? with
    | some s => simp [resolveSecret, hname, hne, secretValue_first hfile, hearlier]
    | none =>
      rcases projectSecret_of_holds (hconfig hearlier) name with ⟨hlong, -⟩ | ⟨-, hsecret⟩
      · simp [hne, hearlier, hlong] at hshort
      · cases hkeyed : keyedSecret entries name <;>
          simp [resolveSecret, hname, hne, secretValue_first hfile, hearlier, hsecret, hkeyed, badSettings]

end Places

end BrowserScript
