/-
BrowserScript.Proofs.Settings.ConfigSecrets — two ways to a secret of a configuration.

The secrets of a configuration can be looked up in the configuration that was read from its file, or in the
file once more. The configuration holds the texts of all keys and values, and a later entry takes the place
of an earlier one with the same text. The file is asked for the key itself, and a value that does not count
as true is no secret.

* `Document.secretEntries` are the entries under `secrets` as they are written.
* `wordedSecret` is the secret of a name among their texts, `keyedSecret` the one under the key itself.
* `load_secrets`: what a configuration that was read from a file holds.
* `secretValue_loaded` and `secretValue_reread`: what either way finds when no earlier place has the name.

Main statement: `resolveSecret_agrees_iff`. For a name that neither the environment nor the file `.env` has,
both ways have the same end exactly when the name is empty, or the file `.env` can be read and the two
secrets are the same.
-/
import BrowserScript.Proofs.Settings.References
import BrowserScript.Proofs.Settings.Verdicts

namespace BrowserScript

open File

/-! ## §1 The secrets in a document -/

/-- A key that equals a text is that text. -/
theorem Value.sameKey_text {k : Value} {s : String} : k.sameKey (.text s) = true ↔ k = .text s := by
  cases k <;> simp [Value.sameKey, Value.whole?]

/-- The entries at a place, keys and values as they are written. -/
def Yaml.Document.writtenAt (d : Yaml.Document) (place : Nat) : List (Value × Value) :=
  ((d.entriesAt place).getD []).map (fun e => (e.1, d.valueAt e.2))

/-- The entries under `secrets`. -/
def Yaml.Document.secretEntries (d : Yaml.Document) : List (Value × Value) :=
  match d.outermost.bind (fun place => d.entry? place "secrets") with
  | none => []
  | some place => d.writtenAt place

/-- The secret of a name among the texts of entries: the last key with the text of the name counts. -/
def wordedSecret (entries : List (Value × Value)) (name : String) : Option String :=
  nonempty? ((entries.reverse.find? (·.1.plain == name)).map (·.2.plain))

/-- The secret under a key: its value must count as true. -/
def keyedSecret (entries : List (Value × Value)) (name : String) : Option String :=
  match entries.find? (·.1.sameKey (.text name)) with
  | some (_, v) => if v.truthy then nonempty? (some v.plain) else none
  | none => none

theorem documentSecret_eq (d : Yaml.Document) (name : String) :
    documentSecret d name = match d.secretEntries.find? (·.1.sameKey (.text name)) with
      | some (_, v) => if v.truthy then (shownPlain v).map some else .ok none
      | none => .ok none := by
  unfold documentSecret Yaml.Document.secretEntries
  cases d.outermost with
  | none => rfl
  | some place =>
    simp only [Option.bind_some]
    cases d.entry? place "secrets" with
    | none => rfl
    | some secrets =>
      simp only [Option.bind_some, Yaml.Document.entry?, Yaml.Document.writtenAt]
      cases d.entriesAt secrets with
      | none => rfl
      | some entries =>
        simp only [Option.bind_some, Option.getD_some, List.find?_map, Function.comp_def]
        cases entries.find? (fun e => e.1.sameKey (.text name)) <;> rfl

/-! ## §2 What a configuration holds -/

theorem find?_insertSecret (name key value : String) (secrets : List (String × String)) :
    ((insertSecret key value secrets).find? (·.1 == name)).map (·.2)
      = if key == name then some value else (secrets.find? (·.1 == name)).map (·.2) := by
  induction secrets with
  | nil => by_cases h : key = name <;> simp [insertSecret, h]
  | cons e rest ih =>
    obtain ⟨k, v⟩ := e
    simp only [insertSecret]
    split
    · rename_i hk
      simp only [beq_iff_eq] at hk
      by_cases h : key = name <;> simp [hk, h]
    · rename_i hk
      simp only [beq_iff_eq] at hk
      by_cases h : k = name
      · have hkey : key ≠ name := fun hkey => hk (h.trans hkey.symm)
        simp [h, hkey]
      · rw [List.find?_cons_of_neg (by simpa using h), List.find?_cons_of_neg (by simpa using h)]
        exact ih

/-- Of the entries that were added, the last one with the text of the name counts. -/
theorem find?_addSecrets (name : String) (entries : List (Value × Value)) (acc : List (String × String)) :
    ((addSecrets acc entries).find? (·.1 == name)).map (·.2)
      = ((entries.reverse.find? (·.1.plain == name)).map (·.2.plain)).or
        ((acc.find? (·.1 == name)).map (·.2)) := by
  induction entries generalizing acc with
  | nil => simp [addSecrets]
  | cons e rest ih =>
    have hstep : addSecrets acc (e :: rest) = addSecrets (insertSecret e.1.plain e.2.plain acc) rest := rfl
    rw [hstep, ih, find?_insertSecret, List.reverse_cons, List.find?_append]
    cases rest.reverse.find? (·.1.plain == name) with
    | some found => simp
    | none => by_cases h : e.1.plain = name <;> simp [h]

/-- Whether all keys and values of entries can be written. -/
def AllWritable (entries : List (Value × Value)) : Prop :=
  ∀ e ∈ entries, e.1.isWritable = true ∧ e.2.isWritable = true

theorem allWritable_of_usable {entries : List (Value × Value)}
    (h : secretsVerdict (some (.dict entries)) = .usable) : AllWritable entries := by
  cases entries with
  | nil => exact nofun
  | cons e rest =>
    simp only [secretsVerdict, Value.truthy, List.isEmpty_cons, Bool.not_false, Bool.not_true] at h
    split at h
    · contradiction
    · split at h
      · rename_i hall
        simpa [AllWritable] using hall
      · cases h

theorem andThen_usable {v w : Verdict} : v.andThen w = .usable ↔ v = .usable ∧ w = .usable := by
  cases v <;> simp [Verdict.andThen]

/-- A setting keeps the key of its entry. -/
theorem settingEntries_key {d : Yaml.Document} {entries : List (Value × Nat)} {e : Value × Value}
    (h : e ∈ Config.settingEntries d entries) : ∃ place, (e.1, place) ∈ entries := by
  unfold Config.settingEntries at h
  obtain ⟨⟨key, place⟩, hmem, hset⟩ := List.mem_filterMap.1 h
  dsimp only at hset
  split at hset
  · split at hset
    · cases hset
      exact ⟨place, hmem⟩
    · split at hset
      · cases hset
        exact ⟨place, hmem⟩
      · split at hset
        · cases hset
          exact ⟨place, hmem⟩
        · cases hset
  · cases hset

theorem lookup_append_of_ne {key : Value} {entries rest : List (Value × Value)}
    (h : ∀ e ∈ entries, e.1.sameKey key = false) :
    Value.lookup key (entries ++ rest) = Value.lookup key rest := by
  induction entries with
  | nil => rfl
  | cons e more ih =>
    have hskip := h e List.mem_cons_self
    simp only [List.cons_append, Value.lookup, hskip, Bool.false_eq_true, if_false]
    exact ih fun x hx => h x (List.mem_cons_of_mem e hx)

/-- The value under `secrets` among the settings. -/
theorem lookup_settingEntries (d : Yaml.Document) (entries : List (Value × Nat)) :
    Value.lookup (.text "secrets") (Config.settingEntries d entries)
      = (entries.find? (·.1.sameKey (.text "secrets"))).map (fun e => d.opened e.2) := by
  induction entries with
  | nil => rfl
  | cons e rest ih =>
    obtain ⟨key, place⟩ := e
    have hsplit : Config.settingEntries d ((key, place) :: rest)
        = Config.settingEntries d [(key, place)] ++ Config.settingEntries d rest :=
      List.filterMap_append (l := [(key, place)])
    rw [hsplit]
    by_cases hkey : key = .text "secrets"
    · subst hkey
      rfl
    · have hskip : key.sameKey (.text "secrets") = false :=
        Bool.eq_false_iff.2 fun hsame => hkey (Value.sameKey_text.1 hsame)
      rw [List.find?_cons_of_neg (by simp [hskip]), ← ih]
      refine lookup_append_of_ne fun e he => ?_
      obtain ⟨_, hmem⟩ := settingEntries_key he
      simp only [List.mem_singleton, Prod.mk.injEq] at hmem
      rw [hmem.1]
      exact hskip

/-- A value under a setting shows the entries that are written there, if there are any. -/
theorem opened_cases (d : Yaml.Document) (place : Nat) :
    d.opened place = .dict (d.writtenAt place) ∨
      d.writtenAt place = [] ∧ ∀ entries, d.opened place ≠ .dict entries := by
  unfold Yaml.Document.opened Yaml.Document.writtenAt
  cases hentries : d.entriesAt place with
  | some found => exact .inl rfl
  | none =>
    refine .inr ⟨rfl, fun entries h => ?_⟩
    unfold Yaml.Document.entriesAt at hentries
    unfold Yaml.Document.outline Yaml.Document.valueAt Yaml.Document.valueIn at h
    cases hnative : d.native? place with
    | none => simp [hnative] at h
    | some native =>
      rw [hnative] at h hentries
      cases native with
      | leaf v => cases v <;> simp [Yaml.Scalar.value] at h
      | dict found => simp at hentries
      | _ => simp at h

/-- A document that says nothing has no secrets. -/
theorem secretEntries_of_isEmpty {d : Yaml.Document} (h : d.isEmpty = true) : d.secretEntries = [] := by
  unfold Yaml.Document.secretEntries
  cases hplace : d.outermost with
  | none => rfl
  | some place =>
    unfold Yaml.Document.isEmpty at h
    simp only [hplace, Option.bind_some] at h ⊢
    have hnone : d.entry? place "secrets" = none := by
      unfold Yaml.Document.entry? Yaml.Document.entriesAt
      cases hnative : d.native? place with
      | none => rfl
      | some native =>
        rw [hnative] at h
        cases native with
        | dict entries =>
          have hentries : entries = [] := by simpa using h
          simp [hentries]
        | _ => rfl
    rw [hnone]

/-- What a configuration holds that was read from a document: the texts of its secrets, all of which can be
written. -/
theorem ofDocument_secrets {path : Path} {d : Yaml.Document} {config : Config}
    (h : Config.ofDocument path d = .ok config) :
    config.secrets = addSecrets [] d.secretEntries ∧ AllWritable d.secretEntries := by
  have hread : ∀ {entries : List (Value × Value)}, Config.ofEntries entries path.parent = .ok config →
      config.secrets = secretsIn (Value.lookup (.text "secrets") entries) ∧
        secretsVerdict (Value.lookup (.text "secrets") entries) = .usable := by
    intro entries hentries
    have hjudged := ofEntries_judged entries path.parent
    rw [hentries] at hjudged
    obtain ⟨husable, -, hsecrets, -⟩ := hjudged.of_ok
    refine ⟨hsecrets, ?_⟩
    simp only [entriesVerdict, verdicts, List.foldr_cons, andThen_usable] at husable
    exact husable.2.2.2.2.2.2.2.2.2.1
  rcases ofDocument_eq_ok h with ⟨hempty, hnone⟩ | ⟨entries, hentries, hof⟩
  · obtain ⟨hsecrets, -⟩ := hread hnone
    rw [hsecrets, secretEntries_of_isEmpty hempty]
    exact ⟨rfl, nofun⟩
  · obtain ⟨place, hplace, hat⟩ := Option.bind_eq_some_iff.1 hentries
    obtain ⟨hsecrets, husable⟩ := hread hof
    rw [lookup_settingEntries] at hsecrets husable
    simp only [Yaml.Document.secretEntries, Yaml.Document.entry?, hplace, hat, Option.bind_some]
    cases hfound : entries.find? (·.1.sameKey (.text "secrets")) with
    | none =>
      rw [hfound] at hsecrets
      exact ⟨hsecrets, nofun⟩
    | some e =>
      rw [hfound] at hsecrets husable
      simp only [Option.map_some] at hsecrets husable ⊢
      rcases opened_cases d e.2 with hopened | ⟨hnone, hopened⟩
      · rw [hopened] at hsecrets husable
        exact ⟨hsecrets, allWritable_of_usable husable⟩
      · rw [hnone]
        refine ⟨hsecrets.trans ?_, nofun⟩
        unfold secretsIn
        split
        · rename_i found hdict
          exact absurd (Option.some.inj hdict) (hopened found)
        · rfl

/-! ## §3 Both ways -/

/-- What a configuration holds that was read from a file. -/
theorem load_secrets {disk : Disk} {path : Path} {config : Config} (h : Config.load disk path = .ok config) :
    disk.exists? path = .ok true ∧ ∃ d, Config.readDocument disk path = .ok (.ok d) ∧
      config.secrets = addSecrets [] d.secretEntries ∧ AllWritable d.secretEntries := by
  obtain ⟨hexists, d, hread, hdocument⟩ := load_eq_ok h
  exact ⟨hexists, d, hread, ofDocument_secrets hdocument⟩

section BothWays

variable {disk : Disk} {name : String}

/-- The secret of a name in a document whose entry for it can be written, if it counts. -/
theorem documentSecret_keyed {d : Yaml.Document} (hwritable : ∀ e,
    d.secretEntries.find? (·.1.sameKey (.text name)) = some e → e.2.truthy = true → e.2.isWritable = true) :
    (documentSecret d name).map nonempty? = .ok (keyedSecret d.secretEntries name) := by
  rw [documentSecret_eq, keyedSecret]
  cases hfound : d.secretEntries.find? (·.1.sameKey (.text name)) with
  | none => rfl
  | some e =>
    cases htruthy : e.2.truthy with
    | false => simp [htruthy, Except.map, nonempty?]
    | true => simp [htruthy, shownPlain, hwritable e hfound htruthy, Except.map]

/-- The secret of a name in the file of a configuration that could be read. -/
theorem fileSecret_keyed {path : Path} {d : Yaml.Document} (hexists : disk.exists? path = .ok true)
    (hread : Config.readDocument disk path = .ok (.ok d)) (hwritable : AllWritable d.secretEntries) :
    ifExists disk path (fileSecret disk path name) = .ok (keyedSecret d.secretEntries name) := by
  have hfile : fileSecret disk path name = documentSecret d name := by
    unfold Config.readDocument at hread
    unfold fileSecret
    cases htext : disk.read path with
    | error fault =>
      rw [htext] at hread
      cases hread
    | ok text =>
      rw [htext] at hread
      simp only [Except.ok.inj hread]
  have hfound : ∀ e, d.secretEntries.find? (·.1.sameKey (.text name)) = some e → e.2.truthy = true →
      e.2.isWritable = true :=
    fun e he _ => (hwritable e (List.mem_of_find?_eq_some he)).2
  rw [← documentSecret_keyed hfound, hfile]
  simp only [ifExists, hexists]

/-- The secret of a name in the file `.env`. -/
def envFileSecret (disk : Disk) (name : String) : Except Failure (Option String) :=
  ifExists disk (Path.ofString ".env") (envFileValue disk (Path.ofString ".env") name)

/-- Nothing but the file `.env` and the environment stands before the secrets of a configuration. -/
theorem secretValue_unprovided (secrets : List (String × String))
    (henvironment : nonempty? (disk.environmentValue name) = none) :
    secretValue disk none secrets name = match envFileSecret disk name with
      | .error e => .error e
      | .ok (some s) => .ok (some s)
      | .ok none => .ok (nonempty? ((secrets.find? (·.1 == name)).map (·.2))) := by
  simp only [secretValue, henvironment, envFileSecret]
  cases ifExists disk (Path.ofString ".env") (envFileValue disk (Path.ofString ".env") name) with
  | error e => rfl
  | ok found =>
    cases found with
    | some s => rfl
    | none => cases nonempty? ((secrets.find? (·.1 == name)).map (·.2)) <;> rfl

/-- What the configuration that was read says of a name. -/
theorem secretValue_loaded (entries : List (Value × Value))
    (henvironment : nonempty? (disk.environmentValue name) = none)
    (hfile : envFileSecret disk name = .ok none) :
    secretValue disk none (addSecrets [] entries) name = .ok (wordedSecret entries name) := by
  rw [secretValue_unprovided _ henvironment, hfile]
  simp only [find?_addSecrets, List.find?_nil, Option.map_none, Option.or_none, wordedSecret]

/-- What the file of the configuration says of a name. -/
theorem secretValue_reread {dir : Path} {d : Yaml.Document}
    (hexists : disk.exists? (dir.child "config.yaml") = .ok true)
    (hread : Config.readDocument disk (dir.child "config.yaml") = .ok (.ok d))
    (hwritable : AllWritable d.secretEntries)
    (henvironment : nonempty? (disk.environmentValue name) = none)
    (hfile : envFileSecret disk name = .ok none) :
    secretValue disk (some dir) [] name = .ok (keyedSecret d.secretEntries name) := by
  rw [secretValue_some, secretValue_unprovided _ henvironment, hfile]
  simpa [nonempty?] using fileSecret_keyed hexists hread hwritable

end BothWays

/-- Both ways find the same value, or both are refused as faults of the configuration. -/
def SameEnd (x y : Except Failure String) : Prop :=
  (∃ s, x = .ok s ∧ y = .ok s) ∨ ∃ fault fault', x = .error (.settings fault) ∧ y = .error (.settings fault')

theorem not_sameEnd_ordinary {fault : Fault} {y : Except Failure String} :
    ¬ SameEnd (.error (.ordinary fault)) y := by
  rintro (⟨s, h, -⟩ | ⟨_, _, h, -⟩)
  · cases h
  · cases h

/-- For a name that neither the environment nor the file `.env` provides, the configuration that was read and
its file agree exactly when the name is empty, or the file `.env` says that it has no such name and the last
key with the text of the name has the same secret as the key itself. -/
theorem resolveSecret_agrees_iff {disk : Disk} {dir : Path} {config : Config} {parameter name : String}
    (hload : Config.load disk (dir.child "config.yaml") = .ok config)
    (hname : secretName? parameter = some name)
    (henvironment : nonempty? (disk.environmentValue name) = none)
    (hfile : ∀ s, envFileSecret disk name ≠ .ok (some s)) :
    ∃ d, Config.readDocument disk (dir.child "config.yaml") = .ok (.ok d) ∧
      (SameEnd (resolveSecret disk none config.secrets parameter)
          (resolveSecret disk (some dir) [] parameter) ↔
        name = "" ∨ envFileSecret disk name = .ok none ∧
          wordedSecret d.secretEntries name = keyedSecret d.secretEntries name) := by
  obtain ⟨hexists, d, hread, hsecrets, hwritable⟩ := load_secrets hload
  refine ⟨d, hread, ?_⟩
  simp only [resolveSecret, hname, beq_iff_eq]
  by_cases hempty : name = ""
  · simp only [if_pos hempty]
    exact ⟨fun _ => .inl hempty, fun _ => .inr ⟨_, _, rfl, rfl⟩⟩
  · simp only [hempty, if_false, false_or]
    cases hanswer : envFileSecret disk name with
    | error e =>
      have hvalue : ∀ secrets, secretValue disk none secrets name = .error e := fun secrets => by
        rw [secretValue_unprovided secrets henvironment, hanswer]
      obtain ⟨fault, rfl⟩ := secretValue_none_error (hvalue [])
      rw [hvalue]
      exact ⟨fun h => absurd h not_sameEnd_ordinary, fun h => nomatch h.1⟩
    | ok found =>
      cases found with
      | some s => exact absurd hanswer (hfile s)
      | none =>
        rw [hsecrets, secretValue_loaded _ henvironment hanswer,
          secretValue_reread hexists hread hwritable henvironment hanswer]
        cases wordedSecret d.secretEntries name <;> cases keyedSecret d.secretEntries name <;>
          simp [SameEnd, badSettings, eq_comm]

section Pins

/-- A project with a secret that is the number zero and one that is a text. -/
def pinDisk : Disk where
  entries := [([".pagescript"], .dir),
    ([".pagescript", "config.yaml"], .file (.text "secrets:\n  PIN: 0\n  USER: ada\n"))]
  current := []
  environment := []

/-- Its directory. -/
def pinDir : Path := ⟨"", [".pagescript"]⟩

theorem pinDisk_loads : ∃ config, Config.load pinDisk (pinDir.child "config.yaml") = .ok config ∧
    config.secrets = [("PIN", "0"), ("USER", "ada")] := by
  have h : (Config.load pinDisk (pinDir.child "config.yaml")).toOption.map (·.secrets)
      = some [("PIN", "0"), ("USER", "ada")] := by decide +kernel
  cases hload : Config.load pinDisk (pinDir.child "config.yaml") with
  | error e => simp [hload, Except.toOption] at h
  | ok config =>
    rw [hload] at h
    exact ⟨config, rfl, Option.some.inj h⟩

/-- A number zero is a secret of the configuration that was read, and none of its file. -/
theorem resolveSecret_disagrees_zero :
    ∃ config, Config.load pinDisk (pinDir.child "config.yaml") = .ok config ∧
      nonempty? (pinDisk.environmentValue "PIN") = none ∧ envFileSecret pinDisk "PIN" = .ok none ∧
      ¬ SameEnd (resolveSecret pinDisk none config.secrets "env:PIN")
        (resolveSecret pinDisk (some pinDir) [] "env:PIN") := by
  obtain ⟨config, hload, hsecrets⟩ := pinDisk_loads
  have hloaded : (resolveSecret pinDisk none config.secrets "env:PIN").toOption = some "0" := by
    rw [hsecrets]
    decide +kernel
  have hreread : (resolveSecret pinDisk (some pinDir) [] "env:PIN").toOption = none := by decide +kernel
  refine ⟨config, hload, rfl, rfl, ?_⟩
  rintro (⟨s, -, hfound⟩ | ⟨_, _, hrefused, -⟩)
  · rw [hfound] at hreread
    cases hreread
  · rw [hrefused] at hloaded
    cases hloaded

/-- The configuration that was read and its file, asked for a secret that is a text. -/
theorem resolveSecret_agrees_user :
    ∃ config, Config.load pinDisk (pinDir.child "config.yaml") = .ok config ∧
      secretName? "env: USER " = some "USER" ∧ nonempty? (pinDisk.environmentValue "USER") = none ∧
      (∀ s, envFileSecret pinDisk "USER" ≠ .ok (some s)) ∧
      ∃ d, Config.readDocument pinDisk (pinDir.child "config.yaml") = .ok (.ok d) ∧
        (SameEnd (resolveSecret pinDisk none config.secrets "env: USER ")
            (resolveSecret pinDisk (some pinDir) [] "env: USER ") ↔
          "USER" = "" ∨ envFileSecret pinDisk "USER" = .ok none ∧
            wordedSecret d.secretEntries "USER" = keyedSecret d.secretEntries "USER") := by
  obtain ⟨config, hload, -⟩ := pinDisk_loads
  have hname : secretName? "env: USER " = some "USER" := by decide +kernel
  exact ⟨config, hload, hname, rfl, nofun, resolveSecret_agrees_iff hload hname rfl nofun⟩

end Pins

end BrowserScript
