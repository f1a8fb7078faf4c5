/-
BrowserScript.Proofs.Settings.References — what references stand for while a run goes on.

A run makes directories, and references are looked up in files. On a sound disk, with no double dots in the
way of the project, a new directory never changes what a file says: a reference keeps its value. It can only
keep from having one, when the directory shows that the path of the configuration file is too long.

* `resolveSecret_empty`: only the empty parameter stands for the empty text.
* `secretValue_some`: the configuration file is the last place that is looked into.
* `resolveSecret_error`: a reference fails as a setting does or as an ordinary operation.
* `resolveSecret_grown`: what becomes of a reference when directories are added.

Main statement: `bothResolve_grown`. If a reference can be resolved with two disks that have the same names,
or is refused in the same way with both, then this is so after directories were added to both.
-/
import BrowserScript.Proofs.File.Growth
import BrowserScript.Settings.Secret

namespace BrowserScript

open File

/-! ## §1 Empty values -/

theorem nonempty?_ne {s : Option String} {v : String} (h : nonempty? s = some v) : v ≠ "" := by
  unfold nonempty? at h
  split at h
  · split at h
    · cases h
    · rename_i hne
      cases h
      simpa using hne
  · cases h

theorem ifExists_ne {disk : Disk} {path : Path} {look : Except Failure (Option String)}
    {v : String} (h : ifExists disk path look = .ok (some v)) : v ≠ "" := by
  unfold ifExists at h
  split at h
  · cases h
  · cases h
  · cases look with
    | error e => cases h
    | ok found => exact nonempty?_ne (Except.ok.inj h)

theorem secretValue_ne {disk : Disk} {projectDir : Option Path}
    {secrets : List (String × String)} {name v : String}
    (h : secretValue disk projectDir secrets name = .ok (some v)) : v ≠ "" := by
  unfold secretValue at h
  split at h
  · rename_i henvironment
    cases h
    exact nonempty?_ne henvironment
  · dsimp only at h
    split at h
    · cases h
    · rename_i hfile
      cases h
      exact ifExists_ne hfile
    · split at h
      · rename_i hmapping
        cases h
        exact nonempty?_ne hmapping
      · split at h
        · cases h
        · exact ifExists_ne h

/-- Only the empty parameter stands for the empty text. -/
theorem resolveSecret_empty {disk : Disk} {projectDir : Option Path}
    {secrets : List (String × String)} {parameter v : String}
    (h : resolveSecret disk projectDir secrets parameter = .ok v) : v = "" ↔ parameter = "" := by
  unfold resolveSecret at h
  split at h
  · cases h
    rfl
  · rename_i name hname
    have hreference : parameter ≠ "" := by
      rintro rfl
      cases hname
    split at h
    · cases h
    · split at h
      · cases h
      · rename_i hvalue
        cases h
        exact ⟨fun hv => absurd hv (secretValue_ne hvalue), fun hp => absurd hp hreference⟩
      · cases h

/-! ## §2 Failures -/

/-- A failure of the settings, or of an ordinary operation. -/
def Failure.OfReference (e : Failure) : Prop := (∃ fault, e = .settings fault) ∨ ∃ fault, e = .ordinary fault

theorem documentSecret_error {d : Yaml.Document} {name : String} {e : Failure}
    (h : documentSecret d name = .error e) : e.OfReference := by
  unfold documentSecret at h
  split at h
  · cases h
  · dsimp only at h
    split at h
    · unfold shownPlain at h
      split at h
      · cases h
      · cases h
        exact .inr ⟨_, rfl⟩
    · cases h

theorem fileSecret_error {disk : Disk} {path : Path} {name : String} {e : Failure}
    (h : fileSecret disk path name = .error e) : e.OfReference := by
  unfold fileSecret at h
  split at h
  · cases h
  · cases h
    exact .inr ⟨_, rfl⟩
  · split at h
    · exact documentSecret_error h
    · cases h
    · split at h
      · cases h
      · cases h
        exact .inr ⟨_, rfl⟩

theorem ifExists_error {disk : Disk} {path : Path} {look : Except Failure (Option String)} {e : Failure}
    (hlook : look = .error e → e.OfReference) (h : ifExists disk path look = .error e) : e.OfReference := by
  unfold ifExists at h
  split at h
  · cases h
    exact .inr ⟨_, rfl⟩
  · cases h
  · cases look with
    | error e' =>
      cases h
      exact hlook rfl
    | ok found => cases h

theorem envFileValue_error {disk : Disk} {path : Path} {name : String} {e : Failure}
    (h : envFileValue disk path name = .error e) : e.OfReference := by
  unfold envFileValue at h
  split at h
  · cases h
  · cases h
  · cases h
    exact .inr ⟨_, rfl⟩

theorem secretValue_error {disk : Disk} {projectDir : Option Path} {secrets : List (String × String)}
    {name : String} {e : Failure} (h : secretValue disk projectDir secrets name = .error e) :
    e.OfReference := by
  unfold secretValue at h
  split at h
  · cases h
  · dsimp only at h
    split at h
    · rename_i henv
      cases h
      exact ifExists_error envFileValue_error henv
    · cases h
    · split at h
      · cases h
      · split at h
        · cases h
        · exact ifExists_error fileSecret_error h

/-- A reference fails in these two ways only. -/
theorem resolveSecret_error {disk : Disk} {projectDir : Option Path} {secrets : List (String × String)}
    {parameter : String} {e : Failure} (h : resolveSecret disk projectDir secrets parameter = .error e) :
    e.OfReference := by
  unfold resolveSecret at h
  split at h
  · cases h
  · split at h
    · cases h
      exact .inl ⟨_, rfl⟩
    · split at h
      · rename_i hvalue
        cases h
        exact secretValue_error hvalue
      · cases h
      · cases h
        exact .inl ⟨_, rfl⟩

/-! ## §3 Look-ups -/

section LookUps

variable {d d' : Disk} {projectDir : Path} {secrets : List (String × String)} {name : String}

/-- The configuration file is looked into when no other place has a value. -/
theorem secretValue_some :
    secretValue d (some projectDir) secrets name = match secretValue d none secrets name with
      | .error e => .error e
      | .ok (some s) => .ok (some s)
      | .ok none =>
        ifExists d (projectDir.child "config.yaml") (fileSecret d (projectDir.child "config.yaml") name) := by
  unfold secretValue
  dsimp only
  cases nonempty? (d.environmentValue name) with
  | some s => rfl
  | none =>
    dsimp only
    cases ifExists d (Path.ofString ".env") (envFileValue d (Path.ofString ".env") name) with
    | error e => rfl
    | ok found =>
      cases found with
      | some s => rfl
      | none =>
        dsimp only
        cases nonempty? ((secrets.find? (·.1 == name)).map (·.2)) <;> rfl

/-- A look-up in a file after directories were added: the same as before, unless the path of the file leads
nowhere and turns out to be too long. -/
theorem ifExists_leads {p : Path} (look : Except ReadFault String → Except Failure (Option String))
    (hunread : ∀ fault, look (.error (.os fault)) = .ok none) (h : Disk.Leads (d.find p) (d'.find p)) :
    ifExists d' p (look (d'.read p)) = ifExists d p (look (d.read p)) ∨
      d.find p = .error .missing ∧ d'.find p = .error .nameTooLong := by
  unfold ifExists Disk.exists? Disk.read
  generalize d.find p = found, d'.find p = found' at h ⊢
  cases h with
  | same => exact .inl rfl
  | dir place =>
    refine .inl ?_
    dsimp only
    rw [hunread]
    rfl
  | long => exact .inr ⟨rfl, rfl⟩

/-- What the reading of an environment file says of a name. -/
def saidByEnvFile (name : String) : Except ReadFault String → Except Failure (Option String)
  | .ok text => .ok (envValue name text)
  | .error (.os _) => .ok none
  | .error (.decode fault) => .error (.ordinary (.decode fault))

/-- What the reading of a configuration file says of a name. -/
def saidByConfig (name : String) : Except ReadFault String → Except Failure (Option String)
  | .error (.os _) => .ok none
  | .error (.decode fault) => .error (.ordinary (.decode fault))
  | .ok text =>
    match Yaml.Document.read text with
    | .ok d => documentSecret d name
    | .error (.invalid _) => .ok none
    | .error (.unbuildable kind reason) =>
      if kind == "AttributeError" then .ok none else .error (.ordinary (.badDocument kind reason))

theorem envFileValue_eq (d : Disk) (p : Path) (name : String) :
    envFileValue d p name = saidByEnvFile name (d.read p) := rfl

theorem fileSecret_eq (d : Disk) (p : Path) (name : String) :
    fileSecret d p name = saidByConfig name (d.read p) := rfl

theorem saidByEnvFile_error {r : Except ReadFault String} {e : Failure}
    (h : (saidByEnvFile name r).map nonempty? = .error e) : ∃ fault, e = .ordinary fault := by
  unfold saidByEnvFile at h
  split at h
  · cases h
  · cases h
  · cases h
    exact ⟨_, rfl⟩

theorem dots_beside (d : Disk) (hdots : ".." ∉ d.current) :
    ".." ∉ (d.absolute (Path.ofString ".env")).names := by
  have hpath : Path.ofString ".env" = ⟨"", [".env"]⟩ := by decide +kernel
  rw [hpath]
  show ".." ∉ d.current ++ [".env"]
  simpa using hdots

theorem envFile_grown (hg : d.Grown d') (hr : d.Rooted) (hdots : ".." ∉ d.current) (name : String) :
    ifExists d' (Path.ofString ".env") (envFileValue d' (Path.ofString ".env") name)
      = ifExists d (Path.ofString ".env") (envFileValue d (Path.ofString ".env") name) := by
  have hpath : Path.ofString ".env" = ⟨"", [".env"]⟩ := by decide +kernel
  have hleads := Disk.leads_find hg hr (dots_beside d hdots)
  rw [envFileValue_eq, envFileValue_eq]
  rcases ifExists_leads (saidByEnvFile name) (fun _ => rfl) hleads with hsame | ⟨hmissing, hlong⟩
  · exact hsame
  · rw [hpath] at hmissing hlong
    exact absurd hlong
      (Disk.find_beside_ne_tooLong hg hr hdots (by decide +kernel) (by decide +kernel) hmissing)

/-- The places before the configuration file do not change. -/
theorem secretValue_none_grown (hg : d.Grown d') (hr : d.Rooted) (hdots : ".." ∉ d.current) :
    secretValue d' none secrets name = secretValue d none secrets name := by
  have henvironment : d'.environmentValue name = d.environmentValue name := by
    unfold Disk.environmentValue
    rw [hg.environment]
  simp only [secretValue, henvironment, envFile_grown hg hr hdots]

/-- They fail as ordinary operations do. -/
theorem secretValue_none_error {e : Failure} (h : secretValue d none secrets name = .error e) :
    ∃ fault, e = .ordinary fault := by
  unfold secretValue at h
  split at h
  · cases h
  · dsimp only at h
    split at h
    · rename_i hfails
      cases h
      unfold ifExists at hfails
      split at hfails
      · cases hfails
        exact ⟨_, rfl⟩
      · cases hfails
      · rw [envFileValue_eq] at hfails
        exact saidByEnvFile_error hfails
    · cases h
    · split at h
      · cases h
      · cases h

/-- The failure of a reference whose configuration file cannot have a name so long. -/
def configTooLong (projectDir : Path) : Failure :=
  .ordinary (.os ⟨.nameTooLong, projectDir.child "config.yaml"⟩)

/-- What becomes of a reference when directories are added: nothing, or else it had no value and now its
configuration file has a path that is too long. -/
theorem resolveSecret_grown (hg : d.Grown d') (hr : d.Rooted) (hdots : ".." ∉ d.current)
    (hproject : ".." ∉ (d.absolute (projectDir.child "config.yaml")).names) (parameter : String) :
    resolveSecret d' (some projectDir) secrets parameter = resolveSecret d (some projectDir) secrets parameter ∨
      ∃ name, resolveSecret d (some projectDir) secrets parameter
          = .error (.settings (.secretNotSet name parameter)) ∧
        d'.find (projectDir.child "config.yaml") = .error .nameTooLong := by
  unfold resolveSecret
  split
  · exact .inl rfl
  · rename_i name _
    split
    · exact .inl rfl
    · rw [secretValue_some, secretValue_some, secretValue_none_grown hg hr hdots]
      cases secretValue d none secrets name with
      | error e => exact .inl rfl
      | ok found =>
        cases found with
        | some s => exact .inl rfl
        | none =>
          dsimp only
          rw [fileSecret_eq, fileSecret_eq]
          rcases ifExists_leads (saidByConfig name) (fun _ => rfl) (Disk.leads_find hg hr hproject)
            with hsame | ⟨hmissing, hlong⟩
          · exact .inl (by rw [hsame])
          · refine .inr ⟨name, ?_, hlong⟩
            rw [ifExists, Disk.exists?, hmissing]
            rfl

/-- A reference that had no value, when the path of the configuration file is too long now. -/
theorem resolveSecret_tooLong (hg : d.Grown d') (hr : d.Rooted) (hdots : ".." ∉ d.current)
    {parameter : String} {fault : SettingsFault}
    (h : resolveSecret d (some projectDir) secrets parameter = .error (.settings fault))
    (hset : fault ≠ .emptySecretName)
    (hlong : d'.find (projectDir.child "config.yaml") = .error .nameTooLong) :
    resolveSecret d' (some projectDir) secrets parameter = .error (configTooLong projectDir) := by
  unfold resolveSecret at h ⊢
  split at h
  · cases h
  · rename_i name _
    split at h
    · cases h
      exact absurd rfl hset
    · rename_i hname
      rw [if_neg hname, secretValue_some, secretValue_none_grown hg hr hdots]
      rw [secretValue_some] at h
      cases hearlier : secretValue d none secrets name with
      | error e =>
        obtain ⟨ordinary, rfl⟩ := secretValue_none_error hearlier
        rw [hearlier] at h
        cases h
      | ok found =>
        cases found with
        | some s =>
          rw [hearlier] at h
          cases h
        | none =>
          dsimp only
          rw [ifExists, Disk.exists?, hlong]
          rfl

end LookUps

/-! ## §4 Two disks -/

/-- Both resolve, or both are refused in the same way. -/
abbrev BothResolve (x y : Except Failure String) : Prop := Both (fun _ _ => True) x y

/-- A reference that two disks with the same names resolve, or that they refuse in the same way, remains so
while directories are made on both. -/
theorem bothResolve_grown {d d' e e' : Disk} {projectDir : Path} {secrets secrets' : List (String × String)}
    (hd : d.Grown d') (he : e.Grown e') (hdr : d.Rooted) (her : e.Rooted) (hnames : d'.SameNames e')
    (hcurrent : d.current = e.current) (hdots : ".." ∉ d.current)
    (hproject : ".." ∉ (d.absolute (projectDir.child "config.yaml")).names) {parameter : String}
    (h : BothResolve (resolveSecret d (some projectDir) secrets parameter)
      (resolveSecret e (some projectDir) secrets' parameter)) :
    BothResolve (resolveSecret d' (some projectDir) secrets parameter)
      (resolveSecret e' (some projectDir) secrets' parameter) := by
  have hdots' : ".." ∉ e.current := hcurrent ▸ hdots
  have hproject' : ".." ∉ (e.absolute (projectDir.child "config.yaml")).names := by
    unfold Disk.absolute at hproject ⊢
    rwa [← hcurrent]
  have hlong_iff : d'.find (projectDir.child "config.yaml") = .error .nameTooLong ↔
      e'.find (projectDir.child "config.yaml") = .error .nameTooLong := by
    have hfind := hnames.find (projectDir.child "config.yaml")
    generalize d'.find (projectDir.child "config.yaml") = found,
      e'.find (projectDir.child "config.yaml") = found' at hfind ⊢
    cases hfind with
    | ok _ => exact ⟨nofun, nofun⟩
    | error reason => exact Iff.rfl
  -- both have no value now, for want of a file that could be opened
  have hboth : ∀ name, resolveSecret d (some projectDir) secrets parameter
        = .error (.settings (.secretNotSet name parameter)) →
      resolveSecret e (some projectDir) secrets' parameter
        = .error (.settings (.secretNotSet name parameter)) →
      d'.find (projectDir.child "config.yaml") = .error .nameTooLong →
      BothResolve (resolveSecret d' (some projectDir) secrets parameter)
        (resolveSecret e' (some projectDir) secrets' parameter) := by
    intro name hunset hunset' hlong
    rw [resolveSecret_tooLong hd hdr hdots hunset nofun hlong,
      resolveSecret_tooLong he her hdots' hunset' nofun (hlong_iff.1 hlong)]
    exact .error _
  rcases resolveSecret_grown hd hdr hdots hproject parameter with hsame | ⟨name, hunset, hlong⟩
  · rcases resolveSecret_grown he her hdots' hproject' parameter with hsame' | ⟨name, hunset', hlong⟩
    · rw [hsame, hsame']
      exact h
    · rw [hunset'] at h
      exact hboth name h.error_right hunset' (hlong_iff.2 hlong)
  · rw [hunset] at h
    exact hboth name hunset h.error_left hlong

end BrowserScript
