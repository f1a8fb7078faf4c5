/-
BrowserScript.Proofs.Vocabulary.CookiePlaces — where added cookies belong.

Cookies are described by a text, one object or a list of objects. A browser must be told where a cookie
belongs: by an address, or by a domain and a path. What is described is passed on in one request, and a cookie
with neither address nor domain gets the address of the page. A cookie with a domain is left as it is, whether
or not it has a path.

* `Describes`: the cookies that a text describes, and `readCookies_eq_ok_iff`, `readCookies_error`: what is read
  of it.
* `Placed`: a cookie with at most an address added. `Complete`: a cookie that says where it belongs.
* `Adds P`: the text is declined and nothing is asked, or its cookies are passed on, placed and as `P` says.

Main statement: `setCookies_complete_iff`. The cookies are always passed on like that, and all of them are
complete exactly when each one with a domain has an address or a path as well.
-/
import BrowserScript.Proofs.Browser.Transcript
import BrowserScript.Proofs.Vocabulary.Faults
import Mathlib.Data.List.Forall2

namespace BrowserScript.Vocabulary

open Browser

/-! ## §1 What a text describes -/

/-- A cookie as it is described. -/
abbrev Cookie := List (Value × Value)

/-- The cookies that a text describes: an object by itself, or the objects of a list. -/
inductive Describes (text : String) : List Cookie → Prop
  | one {cookie : Cookie} (h : JsonText.read text = .ok (.dict cookie)) : Describes text [cookie]
  | several {cookies : List Cookie} (h : JsonText.read text = .ok (.list (cookies.map .dict))) :
      Describes text cookies

/-- The object that an item of a list must be. -/
def objectOf : Value → Except Failure Cookie
  | .dict cookie => .ok cookie
  | _ => .error (.input .cookiesNotObjects)

theorem objectOf_eq_ok_iff {v : Value} {cookie : Cookie} : objectOf v = .ok cookie ↔ v = .dict cookie := by
  cases v <;> simp [objectOf]

theorem objectsOf_eq_ok_iff {items : List Value} {cookies : List Cookie} :
    items.mapM objectOf = .ok cookies ↔ items = cookies.map .dict := by
  induction items generalizing cookies with
  | nil => cases cookies <;> simp [pure, Except.pure]
  | cons v items ih =>
    rw [List.mapM_cons]
    cases hv : objectOf v with
    | error e =>
      have hne : ∀ cookie, v ≠ .dict cookie := fun cookie h => by
        rw [objectOf_eq_ok_iff.2 h] at hv
        cases hv
      cases cookies <;> simp [bind, Except.bind, hne]
    | ok cookie =>
      obtain rfl := objectOf_eq_ok_iff.1 hv
      cases hitems : items.mapM objectOf with
      | error e => cases cookies <;> simp [bind, Except.bind, ← ih, hitems]
      | ok rest => cases cookies <;> simp [bind, Except.bind, pure, Except.pure, ← ih, hitems]

theorem readCookies_eq (text : String) : readCookies text = match JsonText.read text with
    | .error (.tooManyDigits count) => .error (.ordinary (.tooManyDigits count))
    | .error .malformed => .error (.input (.cookiesNotJson "the text cannot be read"))
    | .ok (.dict cookie) => .ok [cookie]
    | .ok (.list items) => items.mapM objectOf
    | .ok _ => .error (.input .cookiesNotObjects) := by
  unfold readCookies
  cases JsonText.read text with
  | error fault => cases fault <;> rfl
  | ok v => cases v with
    | list items =>
      refine congrArg (List.mapM · items) (funext fun v => ?_)
      cases v <;> rfl
    | _ => rfl

/-- What is read is what is described. -/
theorem readCookies_eq_ok_iff {text : String} {cookies : List Cookie} :
    readCookies text = .ok cookies ↔ Describes text cookies := by
  rw [readCookies_eq]
  constructor
  · intro h
    split at h
    · cases h
    · cases h
    · rename_i cookie hread
      cases h
      exact .one hread
    · rename_i items hread
      rw [objectsOf_eq_ok_iff] at h
      exact .several (h ▸ hread)
    · cases h
  · intro h
    cases h with
    | one h => simp only [h]
    | several h => simp only [h, objectsOf_eq_ok_iff]

theorem readCookies_error {text : String} {e : Failure} (h : readCookies text = .error e) :
    e.kind = "ValueError" := by
  rw [readCookies_eq] at h
  split at h
  · cases h
    rfl
  · cases h
    rfl
  · cases h
  · obtain ⟨item, -, hitem⟩ := exists_of_mapM_error h
    cases item <;> cases hitem <;> rfl
  · cases h
    rfl

/-! ## §2 Places -/

/-- Whether a cookie has a key. -/
def Has (key : String) (cookie : Cookie) : Prop := (Value.lookup (.text key) cookie).isSome = true

/-- A cookie says where it belongs: it has an address, or both a domain and a path. -/
def Complete (cookie : Cookie) : Prop := Has "url" cookie ∨ Has "domain" cookie ∧ Has "path" cookie

/-- A cookie with nothing changed but for an address at its end, where it had none. -/
inductive Placed (url : String) (cookie : Cookie) : Cookie → Prop
  | unchanged : Placed url cookie cookie
  | added (h : ¬ Has "url" cookie) : Placed url cookie (cookie ++ [(.text "url", .text url)])

theorem has_append {key : String} {cookie more : Cookie} :
    Has key (cookie ++ more) ↔ Has key cookie ∨ Has key more := by
  unfold Has
  induction cookie with
  | nil => simp [Value.lookup]
  | cons e rest ih =>
    simp only [List.cons_append, Value.lookup]
    split
    · simp
    · exact ih

theorem insert_of_not_has {key : String} {v : Value} {cookie : Cookie} (h : ¬ Has key cookie) :
    Value.insert (.text key) v cookie = cookie ++ [(.text key, v)] := by
  unfold Has at h
  induction cookie with
  | nil => rfl
  | cons e rest ih =>
    simp only [Value.lookup] at h
    split at h
    · simp at h
    · rename_i hne
      simp only [Value.insert, if_neg hne, ih h, List.cons_append]

theorem placeCookie_of_has {url : String} {cookie : Cookie} (h : Has "url" cookie ∨ Has "domain" cookie) :
    placeCookie url cookie = cookie := if_pos (by simpa [Has] using h)

theorem placeCookie_of_not_has {url : String} {cookie : Cookie}
    (h : ¬ (Has "url" cookie ∨ Has "domain" cookie)) :
    placeCookie url cookie = cookie ++ [(.text "url", .text url)] := by
  rw [← insert_of_not_has (not_or.mp h).1]
  exact if_neg (by simpa [Has] using h)

theorem placeCookie_placed (url : String) (cookie : Cookie) : Placed url cookie (placeCookie url cookie) := by
  by_cases h : Has "url" cookie ∨ Has "domain" cookie
  · rw [placeCookie_of_has h]
    exact .unchanged
  · rw [placeCookie_of_not_has h]
    exact .added (not_or.mp h).1

/-- A placed cookie is complete unless it has a domain and nothing else that says where it belongs. -/
theorem placeCookie_complete_iff (url : String) (cookie : Cookie) :
    Complete (placeCookie url cookie) ↔ (Has "domain" cookie → Has "url" cookie ∨ Has "path" cookie) := by
  by_cases h : Has "url" cookie ∨ Has "domain" cookie
  · rw [placeCookie_of_has h, Complete]
    constructor
    · rintro (haddress | ⟨-, hpath⟩) -
      · exact .inl haddress
      · exact .inr hpath
    · intro hplaced
      rcases h with haddress | hdomain
      · exact .inl haddress
      · exact (hplaced hdomain).imp_right fun hpath => ⟨hdomain, hpath⟩
  · have haddress : Has "url" [(.text "url", .text url)] := rfl
    rw [placeCookie_of_not_has h]
    exact iff_of_true (.inl (has_append.2 (.inr haddress))) fun hdomain => absurd (.inr hdomain) h

/-! ## §3 The action -/

/-- A text is declined as a wrong value and nothing is asked, or its cookies are passed on in one request, each
of them placed and as `P` says. -/
inductive Adds (P : Cookie → Prop) (text : String) (m : Machine) (page : String) :
    Except Failure Value × Machine → Prop
  | declined {e : Failure} (hkind : e.kind = "ValueError") : Adds P text m page (.error e, m)
  | added {given passed : List Cookie} {result : Except Failure Value} {m' : Machine}
      (hgiven : Describes text given)
      (hplaced : List.Forall₂ (Placed (m.world.page page).url) given passed)
      (hlog : m'.world.log = m.world.log ++ [.context (.addCookies (passed.map .dict))])
      (hall : ∀ cookie ∈ passed, P cookie) : Adds P text m page (result, m')

variable (s : Settings) (m : Machine) (page text : String) (rest : List String)

theorem setCookies_of_error {e : Failure} (h : readCookies text = .error e) :
    (setCookies s (text :: rest)).run m page = (.error e, m) := by
  show (Script.bind (Script.ofExcept (readCookies text)) _).run m page = _
  rw [h]
  rfl

/-- The cookies are passed on with the address of the page where it is missing. -/
theorem setCookies_of_ok {given : List Cookie} (h : readCookies text = .ok given) :
    ((setCookies s (text :: rest)).run m page).2.world.log
      = m.world.log ++ [.context (.addCookies
          ((given.map (placeCookie (m.world.page page).url)).map .dict))] := by
  have hscript : setCookies s (text :: rest) = .ask .url fun reply => Script.ofExcept reply >>= fun url =>
      Script.query (.addCookies (given.map fun cookie => .dict (placeCookie url cookie))) >>= fun _ =>
        pure (.record [("count", .int given.length)]) := by
    show Script.bind (Script.ofExcept (readCookies text)) _ = _
    rw [h]
    rfl
  let added := given.map fun cookie => Value.dict (placeCookie (m.world.page page).url cookie)
  have hlog : (m.answer page (.addCookies added)).2.world.log = m.world.log ++ [.context (.addCookies added)] :=
    m.answer_log page (.addCookies added)
  have hadded : (given.map (placeCookie (m.world.page page).url)).map Value.dict = added := List.map_map
  rw [hscript, Script.run_ask, hadded, ← hlog]
  show ((Script.query (.addCookies added) >>= fun _ => _).run m page).2.world.log = _
  rw [Script.run_bind, Script.run_query]
  rcases m.answer page (.addCookies added) with ⟨e | u, m'⟩ <;> rfl

variable {s m page text rest}

theorem Describes.unique {given other : List Cookie} (h : Describes text given) (h' : Describes text other) :
    given = other :=
  Except.ok.inj ((readCookies_eq_ok_iff.2 h).symm.trans (readCookies_eq_ok_iff.2 h'))

/-- What is passed on is known, so all that can be asked of it is asked of the described cookies with their
places. -/
theorem setCookies_adds_iff (P : Cookie → Prop) :
    Adds P text m page ((setCookies s (text :: rest)).run m page) ↔
      ∀ given, Describes text given → ∀ cookie ∈ given, P (placeCookie (m.world.page page).url cookie) := by
  cases hread : readCookies text with
  | error e =>
    refine iff_of_true ?_ fun given hgiven => ?_
    · rw [setCookies_of_error s m page text rest hread]
      exact .declined (readCookies_error hread)
    · rw [readCookies_eq_ok_iff.2 hgiven] at hread
      cases hread
  | ok given =>
    have hgiven := readCookies_eq_ok_iff.1 hread
    have hlog := setCookies_of_ok s m page text rest hread
    generalize (setCookies s (text :: rest)).run m page = final at hlog ⊢
    constructor
    · intro h other hother cookie hcookie
      obtain rfl := hgiven.unique hother
      cases h with
      | declined hkind => simp at hlog
      | added _ _ hpassed hall =>
        have hentries := List.append_cancel_left (hpassed.symm.trans hlog)
        simp only [List.cons.injEq, Entry.context.injEq, ContextCall.addCookies.injEq, and_true] at hentries
        obtain rfl := List.map_injective_iff.2 (fun _ _ h => Value.dict.inj h) hentries
        exact hall _ (List.mem_map_of_mem hcookie)
    · intro h
      obtain ⟨result, m'⟩ := final
      refine .added hgiven ?_ hlog ?_
      · exact List.forall₂_map_right_iff.2 (List.forall₂_same.2 fun cookie _ => placeCookie_placed _ cookie)
      · exact List.forall_mem_map.2 (h given hgiven)

/-- Cookies that are described by a text are passed on in one request, in their order and with nothing changed
but for the address of the page where one has no address; any other text is declined as a wrong value, and
nothing is asked. All cookies that are passed on say where they belong, by an address or by a domain and a path,
exactly when each described cookie with a domain has an address or a path as well. -/
theorem setCookies_complete_iff (s : Settings) (m : Machine) (page text : String) (rest : List String) :
    Adds (fun _ => True) text m page ((setCookies s (text :: rest)).run m page) ∧
      (Adds Complete text m page ((setCookies s (text :: rest)).run m page) ↔
        ∀ given, Describes text given → ∀ cookie ∈ given,
          Has "domain" cookie → Has "url" cookie ∨ Has "path" cookie) := by
  refine ⟨(setCookies_adds_iff _).2 fun _ _ _ _ => trivial, ?_⟩
  simp only [setCookies_adds_iff, placeCookie_complete_iff]

/-- A cookie with a domain and no path. -/
def pathlessCookie : String := "\x7b\"name\": \"a\", \"value\": \"1\", \"domain\": \"x.org\"\x7d"

theorem pathlessCookie_read : ∃ cookie : Cookie, JsonText.read pathlessCookie = .ok (.dict cookie) ∧
    Has "domain" cookie ∧ ¬ (Has "url" cookie ∨ Has "path" cookie) := by
  have hkeys : (((JsonText.read pathlessCookie).toOption.bind fun v => (objectOf v).toOption).map fun cookie =>
      ["domain", "url", "path"].map fun key => (Value.lookup (.text key) cookie).isSome) =
        some [true, false, false] := by decide +kernel
  cases hread : JsonText.read pathlessCookie with
  | error => simp [hread, Except.toOption] at hkeys
  | ok v =>
    cases hobject : objectOf v with
    | error => simp [hread, hobject, Except.toOption] at hkeys
    | ok cookie =>
      rw [objectOf_eq_ok_iff.mp hobject]
      exact ⟨cookie, rfl, by simpa [Has, hread, hobject, Except.toOption] using hkeys⟩

/-- A browser with one page. -/
def onePage : Machine where
  disk := { entries := [], current := [], environment := [] }
  config := {}
  world := { pages := [{ name := "main" }], context := ["main"] }
  tab := .on "main" true

/-- It is passed on as it is, and does not say where it belongs. -/
theorem setCookies_incomplete :
    ¬ Adds Complete pathlessCookie onePage "main" ((setCookies {} [pathlessCookie]).run onePage "main") := by
  intro h
  obtain ⟨cookie, hread, hdomain, hneither⟩ := pathlessCookie_read
  have hcomplete := (setCookies_adds_iff _).1 h [cookie] (.one hread) cookie List.mem_cons_self
  exact hneither ((placeCookie_complete_iff _ cookie).1 hcomplete hdomain)

end BrowserScript.Vocabulary
