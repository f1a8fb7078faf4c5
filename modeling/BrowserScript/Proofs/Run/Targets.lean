/-
BrowserScript.Proofs.Run.Targets — which elements an action acts on.

An action with targets resolves a description to a selector before it uses the selector, and it uses the
selector of the right description. Between resolving and using it looks at nothing else, so on a page that
answers plainly all that it does can be said in advance.

* `usedSelectors`: the selectors of the requests that are no probes, in their order.
* `Script.Uses`: what a script uses that has its selectors already.
* `Aims`: what a script uses that has to resolve some descriptions, from a machine on. Resolving is one rule
  (`Aims.resolve`), and a script that has all its selectors is the other (`Aims.of_uses`).
* `targetUses` lists the actions with targets, `aims_builtIn` goes through them.

Main statement: `handled_targets`. `handled_targets_upload` is an upload next to a heading of the same name.
-/
import BrowserScript.Proofs.Run.LostSession
import BrowserScript.Proofs.Run.Validation
import BrowserScript.Proofs.Settings.References
import BrowserScript.Proofs.Target.FirstShown
import BrowserScript.Proofs.Vocabulary.Raising

namespace BrowserScript

variable {α β : Type}

/-! ## §1 Selectors in use -/

/-- Whether a failure is that of a target that is not found. -/
def Failure.missesTarget : Failure → Bool
  | .targetNotFound .. => true
  | _ => false

/-- A failure other than that of a target that is not found. -/
abbrev Failure.Found (e : Failure) : Prop := e.missesTarget = false

theorem Failure.Mishap.found {e : Failure} (h : e.Mishap) : e.Found := by
  cases e with
  | targetNotFound => cases h
  | _ => rfl

namespace Browser

open Failure (Found)

theorem usual_found : Usual Found := ⟨fun _ => rfl, fun _ => rfl⟩

theorem secretsFail_found : SecretsFail Found := by
  intro disk projectDir secrets parameter e he
  obtain ⟨fault, rfl⟩ | ⟨fault, rfl⟩ := resolveSecret_error he <;> rfl

/-- The selector that a request to a page uses; probes only look for one. -/
def Call.selector? : Call → Option String
  | .waitVisible selector _ | .query selector | .click selector | .fill selector _ | .press selector _
  | .check selector | .uncheck selector | .hover selector | .focus selector | .attachFile selector _
  | .textContent selector | .selectOption selector _ _ | .outerHtml selector | .matchOption selector _
  | .scrollIntoView selector => some selector
  | .clickFound selector => some selector.plain
  | _ => none

/-- The selector that a question uses. -/
def Question.selector? : Question → Option String
  | .page call => call.selector?
  | _ => none

/-- The selectors that are used in some exchanges, in their order. -/
def usedSelectors (t : List Exchange) : List String := t.filterMap (·.question.selector?)

theorem usedSelectors_append (t u : List Exchange) :
    usedSelectors (t ++ u) = usedSelectors t ++ usedSelectors u := List.filterMap_append

/-- Looks only look for a selector. -/
theorem Script.Composed.usedSelectors_eq_nil {F : Failure → Prop} {s : Script α}
    (h : s.Composed (fun _ => False) F) (m : Machine) (page : String) :
    usedSelectors (s.transcript m page) = [] := by
  have hnone : s.Asks (·.selector? = none) := h.asks (fun _ hq => hq.elim) (fun _ _ => rfl)
  exact List.filterMap_eq_nil_iff.2 (hnone.run m page)

/-- The script uses these selectors one after the other, all of them if it has a result, and does not fail for
a target that is not found. -/
structure Script.Uses (selectors : List String) (s : Script α) : Prop where
  used : s.Ensures (fun t r => usedSelectors t <+: selectors ∧ ∀ a, r = .ok a → usedSelectors t = selectors)
  raises : s.Raises Found

namespace Script.Uses

variable {s : Script α} {l k : List String}

theorem done (a : α) : (Script.done a).Uses [] := ⟨⟨List.prefix_refl _, fun _ _ => rfl⟩, .done a⟩

theorem fail {e : Failure} (he : e.Found) : (Script.fail e : Script α).Uses l :=
  ⟨⟨List.nil_prefix, nofun⟩, .fail he⟩

theorem ofExcept {r : Except Failure α} (h : ∀ e, r = .error e → e.Found) : (Script.ofExcept r).Uses [] := by
  cases r with
  | ok a => exact .done a
  | error e => exact .fail (h e rfl)

theorem query (q : Question) : (Script.query q).Uses q.selector?.toList := by
  refine ⟨Ensures.query fun reply => ?_, .query q⟩
  have hused : usedSelectors [⟨q, reply⟩] = q.selector?.toList := by
    cases hselector : q.selector? <;> simp [usedSelectors, hselector]
  exact ⟨hused ▸ List.prefix_refl _, fun _ _ => hused⟩

theorem quiet {q : Question} (hq : q.selector? = none) : (Script.query q).Uses [] := by
  have h := Uses.query q
  rwa [hq] at h

theorem bind {f : α → Script β} (hs : s.Uses l) (hf : ∀ a, (f a).Uses k) : (s >>= f).Uses (l ++ k) := by
  refine ⟨Ensures.bind hs.used ?_ ?_, hs.raises.bind fun a => (hf a).raises⟩
  · rintro t a ⟨-, ht⟩
    refine (hf a).used.mono ?_
    rintro u r ⟨hbegins, hall⟩
    rw [usedSelectors_append, ht a rfl]
    exact ⟨(List.prefix_append_right_inj l).2 hbegins, fun b hb => by rw [hall b hb]⟩
  · rintro t e ⟨ht, -⟩
    exact ⟨ht.trans (List.prefix_append l k), nofun⟩

end Script.Uses
end Browser

/-! ## §2 Descriptions to resolve -/

namespace Target

open Browser

/-- The first of some descriptions that stands for nothing on a page. -/
def missing (p : Page) (descriptions : List String) : Option String :=
  descriptions.find? fun d => (firstShown p d).isNone

/-- Selectors are used in the order of the descriptions that they stand for, all of them before there is a
result. If a description stands for nothing, the first one that does is the failure; if none does, no failure
says so. -/
structure Aimed (p : Page) (descriptions selectors : List String) (r : Except Failure α) : Prop where
  used : selectors.map some <+: descriptions.map (firstShown p)
  finished : ∀ a, r = .ok a → selectors.map some = descriptions.map (firstShown p)
  missed : ∀ d, missing p descriptions = some d → r = .error (notShown p d)
  found : missing p descriptions = none → ∀ e, r = .error e → e.Found

theorem Aimed.notFound_iff {p : Page} {descriptions selectors : List String} {r : Except Failure α}
    (h : Aimed p descriptions selectors r) (d : String) (tried : Nat) (hidden : List String) :
    r = .error (.targetNotFound d tried hidden) ↔ missing p descriptions = some d ∧
      tried = (candidates d none).length ∧ hidden = (candidates d none).filter p.hides := by
  constructor
  · intro hr
    cases hmissing : missing p descriptions with
    | none => cases h.found hmissing _ hr
    | some d' =>
      have hfailure := Except.error.inj (hr.symm.trans (h.missed d' hmissing))
      obtain ⟨rfl, htried, hhidden⟩ := Failure.targetNotFound.inj hfailure
      exact ⟨rfl, htried, hhidden⟩
  · rintro ⟨hmissing, htried, hhidden⟩
    rw [htried, hhidden]
    exact h.missed d hmissing

/-- From this machine on, whatever its log is, the script aims at these descriptions. -/
def Aims (m : Machine) (page : String) (descriptions : List String) (s : Script α) : Prop :=
  ∀ log, Aimed (m.world.page page) descriptions (usedSelectors (s.transcript (m.withLog log) page))
    (s.run (m.withLog log) page).1

namespace Aims

variable {m : Machine} {page : String} {descriptions : List String}

/-- The description is resolved, and the script goes on with its selector. Without one it fails, so no other
description may be missing before it. -/
theorem resolve {timeout : Int} {d : String} {f : String → Script α} (hplain : (m.world.page page).Plain)
    (hmissing : firstShown (m.world.page page) d = none →
      missing (m.world.page page) descriptions = some d)
    (hf : ∀ selector, firstShown (m.world.page page) d = some selector →
      Aims m page descriptions (f selector)) :
    Aims m page descriptions (resolveTarget timeout d none >>= f) := by
  intro log
  have hpage : (m.withLog log).world.page page = m.world.page page := rfl
  obtain ⟨log', hrun⟩ := resolveTarget_plain timeout hplain hpage d
  have hquiet := (composed_resolveTarget (F := fun _ => True) timeout d none
    fun _ _ _ => trivial).usedSelectors_eq_nil (m.withLog log) page
  rw [Script.transcript_bind, Script.run_bind, usedSelectors_append, hquiet, hrun, List.nil_append]
  cases hfirst : firstShown (m.world.page page) d with
  | some selector => exact hf selector hfirst log'
  | none =>
    have hmissed := hmissing hfirst
    refine ⟨List.nil_prefix, nofun, ?_, ?_⟩
    · intro d' hd'
      cases hmissed.symm.trans hd'
      rfl
    · intro hnone
      cases hmissed.symm.trans hnone

/-- A question that uses no selector and whose answer is known. -/
theorem known {q : Question} {a : q.Reply} {f : q.Reply → Script α} (hq : q.selector? = none)
    (hanswer : ∀ log, (m.withLog log).answer page q = (.ok a, m.withLog log))
    (hf : Aims m page descriptions (f a)) : Aims m page descriptions (Script.query q >>= f) := by
  intro log
  have hused : usedSelectors ((Script.query q).transcript (m.withLog log) page) = [] := by
    show usedSelectors (⟨q, _⟩ :: _) = []
    simp [usedSelectors, hq, hanswer, Script.ofExcept, Script.transcript]
  rw [Script.transcript_bind, Script.run_bind, usedSelectors_append, hused, Script.run_query, hanswer,
    List.nil_append]
  exact hf log

/-- All descriptions stand for a selector, and these are the selectors that the script uses. -/
theorem of_uses {s : Script α} {selectors : List String} (hstore : m.world.FailsOnly Failure.Mishap)
    (hs : s.Uses selectors)
    (hselectors : descriptions.map (firstShown (m.world.page page)) = selectors.map some) :
    Aims m page descriptions s := by
  intro log
  obtain ⟨hbegins, hall⟩ := hs.used.run (m.withLog log) page
  have hstore' : (m.withLog log).world.FailsOnly Failure.Found :=
    World.FailsOnly.mono (fun _ => Failure.Mishap.found) { hstore with }
  have hfound := hs.raises.run (m.withLog log) page fun x hx =>
    Script.transcript_within usual_found hstore' page s x hx fun _ _ => secretsFail_found
  have hnone : missing (m.world.page page) descriptions = none := by
    refine List.find?_eq_none.2 fun d hd => ?_
    obtain ⟨selector, -, hselector⟩ := List.mem_map.1 (hselectors ▸ List.mem_map_of_mem hd)
    simp [← hselector]
  refine ⟨?_, fun a ha => ?_, fun d hd => ?_, fun _ => hfound⟩
  · rw [hselectors]
    exact hbegins.map some
  · rw [hall a ha, hselectors]
  · cases hnone.symm.trans hd

end Aims
end Target

/-! ## §3 Actions with targets -/

namespace Vocabulary

open Browser Instruction Target

/-- The actions that act on elements, with the parameters that describe them: one entry for each time that the
selector of the element is used, in the order of the uses. -/
def targetUses : List (String × List Nat) := [
  ("click", [0]),
  ("type", [0, 0]),
  ("typeAndSubmit", [0, 0, 0]),
  ("waitForSelector", [0]),
  ("scrollIntoView", [0]),
  ("selectOption", [0, 0]),
  ("check", [0]),
  ("uncheck", [0]),
  ("hover", [0]),
  ("focus", [0]),
  ("uploadFile", [0]),
  ("dragAndDrop", [0, 1]),
  ("extractText", [0]),
  ("extractHTML", [0])]

/-- The parameter at a position. -/
def description (params : List String) (i : Nat) : String := params[i]?.getD ""

/-- The second parameter is the path of a file that is there. -/
def NamesFile (disk : File.Disk) (params : List String) : Prop :=
  ∃ written path, params[1]? = some written ∧
    (File.Path.ofString written).expandHome disk.home = some path ∧ disk.isFile path = .ok true

variable (s : Settings) (params : List String)

theorem param_eq {i : Nat} (hi : i < params.length) : param params i = .done (description params i) := by
  unfold param description
  rw [List.getElem?_eq_getElem hi]
  rfl

theorem target_eq {i : Nat} (hi : i < params.length) :
    target s params i = resolveTarget s.probeTimeout (description params i) none := by
  rw [target, param_eq params hi, Script.bind_done]

theorem uses_param (i : Nat) : (param params i).Uses [] := by
  unfold param
  split
  · exact .done _
  · exact .fail rfl

theorem uses_centre (selector : String) : (centre selector).Uses [selector] := by
  refine .bind (k := []) (.query (.page (.query selector))) fun found => ?_
  dsimp only
  split
  · refine .ofExcept fun e he => ?_
    cases hcentre : boxCentre ((found.map Element.box).getD .null) with
    | ok _ => rw [hcentre] at he; cases he
    | error _ => rw [hcentre] at he; cases he; rfl
  · exact .fail rfl

section

variable {m : Machine} {page : String} (hplain : (m.world.page page).Plain)
  (hstore : m.world.FailsOnly Failure.Mishap) {params : List String}
include hplain

/-- The description that is resolved first stands first. -/
theorem aims_target {f : String → Script α} {i : Nat} {positions : List Nat} (hi : i < params.length)
    (hf : ∀ selector, firstShown (m.world.page page) (description params i) = some selector →
      Aims m page ((i :: positions).map (description params)) (f selector)) :
    Aims m page ((i :: positions).map (description params)) (target s params i >>= f) := by
  rw [target_eq s params hi]
  exact .resolve hplain (fun hnone => by simp [missing, hnone]) hf

include hstore

/-- An action with one target, whose selector it uses a number of times. -/
theorem aims_single {f : String → Script α} {n : Nat} (hlength : 0 < params.length)
    (hf : ∀ selector, (f selector).Uses (List.replicate (n + 1) selector)) :
    Aims m page ((List.replicate (n + 1) 0).map (description params)) (target s params 0 >>= f) := by
  rw [List.replicate_succ]
  refine aims_target s hplain hlength fun selector hselector => ?_
  exact .of_uses hstore (hf selector) (by simp [List.replicate_succ, hselector])

theorem aims_onTarget {request : String → Script Unit} (hlength : 0 < params.length)
    (hrequest : ∀ selector, (request selector).Uses [selector]) :
    Aims m page ([0].map (description params)) (onTarget request s params) :=
  aims_single (n := 0) s hplain hstore hlength fun selector => .bind (hrequest selector) fun _ => .done _

/-- Typing uses the selector twice, and what comes after it may use the same one again. -/
theorem aims_typeInto {f : String → Script α} {n : Nat} (hlength : 0 < params.length)
    (hf : ∀ selector, (f selector).Uses (List.replicate n selector)) :
    Aims m page ((0 :: 0 :: List.replicate n 0).map (description params)) (typeInto s params >>= f) := by
  have hassoc : typeInto s params >>= f = target s params 0 >>= fun selector =>
      param params 1 >>= fun text => Script.secret text >>= fun value =>
        Script.page (.click selector) >>= fun _ => Script.page (.fill selector value) >>= fun _ =>
          f selector := by
    simp only [typeInto, Script.bind_assoc]
    rfl
  rw [hassoc]
  exact aims_single (n := n + 1) s hplain hstore hlength fun selector =>
    .bind (uses_param params 1) fun text => .bind (.query (.secret text)) fun value =>
      .bind (.query (.page (.click selector))) fun _ => .bind (.query (.page (.fill selector value))) fun _ =>
        hf selector

theorem aims_selectOption (hlength : 0 < params.length) :
    Aims m page ([0, 0].map (description params)) (selectOption s params) := by
  refine aims_single (n := 1) s hplain hstore hlength fun selector =>
    .bind (k := [selector, selector]) (uses_param params 1) fun option =>
      .bind (k := [selector]) (.query (.page (.matchOption selector option))) ?_
  rintro (_ | part)
  · exact .fail rfl
  · exact .bind (.query (.page (.selectOption selector part option))) fun _ => .done _

theorem aims_dragAndDrop (hlength : 1 < params.length) :
    Aims m page ([0, 1].map (description params)) (dragAndDrop s params) := by
  refine aims_target s hplain (by omega) fun source hsource => ?_
  rw [target_eq s params hlength]
  refine .resolve hplain (fun hnone => by simp [missing, hsource, hnone]) fun goal hgoal => ?_
  exact .of_uses hstore (.bind (uses_centre source) fun _ => .bind (uses_centre goal) fun _ =>
    .bind (.quiet rfl) fun _ => .bind (.quiet rfl) fun _ => .bind (.quiet rfl) fun _ =>
    .bind (.quiet rfl) fun _ => .done _) (by simp [hsource, hgoal])

theorem aims_uploadFile (hfile : NamesFile m.disk params) (hlength : 0 < params.length) :
    Aims m page ([0].map (description params)) (uploadFile s params) := by
  obtain ⟨written, path, hwritten, hexpanded, hexists⟩ := hfile
  have hparam : param params 1 = .done written := by
    unfold param
    rw [hwritten]
    rfl
  have hhome : ∀ log, (m.withLog log).answer page (.expandHome (File.Path.ofString written))
      = (.ok path, m.withLog log) := by
    intro log
    simp only [Machine.answer]
    rw [show (m.withLog log).disk = m.disk from rfl, hexpanded]
  have hthere : ∀ log, (m.withLog log).answer page (.isFile path) = (.ok true, m.withLog log) := by
    intro log
    simp only [Machine.answer]
    rw [show (m.withLog log).disk = m.disk from rfl, hexists]
    rfl
  unfold uploadFile
  rw [hparam, Script.bind_done]
  refine .known rfl hhome (.known rfl hthere ?_)
  exact aims_single (n := 0) s hplain hstore hlength fun selector =>
    .bind (.query (.page (.attachFile selector path.toString))) fun _ => .done _

end

/-- If the action has targets, and finds the file that it uploads, it aims at them. -/
def AimsAtTargets (m : Machine) (page : String) (s : Settings) (params : List String)
    (spec : ActionSpec Handler) : Prop :=
  ∀ positions, targetUses.lookup spec.key = some positions → (∀ i ∈ positions, i < params.length) →
    (spec.key = "uploadFile" → NamesFile m.disk params) →
      Aims m page (positions.map (description params)) (spec.handler s params)

namespace AimsAtTargets

variable {m : Machine} {page : String} {s : Settings} {params : List String} {spec : ActionSpec Handler}

theorem other (hnone : targetUses.lookup spec.key = none) : AimsAtTargets m page s params spec := by
  intro positions hsome
  cases hnone.symm.trans hsome

theorem listed {expected : List Nat} (hsome : targetUses.lookup spec.key = some expected)
    (haims : (∀ i ∈ expected, i < params.length) → (spec.key = "uploadFile" → NamesFile m.disk params) →
      Aims m page (expected.map (description params)) (spec.handler s params)) :
    AimsAtTargets m page s params spec := by
  intro positions h
  cases hsome.symm.trans h
  exact haims

end AimsAtTargets

/-- Every built-in action with targets aims at them. -/
theorem aims_builtIn {m : Machine} {page : String} (hplain : (m.world.page page).Plain)
    (hstore : m.world.FailsOnly Failure.Mishap) (s : Settings) (params : List String) :
    ∀ spec ∈ builtInSpecs, AimsAtTargets m page s params spec := by
  unfold builtInSpecs
  simp only [List.forall_mem_cons]
  refine ⟨.other (by decide),
    .listed (by decide) fun h _ => aims_onTarget s hplain hstore (h 0 (by decide)) fun selector =>
      .query (.page (.click selector)),
    .other (by decide),
    .listed (by decide) fun h _ => aims_typeInto (n := 1) s hplain hstore (h 0 (by decide)) fun selector =>
      .bind (.query (.page (.press selector "Enter"))) fun _ => .done _,
    .listed (by decide) fun h _ => aims_typeInto (n := 0) s hplain hstore (h 0 (by decide)) fun _ => .done _,
    .other (by decide),
    .listed (by decide) fun h _ => aims_onTarget s hplain hstore (h 0 (by decide)) fun selector =>
      .query (.page (.waitVisible selector s.actionTimeout)),
    .other (by decide), .other (by decide),
    .listed (by decide) fun h _ => aims_single (n := 0) s hplain hstore (h 0 (by decide)) fun selector =>
      .bind (.query (.page (.textContent selector))) fun _ => .done _,
    .listed (by decide) fun h _ => aims_single (n := 0) s hplain hstore (h 0 (by decide)) fun selector =>
      .bind (.query (.page (.outerHtml selector))) fun _ => .done _,
    .listed (by decide) fun h _ => aims_onTarget s hplain hstore (h 0 (by decide)) fun selector =>
      .query (.page (.scrollIntoView selector)),
    .other (by decide),
    .listed (by decide) fun h _ => aims_selectOption s hplain hstore (h 0 (by decide)),
    .listed (by decide) fun h _ => aims_onTarget s hplain hstore (h 0 (by decide)) fun selector =>
      .query (.page (.check selector)),
    .listed (by decide) fun h _ => aims_onTarget s hplain hstore (h 0 (by decide)) fun selector =>
      .query (.page (.uncheck selector)),
    .listed (by decide) fun h _ => aims_onTarget s hplain hstore (h 0 (by decide)) fun selector =>
      .query (.page (.hover selector)),
    .other (by decide),
    .listed (by decide) fun h hfile => aims_uploadFile s hplain hstore (hfile rfl) (h 0 (by decide)),
    .other (by decide), .other (by decide),
    .listed (by decide) fun h _ => aims_dragAndDrop s hplain hstore (h 1 (by decide)),
    .other (by decide), .other (by decide),
    .listed (by decide) fun h _ => aims_onTarget s hplain hstore (h 0 (by decide)) fun selector =>
      .query (.page (.focus selector)),
    .other (by decide), .other (by decide), .other (by decide), nofun⟩

/-- No line that was understood leaves out a target. -/
theorem targets_lt_minParams : ∀ a ∈ frozenVocabulary.actions, ∀ positions,
    targetUses.lookup a.key = some positions → ∀ i ∈ positions, i < a.minParams := by
  have hall : frozenVocabulary.actions.all
      (fun a => ((targetUses.lookup a.key).getD []).all (· < a.minParams)) = true := by decide +kernel
  intro a ha positions hkey i hi
  have h := List.all_eq_true.1 hall a ha
  rw [hkey, Option.getD_some, List.all_eq_true] at h
  simpa using h i hi

end Vocabulary

namespace Run

open Browser Instruction Vocabulary Target

variable {m : Machine} {line marker : String} {a : Action Handler} {params : List String}

/-- An action has the parameters that describe its targets. -/
theorem targets_lt_length {positions : List Nat}
    (hasks : Asks ⟨frozenVocabulary, frozenVocabulary, marker⟩ line a params)
    (hkey : targetUses.lookup a.key = some positions) : ∀ i ∈ positions, i < params.length := by
  obtain ⟨key, hparse, hlookup⟩ := hasks.request
  obtain ⟨b, hb, hsame, rest, htakes⟩ := exists_takes_of_parse hasks.counts hparse
  have hkeys : a.key = b.key := (Registry.lookup_key hlookup).trans hsame.symm
  rw [hkeys] at hkey
  intro i hi
  exact Nat.lt_of_lt_of_le (targets_lt_minParams b hb positions hkey i hi) htakes.minParams_le

/-- The page that an action acts on, as it is when the action starts. -/
def actedOn (m : Machine) : Page := m.world.page (sync m).tab.current

/-- Let a line ask for a built-in action with targets, while the page that it acts on answers plainly and the
browser has only mishaps in store, as every described browser does; a file that is uploaded is there. Then
every request of the action that uses a selector, and is no probe, uses the first candidate that shows an
element, for the description that belongs to this use; once there is a result, all uses were made. The failure
that a target is not found stands for the first description without such a candidate, with the number of its
candidates and those that hide an element, and it comes if and only if there is one. -/
theorem handled_targets {positions : List Nat}
    (hasks : Asks ⟨frozenVocabulary, frozenVocabulary, marker⟩ line a params)
    (hkey : targetUses.lookup a.key = some positions) (hplain : (actedOn m).Plain)
    (hstore : m.world.FailsOnly Failure.Mishap)
    (hfile : a.key = "uploadFile" → NamesFile m.disk params) :
    (∀ i ∈ positions, i < params.length) ∧
      (usedSelectors (exchanges m a params)).map some
        <+: (positions.map (description params)).map (firstShown (actedOn m)) ∧
      (∀ value, (handled m a params).1 = .ok value →
        (usedSelectors (exchanges m a params)).map some
          = (positions.map (description params)).map (firstShown (actedOn m))) ∧
      ∀ d tried hidden, (handled m a params).1 = .error (.targetNotFound d tried hidden) ↔
        missing (actedOn m) (positions.map (description params)) = some d ∧
          tried = (candidates d none).length ∧ hidden = (candidates d none).filter (actedOn m).hides := by
  obtain ⟨key, -, hlookup⟩ := hasks.request
  obtain ⟨spec, hspec, hof⟩ := exists_ofSpec hlookup
  obtain ⟨hsame, hhandler, -⟩ := Action.ofSpec_eq_ok hof
  have hlength := targets_lt_length hasks hkey
  rw [hsame] at hkey hfile
  have haims := aims_builtIn (m := sync m) hplain hstore m.config.toSettings params spec hspec positions hkey
    hlength hfile
  rw [← hhandler] at haims
  have haimed := haims m.world.log
  exact ⟨hlength, haimed.used, haimed.finished, haimed.notFound_iff⟩

/-- The action that uploads a file. -/
def uploading : Action Handler := (frozenVocabulary.lookup "uploadFile").get (by decide +kernel)

theorem uploading_handler : uploading.handler = uploadFile := by rfl

theorem uploading_key : uploading.key = "uploadFile" := Registry.lookup_key (Option.some_get _).symm

/-- A page with a heading that cannot be seen and a field for a photo, and a disk with a photo. -/
def album : Machine :=
  { showing [("Photo", { visible := .bool false }), ("input[name*=\"Photo\" i]", {})] with
    disk := { entries := [(["me.png"], .file (.text ""))], current := [], environment := [] } }

theorem asks_uploading :
    Asks (Runner.of frozenVocabulary {}) "upload Photo, me.png" uploading ["Photo", "me.png"] :=
  asks_of_parse (by decide +kernel) (by decide +kernel) (Option.some_get _).symm

theorem plain_album : (actedOn album).Plain := by
  refine ⟨by decide +kernel, ?_⟩
  have hall : (actedOn album).elements.all (·.2.visibilityFailure.isNone) = true := by decide +kernel
  intro x hx
  simpa using List.all_eq_true.1 hall x hx

/-- The heading comes first but cannot be seen, so the photo goes to the field. -/
theorem handled_targets_upload :
    (∃ value, (handled album uploading ["Photo", "me.png"]).1 = .ok value) ∧
      usedSelectors (exchanges album uploading ["Photo", "me.png"]) = ["input[name*=\"Photo\" i]"] := by
  have hpage : ∀ p ∈ album.world.pages, p.FailsOnly Failure.Mishap := by
    intro p hp
    rw [List.mem_singleton.1 hp]
    refine ⟨?_, nofun, nofun, nofun⟩
    simp [Element.FailsOnly]
  have hkey : targetUses.lookup uploading.key = some [0] := by
    rw [uploading_key]
    decide
  have hfile : NamesFile album.disk ["Photo", "me.png"] :=
    ⟨"me.png", ⟨"", ["me.png"]⟩, rfl, by decide +kernel, by decide +kernel⟩
  obtain ⟨-, -, hused, -⟩ :=
    handled_targets asks_uploading hkey plain_album ⟨hpage, nofun, nofun⟩ fun _ => hfile
  have hresult : ∃ value, (handled album uploading ["Photo", "me.png"]).1 = .ok value := by
    unfold handled
    rw [uploading_handler]
    exact ⟨_, rfl⟩
  obtain ⟨value, hvalue⟩ := hresult
  have hfirst : firstShown (actedOn album) "Photo" = some "input[name*=\"Photo\" i]" := by decide +kernel
  have hdescription : description ["Photo", "me.png"] 0 = "Photo" := rfl
  have hselectors := hused value hvalue
  rw [List.map_singleton, List.map_singleton, hdescription, hfirst] at hselectors
  exact ⟨⟨value, hvalue⟩, (List.map_inj_right fun _ _ => Option.some.inj).1 hselectors⟩

end Run
end BrowserScript
