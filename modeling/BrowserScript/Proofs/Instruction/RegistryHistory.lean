/-
BrowserScript.Proofs.Instruction.RegistryHistory — what a registry answers after any history of calls.

A registry is asked to register actions, to freeze, to look keys up, to list its phrases and to read lines, in any
order. Some of the calls fail. What it is then is decided by the calls that succeeded, and nothing else: not by
the refused ones, nor by actions that never passed their check.

* `Operation`, `Answer`, `perform`: one call. `after`, `history`: calls one after the other.
* `perform_cases`: what a call can do. It registers a checked action with a new key, or freezes, or leaves the
  registry as it is.
* `after_actions`: the registered actions are those of the successful calls. By induction on the calls, with
  `perform_cases` for each.
* `after_of_frozen`: a frozen registry is left as it is by all calls.

Main statement: `answers_after_history`.
-/
import BrowserScript.Instruction.Parser
import BrowserScript.Proofs.Instruction.Registration

namespace BrowserScript.Instruction

variable {η : Type}

/-! ## §1 Calls -/

/-- A call on a registry. To register an action is to check it first. -/
inductive Operation (η : Type) where
  | register (spec : ActionSpec η)
  | freeze
  | lookup (key : String)
  | phrases
  | parse (marker line : String)

/-- What comes back from a call. -/
inductive Answer (η : Type) where
  | registered
  | refused (kind message : String)
  | frozen
  | found (action : Option (Action η))
  | listed (entries : List (Phrase × Action η))
  | read (result : Except ParseFailure Request)

namespace Registry

/-- The answer to a call, and the registry after it. -/
def perform (r : Registry η) : Operation η → Answer η × Registry η
  | .register spec =>
    match Action.ofSpec spec with
    | .error fault => (.refused fault.kind fault.message, r)
    | .ok a =>
      match r.register a with
      | .error fault => (.refused fault.kind fault.message, r)
      | .ok r' => (.registered, r')
  | .freeze => (.frozen, r.freeze)
  | .lookup key => (.found (r.lookup key), r)
  | .phrases => (.listed r.phrases, r)
  | .parse marker line => (.read (parse r marker line), r)

/-- The answer to a call. -/
def answer (r : Registry η) (op : Operation η) : Answer η := (r.perform op).1

/-- The registry after calls. -/
def after (r : Registry η) (ops : List (Operation η)) : Registry η := ops.foldl (fun r op => (r.perform op).2) r

/-- Calls with their answers. -/
def history (r : Registry η) : List (Operation η) → List (Operation η × Answer η)
  | [] => []
  | op :: rest => (op, r.answer op) :: history (r.perform op).2 rest

/-- The actions whose registration succeeded, as they were written down. -/
def succeeded (calls : List (Operation η × Answer η)) : List (ActionSpec η) :=
  calls.filterMap (fun
    | (.register spec, .registered) => some spec
    | _ => none)

/-- The actions that calls on an empty registry registered, as they were written down. -/
def accepted (ops : List (Operation η)) : List (ActionSpec η) := succeeded (empty.history ops)

variable {r : Registry η} {a : Action η} {spec : ActionSpec η} {op : Operation η} {ops : List (Operation η)}

theorem perform_of_rejected {fault : SpecFault} (hspec : Action.ofSpec spec = .error fault) (r : Registry η) :
    r.perform (.register spec) = (.refused fault.kind fault.message, r) := by
  simp only [perform, hspec]

theorem perform_of_refused {fault : RegisterFault} (hspec : Action.ofSpec spec = .ok a)
    (hregister : r.register a = .error fault) :
    r.perform (.register spec) = (.refused fault.kind fault.message, r) := by
  simp only [perform, hspec, hregister]

theorem perform_of_registered {r' : Registry η} (hspec : Action.ofSpec spec = .ok a)
    (hregister : r.register a = .ok r') : r.perform (.register spec) = (.registered, r') := by
  simp only [perform, hspec, hregister]

/-- What a call does: it registers a checked action with a new key, it freezes, or it does nothing. -/
theorem perform_cases (r : Registry η) (op : Operation η) :
    (∃ spec a, op = .register spec ∧ Action.ofSpec spec = .ok a ∧ r.frozen = false ∧
      a.key ∉ r.actions.map Action.key ∧
      r.perform op = (.registered, { r with actions := r.actions ++ [a] })) ∨
    (op = .freeze ∧ r.perform op = (.frozen, r.freeze)) ∨
    (op ≠ .freeze ∧ (r.perform op).1 ≠ .registered ∧ (r.perform op).2 = r) := by
  cases op with
  | register spec =>
    cases hspec : Action.ofSpec spec with
    | error fault =>
      rw [perform_of_rejected hspec]
      exact .inr (.inr ⟨nofun, nofun, rfl⟩)
    | ok a =>
      cases hregister : r.register a with
      | error fault =>
        rw [perform_of_refused hspec hregister]
        exact .inr (.inr ⟨nofun, nofun, rfl⟩)
      | ok r' =>
        obtain ⟨hopen, hnew, rfl⟩ := register_eq_ok_iff.1 hregister
        exact .inl ⟨spec, a, rfl, hspec, hopen, hnew, perform_of_registered hspec hregister⟩
  | freeze => exact .inr (.inl ⟨rfl, rfl⟩)
  | lookup key => exact .inr (.inr ⟨nofun, nofun, rfl⟩)
  | phrases => exact .inr (.inr ⟨nofun, nofun, rfl⟩)
  | parse marker line => exact .inr (.inr ⟨nofun, nofun, rfl⟩)

/-- A refused call does nothing. -/
theorem perform_of_answer_refused {kind message : String} (h : r.answer op = .refused kind message) :
    (r.perform op).2 = r := by
  rw [answer] at h
  rcases perform_cases r op with ⟨spec, a, -, -, -, -, hperform⟩ | ⟨-, hperform⟩ | ⟨-, -, hsame⟩
  · rw [hperform] at h
    cases h
  · rw [hperform] at h
    cases h
  · exact hsame

/-- The answer to the registration of a checked action: frozen registries refuse all, others those with a key
that is there. -/
theorem answer_register (hspec : Action.ofSpec spec = .ok a) (r : Registry η) :
    (r.frozen = true → r.answer (.register spec)
      = .refused "RuntimeError" (RegisterFault.frozen spec.key).message) ∧
    (r.frozen = false → spec.key ∈ r.actions.map Action.key → r.answer (.register spec)
      = .refused "ValueError" (RegisterFault.duplicate spec.key).message) ∧
    (r.frozen = false → spec.key ∉ r.actions.map Action.key → r.answer (.register spec) = .registered) := by
  have hkey : a.key = spec.key := (Action.ofSpec_eq_ok hspec).1
  have hknown : r.contains a.key = true ↔ spec.key ∈ r.actions.map Action.key := by
    have hnone : r.lookup spec.key = none ↔ _ := lookup_eq_none_iff
    rw [hkey, contains, Option.isSome_iff_ne_none, ne_eq, hnone, not_not]
  refine ⟨?_, ?_, ?_⟩
  · intro hfrozen
    have hregister : r.register a = .error (.frozen a.key) := by rw [register, if_pos hfrozen]
    rw [answer, perform_of_refused hspec hregister, hkey]
    rfl
  · intro hopen hpresent
    have hregister : r.register a = .error (.duplicate a.key) := by
      rw [register, if_neg (by simp [hopen]), if_pos (hknown.2 hpresent)]
    rw [answer, perform_of_refused hspec hregister, hkey]
    rfl
  · intro hopen habsent
    rw [answer, perform_of_registered hspec (register_eq_ok_iff.2 ⟨hopen, hkey ▸ habsent, rfl⟩)]

/-! ## §2 Histories -/

theorem after_cons (r : Registry η) (op : Operation η) (rest : List (Operation η)) :
    r.after (op :: rest) = (r.perform op).2.after rest := rfl

theorem after_append (r : Registry η) (ops later : List (Operation η)) :
    r.after (ops ++ later) = (r.after ops).after later := List.foldl_append

/-- The calls that succeed add their actions, in their order, and no call does anything else to the actions. -/
theorem after_actions (r : Registry η) (ops : List (Operation η)) :
    ∃ added, (r.after ops).actions = r.actions ++ added ∧
      List.Forall₂ (fun spec a => Action.ofSpec spec = .ok a) (succeeded (r.history ops)) added := by
  induction ops generalizing r with
  | nil => exact ⟨[], (List.append_nil _).symm, .nil⟩
  | cons op rest ih =>
    obtain ⟨added, hactions, hadded⟩ := ih (r.perform op).2
    rw [after_cons, history, answer]
    rcases perform_cases r op with
      ⟨spec, a, rfl, hspec, -, -, hperform⟩ | ⟨rfl, hperform⟩ | ⟨-, hno, hsame⟩
    · rw [hperform] at hactions hadded ⊢
      refine ⟨a :: added, ?_, .cons hspec hadded⟩
      rw [hactions, List.append_assoc, List.singleton_append]
    · rw [hperform] at hactions hadded ⊢
      exact ⟨added, hactions, hadded⟩
    · rw [hsame] at hactions hadded ⊢
      refine ⟨added, hactions, ?_⟩
      -- a call may be to register and fail, so its answer decides that it does not count
      have hnone : succeeded ((op, (r.perform op).1) :: r.history rest) = succeeded (r.history rest) := by
        refine List.filterMap_cons_none ?_
        split
        · rename_i hpair
          exact absurd (Prod.ext_iff.1 hpair).2 hno
        · rfl
      rw [hnone]
      exact hadded

theorem Built.after (hr : Built r) (ops : List (Operation η)) : Built (r.after ops) := by
  induction ops generalizing r with
  | nil => exact hr
  | cons op rest ih =>
    rw [after_cons]
    refine ih ?_
    rcases perform_cases r op with
      ⟨spec, a, -, hspec, hopen, hnew, hperform⟩ | ⟨-, hperform⟩ | ⟨-, -, hsame⟩
    · rw [hperform]
      exact hr.register hspec (register_eq_ok_iff.2 ⟨hopen, hnew, rfl⟩)
    · rw [hperform]
      exact hr.freeze
    · rw [hsame]
      exact hr

/-- A registry is frozen once it was told to be. -/
theorem after_frozen_iff (r : Registry η) (ops : List (Operation η)) :
    (r.after ops).frozen = true ↔ r.frozen = true ∨ .freeze ∈ ops := by
  induction ops generalizing r with
  | nil => simp [after]
  | cons op rest ih =>
    rw [after_cons, ih, List.mem_cons]
    rcases perform_cases r op with
      ⟨spec, a, rfl, -, hopen, -, hperform⟩ | ⟨rfl, hperform⟩ | ⟨hother, -, hsame⟩
    · simp [hperform]
    · simp [hperform, freeze]
    · simp [hsame, hother.symm]

/-- A frozen registry stays as it is. -/
theorem after_of_frozen (hr : r.frozen = true) (ops : List (Operation η)) : r.after ops = r := by
  induction ops with
  | nil => rfl
  | cons op rest ih =>
    have hsame : (r.perform op).2 = r := by
      rcases perform_cases r op with ⟨spec, a, -, -, hopen, -, -⟩ | ⟨-, hperform⟩ | ⟨-, -, hsame⟩
      · exact absurd (hr.symm.trans hopen) nofun
      · rw [hperform, freeze, ← hr]
      · exact hsame
    rw [after_cons, hsame, ih]

/-! ## §3 Phrases -/

theorem phrases_ofSpec (h : Action.ofSpec spec = .ok a) :
    a.phrases = (spec.phrase :: spec.aliases).map Action.lowered := by
  unfold Action.ofSpec at h
  split at h
  · cases h
  · split at h
    · cases h
      rfl
    · cases h

/-- The phrases of checked actions are those written down, in lower case, each with its action. -/
theorem phrases_of_forall₂ {specs : List (ActionSpec η)} {actions : List (Action η)}
    (h : List.Forall₂ (fun spec a => Action.ofSpec spec = .ok a) specs actions) (frozen : Bool) :
    phrases ⟨actions, frozen⟩ = (specs.zip actions).flatMap (fun x =>
      (x.1.phrase :: x.1.aliases).map (fun phrase => (phrase.map Text.lower, x.2))) := by
  unfold phrases
  induction h with
  | nil => rfl
  | cons hspec _ ih =>
    rw [List.flatMap_cons, ih, List.zip_cons_cons, List.flatMap_cons, phrases_ofSpec hspec, List.map_map]
    rfl

theorem keys_of_forall₂ {specs : List (ActionSpec η)} {actions : List (Action η)}
    (h : List.Forall₂ (fun spec a => Action.ofSpec spec = .ok a) specs actions) :
    actions.map Action.key = specs.map ActionSpec.key := by
  induction h with
  | nil => rfl
  | cons hspec _ ih => rw [List.map_cons, List.map_cons, ih, (Action.ofSpec_eq_ok hspec).1]

theorem lookup_eq_some_iff (hr : Built r) {key : String} :
    r.lookup key = some a ↔ a ∈ r.actions ∧ a.key = key := by
  constructor
  · exact fun h => ⟨List.mem_of_find?_eq_some h, lookup_key h⟩
  · rintro ⟨ha, rfl⟩
    exact hr.lookup_eq ha

/-! ## §4 Answers -/

/-- After any calls on a registry that was empty:

* the registered actions are those that the calls were accepted for, in their order, and no two of them have one
  key;
* looking a key up finds the action with this key, or nothing;
* the phrases are those written down, the first phrase of an action before the others, all in lower case;
* to register a checked action is a `RuntimeError` if one of the calls was to freeze, otherwise a `ValueError` if
  the key is there, and otherwise succeeds; one that does not pass its check is a `ValueError`;
* a refused call leaves the registry as it is;
* once it is told to freeze, it gives the answers that it gives right then, whatever is called in between. -/
theorem answers_after_history (ops : List (Operation η)) :
    List.Forall₂ (fun spec a => Action.ofSpec spec = .ok a) (accepted ops) (empty.after ops).actions ∧
      ((accepted ops).map ActionSpec.key).Nodup ∧
      (∀ key a, (empty.after ops).lookup key = some a ↔ a ∈ (empty.after ops).actions ∧ a.key = key) ∧
      (empty.after ops).phrases = ((accepted ops).zip (empty.after ops).actions).flatMap (fun x =>
        (x.1.phrase :: x.1.aliases).map (fun phrase => (phrase.map Text.lower, x.2))) ∧
      (∀ spec a, Action.ofSpec spec = .ok a →
        (.freeze ∈ ops → (empty.after ops).answer (.register spec)
          = .refused "RuntimeError" (RegisterFault.frozen spec.key).message) ∧
        (.freeze ∉ ops → spec.key ∈ (accepted ops).map ActionSpec.key →
          (empty.after ops).answer (.register spec)
            = .refused "ValueError" (RegisterFault.duplicate spec.key).message) ∧
        (.freeze ∉ ops → spec.key ∉ (accepted ops).map ActionSpec.key →
          (empty.after ops).answer (.register spec) = .registered)) ∧
      (∀ spec fault, Action.ofSpec spec = .error fault →
        (empty.after ops).answer (.register spec) = .refused "ValueError" fault.message) ∧
      (∀ op kind message, (empty.after ops).answer op = .refused kind message →
        empty.after (ops ++ [op]) = empty.after ops) ∧
      ∀ later op, (empty.after (ops ++ .freeze :: later)).answer op
        = (empty.after (ops ++ [.freeze])).answer op := by
  obtain ⟨added, hactions, hadded⟩ := after_actions empty ops
  have hbuilt : Built (empty.after ops) := Built.empty.after ops
  have hchecked : List.Forall₂ (fun spec a => Action.ofSpec spec = .ok a) (accepted ops)
      (empty.after ops).actions := by
    rw [hactions]
    exact hadded
  have hkeys := keys_of_forall₂ hchecked
  have hfrozen : (empty.after ops).frozen = true ↔ .freeze ∈ ops := by
    rw [after_frozen_iff]
    simp [empty]
  have hopen : (empty.after ops).frozen = false ↔ .freeze ∉ ops := by
    rw [← hfrozen, Bool.not_eq_true]
  refine ⟨hchecked, hkeys ▸ hbuilt.nodup_keys, fun key a => lookup_eq_some_iff hbuilt,
    phrases_of_forall₂ hchecked _, ?_, ?_, ?_, ?_⟩
  · intro spec a hspec
    have hanswer := answer_register hspec (empty.after ops)
    rwa [hfrozen, hopen, hkeys] at hanswer
  · intro spec fault hspec
    rw [answer, perform_of_rejected hspec]
    cases fault <;> rfl
  · intro op kind message hrefused
    rw [after_append]
    exact perform_of_answer_refused hrefused
  · intro later op
    have hfreeze : (empty.after (ops ++ [.freeze])).frozen = true := (after_frozen_iff _ _).2 (.inr (by simp))
    rw [List.append_cons, after_append, after_of_frozen hfreeze]

/-- An action with a key and a phrase. -/
def named (key : String) (phrase : Phrase) : ActionSpec Unit where
  key := key
  phrase := phrase
  handler := ()

/-- Two actions are registered; between them one fails its check and one comes with a key that is there. -/
def mixedCalls : List (Operation Unit) :=
  [.register (named "open" ["Open"]), .register (named "nothing" []), .phrases,
    .register (named "open" ["Other"]), .register (named "close" ["Close"])]

theorem answers_after_mixedCalls :
    (accepted mixedCalls).map ActionSpec.key = ["open", "close"] ∧
      (empty.after mixedCalls).phrases.map Prod.fst = [["open"], ["close"]] ∧
      (empty.after mixedCalls).answer (.register (named "open" ["Again"]))
        = .refused "ValueError" "Action already registered: open" ∧
      (empty.after (mixedCalls ++ [.freeze])).answer (.register (named "late" ["Late"]))
        = .refused "RuntimeError" "Registry is frozen; cannot register 'late'" := by
  have hkeys : (accepted mixedCalls).map ActionSpec.key = ["open", "close"] := by decide +kernel
  have hphrases : ((accepted mixedCalls).zip (empty.after mixedCalls).actions).flatMap (fun x =>
      (x.1.phrase :: x.1.aliases).map (fun phrase => phrase.map Text.lower)) = [["open"], ["close"]] := by
    decide +kernel
  obtain ⟨-, -, -, hlisted, hregister, -⟩ := answers_after_history mixedCalls
  refine ⟨hkeys, ?_, ?_, ?_⟩
  · rw [hlisted, List.map_flatMap]
    simpa only [List.map_map, Function.comp_def] using hphrases
  · have hopen : Operation.freeze ∉ mixedCalls := by simp [mixedCalls]
    have hrefused := (hregister (named "open" ["Again"]) _ rfl).2.1 hopen (by rw [hkeys]; decide)
    exact hrefused
  · have hfrozen : Operation.freeze ∈ mixedCalls ++ [.freeze] := by simp
    obtain ⟨-, -, -, -, hlate, -⟩ := answers_after_history (mixedCalls ++ [.freeze])
    have hmessage : (RegisterFault.frozen "late").message = "Registry is frozen; cannot register 'late'" := by
      decide +kernel
    rw [← hmessage]
    exact (hlate (named "late" ["Late"]) _ rfl).1 hfrozen

end Registry
end BrowserScript.Instruction
