/-
BrowserScript.Proofs.Vocabulary.InRange — actions and the parameters that they are given.

`InRange a params` says that there are as many parameters as an action takes, that those which it must have
are not empty, and that the last one is not empty.

* `Takes.inRange`: the text after a phrase is cut into at most as many pieces as the action takes, and empty
  ones at the end are dropped.
* `raises_builtIn`: a built-in action that is given as many parameters as it takes at least reads none beyond
  them. What it does otherwise fails for other reasons.

Main statement: `parse_in_range`. A line that was understood gives parameters in the range of its action, and
no built-in action reads a parameter that is not there.
-/
import BrowserScript.Proofs.Instruction.CutPoints
import BrowserScript.Proofs.Instruction.Registration
import BrowserScript.Proofs.Vocabulary.Raising

namespace BrowserScript

/-! ## §1 Parameters of a line -/

namespace Instruction

variable {η : Type} {a : Action η} {rest : String} {params : List String}

/-- Parameters that an action takes: as many as it says, with a text in each place that must have one, and in
the last place. -/
structure InRange (a : Action η) (params : List String) : Prop where
  least : a.minParams ≤ params.length
  most : params.length ≤ a.maxParams
  full : ∀ p ∈ params.take a.minParams, p ≠ ""
  last : ∀ p ∈ params.getLast?, p ≠ ""

theorem getLast?_dropEmptyEnd (params : List String) : ∀ p ∈ (dropEmptyEnd params).getLast?, p ≠ "" := by
  intro p hp
  have hfirst := List.head?_dropWhile_not (· == "") params.reverse
  rw [dropEmptyEnd, List.getLast?_reverse, Option.mem_def] at hp
  rw [hp] at hfirst
  simpa using hfirst

theorem length_parameterList_le {maxParams : Nat} (hsome : 0 < maxParams) (rest : String) :
    (parameterList maxParams rest).length ≤ maxParams := by
  unfold parameterList
  split
  · exact Nat.zero_le _
  · split
    · exact hsome
    · have hpieces := length_split_le rest (n := maxParams) (by omega)
      have hkept := length_dropEmptyEnd_le
        ((split rest (some maxParams)).map (fun p => unquote (Text.trim p)))
      rw [List.length_map] at hkept
      omega

theorem getLast?_parameterList (maxParams : Nat) (rest : String) :
    ∀ p ∈ (parameterList maxParams rest).getLast?, p ≠ "" := by
  unfold parameterList
  split
  · nofun
  · rename_i hrest
    split
    · rintro p ⟨⟩
      simpa using hrest
    · exact getLast?_dropEmptyEnd _

theorem Takes.inRange (h : Takes a rest params) : InRange a params := by
  cases h with
  | nothing hnone =>
    have hleast : a.minParams = 0 := Nat.le_zero.1 (hnone ▸ a.min_le_max)
    exact ⟨Nat.le_of_eq hleast, Nat.zero_le _, by simp, nofun⟩
  | list hsome henough hfull =>
    exact ⟨henough, length_parameterList_le hsome rest, hfull, getLast?_parameterList _ _⟩

theorem exists_inRange_of_parse {r : Registry η} {marker line : String} {request : Request} (hr : r.Built)
    (hparse : parse r marker line = .ok request) (hasks : request.isSkip = false) :
    ∃ a, r.lookup request.key = some a ∧ InRange a request.params := by
  obtain ⟨entry, hentry, -, hkey, htakes⟩ := exists_entry_of_parse (counts_of_parse hparse hasks) hparse
  rw [← hkey]
  exact ⟨entry.2, hr.lookup_eq (mem_phrases.1 hentry).1, htakes.inRange⟩

end Instruction

/-! ## §2 What actions read -/

namespace Vocabulary

open Browser Instruction
open Failure (Supplied)

variable (s : Settings) {params : List String}

theorem raises_credentials (h : 2 ≤ params.length) : (credentials params).Raises Supplied :=
  raises_composed (fun _ => rfl)
    (composed_credentials (K := fun _ => True) params (PermitsAll.supplied h).toPermits fun _ => trivial)

theorem raises_typeInto (h : 2 ≤ params.length) : (typeInto s params).Raises Supplied :=
  raises_composed (fun _ => rfl) (composed_typeInto s params (.supplied h))

/-- Signing in needs two parameters. The third may be missing, and the attempt reads none. -/
theorem raises_signInAs (intent : Option SignIn.Intent) (h : 2 ≤ params.length) :
    (signInAs intent s params).Raises Supplied := by
  rw [signInAs_eq]
  refine .bind (raises_credentials h) fun c => ?_
  have hflow := SignIn.raises_flow (fun _ => rfl) (fun _ => rfl)
    ((SignIn.composed_signIn ⟨s.probeTimeout, s.submitWait, s.navigationTimeout⟩ c intent).mono
      (fun _ hq => hq) (fun _ he => he.2)) { intent := intent }
  refine ensures_signedIn hflow (fun _ _ _ _ => nofun) ?_
  rintro t e a ht htold _ ⟨⟩
  exact ht htold e rfl

/-- A built-in action that is given as many parameters as it takes at least misses none. -/
theorem raises_builtIn {spec : ActionSpec Handler} (hspec : spec ∈ builtInSpecs)
    (h : spec.minParams.toNat ≤ params.length) : (spec.handler s params).Raises Supplied := by
  rcases composed_builtIn spec hspec with hpublic | ⟨htwo, hsecretive⟩
  · exact raises_composed (fun _ => rfl) (hpublic _ s params (.supplied h))
  · rw [htwo] at h
    rcases hsecretive with htype | hsubmit | ⟨intent, hsign⟩
    · rw [htype]
      exact .bind (raises_typeInto s h) fun _ => .done _
    · rw [hsubmit]
      exact .bind (raises_typeInto s h) fun _ => .bind (.query _) fun _ => .done _
    · rw [hsign]
      exact raises_signInAs s intent h

/-! ## §3 Lines -/

/-- In a registry made from checked actions, a line that asks for an action gives it parameters in its range: no
fewer than it must have, no more than it takes, none of the necessary ones empty, and not the last one. If it is
a built-in action, it never fails for want of a parameter, whatever it is told, as long as it is not told of such
a failure itself. -/
theorem parse_in_range :
    (∀ {η : Type} {r : Registry η} {marker line : String} {request : Request}, r.Built →
      parse r marker line = .ok request → request.isSkip = false →
        ∃ a, r.lookup request.key = some a ∧ InRange a request.params) ∧
      ∀ {r : Registry Handler} {marker line : String} {request : Request} {a : Action Handler}, r.Built →
        parse r marker line = .ok request → request.isSkip = false → r.lookup request.key = some a →
          (∃ spec ∈ builtInSpecs, Action.ofSpec spec = .ok a) →
            ∀ s, (a.handler s request.params).Raises Supplied := by
  refine ⟨exists_inRange_of_parse, ?_⟩
  rintro r marker line request a hr hparse hasks hlookup ⟨spec, hspec, hof⟩ s
  obtain ⟨found, hfound, hrange⟩ := exists_inRange_of_parse hr hparse hasks
  cases hlookup.symm.trans hfound
  obtain ⟨-, hhandler, hmin⟩ := Action.ofSpec_eq_ok hof
  rw [hhandler]
  exact raises_builtIn s hspec (hmin ▸ hrange.least)

/-- Signing up with a name left empty: the two parameters that are necessary are given, and no third. -/
theorem parse_in_range_signup :
    ∃ a, frozenVocabulary.lookup "signup" = some a ∧ a.minParams ≤ 2 ∧ 2 ≤ a.maxParams ∧
      ∀ s, (a.handler s ["ada@example.org", "secret"]).Raises Supplied := by
  have hparse : parse frozenVocabulary "#" "sign up ada@example.org, 'secret', ''"
      = .ok ⟨"signup", ["ada@example.org", "secret"]⟩ := by decide +kernel
  obtain ⟨a, hlookup, hrange⟩ := parse_in_range.1 built_frozenVocabulary hparse (by decide)
  exact ⟨a, hlookup, hrange.least, hrange.most,
    parse_in_range.2 built_frozenVocabulary hparse (by decide) hlookup (exists_ofSpec hlookup)⟩

end Vocabulary
end BrowserScript
