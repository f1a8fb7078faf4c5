/-
BrowserScript.Proofs.Vocabulary.Faults — faults that tell of a parameter that is not there.

An action that reads a parameter beyond the last one fails with a fault of its own. `FailsElsewhere r` says
that a result is no such fault. It is closed under composition, and holds of everything that actions compute:
of the items of an answer, of addresses, of boxes, of durations and of cookies. So such a fault comes from
reading a parameter and from nothing else.
-/
import BrowserScript.SignIn.Site
import BrowserScript.Vocabulary.Handlers

namespace BrowserScript

/-! ## §1 Results without such a fault -/

/-- Whether a fault tells of a parameter that is not there. -/
def Fault.missesParameter : Fault → Bool
  | .missingParameter => true
  | _ => false

/-- Whether a failure tells of a parameter that is not there. -/
def Failure.missesParameter : Failure → Bool
  | .ordinary fault => fault.missesParameter
  | _ => false

/-- A failure for which no parameter is missing. -/
abbrev Failure.Supplied (e : Failure) : Prop := e.missesParameter = false

variable {α β : Type}

/-- If something fails, no parameter is missing. -/
def FailsElsewhere (r : Except Fault α) : Prop := ∀ fault, r = .error fault → fault.missesParameter = false

namespace FailsElsewhere

variable {r : Except Fault α}

theorem ok (a : α) : FailsElsewhere (.ok a) := nofun

theorem error {fault : Fault} (h : fault.missesParameter = false) :
    FailsElsewhere (.error fault : Except Fault α) := by
  rintro _ ⟨⟩
  exact h

theorem bind {f : α → Except Fault β} (hr : FailsElsewhere r) (hf : ∀ a, FailsElsewhere (f a)) :
    FailsElsewhere (r >>= f) := by
  cases r with
  | ok a => exact hf a
  | error fault => exact error (hr fault rfl)

theorem map (hr : FailsElsewhere r) (f : α → β) : FailsElsewhere (r.map f) := by
  cases r with
  | ok a => exact ok _
  | error fault => exact error (hr fault rfl)

end FailsElsewhere

/-! ## §2 Answers of a page -/

namespace SignIn

theorem failsElsewhere_itemsOf (v : Value) : FailsElsewhere (itemsOf v) := by
  unfold itemsOf
  split
  · exact .ok _
  · exact .ok _
  · exact .ok _
  · split
    · exact .error rfl
    · exact .ok _

theorem failsElsewhere_looksAuth (form : List (Value × Value)) : FailsElsewhere (looksAuth form) := by
  unfold looksAuth
  split
  · exact .ok _
  · split
    · exact .ok _
    · split
      · exact .ok _
      · rename_i e he
        exact .error (failsElsewhere_itemsOf _ e he)

theorem failsElsewhere_anyAuthForm (forms : List Value) : FailsElsewhere (anyAuthForm forms) := by
  induction forms with
  | nil => exact .ok _
  | cons v rest ih =>
    cases v with
    | dict form =>
      have hform : FailsElsewhere (isAuthForm form) := (failsElsewhere_looksAuth form).map _
      simp only [anyAuthForm]
      split
      · rename_i e he
        exact .error (hform e he)
      · exact .ok _
      · exact ih
    | _ => exact ih

end SignIn

/-! ## §3 Addresses -/

namespace Address

theorem failsElsewhere_checkBracketed (cs : List Char) : FailsElsewhere (checkBracketed cs) := by
  unfold checkBracketed
  split
  · split
    · exact .ok _
    · exact .error rfl
  · split
    · exact .error rfl
    · split
      · exact .ok _
      · exact .error rfl

theorem failsElsewhere_checkBrackets (authority : List Char) : FailsElsewhere (checkBrackets authority) := by
  unfold checkBrackets
  dsimp only
  split
  · exact .error rfl
  · split
    · exact failsElsewhere_checkBracketed _
    · exact .ok _

theorem failsElsewhere_parse (url : String) : FailsElsewhere (parse url) := by
  unfold parse
  dsimp only
  split
  · rename_i e he
    exact .error (failsElsewhere_checkBrackets _ e he)
  · split
    · exact .error rfl
    · exact .ok _

end Address

theorem SignIn.failsElsewhere_siteFor (url : String) : FailsElsewhere (SignIn.siteFor url) := by
  have hdomain : FailsElsewhere (domainOf url) := by
    unfold domainOf
    split
    · exact (Address.failsElsewhere_parse url).map _
    · exact .ok _
  exact hdomain.map _

/-! ## §4 Boxes -/

namespace Browser

theorem failsElsewhere_pixels {fault : String → Fault} (h : ∀ word, (fault word).missesParameter = false)
    (v : Value) : FailsElsewhere (pixels fault v) := by
  unfold pixels
  split
  · exact .ok _
  · split
    · exact .error (h _)
    · split
      · exact .ok _
      · exact .error rfl

theorem failsElsewhere_halfOf (v : Value) : FailsElsewhere (halfOf v) := by
  unfold halfOf
  split
  · exact .ok _
  · split
    · exact .error rfl
    · split
      · exact .ok _
      · exact .error rfl

theorem failsElsewhere_boxEntry (box : Value) (name : String) : FailsElsewhere (boxEntry box name) := by
  unfold boxEntry
  split
  · split
    · exact .ok _
    · exact .error rfl
  · exact .error rfl

theorem failsElsewhere_middleOf (box : Value) (start extent : String) :
    FailsElsewhere (middleOf box start extent) :=
  (failsElsewhere_boxEntry box start).bind fun first =>
    (failsElsewhere_boxEntry box extent).bind fun length => (failsElsewhere_halfOf length).bind fun _ =>
      (failsElsewhere_pixels (fun _ => rfl) first).bind fun _ => .ok _

theorem failsElsewhere_boxCentre (box : Value) : FailsElsewhere (boxCentre box) :=
  (failsElsewhere_middleOf box "x" "width").bind fun _ =>
    (failsElsewhere_middleOf box "y" "height").bind fun _ => .ok _

end Browser

/-! ## §5 Parameters that are there -/

namespace Vocabulary

open Browser

theorem supplied_durationOf {text : String} {e : Failure} (h : durationOf text = .error e) : e.Supplied := by
  unfold durationOf Duration.milliseconds at h
  split at h
  · cases h
    rfl
  · dsimp only at h
    split at h
    · cases h
    · cases h
      rfl

/-- What goes wrong with a list goes wrong with one of its items. -/
theorem exists_of_mapM_error {ε α β : Type} {f : α → Except ε β} {as : List α} {e : ε}
    (h : as.mapM f = .error e) : ∃ a ∈ as, f a = .error e := by
  induction as with
  | nil => cases h
  | cons a as ih =>
    rw [List.mapM_cons] at h
    cases hfirst : f a with
    | error first =>
      rw [hfirst] at h
      cases h
      exact ⟨a, List.mem_cons_self, hfirst⟩
    | ok b =>
      rw [hfirst] at h
      cases hrest : as.mapM f with
      | error later =>
        rw [hrest] at h
        cases h
        obtain ⟨found, hmem, hfound⟩ := ih hrest
        exact ⟨found, List.mem_cons_of_mem _ hmem, hfound⟩
      | ok bs =>
        rw [hrest] at h
        cases h

theorem supplied_readCookies {text : String} {e : Failure} (h : readCookies text = .error e) :
    e.Supplied := by
  unfold readCookies at h
  split at h
  · cases h
    rfl
  · cases h
    rfl
  · cases h
  · obtain ⟨item, -, hitem⟩ := exists_of_mapM_error h
    split at hitem
    · cases hitem
    · cases hitem
      rfl
  · cases h
    rfl

end Vocabulary
end BrowserScript
