/-
BrowserScript.SignIn.Form — forms for signing in.

A page function describes the forms of a page; another one gives signals that tell a login page from a
signup page.

* `isAuthForm` tells whether a description is a form for signing in.
* `hasAuthForm` asks the page.
* `classify` weighs the words of a page, `inferIntent` asks the page for them.
-/
import BrowserScript.Browser.Script
import BrowserScript.Text.Fold
import BrowserScript.Text.LowerCase

namespace BrowserScript.SignIn

open Browser

/-- The items over which one can go: those of a list, the characters of a text, the keys of entries;
nothing, zero and whatever is empty has none. -/
def itemsOf (v : Value) : Except Fault (List Value) :=
  match v with
  | .list items => .ok items
  | .text s => .ok (s.toList.map (fun c => .text (String.singleton c)))
  | .dict entries => .ok (entries.map (·.1))
  | _ => if v.truthy then .error (.notIterable v.typeWord) else .ok []

/-! ## Forms -/

/-- Words of the address that a form for signing in is sent to. -/
def actionWords : List String := ["login", "signin", "sign-in", "auth"]

/-- Words of the names of its fields. -/
def nameWords : List String := ["login", "password", "user"]

/-- An entry that counts as true. -/
def flag (form : List (Value × Value)) (name : String) : Bool :=
  ((Value.lookup (.text name) form).map Value.truthy).getD false

/-- The text of an entry, empty when it does not count as true. -/
def textOf (form : List (Value × Value)) (name : String) : String :=
  match Value.lookup (.text name) form with
  | some v => if v.truthy then v.plain else ""
  | none => ""

/-- Whether the address, a password or the name of a field speaks of signing in. -/
def looksAuth (form : List (Value × Value)) : Except Fault Bool :=
  if actionWords.any (fun w => Text.occursFolded w (textOf form "action")) then .ok true
  else if flag form "has_password" then .ok true
  else
    match itemsOf ((Value.lookup (.text "input_names") form).getD .null) with
    | .ok names => .ok (names.any (fun n => nameWords.any (fun w => Text.occursFolded w n.plain)))
    | .error e => .error e

/-- Whether a description is a form for signing in: it speaks of signing in, can be seen, and has a
password and a way to send it. -/
def isAuthForm (form : List (Value × Value)) : Except Fault Bool :=
  (looksAuth form).map
    (fun looks => looks && flag form "visible" && flag form "has_password" && flag form "has_submit")

/-- Whether one of some descriptions is a form for signing in; what has no entries is none. -/
def anyAuthForm : List Value → Except Fault Bool
  | [] => .ok false
  | .dict form :: rest =>
    match isAuthForm form with
    | .error e => .error e
    | .ok true => .ok true
    | .ok false => anyAuthForm rest
  | _ :: rest => anyAuthForm rest

/-- Whether the page has a form for signing in. -/
def hasAuthForm : Script Bool :=
  (some <$> Script.page .forms).onRefusal (fun _ => pure none) >>= fun
    | none => pure false
    | some forms =>
      match itemsOf forms >>= anyAuthForm with
      | .ok found => pure found
      | .error e => Script.fault e

/-! ## Login or signup -/

/-- The number of phrases that occur in a text. -/
def score (phrases : List String) (text : String) : Nat :=
  (phrases.filter (Text.contains text)).length

/-- Signup, when the form asks for a name or for the password once more, or when more phrases speak of
it; otherwise login. -/
def classify (text : String) (hasName hasConfirm : Bool) : Intent :=
  let text := Text.lower text
  let signup := score signupPhrases text + hasName.toNat + hasConfirm.toNat
  if hasName || hasConfirm || score loginPhrases text < signup then .signup else .login

/-- The intent of the form on the page. -/
def inferIntent : Script Intent := do
  let signals ← Script.page .signals
  if !signals.truthy then pure (classify "" false false)
  else match signals with
    | .dict entries =>
      let text := ((Value.lookup (.text "text") entries).map Value.plain).getD ""
      pure (classify text (flag entries "has_name_field") (flag entries "has_confirm_password"))
    | v => Script.fault (.noMember v.typeWord "get")

end BrowserScript.SignIn
