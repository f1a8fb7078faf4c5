/-
BrowserScript.Instruction.Action — what an instruction can ask for.

An action has a key, the keyword phrases that introduce it, the number of its parameters and a handler
of a type left open.

* `ActionSpec` is an action as somebody writes it down.
* `Action.ofSpec` checks it: an `Action` has a first phrase with a word in it and an order between its
  least and its greatest number of parameters, and its phrases are in lower case.
* `Action.phrases` lists the first phrase and the others.
-/
import BrowserScript.Number.Decimal
import BrowserScript.Text.LowerCase
import BrowserScript.Text.Quoted

namespace BrowserScript.Instruction

/-- A keyword phrase, word by word. -/
abbrev Phrase := List String

/-- An action as written down. One parameter at most means that the whole text after the phrase is that
parameter. -/
structure ActionSpec (η : Type) where
  key : String
  phrase : Phrase
  handler : η
  minParams : Int := 0
  maxParams : Int := 1
  usage : String := ""
  description : String := ""
  aliases : List Phrase := []
  opensNewPage : Bool := false

/-- An action that can be registered. -/
structure Action (η : Type) where
  key : String
  phrase : Phrase
  handler : η
  minParams : Nat
  maxParams : Nat
  usage : String
  description : String
  aliases : List Phrase
  opensNewPage : Bool
  phrase_ne_nil : phrase ≠ []
  min_le_max : minParams ≤ maxParams

/-- Why an action cannot be registered. -/
inductive SpecFault where
  | noPhrase (key : String)
  | badArity (key : String) (minParams maxParams : Int)
  deriving Repr, DecidableEq

/-- The word for the kind of a refusal. -/
def SpecFault.kind : SpecFault → String
  | .noPhrase _ | .badArity .. => "ValueError"

/-- The wording of a refusal. -/
def SpecFault.message : SpecFault → String
  | .noPhrase key => "Action " ++ Text.quoted key ++ " needs a keyword phrase"
  | .badArity key minParams maxParams =>
    "Action " ++ Text.quoted key ++ " has an invalid arity: min=" ++ Number.intText minParams ++
      ", max=" ++ Number.intText maxParams

namespace Action

/-- A phrase as it is matched. -/
def lowered (phrase : Phrase) : Phrase := phrase.map Text.lower

theorem lowered_ne_nil {phrase : Phrase} (h : phrase ≠ []) : lowered phrase ≠ [] := by
  simpa [lowered] using h

/-- Checks an action. -/
def ofSpec {η : Type} (spec : ActionSpec η) : Except SpecFault (Action η) :=
  if hp : spec.phrase = [] then .error (.noPhrase spec.key)
  else if ha : 0 ≤ spec.minParams ∧ spec.minParams ≤ spec.maxParams then
    .ok {
      key := spec.key
      phrase := lowered spec.phrase
      handler := spec.handler
      minParams := spec.minParams.toNat
      maxParams := spec.maxParams.toNat
      usage := spec.usage
      description := spec.description
      aliases := spec.aliases.map lowered
      opensNewPage := spec.opensNewPage
      phrase_ne_nil := lowered_ne_nil hp
      min_le_max := by omega }
  else .error (.badArity spec.key spec.minParams spec.maxParams)

/-- The phrases of an action, the first phrase before the others. -/
def phrases {η : Type} (a : Action η) : List Phrase := a.phrase :: a.aliases

end Action
end BrowserScript.Instruction
