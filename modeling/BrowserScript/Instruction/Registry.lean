/-
BrowserScript.Instruction.Registry — the vocabulary of a run.

A registry lists actions in the order in which they were registered; that order also decides between
phrases of equal length. Once frozen it takes no more.

* `Registry.register` adds an action, or says why not.
* `Registry.lookup` finds the action of a key.
* `Registry.phrases` lists every phrase with its action.
-/
import BrowserScript.Instruction.Action

namespace BrowserScript.Instruction

/-- Registered actions in order. -/
structure Registry (η : Type) where
  actions : List (Action η)
  frozen : Bool

/-- Why a registration is refused. -/
inductive RegisterFault where
  | frozen (key : String)
  | duplicate (key : String)
  deriving Repr, DecidableEq

/-- The word for the kind of a refusal. -/
def RegisterFault.kind : RegisterFault → String
  | .frozen _ => "RuntimeError"
  | .duplicate _ => "ValueError"

/-- The wording of a refusal. -/
def RegisterFault.message : RegisterFault → String
  | .frozen key => "Registry is frozen; cannot register " ++ Text.quoted key
  | .duplicate key => "Action already registered: " ++ key

namespace Registry

variable {η : Type}

/-- No actions yet. -/
def empty : Registry η := ⟨[], false⟩

/-- The action of a key. -/
def lookup (r : Registry η) (key : String) : Option (Action η) := r.actions.find? (·.key == key)

/-- Whether a key is registered. -/
def contains (r : Registry η) (key : String) : Bool := (r.lookup key).isSome

/-- Adds an action at the end. -/
def register (r : Registry η) (a : Action η) : Except RegisterFault (Registry η) :=
  if r.frozen then .error (.frozen a.key)
  else if r.contains a.key then .error (.duplicate a.key)
  else .ok { r with actions := r.actions ++ [a] }

/-- Takes no more actions from now on. -/
def freeze (r : Registry η) : Registry η := { r with frozen := true }

/-- Every phrase with its action, in the order of registration. -/
def phrases (r : Registry η) : List (Phrase × Action η) :=
  r.actions.flatMap (fun a => a.phrases.map (fun phrase => (phrase, a)))

/-- Actions registered one after the other, as long as none is refused. -/
def registerAll (r : Registry η) : List (Action η) → Except RegisterFault (Registry η)
  | [] => .ok r
  | a :: rest =>
    match r.register a with
    | .ok r => registerAll r rest
    | .error e => .error e

end Registry
end BrowserScript.Instruction
