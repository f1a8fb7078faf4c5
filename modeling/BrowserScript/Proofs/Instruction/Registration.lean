/-
BrowserScript.Proofs.Instruction.Registration — registries as they come about.

A registry is made by registering checked actions one after the other; it may be frozen at any time. `Built`
says so. A key is registered once, so in such a registry the key of an action leads to this action
(`Built.lookup_eq`).
-/
import BrowserScript.Instruction.Registry
import Mathlib.Data.List.Nodup

namespace BrowserScript.Instruction

variable {η : Type} {r r' : Registry η} {a : Action η} {key : String}

theorem mem_phrases {entry : Phrase × Action η} :
    entry ∈ r.phrases ↔ entry.2 ∈ r.actions ∧ entry.1 ∈ entry.2.phrases := by
  obtain ⟨phrase, a⟩ := entry
  simp only [Registry.phrases, List.mem_flatMap, List.mem_map, Prod.mk.injEq]
  constructor
  · rintro ⟨b, hb, other, hother, rfl, rfl⟩
    exact ⟨hb, hother⟩
  · rintro ⟨ha, hphrase⟩
    exact ⟨a, ha, phrase, hphrase, rfl, rfl⟩

/-- A checked action is the one that was written down. -/
theorem Action.ofSpec_eq_ok {spec : ActionSpec η} (h : Action.ofSpec spec = .ok a) :
    a.key = spec.key ∧ a.handler = spec.handler ∧ a.minParams = spec.minParams.toNat := by
  unfold Action.ofSpec at h
  split at h
  · cases h
  · split at h
    · cases h
      exact ⟨rfl, rfl, rfl⟩
    · cases h

namespace Registry

/-! ## §1 Looking up -/

theorem lookup_key (h : r.lookup key = some a) : a.key = key := by
  simpa using List.find?_some h

theorem lookup_eq_none_iff : r.lookup key = none ↔ key ∉ r.actions.map Action.key := by
  simp [lookup, List.find?_eq_none]

/-- The key of a registered action leads to an action with this key. -/
theorem exists_lookup (h : a ∈ r.actions) : ∃ b, r.lookup a.key = some b ∧ b.key = a.key := by
  have hfound : (r.lookup a.key).isSome = true := List.find?_isSome.2 ⟨a, h, by simp⟩
  obtain ⟨b, hb⟩ := Option.isSome_iff_exists.1 hfound
  exact ⟨b, hb, lookup_key hb⟩

/-! ## §2 Registering -/

/-- An action is registered at the end of a registry that takes more actions and has none with its key. -/
theorem register_eq_ok_iff :
    r.register a = .ok r' ↔
      r.frozen = false ∧ a.key ∉ r.actions.map Action.key ∧ r' = { r with actions := r.actions ++ [a] } := by
  have hknown : r.contains a.key = false ↔ a.key ∉ r.actions.map Action.key := by
    rw [← lookup_eq_none_iff]
    simp [contains]
  rw [← hknown]
  unfold register
  cases hfrozen : r.frozen with
  | true => simp
  | false => cases hcontains : r.contains a.key <;> simp [eq_comm]

/-- Registries made from checked actions. -/
inductive Built : Registry η → Prop
  | empty : Built empty
  | register {r r' : Registry η} {spec : ActionSpec η} {a : Action η} (hr : Built r)
      (hspec : Action.ofSpec spec = .ok a) (hregister : r.register a = .ok r') : Built r'
  | freeze {r : Registry η} (hr : Built r) : Built r.freeze

/-- Actions registered one after the other stand at the end, in their order. -/
theorem registerAll_actions {as : List (Action η)} (h : r.registerAll as = .ok r') :
    r'.actions = r.actions ++ as := by
  induction as generalizing r with
  | nil =>
    cases h
    exact (List.append_nil _).symm
  | cons a rest ih =>
    unfold registerAll at h
    split at h
    · rename_i r₁ hr
      obtain ⟨-, -, rfl⟩ := register_eq_ok_iff.1 hr
      rw [ih h, List.append_assoc, List.singleton_append]
    · cases h

theorem Built.registerAll {as : List (Action η)} (hr : Built r)
    (has : ∀ a ∈ as, ∃ spec, Action.ofSpec spec = .ok a) (h : r.registerAll as = .ok r') : Built r' := by
  induction as generalizing r with
  | nil =>
    cases h
    exact hr
  | cons a rest ih =>
    obtain ⟨⟨spec, hspec⟩, hrest⟩ := List.forall_mem_cons.1 has
    unfold Registry.registerAll at h
    split at h
    · rename_i r₁ hregister
      exact ih (hr.register hspec hregister) hrest h
    · cases h

/-- No two actions have one key. -/
theorem Built.nodup_keys (h : Built r) : (r.actions.map Action.key).Nodup := by
  induction h with
  | empty => exact List.nodup_nil
  | @register r r' spec a _ _ hregister ih =>
    obtain ⟨-, hnew, rfl⟩ := register_eq_ok_iff.1 hregister
    rw [List.map_append, List.nodup_append]
    refine ⟨ih, List.nodup_singleton _, ?_⟩
    intro key hkey other hother hsame
    rw [List.map_singleton, List.mem_singleton] at hother
    exact hnew (hother ▸ hsame ▸ hkey)
  | freeze _ ih => exact ih

/-- The key of a registered action leads to this action. -/
theorem Built.lookup_eq (h : Built r) (ha : a ∈ r.actions) : r.lookup a.key = some a := by
  obtain ⟨b, hb, hkey⟩ := exists_lookup ha
  have hsame : b = a := List.inj_on_of_nodup_map h.nodup_keys (List.mem_of_find?_eq_some hb) ha hkey
  rw [hb, hsame]

end Registry
end BrowserScript.Instruction
