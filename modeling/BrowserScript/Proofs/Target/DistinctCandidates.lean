/-
BrowserScript.Proofs.Target.DistinctCandidates — the selectors of a description are different from each other.

Repeated selectors are dropped from the candidates of a description, but there never are any.

* Two templates differ after their gaps were filled with the same text: their own characters differ in number, or
  the fillings begin differently (`Template.Apart`). This is looked up in the table, pair by pair.
* A filled template is not the description as it was written, which may be a selector full of quotes, backslashes
  and blanks. Sanitising takes only quotes and blanks away, and every template adds something that is neither, so
  that filled templates have more of such characters (`inkOf_lt_inkOf_fill`).

Main statement: `candidates_distinct`. The candidates are the description and the templates that were asked for,
in order; asking for some groups only gives some of the candidates for all groups, in the same order.
-/
import Mathlib.Data.List.Flatten
import Mathlib.Data.List.Nodup
import BrowserScript.Target.Candidates
import BrowserScript.Proofs.Text.Words

namespace BrowserScript.Target

/-! ## §1 Dropping repetitions -/

/-- Nothing is dropped from texts that differ from each other and from those seen before. -/
theorem firstOccurrences_eq_self {seen texts : List String} (hnodup : texts.Nodup)
    (hnew : ∀ s ∈ texts, s ∉ seen) : firstOccurrences seen texts = texts := by
  induction texts generalizing seen with
  | nil => rfl
  | cons s rest ih =>
    obtain ⟨hs, hrest⟩ := List.nodup_cons.1 hnodup
    obtain ⟨hsnew, hrestnew⟩ := List.forall_mem_cons.1 hnew
    have hlater : ∀ x ∈ rest, x ∉ s :: seen := by
      intro x hx hmem
      rcases List.mem_cons.1 hmem with rfl | hseen
      · exact hs hx
      · exact hrestnew x hx hseen
    rw [firstOccurrences, if_neg (by simpa using hsnew), ih hrest hlater]

/-! ## §2 Templates that cannot be filled to the same text -/

/-- Templates of which the same filling makes different texts. -/
def Template.Apart (t u : Template) : Prop :=
  t.before.length + t.after.length ≠ u.before.length + u.after.length ∨
    ¬ (t.before.toList <+: u.before.toList ∨ u.before.toList <+: t.before.toList)

instance : DecidableRel Template.Apart := fun t u => by unfold Template.Apart; infer_instance

theorem Template.toList_fill (t : Template) (text : String) :
    (t.fill text).toList = t.before.toList ++ (text.toList ++ t.after.toList) := by
  simp [fill, String.toList_append]

theorem Template.Apart.fill_ne {t u : Template} (h : t.Apart u) (text : String) : t.fill text ≠ u.fill text := by
  intro heq
  have hlists : t.before.toList ++ (text.toList ++ t.after.toList)
      = u.before.toList ++ (text.toList ++ u.after.toList) := by
    rw [← t.toList_fill, ← u.toList_fill, heq]
  rcases h with hlength | hbegins
  · have hlengths := congrArg List.length hlists
    simp only [List.length_append, String.length_toList] at hlengths
    omega
  · have ht : t.before.toList <+: (t.fill text).toList := ⟨_, (t.toList_fill text).symm⟩
    have hu : u.before.toList <+: (t.fill text).toList := ⟨_, by rw [heq, u.toList_fill]⟩
    exact hbegins (List.prefix_or_prefix_of_prefix ht hu)

/-- All templates of the table. -/
def allTemplates : List Template := candidateTable.flatMap (·.templates)

theorem pairwise_apart_allTemplates : allTemplates.Pairwise Template.Apart := by decide +kernel

/-! ## §3 A filled template is not the description -/

/-- A text without the quotes that a description loses. -/
def unquoted (cs : List Char) : List Char := cs.filter (fun c => !isSelectorQuote c)

theorem unquoted_append (cs ds : List Char) : unquoted (cs ++ ds) = unquoted cs ++ unquoted ds :=
  List.filter_append cs ds

theorem sanitizeChars_eq (cs : List Char) :
    sanitizeChars cs = Text.replaceChar '\\' ['\\', '\\'] (Text.trimChars (unquoted cs)) := rfl

/-- A character that no sanitising takes away. -/
def isInk (c : Char) : Bool := !Text.isBlank c && !isSelectorQuote c

/-- How many such characters a text has. -/
def inkOf (cs : List Char) : Nat := cs.countP isInk

theorem inkOf_append (cs ds : List Char) : inkOf (cs ++ ds) = inkOf cs + inkOf ds := List.countP_append

theorem inkOf_of_allBlank {b : List Char} (hb : Text.AllBlank b) : inkOf b = 0 := by
  refine List.countP_eq_zero.2 fun c hc => ?_
  simp [isInk, hb c hc]

theorem inkOf_trimChars (cs : List Char) : inkOf (Text.trimChars cs) = inkOf cs := by
  obtain ⟨b₁, b₂, hb₁, hb₂, hcs⟩ := Text.exists_eq_trimChars cs
  have hink : inkOf cs = inkOf (b₁ ++ Text.trimChars cs ++ b₂) := congrArg inkOf hcs
  rw [inkOf_append, inkOf_append, inkOf_of_allBlank hb₁, inkOf_of_allBlank hb₂] at hink
  omega

theorem inkOf_unquoted (cs : List Char) : inkOf (unquoted cs) = inkOf cs := by
  unfold inkOf unquoted
  rw [List.countP_filter]
  refine List.countP_congr fun c _ => ?_
  simp [isInk]

/-- Every character comes from one that stood there, so doubling backslashes does not lose any. -/
theorem inkOf_le_replaceChar (cs : List Char) : inkOf cs ≤ inkOf (Text.replaceChar '\\' ['\\', '\\'] cs) := by
  unfold Text.replaceChar
  induction cs with
  | nil => exact Nat.le_refl _
  | cons c rest ih =>
    have hc : inkOf [c] ≤ inkOf (if c == '\\' then ['\\', '\\'] else [c]) := by
      split
      · rename_i hbackslash
        rw [eq_of_beq hbackslash]
        decide +kernel
      · exact Nat.le_refl _
    rw [List.flatMap_cons, inkOf_append, ← List.singleton_append, inkOf_append]
    omega

/-- Sanitising keeps the characters that it does not take away. -/
theorem inkOf_le_sanitize (description : String) :
    inkOf description.toList ≤ inkOf (sanitize description).toList := by
  rw [sanitize, String.toList_ofList, sanitizeChars_eq]
  calc inkOf description.toList
      = inkOf (Text.trimChars (unquoted description.toList)) := by rw [inkOf_trimChars, inkOf_unquoted]
    _ ≤ _ := inkOf_le_replaceChar _

/-- All templates begin with something other than blanks and quotes. -/
theorem inkOf_before_pos : ∀ t ∈ allTemplates, 0 < inkOf t.before.toList := by decide +kernel

theorem inkOf_lt_inkOf_fill {t : Template} (ht : t ∈ allTemplates) (description : String) :
    inkOf description.toList < inkOf (t.fill (sanitize description)).toList := by
  have hbefore := inkOf_before_pos t ht
  have hkept := inkOf_le_sanitize description
  rw [t.toList_fill, inkOf_append, inkOf_append]
  omega

/-! ## §4 The candidates of a description -/

/-- Blanks around a description make no difference in a selector. -/
theorem sanitize_trim (description : String) : sanitize (Text.trim description) = sanitize description := by
  obtain ⟨b₁, b₂, hb₁, hb₂, hcs⟩ := Text.exists_eq_trimChars description.toList
  have hblank : ∀ {b : List Char}, Text.AllBlank b → Text.AllBlank (unquoted b) :=
    fun hb c hc => hb c (List.mem_filter.1 hc).1
  have htrimmed : Text.trimChars (unquoted description.toList)
      = Text.trimChars (unquoted (Text.trimChars description.toList)) := by
    calc Text.trimChars (unquoted description.toList)
        = Text.trimChars (unquoted b₁ ++ (unquoted (Text.trimChars description.toList) ++ unquoted b₂)) := by
          rw [← unquoted_append, ← unquoted_append, ← List.append_assoc, ← hcs]
      _ = Text.trimChars (unquoted (Text.trimChars description.toList)) := by
          rw [Text.trimChars_blank_append (hblank hb₁), Text.trimChars_append (hblank hb₂)]
  rw [sanitize, sanitize, sanitizeChars_eq, sanitizeChars_eq, Text.trim, String.toList_ofList, htrimmed]

/-- The templates for a sanitised description. -/
def templatesFor (wanted : Option (List String)) (clean : String) : List Template :=
  (groupsFor wanted clean).flatMap (·.templates)

theorem templatesFor_sublist (wanted : Option (List String)) (clean : String) :
    (templatesFor wanted clean).Sublist allTemplates :=
  List.Sublist.flatMap List.filter_sublist _

/-- Some groups have some of the templates of all groups. -/
theorem templatesFor_sublist_none (wanted : Option (List String)) (clean : String) :
    (templatesFor wanted clean).Sublist (templatesFor none clean) := by
  refine List.Sublist.flatMap (List.monotone_filter_right _ ?_) _
  intro g hg
  rw [Bool.and_eq_true] at hg
  exact hg.2

theorem rendered_eq (wanted : Option (List String)) (description : String) :
    rendered wanted (Text.trim description) = Text.trim description ::
      if sanitize description = "" then []
      else (templatesFor wanted (sanitize description)).map (·.fill (sanitize description)) := by
  simp only [rendered, sanitize_trim, templatesFor, List.map_flatMap, beq_iff_eq]

theorem nodup_fillings (wanted : Option (List String)) (clean text : String) :
    ((templatesFor wanted clean).map (·.fill text)).Nodup := by
  have hapart : (templatesFor wanted clean).Pairwise Template.Apart :=
    pairwise_apart_allTemplates.sublist (templatesFor_sublist wanted clean)
  exact hapart.map _ fun _ _ h => h.fill_ne text

theorem ne_fill {t : Template} (ht : t ∈ allTemplates) (description : String) :
    Text.trim description ≠ t.fill (sanitize description) := by
  intro heq
  have hless := inkOf_lt_inkOf_fill ht description
  rw [← heq, Text.trim, String.toList_ofList, inkOf_trimChars] at hless
  exact Nat.lt_irrefl _ hless

theorem nodup_rendered (wanted : Option (List String)) (description : String) :
    (rendered wanted (Text.trim description)).Nodup := by
  rw [rendered_eq]
  split
  · exact List.nodup_singleton _
  · refine List.nodup_cons.2 ⟨fun hmem => ?_, nodup_fillings wanted _ _⟩
    obtain ⟨t, ht, heq⟩ := List.mem_map.1 hmem
    exact ne_fill ((templatesFor_sublist wanted _).subset ht) description heq.symm

theorem candidates_eq_rendered (description : String) (wanted : Option (List String)) :
    candidates description wanted
      = if Text.trim description = "" then [] else rendered wanted (Text.trim description) := by
  unfold candidates
  simp only [beq_iff_eq]
  rw [firstOccurrences_eq_self (nodup_rendered wanted description) (by simp)]

/-- A description that is not blank has as candidates itself, without the blanks around it, and, if something is
left of it by sanitising, the templates of the groups in the order of the table, filled with what is left. These
are all different, and asking for some groups gives some of the candidates for all groups, in the same order. -/
theorem candidates_distinct (description : String) (wanted : Option (List String)) :
    (candidates description wanted =
      if Text.trim description = "" then []
      else Text.trim description ::
        if sanitize description = "" then []
        else (groupsFor wanted (sanitize description)).flatMap
          (fun g => g.templates.map (·.fill (sanitize description)))) ∧
    (candidates description wanted).Nodup ∧
    (candidates description wanted).Sublist (candidates description none) := by
  refine ⟨?_, ?_, ?_⟩
  · rw [candidates_eq_rendered, rendered_eq, templatesFor, List.map_flatMap]
  · rw [candidates_eq_rendered]
    split
    · exact List.nodup_nil
    · exact nodup_rendered wanted description
  · rw [candidates_eq_rendered, candidates_eq_rendered, rendered_eq, rendered_eq]
    split
    · exact List.Sublist.refl _
    · split
      · exact List.Sublist.refl _
      · exact ((templatesFor_sublist_none wanted _).map _).cons_cons _

/-- A description that is a selector of its own. -/
example : candidates " text=\"Log\\in\" " (some ["text"]) =
    ["text=\"Log\\in\"", "button:has-text(\"text=Log\\\\in\")", "a:has-text(\"text=Log\\\\in\")",
      "text=\"text=Log\\\\in\"", "text=text=Log\\\\in"] := by
  decide +kernel

end BrowserScript.Target
