/-
BrowserScript.Proofs.Instruction.JoinedPieces — texts joined by commas and cut again.

Whether a comma cuts depends on the whole text before it, through the quotes and backslashes in it. So a
text can be put among others safely when reading it from the beginning comes back to a place outside all
quotes and passes no comma that would cut on the way.

* `Uncut s cs s'`: reading `cs` leads from `s` to `s'` past no comma that cuts. `Uncut.pieces` is by
  induction on the text that is read, and leaves open what follows it.
* `pieces_joined`: such texts, joined by a comma and a blank and cut again, are the same texts, as long as the
  limit leaves one cut for every comma between them.
* `parameterList_joined`: so they are the parameters of an action, when they are not blank at their ends and
  not empty without the quotes around them.
-/
import BrowserScript.Instruction.Parser
import BrowserScript.Proofs.Text.Words

namespace BrowserScript.Instruction

/-! ## §1 Texts that are not cut -/

/-- Reading a text leads from one place to another, and none of its commas cuts. -/
inductive Uncut : QuoteState → List Char → QuoteState → Prop
  | nil (s : QuoteState) : Uncut s [] s
  | cons {s s' : QuoteState} {c : Char} {cs : List Char} (hc : c = ',' → s.separates = false)
      (hrest : Uncut (s.next c) cs s') : Uncut s (c :: cs) s'

theorem foldr_consPiece (cs piece : List Char) (others : List (List Char)) :
    cs.foldr consPiece (piece :: others) = (cs ++ piece) :: others := by
  induction cs with
  | nil => rfl
  | cons c cs ih => rw [List.foldr_cons, ih, consPiece, List.cons_append]

namespace Uncut

variable {s s' s'' : QuoteState} {cs ds : List Char}

theorem append (hcs : Uncut s cs s') (hds : Uncut s' ds s'') : Uncut s (cs ++ ds) s'' := by
  induction hcs with
  | nil => exact hds
  | cons hc _ ih => exact .cons hc (ih hds)

/-- A text that is not cut stays in front of the first piece of what follows it. -/
theorem pieces (h : Uncut s cs s') (cuts : Option Nat) (rest : List Char) :
    Instruction.pieces s cuts (cs ++ rest) = cs.foldr consPiece (Instruction.pieces s' cuts rest) := by
  induction h with
  | nil => rfl
  | @cons s s' c cs hc _ ih =>
    have hkeep : ¬ ((c == ',' && s.separates && cuts != some 0) = true) := by
      intro hcut
      simp only [Bool.and_eq_true, beq_iff_eq] at hcut
      exact Bool.false_ne_true ((hc hcut.1.1).symm.trans hcut.1.2)
    rw [List.cons_append, Instruction.pieces, if_neg hkeep, ih, List.foldr_cons]

/-- A blank before a text. -/
theorem blank_cons (h : Uncut .start cs s') : Uncut .start (' ' :: cs) s' := .cons nofun h

end Uncut

/-! ## §2 Texts joined by commas -/

/-- Texts that are not cut, joined by a comma and a blank, are cut into these texts, the blanks going with the
text after them. -/
theorem pieces_joined {cs : List Char} {others : List (List Char)} {cuts : Nat}
    (hcs : Uncut .start cs .start) (hothers : ∀ ds ∈ others, Uncut .start ds .start)
    (hcuts : others.length ≤ cuts) :
    pieces .start (some cuts) (cs ++ others.flatMap (fun ds => ',' :: ' ' :: ds))
      = cs :: others.map (' ' :: ·) := by
  rw [hcs.pieces]
  induction others generalizing cs cuts with
  | nil => exact (foldr_consPiece cs [] []).trans (by rw [List.append_nil, List.map_nil])
  | cons ds others ih =>
    obtain ⟨cuts, rfl⟩ := Nat.exists_eq_add_one.2 (Nat.lt_of_lt_of_le (Nat.succ_pos _) hcuts)
    obtain ⟨hds, hothers⟩ := List.forall_mem_cons.1 hothers
    have hnext := ih hds.blank_cons hothers (Nat.le_of_succ_le_succ hcuts)
    rw [← hds.blank_cons.pieces] at hnext
    have hcut : pieces .start (some (cuts + 1))
        ((ds :: others).flatMap (fun ds => ',' :: ' ' :: ds))
          = [] :: (' ' :: ds) :: others.map (' ' :: ·) := by
      rw [← hnext]
      rfl
    rw [hcut, foldr_consPiece, List.append_nil, List.map_cons]

theorem toList_joined (separator s : String) (others : List String) :
    (Text.joined separator (s :: others)).toList
      = s.toList ++ others.flatMap (fun t => separator.toList ++ t.toList) := by
  induction others generalizing s with
  | nil => simp [Text.joined]
  | cons t others ih =>
    rw [Text.joined, String.toList_append, String.toList_append, ih, List.flatMap_cons,
      List.append_assoc, List.append_assoc]
    exact nofun

theorem length_dropEmptyEnd_le (params : List String) : (dropEmptyEnd params).length ≤ params.length := by
  have hkept := (List.dropWhile_sublist (· == "") (l := params.reverse)).length_le
  simpa [dropEmptyEnd] using hkept

theorem dropEmptyEnd_eq_self {params : List String} (h : ∀ p ∈ params, p ≠ "") :
    dropEmptyEnd params = params := by
  have hkeep : params.reverse.dropWhile (· == "") = params.reverse := by
    rcases hlast : params.reverse with _ | ⟨p, front⟩
    · rfl
    · have hp : p ∈ params := List.mem_reverse.1 (hlast ▸ List.mem_cons_self)
      exact List.dropWhile_cons_of_neg (by simpa using h p hp)
  rw [dropEmptyEnd, hkeep, List.reverse_reverse]

/-- A way to write a parameter that can be read back: it is not cut, has no blank at its ends, and without the
quotes around it it is the parameter. -/
structure Writes (text param : String) : Prop where
  uncut : Uncut .start text.toList .start
  first : ∀ c ∈ text.toList.head?, Text.isBlank c = false
  last : ∀ c ∈ text.toList.getLast?, Text.isBlank c = false
  unquotes : unquote text = param

namespace Writes

variable {text param : String}

theorem unquote_trim (h : Writes text param) :
    unquote (Text.trim (String.ofList text.toList)) = param := by
  rw [Text.trim, String.toList_ofList, Text.trimChars_eq_self h.first h.last, String.ofList_toList,
    h.unquotes]

theorem unquote_trim_blank (h : Writes text param) :
    unquote (Text.trim (String.ofList (' ' :: text.toList))) = param := by
  have hblank : Text.isBlank ' ' = true := by decide
  rw [← h.unquote_trim, Text.trim, Text.trim, String.toList_ofList, String.toList_ofList,
    Text.trimChars_cons_of_blank hblank]

theorem ne_empty (h : Writes text param) (hparam : param ≠ "") : text ≠ "" := by
  rintro rfl
  exact hparam (h.unquotes.symm.trans rfl)

end Writes

/-- Parameters that are written so that they can be read back are the parameters of an action that takes as
many. -/
theorem parameterList_joined {write : String → String} {params : List String} {maxParams : Nat}
    (hwrite : ∀ p ∈ params, Writes (write p) p) (hfull : ∀ p ∈ params, p ≠ "") (htwo : 2 ≤ maxParams)
    (hmax : params.length ≤ maxParams) :
    parameterList maxParams (Text.joined ", " (params.map write)) = params := by
  rcases params with _ | ⟨p, params⟩
  · rfl
  obtain ⟨hp, hothers⟩ := List.forall_mem_cons.1 hwrite
  have hsome : Text.joined ", " ((p :: params).map write) ≠ "" := by
    intro hempty
    have htext := congrArg String.toList hempty
    rw [List.map_cons, toList_joined] at htext
    exact hp.ne_empty (hfull p List.mem_cons_self)
      (String.toList_inj.1 (List.append_eq_nil_iff.1 htext).1)
  have hcuts : cutsFor (some (maxParams : Int)) = some (maxParams - 1) := by
    simp only [cutsFor, Option.map_some, Option.some.injEq]
    omega
  have hpieces : pieces .start (some (maxParams - 1)) (Text.joined ", " ((p :: params).map write)).toList
      = (write p).toList :: (params.map (fun q => (write q).toList)).map (' ' :: ·) := by
    have hlength : (params.map (fun q => (write q).toList)).length ≤ maxParams - 1 := by
      rw [List.length_map]
      exact Nat.le_sub_one_of_lt hmax
    rw [← pieces_joined hp.uncut (List.forall_mem_map.2 (fun q hq => (hothers q hq).uncut)) hlength,
      List.map_cons, toList_joined, List.flatMap_map, List.flatMap_map]
    rfl
  have hsplit : (split (Text.joined ", " ((p :: params).map write)) (some (maxParams : Int))).map
      (fun piece => unquote (Text.trim piece)) = p :: params := by
    rw [split, hcuts, hpieces]
    simp only [List.map_cons, List.map_map, Function.comp_def]
    rw [hp.unquote_trim, List.map_congr_left (fun q hq => (hothers q hq).unquote_trim_blank),
      List.map_id']
  rw [parameterList, if_neg (by simpa using hsome), if_neg (by simp; omega), hsplit,
    dropEmptyEnd_eq_self hfull]

end BrowserScript.Instruction
