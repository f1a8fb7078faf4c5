/-
BrowserScript.Proofs.Run.ShortText — the short text of a result is the same in the report and on the screen.

The report takes the JSON of a result as it is and cuts it; the screen trims it, writes its line feeds as blanks,
and cuts it then. They agree because the JSON of any value is one line that neither begins nor ends with a
blank, however deeply values are nested in it.

* `Visible`, `Solid`: the characters from the space to the tilde, and those without the space.
* `visible_json`: the JSON of a value has visible characters only. By induction over the value, with its items
  and its entries.
* `oneLine_json`: so nothing in it is trimmed or replaced. Its ends are brackets, quotes or parts of a number.
* `Value.IsJson`: the values that JSON texts can say. They have a JSON form, unless a number in them is too long
  to be written at all.

Main statement: `clip_summary`. Of a JSON value, the note in the table of the report is the text on the screen.
-/
import BrowserScript.Proofs.Number.Digits
import BrowserScript.Proofs.Text.Searching
import BrowserScript.Proofs.Text.Words
import BrowserScript.Run.Report
import Mathlib.Data.Bool.AllAny

namespace BrowserScript

/-! ## §1 Characters -/

namespace Text

/-- A visible character of ASCII, or the space. -/
def Visible (c : Char) : Prop := 0x20 ≤ c.toNat ∧ c.toNat < 0x7f

/-- A visible character of ASCII. -/
def Solid (c : Char) : Prop := 0x20 < c.toNat ∧ c.toNat < 0x7f

instance (c : Char) : Decidable (Visible c) := by unfold Visible; infer_instance

instance (c : Char) : Decidable (Solid c) := by unfold Solid; infer_instance

theorem visible_of_all {cs : List Char} (h : cs.all (fun c => decide (Visible c)) = true) : ∀ c ∈ cs, Visible c :=
  List.all_iff_forall_prop.1 h

theorem solid_of_all {cs : List Char} (h : cs.all (fun c => decide (Solid c)) = true) : ∀ c ∈ cs, Solid c :=
  List.all_iff_forall_prop.1 h

theorem Solid.visible {c : Char} (h : Solid c) : Visible c := ⟨Nat.le_of_lt h.1, h.2⟩

theorem Solid.not_blank {c : Char} (h : Solid c) : isBlank c = false := by
  have hall : ∀ n < 0x7f, 0x20 < n → inRanges n blankRanges = false := by decide
  exact hall c.toNat h.2 h.1

theorem trimChars_of_solid {cs : List Char} (h : ∀ c ∈ cs, Solid c) : trimChars cs = cs :=
  trimChars_eq_self (fun c hc => (h c (List.mem_of_mem_head? hc)).not_blank)
    (fun c hc => (h c (List.mem_of_getLast? hc)).not_blank)

theorem solid_of_isDigit {c : Char} (h : c.isDigit = true) : Solid c := by
  have hdigit := Char.isDigit_iff_toNat.1 h
  exact ⟨Nat.lt_of_lt_of_le (by decide) hdigit.1, Nat.lt_of_le_of_lt hdigit.2 (by decide)⟩

theorem solid_hexDigit {n : Nat} (h : n < 16) : Solid (hexDigit n) := by
  have hall : ∀ n < 16, Solid (hexDigit n) := by decide
  exact hall n h

theorem solid_hexDigits (width n : Nat) : ∀ c ∈ hexDigits width n, Solid c := by
  induction width generalizing n with
  | zero => nofun
  | succ width ih =>
    intro c hc
    rcases List.mem_append.1 hc with hfront | hlast
    · exact ih _ c hfront
    · rw [List.mem_singleton.1 hlast]
      exact solid_hexDigit (Nat.mod_lt _ (by decide))

/-- Texts of visible characters, one after the other with such a text between them. -/
theorem visible_joined {separator : String} (hseparator : ∀ c ∈ separator.toList, Visible c)
    {parts : List String} (h : ∀ s ∈ parts, ∀ c ∈ s.toList, Visible c) :
    ∀ c ∈ (joined separator parts).toList, Visible c := by
  induction parts with
  | nil => nofun
  | cons s parts ih =>
    obtain ⟨hs, hparts⟩ := List.forall_mem_cons.1 h
    cases parts with
    | nil => exact hs
    | cons t parts =>
      have hjoined : joined separator (s :: t :: parts) = s ++ separator ++ joined separator (t :: parts) := rfl
      rw [hjoined, String.toList_append, String.toList_append, List.forall_mem_append, List.forall_mem_append]
      exact ⟨⟨hs, hseparator⟩, ih hparts⟩

end Text

open Text (Visible Solid)

/-! ## §2 Numbers -/

namespace Number

theorem solid_digitsOf (n : Nat) : ∀ c ∈ digitsOf n, Solid c := fun _ hc =>
  Text.solid_of_isDigit (isDigit_of_mem_digitsOf hc)

theorem solid_intText (n : Int) : ∀ c ∈ (intText n).toList, Solid c := by
  intro c hc
  rcases mem_intText hc with rfl | hdigit
  · decide
  · exact Text.solid_of_isDigit hdigit

theorem mem_of_mem_dropZeros {ds : List Char} {c : Char} (h : c ∈ dropZeros ds) : c ∈ ds := by
  rw [dropZeros, List.mem_reverse] at h
  exact List.mem_reverse.1 ((List.dropWhile_sublist _).subset h)

theorem solid_replicate {c : Char} (hc : Solid c) (n : Nat) : ∀ d ∈ List.replicate n c, Solid d := by
  intro d hd
  rwa [List.eq_of_mem_replicate hd]

/-- An exponent has two digits at least. -/
theorem solid_exponent (n : Nat) :
    ∀ c ∈ (if (digitsOf n).length < 2 then '0' :: digitsOf n else digitsOf n), Solid c := by
  split
  · exact List.forall_mem_cons.2 ⟨by decide, solid_digitsOf n⟩
  · exact solid_digitsOf n

/-- Digits with a point or an exponent among them. -/
theorem solid_placePoint {ds : List Char} (h : ∀ c ∈ ds, Solid c) (point : Int) :
    ∀ c ∈ placePoint ds point, Solid c := by
  have hzero : Solid '0' := by decide
  have hpoint : Solid '.' := by decide
  have hmark : Solid 'e' := by decide
  have hsign : Solid (if point - 1 < 0 then '-' else '+') := by split <;> decide
  unfold placePoint
  dsimp only
  split
  · have hexponent := solid_exponent (point - 1).natAbs
    split
    · simp only [List.forall_mem_cons] at h ⊢
      exact ⟨h.1, hmark, hsign, hexponent⟩
    · simp only [List.forall_mem_cons, List.forall_mem_append] at h ⊢
      exact ⟨h.1, hpoint, h.2, hmark, hsign, hexponent⟩
    · nofun
  · split
    · simp only [List.forall_mem_cons, List.forall_mem_append]
      exact ⟨hzero, hpoint, solid_replicate hzero _, h⟩
    · split
      · simp only [List.forall_mem_cons, List.forall_mem_append]
        exact ⟨⟨h, solid_replicate hzero _⟩, hpoint, hzero, nofun⟩
      · simp only [List.forall_mem_cons, List.forall_mem_append]
        exact ⟨fun c hc => h c (List.mem_of_mem_take hc), hpoint, fun c hc => h c (List.mem_of_mem_drop hc)⟩

theorem solid_text (x : Binary64) : ∀ c ∈ x.text.toList, Solid c := by
  have hminus : Solid '-' := by decide
  cases x with
  | nan => exact Text.solid_of_all (by decide)
  | infinite s => cases s <;> exact Text.solid_of_all (by decide)
  | finite s m e =>
    rw [Binary64.text]
    generalize shortest m e = found
    obtain ⟨k, power⟩ := found
    have hbody : ∀ c ∈ (if m = 0 then ['0', '.', '0']
        else placePoint (dropZeros (digitsOf k)) ((digitsOf k).length + power)), Solid c := by
      split
      · exact Text.solid_of_all (by decide)
      · exact solid_placePoint (fun c hc => solid_digitsOf k c (mem_of_mem_dropZeros hc)) _
    rw [String.toList_ofList]
    cases s with
    | false => exact hbody
    | true => exact List.forall_mem_cons.2 ⟨hminus, hbody⟩

end Number

/-! ## §3 Values -/

namespace Json

theorem visible_unitEscape (n : Nat) : ∀ c ∈ unitEscape n, Visible c := by
  simp only [unitEscape, List.forall_mem_cons]
  exact ⟨by decide, by decide, fun c hc => (Text.solid_hexDigits 4 n c hc).visible⟩

theorem visible_escapedChar (c : Char) : ∀ d ∈ escapedChar c, Visible d := by
  unfold escapedChar
  split
  · rename_i hmark
    rw [Bool.or_eq_true, beq_iff_eq, beq_iff_eq] at hmark
    rcases hmark with rfl | rfl <;> exact Text.visible_of_all (by decide)
  · repeat' split
    · exact Text.visible_of_all (by decide)
    · exact Text.visible_of_all (by decide)
    · exact Text.visible_of_all (by decide)
    · exact Text.visible_of_all (by decide)
    · exact Text.visible_of_all (by decide)
    · rename_i hplain
      rw [Bool.and_eq_true, decide_eq_true_iff, decide_eq_true_iff] at hplain
      exact List.forall_mem_singleton.2 hplain
    · exact visible_unitEscape _
    · exact visible_unitEscape _
    · exact List.forall_mem_append.2 ⟨visible_unitEscape _, visible_unitEscape _⟩

theorem toList_escaped (s : String) :
    (escaped s).toList = '"' :: (s.toList.flatMap escapedChar ++ ['"']) := String.toList_ofList

theorem visible_escaped (s : String) : ∀ c ∈ (escaped s).toList, Visible c := by
  have hinner : ∀ c ∈ s.toList.flatMap escapedChar, Visible c := by
    intro c hc
    obtain ⟨d, -, hc⟩ := List.mem_flatMap.1 hc
    exact visible_escapedChar d c hc
  rw [toList_escaped]
  simp only [List.forall_mem_cons, List.forall_mem_append]
  exact ⟨by decide, hinner, by decide, nofun⟩

theorem solid_numberText (x : Number.Binary64) : ∀ c ∈ (numberText x).toList, Solid c := by
  cases x with
  | nan => exact Text.solid_of_all (by decide)
  | infinite s => cases s <;> exact Text.solid_of_all (by decide)
  | finite s m e => exact Number.solid_text _

end Json

namespace Value

open Json

theorem visible_separator : ∀ c ∈ ", ".toList, Visible c := Text.visible_of_all (by decide)

mutual

/-- The JSON of a value has visible characters only. -/
theorem visible_json : ∀ v : Value, ∀ c ∈ v.json.toList, Visible c
  | .null => by rw [json]; exact Text.visible_of_all (by decide)
  | .bool true => by rw [json]; exact Text.visible_of_all (by decide)
  | .bool false => by rw [json]; exact Text.visible_of_all (by decide)
  | .int n => by
    rw [json]
    exact fun c hc => (Number.solid_intText n c hc).visible
  | .float x => by
    rw [json]
    exact fun c hc => (solid_numberText x c hc).visible
  | .text s => visible_escaped s
  | .list items => by
    have hitems := Text.visible_joined visible_separator (visible_jsonItems items)
    rw [json]
    simp only [String.toList_append, List.forall_mem_append]
    exact ⟨⟨Text.visible_of_all (by decide), hitems⟩, Text.visible_of_all (by decide)⟩
  | .dict entries => by
    have hentries := Text.visible_joined visible_separator (visible_jsonEntries entries)
    rw [json]
    simp only [String.toList_append, List.forall_mem_append]
    exact ⟨⟨Text.visible_of_all (by decide), hentries⟩, Text.visible_of_all (by decide)⟩
  | .pair k v => by
    rw [json]
    simp only [String.toList_append, List.forall_mem_append]
    exact ⟨⟨⟨⟨Text.visible_of_all (by decide), visible_json k⟩, visible_separator⟩, visible_json v⟩,
      Text.visible_of_all (by decide)⟩
  | .bytes data => visible_escaped _
  | .date day => visible_escaped _
  | .moment time => visible_escaped _
  | .set members => visible_escaped _
  | .enclosing isList => visible_escaped _

theorem visible_jsonItems : ∀ items : List Value, ∀ s ∈ jsonItems items, ∀ c ∈ s.toList, Visible c
  | [] => nofun
  | v :: rest => by
    rw [jsonItems]
    exact List.forall_mem_cons.2 ⟨visible_json v, visible_jsonItems rest⟩

theorem visible_jsonEntries :
    ∀ entries : List (Value × Value), ∀ s ∈ jsonEntries entries, ∀ c ∈ s.toList, Visible c
  | [] => nofun
  | (k, v) :: rest => by
    rw [jsonEntries]
    refine List.forall_mem_cons.2 ⟨?_, visible_jsonEntries rest⟩
    simp only [String.toList_append, List.forall_mem_append]
    exact ⟨⟨visible_escaped _, Text.visible_of_all (by decide)⟩, visible_json v⟩

end

/-- The JSON of a value has no blanks at its ends. -/
theorem trimChars_json (v : Value) : Text.trimChars v.json.toList = v.json.toList := by
  have hquoted : ∀ s, Text.trimChars (escaped s).toList = (escaped s).toList := by
    intro s
    rw [toList_escaped]
    exact Text.trimChars_between (by decide) (by decide) _
  have hframed : ∀ (opening closing : String) (c d : Char) (middle : String), opening.toList = [c] →
      closing.toList = [d] → Solid c → Solid d →
      Text.trimChars (opening ++ middle ++ closing).toList = (opening ++ middle ++ closing).toList := by
    intro opening closing c d middle hopening hclosing hc hd
    rw [String.toList_append, String.toList_append, hopening, hclosing]
    exact Text.trimChars_between hc.not_blank hd.not_blank _
  cases v with
  | null => decide
  | bool b => cases b <;> decide
  | int n => exact Text.trimChars_of_solid (Number.solid_intText n)
  | float x => exact Text.trimChars_of_solid (solid_numberText x)
  | list items => exact hframed "[" "]" '[' ']' _ rfl rfl (by decide) (by decide)
  | dict entries => exact hframed "\x7b" "\x7d" '\x7b' '\x7d' _ rfl rfl (by decide) (by decide)
  | pair k v =>
    -- a pair is framed as a list is, with both parts and what is between them inside
    have hmiddle : (Value.pair k v).json = "[" ++ (json k ++ ", " ++ json v) ++ "]" := by
      rw [json]
      simp only [String.append_assoc]
    rw [hmiddle]
    exact hframed "[" "]" '[' ']' _ rfl rfl (by decide) (by decide)
  | _ => exact hquoted _

end Value

/-! ## §4 Short texts -/

namespace Run

/-- The JSON of a value is one line already. -/
theorem oneLine_json (v : Value) : oneLine v.json = v.json := by
  have hfeed : '\n' ∉ v.json.toList := fun h => absurd (Value.visible_json v _ h) (by decide)
  rw [oneLine, Value.trimChars_json, Text.replaceChar_eq_self hfeed _, String.ofList_toList]

end Run

namespace Value

/-- The values that JSON texts can say: the keys of entries are texts. -/
inductive IsJson : Value → Prop
  | null : IsJson .null
  | bool (b : Bool) : IsJson (.bool b)
  | int (n : Int) : IsJson (.int n)
  | float (x : Number.Binary64) : IsJson (.float x)
  | text (s : String) : IsJson (.text s)
  | list {items : List Value} (h : ∀ v ∈ items, IsJson v) : IsJson (.list items)
  | dict {entries : List (Value × Value)} (hkeys : ∀ e ∈ entries, ∃ s, e.1 = .text s)
      (h : ∀ e ∈ entries, IsJson e.2) : IsJson (.dict entries)

/-- A value that can be written, or that has a number too long to be written. -/
def Lawful (v : Value) : Prop := v.checkJson = .ok () ∨ v.checkJson = .error .longNumber

theorem checkPlain_lawful (v : Value) : checkPlain v = .ok () ∨ checkPlain v = .error .longNumber := by
  unfold checkPlain
  split
  · exact .inl rfl
  · exact .inr rfl

theorem checkItems_lawful {items : List Value} (h : ∀ v ∈ items, v.Lawful) :
    checkItems items = .ok () ∨ checkItems items = .error .longNumber := by
  induction items with
  | nil => exact .inl rfl
  | cons v rest ih =>
    obtain ⟨hv, hrest⟩ := List.forall_mem_cons.1 h
    rw [checkItems]
    rcases hv with hv | hv
    · rw [hv]
      exact ih hrest
    · rw [hv]
      exact .inr rfl

theorem checkEntries_lawful {entries : List (Value × Value)} (hkeys : ∀ e ∈ entries, ∃ s, e.1 = .text s)
    (h : ∀ e ∈ entries, e.2.Lawful) :
    checkEntries entries = .ok () ∨ checkEntries entries = .error .longNumber := by
  induction entries with
  | nil => exact .inl rfl
  | cons entry rest ih =>
    obtain ⟨⟨s, hs⟩, hrestKeys⟩ := List.forall_mem_cons.1 hkeys
    obtain ⟨hv, hrest⟩ := List.forall_mem_cons.1 h
    obtain ⟨k, v⟩ := entry
    cases hs
    rw [checkEntries]
    rcases hv with hv | hv
    · rw [hv]
      exact ih hrestKeys hrest
    · rw [hv]
      exact .inr rfl

/-- Neither a circle nor a key of another kind keeps a JSON value from being written. -/
theorem IsJson.lawful {v : Value} (h : v.IsJson) : v.Lawful := by
  induction h with
  | null => exact .inl rfl
  | bool b => exact .inl rfl
  | int n => exact checkPlain_lawful _
  | float x => exact .inl rfl
  | text s => exact .inl rfl
  | list _ ih => exact checkItems_lawful ih
  | dict hkeys _ ih => exact checkEntries_lawful hkeys ih

end Value

namespace Run

open Value

/-- A JSON value that is neither nothing nor a text is summed up by its JSON. -/
theorem summary_of_lawful {v : Value} (h : v.Lawful) (hnull : v ≠ .null) (htext : ∀ s, v ≠ .text s) :
    summary v = v.json := by
  rw [summary]
  · rcases h with h | h
    · rw [h]
    · rw [h]
  · exact hnull
  · exact htext

/-- Of a JSON value, the short text in the report, cut where it is too long for the table, is the text on the
screen; so it is the note on an outcome that succeeded with this value. -/
theorem clip_summary {v : Value} (h : v.IsJson) :
    Text.clip (summary v) = clipped v ∧
      ∀ o : Outcome, o.success = true → o.result = v → Report.note o = clipped v := by
  have hclip : Text.clip (summary v) = clipped v := by
    have hjson : v ≠ .null → (∀ s, v ≠ .text s) → Text.clip (summary v) = Text.clip (oneLine v.json) :=
      fun hnull htext => by rw [oneLine_json, summary_of_lawful h.lawful hnull htext]
    cases h with
    | null => decide
    | text s => rfl
    | bool b => exact hjson nofun nofun
    | int n => exact hjson nofun nofun
    | float x => exact hjson nofun nofun
    | list _ => exact hjson nofun nofun
    | dict _ _ => exact hjson nofun nofun
  refine ⟨hclip, ?_⟩
  rintro o hsuccess rfl
  rw [← hclip, Report.note, hsuccess, if_pos rfl]

/-- A result with line feeds, blanks and nested lists in it. -/
def tableResult : Value :=
  .dict [(.text "rows", .list [.text " a | b\n", .list [.bool true, .null, .int (-3)]]),
    (.text "caption", .text "A text that is long enough to be cut where the table ends, and somewhat longer")]

theorem clip_summary_nested :
    tableResult.IsJson ∧ Text.clip (summary tableResult) = clipped tableResult ∧
      (clipped tableResult).length = 80 := by
  have hrow : (Value.list [.bool true, .null, .int (-3)]).IsJson := by
    refine .list ?_
    simp only [List.forall_mem_cons]
    exact ⟨.bool true, .null, .int (-3), nofun⟩
  have hrows : (Value.list [.text " a | b\n", .list [.bool true, .null, .int (-3)]]).IsJson := by
    refine .list ?_
    simp only [List.forall_mem_cons]
    exact ⟨.text _, hrow, nofun⟩
  have hresult : tableResult.IsJson := by
    refine .dict ?_ ?_
    · simp only [List.forall_mem_cons]
      exact ⟨⟨_, rfl⟩, ⟨_, rfl⟩, nofun⟩
    · simp only [List.forall_mem_cons]
      exact ⟨hrows, .text _, nofun⟩
  exact ⟨hresult, (clip_summary hresult).1, by decide +kernel⟩

end Run
end BrowserScript
