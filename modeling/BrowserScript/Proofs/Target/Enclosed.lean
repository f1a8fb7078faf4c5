/-
BrowserScript.Proofs.Target.Enclosed — a description stays between the quotes of its selector.

Most templates have their gap between double quotes. What is filled in there must not end the quotes: a double quote
in it would, and so would a backslash at its end, which takes the meaning of the closing quote away. Sanitising drops
all quotes first, then the blanks at both ends, and doubles the backslashes last, so that backslashes come in pairs
wherever quotes and blanks were dropped.

* `bareQuotes`, `unescaped`: a selector is read from left to right, and a backslash takes the meaning of the one
  character after it.
* `bareQuotes_doubled_append`: a reader passes a text without quotes whose backslashes are doubled, and nothing of
  it reaches what follows. By induction on the text; the reader is not behind a backslash before and after it.
* `unescaped_doubled`: reading gives the text back.

Main statement: `fill_sanitize_enclosed`.
-/
import BrowserScript.Proofs.Target.DistinctCandidates

namespace BrowserScript.Target

/-! ## §1 Reading a selector -/

/-- The places of the double quotes that no backslash takes the meaning of. The text begins at place `i`, and
`escaped` tells whether such a backslash stands before it. -/
def bareQuotes (i : Nat) (escaped : Bool) : List Char → List Nat
  | [] => []
  | c :: rest =>
    if c == '"' && !escaped then i :: bareQuotes (i + 1) false rest
    else bareQuotes (i + 1) (c == '\\' && !escaped) rest

/-- A text without the backslashes that take the meaning of a character away. -/
def unescaped (escaped : Bool) : List Char → List Char
  | [] => []
  | c :: rest =>
    if c == '\\' && !escaped then unescaped true rest else c :: unescaped false rest

/-- What stands between two places of a text. -/
def textBetween (i j : Nat) (cs : List Char) : List Char := (cs.take j).drop (i + 1)

theorem textBetween_append {left right : List Char} {c : Char} (inner : List Char) :
    textBetween left.length (left.length + 1 + inner.length) (left ++ c :: (inner ++ right)) = inner := by
  have hsplit : left ++ c :: (inner ++ right) = (left ++ [c]) ++ inner ++ right := by simp
  have hlength : left.length + 1 + inner.length = ((left ++ [c]) ++ inner).length := by
    rw [List.length_append, List.length_append, List.length_singleton]
  have hopening : left.length + 1 = (left ++ [c]).length := by simp
  rw [textBetween, hlength, hopening, hsplit, List.take_left, List.drop_left]

/-! ## §2 Doubled backslashes -/

/-- A text with every backslash doubled. -/
def doubled (cs : List Char) : List Char := Text.replaceChar '\\' ['\\', '\\'] cs

theorem doubled_cons_backslash (cs : List Char) : doubled ('\\' :: cs) = '\\' :: '\\' :: doubled cs := rfl

theorem doubled_cons {c : Char} (hc : c ≠ '\\') (cs : List Char) : doubled (c :: cs) = c :: doubled cs := by
  simp [doubled, Text.replaceChar, hc]

/-- A text without backslashes has none to double. -/
theorem doubled_eq_self {cs : List Char} (h : '\\' ∉ cs) : doubled cs = cs := by
  induction cs with
  | nil => rfl
  | cons c cs ih =>
    obtain ⟨hc, hcs⟩ := List.ne_and_not_mem_of_not_mem_cons h
    rw [doubled_cons hc.symm, ih hcs]

/-- A reader passes a text without quotes and comes out of it as it came in. -/
theorem bareQuotes_doubled_append {cs : List Char} (h : '"' ∉ cs) (i : Nat) (rest : List Char) :
    bareQuotes i false (doubled cs ++ rest) = bareQuotes (i + (doubled cs).length) false rest := by
  induction cs generalizing i with
  | nil => rfl
  | cons c cs ih =>
    obtain ⟨hquote, hcs⟩ := List.ne_and_not_mem_of_not_mem_cons h
    by_cases hback : c = '\\'
    · subst hback
      have hpair : bareQuotes i false ('\\' :: '\\' :: (doubled cs ++ rest))
          = bareQuotes (i + 2) false (doubled cs ++ rest) := rfl
      have hlength : i + 2 + (doubled cs).length = i + (doubled ('\\' :: cs)).length := by
        rw [doubled_cons_backslash, List.length_cons, List.length_cons]
        omega
      rw [doubled_cons_backslash, List.cons_append, List.cons_append, hpair, ih hcs, hlength]
      rfl
    · have hother : bareQuotes i false (c :: (doubled cs ++ rest))
          = bareQuotes (i + 1) false (doubled cs ++ rest) := by
        simp [bareQuotes, hquote.symm, beq_false_of_ne hback]
      have hlength : i + 1 + (doubled cs).length = i + (doubled (c :: cs)).length := by
        rw [doubled_cons hback, List.length_cons]
        omega
      rw [doubled_cons hback, List.cons_append, hother, ih hcs, hlength, doubled_cons hback]

/-- A text without quotes and backslashes is passed as well. -/
theorem bareQuotes_plain_append {cs : List Char} (hquote : '"' ∉ cs) (hback : '\\' ∉ cs) (i : Nat)
    (rest : List Char) : bareQuotes i false (cs ++ rest) = bareQuotes (i + cs.length) false rest := by
  have hpassed := bareQuotes_doubled_append hquote i rest
  rwa [doubled_eq_self hback] at hpassed

theorem unescaped_doubled (cs : List Char) : unescaped false (doubled cs) = cs := by
  induction cs with
  | nil => rfl
  | cons c cs ih =>
    by_cases hback : c = '\\'
    · subst hback
      rw [doubled_cons_backslash]
      exact congrArg _ ih
    · rw [doubled_cons hback, unescaped, if_neg (by simp [hback]), ih]

/-! ## §3 Filled templates -/

/-- Whether the gap of a template is between double quotes. -/
def Template.Encloses (t : Template) : Prop :=
  t.before.toList.getLast? = some '"' ∧ t.after.toList.head? = some '"'

instance (t : Template) : Decidable t.Encloses := by unfold Template.Encloses; infer_instance

/-- A template whose own quotes are the two around its gap, and that has no backslashes. -/
structure Template.Framed (t : Template) (left right : List Char) : Prop where
  before : t.before.toList = left ++ ['"']
  after : t.after.toList = '"' :: right
  left_quote : '"' ∉ left
  left_back : '\\' ∉ left
  right_quote : '"' ∉ right
  right_back : '\\' ∉ right

/-- The quotes around the gap are the only ones of a template in the table. -/
theorem framed_of_encloses : ∀ t ∈ allTemplates, t.Encloses →
    t.Framed t.before.toList.dropLast t.after.toList.tail := by
  have htable : ∀ t ∈ allTemplates, t.Encloses →
      t.before.toList = t.before.toList.dropLast ++ ['"'] ∧ t.after.toList = '"' :: t.after.toList.tail ∧
      '"' ∉ t.before.toList.dropLast ∧ '\\' ∉ t.before.toList.dropLast ∧
      '"' ∉ t.after.toList.tail ∧ '\\' ∉ t.after.toList.tail := by
    decide +kernel
  intro t ht hencloses
  obtain ⟨hbefore, hafter, hleft, hleft', hright, hright'⟩ := htable t ht hencloses
  exact ⟨hbefore, hafter, hleft, hleft', hright, hright'⟩

/-- All templates but three enclose their gap. -/
example : allTemplates.filter (fun t => !decide t.Encloses) = [⟨"text=", ""⟩, ⟨".", ""⟩, ⟨"#", ""⟩] := by
  decide +kernel

/-- A description without its quotes and the blanks around what is left, with doubled backslashes. -/
theorem toList_sanitize (description : String) :
    (sanitize description).toList = doubled (Text.trimChars (unquoted description.toList)) :=
  String.toList_ofList

/-- No quote is left in a description after those that it loses were dropped. -/
theorem quote_not_mem_trimmed (cs : List Char) : '"' ∉ Text.trimChars (unquoted cs) := by
  intro hmem
  obtain ⟨b₁, b₂, -, -, hsplit⟩ := Text.exists_eq_trimChars (unquoted cs)
  have hunquoted : '"' ∈ unquoted cs := by
    rw [hsplit]
    exact List.mem_append_left _ (List.mem_append_right _ hmem)
  have hkept := (List.mem_filter.1 hunquoted).2
  exact absurd hkept (by decide)

/-- A template filled with a sanitised description has two double quotes that are not escaped: the last character
before the gap and the first one after it. What is read between them is the description without its quotes and
the blanks around what is left. Blanks around the description make no difference. -/
theorem fill_sanitize_enclosed (description : String) {t : Template} (ht : t ∈ allTemplates)
    (hencloses : t.Encloses) :
    sanitize (Text.trim description) = sanitize description ∧
    ∃ opening closing,
      bareQuotes 0 false (t.fill (sanitize description)).toList = [opening, closing] ∧
      opening + 1 = t.before.length ∧ closing = t.before.length + (sanitize description).length ∧
      unescaped false (textBetween opening closing (t.fill (sanitize description)).toList)
        = Text.trimChars (unquoted description.toList) := by
  refine ⟨sanitize_trim description, ?_⟩
  have hframed := framed_of_encloses t ht hencloses
  generalize t.before.toList.dropLast = left at hframed
  generalize t.after.toList.tail = right at hframed
  have hbefore : t.before.length = left.length + 1 := by
    rw [← String.length_toList, hframed.before, List.length_append, List.length_singleton]
  have hselector : (t.fill (sanitize description)).toList
      = left ++ '"' :: ((sanitize description).toList ++ '"' :: right) := by
    rw [t.toList_fill, hframed.before, hframed.after, List.append_assoc, List.singleton_append]
  refine ⟨left.length, left.length + 1 + (sanitize description).length, ?_, hbefore.symm, by rw [hbefore], ?_⟩
  · have hinside := bareQuotes_doubled_append (quote_not_mem_trimmed description.toList) (left.length + 1)
      ('"' :: right)
    rw [← toList_sanitize, String.length_toList] at hinside
    have hopening : ∀ i rest, bareQuotes i false ('"' :: rest) = i :: bareQuotes (i + 1) false rest := fun _ _ => rfl
    have hright : ∀ i, bareQuotes i false right = [] := by
      intro i
      have hpassed := bareQuotes_plain_append hframed.right_quote hframed.right_back i []
      rwa [List.append_nil] at hpassed
    rw [hselector, bareQuotes_plain_append hframed.left_quote hframed.left_back, hopening, Nat.zero_add, hinside,
      hopening, hright]
  · rw [hselector, ← String.length_toList, textBetween_append, toList_sanitize, unescaped_doubled]

/-- A description that ends in backslashes with quotes between them and behind them. -/
theorem fill_sanitize_enclosed_awkward :
    (⟨"button:has-text(\"", "\")"⟩ : Template) ∈ allTemplates ∧
    ∃ opening closing,
      bareQuotes 0 false ((⟨"button:has-text(\"", "\")"⟩ : Template).fill (sanitize " C:\\\"\\' ")).toList
        = [opening, closing] ∧
      opening + 1 = 17 ∧ closing = 23 ∧
      unescaped false (textBetween opening closing
        ((⟨"button:has-text(\"", "\")"⟩ : Template).fill (sanitize " C:\\\"\\' ")).toList)
          = ['C', ':', '\\', '\\'] := by
  have ht : (⟨"button:has-text(\"", "\")"⟩ : Template) ∈ allTemplates := by decide +kernel
  obtain ⟨-, opening, closing, hquotes, hopening, hclosing, hread⟩ :=
    fill_sanitize_enclosed " C:\\\"\\' " ht (by decide +kernel)
  have hlength : (sanitize " C:\\\"\\' ").length = 6 := by decide +kernel
  have htext : Text.trimChars (unquoted " C:\\\"\\' ".toList) = ['C', ':', '\\', '\\'] := by decide +kernel
  refine ⟨ht, opening, closing, hquotes, hopening, ?_, hread.trans htext⟩
  rw [hclosing, hlength]
  rfl

end BrowserScript.Target
