import Mathlib.Data.Set.Operations
import Recordset.Proofs.StatementTokens

/-!
# Quoted literals

A quoted literal is a quote, then characters other than quotes and quotes written twice, then a
quote (`Text.IsLiteral`). A reader that has the opening quote behind it finds the end of the literal
by itself, whatever comes after it: what it takes off a text is a quoted text, and the rest does not
begin with a quote (`Token.readQuoted_eq_some_iff`). `quoted_is_literal_grammar` is the top theorem
and says that quoting is one-to-one from all texts onto the literals.
-/

set_option autoImplicit false

namespace Recordset

namespace Token

/-- What is read up to the end of a literal was written by doubling quotes, and the literal ends
where no quote follows. -/
theorem eq_of_readQuoted {text cs rest : List Char} (h : readQuoted text = some (cs, rest)) :
    text = Text.doubleQuotes cs ++ '\'' :: rest ∧ rest.head? ≠ some '\'' := by
  fun_induction readQuoted text generalizing cs with
  | case1 => cases h
  | case2 =>
    cases h
    exact ⟨rfl, by simp⟩
  | case3 c hc => cases h
  | case4 more ih =>
    obtain ⟨⟨inside, after⟩, hmore, heq⟩ := Option.map_eq_some_iff.1 h
    cases heq
    obtain ⟨rfl, hhead⟩ := ih hmore
    exact ⟨by simp [Text.doubleQuotes], hhead⟩
  | case5 d more hd =>
    cases h
    exact ⟨rfl, by simpa using hd⟩
  | case6 c d more hc ih =>
    obtain ⟨⟨inside, after⟩, hmore, heq⟩ := Option.map_eq_some_iff.1 h
    cases heq
    obtain ⟨hcons, hhead⟩ := ih hmore
    exact ⟨by rw [hcons, Text.doubleQuotes, if_neg hc, List.cons_append], hhead⟩

theorem readQuoted_eq_some_iff {text cs rest : List Char} :
    readQuoted text = some (cs, rest) ↔
      text = Text.doubleQuotes cs ++ '\'' :: rest ∧ rest.head? ≠ some '\'' := by
  constructor
  · exact eq_of_readQuoted
  · rintro ⟨rfl, hhead⟩
    exact readQuoted_doubleQuotes cs hhead

end Token

namespace Text

/-- Reads the literal that a text begins with: the text inside its quotes, where doubled quotes
are single again, and what comes after it. -/
def unquote (text : String) : Option (String × String) :=
  match text.toList with
  | [] => none
  | c :: rest =>
    if c = '\'' then
      (Token.readQuoted rest).map fun r => (String.ofList r.1, String.ofList r.2)
    else none

/-- What may stand between the quotes of a literal. -/
inductive Inside : List Char → Prop where
  | nil : Inside []
  | plain {c : Char} {cs : List Char} (hc : c ≠ '\'') (rest : Inside cs) : Inside (c :: cs)
  /-- A quote is written twice. -/
  | doubled {cs : List Char} (rest : Inside cs) : Inside ('\'' :: '\'' :: cs)

/-- A quoted literal by its grammar. -/
def IsLiteral (text : String) : Prop :=
  ∃ cs, Inside cs ∧ text.toList = '\'' :: (cs ++ ['\''])

theorem inside_doubleQuotes (cs : List Char) : Inside (doubleQuotes cs) := by
  induction cs with
  | nil => exact .nil
  | cons c cs ih =>
    rw [doubleQuotes]
    split
    · exact .doubled ih
    · rename_i hc
      exact .plain hc ih

theorem exists_doubleQuotes {cs : List Char} (h : Inside cs) : ∃ s, doubleQuotes s = cs := by
  induction h with
  | nil => exact ⟨[], rfl⟩
  | @plain c cs hc rest ih =>
    obtain ⟨s, rfl⟩ := ih
    exact ⟨c :: s, if_neg hc⟩
  | doubled rest ih =>
    obtain ⟨s, rfl⟩ := ih
    exact ⟨'\'' :: s, if_pos rfl⟩

/-- Every quote counts twice. -/
theorem count_doubleQuotes (cs : List Char) :
    (doubleQuotes cs).count '\'' = 2 * cs.count '\'' := by
  induction cs with
  | nil => rfl
  | cons c cs ih =>
    by_cases hc : c = '\''
    · rw [doubleQuotes, if_pos hc, hc, List.count_cons_self, List.count_cons_self,
        List.count_cons_self, ih]
      omega
    · rw [doubleQuotes, if_neg hc, List.count_cons_of_ne hc, List.count_cons_of_ne hc, ih]

theorem toList_quoted (s : String) :
    (quoted s).toList = '\'' :: (doubleQuotes s.toList ++ ['\'']) := String.toList_ofList

/-- A text is read as a literal and what comes after it exactly if it is the one followed by the
other, and the literal cannot go on. -/
theorem unquote_eq_some_iff {text s t : String} :
    unquote text = some (s, t) ↔ text = quoted s ++ t ∧ t.toList.head? ≠ some '\'' := by
  have hsplit : text = quoted s ++ t ↔
      text.toList = '\'' :: (doubleQuotes s.toList ++ '\'' :: t.toList) := by
    rw [← String.toList_inj, String.toList_append, toList_quoted, List.cons_append,
      List.append_assoc, List.singleton_append]
  rw [hsplit, unquote]
  cases text.toList with
  | nil => simp
  | cons c rest =>
    by_cases hc : c = '\''
    · have hread : Token.readQuoted rest = some (s.toList, t.toList) ↔
          rest = doubleQuotes s.toList ++ '\'' :: t.toList ∧ t.toList.head? ≠ some '\'' :=
        Token.readQuoted_eq_some_iff
      subst hc
      simp only [if_true, List.cons.injEq, true_and, ← hread, Option.map_eq_some_iff]
      constructor
      · rintro ⟨⟨inside, after⟩, hrest, heq⟩
        cases heq
        simpa only [String.toList_ofList] using hrest
      · intro hrest
        exact ⟨_, hrest, by simp only [String.ofList_toList]⟩
    · simp [hc]

theorem quoted_injective : Function.Injective quoted := by
  intro s s' h
  have hread : unquote (quoted s) = some (s, "") :=
    unquote_eq_some_iff.2 ⟨String.append_empty.symm, by simp⟩
  have hread' : unquote (quoted s') = some (s', "") :=
    unquote_eq_some_iff.2 ⟨String.append_empty.symm, by simp⟩
  rw [h, hread'] at hread
  exact (Prod.mk.inj (Option.some.inj hread)).1.symm

theorem isLiteral_iff {text : String} : IsLiteral text ↔ ∃ s, quoted s = text := by
  constructor
  · rintro ⟨cs, hinside, htext⟩
    obtain ⟨s, rfl⟩ := exists_doubleQuotes hinside
    refine ⟨String.ofList s, ?_⟩
    rw [← String.toList_inj, toList_quoted, String.toList_ofList, htext]
  · rintro ⟨s, rfl⟩
    exact ⟨doubleQuotes s.toList, inside_doubleQuotes _, toList_quoted s⟩

/-- A reader takes a literal and what comes after it off a text exactly if the text is a quoted text
followed by something that does not begin with a quote, and it gives back what was quoted. Each
literal is the quoted form of exactly one text, no two texts have one quoted form, and quoted forms
are literals. A quoted form has two quotes more than twice those of its text. -/
theorem quoted_is_literal_grammar :
    (∀ text s t : String, unquote text = some (s, t) ↔
        text = quoted s ++ t ∧ t.toList.head? ≠ some '\'') ∧
      (∀ text : String, IsLiteral text → ∃! s, quoted s = text) ∧
      Function.Injective quoted ∧
      Set.range quoted = {text | IsLiteral text} ∧
      ∀ s : String, (quoted s).toList.count '\'' = 2 * s.toList.count '\'' + 2 := by
  refine ⟨fun text s t => unquote_eq_some_iff, ?_, quoted_injective, ?_, ?_⟩
  · intro text h
    obtain ⟨s, rfl⟩ := isLiteral_iff.1 h
    exact ⟨s, rfl, fun s' hs => quoted_injective hs⟩
  · ext text
    exact isLiteral_iff.symm
  · intro s
    rw [toList_quoted, List.count_cons_self, List.count_append, count_doubleQuotes]
    rfl

end Text

end Recordset
