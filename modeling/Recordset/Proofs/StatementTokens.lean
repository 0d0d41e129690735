import Mathlib.Data.List.TakeWhile
import Recordset.Proofs.NumeralReading
import Recordset.Text.Quoted

/-!
# The tokens of a statement

A predicate in a statement is a row of `Token`s: quoted literals, numbers, names, the words `OR`,
`TRUE` and `FALSE`, and signs. `lex` reads them from left to right and knows nothing of what wrote
them: a quoted literal ends at the first quote that is not doubled, a number or a name goes on for
as long as its characters do, and blanks count for nothing. For each kind of token there is a lemma
that what is written comes back as one token (`lex_literal`, `lex_integer`, `lex_real`,
`lex_word`), provided that nothing follows which could lengthen it (`Ends`).
-/

set_option autoImplicit false

namespace Recordset

inductive Token where
  /-- A quoted literal, by the text inside the quotes. -/
  | literal (s : String)
  /-- A number without point and exponent, by its value. -/
  | integer (n : Int)
  /-- Any other number, as it is written. -/
  | real (text : String)
  /-- A name that is none of the three words. -/
  | name (s : String)
  | truth (b : Bool)
  | or | equals | less | greater | opening | closing | comma
  deriving DecidableEq

namespace Token

def sign? : Char → Option Token
  | '=' => some equals
  | '<' => some less
  | '>' => some greater
  | '(' => some opening
  | ')' => some closing
  | ',' => some comma
  | _ => none

def nameStart (c : Char) : Bool := c.isAlpha || c == '_'

def nameChar (c : Char) : Bool := c.isAlphanum || c == '_' || c == '.'

/-- The token of a whole word. -/
def ofWord (s : String) : Token :=
  if s = "OR" then or
  else if s = "TRUE" then truth true
  else if s = "FALSE" then truth false
  else name s

/-- The token of a whole numeral, if it is one. -/
def ofNumeral? (cs : List Char) : Option Token :=
  match Decimal.integer? cs with
  | some n => some (integer n)
  | none => (Decimal.real? cs).map fun _ => real (String.ofList cs)

/-- The text up to the quote that ends it, its doubled quotes single again, and what comes after
that quote. -/
def readQuoted : List Char → Option (List Char × List Char)
  | [] => none
  | [c] => if c = '\'' then some ([], []) else none
  | c :: d :: rest =>
    if c = '\'' then
      if d = '\'' then (readQuoted rest).map fun r => ('\'' :: r.1, r.2)
      else some ([], d :: rest)
    else (readQuoted (d :: rest)).map fun r => (c :: r.1, r.2)

/-- The token that begins with the character `c`, and what comes after it. -/
def next? (c : Char) (rest : List Char) : Option (Token × List Char) :=
  match sign? c with
  | some t => some (t, rest)
  | none =>
    if c = '\'' then
      (readQuoted rest).map fun r => (literal (String.ofList r.1), r.2)
    else if c.isDigit || c == '-' then
      (ofNumeral? (c :: rest.takeWhile Decimal.numeralChar)).map fun t =>
        (t, rest.dropWhile Decimal.numeralChar)
    else if nameStart c then
      some (ofWord (String.ofList (c :: rest.takeWhile nameChar)), rest.dropWhile nameChar)
    else none

theorem length_readQuoted {cs : List Char} {r : List Char × List Char}
    (h : readQuoted cs = some r) : r.2.length ≤ cs.length := by
  fun_induction readQuoted cs generalizing r with
  | case1 => simp at h
  | case2 =>
    obtain rfl := Option.some.inj h
    exact Nat.zero_le _
  | case3 c hc => simp at h
  | case4 rest ih =>
    obtain ⟨x, hx, rfl⟩ := Option.map_eq_some_iff.1 h
    have hle := ih hx
    simp only [List.length_cons]
    omega
  | case5 d rest hd =>
    obtain rfl := Option.some.inj h
    simp
  | case6 c d rest hc ih =>
    obtain ⟨x, hx, rfl⟩ := Option.map_eq_some_iff.1 h
    have hle := ih hx
    simp only [List.length_cons] at hle ⊢
    omega

/-- A token takes its first character at least. -/
theorem length_next? {c : Char} {rest after : List Char} {t : Token}
    (h : next? c rest = some (t, after)) : after.length ≤ rest.length := by
  unfold next? at h
  split at h
  · obtain ⟨-, rfl⟩ := Prod.mk.inj (Option.some.inj h)
    exact Nat.le_refl _
  · split at h
    · obtain ⟨r, hr, heq⟩ := Option.map_eq_some_iff.1 h
      obtain ⟨-, rfl⟩ := Prod.mk.inj heq
      exact length_readQuoted hr
    · split at h
      · obtain ⟨x, -, heq⟩ := Option.map_eq_some_iff.1 h
        obtain ⟨-, rfl⟩ := Prod.mk.inj heq
        exact List.length_dropWhile_le _ rest
      · split at h
        · obtain ⟨-, rfl⟩ := Prod.mk.inj (Option.some.inj h)
          exact List.length_dropWhile_le _ rest
        · exact absurd h (by simp)

/-- The tokens of a text, if every part of it belongs to one or is blank. -/
def lex : List Char → Option (List Token)
  | [] => some []
  | c :: rest =>
    if c = ' ' then lex rest
    else
      match _h : next? c rest with
      | none => none
      | some (t, after) => (lex after).map (t :: ·)
termination_by cs => cs.length
decreasing_by
  · simp
  · have hle := length_next? _h
    simp only [List.length_cons]
    omega

theorem lex_nil : lex [] = some [] := by
  rw [lex]

theorem lex_blank (rest : List Char) : lex (' ' :: rest) = lex rest := by
  rw [lex, if_pos rfl]

theorem lex_cons {c : Char} {rest after : List Char} {t : Token} (hc : c ≠ ' ')
    (h : next? c rest = some (t, after)) : lex (c :: rest) = (lex after).map (t :: ·) := by
  rw [lex, if_neg hc]
  split
  · rename_i hnone
    rw [h] at hnone
    simp at hnone
  · rename_i t' after' hsome
    rw [h] at hsome
    obtain ⟨rfl, rfl⟩ := Prod.mk.inj (Option.some.inj hsome)
    rfl

/-- No text that begins so lengthens a token before it. -/
def Ends (rest : List Char) : Prop :=
  ∀ c, rest.head? = some c → Decimal.numeralChar c = false ∧ nameChar c = false ∧ c ≠ '\''

theorem ends_nil : Ends [] := by
  intro c hc
  simp at hc

theorem ends_cons {c : Char} (h : c ∈ [' ', '(', ')', ',']) (rest : List Char) :
    Ends (c :: rest) := by
  intro d hd
  obtain rfl : c = d := by simpa using hd
  simp only [List.mem_cons, List.not_mem_nil, or_false] at h
  rcases h with rfl | rfl | rfl | rfl <;> decide +kernel

/-- A quoted text reads back up to the quote that ends it, unless another quote follows. -/
theorem readQuoted_doubleQuotes (cs : List Char) {rest : List Char}
    (h : rest.head? ≠ some '\'') :
    readQuoted (Text.doubleQuotes cs ++ '\'' :: rest) = some (cs, rest) := by
  induction cs with
  | nil =>
    cases rest with
    | nil => rfl
    | cons d rest =>
      have hd : d ≠ '\'' := fun hd => h (congrArg some hd)
      show readQuoted ('\'' :: d :: rest) = _
      rw [readQuoted, if_pos rfl, if_neg hd]
  | cons c cs ih =>
    by_cases hc : c = '\''
    · subst hc
      show readQuoted ('\'' :: '\'' :: (Text.doubleQuotes cs ++ '\'' :: rest)) = _
      rw [readQuoted, if_pos rfl, if_pos rfl, ih]
      rfl
    · rw [Text.doubleQuotes, if_neg hc, List.cons_append]
      obtain ⟨d, more, hmore⟩ : ∃ d more, Text.doubleQuotes cs ++ '\'' :: rest = d :: more :=
        List.exists_cons_of_ne_nil (by simp)
      rw [hmore] at ih ⊢
      rw [readQuoted, if_neg hc, ih]
      rfl

/-- A quoted literal reads back as one token, whatever its characters. -/
theorem lex_literal (cs : List Char) {rest : List Char} (h : Ends rest) :
    lex (Text.quotedChars cs ++ rest) = (lex rest).map (literal (String.ofList cs) :: ·) := by
  have hnext : next? '\'' (Text.doubleQuotes cs ++ '\'' :: rest) =
      some (literal (String.ofList cs), rest) := by
    have hhead : rest.head? ≠ some '\'' := fun hquote => (h _ hquote).2.2 rfl
    show (readQuoted _).map _ = _
    rw [readQuoted_doubleQuotes cs hhead]
    rfl
  have htext : Text.quotedChars cs ++ rest =
      '\'' :: (Text.doubleQuotes cs ++ '\'' :: rest) := by
    simp [Text.quotedChars]
  rw [htext]
  exact lex_cons (by decide) hnext

/-- Characters that go on with a token are taken up to a text that cannot. -/
theorem takeWhile_append {p : Char → Bool} {cs rest : List Char} (hcs : ∀ c ∈ cs, p c)
    (hrest : ∀ c, rest.head? = some c → p c = false) :
    (cs ++ rest).takeWhile p = cs ∧ (cs ++ rest).dropWhile p = rest := by
  rw [List.takeWhile_append_of_pos hcs, List.dropWhile_append_of_pos hcs]
  cases rest with
  | nil => simp
  | cons c rest =>
    have hc : ¬ p c = true := by
      rw [hrest c rfl]
      exact Bool.false_ne_true
    rw [List.takeWhile_cons_of_neg hc, List.dropWhile_cons_of_neg hc, List.append_nil]
    exact ⟨rfl, rfl⟩

theorem sign?_of_numeral {c : Char} (h : (c.isDigit || c == '-') = true) : sign? c = none := by
  unfold sign?
  split
  case h_7 => rfl
  all_goals exact absurd h (by decide)

theorem sign?_of_nameStart {c : Char} (h : nameStart c = true) : sign? c = none := by
  unfold sign?
  split
  case h_7 => rfl
  all_goals exact absurd h (by decide)

theorem isDigit_of_isAlpha {c : Char} (h : c.isAlpha = true) : c.isDigit = false := by
  have hletter : 65 ≤ c.val.toNat := by
    rcases Bool.or_eq_true _ _ ▸ h with hupper | hlower
    · exact UInt32.le_iff_toNat_le.1 (of_decide_eq_true hupper).1
    · have hle := UInt32.le_iff_toNat_le.1 (of_decide_eq_true (Bool.and_eq_true_iff.1 hlower).1)
      exact Nat.le_trans (by decide) hle
  apply Bool.eq_false_iff.2
  intro hdigit
  have hle := (Char.isDigit_iff_toNat.1 hdigit).2
  exact absurd (Nat.le_trans hletter hle) (by decide)

/-- No numeral begins like a name. -/
theorem numeral_of_nameStart {c : Char} (h : nameStart c = true) :
    (c.isDigit || c == '-') = false := by
  rcases Bool.or_eq_true _ _ ▸ h with halpha | hbar
  · rw [isDigit_of_isAlpha halpha, Bool.false_or]
    apply beq_eq_false_iff_ne.2
    rintro rfl
    exact absurd halpha (by decide)
  · rw [beq_iff_eq.1 hbar]
    rfl

theorem lex_numeral {c : Char} {cs rest : List Char} {t : Token}
    (hc : (c.isDigit || c == '-') = true) (hcs : ∀ d ∈ cs, Decimal.numeralChar d)
    (ht : ofNumeral? (c :: cs) = some t) (h : Ends rest) :
    lex (c :: cs ++ rest) = (lex rest).map (t :: ·) := by
  obtain ⟨htake, hdrop⟩ := takeWhile_append hcs fun d hd => (h d hd).1
  have hquote : c ≠ '\'' := by
    rintro rfl
    exact absurd hc (by decide)
  have hblank : c ≠ ' ' := by
    rintro rfl
    exact absurd hc (by decide)
  have hnext : next? c (cs ++ rest) = some (t, rest) := by
    rw [next?, sign?_of_numeral hc]
    simp only [if_neg hquote, if_pos hc, htake, hdrop, ht]
    rfl
  exact lex_cons hblank hnext

theorem lex_integer (n : Int) {rest : List Char} (h : Ends rest) :
    lex (Decimal.integerText n ++ rest) = (lex rest).map (integer n :: ·) := by
  have ht : ofNumeral? (Decimal.integerText n) = some (integer n) := by
    rw [ofNumeral?, Decimal.integer?_integerText]
  have hchars : ∀ c ∈ Decimal.integerText n, Decimal.numeralChar c :=
    fun c hc => Decimal.numeralChar_of_mem_integerText hc
  obtain ⟨c, cs, htext, hc⟩ := Decimal.exists_integerText n
  rw [htext] at ht hchars ⊢
  exact lex_numeral hc (fun d hd => hchars d (List.mem_cons_of_mem c hd)) ht h

/-- A decimal with a point or an exponent is no integer, with or without a sign. -/
theorem ofNumeral?_real {cs : List Char} (hcs : Decimal.IsReal cs) (negative : Bool)
    (hread : (Decimal.unsigned? cs).isSome) :
    ofNumeral? (if negative then '-' :: cs else cs) =
      some (real (String.ofList (if negative then '-' :: cs else cs))) := by
  obtain ⟨d, hd⟩ := Option.isSome_iff_exists.1 hread
  obtain ⟨mark, hmark, hdigit⟩ := hcs.mark
  have hnatural := Decimal.natural?_eq_none hmark hdigit
  have hsigned : Decimal.signed (if negative then '-' :: cs else cs) = (negative, cs) := by
    cases negative with
    | true => exact Decimal.signed_minus cs
    | false =>
      obtain ⟨c, rest, rfl, hc⟩ := hcs.leading
      exact Decimal.signed_of_digit hc rest
  simp only [ofNumeral?, Decimal.integer?, Decimal.real?, hsigned, hnatural, hd, Option.map_none,
    Option.map_some]

/-- A decimal with a point or an exponent reads back as one token of its own text. -/
theorem lex_real {cs rest : List Char} (hcs : Decimal.IsReal cs) (negative : Bool)
    (hread : (Decimal.unsigned? cs).isSome) (h : Ends rest) :
    lex ((if negative then '-' :: cs else cs) ++ rest) =
      (lex rest).map (real (String.ofList (if negative then '-' :: cs else cs)) :: ·) := by
  have ht := ofNumeral?_real hcs negative hread
  cases negative with
  | true => exact lex_numeral rfl hcs.chars ht h
  | false =>
    obtain ⟨c, tail, rfl, hc⟩ := hcs.leading
    have hstart : (c.isDigit || c == '-') = true := by
      rw [hc]
      rfl
    exact lex_numeral hstart (fun d hd => hcs.chars d (List.mem_cons_of_mem c hd)) ht h

theorem lex_word {c : Char} {cs rest : List Char} (hc : nameStart c = true)
    (hcs : cs.all nameChar = true) (h : Ends rest) :
    lex (c :: cs ++ rest) = (lex rest).map (ofWord (String.ofList (c :: cs)) :: ·) := by
  obtain ⟨htake, hdrop⟩ := takeWhile_append (List.all_eq_true.1 hcs) fun d hd => (h d hd).2.1
  have hquote : c ≠ '\'' := by
    rintro rfl
    exact absurd hc (by decide)
  have hblank : c ≠ ' ' := by
    rintro rfl
    exact absurd hc (by decide)
  have hnumeral : ¬ (c.isDigit || c == '-') = true := by
    rw [numeral_of_nameStart hc]
    exact Bool.false_ne_true
  have hnext : next? c (cs ++ rest) = some (ofWord (String.ofList (c :: cs)), rest) := by
    rw [next?, sign?_of_nameStart hc]
    simp only [if_neg hquote, if_neg hnumeral, if_pos hc, htake, hdrop]
  exact lex_cons hblank hnext

end Token

end Recordset
