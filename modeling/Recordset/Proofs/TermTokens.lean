import Recordset.Clause
import Recordset.Proofs.StatementTokens

/-!
# The tokens of a term

A term has its own row of tokens, taken off its nodes from left to right without any text. The text
of a term reads back as exactly these tokens (`lex_text`), and it is determined by them
(`toList_text`). `lex_predicate` is the top theorem: no constant or name of a predicate can change
how the rest of its statement reads, and two predicates have one text only if they have the same
tokens.
-/

set_option autoImplicit false

namespace Recordset

/-- Induction over a term in which the arguments of a call are taken one by one. -/
@[induction_eliminator]
theorem Term.induction {motive : Term → Prop}
    (binary : ∀ op l r, motive l → motive r → motive (.binary op l r))
    (unary : ∀ op t, motive t → motive (.unary op t))
    (wrap : ∀ t, motive t → motive (.wrap t))
    (lambda : ∀ p t, motive t → motive (.lambda p t))
    (call : ∀ m ts, (∀ t ∈ ts, motive t) → motive (.call m ts))
    (member : ∀ n, motive (.member n))
    (parameter : ∀ n, motive (.parameter n))
    (literal : ∀ l, motive (.literal l))
    (embed : ∀ t, motive t → motive (.embed t)) (t : Term) : motive t :=
  @Term.rec motive (fun ts => ∀ t ∈ ts, motive t) binary unary wrap lambda call member parameter
    literal embed (fun _ h => absurd h List.not_mem_nil)
    (fun _ _ ht hts => List.forall_mem_cons.2 ⟨ht, hts⟩) t

/-- The token of an operator that a statement can hold. -/
def BinaryOp.mark? : BinaryOp → Option Token
  | .eq => some .equals
  | .lt => some .less
  | .gt => some .greater
  | .or | .orElse => some .or
  | .add | .sub | .mul | .div | .ne | .le | .ge | .and => none

def Literal.token : Literal → Token
  | .text s => .literal s
  | .integer n => .integer n.toInt
  | .real x => .real (String.ofList x.text)
  | .truth b => .truth b

mutual

/-- The tokens of a term from left to right; a node that no statement can express adds none. -/
def Term.tokens : Term → List Token
  | .binary op l r => l.tokens ++ op.mark?.toList ++ r.tokens
  | .unary _ t => t.tokens
  | .wrap t => t.tokens
  | .lambda _ body => body.tokens
  | .call method arguments =>
    .name method :: .opening :: [Token.comma].intercalate (Term.tokensAll arguments) ++ [.closing]
  | .member name => [.name name]
  | .parameter _ => []
  | .literal l => [l.token]
  | .embed inner => inner.tokens

def Term.tokensAll : List Term → List (List Token)
  | [] => []
  | t :: ts => t.tokens :: Term.tokensAll ts

end

theorem Term.tokensAll_eq_map (ts : List Term) : Term.tokensAll ts = ts.map Term.tokens := by
  induction ts with
  | nil => rfl
  | cons t ts ih => rw [Term.tokensAll, ih, List.map_cons]

def words : List String := ["OR", "TRUE", "FALSE"]

/-- Whether a text is a name and none of the words that statements know. -/
def isName (s : String) : Bool :=
  match s.toList with
  | [] => false
  | c :: cs => Token.nameStart c && cs.all Token.nameChar && !words.contains s

mutual

/-- Whether every column and every method of a term goes by a name. -/
def Term.wellNamed : Term → Bool
  | .binary _ l r => l.wellNamed && r.wellNamed
  | .unary _ t => t.wellNamed
  | .wrap t => t.wellNamed
  | .lambda _ body => body.wellNamed
  | .call method arguments => isName method && Term.allWellNamed arguments
  | .member name => isName name
  | .parameter _ | .literal _ => true
  | .embed inner => inner.wellNamed

def Term.allWellNamed : List Term → Bool
  | [] => true
  | t :: ts => t.wellNamed && Term.allWellNamed ts

end

namespace Term

theorem allWellNamed_iff {ts : List Term} :
    allWellNamed ts = true ↔ ∀ t ∈ ts, t.wellNamed = true := by
  induction ts with
  | nil => simp [allWellNamed]
  | cons t ts ih => simp [allWellNamed, ih]

variable {methods : Allowance}

/-- What is computed step by step is there only if the first step is. -/
theorem exists_of_bind_eq_ok {ε α β : Type} {x : Except ε α} {f : α → Except ε β} {y : β}
    (h : x >>= f = .ok y) : ∃ a, x = .ok a ∧ f a = .ok y := by
  cases x with
  | error e => exact absurd h (by simp [bind, Except.bind])
  | ok a => exact ⟨a, rfl, h⟩

/-- A term with an operator has a text only if the operator and both operands have one. -/
theorem text_binary {op : BinaryOp} {l r : Term} {s : String}
    (h : (binary op l r).text methods = .ok s) :
    ∃ sign left right, op.token? = some sign ∧ l.text methods = .ok left ∧
      r.text methods = .ok right ∧ s = left ++ " " ++ sign ++ " " ++ right := by
  rw [text] at h
  cases hsign : op.token? with
  | none =>
    rw [hsign] at h
    exact absurd h (by simp)
  | some sign =>
    rw [hsign] at h
    obtain ⟨left, hl, h⟩ := exists_of_bind_eq_ok h
    obtain ⟨right, hr, h⟩ := exists_of_bind_eq_ok h
    exact ⟨sign, left, right, rfl, hl, hr, (Except.ok.inj h).symm⟩

theorem texts_cons {t : Term} {ts : List Term} {ss : List String}
    (h : texts methods (t :: ts) = .ok ss) :
    ∃ s rest, t.text methods = .ok s ∧ texts methods ts = .ok rest ∧ ss = s :: rest := by
  rw [texts] at h
  obtain ⟨s, ht, h⟩ := exists_of_bind_eq_ok h
  obtain ⟨rest, hts, h⟩ := exists_of_bind_eq_ok h
  exact ⟨s, rest, ht, hts, (Except.ok.inj h).symm⟩

/-- A call has a text only if every argument has one. -/
theorem text_call {method : String} {arguments : List Term} {s : String}
    (h : (call method arguments).text methods = .ok s) :
    ∃ ss, texts methods arguments = .ok ss ∧
      s = method ++ "(" ++ ", ".intercalate ss ++ ")" := by
  rw [text] at h
  split at h
  · obtain ⟨ss, hss, h⟩ := exists_of_bind_eq_ok h
    exact ⟨ss, hss, (Except.ok.inj h).symm⟩
  · exact absurd h (by simp)

end Term

namespace Token

/-- A token as it stands in a statement, with the blanks that go with it. -/
def written : Token → List Char
  | literal s => Text.quotedChars s.toList
  | integer n => Decimal.integerText n
  | real text => text.toList
  | name s => s.toList
  | truth true => ['T', 'R', 'U', 'E']
  | truth false => ['F', 'A', 'L', 'S', 'E']
  | or => [' ', 'O', 'R', ' ']
  | equals => [' ', '=', ' ']
  | less => [' ', '<', ' ']
  | greater => [' ', '>', ' ']
  | opening => ['(']
  | closing => [')']
  | comma => [',', ' ']

/-- Tokens as they stand in a statement. -/
def writtenAll (ts : List Token) : List Char := ts.flatMap written

theorem writtenAll_append (ts us : List Token) :
    writtenAll (ts ++ us) = writtenAll ts ++ writtenAll us := List.flatMap_append

theorem writtenAll_singleton (t : Token) : writtenAll [t] = t.written := by
  simp [writtenAll]

theorem writtenAll_cons (t : Token) (ts : List Token) :
    writtenAll (t :: ts) = t.written ++ writtenAll ts := rfl

/-- Rows of tokens between commas are written between written commas. -/
theorem writtenAll_intercalate (rows : List (List Token)) :
    writtenAll ([comma].intercalate rows) = [',', ' '].intercalate (rows.map writtenAll) := by
  induction rows with
  | nil => rfl
  | cons row rows ih =>
    cases rows with
    | nil => simp [List.intercalate]
    | cons next rows =>
      simp only [List.map_cons, List.intercalate_cons_cons, writtenAll_append] at ih ⊢
      rw [ih]
      rfl

end Token

/-- The sign of an operator stands between blanks, as its token is written. -/
theorem BinaryOp.exists_mark {op : BinaryOp} {sign : String} (h : op.token? = some sign) :
    ∃ mark, op.mark? = some mark ∧ mark.written = ' ' :: sign.toList ++ [' '] := by
  cases op with
  | eq => exact ⟨.equals, rfl, by cases h; rfl⟩
  | lt => exact ⟨.less, rfl, by cases h; rfl⟩
  | gt => exact ⟨.greater, rfl, by cases h; rfl⟩
  | or => exact ⟨.or, rfl, by cases h; rfl⟩
  | orElse => exact ⟨.or, rfl, by cases h; rfl⟩
  | _ => cases h

theorem Literal.toList_written {l : Literal} {s : String} (h : l.written = .ok s) :
    s.toList = l.token.written := by
  cases l with
  | text t =>
    obtain rfl := Except.ok.inj h
    exact String.toList_ofList
  | integer n =>
    obtain rfl := Except.ok.inj h
    exact String.toList_ofList
  | real x =>
    rw [Literal.written] at h
    split at h
    · obtain rfl := Except.ok.inj h
      rfl
    · exact absurd h (by simp)
  | truth b =>
    cases b with
    | true =>
      obtain rfl := Except.ok.inj h
      rfl
    | false =>
      obtain rfl := Except.ok.inj h
      rfl

namespace Term

variable {methods : Allowance}

/-- The text of a term is that of its tokens. -/
theorem toList_text {t : Term} {s : String} (h : t.text methods = .ok s) :
    s.toList = Token.writtenAll t.tokens := by
  induction t generalizing s with
  | binary op l r ihl ihr =>
    obtain ⟨sign, left, right, hsign, hl, hr, rfl⟩ := text_binary h
    obtain ⟨mark, hmark, hwritten⟩ := BinaryOp.exists_mark hsign
    rw [tokens, hmark, Token.writtenAll_append, Token.writtenAll_append, ← ihl hl, ← ihr hr,
      Option.toList_some, Token.writtenAll_singleton, hwritten]
    simp
  | unary op t ih => exact absurd h (by simp [text])
  | wrap t ih => exact ih h
  | lambda p t ih => exact ih h
  | call method ts ih =>
    obtain ⟨ss, hss, rfl⟩ := text_call h
    have hall : ss.map String.toList = (tokensAll ts).map Token.writtenAll := by
      clear h
      induction ts generalizing ss with
      | nil =>
        obtain rfl := Except.ok.inj hss
        rfl
      | cons t ts ihs =>
        obtain ⟨s, rest, ht, hts, rfl⟩ := texts_cons hss
        rw [List.map_cons, tokensAll, List.map_cons, ih t List.mem_cons_self ht,
          ihs (fun u hu => ih u (List.mem_cons_of_mem t hu)) rest hts]
    have harguments : (", ".intercalate ss).toList =
        Token.writtenAll ([Token.comma].intercalate (tokensAll ts)) := by
      rw [Token.writtenAll_intercalate, ← hall, String.toList_intercalate]
      rfl
    rw [tokens, Token.writtenAll_append, Token.writtenAll_singleton, Token.writtenAll_cons,
      Token.writtenAll_cons, String.toList_append, String.toList_append, String.toList_append,
      harguments]
    simp [Token.written]
  | member n =>
    obtain rfl := Except.ok.inj h
    simp [tokens, Token.writtenAll, Token.written]
  | parameter n => exact absurd h (by simp [text])
  | literal l =>
    rw [tokens, Token.writtenAll_singleton]
    exact Literal.toList_written h
  | embed t ih => exact ih h

end Term

namespace Token

/-- The token of an operator reads back from between its blanks, and ends what is before it. -/
theorem lex_mark {op : BinaryOp} {mark : Token} (h : op.mark? = some mark) (rest : List Char) :
    lex (mark.written ++ rest) = (lex rest).map (mark :: ·) ∧ Ends (mark.written ++ rest) := by
  have hsign : ∀ c t, sign? c = some t → c ≠ ' ' →
      lex (' ' :: c :: ' ' :: rest) = (lex rest).map (t :: ·) := by
    intro c t ht hc
    have hnext : next? c (' ' :: rest) = some (t, ' ' :: rest) := by
      rw [next?, ht]
    rw [lex_blank, lex_cons hc hnext, lex_blank]
  have hor : lex (' ' :: ('O' :: ['R'] ++ ' ' :: rest)) = (lex rest).map (or :: ·) := by
    have hword : lex ('O' :: ['R'] ++ ' ' :: rest) =
        (lex (' ' :: rest)).map (ofWord (String.ofList ['O', 'R']) :: ·) :=
      lex_word rfl rfl (ends_cons (by decide) rest)
    rw [lex_blank, hword, lex_blank]
    rfl
  cases op with
  | eq =>
    obtain rfl := Option.some.inj h
    exact ⟨hsign '=' equals rfl (by decide), ends_cons (by decide) _⟩
  | lt =>
    obtain rfl := Option.some.inj h
    exact ⟨hsign '<' less rfl (by decide), ends_cons (by decide) _⟩
  | gt =>
    obtain rfl := Option.some.inj h
    exact ⟨hsign '>' greater rfl (by decide), ends_cons (by decide) _⟩
  | or =>
    obtain rfl := Option.some.inj h
    exact ⟨hor, ends_cons (by decide) _⟩
  | orElse =>
    obtain rfl := Option.some.inj h
    exact ⟨hor, ends_cons (by decide) _⟩
  | _ => cases h

theorem lex_name {s : String} (hs : isName s = true) {rest : List Char} (h : Ends rest) :
    lex (s.toList ++ rest) = (lex rest).map (name s :: ·) := by
  unfold isName at hs
  split at hs
  · exact absurd hs Bool.false_ne_true
  · rename_i c cs hcs
    obtain ⟨hchars, hword⟩ := Bool.and_eq_true_iff.1 hs
    obtain ⟨hc, hrest⟩ := Bool.and_eq_true_iff.1 hchars
    have hname : ofWord (String.ofList (c :: cs)) = name s := by
      rw [← hcs, String.ofList_toList, ofWord]
      simp only [words, Bool.not_eq_true', List.contains_eq_mem, List.mem_cons, List.not_mem_nil,
        or_false, decide_eq_false_iff_not, not_or] at hword
      obtain ⟨hor, htrue, hfalse⟩ := hword
      rw [if_neg hor, if_neg htrue, if_neg hfalse]
    rw [hcs, lex_word hc hrest h, hname]

theorem lex_constant {l : Literal} {s : String} (hs : l.written = .ok s) {rest : List Char}
    (h : Ends rest) : lex (s.toList ++ rest) = (lex rest).map (l.token :: ·) := by
  rw [Literal.toList_written hs]
  cases l with
  | text t =>
    have hliteral := lex_literal t.toList h
    rw [String.ofList_toList] at hliteral
    exact hliteral
  | integer n => exact lex_integer n.toInt h
  | real x =>
    have hreal := Decimal.isReal_written Literal.realLayout (Decimal.shortest x.magnitude)
    have hread := Decimal.value_unsigned?_written Literal.realLayout (Decimal.shortest x.magnitude)
    have hsome : (Decimal.unsigned? ((Decimal.shortest x.magnitude).written
        Literal.realLayout)).isSome := by
      rw [← Option.isSome_map, hread]
      rfl
    have hlex := lex_real hreal x.isNegative hsome h
    rw [Literal.token, written, String.toList_ofList]
    exact hlex
  | truth b =>
    cases b with
    | true =>
      show lex ('T' :: ['R', 'U', 'E'] ++ rest) = _
      exact lex_word rfl rfl h
    | false =>
      show lex ('F' :: ['A', 'L', 'S', 'E'] ++ rest) = _
      exact lex_word rfl rfl h

theorem lex_opening (rest : List Char) :
    lex ('(' :: rest) = (lex rest).map (opening :: ·) := lex_cons (by decide) rfl

theorem lex_closing (rest : List Char) :
    lex (')' :: rest) = (lex rest).map (closing :: ·) := lex_cons (by decide) rfl

theorem lex_comma (rest : List Char) :
    lex (',' :: ' ' :: rest) = (lex rest).map (comma :: ·) := by
  rw [lex_cons (by decide) (show next? ',' (' ' :: rest) = some (comma, ' ' :: rest) from rfl),
    lex_blank]

end Token

namespace Term

variable {methods : Allowance}

open Token (lex Ends)

/-- The text of a term reads back as the tokens of the term, whatever comes after it. -/
def ReadsBack (methods : Allowance) (t : Term) : Prop :=
  ∀ s, t.text methods = .ok s → ∀ rest, Ends rest →
    lex (s.toList ++ rest) = (lex rest).map (t.tokens ++ ·)

/-- The arguments of a call read back between single commas. -/
theorem lex_arguments {ts : List Term} (ih : ∀ t ∈ ts, ReadsBack methods t) {ss : List String}
    (h : texts methods ts = .ok ss) {rest : List Char} (hrest : Ends rest) :
    lex ((", ".intercalate ss).toList ++ rest) =
      (lex rest).map ([Token.comma].intercalate (tokensAll ts) ++ ·) := by
  induction ts generalizing ss with
  | nil =>
    obtain rfl := Except.ok.inj h
    show lex rest = (lex rest).map id
    rw [Option.map_id, id]
  | cons t ts ihs =>
    have hrow := ih t List.mem_cons_self
    obtain ⟨s, more, ht, hts, rfl⟩ := texts_cons h
    cases ts with
    | nil =>
      obtain rfl := Except.ok.inj hts
      have hjoin : [Token.comma].intercalate (tokensAll [t]) = t.tokens :=
        List.intercalate_singleton
      rw [String.intercalate_singleton, hjoin]
      exact hrow s ht rest hrest
    | cons u us =>
      have hrows := ihs (fun v hv => ih v (List.mem_cons_of_mem t hv)) hts
      obtain ⟨s', more', hu, hus, rfl⟩ := texts_cons hts
      have hcomma : Ends (',' :: ' ' :: ((", ".intercalate (s' :: more')).toList ++ rest)) :=
        Token.ends_cons (by decide) _
      have htext : (", ".intercalate (s :: s' :: more')).toList ++ rest =
          s.toList ++ ',' :: ' ' :: ((", ".intercalate (s' :: more')).toList ++ rest) := by
        rw [String.intercalate_cons_cons, String.toList_append, String.toList_append,
          List.append_assoc, List.append_assoc]
        rfl
      have hjoin : [Token.comma].intercalate (tokensAll (t :: u :: us)) =
          t.tokens ++ Token.comma :: [Token.comma].intercalate (tokensAll (u :: us)) := by
        simp [tokensAll, List.intercalate_cons_cons]
      rw [htext, hrow s ht _ hcomma, Token.lex_comma, hrows, hjoin]
      simp [Function.comp_def]

theorem readsBack {t : Term} (hnames : t.wellNamed = true) : ReadsBack methods t := by
  induction t with
  | binary op l r ihl ihr =>
    intro s h rest hrest
    obtain ⟨hnl, hnr⟩ := Bool.and_eq_true_iff.1 hnames
    obtain ⟨sign, left, right, hsign, hl, hr, rfl⟩ := text_binary h
    obtain ⟨mark, hmark, hwritten⟩ := BinaryOp.exists_mark hsign
    obtain ⟨hlex, hends⟩ := Token.lex_mark hmark (right.toList ++ rest)
    have htext : (left ++ " " ++ sign ++ " " ++ right).toList ++ rest =
        left.toList ++ (mark.written ++ (right.toList ++ rest)) := by
      rw [hwritten]
      simp
    rw [htext, ihl hnl left hl _ hends, hlex, ihr hnr right hr rest hrest, tokens, hmark]
    simp [Function.comp_def]
  | unary op t ih =>
    intro s h
    exact absurd h (by simp [text])
  | wrap t ih => exact ih hnames
  | lambda p t ih => exact ih hnames
  | call method ts ih =>
    intro s h rest hrest
    obtain ⟨hname, hnts⟩ := Bool.and_eq_true_iff.1 hnames
    obtain ⟨ss, hss, rfl⟩ := text_call h
    have hopen : Ends ('(' :: ((", ".intercalate ss).toList ++ ')' :: rest)) :=
      Token.ends_cons (by decide) _
    have hclose : Ends (')' :: rest) := Token.ends_cons (by decide) rest
    have harguments := lex_arguments (fun t ht => ih t ht (allWellNamed_iff.1 hnts t ht)) hss hclose
    have htext : (method ++ "(" ++ ", ".intercalate ss ++ ")").toList ++ rest =
        method.toList ++ '(' :: ((", ".intercalate ss).toList ++ ')' :: rest) := by
      simp
    rw [htext, Token.lex_name hname hopen, Token.lex_opening, harguments, Token.lex_closing, tokens]
    simp [Function.comp_def]
  | member n =>
    intro s h rest hrest
    obtain rfl := Except.ok.inj h
    exact Token.lex_name hnames hrest
  | parameter n =>
    intro s h
    exact absurd h (by simp [text])
  | literal l =>
    intro s h rest hrest
    exact Token.lex_constant h hrest
  | embed t ih => exact ih hnames

theorem lex_text {t : Term} (hnames : t.wellNamed = true) {s : String}
    (h : t.text methods = .ok s) : lex s.toList = some t.tokens := by
  have hlex := readsBack hnames s h [] Token.ends_nil
  rw [List.append_nil, Token.lex_nil, Option.map_some, List.append_nil] at hlex
  exact hlex

/-- Two well named terms that have a text have the same one exactly if they have the same
tokens. -/
theorem text_eq_iff {methods' : Allowance} {t u : Term} (ht : t.wellNamed = true)
    (hu : u.wellNamed = true) {s s' : String} (hs : t.text methods = .ok s)
    (hs' : u.text methods' = .ok s') : s = s' ↔ t.tokens = u.tokens := by
  constructor
  · rintro rfl
    exact Option.some.inj ((lex_text ht hs).symm.trans (lex_text hu hs'))
  · intro htokens
    rw [← String.toList_inj, toList_text hs, toList_text hs', htokens]

end Term

namespace Clause

/-- A filter has a statement only if its predicate has a text, which is then the end of it. -/
theorem statement_filter {methods : Allowance} {table : String} {t : Term} {s : Statement}
    (h : (filter t).statement methods table = .ok s) :
    ∃ predicate, t.text methods = .ok predicate ∧
      s.text = "SELECT * FROM " ++ table ++ " WHERE " ++ predicate := by
  rw [statement] at h
  obtain ⟨predicate, hpredicate, h⟩ := Term.exists_of_bind_eq_ok h
  exact ⟨predicate, hpredicate, congrArg Statement.text (Except.ok.inj h).symm⟩

/-- The predicate in the statement of a filter reads as exactly the tokens of its term, so no
constant and no name in it can be taken for anything else; and of two filters on a table, the
statements are the same exactly if the tokens are. -/
theorem lex_predicate {methods : Allowance} {table : String} {t : Term} {s : Statement}
    (hnames : t.wellNamed = true) (h : (filter t).statement methods table = .ok s) :
    (∃ predicate, s.text = "SELECT * FROM " ++ table ++ " WHERE " ++ predicate ∧
        Token.lex predicate.toList = some t.tokens) ∧
      ∀ (methods' : Allowance) (u : Term) (s' : Statement), u.wellNamed = true →
        (filter u).statement methods' table = .ok s' → (s = s' ↔ t.tokens = u.tokens) := by
  obtain ⟨predicate, hpredicate, htext⟩ := statement_filter h
  refine ⟨⟨predicate, htext, Term.lex_text hnames hpredicate⟩, ?_⟩
  intro methods' u s' hnames' h'
  obtain ⟨predicate', hpredicate', htext'⟩ := statement_filter h'
  rw [← Term.text_eq_iff hnames hnames' hpredicate hpredicate']
  constructor
  · rintro rfl
    exact (String.append_right_inj _).1 (htext.symm.trans htext')
  · rintro rfl
    obtain ⟨text⟩ := s
    obtain ⟨text'⟩ := s'
    exact congrArg Statement.mk (htext.trans htext'.symm)

/-- A literal that holds quotes, brackets, a comma and a word is still one token. -/
theorem lex_predicate_quoted_word :
    let t : Term := .binary .or
      (.binary .eq
        (.call "Name.is" [.literal (.text "it's) OR, '"), .literal (.integer (-0x8000000000000000))])
        (.call "now" []))
      (.binary .lt (.literal (.real ⟨0x8000000000000001⟩)) (.literal (.truth true)))
    let s : Statement := ⟨"SELECT * FROM T WHERE Name.is('it''s) OR, ''', -9223372036854775808)" ++
      " = now() OR -5e-324 < TRUE"⟩
    let u : Term := .binary .eq (.member "a") (.wrap (.literal (.text "b")))
    let s' : Statement := ⟨"SELECT * FROM T WHERE a = 'b'"⟩
    t.wellNamed = true ∧ (filter t).statement .any "T" = .ok s ∧
      u.wellNamed = true ∧ (filter u).statement .any "T" = .ok s' ∧
      (∃ predicate, s.text = "SELECT * FROM " ++ "T" ++ " WHERE " ++ predicate ∧
        Token.lex predicate.toList = some [.name "Name.is", .opening, .literal "it's) OR, '", .comma,
          .integer (-9223372036854775808), .closing, .equals, .name "now", .opening, .closing, .or,
          .real "-5e-324", .less, .truth true]) ∧
      (s = s' ↔ t.tokens = u.tokens) := by
  intro t s u s'
  have ht : t.wellNamed = true := by decide +kernel
  have hs : (filter t).statement .any "T" = .ok s := by decide +kernel
  have hu : u.wellNamed = true := by decide +kernel
  have hs' : (filter u).statement .any "T" = .ok s' := by decide +kernel
  have htokens : t.tokens = [.name "Name.is", .opening, .literal "it's) OR, '", .comma,
      .integer (-9223372036854775808), .closing, .equals, .name "now", .opening, .closing, .or,
      .real "-5e-324", .less, .truth true] := by decide +kernel
  obtain ⟨hlex, hiff⟩ := lex_predicate ht hs
  rw [← htokens]
  exact ⟨ht, hs, hu, hs', hlex, hiff .any u s' hu hs'⟩

end Clause

end Recordset
