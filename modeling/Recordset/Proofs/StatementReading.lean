import Recordset.Proofs.ShortestNumeral
import Recordset.Proofs.TermRegrouping

/-!
# Reading a statement back

The tokens of a predicate determine its chains: an operand ends where an operator, a comma or a
closing bracket follows, so two terms with the same tokens have the same chains
(`flat_eq_of_tokens_eq`). They determine the predicate itself only where no chain can be grouped in
two ways; `grouped_eq_iff_unambiguous` is the top theorem and says that this is exactly where a
statement tells its predicate from all others.
-/

set_option autoImplicit false

namespace Recordset

/-- Constants with a text are told apart by their tokens, numbers with a fraction by their bits. -/
theorem Literal.token_injective {l k : Literal} (h : l.token = k.token) : l = k := by
  cases l with
  | text s =>
    cases k with
    | text t => rw [Token.literal.inj h]
    | _ => cases h
  | integer n =>
    cases k with
    | integer m => rw [Int64.toInt_inj.1 (Token.integer.inj h)]
    | _ => cases h
  | real x =>
    cases k with
    | real y =>
      have htext : x.text = y.text := String.ofList_inj.1 (Token.real.inj h)
      rw [Binary64.text_injective htext]
    | _ => cases h
  | truth b =>
    cases k with
    | truth c => rw [Token.truth.inj h]
    | _ => cases h

theorem Literal.token_ne_name (l : Literal) (s : String) : l.token ≠ .name s := by
  cases l <;> simp [Literal.token]

/-- Operators with a token are told apart by it, but for the two disjunctions. -/
theorem BinaryOp.plain_inj {o op : BinaryOp} (h : o.mark? = op.mark?) (hsome : o.mark? ≠ none) :
    o.plain = op.plain := by
  cases o <;> cases op <;> simp_all [BinaryOp.mark?, BinaryOp.plain]

theorem BinaryOp.mark?_ne {op : BinaryOp} {mark : Token} (h : op.mark? = some mark) :
    mark ≠ .opening ∧ mark ≠ .closing ∧ mark ≠ .comma := by
  cases op <;> cases h <;> decide

namespace Term

/-- A term made of nothing but chains that lean to the right. -/
inductive Chain : Term → Prop where
  | member (name : String) : Chain (member name)
  | literal (l : Literal) : Chain (literal l)
  | call (method : String) (ts : List Term) (h : ∀ t ∈ ts, Chain t) : Chain (call method ts)
  | operator (op : BinaryOp) (mark : Token) (x y : Term) (hmark : op.mark? = some mark)
      (hplain : op.plain = op) (hx : Chain x) (hoperand : x.isOperand = true) (hy : Chain y) :
      Chain (binary op x y)

theorem chain_joined {op : BinaryOp} {mark : Token} (hmark : op.mark? = some mark)
    (hplain : op.plain = op) {l r : Term} (hl : Chain l) (hr : Chain r) :
    Chain (joined (fun _ _ => true) op l r) := by
  induction hl with
  | member name => exact .operator op mark _ r hmark hplain (.member name) rfl hr
  | literal l => exact .operator op mark _ r hmark hplain (.literal l) rfl hr
  | call method ts h ih => exact .operator op mark _ r hmark hplain (.call method ts h) rfl hr
  | operator o m x y hm hp hx hoperand hy ihx ihy =>
    exact .operator o m x _ hm hp hx hoperand ihy

/-- What a statement can hold is flattened to chains. -/
theorem chain_flat {methods : Allowance} {t : Term} (h : t.accepted methods = true) :
    Chain t.flat := by
  unfold flat
  induction t with
  | binary op l r ihl ihr =>
    simp only [accepted, Bool.and_eq_true] at h
    obtain ⟨⟨hop, hl⟩, hr⟩ := h
    obtain ⟨sign, hsign⟩ := Option.isSome_iff_exists.1 hop
    obtain ⟨mark, hmark, -⟩ := BinaryOp.exists_mark hsign
    rw [← BinaryOp.mark?_plain] at hmark
    exact chain_joined hmark (by cases op <;> rfl) (ihl hl) (ihr hr)
  | unary op t ih => exact absurd h Bool.false_ne_true
  | wrap t ih => exact ih h
  | lambda p t ih => exact ih h
  | call m ts ih =>
    have hts := allAccepted_iff.1 (Bool.and_eq_true_iff.1 h).2
    rw [normal, normalAll_eq_map]
    exact .call m _ (List.forall_mem_map.2 fun t ht => ih t ht (hts t ht))
  | member n => exact .member n
  | parameter n => exact absurd h Bool.false_ne_true
  | literal l => exact .literal l
  | embed t ih => exact ih h

/-- The tokens go on as they do after an argument of a call, or are at an end. -/
def Stops (r : List Token) : Prop := ∀ h, r.head? = some h → h = .comma ∨ h = .closing

/-- No operand goes on with such tokens. -/
def EndsOperand (r : List Token) : Prop := r.head? ≠ some .opening

theorem Stops.endsOperand {r : List Token} (h : Stops r) : EndsOperand r := by
  intro hopening
  rcases h .opening hopening with heq | heq
  · cases heq
  · cases heq

theorem Stops.ne_mark {op : BinaryOp} {mark : Token} (hmark : op.mark? = some mark)
    {r rest : List Token} (h : Stops r) : r ≠ mark :: rest := by
  rintro rfl
  obtain ⟨-, hclosing, hcomma⟩ := BinaryOp.mark?_ne hmark
  rcases h mark rfl with heq | heq
  · exact hcomma heq
  · exact hclosing heq

theorem endsOperand_mark {op : BinaryOp} {mark : Token} (hmark : op.mark? = some mark)
    (rest : List Token) : EndsOperand (mark :: rest) := by
  intro hopening
  exact (BinaryOp.mark?_ne hmark).1 (Option.some.inj hopening)

/-- No other operand begins with the same tokens. -/
def ReadsAsOperand (t : Term) : Prop :=
  ∀ u, Chain u → u.isOperand = true → ∀ r s, EndsOperand r → EndsOperand s →
    t.tokens ++ r = u.tokens ++ s → t = u ∧ r = s

/-- No other chain ends with the same tokens. -/
def ReadsAsChain (t : Term) : Prop :=
  ∀ u, Chain u → ∀ r s, Stops r → Stops s → t.tokens ++ r = u.tokens ++ s → t = u ∧ r = s

theorem tokens_operator {op : BinaryOp} {mark : Token} (hmark : op.mark? = some mark)
    (x y : Term) (r : List Token) :
    (binary op x y).tokens ++ r = x.tokens ++ mark :: (y.tokens ++ r) := by
  rw [tokens, hmark]
  simp

theorem ReadsAsOperand.readsAsChain {t : Term} (h : ReadsAsOperand t) : ReadsAsChain t := by
  intro u hu r s hr hs heq
  cases hu with
  | operator op mark x y hmark hplain hx hoperand hy =>
    rw [tokens_operator hmark] at heq
    obtain ⟨-, hrest⟩ := h x hx hoperand r _ hr.endsOperand (endsOperand_mark hmark _) heq
    exact absurd hrest (hr.ne_mark hmark)
  | member name => exact h _ (.member name) rfl r s hr.endsOperand hs.endsOperand heq
  | literal l => exact h _ (.literal l) rfl r s hr.endsOperand hs.endsOperand heq
  | call m ts hts => exact h _ (.call m ts hts) rfl r s hr.endsOperand hs.endsOperand heq

/-- A chain is read operand by operand. -/
theorem readsAsChain_operator {op : BinaryOp} {mark : Token} {x y : Term}
    (hmark : op.mark? = some mark) (hplain : op.plain = op) (hx : ReadsAsOperand x)
    (hy : ReadsAsChain y) : ReadsAsChain (binary op x y) := by
  intro u hu r s hr hs heq
  rw [tokens_operator hmark] at heq
  have hends := endsOperand_mark hmark (y.tokens ++ r)
  have hoperand : u.isOperand = true → binary op x y = u ∧ r = s := by
    intro hoperand
    obtain ⟨-, hrest⟩ := hx u hu hoperand _ s hends hs.endsOperand heq
    exact absurd hrest.symm (hs.ne_mark hmark)
  cases hu with
  | operator op' mark' x' y' hmark' hplain' hx' hoperand' hy' =>
    rw [tokens_operator hmark'] at heq
    obtain ⟨rfl, hrest⟩ := hx x' hx' hoperand' _ _ hends (endsOperand_mark hmark' _) heq
    obtain ⟨hsame, htail⟩ := List.cons.inj hrest
    obtain ⟨rfl, rfl⟩ := hy y' hy' r s hr hs htail
    have hop : op = op' := by
      rw [← hplain, ← hplain']
      have hmarks : op.mark? = op'.mark? := by rw [hmark, hmark', hsame]
      have hsome : op.mark? ≠ none := by
        rw [hmark]
        exact Option.some_ne_none mark
      exact BinaryOp.plain_inj hmarks hsome
    rw [hop]
    exact ⟨rfl, rfl⟩
  | member name => exact hoperand rfl
  | literal l => exact hoperand rfl
  | call m ts hts => exact hoperand rfl

theorem Chain.exists_tokens {t : Term} (h : Chain t) :
    ∃ first rest, t.tokens = first :: rest ∧ first ≠ .closing := by
  induction h with
  | member name => exact ⟨.name name, [], rfl, by simp⟩
  | literal l => exact ⟨l.token, [], rfl, by cases l <;> simp [Literal.token]⟩
  | call m ts h ih => exact ⟨.name m, _, rfl, by simp⟩
  | operator op mark x y hmark hplain hx hoperand hy ihx ihy =>
    obtain ⟨first, rest, hfirst, hne⟩ := ihx
    refine ⟨first, rest ++ op.mark?.toList ++ y.tokens, ?_, hne⟩
    rw [tokens, hfirst]
    rfl

/-- The tokens of the arguments of a call, to the bracket that closes it and further. -/
def argumentTokens (ts : List Term) (r : List Token) : List Token :=
  [Token.comma].intercalate (tokensAll ts) ++ .closing :: r

/-- What comes after the first argument of a call. -/
def afterArgument (ts : List Term) (r : List Token) : List Token :=
  match ts with
  | [] => .closing :: r
  | _ :: _ => .comma :: argumentTokens ts r

theorem argumentTokens_cons (t : Term) (ts : List Term) (r : List Token) :
    argumentTokens (t :: ts) r = t.tokens ++ afterArgument ts r := by
  cases ts with
  | nil => rw [argumentTokens, tokensAll, tokensAll, List.intercalate_singleton, afterArgument]
  | cons u us =>
    simp [argumentTokens, afterArgument, tokensAll, List.intercalate_cons_cons]

theorem stops_afterArgument (ts : List Term) (r : List Token) : Stops (afterArgument ts r) := by
  intro h hhead
  cases ts with
  | nil => exact Or.inr (Option.some.inj hhead).symm
  | cons t ts => exact Or.inl (Option.some.inj hhead).symm

/-- After an argument it shows whether there is another one. -/
theorem argumentTokens_of_after {ts us : List Term} {r s : List Token}
    (h : afterArgument ts r = afterArgument us s) : argumentTokens ts r = argumentTokens us s := by
  cases ts with
  | nil =>
    cases us with
    | nil => exact h
    | cons u us => exact absurd (List.cons.inj h).1 (by decide)
  | cons t ts =>
    cases us with
    | nil => exact absurd (List.cons.inj h).1 (by decide)
    | cons u us => exact (List.cons.inj h).2

/-- The arguments of a call are read one by one, up to the bracket that closes it. -/
theorem argumentTokens_inj {ts : List Term} (hts : ∀ t ∈ ts, Chain t ∧ ReadsAsChain t)
    {us : List Term} (hus : ∀ u ∈ us, Chain u) {r s : List Token}
    (h : argumentTokens ts r = argumentTokens us s) : ts = us ∧ r = s := by
  induction ts generalizing us with
  | nil =>
    cases us with
    | nil => exact ⟨rfl, (List.cons.inj h).2⟩
    | cons u us =>
      obtain ⟨first, rest, hfirst, hne⟩ := (hus u List.mem_cons_self).exists_tokens
      rw [argumentTokens_cons, hfirst] at h
      exact absurd (List.cons.inj h).1.symm hne
  | cons t ts ih =>
    obtain ⟨ht, hreads⟩ := hts t List.mem_cons_self
    cases us with
    | nil =>
      obtain ⟨first, rest, hfirst, hne⟩ := ht.exists_tokens
      rw [argumentTokens_cons, hfirst] at h
      exact absurd (List.cons.inj h).1 hne
    | cons u us =>
      rw [argumentTokens_cons, argumentTokens_cons] at h
      obtain ⟨rfl, hrest⟩ := hreads u (hus u List.mem_cons_self) _ _ (stops_afterArgument ts r)
        (stops_afterArgument us s) h
      obtain ⟨rfl, rfl⟩ := ih (fun v hv => hts v (List.mem_cons_of_mem t hv))
        (fun v hv => hus v (List.mem_cons_of_mem t hv)) (argumentTokens_of_after hrest)
      exact ⟨rfl, rfl⟩

theorem tokens_call (method : String) (ts : List Term) (r : List Token) :
    (call method ts).tokens ++ r = .name method :: .opening :: argumentTokens ts r := by
  simp [tokens, argumentTokens]

theorem readsAsOperand_member (name : String) : ReadsAsOperand (member name) := by
  intro u hu hoperand r s hr hs heq
  cases hu with
  | member name' =>
    obtain ⟨hname, hrest⟩ := List.cons.inj heq
    rw [Token.name.inj hname]
    exact ⟨rfl, hrest⟩
  | literal l => exact absurd (List.cons.inj heq).1.symm (l.token_ne_name name)
  | call method ts hts =>
    rw [tokens_call] at heq
    exact absurd (congrArg List.head? (List.cons.inj heq).2) hr
  | operator op mark x y hmark hplain hx hx' hy => exact absurd hoperand Bool.false_ne_true

theorem readsAsOperand_literal (l : Literal) : ReadsAsOperand (literal l) := by
  intro u hu hoperand r s hr hs heq
  cases hu with
  | member name => exact absurd (List.cons.inj heq).1 (l.token_ne_name name)
  | literal l' =>
    obtain ⟨htoken, hrest⟩ := List.cons.inj heq
    rw [Literal.token_injective htoken]
    exact ⟨rfl, hrest⟩
  | call method ts hts =>
    rw [tokens_call] at heq
    exact absurd (List.cons.inj heq).1 (l.token_ne_name method)
  | operator op mark x y hmark hplain hx hx' hy => exact absurd hoperand Bool.false_ne_true

theorem readsAsOperand_call (method : String) {ts : List Term}
    (hts : ∀ t ∈ ts, Chain t ∧ ReadsAsChain t) : ReadsAsOperand (call method ts) := by
  intro u hu hoperand r s hr hs heq
  rw [tokens_call] at heq
  cases hu with
  | member name => exact absurd (congrArg List.head? (List.cons.inj heq).2.symm) hs
  | literal l => exact absurd (List.cons.inj heq).1.symm (l.token_ne_name method)
  | call method' us hus =>
    rw [tokens_call] at heq
    obtain ⟨hmethod, hopening⟩ := List.cons.inj heq
    obtain ⟨rfl, rfl⟩ := argumentTokens_inj hts hus (List.cons.inj hopening).2
    rw [Token.name.inj hmethod]
    exact ⟨rfl, rfl⟩
  | operator op mark x y hmark hplain hx hx' hy => exact absurd hoperand Bool.false_ne_true

/-- Every chain is read back from its tokens. -/
theorem Chain.reads {t : Term} (h : Chain t) :
    (t.isOperand = true → ReadsAsOperand t) ∧ ReadsAsChain t := by
  induction h with
  | member name =>
    have hreads := readsAsOperand_member name
    exact ⟨fun _ => hreads, hreads.readsAsChain⟩
  | literal l =>
    have hreads := readsAsOperand_literal l
    exact ⟨fun _ => hreads, hreads.readsAsChain⟩
  | call method ts h ih =>
    have hreads := readsAsOperand_call method fun t ht => ⟨h t ht, (ih t ht).2⟩
    exact ⟨fun _ => hreads, hreads.readsAsChain⟩
  | operator op mark x y hmark hplain hx hoperand hy ihx ihy =>
    refine ⟨fun hfalse => absurd hfalse Bool.false_ne_true, ?_⟩
    exact readsAsChain_operator hmark hplain (ihx.1 hoperand) ihy.2

/-- Two terms that a statement can hold and that have the same tokens have the same chains. -/
theorem flat_eq_of_tokens_eq {methods methods' : Allowance} {t u : Term}
    (ht : t.accepted methods = true) (hu : u.accepted methods' = true)
    (h : t.tokens = u.tokens) : t.flat = u.flat := by
  have hstops : Stops [] := fun _ hhead => absurd hhead (by simp)
  refine ((chain_flat ht).reads.2 u.flat (chain_flat hu) [] [] hstops hstops ?_).1
  rw [flat, flat, tokens_normal, tokens_normal, h]

end Term

namespace Clause

/-- A term that cannot be told from another one has the same statement. -/
theorem statement_of_alike {methods : Allowance} {table : String} {t u : Term} {s : Statement}
    (halike : Term.Alike methods t u) (hnames : t.wellNamed = true)
    (h : (filter t).statement methods table = .ok s) :
    u.wellNamed = true ∧ (filter u).statement methods table = .ok s := by
  obtain ⟨predicate, hpredicate, htext⟩ := statement_filter h
  have hunames : u.wellNamed = true := by rw [← halike.wellNamed, hnames]
  have haccepted : u.accepted methods = true := by
    rw [← halike.accepted]
    exact Term.accepted_iff.2 ⟨predicate, hpredicate⟩
  obtain ⟨predicate', hpredicate'⟩ := Term.accepted_iff.1 haccepted
  have hsame : predicate' = predicate :=
    (Term.text_eq_iff hunames hnames hpredicate' hpredicate).2 halike.tokens.symm
  refine ⟨hunames, ?_⟩
  obtain ⟨text⟩ := s
  rw [statement, hpredicate', hsame]
  exact congrArg (fun text => Except.ok (Statement.mk text)) htext.symm

/-- The statement of a predicate tells it from all others exactly if no chain of operators in it
can be grouped in two ways: operators are written between their operands without brackets, so
a chain that mixes them, or repeats a comparison, is also the text of another predicate. -/
theorem grouped_eq_iff_unambiguous {methods : Allowance} {table : String} {t : Term}
    {s : Statement} (hnames : t.wellNamed = true)
    (h : (filter t).statement methods table = .ok s) :
    (∀ u : Term, u.wellNamed = true → (filter u).statement methods table = .ok s →
      u.grouped = t.grouped) ↔ t.unambiguous = true := by
  constructor
  · intro hall
    by_contra hambiguous
    obtain ⟨u, halike, hne⟩ :=
      Term.exists_regrouped methods (Bool.eq_false_iff.2 hambiguous)
    obtain ⟨hunames, hustatement⟩ := statement_of_alike halike hnames h
    exact hne (hall u hunames hustatement)
  · intro hunambiguous u hunames hu
    obtain ⟨predicate, hpredicate, htext⟩ := statement_filter h
    obtain ⟨predicate', hpredicate', htext'⟩ := statement_filter hu
    have hsame : predicate' = predicate :=
      (String.append_right_inj _).1 (htext'.symm.trans htext)
    have htokens : u.tokens = t.tokens :=
      (Term.text_eq_iff hunames hnames hpredicate' hpredicate).1 hsame
    have hflat : u.flat = t.flat :=
      Term.flat_eq_of_tokens_eq (Term.accepted_iff.2 ⟨predicate', hpredicate'⟩)
        (Term.accepted_iff.2 ⟨predicate, hpredicate⟩) htokens
    -- Being unambiguous shows in the chains, so the other term is unambiguous too.
    have huunambiguous : u.unambiguous = true := by
      calc
        u.unambiguous = u.flat.unambiguous := (Term.unambiguous_normal _ u).symm
        _ = t.flat.unambiguous := by rw [hflat]
        _ = t.unambiguous := Term.unambiguous_normal _ t
        _ = true := hunambiguous
    calc
      u.grouped = u.flat := Term.grouped_eq_flat huunambiguous
      _ = t.flat := hflat
      _ = t.grouped := (Term.grouped_eq_flat hunambiguous).symm

/-- A comparison with a disjunction and a disjunction with a comparison can have one statement. -/
theorem exists_same_statement :
    let t : Term := .binary .eq (.member "a") (.binary .or (.member "b") (.member "c"))
    let u : Term := .binary .or (.binary .eq (.member "a") (.member "b")) (.member "c")
    let s : Statement := ⟨"SELECT * FROM T WHERE a = b OR c"⟩
    t.wellNamed = true ∧ (filter t).statement .any "T" = .ok s ∧
      u.wellNamed = true ∧ (filter u).statement .any "T" = .ok s ∧ t.grouped ≠ u.grouped := by
  refine ⟨by decide +kernel, by decide +kernel, by decide +kernel, by decide +kernel, ?_⟩
  intro h
  exact absurd (Term.binary.inj h).1 (by decide)

/-- A disjunction of calls and columns is told from every other predicate, also where an argument
holds a comparison of its own. -/
theorem grouped_eq_of_disjunction_statement :
    let t : Term := .binary .or
      (.lambda "x" (.call "Any" [.binary .eq (.member "a") (.literal (.text "b OR c"))]))
      (.binary .orElse (.wrap (.member "d")) (.embed (.literal (.truth false))))
    let s : Statement := ⟨"SELECT * FROM T WHERE Any(a = 'b OR c') OR d OR FALSE"⟩
    t.wellNamed = true ∧ (filter t).statement .any "T" = .ok s ∧ t.unambiguous = true ∧
      ∀ u : Term, u.wellNamed = true → (filter u).statement .any "T" = .ok s →
        u.grouped = t.grouped := by
  intro t s
  have hnames : t.wellNamed = true := by decide +kernel
  have hs : (filter t).statement .any "T" = .ok s := by decide +kernel
  have hunambiguous : t.unambiguous = true := by decide +kernel
  exact ⟨hnames, hs, hunambiguous, (grouped_eq_iff_unambiguous hnames hs).2 hunambiguous⟩

end Clause

end Recordset
