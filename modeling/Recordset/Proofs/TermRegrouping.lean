import Recordset.Proofs.TermGrouping

/-!
# Grouping a term anew

Turning one operator of a term around the next, from `(x o y) op z` to `x o (y op z)`, leaves the
tokens as they are, and it changes the predicate unless both are disjunctions
(`grouped_rotate_ne`). A change in one place of a term is a change of the whole
(`joined_left_inj`, `joined_right_inj`), so a term that is ambiguous anywhere can be grouped anew:
`exists_regrouped` is the top lemma.
-/

set_option autoImplicit false

namespace Recordset

namespace Term

/-- A join holds the operator and both terms, wherever it stands. -/
theorem sizeOf_joined (past : BinaryOp → BinaryOp → Bool) (op : BinaryOp) (l r : Term) :
    sizeOf (joined past op l r) = 1 + sizeOf op + sizeOf l + sizeOf r := by
  induction l with
  | binary o x y ihx ihy =>
    rw [joined]
    split
    · simp only [binary.sizeOf_spec, ihy]
      omega
    · rfl
  | _ => rfl

theorem ne_joined (past : BinaryOp → BinaryOp → Bool) (op : BinaryOp) (l r : Term) :
    r ≠ joined past op l r := by
  intro h
  have hsize := congrArg sizeOf h
  rw [sizeOf_joined] at hsize
  omega

/-- A join in front of its first term is no join behind the operator of another one. -/
theorem eq_of_joined_front {past : BinaryOp → BinaryOp → Bool} {op : BinaryOp} {l l' r : Term}
    (hfront : ∀ r, joined past op l r = binary op l r)
    (h : joined past op l r = joined past op l' r) : l = l' := by
  rw [hfront] at h
  rcases joined_cases past op l' with ⟨o, x, y, rfl, -, hjoin⟩ | hjoin
  · rw [hjoin] at h
    exact absurd (binary.inj h).2.2 (ne_joined past op y r)
  · rw [hjoin] at h
    exact (binary.inj h).2.1

theorem joined_left_inj {past : BinaryOp → BinaryOp → Bool} {op : BinaryOp} {l l' r : Term}
    (h : joined past op l r = joined past op l' r) : l = l' := by
  induction l generalizing l' with
  | binary o x y ihx ihy =>
    rcases joined_cases past op (binary o x y) with ⟨o₁, x₁, y₁, heq, -, hjoin⟩ | hfront
    · obtain ⟨rfl, rfl, rfl⟩ := binary.inj heq
      rcases joined_cases past op l' with ⟨o', x', y', rfl, -, hjoin'⟩ | hfront
      · rw [hjoin, hjoin'] at h
        obtain ⟨rfl, rfl, hrest⟩ := binary.inj h
        rw [ihy hrest]
      · exact (eq_of_joined_front hfront h.symm).symm
    · exact eq_of_joined_front hfront h
  | _ => exact eq_of_joined_front (fun _ => rfl) h

theorem joined_right_inj {past : BinaryOp → BinaryOp → Bool} {op : BinaryOp} {l r r' : Term}
    (h : joined past op l r = joined past op l r') : r = r' := by
  induction l with
  | binary o x y ihx ihy =>
    rw [joined, joined] at h
    split at h
    · exact ihy (binary.inj h).2.2
    · exact (binary.inj h).2.2
  | _ => exact (binary.inj h).2.2

/-- At the top of a join of a predicate is its operator, or another disjunction if it is one. -/
theorem exists_joined_bothOr (op : BinaryOp) (l r : Term) :
    ∃ o x y, joined bothOr op l r = binary o x y ∧ o.isOr = op.isOr := by
  rcases joined_cases bothOr op l with ⟨o, x, y, -, hpast, h⟩ | h
  · obtain ⟨ho, hop⟩ := Bool.and_eq_true_iff.1 hpast
    exact ⟨o, x, joined bothOr op y r, h r, ho.trans hop.symm⟩
  · exact ⟨op, l, r, h r, rfl⟩

theorem joined_bothOr_of_not_or {op : BinaryOp} (hop : op.isOr = false) (l r : Term) :
    joined bothOr op l r = binary op l r := by
  rcases joined_cases bothOr op l with ⟨o, x, y, -, hpast, -⟩ | h
  · rw [bothOr, hop, Bool.and_false] at hpast
    exact absurd hpast Bool.false_ne_true
  · exact h r

/-- Turning one operator around the next changes the predicate, unless both are disjunctions. -/
theorem grouped_rotate_ne {o op : BinaryOp} (h : (o.isOr && op.isOr) = false) (x y z : Term) :
    (binary op (binary o x y) z).grouped ≠ (binary o x (binary op y z)).grouped := by
  intro heq
  simp only [grouped, normal] at heq
  generalize x.normal bothOr = x at heq
  generalize y.normal bothOr = y at heq
  generalize z.normal bothOr = z at heq
  rw [← o.isOr_plain, ← op.isOr_plain] at h
  generalize o.plain = o at heq h
  generalize op.plain = op at heq h
  cases ho : o.isOr with
  | false =>
    rw [joined_bothOr_of_not_or ho x, joined_bothOr_of_not_or ho x] at heq
    cases hop : op.isOr with
    | false =>
      -- Both are comparisons: the first one would have to be a part of itself.
      rw [joined_bothOr_of_not_or hop] at heq
      have hleft := (binary.inj heq).2.1
      have hsize := congrArg sizeOf hleft
      simp only [binary.sizeOf_spec] at hsize
      omega
    | true =>
      obtain ⟨p, a, b, hjoin, hp⟩ := exists_joined_bothOr op (binary o x y) z
      rw [hjoin] at heq
      rw [(binary.inj heq).1, ho, hop] at hp
      exact Bool.false_ne_true hp
  | true =>
    have hop : op.isOr = false := by
      rw [ho, Bool.true_and] at h
      exact h
    obtain ⟨p, a, b, hjoin, hp⟩ := exists_joined_bothOr o x (joined bothOr op y z)
    rw [hjoin, joined_bothOr_of_not_or hop] at heq
    rw [← (binary.inj heq).1, ho, hop] at hp
    exact Bool.false_ne_true hp

mutual

/-- Whether every node of a term can stand in a statement. -/
def accepted (methods : Allowance) : Term → Bool
  | binary op l r => op.token?.isSome && l.accepted methods && r.accepted methods
  | unary _ _ | parameter _ => false
  | wrap t => t.accepted methods
  | lambda _ body => body.accepted methods
  | call method arguments => methods.permits method && allAccepted methods arguments
  | member _ => true
  | literal l => l.written.isOk
  | embed inner => inner.accepted methods

def allAccepted (methods : Allowance) : List Term → Bool
  | [] => true
  | t :: ts => t.accepted methods && allAccepted methods ts

end

theorem allAccepted_iff {methods : Allowance} {ts : List Term} :
    allAccepted methods ts = true ↔ ∀ t ∈ ts, t.accepted methods = true := by
  induction ts with
  | nil => simp [allAccepted]
  | cons t ts ih => simp [allAccepted, ih]

theorem exists_texts {methods : Allowance} {ts : List Term}
    (h : ∀ t ∈ ts, ∃ s, t.text methods = .ok s) : ∃ ss, texts methods ts = .ok ss := by
  induction ts with
  | nil => exact ⟨[], rfl⟩
  | cons t ts ih =>
    obtain ⟨s, hs⟩ := h t List.mem_cons_self
    obtain ⟨ss, hss⟩ := ih fun u hu => h u (List.mem_cons_of_mem t hu)
    exact ⟨s :: ss, by rw [texts, hs, hss]; rfl⟩

theorem exists_text_of_mem {methods : Allowance} {ts : List Term} {ss : List String}
    (h : texts methods ts = .ok ss) {t : Term} (ht : t ∈ ts) : ∃ s, t.text methods = .ok s := by
  induction ts generalizing ss with
  | nil => exact absurd ht List.not_mem_nil
  | cons u ts ih =>
    obtain ⟨s, rest, hs, hrest, -⟩ := texts_cons h
    rcases List.mem_cons.1 ht with rfl | ht
    · exact ⟨s, hs⟩
    · exact ih hrest ht

/-- A term has a text exactly if every node of it can stand in a statement. -/
theorem accepted_iff {methods : Allowance} {t : Term} :
    t.accepted methods = true ↔ ∃ s, t.text methods = .ok s := by
  induction t with
  | binary op l r ihl ihr =>
    rw [accepted, Bool.and_eq_true, Bool.and_eq_true, ihl, ihr]
    constructor
    · rintro ⟨⟨hop, left, hl⟩, right, hr⟩
      obtain ⟨sign, hsign⟩ := Option.isSome_iff_exists.1 hop
      exact ⟨left ++ " " ++ sign ++ " " ++ right, by rw [text, hsign, hl, hr]; rfl⟩
    · rintro ⟨s, hs⟩
      obtain ⟨sign, left, right, hsign, hl, hr, -⟩ := text_binary hs
      exact ⟨⟨by rw [hsign]; rfl, left, hl⟩, right, hr⟩
  | unary op t ih => simp [accepted, text]
  | wrap t ih => exact ih
  | lambda p t ih => exact ih
  | call m ts ih =>
    rw [accepted, Bool.and_eq_true, allAccepted_iff]
    constructor
    · rintro ⟨hm, hts⟩
      obtain ⟨ss, hss⟩ := exists_texts fun t ht => (ih t ht).1 (hts t ht)
      exact ⟨m ++ "(" ++ ", ".intercalate ss ++ ")", by rw [text, if_pos hm, hss]; rfl⟩
    · rintro ⟨s, hs⟩
      obtain ⟨ss, hss, -⟩ := text_call hs
      refine ⟨?_, fun t ht => (ih t ht).2 (exists_text_of_mem hss ht)⟩
      by_contra hm
      rw [text, if_neg hm] at hs
      exact absurd hs (by simp)
  | member n => exact ⟨fun _ => ⟨n, rfl⟩, fun _ => rfl⟩
  | parameter n => simp [accepted, text]
  | literal l =>
    rw [accepted, text]
    cases l.written with
    | error e => simp [Except.isOk, Except.toBool]
    | ok s => simp [Except.isOk, Except.toBool]
  | embed t ih => exact ih

/-- Two terms cannot be told apart by the names, the tokens or the acceptance. -/
structure Alike (methods : Allowance) (t u : Term) : Prop where
  tokens : t.tokens = u.tokens
  wellNamed : t.wellNamed = u.wellNamed
  accepted : t.accepted methods = u.accepted methods

namespace Alike

variable {methods : Allowance} {t u v : Term}

theorem refl (methods : Allowance) (t : Term) : Alike methods t t := ⟨rfl, rfl, rfl⟩

theorem trans (h : Alike methods t u) (h' : Alike methods u v) : Alike methods t v :=
  ⟨h.tokens.trans h'.tokens, h.wellNamed.trans h'.wellNamed, h.accepted.trans h'.accepted⟩

theorem symm (h : Alike methods t u) : Alike methods u t :=
  ⟨h.tokens.symm, h.wellNamed.symm, h.accepted.symm⟩

theorem binary (op : BinaryOp) {l l' r r' : Term} (hl : Alike methods l l')
    (hr : Alike methods r r') : Alike methods (.binary op l r) (.binary op l' r') := by
  refine ⟨?_, ?_, ?_⟩
  · rw [Term.tokens, hl.tokens, hr.tokens, Term.tokens]
  · rw [Term.wellNamed, hl.wellNamed, hr.wellNamed, Term.wellNamed]
  · rw [Term.accepted, hl.accepted, hr.accepted, Term.accepted]

/-- Turning one operator around the next shows nowhere. -/
theorem rotate (methods : Allowance) (o op : BinaryOp) (x y z : Term) :
    Alike methods (.binary op (.binary o x y) z) (.binary o x (.binary op y z)) := by
  refine ⟨?_, ?_, ?_⟩
  · simp only [Term.tokens, List.append_assoc]
  · simp only [Term.wellNamed, Bool.and_assoc]
  · simp only [Term.accepted]
    ac_rfl

/-- Nor does a change in one argument of a call. -/
theorem call (method : String) (pre post : List Term) (h : Alike methods t u) :
    Alike methods (.call method (pre ++ t :: post)) (.call method (pre ++ u :: post)) := by
  have hall : ∀ (p : Term → Bool), p t = p u →
      ((∀ v ∈ pre ++ t :: post, p v = true) ↔ ∀ v ∈ pre ++ u :: post, p v = true) := by
    intro p hp
    simp only [List.forall_mem_append, List.forall_mem_cons, hp]
  refine ⟨?_, ?_, ?_⟩
  · simp only [Term.tokens, tokensAll_eq_map, List.map_append, List.map_cons, h.tokens]
  · have hnames : allWellNamed (pre ++ t :: post) = allWellNamed (pre ++ u :: post) := by
      rw [Bool.eq_iff_iff, allWellNamed_iff, allWellNamed_iff]
      exact hall Term.wellNamed h.wellNamed
    rw [Term.wellNamed, hnames, Term.wellNamed]
  · have haccepted : allAccepted methods (pre ++ t :: post) =
        allAccepted methods (pre ++ u :: post) := by
      rw [Bool.eq_iff_iff, allAccepted_iff, allAccepted_iff]
      exact hall (Term.accepted methods) h.accepted
    rw [Term.accepted, haccepted, Term.accepted]

end Alike

/-- What is no operand has an operator at its top, below what adds nothing to a predicate. -/
theorem exists_operator (methods : Allowance) {t : Term} (h : t.isOperand = false) :
    ∃ o x y, Alike methods t (binary o x y) ∧ t.grouped = (binary o x y).grouped ∧
      t.unambiguous = (binary o x y).unambiguous ∧ t.onlyOr = (binary o x y).onlyOr := by
  induction t with
  | binary o x y ihx ihy => exact ⟨o, x, y, Alike.refl methods _, rfl, rfl, rfl⟩
  | wrap t ih =>
    obtain ⟨o, x, y, halike, hsame⟩ := ih h
    exact ⟨o, x, y, ⟨halike.tokens, halike.wellNamed, halike.accepted⟩, hsame⟩
  | lambda p t ih =>
    obtain ⟨o, x, y, halike, hsame⟩ := ih h
    exact ⟨o, x, y, ⟨halike.tokens, halike.wellNamed, halike.accepted⟩, hsame⟩
  | embed t ih =>
    obtain ⟨o, x, y, halike, hsame⟩ := ih h
    exact ⟨o, x, y, ⟨halike.tokens, halike.wellNamed, halike.accepted⟩, hsame⟩
  | _ => exact absurd h (by simp [isOperand])

theorem onlyOr_of_isOperand {t : Term} (h : t.isOperand = true) : t.onlyOr = true := by
  induction t with
  | binary o x y ihx ihy => exact absurd h Bool.false_ne_true
  | wrap t ih => exact ih h
  | lambda p t ih => exact ih h
  | embed t ih => exact ih h
  | _ => rfl

/-- In an unambiguous term a disjunction at the top means that there are only disjunctions. -/
theorem onlyOr_of_unambiguous {o : BinaryOp} {x y : Term}
    (h : (binary o x y).unambiguous = true) : (binary o x y).onlyOr = o.isOr := by
  simp only [unambiguous, Bool.and_eq_true, Bool.or_eq_true] at h
  obtain ⟨-, ⟨⟨ho, hx⟩, hy⟩ | ⟨hx, hy⟩⟩ := h
  · rw [onlyOr, ho, hx, hy]
    rfl
  · rw [onlyOr, onlyOr_of_isOperand hx, onlyOr_of_isOperand hy, Bool.and_true, Bool.and_true]

/-- An operator can be turned around the one at the top of its first operand, to another predicate
unless both are disjunctions. -/
theorem exists_rotated_left (methods : Allowance) {op : BinaryOp} {l r : Term}
    (hl : l.unambiguous = true) (hoperand : l.isOperand = false)
    (h : (l.onlyOr && op.isOr) = false) :
    ∃ u, Alike methods (binary op l r) u ∧ u.grouped ≠ (binary op l r).grouped := by
  obtain ⟨o, x, y, halike, hgrouped, hunambiguous, hor⟩ := exists_operator methods hoperand
  rw [hunambiguous] at hl
  rw [hor, onlyOr_of_unambiguous hl] at h
  have hsame : (binary op l r).grouped = (binary op (binary o x y) r).grouped := by
    show joined bothOr op.plain l.grouped r.grouped = _
    rw [hgrouped]
    rfl
  refine ⟨binary o x (binary op y r), ?_, ?_⟩
  · exact (halike.binary op (Alike.refl methods r)).trans (Alike.rotate methods o op x y r)
  · rw [hsame]
    exact (grouped_rotate_ne h x y r).symm

/-- An operator can be turned around the one at the top of its second operand as well. -/
theorem exists_rotated_right (methods : Allowance) {op : BinaryOp} {l r : Term}
    (hr : r.unambiguous = true) (hoperand : r.isOperand = false)
    (h : (op.isOr && r.onlyOr) = false) :
    ∃ u, Alike methods (binary op l r) u ∧ u.grouped ≠ (binary op l r).grouped := by
  obtain ⟨o, x, y, halike, hgrouped, hunambiguous, hor⟩ := exists_operator methods hoperand
  rw [hunambiguous] at hr
  rw [hor, onlyOr_of_unambiguous hr] at h
  have hsame : (binary op l r).grouped = (binary op l (binary o x y)).grouped := by
    show joined bothOr op.plain l.grouped r.grouped = _
    rw [hgrouped]
    rfl
  refine ⟨binary o (binary op l x) y, ?_, ?_⟩
  · exact ((Alike.refl methods l).binary op halike).trans (Alike.rotate methods op o l x y).symm
  · rw [hsame]
    exact grouped_rotate_ne h l x y

/-- An operator whose operands are unambiguous, but not together with it, can be turned around one
of them to another predicate. -/
theorem exists_rotated (methods : Allowance) {op : BinaryOp} {l r : Term}
    (hl : l.unambiguous = true) (hr : r.unambiguous = true)
    (h : (op.isOr && l.onlyOr && r.onlyOr || l.isOperand && r.isOperand) = false) :
    ∃ u, Alike methods (binary op l r) u ∧ u.grouped ≠ (binary op l r).grouped := by
  obtain ⟨hchain, hoperands⟩ := Bool.or_eq_false_iff.1 h
  cases hlo : l.isOperand with
  | true =>
    rw [onlyOr_of_isOperand hlo, Bool.and_true] at hchain
    rw [hlo, Bool.true_and] at hoperands
    exact exists_rotated_right methods hr hoperands hchain
  | false =>
    cases hleft : (l.onlyOr && op.isOr) with
    | false => exact exists_rotated_left methods hl hlo hleft
    | true =>
      obtain ⟨hlor, hop⟩ := Bool.and_eq_true_iff.1 hleft
      rw [hlor, hop, Bool.true_and, Bool.true_and] at hchain
      -- The second operand holds a comparison, so it is no operand but has an operator of its own.
      have hro : r.isOperand = false := by
        apply Bool.eq_false_iff.2
        intro hro
        rw [onlyOr_of_isOperand hro] at hchain
        exact Bool.false_ne_true hchain.symm
      apply exists_rotated_right methods hr hro
      rw [hchain, Bool.and_false]

/-- A term that is ambiguous anywhere can be grouped anew to another predicate with the same
tokens. -/
theorem exists_regrouped (methods : Allowance) {t : Term} (h : t.unambiguous = false) :
    ∃ u, Alike methods t u ∧ u.grouped ≠ t.grouped := by
  induction t with
  | binary op l r ihl ihr =>
    cases hl : l.unambiguous with
    | false =>
      obtain ⟨u, halike, hne⟩ := ihl hl
      refine ⟨binary op u r, halike.binary op (Alike.refl methods r), ?_⟩
      intro heq
      apply hne
      exact joined_left_inj heq
    | true =>
      cases hr : r.unambiguous with
      | false =>
        obtain ⟨u, halike, hne⟩ := ihr hr
        refine ⟨binary op l u, (Alike.refl methods l).binary op halike, ?_⟩
        intro heq
        apply hne
        exact joined_right_inj heq
      | true =>
        apply exists_rotated methods hl hr
        rw [unambiguous, hl, hr] at h
        exact h
  | unary op t ih =>
    obtain ⟨u, halike, hne⟩ := ih h
    refine ⟨unary op u, ⟨halike.tokens, halike.wellNamed, rfl⟩, ?_⟩
    intro heq
    apply hne
    exact (unary.inj heq).2
  | wrap t ih =>
    obtain ⟨u, halike, hne⟩ := ih h
    exact ⟨u, ⟨halike.tokens, halike.wellNamed, halike.accepted⟩, hne⟩
  | lambda p t ih =>
    obtain ⟨u, halike, hne⟩ := ih h
    exact ⟨u, ⟨halike.tokens, halike.wellNamed, halike.accepted⟩, hne⟩
  | call m ts ih =>
    have hex : ∃ t ∈ ts, t.unambiguous = false := by
      by_contra hall
      have hts : allUnambiguous ts = true := by
        rw [allUnambiguous_iff]
        intro t ht
        by_contra hfalse
        exact hall ⟨t, ht, Bool.eq_false_iff.2 hfalse⟩
      rw [unambiguous, hts] at h
      exact Bool.false_ne_true h.symm
    obtain ⟨t, ht, hfalse⟩ := hex
    obtain ⟨u, halike, hne⟩ := ih t ht hfalse
    obtain ⟨pre, post, rfl⟩ := List.append_of_mem ht
    refine ⟨call m (pre ++ u :: post), Alike.call m pre post halike, ?_⟩
    intro heq
    apply hne
    simp only [grouped, normal, normalAll_eq_map, List.map_append, List.map_cons] at heq
    have hlist := (call.inj heq).2
    exact (List.cons.inj (List.append_cancel_left hlist)).1
  | embed t ih =>
    obtain ⟨u, halike, hne⟩ := ih h
    exact ⟨u, ⟨halike.tokens, halike.wellNamed, halike.accepted⟩, hne⟩
  | _ => exact absurd h (by simp [unambiguous])

end Term

end Recordset
