import Recordset.Proofs.AllowedMethods
import Recordset.Proofs.DocumentFields
import Recordset.Settings.Spelling

/-!
# The spellings of settings

Settings can be spelled in many ways (`Settings.SpelledBy`): as an object or as a list, the section
on statements again as either of them, with the names of allowed methods in any order and any of
them repeated, and with parts left out that are as in the standard settings. `settings_read_iff` is
the top theorem: a document in which no object has a key twice is read as settings exactly if it
spells them, and the allowed methods are then the ones that it lists.
-/

set_option autoImplicit false

namespace Recordset

/-- What a document may hold as the allowed methods: null where every method is allowed, or else a
list of exactly the names of the allowed methods, in any order and any of them repeated. -/
inductive Allowance.SpelledBy : Allowance → Document → Prop
  | any : SpelledBy .any .null
  | only {methods : NameSet} {names : List String}
    (h : ∀ name, methods.contains name = true ↔ name ∈ names) :
    SpelledBy (.only methods) (.list (names.map .text))

/-- The allowed methods as a field, which by default allows every method. -/
def Allowance.field (a : Allowance) : FieldSpelling := ⟨"allowed_methods", a.SpelledBy, a = .any⟩

/-- What a document may hold as the section on statements: a structure of the allowed methods
alone. -/
def Allowance.SpelledBySection (a : Allowance) : Document → Prop := Document.Structured [a.field]

def OnMismatch.name : OnMismatch → String
  | .fail => "fail"
  | .skipRow => "skip_row"

/-- What a document may hold as the policy: its name, or an object with null under its name and
nothing else. -/
inductive OnMismatch.SpelledBy (policy : OnMismatch) : Document → Prop
  | text : SpelledBy policy (.text policy.name)
  | object : SpelledBy policy (.object [(policy.name, .null)])

/-- The section on statements as a field, which by default allows every method. -/
def Settings.statements (s : Settings) : FieldSpelling :=
  ⟨"translator", s.methods.SpelledBySection, s.methods = .any⟩

/-- The policy as a field, which by default is to fail. -/
def Settings.policy (s : Settings) : FieldSpelling :=
  ⟨"mismatch_policy", s.onMismatch.SpelledBy, s.onMismatch = .fail⟩

/-- The document spells the settings: it is a structure of a section on statements and a policy. -/
def Settings.SpelledBy (s : Settings) : Document → Prop :=
  Document.Structured [s.statements, s.policy]

/-- The section on statements lists the names as those of the allowed methods. -/
def Document.ListsInSection (statements : Document) (names : List String) : Prop :=
  statements.Gives ["allowed_methods"] "allowed_methods" (.list (names.map .text))

/-- The document lists the names as those of the allowed methods, in its section on statements. -/
def Document.ListsMethods (d : Document) (names : List String) : Prop :=
  ∃ statements, d.Gives ["translator", "mismatch_policy"] "translator" statements ∧
    statements.ListsInSection names

theorem Allowance.nodup_keys (a : Allowance) : ([a.field].map FieldSpelling.key).Nodup :=
  List.nodup_singleton _

theorem Settings.nodup_keys (s : Settings) :
    ([s.statements, s.policy].map FieldSpelling.key).Nodup := by
  simp [statements, policy]

namespace Document

theorem text?_eq_some_iff {d : Document} {s : String} : d.text? = some s ↔ d = .text s := by
  cases d <;> simp [text?]

/-- A list is read as names exactly if it holds them, each as a text, and nothing else. -/
theorem mapM_text?_eq_some_iff {items : List Document} {names : List String} :
    items.mapM text? = some names ↔ items = names.map .text := by
  induction items generalizing names with
  | nil => cases names <;> simp
  | cons d items ih =>
    rw [List.mapM_cons, Option.bind_eq_bind, Option.bind_eq_some_iff]
    simp only [Option.bind_eq_bind, Option.bind_eq_some_iff, text?_eq_some_iff, ih]
    constructor
    · rintro ⟨s, rfl, rest, rfl, hnames⟩
      cases hnames
      rfl
    · intro h
      cases names with
      | nil => cases h
      | cons s rest =>
        obtain ⟨rfl, rfl⟩ := List.cons.inj h
        exact ⟨s, rfl, rest, rfl, rfl⟩

/-- A field is read as a value exactly if it is found to be spelled as one, or left out where the
value is the one that it has then. -/
theorem readField_eq_some_iff {α : Type} {f : FieldSpelling} {otherwise x : α}
    {read : Document → Option α} {entries : List (String × Document)}
    (hread : ∀ d, entries.lookup f.key = some d → (read d = some x ↔ f.Spelled d))
    (hdefault : x = otherwise ↔ f.IsDefault) :
    readField f.key otherwise read entries = some x ↔ f.Found entries := by
  cases hlookup : entries.lookup f.key with
  | none =>
    rw [readField, hlookup, FieldSpelling.found_of_lookup_none hlookup, ← hdefault,
      Option.some.injEq, eq_comm]
  | some d =>
    rw [readField, hlookup, FieldSpelling.found_of_lookup_some hlookup]
    exact hread d hlookup

end Document

/-- A document is read as the allowed methods exactly if it spells them. -/
theorem Allowance.ofDocument?_eq_some_iff {a : Allowance} {d : Document} :
    ofDocument? d = some a ↔ a.SpelledBy d := by
  cases d with
  | null =>
    constructor
    · intro h
      cases h
      exact .any
    · intro h
      cases h
      rfl
  | list items =>
    rw [ofDocument?, Option.map_eq_some_iff]
    constructor
    · rintro ⟨names, hnames, rfl⟩
      rw [Document.mapM_text?_eq_some_iff.1 hnames]
      exact .only (NameSet.eq_ofNames_iff.1 rfl)
    · generalize hitems : Document.list items = d
      intro h
      cases h with
      | any => cases hitems
      | only hmethods =>
        have hnames := Document.mapM_text?_eq_some_iff.2 (Document.list.inj hitems)
        exact ⟨_, hnames, congrArg only (NameSet.eq_ofNames_iff.2 hmethods).symm⟩
  | _ => exact iff_of_false nofun nofun

namespace Allowance.SpelledBy

variable {a : Allowance}

/-- The methods allowed by a list are the ones that it names. -/
theorem permits_iff {names : List String} (h : a.SpelledBy (.list (names.map .text)))
    (method : String) : a.permits method = true ↔ method ∈ names := by
  have hread := Allowance.ofDocument?_eq_some_iff.2 h
  have hnames : (names.map Document.text).mapM Document.text? = some names :=
    Document.mapM_text?_eq_some_iff.2 rfl
  rw [Allowance.ofDocument?, hnames, Option.map_some, Option.some.injEq] at hread
  rw [← hread]
  exact Allowance.permits_only_ofNames names method

theorem exists_names {d : Document} (h : a.SpelledBy d) (hany : a ≠ .any) :
    ∃ names : List String, d = .list (names.map .text) := by
  cases h with
  | any => exact absurd rfl hany
  | only => exact ⟨_, rfl⟩

end Allowance.SpelledBy

namespace OnMismatch

theorem ofName?_eq_some_iff {policy : OnMismatch} {name : String} :
    ofName? name = some policy ↔ name = policy.name := by
  rw [ofName?]
  split
  · rename_i hname
    subst hname
    cases policy <;> simp [OnMismatch.name]
  · split
    · rename_i hname
      subst hname
      cases policy <;> simp [OnMismatch.name]
    · cases policy <;> simp_all [OnMismatch.name]

/-- A document is read as a policy exactly if it spells it. -/
theorem ofDocument?_eq_some_iff {policy : OnMismatch} {d : Document} :
    ofDocument? d = some policy ↔ policy.SpelledBy d := by
  constructor
  · intro h
    rw [ofDocument?.eq_def] at h
    split at h
    · rw [ofName?_eq_some_iff.1 h]
      exact .text
    · rw [ofName?_eq_some_iff.1 h]
      exact .object
    · cases h
  · intro h
    cases h with
    | text => exact ofName?_eq_some_iff.2 rfl
    | object => exact ofName?_eq_some_iff.2 rfl

end OnMismatch

/-- A section in which no object has a key twice is read as the allowed methods exactly if it
spells them. -/
theorem Allowance.ofSection?_eq_some_iff {a : Allowance} {d : Document} (hd : d.DistinctKeys) :
    ofSection? d = some a ↔ a.SpelledBySection d := by
  rw [SpelledBySection, Document.structured_iff a.nodup_keys hd, ofSection?, Option.bind_eq_bind,
    Option.bind_eq_some_iff]
  apply exists_congr
  intro entries
  apply and_congr_right
  intro hentries
  rw [List.forall_mem_singleton]
  exact Document.readField_eq_some_iff (f := a.field) (fun d _ => ofDocument?_eq_some_iff) Iff.rfl

namespace Settings

/-- A document in which no object has a key twice is read as settings exactly if it spells them. -/
theorem ofDocument?_eq_some_iff {s : Settings} {d : Document} (hd : d.DistinctKeys) :
    ofDocument? d = some s ↔ s.SpelledBy d := by
  rw [SpelledBy, Document.structured_iff s.nodup_keys hd, ofDocument?, Option.bind_eq_bind,
    Option.bind_eq_some_iff]
  apply exists_congr
  intro entries
  apply and_congr_right
  intro hentries
  have hdistinct := Document.nodup_of_fields? s.nodup_keys hd hentries
  have hstatements : Document.readField "translator" standard.methods Allowance.ofSection? entries =
      some s.methods ↔ s.statements.Found entries := by
    apply Document.readField_eq_some_iff (f := s.statements)
    · intro statements hlookup
      have hmem := (Document.lookup_eq_some_iff_mem hdistinct).1 hlookup
      exact Allowance.ofSection?_eq_some_iff (Document.distinctKeys_of_fields? hd hentries _ hmem)
    · exact Iff.rfl
  have hpolicy : Document.readField "mismatch_policy" standard.onMismatch OnMismatch.ofDocument?
      entries = some s.onMismatch ↔ s.policy.Found entries :=
    Document.readField_eq_some_iff (f := s.policy)
      (fun d _ => OnMismatch.ofDocument?_eq_some_iff) Iff.rfl
  rw [List.forall_mem_cons, List.forall_mem_singleton, ← hstatements, ← hpolicy]
  constructor
  · intro h
    obtain ⟨methods, hmethods, h⟩ := Option.bind_eq_some_iff.1 h
    obtain ⟨onMismatch, honMismatch, h⟩ := Option.bind_eq_some_iff.1 h
    cases h
    exact ⟨hmethods, honMismatch⟩
  · rintro ⟨hmethods, honMismatch⟩
    rw [hmethods, honMismatch]
    rfl

/-- The settings that a document spells allow the methods that it lists. -/
theorem SpelledBy.permits_iff {s : Settings} {d : Document} (h : s.SpelledBy d)
    (hd : d.DistinctKeys) {names : List String} (hlists : d.ListsMethods names) (method : String) :
    s.methods.permits method = true ↔ method ∈ names := by
  obtain ⟨statements, hgives, hlist⟩ := hlists
  have hsection : s.methods.SpelledBySection statements :=
    Document.Structured.spelled_of_gives h s.nodup_keys hd List.mem_cons_self hgives
  have hmethods : s.methods.SpelledBy (.list (names.map .text)) :=
    Document.Structured.spelled_of_gives hsection s.methods.nodup_keys (hd.of_gives hgives)
      List.mem_cons_self hlist
  exact hmethods.permits_iff method

/-- A document that lists no methods spells settings under which every method is allowed. -/
theorem SpelledBy.eq_any {s : Settings} {d : Document} (h : s.SpelledBy d) (hd : d.DistinctKeys)
    (hnone : ¬ ∃ names, d.ListsMethods names) : s.methods = .any := by
  by_contra hany
  obtain ⟨statements, hgives⟩ :=
    Document.Structured.exists_gives h s.nodup_keys hd List.mem_cons_self hany
  have hsection : s.methods.SpelledBySection statements :=
    Document.Structured.spelled_of_gives h s.nodup_keys hd List.mem_cons_self hgives
  have hdistinct := hd.of_gives hgives
  obtain ⟨field, hfield⟩ := Document.Structured.exists_gives hsection s.methods.nodup_keys hdistinct
    List.mem_cons_self hany
  have hmethods : s.methods.SpelledBy field :=
    Document.Structured.spelled_of_gives hsection s.methods.nodup_keys hdistinct
      List.mem_cons_self hfield
  obtain ⟨names, rfl⟩ := hmethods.exists_names hany
  exact hnone ⟨names, statements, hgives, hfield⟩

/-- Let no object in a document have a key twice. The document is read as settings exactly if it
spells them, and any other document is no spelling of settings. If it lists names of allowed
methods, these are the methods that the settings allow, and if it does not, they allow every
method. -/
theorem settings_read_iff (d : Document) (hd : d.DistinctKeys) :
    (∀ s, ofDocument? d = some s ↔ s.SpelledBy d) ∧
      (ofDocument? d = none ↔ ¬ ∃ s : Settings, s.SpelledBy d) ∧
      ∀ s, ofDocument? d = some s →
        (∀ names, d.ListsMethods names →
          ∀ method, s.methods.permits method = true ↔ method ∈ names) ∧
        ((¬ ∃ names, d.ListsMethods names) → s.methods = .any) := by
  refine ⟨fun s => ofDocument?_eq_some_iff hd, ?_, ?_⟩
  · rw [Option.eq_none_iff_forall_ne_some, not_exists]
    exact forall_congr' fun s => not_congr (ofDocument?_eq_some_iff hd)
  · intro s h
    have hspelled : s.SpelledBy d := (ofDocument?_eq_some_iff hd).1 h
    exact ⟨fun names hlists => hspelled.permits_iff hd hlists, hspelled.eq_any hd⟩

/-- Objects and lists can stand in one spelling, with a name listed twice and a key of no meaning. -/
theorem settings_read_of_mixed_spelling :
    let names := ["b", "a", "b"]
    let d : Document := .object [("mismatch_policy", .object [("skip_row", .null)]),
      ("comment", .list [.number 15 1]), ("translator", .list [.list (names.map .text)])]
    d.DistinctKeys ∧ ∃ s, ofDocument? d = some s ∧ s.SpelledBy d ∧ s.onMismatch = .skipRow ∧
      ∀ method, s.methods.permits method = true ↔ method ∈ names := by
  intro names d
  have hpolicy : (Document.object [("skip_row", .null)]).DistinctKeys :=
    .object (by decide) (List.forall_mem_singleton.2 .null)
  have hcomment : (Document.list [.number 15 1]).DistinctKeys :=
    .list (List.forall_mem_singleton.2 (.number 15 1))
  have hnames : (Document.list (names.map .text)).DistinctKeys :=
    .list (List.forall_mem_map.2 fun name _ => .text name)
  have hsection : (Document.list [.list (names.map .text)]).DistinctKeys :=
    .list (List.forall_mem_singleton.2 hnames)
  have hd : d.DistinctKeys := by
    refine .object (by decide) ?_
    rw [List.forall_mem_cons, List.forall_mem_cons, List.forall_mem_singleton]
    exact ⟨hpolicy, hcomment, hsection⟩
  have hread : ofDocument? d = some ⟨.only (NameSet.ofNames names), .skipRow⟩ := rfl
  have hlists : d.ListsMethods names := by
    refine ⟨.list [.list (names.map .text)], ?_, ?_⟩
    · exact List.mem_of_getElem? (i := 2) rfl
    · exact List.mem_singleton.2 rfl
  obtain ⟨hspelled, -, hmethods⟩ := settings_read_iff d hd
  exact ⟨hd, _, hread, (hspelled _).1 hread, rfl, (hmethods _ hread).1 names hlists⟩

end Settings

end Recordset
