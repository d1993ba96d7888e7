import SqlCompose.Proofs.Parts

/-!
# What goes wrong in rendering

A query that was built without an error, here and in every nested query, can still name something
its templates do not know, take an argument that is missing, or ask for what the dialect lacks. The
walk through its relations can be too deep. Nothing else goes wrong.
-/

namespace SqlCompose

/-! ## Clauses -/

/-- What can go wrong in a template. -/
inductive RenderError.OfTemplate : RenderError → Prop
  | modelRequired (operation : String) : OfTemplate (.build (.modelRequired operation))
  | unknownPlaceholder (name : String) : OfTemplate (.unknownPlaceholder name)
  | missingArgument (template : String) (position : Nat) :
      OfTemplate (.missingArgument template position)

/-- What can go wrong in a clause. -/
inductive RenderError.OfClause : RenderError → Prop
  | modelRequired (operation : String) : OfClause (.build (.modelRequired operation))
  | unknownPlaceholder (name : String) : OfClause (.unknownPlaceholder name)
  | missingArgument (template : String) (position : Nat) :
      OfClause (.missingArgument template position)
  | unsupported (d : Dialect) (need : Need) : OfClause (.unsupported d need)

theorem RenderError.OfTemplate.ofClause {e : RenderError} (h : e.OfTemplate) : e.OfClause := by
  cases h with
  | modelRequired operation => exact .modelRequired operation
  | unknownPlaceholder name => exact .unknownPlaceholder name
  | missingArgument template position => exact .missingArgument template position

/-- A fragment that fails as clauses do. -/
abbrev Fragment.FailsAsClause (f : Fragment) : Prop :=
  f.FailsOnly RenderError.OfClause

open Fragment

section

variable {P : RenderError → Prop} (hP : ∀ e, RenderError.OfTemplate e → P e)
  {names : Template.Names}
  (hnames : ∀ name f, names name = some f → f.FailsOnly P)

include hP

theorem Template.failsOnly_argument (template : String) (args : List Value) (position : Nat) :
    (argument template args position).FailsOnly P := by
  unfold argument
  split
  · exact failsOnly_arg _
  · exact failsOnly_fail.mpr (hP _ (.missingArgument ..))

include hnames

theorem Template.failsOnly_expandItems (template : String) (args : List Value) (taken : Nat)
    (items : List TemplateItem) : (expandItems names template args taken items).FailsOnly P := by
  induction items generalizing taken with
  | nil => exact failsOnly_empty
  | cons item rest ih =>
    cases item with
    | text s => exact (failsOnly_text _).append (ih _)
    | next => exact (failsOnly_argument hP template args _).append (ih _)
    | position n => exact (failsOnly_argument hP template args _).append (ih _)
    | named name =>
      refine FailsOnly.append ?_ (ih _)
      cases found : names (String.ofList name) with
      | none => exact failsOnly_fail.mpr (hP _ (.unknownPlaceholder _))
      | some f => exact hnames _ f found

theorem Node.failsOnly_fragment (d : Dialect) (n : Node) :
    (n.fragment d names).FailsOnly P := by
  cases n with
  | template source args => exact Template.failsOnly_expandItems hP hnames source args 0 _
  | ident name => exact failsOnly_text _

theorem Condition.failsOnly_tied (d : Dialect) (c : Condition) :
    (c.tied d names).FailsOnly P :=
  (failsOnly_text _).append (Node.failsOnly_fragment hP hnames d c.node).parens

theorem Condition.failsOnly_row (d : Dialect) (cs : List Condition) :
    (row d names cs).FailsOnly P := by
  cases cs with
  | nil => exact failsOnly_empty
  | cons c rest =>
    refine (Node.failsOnly_fragment hP hnames d c.node).parens.append (.concat ?_)
    intro f hf
    obtain ⟨c', -, rfl⟩ := List.mem_map.mp hf
    exact c'.failsOnly_tied hP hnames d

theorem Join.failsOnly_leftJoin (d : Dialect) (j : Join) :
    (j.leftJoin d names).FailsOnly P := by
  refine (failsOnly_text _).append (.concat ?_)
  intro f hf
  obtain ⟨c, -, rfl⟩ := List.mem_map.mp hf
  exact c.failsOnly_tied hP hnames d

theorem JoinTree.failsOnly_leftJoins (d : Dialect) {vs : List Visit}
    (hvs : ∀ e, .error e ∈ vs → P (.build e)) : (leftJoins d names vs).FailsOnly P := by
  induction vs with
  | nil => exact failsOnly_empty
  | cons v rest ih =>
    cases v with
    | error e => exact failsOnly_fail.mpr (hvs e List.mem_cons_self)
    | ok j =>
      have others := ih fun e he => hvs e (List.mem_cons_of_mem _ he)
      exact ((failsOnly_text _).append (j.failsOnly_leftJoin hP hnames d)).append others

end

section

variable {P : RenderError → Prop}

theorem JoinTree.failsOnly_columnItems (d : Dialect) (started : Bool) {vs : List Visit}
    (hvs : ∀ e, .error e ∈ vs → P (.build e)) : (columnItems d started vs).FailsOnly P := by
  induction vs generalizing started with
  | nil => exact failsOnly_empty
  | cons v rest ih =>
    cases v with
    | error e => exact failsOnly_fail.mpr (hvs e List.mem_cons_self)
    | ok j =>
      have others := fun b => ih b fun e he => hvs e (List.mem_cons_of_mem _ he)
      rw [columnItems]
      split
      · exact others _
      · exact (failsOnly_text _).append (others _)

/-- Errors of a kind may say that a feature is missing, if it is. -/
def Target.MayLack (t : Target) (P : RenderError → Prop) (f : Feature) : Prop :=
  t.features.has f = false → P (.unsupported t.dialect (.feature f))

theorem Target.failsOnly_require {t : Target} {f : Feature} (h : t.MayLack P f) :
    (t.require f).FailsOnly P := by
  unfold require
  split
  · exact failsOnly_empty
  · rename_i missing
    exact failsOnly_fail.mpr (h (Bool.eq_false_iff.mpr missing))

end

namespace Select

variable {P : RenderError → Prop} (t : Target) (s : Select)

/-- A name stands for a text, or for the table that is missing. -/
theorem names_cases {d : Dialect} {name : String} {f : Fragment} (h : s.names d name = some f) :
    (∃ text, f = .text text) ∨ f = .fail (.build (.modelRequired ("?" ++ name))) := by
  simp only [names] at h
  cases table : s.table with
  | none =>
    simp only [table] at h
    refine .inr ?_
    repeat' split at h
    all_goals cases h
    all_goals rfl
  | some t =>
    simp only [table] at h
    refine .inl ?_
    repeat' split at h
    all_goals cases h
    all_goals exact ⟨_, rfl⟩

theorem failsOnly_listed {shapeOnly started : Bool} {fs : List Fragment}
    (h : ∀ f ∈ fs, f.FailsOnly P) : (listed shapeOnly started fs).FailsOnly P := by
  induction fs generalizing started with
  | nil => exact failsOnly_empty
  | cons f rest ih =>
    exact ((failsOnly_text _).append (h f List.mem_cons_self)).append
      (ih fun g hg => h g (List.mem_cons_of_mem f hg))

section

variable (hP : ∀ e, RenderError.OfTemplate e → P e)
include hP

theorem failsOnly_names {d : Dialect} {name : String} {f : Fragment}
    (h : s.names d name = some f) : f.FailsOnly P := by
  rcases s.names_cases h with ⟨text, rfl⟩ | rfl
  · exact failsOnly_text _
  · exact failsOnly_fail.mpr (hP _ (.modelRequired _))

theorem failsOnly_node (n : Node) : (s.node t n).FailsOnly P :=
  n.failsOnly_fragment hP (fun _ _ => s.failsOnly_names hP) t.dialect

theorem failsOnly_nodes (ns : List Node) : (s.nodes t ns).FailsOnly P := by
  refine .join ?_
  intro f hf
  obtain ⟨n, -, rfl⟩ := List.mem_map.mp hf
  exact s.failsOnly_node t hP n

theorem failsOnly_column (n : Node) : (s.column t n).FailsOnly P := by
  unfold column
  split
  · split
    · exact failsOnly_text _
    · exact s.failsOnly_node t hP _
  · exact s.failsOnly_node t hP _

theorem failsOnly_baseColumns : (s.baseColumns t).FailsOnly P := by
  unfold baseColumns
  split
  · split
    · split <;> exact failsOnly_text _
    · exact failsOnly_text _
  · refine .join ?_
    intro f hf
    obtain ⟨n, -, rfl⟩ := List.mem_map.mp hf
    exact s.failsOnly_column t hP n

theorem failsOnly_distinctClause (need : s.distinctOn ≠ [] → t.MayLack P .distinctOn) :
    (s.distinctClause t).FailsOnly P := by
  unfold distinctClause
  split
  · split
    · exact failsOnly_text _
    · exact failsOnly_empty
  · rename_i nonempty
    have feature := Target.failsOnly_require (need (by simpa using nonempty))
    exact ((feature.append (failsOnly_text _)).append (s.failsOnly_nodes t hP _)).append
      (failsOnly_text _)

theorem failsOnly_fromClause : (s.fromClause t).FailsOnly P := by
  unfold fromClause
  split
  · exact failsOnly_empty
  · refine (failsOnly_text _).append (failsOnly_listed ?_)
    intro f hf
    rcases List.mem_cons.mp hf with rfl | hf
    · unfold boundTable
      split
      · exact s.failsOnly_node t hP _
      · exact failsOnly_text _
      · exact failsOnly_empty
    · obtain ⟨n, -, rfl⟩ := List.mem_map.mp hf
      exact s.failsOnly_node t hP n

theorem failsOnly_manualJoin (j : ManualJoin) : (s.manualJoin t j).FailsOnly P := by
  refine ((failsOnly_text _).append (s.failsOnly_node t hP _)).append ?_
  split
  · exact failsOnly_empty
  · exact (failsOnly_text _).append
      (Condition.failsOnly_row hP (fun _ _ => s.failsOnly_names hP) t.dialect _)

end

mutual

theorem failsOnly_whereItem (hP : ∀ e, RenderError.OfTemplate e → P e) (i : WhereItem) :
    (s.whereItem t i).FailsOnly P := by
  cases i with
  | cond c =>
    rw [whereItem]
    exact (s.failsOnly_node t hP _).parens
  | group connective items =>
    rw [whereItem]
    exact (failsOnly_whereItems hP items).parens

theorem failsOnly_whereItems (hP : ∀ e, RenderError.OfTemplate e → P e) (items : List WhereItem) :
    (s.whereItems t items).FailsOnly P := by
  cases items with
  | nil =>
    rw [whereItems]
    exact failsOnly_empty
  | cons i rest =>
    rw [whereItems]
    exact (failsOnly_whereItem hP i).append (failsOnly_tiedItems hP rest)

theorem failsOnly_tiedItems (hP : ∀ e, RenderError.OfTemplate e → P e) (items : List WhereItem) :
    (s.tiedItems t items).FailsOnly P := by
  cases items with
  | nil =>
    rw [tiedItems]
    exact failsOnly_empty
  | cons i rest =>
    rw [tiedItems]
    exact ((failsOnly_text _).append (failsOnly_whereItem hP i)).append
      (failsOnly_tiedItems hP rest)

end

section

variable (hP : ∀ e, RenderError.OfTemplate e → P e)
include hP

theorem failsOnly_whereClause : (s.whereClause t).FailsOnly P := by
  unfold whereClause
  split
  · exact failsOnly_empty
  · exact failsOnly_text _
  · exact (failsOnly_text _).append (s.failsOnly_whereItems t hP _)
  · exact ((failsOnly_text _).append (s.failsOnly_whereItem t hP _)).append (failsOnly_text _)
  · exact ((failsOnly_text _).append (s.failsOnly_whereItems t hP _).parens).append
      (failsOnly_text _)

theorem failsOnly_keywordList (keyword : String) (ns : List Node) :
    (s.keywordList t keyword ns).FailsOnly P := by
  unfold keywordList
  split
  · exact failsOnly_empty
  · exact (failsOnly_text _).append (s.failsOnly_nodes t hP ns)

theorem failsOnly_havingClause : (s.havingClause t).FailsOnly P := by
  unfold havingClause
  split
  · exact failsOnly_empty
  · refine (failsOnly_text _).append (.join ?_)
    intro f hf
    obtain ⟨n, -, rfl⟩ := List.mem_map.mp hf
    exact (s.failsOnly_node t hP n).parens

theorem failsOnly_tail (form : Form) (need : form = .rows → s.lock ≠ none →
    t.MayLack P .selectFor) : (s.tail t form).FailsOnly P := by
  cases form with
  | count => exact failsOnly_empty
  | rows =>
    have limit : s.limitClause.FailsOnly P := by
      unfold limitClause
      split
      · split
        · exact failsOnly_text _
        · exact failsOnly_empty
      · exact failsOnly_empty
    have offset : s.offsetClause.FailsOnly P := by
      unfold offsetClause
      split
      · split
        · exact failsOnly_text _
        · exact failsOnly_empty
      · exact failsOnly_empty
    have lock : (s.lockClause t).FailsOnly P := by
      unfold lockClause
      split
      · rename_i n given
        have feature := Target.failsOnly_require (need rfl (by simp [given]))
        exact (feature.append (failsOnly_text _)).append (s.failsOnly_node t hP _)
      · exact failsOnly_empty
    exact (((s.failsOnly_keywordList t hP _ _).append limit).append offset).append lock

variable {s}

/-- Unless the walk through its relations is too deep, a SELECT goes wrong in a clause. -/
theorem failsOnly_fragment (form : Form) (walk : ∀ e, .error e ∈ s.visits → P (.build e))
    (distinct : s.distinctOn ≠ [] → t.MayLack P .distinctOn)
    (lock : form = .rows → s.lock ≠ none → t.MayLack P .selectFor) :
    (s.fragment t form).FailsOnly P := by
  have selected : (s.selection t form).FailsOnly P := by
    unfold selection
    split
    · exact failsOnly_text _
    · exact (s.failsOnly_baseColumns t hP).append (JoinTree.failsOnly_columnItems _ _ walk)
  have joined : (s.joinClauses t).FailsOnly P := by
    refine (JoinTree.failsOnly_leftJoins hP (fun _ _ => s.failsOnly_names hP) _ walk).append
      (.concat ?_)
    intro f hf
    obtain ⟨j, -, rfl⟩ := List.mem_map.mp hf
    exact s.failsOnly_manualJoin t hP j
  have opening := (failsOnly_text "SELECT ").append (s.failsOnly_distinctClause t hP distinct)
  have head := (opening.append selected).append (s.failsOnly_fromClause t hP)
  have middle := ((head.append joined).append (s.failsOnly_whereClause t hP)).append
    (s.failsOnly_keywordList t hP " GROUP BY " s.group)
  exact (middle.append (s.failsOnly_havingClause t hP)).append (s.failsOnly_tail t hP form lock)

end

end Select

/-! ## VALUES lists -/

namespace Values

variable {P : RenderError → Prop} (hP : ∀ e, RenderError.OfTemplate e → P e) {t : Target}
  {v : Values}

theorem failsOnly_columns {d : Dialect} (h : ∀ e, v.error? = some e → P (.build e)) :
    (v.columns d).FailsOnly P := by
  unfold columns
  split
  · rename_i e herror
    exact failsOnly_fail.mpr (h e herror)
  · rename_i e _ hsource
    exact failsOnly_fail.mpr (h e (by simp [error?, hsource]))
  · exact failsOnly_text _

theorem failsOnly_names {d : Dialect} (h : ∀ e, v.error? = some e → P (.build e)) (name : String)
    (f : Fragment) (hf : v.names d name = some f) : f.FailsOnly P := by
  unfold names at hf
  split at hf
  · cases hf
    exact failsOnly_columns h
  · cases hf

theorem failsOnly_typedValue (field : Field) (value : Value) :
    (typedValue t field value).FailsOnly P := by
  unfold typedValue
  split
  · exact failsOnly_arg _
  · split
    · exact (failsOnly_arg _).append (failsOnly_text _)
    · exact ((failsOnly_text _).append (failsOnly_arg _)).append (failsOnly_text _)

include hP

theorem failsOnly_cells (h : ∀ e, v.error? = some e → P (.build e)) (row : List Value)
    (source : RowSource) {f : Fragment} (hf : f ∈ v.cells t row source) : f.FailsOnly P := by
  cases source with
  | typed table first further =>
    obtain ⟨i, hi, rfl⟩ := List.mem_mapIdx.mp hf
    unfold cell
    split
    · exact Node.failsOnly_fragment hP (failsOnly_names h) _ _
    · exact failsOnly_typedValue _ _
  | dynamic columns first further =>
    obtain ⟨i, hi, rfl⟩ := List.mem_mapIdx.mp hf
    exact failsOnly_arg _

theorem failsOnly_tuple (h : ∀ e, v.error? = some e → P (.build e)) (source : RowSource)
    (row : List Value) (number : Nat) : (v.tuple t source row number).FailsOnly P := by
  have cells : (Fragment.join ", " (v.cells t row source)).FailsOnly P :=
    .join fun f hf => failsOnly_cells hP h row source hf
  exact ((failsOnly_text _).append cells).append (failsOnly_text _)

theorem failsOnly_fragment (h : ∀ e, v.error? = some e → P (.build e)) :
    (v.fragment t).FailsOnly P := by
  unfold fragment
  split
  · rename_i e herror
    exact failsOnly_fail.mpr (h e herror)
  · rename_i e _ hsource
    exact failsOnly_fail.mpr (h e (by simp [error?, hsource]))
  · refine (failsOnly_text _).append (.join ?_)
    intro f hf
    obtain ⟨i, hi, rfl⟩ := List.mem_mapIdx.mp hf
    exact failsOnly_tuple hP h _ _ _

end Values

/-! ## Queries -/

mutual

/-- All SELECTs and all VALUES lists of a query have a property each, also in nested queries. -/
def Query.Every (P : Select → Prop) (V : Values → Prop) : Query → Prop
  | .mk s ctes members => P s ∧ Cte.EveryOf P V ctes ∧ Member.EveryOf P V members

def Cte.EveryOf (P : Select → Prop) (V : Values → Prop) : List Cte → Prop
  | [] => True
  | c :: rest => c.Every P V ∧ Cte.EveryOf P V rest

def Cte.Every (P : Select → Prop) (V : Values → Prop) : Cte → Prop
  | .query _ q => q.Every P V
  | .values _ v => V v

def Member.EveryOf (P : Select → Prop) (V : Values → Prop) : List Member → Prop
  | [] => True
  | .mk _ q :: rest => q.Every P V ∧ Member.EveryOf P V rest

end

/-- A SELECT that was built without an error, and with relations that are not too deep. -/
def Select.Renders (s : Select) : Prop :=
  s.error = none ∧ ∀ e, .error e ∉ s.visits

/-! ### What is asked of the dialect -/

/-- What a query needs for its own clauses. Counting needs no lock. -/
def Query.Needs (form : Form) (q : Query) : Feature → Prop
  | .cte => q.ctes ≠ []
  | .distinctOn => q.select.distinctOn ≠ []
  | .selectFor => form = .rows ∧ q.select.lock ≠ none
  | .returning => False
  | .valuesRow => False
  | .castOperator => False

/-- What a query needs for itself or for a query in it. -/
def Query.Asks (form : Form) (q : Query) (f : Feature) : Prop :=
  q.Needs form f ∨ ∃ body, q.HasPart (.query body) ∧ body.Needs .rows f

theorem Query.Asks.of_part {form : Form} {q body : Query} {f : Feature}
    (part : q.HasPart (.query body)) (h : body.Asks .rows f) : q.Asks form f := by
  obtain own | ⟨inner, further, needs⟩ := h
  · exact .inr ⟨body, part, own⟩
  · exact .inr ⟨inner, part.trans further, needs⟩

section

variable {P : RenderError → Prop} (t : Target)

theorem failsOnly_wrapped (form : Form) (s : Select) {f : Fragment} (h : f.FailsOnly P) :
    (if form = .count ∧ s.needsCountWrapper then countWrapper t f else f).FailsOnly P := by
  split
  · unfold countWrapper
    split
    · exact ((((failsOnly_text _).append h.parens).append (failsOnly_text _)).append
        (failsOnly_text _)).append (failsOnly_text _)
    · exact ((((failsOnly_text _).append (failsOnly_text _)).append (failsOnly_text _)).append
        h.parens).append (failsOnly_text _)
  · exact h

/-- Errors of a kind may say that a feature is missing which a nested query asks for. -/
def Query.MayLack (t : Target) (P : RenderError → Prop) (body : Query) : Prop :=
  ∀ f, body.Asks .rows f → t.MayLack P f

mutual

/-- If what a query was built with, and the walk through its relations, can only go wrong as errors
of a kind, or not at all, then so can the query, as far as it has the features that it asks for. -/
theorem Query.failsOnly_fragment (hP : ∀ e, RenderError.OfTemplate e → P e) (form : Form)
    {q : Query} (h : (∀ e, P (.build e)) ∨ q.Every Select.Renders (·.error? = none))
    (need : ∀ f, q.Asks form f → t.MayLack P f) : (q.fragment t form).FailsOnly P := by
  obtain ⟨s, ctes, members⟩ := q
  rw [Query.Every] at h
  have built : ∀ e, s.error = some e → P (.build e) := by
    intro e some
    rcases h with all | ⟨⟨none, -⟩, -⟩
    · exact all e
    · rw [none] at some
      cases some
  have walk : ∀ e, .error e ∈ s.visits → P (.build e) := by
    intro e mem
    rcases h with all | ⟨⟨-, walk⟩, -⟩
    · exact all e
    · exact absurd mem (walk e)
  rw [Query.fragment]
  cases herror : s.error with
  | some e => exact failsOnly_fail.mpr (built e herror)
  | none =>
    have before := failsOnly_withClause hP (h.imp_right (·.2.1)) (fun some => need .cte (.inl some))
      fun name q mem f asks => by
        have part : (Query.mk s ctes members).HasPart (.query q) := .cte mem
        exact need f (.of_part part asks)
    have own := Select.failsOnly_fragment t hP form walk
      (fun given => need .distinctOn (.inl given))
      fun rows given => need .selectFor (.inl ⟨rows, given⟩)
    have first := before.append own
    cases members with
    | nil => exact failsOnly_wrapped t form s first
    | cons m rest =>
      have further := failsOnly_memberFragments hP (h.imp_right (·.2.2))
        fun operator q mem f asks => need f (.of_part (.member mem) asks)
      exact failsOnly_wrapped t form s (first.parens.append further)

theorem failsOnly_withClause (hP : ∀ e, RenderError.OfTemplate e → P e) {ctes : List Cte}
    (h : (∀ e, P (.build e)) ∨ Cte.EveryOf Select.Renders (·.error? = none) ctes)
    (own : ctes ≠ [] → t.MayLack P .cte)
    (need : ∀ name q, .query name q ∈ ctes → q.MayLack t P) :
    (withClause t ctes).FailsOnly P := by
  cases ctes with
  | nil =>
    rw [withClause]
    exact failsOnly_empty
  | cons c rest =>
    rw [Cte.EveryOf] at h
    rw [withClause]
    have feature := Target.failsOnly_require (own (List.cons_ne_nil c rest))
    have first := Cte.failsOnly_fragment hP (h.imp_right (·.1))
      fun name q same => need name q (same ▸ List.mem_cons_self)
    have others := failsOnly_furtherCtes hP (h.imp_right (·.2))
      fun name q mem => need name q (List.mem_cons_of_mem c mem)
    exact (((feature.append (failsOnly_text _)).append first).append others).append
      (failsOnly_text _)

theorem failsOnly_furtherCtes (hP : ∀ e, RenderError.OfTemplate e → P e) {ctes : List Cte}
    (h : (∀ e, P (.build e)) ∨ Cte.EveryOf Select.Renders (·.error? = none) ctes)
    (need : ∀ name q, .query name q ∈ ctes → q.MayLack t P) :
    (furtherCtes t ctes).FailsOnly P := by
  cases ctes with
  | nil =>
    rw [furtherCtes]
    exact failsOnly_empty
  | cons c rest =>
    rw [Cte.EveryOf] at h
    rw [furtherCtes]
    have first := Cte.failsOnly_fragment hP (h.imp_right (·.1))
      fun name q same => need name q (same ▸ List.mem_cons_self)
    have others := failsOnly_furtherCtes hP (h.imp_right (·.2))
      fun name q mem => need name q (List.mem_cons_of_mem c mem)
    exact ((failsOnly_text _).append first).append others

theorem Cte.failsOnly_fragment (hP : ∀ e, RenderError.OfTemplate e → P e) {c : Cte}
    (h : (∀ e, P (.build e)) ∨ c.Every Select.Renders (·.error? = none))
    (need : ∀ name q, c = .query name q → q.MayLack t P) : (c.fragment t).FailsOnly P := by
  cases c with
  | query name q =>
    rw [Cte.Every] at h
    rw [Cte.fragment]
    exact (failsOnly_text _).append (Query.failsOnly_fragment hP .rows h (need name q rfl)).parens
  | values name v =>
    rw [Cte.Every] at h
    have built : ∀ e, v.error? = some e → P (.build e) := by
      intro e some
      rcases h with all | none
      · exact all e
      · rw [none] at some
        cases some
    rw [Cte.fragment]
    exact (((failsOnly_text _).append (Values.failsOnly_columns built).parens).append
      (failsOnly_text _)).append (Values.failsOnly_fragment hP built).parens

theorem failsOnly_memberFragments (hP : ∀ e, RenderError.OfTemplate e → P e)
    {members : List Member}
    (h : (∀ e, P (.build e)) ∨ Member.EveryOf Select.Renders (·.error? = none) members)
    (need : ∀ operator q, .mk operator q ∈ members → q.MayLack t P) :
    (memberFragments t members).FailsOnly P := by
  cases members with
  | nil =>
    rw [memberFragments]
    exact failsOnly_empty
  | cons m rest =>
    obtain ⟨operator, q⟩ := m
    rw [Member.EveryOf] at h
    rw [memberFragments]
    have first := Query.failsOnly_fragment hP .rows (h.imp_right (·.1))
      (need operator q List.mem_cons_self)
    have others := failsOnly_memberFragments hP (h.imp_right (·.2))
      fun operator q mem => need operator q (List.mem_cons_of_mem _ mem)
    exact ((failsOnly_text _).append first.parens).append others

end

/-- A query of such SELECTs, with VALUES lists that were built without an error, goes wrong in a
clause. -/
theorem Query.failsAsClause_fragment (form : Form) {q : Query}
    (h : q.Every Select.Renders (·.error? = none)) : (q.fragment t form).FailsAsClause :=
  Query.failsOnly_fragment t (fun _ clause => clause.ofClause) form (.inr h)
    fun _ _ _ => .unsupported _ _

/-! ## Queries that are rendered -/

theorem JoinTree.not_error_mem_of_leftJoins {d : Dialect} {names : Template.Names}
    {vs : List Visit} (h : (leftJoins d names vs).error? = none) : ∀ e, .error e ∉ vs := by
  induction vs with
  | nil => simp
  | cons v rest ih =>
    cases v with
    | error e => simp [leftJoins] at h
    | ok j =>
      rw [leftJoins, error?_append, Option.or_eq_none_iff] at h
      simpa using ih h.2

theorem Select.not_error_mem_of_fragment {s : Select} {form : Form}
    (h : (s.fragment t form).error? = none) : ∀ e, .error e ∉ s.visits := by
  simp only [fragment, joinClauses, error?_append, Option.or_eq_none_iff] at h
  obtain ⟨⟨⟨⟨⟨_, joined, _⟩, _⟩, _⟩, _⟩, _⟩ := h
  exact JoinTree.not_error_mem_of_leftJoins joined

theorem Values.error?_eq_none_of_fragment {v : Values} (h : (v.fragment t).error? = none) :
    v.error? = none := by
  cases herror : v.error? with
  | none => rfl
  | some e => simp [fragment, herror] at h

theorem error?_wrapped (form : Form) (s : Select) (f : Fragment) :
    (if form = .count ∧ s.needsCountWrapper then countWrapper t f else f).error? = f.error? := by
  split
  · unfold countWrapper
    split <;> simp [rowCount]
  · rfl

/-- What is written for a query was built without an error, and written in all its parts. -/
theorem Query.parts_of_error?_eq_none {form : Form} {s : Select} {ctes : List Cte}
    {members : List Member} (h : ((mk s ctes members).fragment t form).error? = none) :
    s.error = none ∧ (withClause t ctes).error? = none ∧ (s.fragment t form).error? = none ∧
      (memberFragments t members).error? = none := by
  rw [Query.fragment] at h
  cases herror : s.error with
  | some e => simp [herror] at h
  | none =>
    simp only [herror, error?_wrapped] at h
    cases members with
    | nil =>
      rw [error?_append, Option.or_eq_none_iff] at h
      exact ⟨rfl, h.1, h.2, by simp [memberFragments]⟩
    | cons m rest =>
      rw [error?_append, error?_parens, error?_append, Option.or_eq_none_iff,
        Option.or_eq_none_iff] at h
      exact ⟨rfl, h.1.1, h.1.2, h.2⟩

mutual

/-- A query that is rendered was built without an error, and its relations are not too deep, in
every nested query too. -/
theorem Query.every_of_error?_eq_none {form : Form} {q : Query}
    (h : (q.fragment t form).error? = none) : q.Every Select.Renders (·.error? = none) := by
  obtain ⟨s, ctes, members⟩ := q
  obtain ⟨built, before, own, further⟩ := Query.parts_of_error?_eq_none t h
  rw [Query.Every]
  exact ⟨⟨built, Select.not_error_mem_of_fragment t own⟩, everyOf_of_withClause before,
    everyOf_of_memberFragments further⟩

theorem everyOf_of_withClause {ctes : List Cte} (h : (withClause t ctes).error? = none) :
    Cte.EveryOf Select.Renders (·.error? = none) ctes := by
  cases ctes with
  | nil => simp [Cte.EveryOf]
  | cons c rest =>
    simp only [withClause, error?_append, Option.or_eq_none_iff] at h
    rw [Cte.EveryOf]
    exact ⟨Cte.every_of_error?_eq_none h.1.1.2, everyOf_of_furtherCtes h.1.2⟩

theorem everyOf_of_furtherCtes {ctes : List Cte} (h : (furtherCtes t ctes).error? = none) :
    Cte.EveryOf Select.Renders (·.error? = none) ctes := by
  cases ctes with
  | nil => simp [Cte.EveryOf]
  | cons c rest =>
    simp only [furtherCtes, error?_append, Option.or_eq_none_iff] at h
    rw [Cte.EveryOf]
    exact ⟨Cte.every_of_error?_eq_none h.1.2, everyOf_of_furtherCtes h.2⟩

theorem Cte.every_of_error?_eq_none {c : Cte} (h : (c.fragment t).error? = none) :
    c.Every Select.Renders (·.error? = none) := by
  cases c with
  | query name q =>
    rw [Cte.fragment, error?_append, error?_parens, Option.or_eq_none_iff] at h
    rw [Cte.Every]
    exact Query.every_of_error?_eq_none h.2
  | values name v =>
    rw [Cte.fragment, error?_append, error?_parens, Option.or_eq_none_iff] at h
    rw [Cte.Every]
    exact Values.error?_eq_none_of_fragment t h.2

theorem everyOf_of_memberFragments {members : List Member}
    (h : (memberFragments t members).error? = none) :
    Member.EveryOf Select.Renders (·.error? = none) members := by
  cases members with
  | nil => simp [Member.EveryOf]
  | cons m rest =>
    obtain ⟨operator, q⟩ := m
    simp only [memberFragments, error?_append, error?_parens, Option.or_eq_none_iff] at h
    rw [Member.EveryOf]
    exact ⟨Query.every_of_error?_eq_none h.1.2, everyOf_of_memberFragments h.2⟩

end

end

end SqlCompose
