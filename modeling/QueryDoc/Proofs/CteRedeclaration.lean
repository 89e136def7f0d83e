import QueryDoc.Proofs.CteScope
import QueryDoc.Proofs.NestedSelects

/-!
Where a select nested in compiled SQL declares common table expressions again.

A select compiled in a scope declares only names outside it, and compiles the selects inside
it in the scope of every name it declares. So a nested select (a derived table, the select of
an `In` or `Exists` condition, a declaration's body, a combined select) declares no name that
a `with` list around it already declares where it stands (`FreshDecls`), as long as no
combined select has combined selects of its own (`Select.combinesNested`). The invariant of one
select's declarations is `DeclFresh`, carried through the compiler's mutual recursion.

The common table expressions of a combined select's own combined selects are met only when it
is compiled, after the source and conditions, and moved to the outer list, which those see
too: a derived table reading `x`, in a select whose combined select is combined with a select
from `x`, declares `x` while the outer list does as well (`derivedThenNestedCombine`).

Main statements: `nested_ctes_fresh_without_nested_combines`, and
`ofCte_declares_inner_then_itself` for a select from a common table expression.
-/

namespace QueryDoc

/-! ### Combined selects with combined selects of their own -/

mutual

/-- A select inside the value has a combined select with combined selects of its own. -/
def Value.combinesNested : Value → Bool
  | .list vs => Value.listCombinesNested vs
  | .query s => s.combinesNested
  | _ => false

/-- Some value of the list has a combined select with combined selects of its own. -/
def Value.listCombinesNested : List Value → Bool
  | [] => false
  | v :: vs => v.combinesNested || Value.listCombinesNested vs

/-- The value of the condition has a combined select with combined selects of its own. -/
def Expression.combinesNested : Expression → Bool
  | ⟨_, value, _, _, _⟩ => value.combinesNested

/-- Some condition of the list has a combined select with combined selects of its own. -/
def Expression.listCombinesNested : List Expression → Bool
  | [] => false
  | e :: es => e.combinesNested || Expression.listCombinesNested es

/-- A condition of the filter or of its subgroups has a combined select with combined selects
of its own. -/
def Filter.combinesNested : Filter → Bool
  | ⟨es, fs, _⟩ => Expression.listCombinesNested es || Filter.listCombinesNested fs

/-- Some filter of the list has a combined select with combined selects of its own. -/
def Filter.listCombinesNested : List Filter → Bool
  | [] => false
  | f :: fs => f.combinesNested || Filter.listCombinesNested fs

/-- The body of the common table expression has a combined select with combined selects of
its own. -/
def Cte.combinesNested : Cte → Bool
  | ⟨_, .select s⟩ => s.combinesNested
  | ⟨_, .rawSql _⟩ => false

/-- Some common table expression of the list has a combined select with combined selects of
its own. -/
def Cte.listCombinesNested : List Cte → Bool
  | [] => false
  | c :: cs => c.combinesNested || Cte.listCombinesNested cs

/-- The source has a combined select with combined selects of its own. -/
def Source.combinesNested : Source → Bool
  | .table _ => false
  | .derived ⟨s, _⟩ => s.combinesNested
  | .cte c => c.combinesNested

/-- The join's source or conditions have a combined select with combined selects of its own. -/
def Join.combinesNested : Join → Bool
  | ⟨target, on, es, _⟩ =>
    target.combinesNested || on.combinesNested || Expression.listCombinesNested es

/-- Some join of the list has a combined select with combined selects of its own. -/
def Join.listCombinesNested : List Join → Bool
  | [] => false
  | j :: js => j.combinesNested || Join.listCombinesNested js

/-- Some combined select of the list has combined selects of its own, or such a select
inside it. -/
def Combine.listCombinesNested : List Combine → Bool
  | [] => false
  | ⟨s, _⟩ :: cs => !s.combines.isEmpty || s.combinesNested || Combine.listCombinesNested cs

/-- An optional source has a combined select with combined selects of its own. -/
def Source.optCombinesNested : Option Source → Bool
  | some src => src.combinesNested
  | none => false

/-- An optional filter has a combined select with combined selects of its own. -/
def Filter.optCombinesNested : Option Filter → Bool
  | some f => f.combinesNested
  | none => false

/-- Somewhere in the select, a combined select has combined selects of its own. -/
def Select.combinesNested : Select → Bool
  | ⟨ctes, source, _, joins, filter, _, having, _, combines⟩ =>
    Cte.listCombinesNested ctes || Source.optCombinesNested source ||
      Join.listCombinesNested joins || Filter.optCombinesNested filter ||
      Filter.optCombinesNested having || Combine.listCombinesNested combines

end

/-- Somewhere in the statement, a combined select has combined selects of its own. -/
def Statement.combinesNested : Statement → Bool
  | .select s => s.combinesNested
  | .insert s =>
    Value.listCombinesNested (s.fields.map (·.value)) ||
      (s.query.map Select.combinesNested).getD false
  | .update s =>
    Value.listCombinesNested (s.fields.map (·.value)) || Expression.listCombinesNested s.filters
  | .delete s => Expression.listCombinesNested s.filters

theorem Select.combinesNested_eq_false {s : Select} :
    s.combinesNested = false ↔
      Cte.listCombinesNested s.ctes = false ∧ Source.optCombinesNested s.source = false ∧
        Join.listCombinesNested s.joins = false ∧ Filter.optCombinesNested s.filter = false ∧
        Filter.optCombinesNested s.having = false ∧ Combine.listCombinesNested s.combines = false := by
  obtain ⟨⟩ := s
  simp [Select.combinesNested, and_assoc]

theorem Combine.listCombinesNested_cons_eq_false {s : Select} {op : SetOperation}
    {cs : List Combine} :
    Combine.listCombinesNested (⟨s, op⟩ :: cs) = false ↔
      s.combines = [] ∧ s.combinesNested = false ∧ Combine.listCombinesNested cs = false := by
  simp [Combine.listCombinesNested, and_assoc]

/-- The name of the common table expression a source reads, if it reads one. -/
def Source.cteName? : Source → Option String
  | .cte c => some c.aliasName
  | _ => none

/-- The names a select declares of its own: its common table expressions, the one it reads
from and those it joins. -/
def Select.ownCteNames (s : Select) : List String :=
  s.ctes.map Cte.aliasName ++ (s.source.bind Source.cteName?).toList ++
    s.joins.filterMap (·.target.cteName?)

theorem Select.ownCteNames_subset {s : Select} {scope : List String} :
    s.ownCteNames ⊆ scope ↔
      (∀ c ∈ s.ctes, c.aliasName ∈ scope) ∧ (∀ c, s.source = some (.cte c) → c.aliasName ∈ scope) ∧
        ∀ j ∈ s.joins, ∀ c, j.target = .cte c → c.aliasName ∈ scope := by
  constructor
  · intro h
    refine ⟨fun c hc => h ?_, fun c hc => h ?_, fun j hj c hc => h ?_⟩
    · simp only [Select.ownCteNames, List.mem_append]
      exact .inl (.inl (List.mem_map_of_mem hc))
    · simp [Select.ownCteNames, hc, Source.cteName?]
    · simp only [Select.ownCteNames, List.mem_append, List.mem_filterMap]
      exact .inr ⟨j, hj, by rw [hc]; rfl⟩
  · rintro ⟨hctes, hsrc, hjoins⟩ n hn
    simp only [Select.ownCteNames, List.mem_append, List.mem_map, List.mem_filterMap,
      Option.mem_toList, Option.bind_eq_some_iff] at hn
    rcases hn with (⟨c, hc, rfl⟩ | ⟨src, hsource, hname⟩) | ⟨j, hj, hname⟩
    · exact hctes c hc
    · cases src with
      | cte c =>
        cases hname
        exact hsrc c hsource
      | table _ | derived _ => cases hname
    · cases htarget : j.target with
      | cte c =>
        rw [htarget] at hname
        cases hname
        exact hjoins j hj c htarget
      | table _ | derived _ =>
        rw [htarget] at hname
        cases hname

end QueryDoc

namespace QueryDoc.Sql

/-! ### The selects of a statement, and fresh declarations -/

/-- The selects of the rows an insert writes. -/
def InsertRows.selects : InsertRows → List (List String × Query)
  | .values rows => rows.flatMap Expr.listSelects
  | .query q => q.selects

/-- Every select of a statement, with the names declared around it where it stands; the rows
of an insert see the insert's `with` list. -/
def Stmt.selects : Stmt → List (List String × Query)
  | .select q => q.selects
  | .insert ⟨ctes, _, _, rows⟩ =>
    CteDef.listSelects ctes ++ rows.selects.map (underNames (ctes.map CteDef.name))
  | .update ⟨_, set, filter⟩ => Expr.listSelects (set.map Prod.snd) ++ Expr.optSelects filter
  | .delete ⟨_, filter⟩ => Expr.optSelects filter

theorem Expr.listSelects_eq_nil {es : List Expr} (h : ∀ e ∈ es, e.selects = []) :
    Expr.listSelects es = [] := by
  induction es with
  | nil => rfl
  | cons e es ih =>
    simp only [Expr.listSelects, h e List.mem_cons_self,
      ih fun e' he' => h e' (List.mem_cons_of_mem _ he'), List.append_nil]

/-- The `with` lists of the selects in `xs` declare no name in scope where they stand: none of
`scope`, and none declared around them. -/
def FreshDecls (scope : List String) (xs : List (List String × Query)) : Prop :=
  ∀ x ∈ xs, ∀ d ∈ x.2.ctes, d.name ∉ scope ∧ d.name ∉ x.1

@[simp] theorem freshDecls_nil (scope : List String) : FreshDecls scope [] :=
  fun _ h => absurd h List.not_mem_nil

@[simp] theorem freshDecls_append {scope : List String} {xs ys : List (List String × Query)} :
    FreshDecls scope (xs ++ ys) ↔ FreshDecls scope xs ∧ FreshDecls scope ys :=
  List.forall_mem_append

@[simp] theorem freshDecls_cons {scope : List String} {x : List String × Query}
    {xs : List (List String × Query)} :
    FreshDecls scope (x :: xs) ↔
      (∀ d ∈ x.2.ctes, d.name ∉ scope ∧ d.name ∉ x.1) ∧ FreshDecls scope xs :=
  List.forall_mem_cons

/-- Selects fresh in a scope that holds a `with` list's names are fresh under that list. -/
theorem FreshDecls.under {scope ns : List String} {xs : List (List String × Query)}
    (h : FreshDecls (scope ++ ns) xs) : FreshDecls scope (xs.map (underNames ns)) := by
  intro x hx d hd
  obtain ⟨y, hy, rfl⟩ := List.mem_map.1 hx
  have hfresh := h y hy d hd
  simp only [List.mem_append, not_or] at hfresh
  simpa [underNames] using ⟨hfresh.1.1, hfresh.1.2, hfresh.2⟩

end QueryDoc.Sql

namespace QueryDoc.Compile

open Sql

/-! ### The declarations of one select -/

/-- What the declarations of one select keep, against the scope around it: the names in scope
are those of `scope` and of the declarations, no declaration has a name of `scope`, and the
selects in the declared bodies are fresh. -/
structure DeclFresh (scope : List String) (d : Declared) : Prop where
  names : d.1 = scope ++ d.2.map CteDef.name
  outside : ∀ x ∈ d.2, x.name ∉ scope
  bodies : FreshDecls scope (CteDef.listSelects d.2)

theorem declFresh_start (scope : List String) : DeclFresh scope (scope, []) where
  names := by simp
  outside := fun _ h => absurd h List.not_mem_nil
  bodies := freshDecls_nil scope

/-- A new name, declared with a body whose selects are fresh in the names so far, keeps the
invariant. -/
theorem DeclFresh.declare {scope : List String} {d : Declared} (hd : DeclFresh scope d)
    {name : String} (hname : name ∉ d.1) {body : CteBody}
    (hbody : FreshDecls d.1 body.selects) :
    DeclFresh scope (d.1 ++ [name], d.2 ++ [⟨name, body⟩]) where
  names := by simp [hd.names]
  outside := by
    refine List.forall_mem_append.2 ⟨hd.outside, List.forall_mem_singleton.2 ?_⟩
    intro hin
    exact hname (hd.names ▸ List.mem_append_left _ hin)
  bodies := by
    rw [CteDef.listSelects_append, freshDecls_append]
    refine ⟨hd.bodies, FreshDecls.under ?_⟩
    simpa [CteDef.listSelects, ← hd.names] using hbody

/-- A select whose `with` list is a fresh set of declarations, and whose rest was compiled in
the scope of all of them, is fresh. -/
theorem DeclFresh.query {scope : List String} {d : Declared} (hd : DeclFresh scope d)
    {q : Query} (hctes : q.ctes = d.2) (hrest : FreshDecls d.1 q.restSelects) :
    FreshDecls scope q.selects := by
  rw [Query.selects_eq, freshDecls_cons, freshDecls_append, hctes]
  refine ⟨fun x hx => ⟨hd.outside x hx, List.not_mem_nil⟩, hd.bodies, FreshDecls.under ?_⟩
  rwa [← hd.names]

/-! ### Names the declaration steps put in scope -/

theorem declareSourceCteWith_cteRef : declareSourceCteWith cteRef = declareSourceCte := by
  delta declareSourceCteWith declareSourceCte
  rfl

theorem declareJoinCtesWith_cteRef : declareJoinCtesWith cteRef = declareJoinCtes := by
  delta declareJoinCtesWith declareJoinCtes
  rfl

theorem declareCtes_names :
    ∀ {d d' : Declared} {cs : List Cte}, declareCtes d cs = .ok d' →
      (∀ c ∈ cs, c.aliasName ∈ d'.1) ∧ d.1 ⊆ d'.1
  | _, _, [], h => by
    cases h
    exact ⟨fun _ h => absurd h List.not_mem_nil, List.Subset.refl _⟩
  | _, _, c :: cs, h => by
    obtain ⟨d₁, h₁, h⟩ := Result.bind_eq_ok.1 h
    obtain ⟨hc, hsub₁⟩ := declareCteWith_names (declareCteWith_cteRef ▸ h₁)
    obtain ⟨hcs, hsub⟩ := declareCtes_names h
    exact ⟨List.forall_mem_cons.2 ⟨hsub hc, hcs⟩, List.Subset.trans hsub₁ hsub⟩

/-- Before compiling anything, a select declares the names its combined selects declare of
their own. -/
theorem declareCombineCtes_names :
    ∀ {d d' : Declared} {cs : List Combine}, declareCombineCtes d cs = .ok d' →
      (∀ c ∈ cs, c.select.ownCteNames ⊆ d'.1) ∧ d.1 ⊆ d'.1
  | _, _, [], h => by
    cases h
    exact ⟨fun _ h => absurd h List.not_mem_nil, List.Subset.refl _⟩
  | _, _, ⟨⟨ctes, source, _, joins, _, _, _, _, _⟩, _⟩ :: cs, h => by
    obtain ⟨d₁, h₁, h⟩ := Result.bind_eq_ok.1 h
    obtain ⟨d₂, h₂, h⟩ := Result.bind_eq_ok.1 h
    obtain ⟨d₃, h₃, h⟩ := Result.bind_eq_ok.1 h
    obtain ⟨hctes, hsub₁⟩ := declareCtes_names h₁
    obtain ⟨hsub₂, hsrc⟩ := declareSourceCteWith_names (declareSourceCteWith_cteRef ▸ h₂)
    obtain ⟨hsub₃, hjoins⟩ := declareJoinCtesWith_names (declareJoinCtesWith_cteRef ▸ h₃)
    obtain ⟨hcs, hsub⟩ := declareCombineCtes_names h
    -- the head's names are declared by `d₃`, and stay declared through the rest
    refine ⟨List.forall_mem_cons.2 ⟨List.Subset.trans
        (Select.ownCteNames_subset.2 ⟨fun c hc => ?_, fun c hc => ?_, hjoins⟩) hsub, hcs⟩,
      List.Subset.trans hsub₁ (List.Subset.trans hsub₂ (List.Subset.trans hsub₃ hsub))⟩
    · exact hsub₃ (hsub₂ (hctes c hc))
    · exact hsub₃ (hsrc c hc)

/-- A name already in scope is not declared again. -/
theorem declareCte_of_mem {d d' : Declared} {c : Cte} (hin : c.aliasName ∈ d.1)
    (h : declareCte d c = .ok d') : d' = d := by
  rcases declareCte_eq_ok h with ⟨-, rfl⟩ | ⟨hnot, -⟩
  · rfl
  · exact absurd hin hnot

theorem declareCtes_of_mem :
    ∀ {d d' : Declared} {cs : List Cte}, (∀ c ∈ cs, c.aliasName ∈ d.1) →
      declareCtes d cs = .ok d' → d' = d
  | _, _, [], _, h => by
    cases h
    rfl
  | _, _, c :: cs, hin, h => by
    obtain ⟨d₁, h₁, h⟩ := Result.bind_eq_ok.1 h
    cases declareCte_of_mem (hin c List.mem_cons_self) h₁
    exact declareCtes_of_mem (fun c' hc' => hin c' (List.mem_cons_of_mem _ hc')) h

theorem declareSourceCte_of_mem :
    ∀ {d d' : Declared} {src : Option Source},
      (∀ c, src = some (.cte c) → c.aliasName ∈ d.1) → declareSourceCte d src = .ok d' → d' = d
  | _, _, some (.cte c), hin, h => declareCte_of_mem (hin c rfl) h
  | _, _, none, _, h | _, _, some (.table _), _, h | _, _, some (.derived _), _, h => by
    cases h
    rfl

theorem declareJoinCtes_of_mem :
    ∀ {d d' : Declared} {js : List Join},
      (∀ j ∈ js, ∀ c, j.target = .cte c → c.aliasName ∈ d.1) →
      declareJoinCtes d js = .ok d' → d' = d
  | _, _, [], _, h => by
    cases h
    rfl
  | _, _, ⟨.cte c, _, _, _⟩ :: js, hin, h => by
    obtain ⟨d₁, h₁, h⟩ := Result.bind_eq_ok.1 h
    cases declareCte_of_mem (hin _ List.mem_cons_self c rfl) h₁
    exact declareJoinCtes_of_mem (fun j hj => hin j (List.mem_cons_of_mem _ hj)) h
  | d, _, ⟨.table _, _, _, _⟩ :: js, hin, h | d, _, ⟨.derived _, _, _, _⟩ :: js, hin, h => by
    have h : declareJoinCtes d js = _ := h
    exact declareJoinCtes_of_mem (fun j hj => hin j (List.mem_cons_of_mem _ hj)) h

/-- A select with no combined selects, whose own names are all in scope, compiles with no
`with` list and no set operations. -/
theorem compileSelect_flat {scope : List String} {s : Select} {q : Query}
    (hcombines : s.combines = []) (hown : s.ownCteNames ⊆ scope)
    (h : compileSelect scope s = .ok q) : q.ctes = [] ∧ q.setOps = [] := by
  obtain ⟨hctes, hsrc, hjoins⟩ := Select.ownCteNames_subset.1 hown
  obtain ⟨ctes, source, fields, joins, filter, groupBys, having, sorts, combines⟩ := s
  cases hcombines
  obtain ⟨d₁, d₂, d₃, d, src, src', flt, hv, h₁, h₂, h₃, h₄, -, -, -, -, h⟩ :=
    compileSelect_steps h
  -- every name the select declares is in scope already: each step declares nothing
  cases declareCtes_of_mem hctes h₁
  cases declareSourceCte_of_mem hsrc h₂
  cases declareJoinCtes_of_mem hjoins h₃
  cases h₄
  cases h
  exact ⟨rfl, rfl⟩

/-- A combined select compiled with no `with` list and no set operations is appended as it
is. -/
theorem combine_flat {stmt member : Query} (op : SetOperation) (i : Nat)
    (hctes : member.ctes = []) (hsets : member.setOps = []) :
    ({ stmt with
      ctes := hoistCtes stmt.ctes member.ctes
      setOps := stmt.setOps ++ [⟨op, memberForm member i⟩] } : Query) =
      { stmt with setOps := stmt.setOps ++ [⟨op, member⟩] } := by
  have hform : memberForm member i = member := by
    obtain ⟨⟩ := member
    simp_all [memberForm]
  rw [hform, hctes]
  rfl

/-- Appending a select fresh in the scope of the outer select's list keeps the tree fresh. -/
theorem combine_fresh {outer : List String} {stmt member : Query} (op : SetOperation)
    (hstmt : FreshDecls outer stmt.selects)
    (hmember : FreshDecls (outer ++ stmt.ctes.map CteDef.name) member.selects) :
    FreshDecls outer ({ stmt with setOps := stmt.setOps ++ [⟨op, member⟩] } : Query).selects := by
  rw [Query.selects_eq] at hstmt ⊢
  simp only [freshDecls_cons, freshDecls_append] at hstmt ⊢
  refine ⟨hstmt.1, hstmt.2.1, fun x hx => ?_⟩
  obtain ⟨y, hy, rfl⟩ := List.mem_map.1 hx
  rcases Query.mem_restSelects_addSetOp.1 hy with hy | hy
  · exact hstmt.2.2 _ (List.mem_map_of_mem hy)
  · exact FreshDecls.under hmember _ (List.mem_map_of_mem hy)

/-! ### Fresh declarations through the compiler -/

section Fresh

mutual

theorem toPredicate_fresh (scope : List String) (name : String) :
    ∀ (value : Value) (relation : Relation) {p : Predicate}, value.combinesNested = false →
      toPredicate scope name value relation = .ok p → FreshDecls scope p.toExpr.selects
  | .query s, _, _, hv, h => by
    rcases toPredicate_selects h with h0 | ⟨s', q, hs, hq, hsel⟩
    · simp [h0]
    · cases hs
      rw [hsel]
      exact compileSelect_fresh scope s hv hq
  | .null, _, _, _, h | .bool _, _, _, _, h | .integer _, _, _, _, h | .float _, _, _, _, h
  | .text _, _, _, _, h | .list _, _, _, _, h => by
    rcases toPredicate_selects h with h0 | ⟨_, _, hs, -⟩
    · simp [h0]
    · cases hs

theorem appendExpression_fresh (scope : List String) (acc : Option Expr) (c : Connective) :
    ∀ (e : Expression) {r : Option Expr}, e.combinesNested = false →
      FreshDecls scope (Expr.optSelects acc) →
      appendExpression scope acc c e = .ok r → FreshDecls scope (Expr.optSelects r)
  | ⟨name, value, relation, c', raw⟩, _, he, hacc, h => by
    rcases appendExpression_selects h with h | ⟨p, hp, h⟩
    · rwa [h]
    · rw [h, freshDecls_append]
      exact ⟨hacc, toPredicate_fresh scope name value relation he hp⟩

theorem appendExpressions_fresh (scope : List String) :
    ∀ (acc : Option Expr) (first : Bool) (es : List Expression) {r : Option Expr × Bool},
      Expression.listCombinesNested es = false → FreshDecls scope (Expr.optSelects acc) →
      appendExpressions scope acc first es = .ok r → FreshDecls scope (Expr.optSelects r.1)
  | _, _, [], _, _, hacc, h => by
    cases h
    exact hacc
  | acc, first, e :: es, _, hes, hacc, h => by
    simp only [Expression.listCombinesNested, Bool.or_eq_false_iff] at hes
    obtain ⟨acc', hacc', h⟩ := Result.bind_eq_ok.1 h
    exact appendExpressions_fresh scope acc' false es hes.2
      (appendExpression_fresh scope acc _ e hes.1 hacc hacc') h

theorem appendAllAnd_fresh (scope : List String) :
    ∀ (acc : Option Expr) (es : List Expression) {r : Option Expr},
      Expression.listCombinesNested es = false → FreshDecls scope (Expr.optSelects acc) →
      appendAllAnd scope acc es = .ok r → FreshDecls scope (Expr.optSelects r)
  | _, [], _, _, hacc, h => by
    cases h
    exact hacc
  | acc, e :: es, _, hes, hacc, h => by
    simp only [Expression.listCombinesNested, Bool.or_eq_false_iff] at hes
    obtain ⟨acc', hacc', h⟩ := Result.bind_eq_ok.1 h
    exact appendAllAnd_fresh scope acc' es hes.2
      (appendExpression_fresh scope acc _ e hes.1 hacc hacc') h

theorem applyFilter_fresh (scope : List String) :
    ∀ (acc : Option Expr) (f : Filter) {r : Option Expr}, f.combinesNested = false →
      FreshDecls scope (Expr.optSelects acc) → applyFilter scope acc f = .ok r →
      FreshDecls scope (Expr.optSelects r)
  | acc, ⟨es, fs, c⟩, _, hf, hacc, h => by
    simp only [Filter.combinesNested, Bool.or_eq_false_iff] at hf
    obtain ⟨⟨acc', first⟩, hes, h⟩ := Result.bind_eq_ok.1 h
    exact applyChildren_fresh scope acc' first c fs hf.2
      (appendExpressions_fresh scope acc true es hf.1 hacc hes) h

theorem applyChildren_fresh (scope : List String) :
    ∀ (acc : Option Expr) (first : Bool) (c : Connective) (fs : List Filter) {r : Option Expr},
      Filter.listCombinesNested fs = false → FreshDecls scope (Expr.optSelects acc) →
      applyChildren scope acc first c fs = .ok r → FreshDecls scope (Expr.optSelects r)
  | _, _, _, [], _, _, hacc, h => by
    cases h
    exact hacc
  | acc, first, c, f :: fs, _, hfs, hacc, h => by
    simp only [Filter.listCombinesNested, Bool.or_eq_false_iff] at hfs
    obtain ⟨g, hg, h⟩ := Result.bind_eq_ok.1 h
    have hgroup := applyFilter_fresh scope none f hfs.1 (freshDecls_nil scope) hg
    refine applyChildren_fresh scope _ false c fs hfs.2 ?_ h
    rw [optSelects_pushGroup, freshDecls_append]
    exact ⟨hacc, hgroup⟩

theorem compileCondition_fresh (scope : List String) :
    ∀ (f : Option Filter) {r : Option Expr}, Filter.optCombinesNested f = false →
      compileCondition scope f = .ok r → FreshDecls scope (Expr.optSelects r)
  | none, _, _, h => by
    cases h
    exact freshDecls_nil scope
  | some f, _, hf, h => applyFilter_fresh scope none f hf (freshDecls_nil scope) h

theorem declareCte_fresh {outer : List String} :
    ∀ (d : Declared) (c : Cte) {d' : Declared}, c.combinesNested = false → DeclFresh outer d →
      declareCte d c = .ok d' → DeclFresh outer d'
  | d, ⟨aliasName, .select s⟩, _, hc, hd, h => by
    rcases declareCte_eq_ok h with ⟨-, rfl⟩ | ⟨hnot, body, hbody, rfl⟩
    · exact hd
    · obtain ⟨q, hq, rfl⟩ := CteBody.compiledIn_select hbody
      exact hd.declare hnot (compileSelect_fresh d.1 s hc hq)
  | d, ⟨aliasName, .rawSql sql⟩, _, _, hd, h => by
    rcases declareCte_eq_ok h with ⟨-, rfl⟩ | ⟨hnot, body, hbody, rfl⟩
    · exact hd
    · cases body with
      | select q => exact hbody.elim
      | raw text => exact hd.declare hnot (by simp [CteBody.selects])

theorem declareCtes_fresh {outer : List String} :
    ∀ (d : Declared) (cs : List Cte) {d' : Declared}, Cte.listCombinesNested cs = false →
      DeclFresh outer d → declareCtes d cs = .ok d' → DeclFresh outer d'
  | d, [], _, _, hd, h => by
    cases h
    exact hd
  | d, c :: cs, _, hcs, hd, h => by
    simp only [Cte.listCombinesNested, Bool.or_eq_false_iff] at hcs
    obtain ⟨d₁, h₁, h⟩ := Result.bind_eq_ok.1 h
    exact declareCtes_fresh d₁ cs hcs.2 (declareCte_fresh d c hcs.1 hd h₁) h

theorem declareSourceCte_fresh {outer : List String} :
    ∀ (d : Declared) (src : Option Source) {d' : Declared}, Source.optCombinesNested src = false →
      DeclFresh outer d → declareSourceCte d src = .ok d' → DeclFresh outer d'
  | d, some (.cte c), _, hsrc, hd, h => declareCte_fresh d c hsrc hd h
  | d, none, _, _, hd, h | d, some (.table _), _, _, hd, h
  | d, some (.derived _), _, _, hd, h => by
    cases h
    exact hd

theorem declareJoinCtes_fresh {outer : List String} :
    ∀ (d : Declared) (js : List Join) {d' : Declared}, Join.listCombinesNested js = false →
      DeclFresh outer d → declareJoinCtes d js = .ok d' → DeclFresh outer d'
  | d, [], _, _, hd, h => by
    cases h
    exact hd
  | d, ⟨.cte c, on, es, kind⟩ :: js, _, hjs, hd, h => by
    simp only [Join.listCombinesNested, Join.combinesNested, Bool.or_eq_false_iff] at hjs
    obtain ⟨d₁, h₁, h⟩ := Result.bind_eq_ok.1 h
    exact declareJoinCtes_fresh d₁ js hjs.2 (declareCte_fresh d c hjs.1.1.1 hd h₁) h
  | d, ⟨.table _, on, es, kind⟩ :: js, _, hjs, hd, h
  | d, ⟨.derived _, on, es, kind⟩ :: js, _, hjs, hd, h => by
    simp only [Join.listCombinesNested, Bool.or_eq_false_iff] at hjs
    exact declareJoinCtes_fresh d js hjs.2 hd h

theorem declareCombineCtes_fresh {outer : List String} :
    ∀ (d : Declared) (cs : List Combine) {d' : Declared}, Combine.listCombinesNested cs = false →
      DeclFresh outer d → declareCombineCtes d cs = .ok d' → DeclFresh outer d'
  | d, [], _, _, hd, h => by
    cases h
    exact hd
  | d, ⟨⟨ctes, source, _, joins, _, _, _, _, _⟩, _⟩ :: cs, _, hcs, hd, h => by
    obtain ⟨-, hs, hcs⟩ := Combine.listCombinesNested_cons_eq_false.1 hcs
    obtain ⟨hctes, hsrc, hjoins, -⟩ := Select.combinesNested_eq_false.1 hs
    obtain ⟨d₁, h₁, h⟩ := Result.bind_eq_ok.1 h
    obtain ⟨d₂, h₂, h⟩ := Result.bind_eq_ok.1 h
    obtain ⟨d₃, h₃, h⟩ := Result.bind_eq_ok.1 h
    have hd₃ := declareJoinCtes_fresh d₂ joins hjoins
      (declareSourceCte_fresh d₁ source hsrc (declareCtes_fresh d ctes hctes hd h₁) h₂) h₃
    exact declareCombineCtes_fresh d₃ cs hcs hd₃ h

theorem compileSource_fresh (scope : List String) :
    ∀ (src : Source) {f : FromItem}, src.combinesNested = false →
      compileSource scope src = .ok f → FreshDecls scope f.selects
  | .table _, _, _, h => by
    cases h
    simp [FromItem.selects]
  | .derived ⟨s, _⟩, _, hs, h => by
    obtain ⟨q, hq, h⟩ := Result.bind_eq_ok.1 h
    cases h
    exact compileSelect_fresh scope s hs hq
  | .cte ⟨_, _⟩, _, _, h => by
    cases h
    simp [FromItem.selects]

theorem compileOptSource_fresh (scope : List String) :
    ∀ (src : Option Source) {f : Option FromItem}, Source.optCombinesNested src = false →
      compileOptSource scope src = .ok f → FreshDecls scope (FromItem.optSelects f)
  | none, _, _, h => by
    cases h
    exact freshDecls_nil scope
  | some src, _, hsrc, h => by
    obtain ⟨f, hf, h⟩ := Result.bind_eq_ok.1 h
    cases h
    exact compileSource_fresh scope src hsrc hf

theorem compileJoins_fresh (scope : List String) :
    ∀ (left : Option FromItem) (js : List Join) {r : Option FromItem},
      Join.listCombinesNested js = false → FreshDecls scope (FromItem.optSelects left) →
      compileJoins scope left js = .ok r → FreshDecls scope (FromItem.optSelects r)
  | _, [], _, _, hleft, h => by
    cases h
    exact hleft
  | _, ⟨target, on, es, kind⟩ :: js, _, hjs, hleft, h => by
    simp only [Join.listCombinesNested, Join.combinesNested, Bool.or_eq_false_iff] at hjs
    obtain ⟨⟨⟨htarget, -⟩, hes⟩, hjs⟩ := hjs
    obtain ⟨l, right, cond₀, cond, rfl, hright, hcond₀, hcond, h⟩ := compileJoins_cons_eq_ok h
    have hcond' := appendAllAnd_fresh scope cond₀ es hes
      (by rw [hcond₀]; exact freshDecls_nil scope) hcond
    refine compileJoins_fresh scope _ js hjs ?_ h
    simp only [FromItem.optSelects, FromItem.selects, freshDecls_append] at hleft ⊢
    exact ⟨⟨hleft, compileSource_fresh scope target htarget hright⟩, hcond'⟩

/-- The combined selects of a select with no combined selects of their own, each compiled in
the scope of the select's list, come with no `with` list to move out, so the list and its
scope stay as they are. -/
theorem compileCombines_fresh {outer : List String} (scope : List String) :
    ∀ (stmt : Query) (i : Nat) (cs : List Combine) {q : Query},
      Combine.listCombinesNested cs = false → scope = outer ++ stmt.ctes.map CteDef.name →
      (∀ c ∈ cs, c.select.ownCteNames ⊆ scope) → FreshDecls outer stmt.selects →
      compileCombines scope stmt i cs = .ok q → FreshDecls outer q.selects
  | _, _, [], _, _, _, _, hstmt, h => by
    cases h
    exact hstmt
  | stmt, i, ⟨s, op⟩ :: cs, _, hcs, hscope, hown, hstmt, h => by
    obtain ⟨hflat, hs, hcs⟩ := Combine.listCombinesNested_cons_eq_false.1 hcs
    obtain ⟨member, hmember, -, h⟩ := compileCombines_cons_eq_ok h
    obtain ⟨hctes, hsets⟩ := compileSelect_flat hflat (hown _ List.mem_cons_self) hmember
    have hfresh := compileSelect_fresh scope s hs hmember
    rw [hscope] at hfresh
    rw [combine_flat op i hctes hsets] at h
    exact compileCombines_fresh scope { stmt with setOps := stmt.setOps ++ [⟨op, member⟩] } (i + 1)
      cs hcs hscope (fun c hc => hown c (List.mem_cons_of_mem _ hc)) (combine_fresh op hstmt hfresh) h

theorem compileSelect_fresh (scope : List String) :
    ∀ (s : Select) {q : Query}, s.combinesNested = false → compileSelect scope s = .ok q →
      FreshDecls scope q.selects
  | ⟨ctes, source, fields, joins, filter, groupBys, having, sorts, combines⟩, _, hs, h => by
    obtain ⟨hctes, hsrc, hjoins, hflt, hhv, hcs⟩ := Select.combinesNested_eq_false.1 hs
    obtain ⟨d₁, d₂, d₃, d, src, src', flt, hv, h₁, h₂, h₃, h₄, h₅, h₆, h₇, h₈, h⟩ :=
      compileSelect_steps h
    -- the declarations, in the order the select makes them
    have hd := declareCombineCtes_fresh d₃ combines hcs
      (declareJoinCtes_fresh d₂ joins hjoins
        (declareSourceCte_fresh d₁ source hsrc
          (declareCtes_fresh _ ctes hctes (declFresh_start scope) h₁) h₂) h₃) h₄
    refine compileCombines_fresh d.1 _ 0 combines hcs hd.names (declareCombineCtes_names h₄).1
      (hd.query rfl ?_) h
    -- the core select's parts were compiled in the scope of all declarations
    have hsrc' := compileJoins_fresh d.1 src joins hjoins
      (compileOptSource_fresh d.1 source hsrc h₅) h₆
    simp only [Query.restSelects, listSelects_projection, listSelects_map_compileGroupBy,
      listSelects_map_compileSort, SetPart.listSelects, freshDecls_append, freshDecls_nil,
      and_true, true_and]
    exact ⟨⟨hsrc', compileCondition_fresh d.1 filter hflt h₇⟩,
      compileCondition_fresh d.1 having hhv h₈⟩

end

end Fresh

/-! ### Statements -/

theorem compileFlatCondition_fresh {es : List Expression} {r : Option Expr}
    (hes : Expression.listCombinesNested es = false) (h : compileFlatCondition es = .ok r) :
    FreshDecls [] (Expr.optSelects r) := by
  obtain ⟨⟨acc, first⟩, hacc, h⟩ := Result.bind_eq_ok.1 h
  cases h
  exact appendExpressions_fresh [] none true es hes (freshDecls_nil []) hacc

/-- An insert from a query takes the query's `with` list as its own, and its rows see it. -/
theorem compileInsert_fresh {s : Insert} {r : InsertStmt}
    (hs : (s.query.map Select.combinesNested).getD false = false) (h : compileInsert s = .ok r) :
    FreshDecls [] (Stmt.insert r).selects := by
  unfold compileInsert at h
  split at h
  · cases h
  · cases h
  · -- field values: one row of bound parameters
    obtain ⟨row, hrow, h⟩ := Result.bind_eq_ok.1 h
    cases h
    have hrow' : Expr.listSelects row = [] := Expr.listSelects_eq_nil fun e he => by
      obtain ⟨f, p, rfl⟩ := mapM_boundValues_eq hrow e he
      rfl
    simp [Stmt.selects, InsertRows.selects, CteDef.listSelects, hrow']
  · rename_i q hq _
    split at h
    · cases h
    · obtain ⟨compiled, hc, h⟩ := Result.bind_eq_ok.1 h
      cases h
      have hfresh := compileSelect_fresh [] q (by simpa [hq] using hs) hc
      rw [Query.selects_eq] at hfresh
      simp only [freshDecls_cons, freshDecls_append] at hfresh
      simp only [Stmt.selects, InsertRows.selects, Query.selects_withoutCtes, List.map_cons,
        freshDecls_append, freshDecls_cons]
      exact ⟨hfresh.2.1, by simp, hfresh.2.2⟩

theorem compileUpdate_fresh {s : Update} {r : UpdateStmt}
    (hs : Expression.listCombinesNested s.filters = false) (h : compileUpdate s = .ok r) :
    FreshDecls [] (Stmt.update r).selects := by
  unfold compileUpdate at h
  split at h
  · cases h
  · obtain ⟨set, hset, h⟩ := Result.bind_eq_ok.1 h
    obtain ⟨filter, hfilter, h⟩ := Result.bind_eq_ok.1 h
    cases h
    -- the assigned values are bound parameters
    have hset' : Expr.listSelects (set.map Prod.snd) = [] := by
      refine Expr.listSelects_eq_nil fun e he => ?_
      obtain ⟨x, hx, rfl⟩ := List.mem_map.1 he
      obtain ⟨f, p, rfl⟩ := mapM_boundValues_eq hset x hx
      rfl
    simp only [Stmt.selects, hset', List.nil_append]
    exact compileFlatCondition_fresh hs hfilter

theorem compileDelete_fresh {s : Delete} {r : DeleteStmt}
    (hs : Expression.listCombinesNested s.filters = false) (h : compileDelete s = .ok r) :
    FreshDecls [] (Stmt.delete r).selects := by
  obtain ⟨filter, hfilter, h⟩ := Result.bind_eq_ok.1 h
  cases h
  exact compileFlatCondition_fresh hs hfilter

/-- Every select of a compiled statement in which no combined select has combined selects of
its own declares only fresh names. -/
theorem compileStatement_fresh (s : Statement) (hs : s.combinesNested = false) {stmt : Stmt}
    (h : compileStatement s = .ok stmt) : FreshDecls [] stmt.selects := by
  cases s with
  | select s =>
    obtain ⟨q, hq, rfl⟩ := Result.map_eq_ok.1 h
    exact compileSelect_fresh [] s hs hq
  | insert s =>
    simp only [Statement.combinesNested, Bool.or_eq_false_iff] at hs
    obtain ⟨r, hr, rfl⟩ := Result.map_eq_ok.1 h
    exact compileInsert_fresh hs.2 hr
  | update s =>
    simp only [Statement.combinesNested, Bool.or_eq_false_iff] at hs
    obtain ⟨r, hr, rfl⟩ := Result.map_eq_ok.1 h
    exact compileUpdate_fresh hs.2 hr
  | delete s =>
    obtain ⟨r, hr, rfl⟩ := Result.map_eq_ok.1 h
    exact compileDelete_fresh hs hr

/-! ### A select from a common table expression -/

/-- Common table expressions with distinct names, none in scope, are all declared, in
order. -/
theorem declareCtes_distinct :
    ∀ {d d' : Declared} {cs : List Cte}, (cs.map Cte.aliasName).Nodup →
      (∀ c ∈ cs, c.aliasName ∉ d.1) → declareCtes d cs = .ok d' →
      d'.1 = d.1 ++ cs.map Cte.aliasName ∧
        d'.2.map CteDef.name = d.2.map CteDef.name ++ cs.map Cte.aliasName
  | _, _, [], _, _, h => by
    cases h
    simp
  | d, _, c :: cs, hnodup, hout, h => by
    rw [List.map_cons, List.nodup_cons] at hnodup
    obtain ⟨d₁, h₁, h⟩ := Result.bind_eq_ok.1 h
    rcases declareCte_eq_ok h₁ with ⟨hin, -⟩ | ⟨-, body, -, rfl⟩
    · exact absurd hin (hout c List.mem_cons_self)
    · -- the rest is new to the names so far, `c`'s included
      have hout' : ∀ c' ∈ cs, c'.aliasName ∉ d.1 ++ [c.aliasName] := by
        intro c' hc' hin
        rcases List.mem_append.1 hin with hin | hin
        · exact hout c' (List.mem_cons_of_mem _ hc') hin
        · exact hnodup.1 (List.mem_singleton.1 hin ▸ List.mem_map_of_mem hc')
      obtain ⟨hnames, hdecls⟩ := declareCtes_distinct hnodup.2 hout' h
      exact ⟨by simp [hnames], by simp [hdecls]⟩

/-- A select from a common table expression `c`, where the names of `c`'s own select and `c`'s
name are distinct, declares the common table expressions of `c`'s select and then `c`, each
once. -/
theorem ofCte_declares_inner_then_itself (c : Cte)
    (hnodup : ((Select.ofCte c).ctes.map Cte.aliasName ++ [c.aliasName]).Nodup) {q : Query}
    (h : compileSelect [] (Select.ofCte c) = .ok q) :
    q.ctes.map CteDef.name = (Select.ofCte c).ctes.map Cte.aliasName ++ [c.aliasName] := by
  obtain ⟨d₁, d₂, d₃, d, src, src', flt, hv, h₁, h₂, h₃, h₄, -, -, -, -, h⟩ :=
    compileSelect_steps h
  rw [List.nodup_append] at hnodup
  obtain ⟨hinner, -, hdisj⟩ := hnodup
  obtain ⟨hnames, hdecls⟩ := declareCtes_distinct hinner (fun _ _ h => List.not_mem_nil h) h₁
  -- `c` is new after the declarations of its select's own
  have hc : c.aliasName ∉ d₁.1 := by
    rw [hnames]
    intro hin
    exact hdisj _ (by simpa using hin) _ (List.mem_singleton_self _) rfl
  rcases declareCte_eq_ok h₂ with ⟨hin, -⟩ | ⟨-, body, -, rfl⟩
  · exact absurd hin hc
  · cases h₃
    cases h₄
    cases h
    simpa using hdecls

/-! ### Main statement -/

/-- In a statement where no combined select has combined selects of its own, no select nested
in the compiled statement declares, in its own `with` list, a name that a `with` list around it
declares where it stands: the bodies of a list's entries see the entries before them, the rest
of a select sees its whole list, and the rows of an insert see the insert's list. A select
from a common table expression `c`, where the names of `c`'s select and `c`'s name are
distinct, declares the common table expressions of `c`'s select and then `c`, each once. -/
theorem nested_ctes_fresh_without_nested_combines (s : Statement)
    (hs : s.combinesNested = false) {stmt : Stmt} (h : compileStatement s = .ok stmt) :
    (∀ x ∈ stmt.selects, ∀ d ∈ x.2.ctes, d.name ∉ x.1) ∧
      ∀ c : Cte, s = .select (Select.ofCte c) →
        ((Select.ofCte c).ctes.map Cte.aliasName ++ [c.aliasName]).Nodup →
        ∃ q, stmt = .select q ∧
          q.ctes.map CteDef.name = (Select.ofCte c).ctes.map Cte.aliasName ++ [c.aliasName] := by
  refine ⟨fun x hx d hd => (compileStatement_fresh s hs h x hx d hd).2, ?_⟩
  rintro c rfl hnodup
  obtain ⟨q, hq, rfl⟩ := Result.map_eq_ok.1 h
  exact ⟨q, rfl, ofCte_declares_inner_then_itself c hnodup hq⟩

/-- A select from `c1`, a select from `canvas` that lists the raw `c2`. -/
def fromCanvasWithC2 : Statement :=
  .select (Select.ofCte (Cte.ofSelect
    ((Select.ofTable (.new "canvas")).withCte (Cte.ofRaw "select 'a' as col1" "c2")) "c1"))

theorem fromCanvasWithC2_declared_once :
    fromCanvasWithC2.combinesNested = false ∧
      ∃ stmt, compileStatement fromCanvasWithC2 = .ok stmt ∧
        ((∀ x ∈ stmt.selects, ∀ d ∈ x.2.ctes, d.name ∉ x.1) ∧
          ∀ c : Cte, fromCanvasWithC2 = .select (Select.ofCte c) →
            ((Select.ofCte c).ctes.map Cte.aliasName ++ [c.aliasName]).Nodup →
            ∃ q, stmt = .select q ∧
              q.ctes.map CteDef.name = (Select.ofCte c).ctes.map Cte.aliasName ++ [c.aliasName]) :=
  ⟨rfl, _, rfl, nested_ctes_fresh_without_nested_combines fromCanvasWithC2 rfl rfl⟩

/-- A select from a derived table that reads `x`, combined with a select from `t` that is in
turn combined with a select from `x`. -/
def derivedThenNestedCombine : Statement :=
  .select { Select.ofDerived ⟨Select.ofCte (Cte.ofRaw "select 1 as id" "x"), "d"⟩ with
    combines := [⟨{ Select.ofTable (.new "t") with
      combines := [⟨Select.ofCte (Cte.ofRaw "select 1 as id" "x"), .union⟩] }, .union⟩] }

/-- Its common table expressions are named uniquely, yet the derived table declares `x` where
the outer `with` list, which took `x` from the combined select, declares it too. -/
theorem derived_table_redeclares_hoisted_cte :
    CtesUnique derivedThenNestedCombine.allCtes ∧
      ∃ stmt, compileStatement derivedThenNestedCombine = .ok stmt ∧
        ∃ x ∈ stmt.selects, ∃ d ∈ x.2.ctes, d.name ∈ x.1 := by
  have hall : derivedThenNestedCombine.allCtes =
      [Cte.ofRaw "select 1 as id" "x", Cte.ofRaw "select 1 as id" "x"] := rfl
  refine ⟨?_, _, rfl, by decide⟩
  rw [hall]
  intro a ha b hb _
  simp only [List.mem_cons, List.not_mem_nil, or_false, or_self] at ha hb
  rw [ha, hb]

end QueryDoc.Compile
