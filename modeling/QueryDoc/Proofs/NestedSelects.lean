import QueryDoc.Proofs.CteReferences
import QueryDoc.Proofs.ConditionText

/-!
The selects nested in compiled SQL, and the set operations among them.

`Query.selects` lists every select of a compiled select's tree, itself first: the bodies of its
`with` list and the selects of its columns, source, conditions, grouping, set operations and
sorting, each with the common table expressions declared around it. A select in the body of a
`with` list's entry sees the entries before it; the rest of a select sees its whole list.
Each step of the compiler is taken apart once (`toPredicate_selects`,
`compileJoins_cons_eq_ok`, `compileCombines_cons_eq_ok`, `declareCte_eq_ok`), so a property
of the nested selects goes through the compiler's mutual recursion by short cases.

The renderer writes a combined select by its body alone. The compiler never gives one a `with`
list, set operations, sorting or paging (`Query.MembersWhole`): it moves its common table
expressions out, wraps one with set operations of its own in a derived table, refuses one that
sorts and pages only the outermost select. Main statement: `compiled_members_written_whole`.
-/

namespace QueryDoc.Sql

/-! ### The selects of a tree -/

/-- A select seen from under a `with` list: the list's names are declared around it too. -/
def underNames (ns : List String) (x : List String × Query) : List String × Query :=
  (ns ++ x.1, x.2)

@[simp] theorem underNames_fst (ns : List String) (x : List String × Query) :
    (underNames ns x).1 = ns ++ x.1 := rfl

@[simp] theorem underNames_snd (ns : List String) (x : List String × Query) :
    (underNames ns x).2 = x.2 := rfl

@[simp] theorem underNames_nil : underNames [] = id := by
  funext x
  rfl

@[simp] theorem underNames_comp (ns ms : List String) :
    underNames ns ∘ underNames ms = underNames (ns ++ ms) := by
  funext x
  simp [underNames]

mutual

/-- The selects inside an expression. -/
def Expr.selects : Expr → List (List String × Query)
  | .column _ | .literal _ | .bound _ | .raw _ _ => []
  | .binary l _ r => l.selects ++ r.selects
  | .not e | .nested e | .isNull e _ => e.selects
  | .subquery q | .exists q _ => q.selects
  | .inList e items _ => e.selects ++ Expr.listSelects items
  | .inSubquery e q _ => e.selects ++ q.selects
  | .like e p _ => e.selects ++ p.selects

/-- The selects inside a list of expressions. -/
def Expr.listSelects : List Expr → List (List String × Query)
  | [] => []
  | e :: es => e.selects ++ Expr.listSelects es

/-- The selects inside an optional expression. -/
def Expr.optSelects : Option Expr → List (List String × Query)
  | none => []
  | some e => e.selects

/-- The selects inside a select list. -/
def SelectItem.listSelects : List SelectItem → List (List String × Query)
  | [] => []
  | .expr e _ :: items => e.selects ++ SelectItem.listSelects items
  | .star :: items => SelectItem.listSelects items

/-- The selects inside what a select reads from. -/
def FromItem.selects : FromItem → List (List String × Query)
  | .table _ => []
  | .subquery q _ => q.selects
  | .join l _ r on => l.selects ++ r.selects ++ Expr.optSelects on

/-- The selects inside an optional source. -/
def FromItem.optSelects : Option FromItem → List (List String × Query)
  | none => []
  | some f => f.selects

/-- The selects inside a declaration's body. -/
def CteBody.selects : CteBody → List (List String × Query)
  | .select q => q.selects
  | .raw _ => []

/-- The selects inside the bodies of a `with` list: each body also sees the entries before
it. -/
def CteDef.listSelects : List CteDef → List (List String × Query)
  | [] => []
  | ⟨name, body⟩ :: ds => body.selects ++ (CteDef.listSelects ds).map (underNames [name])

/-- The selects inside a list of sort items. -/
def OrderItem.listSelects : List OrderItem → List (List String × Query)
  | [] => []
  | ⟨e, _⟩ :: os => e.selects ++ OrderItem.listSelects os

/-- The selects of set operations, with the selects inside them. -/
def SetPart.listSelects : List SetPart → List (List String × Query)
  | [] => []
  | ⟨_, q⟩ :: ps => q.selects ++ SetPart.listSelects ps

/-- Every select of the tree, itself first, each with the names of the common table
expressions declared around it where it stands. -/
def Query.selects : Query → List (List String × Query)
  | q@⟨ctes, columns, source, filter, groupBy, having, setOps, orderBy, _, _⟩ =>
    ([], q) :: (CteDef.listSelects ctes ++
      (SelectItem.listSelects columns ++ FromItem.optSelects source ++ Expr.optSelects filter ++
        Expr.listSelects groupBy ++ Expr.optSelects having ++ SetPart.listSelects setOps ++
        OrderItem.listSelects orderBy).map (underNames (ctes.map CteDef.name)))

end

/-- The selects of a select outside its `with` list. -/
def Query.restSelects (q : Query) : List (List String × Query) :=
  SelectItem.listSelects q.columns ++ FromItem.optSelects q.source ++ Expr.optSelects q.filter ++
    Expr.listSelects q.groupBy ++ Expr.optSelects q.having ++ SetPart.listSelects q.setOps ++
    OrderItem.listSelects q.orderBy

theorem Query.selects_eq (q : Query) :
    q.selects = ([], q) :: (CteDef.listSelects q.ctes ++
      q.restSelects.map (underNames (q.ctes.map CteDef.name))) := by
  cases q
  rfl

theorem CteDef.listSelects_append (ds es : List CteDef) :
    CteDef.listSelects (ds ++ es) =
      CteDef.listSelects ds ++ (CteDef.listSelects es).map (underNames (ds.map CteDef.name)) := by
  induction ds with
  | nil => simp [CteDef.listSelects]
  | cons d ds ih =>
    obtain ⟨name, body⟩ := d
    simp [CteDef.listSelects, ih]

/-- Adding a set operation to a select adds its select's tree to the select's rest. -/
theorem Query.mem_restSelects_addSetOp {stmt : Query} {ctes : List CteDef} {p : SetPart}
    {x : List String × Query} :
    x ∈ ({ stmt with ctes := ctes, setOps := stmt.setOps ++ [p] } : Query).restSelects ↔
      x ∈ stmt.restSelects ∨ x ∈ p.query.selects := by
  obtain ⟨op, q⟩ := p
  have happ : ∀ ps : List SetPart,
      SetPart.listSelects (ps ++ [⟨op, q⟩]) = SetPart.listSelects ps ++ q.selects := by
    intro ps
    induction ps with
    | nil => simp [SetPart.listSelects]
    | cons p ps ih =>
      obtain ⟨op', q'⟩ := p
      simp [SetPart.listSelects, ih]
  simp only [Query.restSelects, happ, List.mem_append]
  tauto

end QueryDoc.Sql

namespace QueryDoc.Compile

open Sql

/-! ### What each step of the compiler puts in the tree -/

@[simp] theorem optSelects_push (acc : Option Expr) (c : Connective) (e : Expr) :
    Expr.optSelects (push acc c e) = Expr.optSelects acc ++ e.selects := by
  have hneg : (if c.isNegated then Expr.not e else e).selects = e.selects := by
    split <;> rfl
  cases acc with
  | none => simp [push, Expr.optSelects, hneg]
  | some a =>
    simp only [push, Expr.optSelects]
    split <;> simp [Expr.andE, Expr.orE, Expr.selects, hneg]

@[simp] theorem optSelects_pushGroup (acc : Option Expr) (c : Connective) (g : Option Expr) :
    Expr.optSelects (pushGroup acc c g) = Expr.optSelects acc ++ Expr.optSelects g := by
  cases g with
  | none => simp [pushGroup, Expr.optSelects]
  | some inner => simp [pushGroup, Expr.optSelects, Expr.selects]

theorem pushRaw_selects {acc r : Option Expr} {c : Connective} {sql : String}
    {bindings : List Param} (h : pushRaw acc c sql bindings = .ok r) :
    Expr.optSelects r = Expr.optSelects acc := by
  unfold pushRaw at h
  split at h
  · cases h
  · dsimp only at h
    split at h
    · cases h
    · cases h
      simp [Expr.selects]

@[simp] theorem listSelects_map_bound (ps : List Param) :
    Expr.listSelects (ps.map .bound) = [] := by
  induction ps with
  | nil => rfl
  | cons p ps ih => simp [Expr.listSelects, Expr.selects, ih]

@[simp] theorem listSelects_map_compileField (fields : List Field) :
    SelectItem.listSelects (fields.map compileField) = [] := by
  induction fields with
  | nil => rfl
  | cons f fields ih =>
    simp only [List.map_cons, compileField, SelectItem.listSelects, ih, List.append_nil]
    split <;> rfl

@[simp] theorem listSelects_map_compileGroupBy (gs : List GroupBy) :
    Expr.listSelects (gs.map compileGroupBy) = [] := by
  induction gs with
  | nil => rfl
  | cons g gs ih =>
    simp only [List.map_cons, compileGroupBy, Expr.listSelects, ih, List.append_nil]
    split <;> rfl

@[simp] theorem listSelects_map_compileSort (sorts : List SortKey) :
    OrderItem.listSelects (sorts.map compileSort) = [] := by
  induction sorts with
  | nil => rfl
  | cons k sorts ih =>
    simp [compileSort, OrderItem.listSelects, Expr.columnPath, Expr.selects, ih]

/-- A select's projection, its fields or `*`, holds no select. -/
@[simp] theorem listSelects_projection (fields : List Field) :
    SelectItem.listSelects (if fields.isEmpty then [.star] else fields.map compileField) = [] := by
  split <;> simp [SelectItem.listSelects]

/-- A compiled condition holds a select only when its value is one: that select, compiled in
the condition's scope. -/
theorem toPredicate_selects {scope : List String} {name : String} {value : Value}
    {relation : Relation} {p : Predicate} (h : toPredicate scope name value relation = .ok p) :
    p.toExpr.selects = [] ∨
      ∃ s q, value = .query s ∧ compileSelect scope s = .ok q ∧ p.toExpr.selects = q.selects := by
  rcases toPredicate_eq_ok h with ⟨s, q, hs, hq, hp⟩ | rfl | ⟨_, _, -, rfl⟩ | ⟨_, rfl⟩ | rfl | ⟨_, _, rfl⟩
  · refine .inr ⟨s, q, hs, hq, ?_⟩
    rcases hp with rfl | rfl <;> simp [Predicate.toExpr, Expr.columnPath, Expr.selects]
  all_goals exact .inl (by simp [Predicate.toExpr, Expr.columnPath, Expr.selects])

/-- Joining one expression adds nothing to the tree for raw SQL, and the selects of its
predicate otherwise. -/
theorem appendExpression_selects {scope : List String} {acc r : Option Expr} {c : Connective}
    {name : String} {value : Value} {relation : Relation} {c' : Connective} {raw : Bool}
    (h : appendExpression scope acc c ⟨name, value, relation, c', raw⟩ = .ok r) :
    Expr.optSelects r = Expr.optSelects acc ∨
      ∃ p, toPredicate scope name value relation = .ok p ∧
        Expr.optSelects r = Expr.optSelects acc ++ p.toExpr.selects := by
  unfold appendExpression at h
  cases raw with
  | true =>
    rw [if_pos rfl] at h
    split at h
    · cases h
    · obtain ⟨bindings, -, h⟩ := Result.bind_eq_ok.1 h
      exact .inl (pushRaw_selects h)
  | false =>
    rw [if_neg Bool.false_ne_true] at h
    obtain ⟨p, hp, h⟩ := Result.bind_eq_ok.1 h
    cases h
    exact .inr ⟨p, hp, optSelects_push _ _ _⟩

/-- Raw SQL holds no select. -/
theorem appendExpression_raw_selects {scope : List String} {acc r : Option Expr}
    {c : Connective} {e : Expression} (hraw : e.raw = true)
    (h : appendExpression scope acc c e = .ok r) : Expr.optSelects r = Expr.optSelects acc := by
  obtain ⟨name, value, relation, c', raw⟩ := e
  cases hraw
  unfold appendExpression at h
  rw [if_pos rfl] at h
  split at h
  · cases h
  · obtain ⟨bindings, -, h⟩ := Result.bind_eq_ok.1 h
    exact pushRaw_selects h

/-- A join's comparison of two columns holds no select. -/
theorem joinComparison_selects {on : Expression} {e : Expr} (h : joinComparison on = .ok e) :
    e.selects = [] := by
  unfold joinComparison at h
  split at h
  · cases h
  · split at h
    · cases h
      simp [Predicate.toExpr, Expr.columnPath, Expr.selects]
    · cases h

/-- One join: a source compiled in the scope, joined to what came before under a condition
whose first part holds no select. -/
theorem compileJoins_cons_eq_ok {scope : List String} {left r : Option FromItem}
    {target : Source} {on : Expression} {es : List Expression} {kind : JoinKind}
    {js : List Join} (h : compileJoins scope left (⟨target, on, es, kind⟩ :: js) = .ok r) :
    ∃ l right cond₀ cond, left = some l ∧ compileSource scope target = .ok right ∧
      Expr.optSelects cond₀ = [] ∧ appendAllAnd scope cond₀ es = .ok cond ∧
      compileJoins scope (some (.join l kind right cond)) js = .ok r := by
  cases left with
  | none =>
    unfold compileJoins at h
    obtain ⟨_, hl, -⟩ := Result.bind_eq_ok.1 h
    cases hl
  | some l =>
    unfold compileJoins at h
    obtain ⟨_, hl, h⟩ := Result.bind_eq_ok.1 h
    cases hl
    obtain ⟨right, hright, h⟩ := Result.bind_eq_ok.1 h
    dsimp only at h
    -- the `on` condition: raw SQL, or a comparison of two columns
    split at h
    next hraw =>
      obtain ⟨cond₀, hcond₀, h⟩ := Result.bind_eq_ok.1 h
      obtain ⟨cond, hcond, h⟩ := Result.bind_eq_ok.1 h
      exact ⟨l, right, cond₀, cond, rfl, hright,
        by simpa [Expr.optSelects] using appendExpression_raw_selects hraw hcond₀, hcond, h⟩
    next =>
      obtain ⟨e, he, h⟩ := Result.bind_eq_ok.1 h
      rw [pure_bind] at h
      obtain ⟨cond, hcond, h⟩ := Result.bind_eq_ok.1 h
      exact ⟨l, right, _, cond, rfl, hright,
        by simp [Expr.optSelects, joinComparison_selects he], hcond, h⟩

/-- A combined select as the outer select holds it: without its `with` list, and wrapped in a
derived table when it has set operations of its own. -/
def memberForm (member : Query) (i : Nat) : Query :=
  if member.setOps.isEmpty then { member with ctes := [] }
  else wrapCombined { member with ctes := [] } i

/-- One combined select: compiled in the scope, refused if it sorts, its declarations moved to
the outer list and its select appended as a set operation. -/
theorem compileCombines_cons_eq_ok {scope : List String} {stmt q : Query} {i : Nat}
    {s : Select} {op : SetOperation} {cs : List Combine}
    (h : compileCombines scope stmt i (⟨s, op⟩ :: cs) = .ok q) :
    ∃ member, compileSelect scope s = .ok member ∧ member.orderBy = [] ∧
      compileCombines scope
        { stmt with
          ctes := hoistCtes stmt.ctes member.ctes
          setOps := stmt.setOps ++ [⟨op, memberForm member i⟩] } (i + 1) cs = .ok q := by
  unfold compileCombines at h
  obtain ⟨member, hmember, h⟩ := Result.bind_eq_ok.1 h
  split at h
  · cases h
  next hsorted =>
    exact ⟨member, hmember, by simpa using hsorted, h⟩

/-- What declaring a common table expression does: nothing if its name is declared already;
otherwise its name and a declaration with a body compiled in the scope so far are added. -/
theorem declareCteWith_cteRef : declareCteWith cteRef = declareCte := by
  delta declareCteWith declareCte
  rfl

theorem declareCte_eq_ok {d d' : Declared} {c : Cte} (h : declareCte d c = .ok d') :
    (c.aliasName ∈ d.1 ∧ d' = d) ∨
      (c.aliasName ∉ d.1 ∧ ∃ body, CteBody.CompiledIn cteRef d.1 c.query body ∧
        d' = (d.1 ++ [c.aliasName], d.2 ++ [⟨c.aliasName, body⟩])) :=
  declareCteWith_ok (declareCteWith_cteRef ▸ h)

/-- A declared select body is compiled in the scope before it. -/
theorem CteBody.compiledIn_select {scope : List String} {s : Select} {body : CteBody}
    (h : CteBody.CompiledIn cteRef scope (.select s) body) :
    ∃ q, compileSelect scope s = .ok q ∧ body = .select q := by
  cases body with
  | select q => exact ⟨q, by rwa [← compileSelectWith_cteRef], rfl⟩
  | raw text => exact h.elim

/-- Hoisting keeps the outer declarations and takes the rest from the member's. -/
theorem mem_hoistCtes {x : CteDef} :
    ∀ {acc cs : List CteDef}, x ∈ hoistCtes acc cs → x ∈ acc ∨ x ∈ cs
  | acc, [], h => .inl h
  | acc, c :: cs, h => by
    rw [hoistCtes] at h
    rcases mem_hoistCtes h with h | h
    · split at h
      · exact .inl h
      · rcases List.mem_append.1 h with h | h
        · exact .inl h
        · exact .inr (List.mem_singleton.1 h ▸ List.mem_cons_self)
    · exact .inr (List.mem_cons_of_mem _ h)

end QueryDoc.Compile

namespace QueryDoc.Sql

/-! ### Selects written whole by their body -/

/-- Every set operation of every select in the list is with a select its body writes
whole. -/
def BareSetOps (xs : List (List String × Query)) : Prop :=
  ∀ x ∈ xs, ∀ p ∈ x.2.setOps, p.query.Bare

/-- Every set operation in a select's tree is with a select its body writes whole. -/
def Query.MembersWhole (q : Query) : Prop := BareSetOps q.selects

@[simp] theorem bareSetOps_nil : BareSetOps [] := fun _ h => absurd h List.not_mem_nil

@[simp] theorem bareSetOps_append {xs ys : List (List String × Query)} :
    BareSetOps (xs ++ ys) ↔ BareSetOps xs ∧ BareSetOps ys :=
  List.forall_mem_append

@[simp] theorem bareSetOps_cons {x : List String × Query} {xs : List (List String × Query)} :
    BareSetOps (x :: xs) ↔ (∀ p ∈ x.2.setOps, p.query.Bare) ∧ BareSetOps xs :=
  List.forall_mem_cons

@[simp] theorem bareSetOps_map_underNames {ns : List String} {xs : List (List String × Query)} :
    BareSetOps (xs.map (underNames ns)) ↔ BareSetOps xs := by
  constructor
  · intro h x hx
    exact h (underNames ns x) (List.mem_map_of_mem hx)
  · intro h x hx
    obtain ⟨y, hy, rfl⟩ := List.mem_map.1 hx
    exact h y hy

theorem bareSetOps_listSelects {ds : List CteDef} :
    BareSetOps (CteDef.listSelects ds) ↔ ∀ d ∈ ds, BareSetOps d.body.selects := by
  induction ds with
  | nil => simp [CteDef.listSelects]
  | cons d ds ih =>
    obtain ⟨name, body⟩ := d
    simp [CteDef.listSelects, ih]

/-- A select without its `with` list: itself, then the selects of its rest, which no longer
see the list. -/
theorem Query.selects_withoutCtes (q : Query) :
    ({ q with ctes := [] } : Query).selects = ([], { q with ctes := [] }) :: q.restSelects := by
  rw [Query.selects_eq]
  simp [CteDef.listSelects, Query.restSelects]

/-- Paging a select changes none of the set operations in its tree. -/
theorem Query.MembersWhole.paged {q : Query} (h : q.MembersWhole) (limit offset : Option Nat) :
    ({ q with limit := limit, offset := offset } : Query).MembersWhole := by
  unfold Query.MembersWhole at h ⊢
  rw [Query.selects_eq, bareSetOps_cons] at h ⊢
  exact ⟨h.1, h.2⟩

end QueryDoc.Sql

namespace QueryDoc.Compile

open Sql

/-- A combined select in the form the outer select holds it is bare: sorting was refused,
paging is never set, its `with` list is moved out and set operations of its own are wrapped
away. -/
theorem memberForm_bare {member : Query} (i : Nat) (hsorted : member.orderBy = [])
    (hpaging : member.limit = none ∧ member.offset = none) : (memberForm member i).Bare := by
  unfold memberForm
  split
  next hsets => exact ⟨rfl, List.isEmpty_iff.1 hsets, hsorted, hpaging.1, hpaging.2⟩
  next => exact ⟨rfl, rfl, rfl, rfl, rfl⟩

/-- The tree of a combined select in the form the outer select holds it: the member's set
operations and the rest of its tree, under a wrapper with no set operations when wrapped. -/
theorem memberForm_bareSetOps {member : Query} (i : Nat) (h : BareSetOps member.selects) :
    BareSetOps (memberForm member i).selects := by
  rw [Query.selects_eq] at h
  simp only [bareSetOps_cons, bareSetOps_append, bareSetOps_map_underNames] at h
  have hstripped : BareSetOps ({ member with ctes := [] } : Query).selects := by
    rw [Query.selects_withoutCtes, bareSetOps_cons]
    exact ⟨h.1, h.2.2⟩
  unfold memberForm
  split
  · exact hstripped
  · rw [Query.selects_eq]
    simpa [wrapCombined, Query.empty, CteDef.listSelects, Query.restSelects,
      SelectItem.listSelects, FromItem.optSelects, FromItem.selects, Expr.optSelects,
      Expr.listSelects, SetPart.listSelects, OrderItem.listSelects] using hstripped

/-- A combined select appended to the outer select keeps every set operation of the tree with
a bare select: the new one is bare, and the hoisted declarations come from one of the two
trees. -/
theorem combine_bareSetOps {stmt member : Query} {i : Nat} (op : SetOperation)
    (hstmt : BareSetOps stmt.selects) (hmember : BareSetOps member.selects)
    (hsorted : member.orderBy = []) (hpaging : member.limit = none ∧ member.offset = none) :
    BareSetOps ({ stmt with
      ctes := hoistCtes stmt.ctes member.ctes
      setOps := stmt.setOps ++ [⟨op, memberForm member i⟩] } : Query).selects := by
  have hform := memberForm_bareSetOps i hmember
  rw [Query.selects_eq] at hstmt hmember ⊢
  simp only [bareSetOps_cons, bareSetOps_append, bareSetOps_map_underNames,
    bareSetOps_listSelects] at hstmt hmember ⊢
  refine ⟨?_, fun d hd => ?_, fun x hx => ?_⟩
  · -- the outer select's own set operations, and the new one
    intro p hp
    rcases List.mem_append.1 hp with hp | hp
    · exact hstmt.1 p hp
    · cases List.mem_singleton.1 hp
      exact memberForm_bare i hsorted hpaging
  · rcases mem_hoistCtes hd with hd | hd
    · exact hstmt.2.1 d hd
    · exact hmember.2.1 d hd
  · rcases Query.mem_restSelects_addSetOp.1 hx with hx | hx
    · exact hstmt.2.2 x hx
    · exact hform x hx

section Members

mutual

theorem toPredicate_bareSetOps (scope : List String) (name : String) :
    ∀ (value : Value) (relation : Relation) {p : Predicate},
      toPredicate scope name value relation = .ok p → BareSetOps p.toExpr.selects
  | .query s, _, _, h => by
    rcases toPredicate_selects h with h0 | ⟨s', q, hs, hq, hsel⟩
    · simp [h0]
    · cases hs
      rw [hsel]
      exact compileSelect_bareSetOps scope s hq
  | .null, _, _, h | .bool _, _, _, h | .integer _, _, _, h | .float _, _, _, h
  | .text _, _, _, h | .list _, _, _, h => by
    rcases toPredicate_selects h with h0 | ⟨_, _, hs, -⟩
    · simp [h0]
    · cases hs

theorem appendExpression_bareSetOps (scope : List String) (acc : Option Expr) (c : Connective) :
    ∀ (e : Expression) {r : Option Expr}, BareSetOps (Expr.optSelects acc) →
      appendExpression scope acc c e = .ok r → BareSetOps (Expr.optSelects r)
  | ⟨name, value, relation, c', raw⟩, _, hacc, h => by
    rcases appendExpression_selects h with h | ⟨p, hp, h⟩
    · rwa [h]
    · rw [h, bareSetOps_append]
      exact ⟨hacc, toPredicate_bareSetOps scope name value relation hp⟩

theorem appendExpressions_bareSetOps (scope : List String) :
    ∀ (acc : Option Expr) (first : Bool) (es : List Expression) {r : Option Expr × Bool},
      BareSetOps (Expr.optSelects acc) → appendExpressions scope acc first es = .ok r →
      BareSetOps (Expr.optSelects r.1)
  | _, _, [], _, hacc, h => by
    cases h
    exact hacc
  | acc, first, e :: es, _, hacc, h => by
    obtain ⟨acc', hacc', h⟩ := Result.bind_eq_ok.1 h
    exact appendExpressions_bareSetOps scope acc' false es
      (appendExpression_bareSetOps scope acc _ e hacc hacc') h

theorem appendAllAnd_bareSetOps (scope : List String) :
    ∀ (acc : Option Expr) (es : List Expression) {r : Option Expr},
      BareSetOps (Expr.optSelects acc) → appendAllAnd scope acc es = .ok r →
      BareSetOps (Expr.optSelects r)
  | _, [], _, hacc, h => by
    cases h
    exact hacc
  | acc, e :: es, _, hacc, h => by
    obtain ⟨acc', hacc', h⟩ := Result.bind_eq_ok.1 h
    exact appendAllAnd_bareSetOps scope acc' es
      (appendExpression_bareSetOps scope acc _ e hacc hacc') h

theorem applyFilter_bareSetOps (scope : List String) :
    ∀ (acc : Option Expr) (f : Filter) {r : Option Expr},
      BareSetOps (Expr.optSelects acc) → applyFilter scope acc f = .ok r →
      BareSetOps (Expr.optSelects r)
  | acc, ⟨es, fs, c⟩, _, hacc, h => by
    obtain ⟨⟨acc', first⟩, hes, h⟩ := Result.bind_eq_ok.1 h
    exact applyChildren_bareSetOps scope acc' first c fs
      (appendExpressions_bareSetOps scope acc true es hacc hes) h

theorem applyChildren_bareSetOps (scope : List String) :
    ∀ (acc : Option Expr) (first : Bool) (c : Connective) (fs : List Filter) {r : Option Expr},
      BareSetOps (Expr.optSelects acc) → applyChildren scope acc first c fs = .ok r →
      BareSetOps (Expr.optSelects r)
  | _, _, _, [], _, hacc, h => by
    cases h
    exact hacc
  | acc, first, c, f :: fs, _, hacc, h => by
    obtain ⟨g, hg, h⟩ := Result.bind_eq_ok.1 h
    have hgroup := applyFilter_bareSetOps scope none f bareSetOps_nil hg
    refine applyChildren_bareSetOps scope _ false c fs ?_ h
    rw [optSelects_pushGroup, bareSetOps_append]
    exact ⟨hacc, hgroup⟩

theorem compileCondition_bareSetOps (scope : List String) :
    ∀ (f : Option Filter) {r : Option Expr}, compileCondition scope f = .ok r →
      BareSetOps (Expr.optSelects r)
  | none, _, h => by
    cases h
    exact bareSetOps_nil
  | some f, _, h => applyFilter_bareSetOps scope none f bareSetOps_nil h

theorem declareCte_bareSetOps :
    ∀ (d : Declared) (c : Cte) {d' : Declared}, (∀ x ∈ d.2, BareSetOps x.body.selects) →
      declareCte d c = .ok d' → ∀ x ∈ d'.2, BareSetOps x.body.selects
  | d, ⟨aliasName, .select s⟩, _, hd, h => by
    rcases declareCte_eq_ok h with ⟨-, rfl⟩ | ⟨-, body, hbody, rfl⟩
    · exact hd
    · obtain ⟨q, hq, rfl⟩ := CteBody.compiledIn_select hbody
      refine List.forall_mem_append.2 ⟨hd, List.forall_mem_singleton.2 ?_⟩
      exact compileSelect_bareSetOps d.1 s hq
  | d, ⟨aliasName, .rawSql sql⟩, _, hd, h => by
    rcases declareCte_eq_ok h with ⟨-, rfl⟩ | ⟨-, body, hbody, rfl⟩
    · exact hd
    · cases body with
      | select q => exact hbody.elim
      | raw text =>
        refine List.forall_mem_append.2 ⟨hd, List.forall_mem_singleton.2 ?_⟩
        simp [CteBody.selects]

theorem declareCtes_bareSetOps :
    ∀ (d : Declared) (cs : List Cte) {d' : Declared}, (∀ x ∈ d.2, BareSetOps x.body.selects) →
      declareCtes d cs = .ok d' → ∀ x ∈ d'.2, BareSetOps x.body.selects
  | d, [], _, hd, h => by
    cases h
    exact hd
  | d, c :: cs, _, hd, h => by
    obtain ⟨d₁, h₁, h⟩ := Result.bind_eq_ok.1 h
    exact declareCtes_bareSetOps d₁ cs (declareCte_bareSetOps d c hd h₁) h

theorem declareSourceCte_bareSetOps :
    ∀ (d : Declared) (src : Option Source) {d' : Declared},
      (∀ x ∈ d.2, BareSetOps x.body.selects) →
      declareSourceCte d src = .ok d' → ∀ x ∈ d'.2, BareSetOps x.body.selects
  | d, some (.cte c), _, hd, h => declareCte_bareSetOps d c hd h
  | d, none, _, hd, h | d, some (.table _), _, hd, h | d, some (.derived _), _, hd, h => by
    cases h
    exact hd

theorem declareJoinCtes_bareSetOps :
    ∀ (d : Declared) (js : List Join) {d' : Declared},
      (∀ x ∈ d.2, BareSetOps x.body.selects) →
      declareJoinCtes d js = .ok d' → ∀ x ∈ d'.2, BareSetOps x.body.selects
  | d, [], _, hd, h => by
    cases h
    exact hd
  | d, ⟨.cte c, on, es, kind⟩ :: js, _, hd, h => by
    obtain ⟨d₁, h₁, h⟩ := Result.bind_eq_ok.1 h
    exact declareJoinCtes_bareSetOps d₁ js (declareCte_bareSetOps d c hd h₁) h
  | d, ⟨.table _, on, es, kind⟩ :: js, _, hd, h
  | d, ⟨.derived _, on, es, kind⟩ :: js, _, hd, h => declareJoinCtes_bareSetOps d js hd h

theorem declareCombineCtes_bareSetOps :
    ∀ (d : Declared) (cs : List Combine) {d' : Declared},
      (∀ x ∈ d.2, BareSetOps x.body.selects) →
      declareCombineCtes d cs = .ok d' → ∀ x ∈ d'.2, BareSetOps x.body.selects
  | d, [], _, hd, h => by
    cases h
    exact hd
  | d, ⟨⟨ctes, source, _, joins, _, _, _, _, _⟩, _⟩ :: cs, _, hd, h => by
    obtain ⟨d₁, h₁, h⟩ := Result.bind_eq_ok.1 h
    obtain ⟨d₂, h₂, h⟩ := Result.bind_eq_ok.1 h
    obtain ⟨d₃, h₃, h⟩ := Result.bind_eq_ok.1 h
    have hd₃ := declareJoinCtes_bareSetOps d₂ joins
      (declareSourceCte_bareSetOps d₁ source (declareCtes_bareSetOps d ctes hd h₁) h₂) h₃
    exact declareCombineCtes_bareSetOps d₃ cs hd₃ h

theorem compileSource_bareSetOps (scope : List String) :
    ∀ (src : Source) {f : FromItem}, compileSource scope src = .ok f → BareSetOps f.selects
  | .table _, _, h => by
    cases h
    simp [FromItem.selects]
  | .derived ⟨s, _⟩, _, h => by
    obtain ⟨q, hq, h⟩ := Result.bind_eq_ok.1 h
    cases h
    exact compileSelect_bareSetOps scope s hq
  | .cte ⟨_, _⟩, _, h => by
    cases h
    simp [FromItem.selects]

theorem compileOptSource_bareSetOps (scope : List String) :
    ∀ (src : Option Source) {f : Option FromItem}, compileOptSource scope src = .ok f →
      BareSetOps (FromItem.optSelects f)
  | none, _, h => by
    cases h
    exact bareSetOps_nil
  | some src, _, h => by
    obtain ⟨f, hf, h⟩ := Result.bind_eq_ok.1 h
    cases h
    exact compileSource_bareSetOps scope src hf

theorem compileJoins_bareSetOps (scope : List String) :
    ∀ (left : Option FromItem) (js : List Join) {r : Option FromItem},
      BareSetOps (FromItem.optSelects left) → compileJoins scope left js = .ok r →
      BareSetOps (FromItem.optSelects r)
  | _, [], _, hleft, h => by
    cases h
    exact hleft
  | _, ⟨target, on, es, kind⟩ :: js, _, hleft, h => by
    obtain ⟨l, right, cond₀, cond, rfl, hright, hcond₀, hcond, h⟩ := compileJoins_cons_eq_ok h
    have hcond' := appendAllAnd_bareSetOps scope cond₀ es (by rw [hcond₀]; exact bareSetOps_nil)
      hcond
    refine compileJoins_bareSetOps scope _ js ?_ h
    simp only [FromItem.optSelects, FromItem.selects, bareSetOps_append] at hleft ⊢
    exact ⟨⟨hleft, compileSource_bareSetOps scope target hright⟩, hcond'⟩

theorem compileCombines_bareSetOps (scope : List String) :
    ∀ (stmt : Query) (i : Nat) (cs : List Combine) {q : Query},
      BareSetOps stmt.selects → compileCombines scope stmt i cs = .ok q → BareSetOps q.selects
  | _, _, [], _, hstmt, h => by
    cases h
    exact hstmt
  | _, i, ⟨s, op⟩ :: cs, _, hstmt, h => by
    obtain ⟨member, hmember, hsorted, h⟩ := compileCombines_cons_eq_ok h
    exact compileCombines_bareSetOps scope _ (i + 1) cs
      (combine_bareSetOps op hstmt (compileSelect_bareSetOps scope s hmember) hsorted
        (compileSelect_paging hmember)) h

theorem compileSelect_bareSetOps (scope : List String) :
    ∀ (s : Select) {q : Query}, compileSelect scope s = .ok q → BareSetOps q.selects
  | ⟨ctes, source, fields, joins, filter, groupBys, having, sorts, combines⟩, _, h => by
    obtain ⟨d₁, d₂, d₃, d, src, src', flt, hv, h₁, h₂, h₃, h₄, h₅, h₆, h₇, h₈, h⟩ :=
      compileSelect_steps h
    -- the declarations, in the order the select makes them
    have hd := declareCombineCtes_bareSetOps d₃ combines
      (declareJoinCtes_bareSetOps d₂ joins
        (declareSourceCte_bareSetOps d₁ source
          (declareCtes_bareSetOps _ ctes (fun _ h => absurd h List.not_mem_nil) h₁) h₂) h₃) h₄
    refine compileCombines_bareSetOps d.1 _ 0 combines ?_ h
    -- the core select has no set operations; its parts were compiled in the scope
    have hsrc := compileJoins_bareSetOps d.1 src joins (compileOptSource_bareSetOps d.1 source h₅) h₆
    rw [Query.selects_eq]
    simp only [bareSetOps_cons, bareSetOps_append, bareSetOps_map_underNames,
      bareSetOps_listSelects, Query.restSelects, listSelects_projection, listSelects_map_compileGroupBy,
      listSelects_map_compileSort, SetPart.listSelects, bareSetOps_nil, and_true, true_and]
    exact ⟨fun _ h => absurd h List.not_mem_nil, hd, ⟨hsrc, compileCondition_bareSetOps d.1 filter h₇⟩,
      compileCondition_bareSetOps d.1 having h₈⟩

end

end Members

/-- Every set operation in the tree of a compiled select, paged or not, is with a select that
has no `with` list, set operations, sorting or paging of its own. The renderer writes such a
select by its body alone, so it writes it whole, whatever the dialect: rendering the compiled
select, or the page of it that `Compiler.compilePage` renders, leaves out no clause. -/
theorem compiled_members_written_whole {scope : List String} {s : Select} {q : Query}
    (h : compileSelect scope s = .ok q) :
    q.MembersWhole ∧
      (∀ limit offset : Nat,
        ({ q with limit := some limit, offset := some offset } : Query).MembersWhole) ∧
      ∀ x ∈ q.selects, ∀ p ∈ x.2.setOps, ∀ d : Dialect, p.query.bodyPieces d = p.query.pieces d := by
  have hwhole : q.MembersWhole := compileSelect_bareSetOps scope s h
  refine ⟨hwhole, fun limit offset => hwhole.paged (some limit) (some offset), ?_⟩
  intro x hx p hp d
  exact (Query.pieces_of_bare (hwhole x hx p hp) d).symm

/-- A select from `a` combined with one that has a combined select of its own, which the
compiler wraps in a derived table. -/
def nestedUnion : Select :=
  { Select.ofTable (.new "a") with
    combines := [⟨{ Select.ofTable (.new "b") with
      combines := [⟨.ofTable (.new "c"), .union⟩] }, .union⟩] }

theorem nestedUnion_members_whole :
    ∃ q, compileSelect [] nestedUnion = .ok q ∧
      (q.MembersWhole ∧
        (∀ limit offset : Nat,
          ({ q with limit := some limit, offset := some offset } : Query).MembersWhole) ∧
        ∀ x ∈ q.selects, ∀ p ∈ x.2.setOps, ∀ d : Dialect,
          p.query.bodyPieces d = p.query.pieces d) :=
  ⟨_, rfl, @compiled_members_written_whole [] nestedUnion _ rfl⟩

end QueryDoc.Compile
