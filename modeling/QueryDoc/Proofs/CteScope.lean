import QueryDoc.Proofs.CteReferences

/-!
Common table expressions are declared where compiled SQL reads them.

A scope item (`ScopeItem`) is a table reference of compiled SQL with the declarations in scope
where it stands, or a `with` list. A reference sees the `with` lists of the selects and the
insert around it, and within the body of a list's entry also the entries before it. An item is
sound (`ScopeItem.Sound`) when a reference is a table's, or that of a common table expression
whose name a declaration in scope resolves or the compiler's given scope holds, and when a
`with` list declares each name once. Every declaration is made for a common table expression
of the statement.

The compiler keeps every item sound, by the mutual induction `compileSelectWith_scoped` and its
companions. One select's declarations keep `DeclScope`, and a combined member's declarations
are hoisted into the outer list, which stays sound (`hoistCtes_scoped`). With references marked
and names unique, soundness is resolution (`ScopeItem.resolved_of_sound`). Main statement:
`compiled_ctes_in_scope`.
-/

namespace QueryDoc.Sql

open Compile

/-! ### Scope items of compiled SQL -/

/-- What the scoping of common table expressions looks at in compiled SQL: a table reference
with the declarations in scope where it stands, or the list of a `with` clause. -/
inductive ScopeItem where
  | ref (t : TableRef) (visible : List CteDef)
  | decls (ds : List CteDef)

/-- The item seen from under a `with` list: a reference also sees that list's declarations. -/
def ScopeItem.under (ds : List CteDef) : ScopeItem → ScopeItem
  | .ref t visible => .ref t (ds ++ visible)
  | .decls es => .decls es

@[simp] theorem ScopeItem.under_nil : ScopeItem.under [] = id := by
  funext i
  cases i <;> rfl

@[simp] theorem ScopeItem.under_under (ds es : List CteDef) (i : ScopeItem) :
    (i.under es).under ds = i.under (ds ++ es) := by
  cases i <;> simp [under]

mutual

/-- The scope items of an expression. -/
def Expr.scopeItems : Expr → List ScopeItem
  | .column _ | .literal _ | .bound _ | .raw _ _ => []
  | .binary l _ r => l.scopeItems ++ r.scopeItems
  | .not e | .nested e | .isNull e _ => e.scopeItems
  | .subquery q | .exists q _ => q.scopeItems
  | .inList e items _ => e.scopeItems ++ Expr.listScopeItems items
  | .inSubquery e q _ => e.scopeItems ++ q.scopeItems
  | .like e p _ => e.scopeItems ++ p.scopeItems

/-- The scope items of a list of expressions. -/
def Expr.listScopeItems : List Expr → List ScopeItem
  | [] => []
  | e :: es => e.scopeItems ++ Expr.listScopeItems es

/-- The scope items of an optional expression. -/
def Expr.optScopeItems : Option Expr → List ScopeItem
  | none => []
  | some e => e.scopeItems

/-- The scope items of a select list. -/
def SelectItem.listScopeItems : List SelectItem → List ScopeItem
  | [] => []
  | .expr e _ :: items => e.scopeItems ++ SelectItem.listScopeItems items
  | .star :: items => SelectItem.listScopeItems items

/-- The scope items of what a select reads from: a table is a reference that sees nothing of
its own. -/
def FromItem.scopeItems : FromItem → List ScopeItem
  | .table t => [.ref t []]
  | .subquery q _ => q.scopeItems
  | .join l _ r on => l.scopeItems ++ r.scopeItems ++ Expr.optScopeItems on

/-- The scope items of an optional source. -/
def FromItem.optScopeItems : Option FromItem → List ScopeItem
  | none => []
  | some f => f.scopeItems

/-- The scope items of a declaration's body. -/
def CteBody.scopeItems : CteBody → List ScopeItem
  | .select q => q.scopeItems
  | .raw _ => []

/-- The scope items of the bodies of a `with` list: each body also sees the declarations
before it. -/
def CteDef.listScopeItems : List CteDef → List ScopeItem
  | [] => []
  | ⟨name, body⟩ :: ds =>
    body.scopeItems ++ (CteDef.listScopeItems ds).map (ScopeItem.under [⟨name, body⟩])

/-- The scope items of a list of sort items. -/
def OrderItem.listScopeItems : List OrderItem → List ScopeItem
  | [] => []
  | ⟨e, _⟩ :: os => e.scopeItems ++ OrderItem.listScopeItems os

/-- The scope items of the members of set operations. -/
def SetPart.listScopeItems : List SetPart → List ScopeItem
  | [] => []
  | ⟨_, q⟩ :: ps => q.scopeItems ++ SetPart.listScopeItems ps

/-- The scope items of a select: its `with` list, the bodies of the list, and the rest of the
select, which sees the whole list. -/
def Query.scopeItems : Query → List ScopeItem
  | ⟨ctes, columns, source, filter, groupBy, having, setOps, orderBy, _, _⟩ =>
    .decls ctes :: (CteDef.listScopeItems ctes ++
      (SelectItem.listScopeItems columns ++ FromItem.optScopeItems source ++
        Expr.optScopeItems filter ++ Expr.listScopeItems groupBy ++ Expr.optScopeItems having ++
        SetPart.listScopeItems setOps ++ OrderItem.listScopeItems orderBy).map
        (ScopeItem.under ctes))

end

/-- The scope items of a select outside its `with` list. -/
def Query.restItems (q : Query) : List ScopeItem :=
  SelectItem.listScopeItems q.columns ++ FromItem.optScopeItems q.source ++
    Expr.optScopeItems q.filter ++ Expr.listScopeItems q.groupBy ++ Expr.optScopeItems q.having ++
    SetPart.listScopeItems q.setOps ++ OrderItem.listScopeItems q.orderBy

theorem Query.scopeItems_eq (q : Query) :
    q.scopeItems = .decls q.ctes ::
      (CteDef.listScopeItems q.ctes ++ q.restItems.map (ScopeItem.under q.ctes)) := by
  cases q
  rfl

/-- The scope items of the rows an insert writes. -/
def InsertRows.scopeItems : InsertRows → List ScopeItem
  | .values rows => rows.flatMap Expr.listScopeItems
  | .query q => q.scopeItems

/-- The scope items of a statement; the table a statement writes is a reference too. -/
def Stmt.scopeItems : Stmt → List ScopeItem
  | .select q => q.scopeItems
  | .insert ⟨ctes, table, _, rows⟩ =>
    .ref table [] :: .decls ctes ::
      (CteDef.listScopeItems ctes ++ rows.scopeItems.map (ScopeItem.under ctes))
  | .update ⟨table, set, filter⟩ =>
    .ref table [] :: (Expr.listScopeItems (set.map Prod.snd) ++ Expr.optScopeItems filter)
  | .delete ⟨table, filter⟩ => .ref table [] :: Expr.optScopeItems filter

theorem CteDef.listScopeItems_append (ds es : List CteDef) :
    CteDef.listScopeItems (ds ++ es) =
      CteDef.listScopeItems ds ++ (CteDef.listScopeItems es).map (ScopeItem.under ds) := by
  induction ds with
  | nil => simp [CteDef.listScopeItems]
  | cons d ds ih =>
    obtain ⟨name, body⟩ := d
    simp [CteDef.listScopeItems, ih, Function.comp_def]

theorem SetPart.listScopeItems_append (ps qs : List SetPart) :
    SetPart.listScopeItems (ps ++ qs) =
      SetPart.listScopeItems ps ++ SetPart.listScopeItems qs := by
  induction ps with
  | nil => rfl
  | cons p ps ih =>
    obtain ⟨op, q⟩ := p
    simp [SetPart.listScopeItems, ih]

/-! ### Soundness -/

section Soundness

variable (ref : String → TableRef) (U : List Cte)

/-- Declarations resolve a name when one of them carries it and is made for a common table
expression of `U`. -/
def Resolves (visible : List CteDef) (n : String) : Prop :=
  ∃ d ∈ visible, d.name = n ∧ ∃ c ∈ U, d.CompiledFrom ref c

/-- What holds of every scope item of compiled SQL when the names of `scope` are declared
around it: a reference is a table's, or that of a common table expression whose name is in
`scope` or resolved where it stands; a `with` list declares each name once, each declaration
made for a common table expression of `U`. -/
def ScopeItem.Sound (scope : List String) : ScopeItem → Prop
  | .ref t visible =>
    (∃ tb, t = tableRef tb) ∨ ∃ n, t = ref n ∧ (n ∈ scope ∨ Resolves ref U visible n)
  | .decls ds => (ds.map CteDef.name).Nodup ∧ ∀ d ∈ ds, ∃ c ∈ U, d.CompiledFrom ref c

/-- Every item of the list is sound. -/
def Scoped (scope : List String) (items : List ScopeItem) : Prop :=
  ∀ i ∈ items, i.Sound ref U scope

variable {ref U}

theorem resolves_append {V W : List CteDef} {n : String} :
    Resolves ref U (V ++ W) n ↔ Resolves ref U V n ∨ Resolves ref U W n := by
  simp only [Resolves, List.mem_append]
  constructor
  · rintro ⟨d, hd | hd, hn, hc⟩
    · exact .inl ⟨d, hd, hn, hc⟩
    · exact .inr ⟨d, hd, hn, hc⟩
  · rintro (⟨d, hd, hn, hc⟩ | ⟨d, hd, hn, hc⟩)
    · exact ⟨d, .inl hd, hn, hc⟩
    · exact ⟨d, .inr hd, hn, hc⟩

/-- Moving an item from under one `with` list and scope to under another: each name the old
ones resolved, the new ones resolve. -/
theorem ScopeItem.Sound.reroot {S S' : List String} {V V' : List CteDef} {i : ScopeItem}
    (h : (i.under V).Sound ref U S)
    (hcover : ∀ n, n ∈ S ∨ Resolves ref U V n → n ∈ S' ∨ Resolves ref U V' n) :
    (i.under V').Sound ref U S' := by
  cases i with
  | decls ds => exact h
  | ref t W =>
    rcases h with htable | ⟨n, rfl, hn⟩
    · exact .inl htable
    · refine .inr ⟨n, rfl, ?_⟩
      rcases hn with hS | hres
      · rcases hcover n (.inl hS) with h' | h'
        · exact .inl h'
        · exact .inr (resolves_append.2 (.inl h'))
      · rcases resolves_append.1 hres with hV | hW
        · rcases hcover n (.inr hV) with h' | h'
          · exact .inl h'
          · exact .inr (resolves_append.2 (.inl h'))
        · exact .inr (resolves_append.2 (.inr hW))

@[simp] theorem scoped_nil (S : List String) : Scoped ref U S [] := fun _ h => by cases h

@[simp] theorem scoped_cons {S : List String} {i : ScopeItem} {items : List ScopeItem} :
    Scoped ref U S (i :: items) ↔ i.Sound ref U S ∧ Scoped ref U S items :=
  List.forall_mem_cons

@[simp] theorem scoped_append {S : List String} {items items' : List ScopeItem} :
    Scoped ref U S (items ++ items') ↔ Scoped ref U S items ∧ Scoped ref U S items' :=
  List.forall_mem_append

theorem Scoped.reroot {S S' : List String} {V V' : List CteDef} {items : List ScopeItem}
    (h : Scoped ref U S (items.map (ScopeItem.under V)))
    (hcover : ∀ n, n ∈ S ∨ Resolves ref U V n → n ∈ S' ∨ Resolves ref U V' n) :
    Scoped ref U S' (items.map (ScopeItem.under V')) := by
  intro i hi
  obtain ⟨j, hj, rfl⟩ := List.mem_map.1 hi
  exact (h _ (List.mem_map_of_mem hj)).reroot hcover

/-- Items sound in a scope are sound under a `with` list that resolves the scope's names. -/
theorem Scoped.under {S S' : List String} {V : List CteDef} {items : List ScopeItem}
    (h : Scoped ref U S items) (hcover : ∀ n ∈ S, n ∈ S' ∨ Resolves ref U V n) :
    Scoped ref U S' (items.map (ScopeItem.under V)) := by
  refine Scoped.reroot (V := []) (by simpa using h) fun n hn => ?_
  rcases hn with hS | ⟨_, hd, -⟩
  · exact hcover n hS
  · cases hd

/-- A `with` list stays sound when a declaration of a new name, made for a common table
expression of `U`, is added at its end. -/
theorem ScopeItem.Sound.decls_append {outer : List String} {ds : List CteDef} {x : CteDef}
    (h : (ScopeItem.decls ds).Sound ref U outer) (hfresh : ∀ y ∈ ds, y.name ≠ x.name)
    (hx : ∃ c ∈ U, x.CompiledFrom ref c) : (ScopeItem.decls (ds ++ [x])).Sound ref U outer := by
  refine ⟨?_, ?_⟩
  · rw [List.map_append, List.nodup_append]
    refine ⟨h.1, by simp, ?_⟩
    intro a ha b hb hab
    obtain ⟨y, hy, rfl⟩ := List.mem_map.1 ha
    cases List.mem_singleton.1 hb
    exact hfresh y hy hab
  · intro y hy
    rcases List.mem_append.1 hy with hy | hy
    · exact h.2 y hy
    · cases List.mem_singleton.1 hy
      exact hx

end Soundness

/-- What the scoping of common table expressions asks of compiled SQL: a reference `ref n`
finds, among the declarations in scope where it stands, one named `n` made for each common
table expression of `U` named `n`; a `with` list declares each name once, each declaration
made for a common table expression of `U`. -/
def ScopeItem.Resolved (ref : String → TableRef) (U : List Cte) : ScopeItem → Prop
  | .ref t visible => ∀ n, t = ref n →
    ∃ d ∈ visible, d.name = n ∧ ∀ c ∈ U, c.aliasName = n → d.CompiledFrom ref c
  | .decls ds => (ds.map CteDef.name).Nodup ∧ ∀ d ∈ ds, ∃ c ∈ U, d.CompiledFrom ref c

/-- With marked references and unique names, a sound item is resolved: a marked reference is
no table's, so its name is resolved where it stands, by a declaration made for the only
common table expression of that name. -/
theorem ScopeItem.resolved_of_sound {U : List Cte} (hunique : CtesUnique U) {i : ScopeItem}
    (h : i.Sound cteMark U []) : i.Resolved cteMark U := by
  cases i with
  | decls ds => exact h
  | ref t visible =>
    intro n hn
    subst hn
    rcases h with ⟨tb, htb⟩ | ⟨n', hn', hres⟩
    · exact absurd htb.symm (tableRef_ne_cteMark tb n)
    · cases cteMark_injective hn'
      rcases hres with hnil | ⟨d, hd, hname, c, hc, hfrom⟩
      · exact absurd hnil List.not_mem_nil
      · refine ⟨d, hd, hname, fun c' hc' hc'name => ?_⟩
        have : c = c' := hunique c hc c' hc' (hfrom.1.symm.trans (hname.trans hc'name.symm))
        exact this ▸ hfrom

end QueryDoc.Sql

namespace QueryDoc.Result

/-- What every step of a traversal gives, the whole traversal gives of each item. -/
theorem forall_mem_of_mapM_ok {ε α β : Type} {f : α → Except ε β} {P : β → Prop}
    (hf : ∀ a b, f a = .ok b → P b) :
    ∀ {l : List α} {r : List β}, l.mapM f = .ok r → ∀ b ∈ r, P b
  | [], r, h => by
    cases h
    intro b hb
    cases hb
  | a :: l, r, h => by
    rw [List.mapM_cons] at h
    obtain ⟨b, hb, h⟩ := bind_eq_ok.1 h
    obtain ⟨bs, hbs, h⟩ := bind_eq_ok.1 h
    cases h
    intro b' hb'
    rcases List.mem_cons.1 hb' with rfl | hb'
    · exact hf a _ hb
    · exact forall_mem_of_mapM_ok hf hbs b' hb'

end QueryDoc.Result

namespace QueryDoc.Compile

open Sql

/-! ### Scope items of the pieces the compiler builds -/

@[simp] theorem optScopeItems_push (acc : Option Expr) (c : Connective) (e : Expr) :
    Expr.optScopeItems (push acc c e) = Expr.optScopeItems acc ++ e.scopeItems := by
  have hneg : (if c.isNegated then Expr.not e else e).scopeItems = e.scopeItems := by
    split <;> rfl
  cases acc with
  | none => simp [push, Expr.optScopeItems, hneg]
  | some a =>
    simp only [push, Expr.optScopeItems]
    split <;> simp [Expr.andE, Expr.orE, Expr.scopeItems, hneg]

@[simp] theorem optScopeItems_pushGroup (acc : Option Expr) (c : Connective)
    (g : Option Expr) :
    Expr.optScopeItems (pushGroup acc c g) = Expr.optScopeItems acc ++ Expr.optScopeItems g := by
  cases g with
  | none => simp [pushGroup, Expr.optScopeItems]
  | some inner => simp [pushGroup, Expr.optScopeItems, Expr.scopeItems]

theorem pushRaw_scopeItems {acc r : Option Expr} {c : Connective} {sql : String}
    {bindings : List Param} (h : pushRaw acc c sql bindings = .ok r) :
    Expr.optScopeItems r = Expr.optScopeItems acc := by
  unfold pushRaw at h
  split at h
  · cases h
  · dsimp only at h
    split at h
    · cases h
    · cases h
      simp [Expr.scopeItems]

@[simp] theorem listScopeItems_map_bound (ps : List Param) :
    Expr.listScopeItems (ps.map .bound) = [] := by
  induction ps with
  | nil => rfl
  | cons p ps ih => simp [Expr.listScopeItems, Expr.scopeItems, ih]

theorem likeCondition_scopeItems {column : String} {k : LikeKind} {v : Value} {p : Predicate}
    (h : likeCondition column k v = .ok p) : p.toExpr.scopeItems = [] := by
  cases v with
  | text t =>
    cases h
    rfl
  | _ => cases h

theorem joinComparison_scopeItems {on : Expression} {e : Expr} (h : joinComparison on = .ok e) :
    e.scopeItems = [] := by
  unfold joinComparison at h
  split at h
  · cases h
  · split at h
    · cases h
      rfl
    · cases h

@[simp] theorem listScopeItems_map_compileField (fields : List Field) :
    SelectItem.listScopeItems (fields.map compileField) = [] := by
  induction fields with
  | nil => rfl
  | cons f fields ih =>
    simp only [List.map_cons, compileField, SelectItem.listScopeItems, ih, List.append_nil]
    split <;> rfl

@[simp] theorem listScopeItems_map_compileGroupBy (gs : List GroupBy) :
    Expr.listScopeItems (gs.map compileGroupBy) = [] := by
  induction gs with
  | nil => rfl
  | cons g gs ih =>
    simp only [List.map_cons, compileGroupBy, Expr.listScopeItems, ih, List.append_nil]
    split <;> rfl

@[simp] theorem listScopeItems_map_compileSort (sorts : List SortKey) :
    OrderItem.listScopeItems (sorts.map compileSort) = [] := by
  induction sorts with
  | nil => rfl
  | cons k sorts ih =>
    simp [compileSort, OrderItem.listScopeItems, Expr.columnPath, Expr.scopeItems, ih]

/-- A combined member in the outer select: its own `with` list is gone, and a member with set
operations of its own stands inside a derived table; either way it shows the member's items
outside its `with` list. -/
theorem scopeItems_member (m : Query) (i : Nat) :
    ∀ x ∈ (if ({ m with ctes := [] } : Query).setOps.isEmpty then { m with ctes := [] }
        else wrapCombined { m with ctes := [] } i).scopeItems,
      x = .decls [] ∨ x ∈ m.restItems := by
  intro x hx
  split at hx
  · rw [Query.scopeItems_eq] at hx
    simpa [CteDef.listScopeItems, Query.restItems] using hx
  · rw [Query.scopeItems_eq] at hx
    simp only [wrapCombined, Query.empty, Query.restItems, CteDef.listScopeItems,
      SelectItem.listScopeItems, FromItem.optScopeItems, FromItem.scopeItems,
      Expr.optScopeItems, Expr.listScopeItems, SetPart.listScopeItems, OrderItem.listScopeItems,
      ScopeItem.under_nil, List.map_id, List.nil_append, List.append_nil, List.mem_cons] at hx
    rw [Query.scopeItems_eq] at hx
    simpa [CteDef.listScopeItems, Query.restItems] using hx

theorem mem_restItems_addSetOp {stmt : Query} {ctes : List CteDef} {p : SetPart}
    {x : ScopeItem} :
    x ∈ ({ stmt with ctes := ctes, setOps := stmt.setOps ++ [p] } : Query).restItems ↔
      x ∈ stmt.restItems ∨ x ∈ p.query.scopeItems := by
  obtain ⟨op, q⟩ := p
  simp only [Query.restItems, SetPart.listScopeItems_append, SetPart.listScopeItems,
    List.append_nil, List.mem_append]
  tauto

/-! ### What the declarations declare -/

section Declarations

variable {ref : String → TableRef}

theorem declareCteWith_names {d d' : Declared} {c : Cte}
    (h : declareCteWith ref d c = .ok d') :
    c.aliasName ∈ d'.1 ∧ d.1 ⊆ d'.1 := by
  rcases declareCteWith_ok h with ⟨hin, rfl⟩ | ⟨-, _, -, rfl⟩
  · exact ⟨hin, List.Subset.refl _⟩
  · exact ⟨List.mem_append_right _ (List.mem_singleton_self _), List.subset_append_left _ _⟩

theorem declareCtesWith_mono :
    ∀ {d d' : Declared} {cs : List Cte}, declareCtesWith ref d cs = .ok d' → d.1 ⊆ d'.1
  | _, _, [], h => by
    cases h
    exact List.Subset.refl _
  | _, _, c :: cs, h => by
    obtain ⟨d₁, h₁, h⟩ := Result.bind_eq_ok.1 h
    exact List.Subset.trans (declareCteWith_names h₁).2 (declareCtesWith_mono h)

theorem declareSourceCteWith_names :
    ∀ {d d' : Declared} {src : Option Source}, declareSourceCteWith ref d src = .ok d' →
      d.1 ⊆ d'.1 ∧ ∀ c, src = some (.cte c) → c.aliasName ∈ d'.1
  | _, _, some (.cte c), h => by
    obtain ⟨hin, hsub⟩ := declareCteWith_names h
    refine ⟨hsub, fun c' hc' => ?_⟩
    cases hc'
    exact hin
  | _, _, none, h | _, _, some (.table _), h | _, _, some (.derived _), h => by
    cases h
    exact ⟨List.Subset.refl _, fun _ hc => by cases hc⟩

theorem declareJoinCtesWith_names :
    ∀ {d d' : Declared} {js : List Join}, declareJoinCtesWith ref d js = .ok d' →
      d.1 ⊆ d'.1 ∧ ∀ j ∈ js, ∀ c, j.target = .cte c → c.aliasName ∈ d'.1
  | _, _, [], h => by
    cases h
    exact ⟨List.Subset.refl _, fun _ hj => absurd hj List.not_mem_nil⟩
  | _, _, ⟨.cte c, _, _, _⟩ :: js, h => by
    obtain ⟨d₁, h₁, h⟩ := Result.bind_eq_ok.1 h
    obtain ⟨hin, hsub₁⟩ := declareCteWith_names h₁
    obtain ⟨hsub, hjs⟩ := declareJoinCtesWith_names h
    refine ⟨List.Subset.trans hsub₁ hsub, List.forall_mem_cons.2 ⟨fun c' hc' => ?_, hjs⟩⟩
    cases hc'
    exact hsub hin
  | _, _, ⟨.table _, _, _, _⟩ :: js, h | _, _, ⟨.derived _, _, _, _⟩ :: js, h => by
    have h' : declareJoinCtesWith ref _ js = .ok _ := h
    obtain ⟨hsub, hjs⟩ := declareJoinCtesWith_names h'
    exact ⟨hsub, List.forall_mem_cons.2 ⟨fun _ hc' => (by cases hc'), hjs⟩⟩

theorem declareCombineCtesWith_mono :
    ∀ {d d' : Declared} {cs : List Combine}, declareCombineCtesWith ref d cs = .ok d' →
      d.1 ⊆ d'.1
  | _, _, [], h => by
    cases h
    exact List.Subset.refl _
  | _, _, ⟨⟨ctes, source, _, joins, _, _, _, _, _⟩, _⟩ :: cs, h => by
    obtain ⟨d₁, h₁, h⟩ := Result.bind_eq_ok.1 h
    obtain ⟨d₂, h₂, h⟩ := Result.bind_eq_ok.1 h
    obtain ⟨d₃, h₃, h⟩ := Result.bind_eq_ok.1 h
    exact List.Subset.trans (declareCtesWith_mono h₁) (List.Subset.trans
      (declareSourceCteWith_names h₂).1
      (List.Subset.trans (declareJoinCtesWith_names h₃).1 (declareCombineCtesWith_mono h)))

end Declarations

/-! ### The invariant of the declarations -/

section Invariant

variable {ref : String → TableRef} {U : List Cte}

/-- What the declarations of one select keep, against the scope `outer` around the select:
its `with` list is sound, so are the bodies in it, every name declared so far is in `outer`
or resolved by the list, and every declaration's name is declared. -/
structure DeclScope (ref : String → TableRef) (U : List Cte) (outer : List String)
    (d : Declared) : Prop where
  decls : (ScopeItem.decls d.2).Sound ref U outer
  bodies : Scoped ref U outer (CteDef.listScopeItems d.2)
  covers : ∀ n ∈ d.1, n ∈ outer ∨ Resolves ref U d.2 n
  declared : ∀ x ∈ d.2, x.name ∈ d.1

theorem declScope_start (outer : List String) : DeclScope ref U outer (outer, []) where
  decls := ⟨List.nodup_nil, fun _ h => absurd h List.not_mem_nil⟩
  bodies := scoped_nil outer
  covers := fun _ hn => .inl hn
  declared := fun _ h => absurd h List.not_mem_nil

/-- A fresh declaration keeps the invariant when its body is sound in the scope so far. -/
theorem DeclScope.declare {outer : List String} {d : Declared} (x : CteDef)
    (hd : DeclScope ref U outer d) (hfresh : x.name ∉ d.1)
    (hx : ∃ c ∈ U, x.CompiledFrom ref c)
    (hbody : Scoped ref U d.1 x.body.scopeItems) :
    DeclScope ref U outer (d.1 ++ [x.name], d.2 ++ [x]) where
  decls := hd.decls.decls_append (fun y hy hname => hfresh (hname ▸ hd.declared y hy)) hx
  bodies := by
    obtain ⟨name, body⟩ := x
    rw [CteDef.listScopeItems_append, scoped_append]
    refine ⟨hd.bodies, ?_⟩
    simpa [CteDef.listScopeItems] using hbody.under hd.covers
  covers := by
    intro n hn
    rcases List.mem_append.1 hn with hn | hn
    · exact (hd.covers n hn).imp_right fun h => resolves_append.2 (.inl h)
    · cases List.mem_singleton.1 hn
      exact .inr (resolves_append.2 (.inr ⟨x, List.mem_singleton_self _, rfl, hx⟩))
  declared := by
    intro y hy
    rcases List.mem_append.1 hy with hy | hy
    · exact List.mem_append_left _ (hd.declared y hy)
    · cases List.mem_singleton.1 hy
      exact List.mem_append_right _ (List.mem_singleton_self _)

/-! ### Hoisting the declarations of combined members -/

theorem hoistCtes_append : ∀ (acc cs : List CteDef), ∃ extra, hoistCtes acc cs = acc ++ extra
  | acc, [] => ⟨[], by simp [hoistCtes]⟩
  | acc, c :: cs => by
    obtain ⟨extra, h⟩ :=
      hoistCtes_append (if acc.any (·.name == c.name) then acc else acc ++ [c]) cs
    rw [hoistCtes, h]
    split
    · exact ⟨extra, rfl⟩
    · exact ⟨c :: extra, by simp⟩

/-- A declaration appended to both lists keeps a cover: the outer list resolves the new name
with the same declaration. -/
theorem cover_append {outer inner : List String} {pre acc ext : List CteDef}
    (hcover : ∀ n, n ∈ inner ∨ Resolves ref U pre n → n ∈ outer ∨ Resolves ref U acc n) :
    ∀ n, n ∈ inner ∨ Resolves ref U (pre ++ ext) n →
      n ∈ outer ∨ Resolves ref U (acc ++ ext) n := by
  intro n hn
  rcases hn with hn | hn
  · exact (hcover n (.inl hn)).imp_right fun h => resolves_append.2 (.inl h)
  · rcases resolves_append.1 hn with hn | hn
    · exact (hcover n (.inr hn)).imp_right fun h => resolves_append.2 (.inl h)
    · exact .inr (resolves_append.2 (.inr hn))

/-- Hoisting a member's declarations `cs` (after `pre`, the member's ones hoisted already)
into the outer list `acc`: the outer list stays sound, and resolves every name the member's
scope and list resolved. The induction is on the member's list; a name the outer list has
already keeps the outer declaration. -/
theorem hoistCtes_scoped {outer inner : List String} :
    ∀ (acc pre cs : List CteDef), (ScopeItem.decls acc).Sound ref U outer →
      Scoped ref U outer (CteDef.listScopeItems acc) →
      (∀ n, n ∈ inner ∨ Resolves ref U pre n → n ∈ outer ∨ Resolves ref U acc n) →
      (∀ x ∈ cs, ∃ c ∈ U, x.CompiledFrom ref c) →
      Scoped ref U inner ((CteDef.listScopeItems cs).map (ScopeItem.under pre)) →
      (ScopeItem.decls (hoistCtes acc cs)).Sound ref U outer ∧
        Scoped ref U outer (CteDef.listScopeItems (hoistCtes acc cs)) ∧
        ∀ n, n ∈ inner ∨ Resolves ref U (pre ++ cs) n →
          n ∈ outer ∨ Resolves ref U (hoistCtes acc cs) n
  | acc, pre, [], hdecl, hbodies, hcover, _, _ =>
    ⟨hdecl, hbodies, by simpa [hoistCtes] using hcover⟩
  | acc, pre, ⟨name, body⟩ :: cs, hdecl, hbodies, hcover, hcompiled, hitems => by
    -- the head's body, and the rest of the member's list, which also sees the head
    simp only [CteDef.listScopeItems, List.map_append, List.map_map, scoped_append] at hitems
    obtain ⟨hhead, hrest⟩ := hitems
    have hrest' : Scoped ref U inner
        ((CteDef.listScopeItems cs).map (ScopeItem.under (pre ++ [⟨name, body⟩]))) := by
      simpa [Function.comp_def] using hrest
    have hcompiled' : ∀ x ∈ cs, ∃ c ∈ U, x.CompiledFrom ref c :=
      fun x hx => hcompiled x (List.mem_cons_of_mem _ hx)
    have hx := hcompiled _ List.mem_cons_self
    rw [hoistCtes, List.append_cons pre]
    split
    next hany =>
      -- the outer list declares the name already, with a declaration that resolves it
      obtain ⟨y, hy, hyname⟩ := List.any_eq_true.1 hany
      have hname : Resolves ref U acc name :=
        ⟨y, hy, by simpa using hyname, hdecl.2 y hy⟩
      refine hoistCtes_scoped acc _ cs hdecl hbodies (fun n hn => ?_) hcompiled' hrest'
      rcases hn with hn | hn
      · exact hcover n (.inl hn)
      · rcases resolves_append.1 hn with hn | ⟨_, hz, rfl, -⟩
        · exact hcover n (.inr hn)
        · cases List.mem_singleton.1 hz
          exact .inr hname
    next hany =>
      have hfresh : ∀ y ∈ acc, y.name ≠ name := by
        intro y hy hyname
        exact hany (List.any_eq_true.2 ⟨y, hy, by simp [hyname]⟩)
      have hdecl' := hdecl.decls_append hfresh hx
      have hbodies' : Scoped ref U outer (CteDef.listScopeItems (acc ++ [⟨name, body⟩])) := by
        rw [CteDef.listScopeItems_append, scoped_append]
        exact ⟨hbodies, by simpa [CteDef.listScopeItems] using hhead.reroot hcover⟩
      exact hoistCtes_scoped _ _ cs hdecl' hbodies' (cover_append hcover) hcompiled' hrest'

/-- One combined member added to the outer select keeps it sound: its declarations are
hoisted, and it is seen under the hoisted list. -/
theorem combine_scoped {outer inner : List String} {stmt member m : Query} (op : SetOperation)
    (hstmt : Scoped ref U outer stmt.scopeItems)
    (hcover : ∀ n ∈ inner, n ∈ outer ∨ Resolves ref U stmt.ctes n)
    (hmember : Scoped ref U inner member.scopeItems)
    (hm : ∀ x ∈ m.scopeItems, x = .decls [] ∨ x ∈ member.restItems) :
    Scoped ref U outer
        ({ stmt with
            ctes := hoistCtes stmt.ctes member.ctes
            setOps := stmt.setOps ++ [⟨op, m⟩] } : Query).scopeItems ∧
      ∀ n ∈ inner, n ∈ outer ∨ Resolves ref U (hoistCtes stmt.ctes member.ctes) n := by
  rw [Query.scopeItems_eq] at hstmt hmember ⊢
  simp only [scoped_cons, scoped_append] at hstmt hmember ⊢
  obtain ⟨hdecl, hbodies, hrest⟩ := hstmt
  obtain ⟨hmdecl, hmbodies, hmrest⟩ := hmember
  obtain ⟨hH, hHbodies, hHcover⟩ := hoistCtes_scoped stmt.ctes [] member.ctes hdecl hbodies
    (fun n hn => hn.elim (hcover n) fun ⟨_, hd, _⟩ => absurd hd List.not_mem_nil)
    hmdecl.2 (by simpa using hmbodies)
  obtain ⟨extra, hextra⟩ := hoistCtes_append stmt.ctes member.ctes
  -- the outer list only grows, so what it resolved stays resolved
  have hgrow : ∀ n, Resolves ref U stmt.ctes n →
      Resolves ref U (hoistCtes stmt.ctes member.ctes) n := fun n h => by
    rw [hextra]
    exact resolves_append.2 (.inl h)
  refine ⟨⟨hH, hHbodies, ?_⟩, fun n hn => (hcover n hn).imp_right (hgrow n)⟩
  intro x hx
  obtain ⟨y, hy, rfl⟩ := List.mem_map.1 hx
  rcases mem_restItems_addSetOp.1 hy with hy | hy
  · exact (hrest _ (List.mem_map_of_mem hy)).reroot fun n hn => hn.imp_right (hgrow n)
  · rcases hm y hy with rfl | hy
    · exact ⟨List.nodup_nil, fun _ h => absurd h List.not_mem_nil⟩
    · exact (hmrest _ (List.mem_map_of_mem hy)).reroot fun n hn => hHcover n (by simpa using hn)

end Invariant

section Scoping

variable {ref : String → TableRef} {U : List Cte}

mutual

theorem toPredicateWith_scoped (scope : List String) (name : String) :
    ∀ (value : Value) (relation : Relation) {p : Predicate}, value.allCtes ⊆ U →
      toPredicateWith ref scope name value relation = .ok p →
      Scoped ref U scope p.toExpr.scopeItems
  | value, .equalTo, _, _, h | value, .greaterThan, _, _, h
  | value, .greaterThanOrEqualTo, _, _, h | value, .lessThan, _, _, h
  | value, .lessThanOrEqualTo, _, _, h => by
    unfold toPredicateWith at h
    split at h
    · cases h
      simp [Predicate.toExpr, Expr.columnPath, Expr.scopeItems]
    · dsimp only [comparisonOperator] at h
      obtain ⟨v, -, h⟩ := Result.bind_eq_ok.1 h
      cases h
      simp [Predicate.toExpr, Expr.columnPath, Expr.scopeItems]
  | .query s, .isIn, _, hsub, h => by
    unfold toPredicateWith at h
    obtain ⟨q, hq, h⟩ := Result.bind_eq_ok.1 h
    cases h
    simpa [Predicate.toExpr, Expr.columnPath, Expr.scopeItems] using
      compileSelectWith_scoped scope s hsub hq
  | .list vs, .isIn, _, _, h => by
    unfold toPredicateWith at h
    obtain ⟨ps, -, h⟩ := Result.bind_eq_ok.1 h
    cases h
    simp [Predicate.toExpr, Expr.columnPath, Expr.scopeItems]
  | .null, .isIn, _, _, h => by
    unfold toPredicateWith at h
    cases h
    simp [Predicate.toExpr, Expr.columnPath, Expr.scopeItems, Expr.listScopeItems]
  | .bool _, .isIn, _, _, h | .integer _, .isIn, _, _, h | .float _, .isIn, _, _, h
  | .text _, .isIn, _, _, h => by
    unfold toPredicateWith at h
    cases h
  | _, .nullValue, _, _, h | _, .trueValue, _, _, h => by
    unfold toPredicateWith at h
    cases h
    simp [Predicate.toExpr, Expr.columnPath, Expr.scopeItems]
  | .query s, .exists, _, hsub, h => by
    unfold toPredicateWith at h
    obtain ⟨q, hq, h⟩ := Result.bind_eq_ok.1 h
    cases h
    simpa [Predicate.toExpr, Expr.scopeItems] using compileSelectWith_scoped scope s hsub hq
  | .null, .exists, _, _, h | .bool _, .exists, _, _, h | .integer _, .exists, _, _, h
  | .float _, .exists, _, _, h | .text _, .exists, _, _, h | .list _, .exists, _, _, h => by
    unfold toPredicateWith at h
    cases h
  | value, .startsWith, _, _, h | value, .endsWith, _, _, h | value, .contains, _, _, h => by
    unfold toPredicateWith at h
    rw [likeCondition_scopeItems h]
    exact scoped_nil scope

theorem appendExpressionWith_scoped (scope : List String) (acc : Option Expr) (c : Connective) :
    ∀ (e : Expression) {r : Option Expr}, e.allCtes ⊆ U →
      Scoped ref U scope (Expr.optScopeItems acc) →
      appendExpressionWith ref scope acc c e = .ok r → Scoped ref U scope (Expr.optScopeItems r)
  | ⟨name, value, relation, c', true⟩, _, _, hacc, h => by
    unfold appendExpressionWith at h
    rw [if_pos rfl] at h
    split at h
    · cases h
    · obtain ⟨bindings, -, h⟩ := Result.bind_eq_ok.1 h
      rw [pushRaw_scopeItems h]
      exact hacc
  | ⟨name, value, relation, c', false⟩, _, hsub, hacc, h => by
    unfold appendExpressionWith at h
    rw [if_neg Bool.false_ne_true] at h
    obtain ⟨p, hp, h⟩ := Result.bind_eq_ok.1 h
    cases h
    rw [optScopeItems_push, scoped_append]
    exact ⟨hacc, toPredicateWith_scoped scope name value relation hsub hp⟩

theorem appendExpressionsWith_scoped (scope : List String) :
    ∀ (acc : Option Expr) (first : Bool) (es : List Expression) {r : Option Expr × Bool},
      Expression.listAllCtes es ⊆ U → Scoped ref U scope (Expr.optScopeItems acc) →
      appendExpressionsWith ref scope acc first es = .ok r →
      Scoped ref U scope (Expr.optScopeItems r.1)
  | _, _, [], _, _, hacc, h => by
    cases h
    exact hacc
  | acc, first, e :: es, _, hsub, hacc, h => by
    simp only [Expression.listAllCtes, List.append_subset] at hsub
    obtain ⟨acc', hacc', h⟩ := Result.bind_eq_ok.1 h
    exact appendExpressionsWith_scoped scope acc' false es hsub.2
      (appendExpressionWith_scoped scope acc _ e hsub.1 hacc hacc') h

theorem appendAllAndWith_scoped (scope : List String) :
    ∀ (acc : Option Expr) (es : List Expression) {r : Option Expr},
      Expression.listAllCtes es ⊆ U → Scoped ref U scope (Expr.optScopeItems acc) →
      appendAllAndWith ref scope acc es = .ok r → Scoped ref U scope (Expr.optScopeItems r)
  | _, [], _, _, hacc, h => by
    cases h
    exact hacc
  | acc, e :: es, _, hsub, hacc, h => by
    simp only [Expression.listAllCtes, List.append_subset] at hsub
    obtain ⟨acc', hacc', h⟩ := Result.bind_eq_ok.1 h
    exact appendAllAndWith_scoped scope acc' es hsub.2
      (appendExpressionWith_scoped scope acc _ e hsub.1 hacc hacc') h

theorem applyFilterWith_scoped (scope : List String) :
    ∀ (acc : Option Expr) (f : Filter) {r : Option Expr}, f.allCtes ⊆ U →
      Scoped ref U scope (Expr.optScopeItems acc) →
      applyFilterWith ref scope acc f = .ok r → Scoped ref U scope (Expr.optScopeItems r)
  | acc, ⟨es, fs, c⟩, _, hsub, hacc, h => by
    simp only [Filter.allCtes, List.append_subset] at hsub
    obtain ⟨⟨acc', first⟩, hes, h⟩ := Result.bind_eq_ok.1 h
    exact applyChildrenWith_scoped scope acc' first c fs hsub.2
      (appendExpressionsWith_scoped scope acc true es hsub.1 hacc hes) h

theorem applyChildrenWith_scoped (scope : List String) :
    ∀ (acc : Option Expr) (first : Bool) (c : Connective) (fs : List Filter) {r : Option Expr},
      Filter.listAllCtes fs ⊆ U → Scoped ref U scope (Expr.optScopeItems acc) →
      applyChildrenWith ref scope acc first c fs = .ok r →
      Scoped ref U scope (Expr.optScopeItems r)
  | _, _, _, [], _, _, hacc, h => by
    cases h
    exact hacc
  | acc, first, c, f :: fs, _, hsub, hacc, h => by
    simp only [Filter.listAllCtes, List.append_subset] at hsub
    obtain ⟨g, hg, h⟩ := Result.bind_eq_ok.1 h
    have hgroup := applyFilterWith_scoped scope none f hsub.1 (scoped_nil scope) hg
    refine applyChildrenWith_scoped scope _ false c fs hsub.2 ?_ h
    rw [optScopeItems_pushGroup, scoped_append]
    exact ⟨hacc, hgroup⟩

theorem compileConditionWith_scoped (scope : List String) :
    ∀ (f : Option Filter) {r : Option Expr}, Filter.optAllCtes f ⊆ U →
      compileConditionWith ref scope f = .ok r → Scoped ref U scope (Expr.optScopeItems r)
  | none, _, _, h => by
    cases h
    exact scoped_nil scope
  | some f, _, hsub, h => applyFilterWith_scoped scope none f hsub (scoped_nil scope) h

theorem declareCteWith_scoped {outer : List String} :
    ∀ (d : Declared) (c : Cte) {d' : Declared}, DeclScope ref U outer d → c.allCtes ⊆ U →
      declareCteWith ref d c = .ok d' → DeclScope ref U outer d'
  | d, ⟨aliasName, .select s⟩, _, hd, hsub, h => by
    have hc := hsub (Cte.mem_allCtes _)
    rcases declareCteWith_ok h with ⟨-, rfl⟩ | ⟨hfresh, body, hbody, rfl⟩
    · exact hd
    · cases body with
      | select q =>
        exact DeclScope.declare ⟨aliasName, .select q⟩ hd hfresh ⟨_, hc, rfl, d.1, hbody⟩
          (compileSelectWith_scoped d.1 s (List.cons_subset.1 hsub).2 hbody)
      | raw text => exact hbody.elim
  | d, ⟨aliasName, .rawSql sql⟩, _, hd, hsub, h => by
    have hc := hsub (Cte.mem_allCtes _)
    rcases declareCteWith_ok h with ⟨-, rfl⟩ | ⟨hfresh, body, hbody, rfl⟩
    · exact hd
    · cases body with
      | select q => exact hbody.elim
      | raw text =>
        exact DeclScope.declare ⟨aliasName, .raw text⟩ hd hfresh ⟨_, hc, rfl, d.1, hbody⟩
          (scoped_nil d.1)

theorem declareCtesWith_scoped {outer : List String} :
    ∀ (d : Declared) (cs : List Cte) {d' : Declared}, DeclScope ref U outer d →
      Cte.listAllCtes cs ⊆ U → declareCtesWith ref d cs = .ok d' → DeclScope ref U outer d'
  | d, [], _, hd, _, h => by
    cases h
    exact hd
  | d, c :: cs, _, hd, hsub, h => by
    simp only [Cte.listAllCtes, List.append_subset] at hsub
    obtain ⟨d₁, h₁, h⟩ := Result.bind_eq_ok.1 h
    exact declareCtesWith_scoped d₁ cs (declareCteWith_scoped d c hd hsub.1 h₁) hsub.2 h

theorem declareSourceCteWith_scoped {outer : List String} :
    ∀ (d : Declared) (src : Option Source) {d' : Declared}, DeclScope ref U outer d →
      Source.optAllCtes src ⊆ U → declareSourceCteWith ref d src = .ok d' →
      DeclScope ref U outer d'
  | d, some (.cte c), _, hd, hsub, h => declareCteWith_scoped d c hd hsub h
  | d, none, _, hd, _, h | d, some (.table _), _, hd, _, h
  | d, some (.derived _), _, hd, _, h => by
    cases h
    exact hd

theorem declareJoinCtesWith_scoped {outer : List String} :
    ∀ (d : Declared) (js : List Join) {d' : Declared}, DeclScope ref U outer d →
      Join.listAllCtes js ⊆ U → declareJoinCtesWith ref d js = .ok d' →
      DeclScope ref U outer d'
  | d, [], _, hd, _, h => by
    cases h
    exact hd
  | d, ⟨.cte c, on, es, kind⟩ :: js, _, hd, hsub, h => by
    simp only [Join.listAllCtes, Join.allCtes, Source.allCtes, List.append_subset] at hsub
    obtain ⟨d₁, h₁, h⟩ := Result.bind_eq_ok.1 h
    exact declareJoinCtesWith_scoped d₁ js (declareCteWith_scoped d c hd hsub.1.1.1 h₁) hsub.2 h
  | d, ⟨.table _, on, es, kind⟩ :: js, _, hd, hsub, h
  | d, ⟨.derived _, on, es, kind⟩ :: js, _, hd, hsub, h => by
    simp only [Join.listAllCtes, List.append_subset] at hsub
    exact declareJoinCtesWith_scoped d js hd hsub.2 h

theorem declareCombineCtesWith_scoped {outer : List String} :
    ∀ (d : Declared) (cs : List Combine) {d' : Declared}, DeclScope ref U outer d →
      Combine.listAllCtes cs ⊆ U → declareCombineCtesWith ref d cs = .ok d' →
      DeclScope ref U outer d'
  | d, [], _, hd, _, h => by
    cases h
    exact hd
  | d, ⟨⟨ctes, source, _, joins, _, _, _, _, _⟩, _⟩ :: cs, _, hd, hsub, h => by
    simp only [Combine.listAllCtes, Select.allCtes, List.append_subset, and_assoc] at hsub
    obtain ⟨hctes, hsrc, hjoins, -, -, -, hcs⟩ := hsub
    obtain ⟨d₁, h₁, h⟩ := Result.bind_eq_ok.1 h
    obtain ⟨d₂, h₂, h⟩ := Result.bind_eq_ok.1 h
    obtain ⟨d₃, h₃, h⟩ := Result.bind_eq_ok.1 h
    have hd₁ := declareCtesWith_scoped d ctes hd hctes h₁
    have hd₂ := declareSourceCteWith_scoped d₁ source hd₁ hsrc h₂
    have hd₃ := declareJoinCtesWith_scoped d₂ joins hd₂ hjoins h₃
    exact declareCombineCtesWith_scoped d₃ cs hd₃ hcs h

theorem compileSourceWith_scoped (scope : List String) :
    ∀ (src : Source) {f : FromItem}, src.allCtes ⊆ U →
      (∀ c, src = .cte c → c.aliasName ∈ scope) →
      compileSourceWith ref scope src = .ok f →
      Scoped ref U scope f.scopeItems
  | .table t, _, _, _, h => by
    cases h
    simp only [FromItem.scopeItems, scoped_cons, scoped_nil, and_true]
    exact .inl ⟨t, rfl⟩
  | .derived ⟨s, _⟩, _, hsub, _, h => by
    obtain ⟨q, hq, h⟩ := Result.bind_eq_ok.1 h
    cases h
    exact compileSelectWith_scoped scope s hsub hq
  | .cte ⟨aliasName, _⟩, _, _, hin, h => by
    cases h
    simp only [FromItem.scopeItems, scoped_cons, scoped_nil, and_true]
    exact .inr ⟨aliasName, rfl, .inl (hin _ rfl)⟩

theorem compileOptSourceWith_scoped (scope : List String) :
    ∀ (src : Option Source) {f : Option FromItem}, Source.optAllCtes src ⊆ U →
      (∀ c, src = some (.cte c) → c.aliasName ∈ scope) →
      compileOptSourceWith ref scope src = .ok f → Scoped ref U scope (FromItem.optScopeItems f)
  | none, _, _, _, h => by
    cases h
    exact scoped_nil scope
  | some src, _, hsub, hin, h => by
    obtain ⟨f, hf, h⟩ := Result.bind_eq_ok.1 h
    cases h
    exact compileSourceWith_scoped scope src hsub (fun c hc => hin c (by rw [hc])) hf

theorem compileJoinsWith_scoped (scope : List String) :
    ∀ (left : Option FromItem) (js : List Join) {r : Option FromItem},
      Join.listAllCtes js ⊆ U →
      (∀ j ∈ js, ∀ c, j.target = .cte c → c.aliasName ∈ scope) →
      Scoped ref U scope (FromItem.optScopeItems left) →
      compileJoinsWith ref scope left js = .ok r → Scoped ref U scope (FromItem.optScopeItems r)
  | _, [], _, _, _, hleft, h => by
    cases h
    exact hleft
  | none, ⟨_, _, _, _⟩ :: _, _, _, _, _, h => by
    unfold compileJoinsWith at h
    dsimp only at h
    obtain ⟨_, hl, -⟩ := Result.bind_eq_ok.1 h
    cases hl
  | some l, ⟨target, on, es, kind⟩ :: js, r, hsub, hin, hleft, h => by
    simp only [Join.listAllCtes, Join.allCtes, List.append_subset] at hsub
    obtain ⟨⟨⟨htargetU, honU⟩, hesU⟩, hjsU⟩ := hsub
    unfold compileJoinsWith at h
    dsimp only at h
    obtain ⟨l', hl', h⟩ := Result.bind_eq_ok.1 h
    cases hl'
    obtain ⟨right, hright, h⟩ := Result.bind_eq_ok.1 h
    have hr := compileSourceWith_scoped scope target htargetU (hin _ List.mem_cons_self) hright
    -- what follows the `on` condition: the further conditions, then the next joins
    have hrest : ∀ cond, Scoped ref U scope (Expr.optScopeItems cond) → (do
        let cond ← appendAllAndWith ref scope cond es
        compileJoinsWith ref scope (some (.join l kind right cond)) js) = .ok r →
        Scoped ref U scope (FromItem.optScopeItems r) := fun cond hcond h => by
      obtain ⟨cond', hes, h⟩ := Result.bind_eq_ok.1 h
      have hcond' := appendAllAndWith_scoped scope cond es hesU hcond hes
      refine compileJoinsWith_scoped scope _ js hjsU
        (fun j hj => hin j (List.mem_cons_of_mem _ hj)) ?_ h
      simp only [FromItem.optScopeItems, FromItem.scopeItems, scoped_append] at hleft ⊢
      exact ⟨⟨hleft, hr⟩, hcond'⟩
    -- the `on` condition: raw SQL, or a comparison of two columns
    split at h
    · obtain ⟨cond, hcond, h⟩ := Result.bind_eq_ok.1 h
      exact hrest cond (appendExpressionWith_scoped scope none _ on honU (scoped_nil scope) hcond) h
    · obtain ⟨e, he, h⟩ := Result.bind_eq_ok.1 h
      refine hrest _ ?_ h
      rw [optScopeItems_push, joinComparison_scopeItems he]
      exact scoped_nil scope

theorem compileCombinesWith_scoped {outer : List String} (scope : List String) :
    ∀ (stmt : Query) (i : Nat) (cs : List Combine) {q : Query},
      Combine.listAllCtes cs ⊆ U → Scoped ref U outer stmt.scopeItems →
      (∀ n ∈ scope, n ∈ outer ∨ Resolves ref U stmt.ctes n) →
      compileCombinesWith ref scope stmt i cs = .ok q → Scoped ref U outer q.scopeItems
  | _, _, [], _, _, hstmt, _, h => by
    cases h
    exact hstmt
  | stmt, i, ⟨s, op⟩ :: cs, _, hsub, hstmt, hcover, h => by
    simp only [Combine.listAllCtes, List.append_subset] at hsub
    unfold compileCombinesWith at h
    obtain ⟨member, hmember, h⟩ := Result.bind_eq_ok.1 h
    split at h
    · cases h
    · dsimp only at h
      obtain ⟨hstmt', hcover'⟩ := combine_scoped op hstmt hcover
        (compileSelectWith_scoped scope s hsub.1 hmember) (scopeItems_member member i)
      exact compileCombinesWith_scoped scope _ _ cs hsub.2 hstmt' hcover' h

theorem compileSelectWith_scoped (scope : List String) :
    ∀ (s : Select) {q : Query}, s.allCtes ⊆ U → compileSelectWith ref scope s = .ok q →
      Scoped ref U scope q.scopeItems
  | ⟨ctes, source, fields, joins, filter, groupBys, having, sorts, combines⟩, _, hsub, h => by
    simp only [Select.allCtes, List.append_subset, and_assoc] at hsub
    obtain ⟨hctesU, hsrcU, hjoinsU, hfilterU, hhavingU, hcombinesU⟩ := hsub
    unfold compileSelectWith at h
    -- the declarations, in the order the select makes them
    obtain ⟨d₁, h₁, h⟩ := Result.bind_eq_ok.1 h
    obtain ⟨d₂, h₂, h⟩ := Result.bind_eq_ok.1 h
    obtain ⟨d₃, h₃, h⟩ := Result.bind_eq_ok.1 h
    obtain ⟨d, h₄, h⟩ := Result.bind_eq_ok.1 h
    have hd := declareCombineCtesWith_scoped d₃ combines
      (declareJoinCtesWith_scoped d₂ joins
        (declareSourceCteWith_scoped d₁ source
          (declareCtesWith_scoped _ ctes (declScope_start scope) hctesU h₁) hsrcU h₂)
        hjoinsU h₃) hcombinesU h₄
    -- the source's and the joins' common table expressions are declared by then
    obtain ⟨hsub₂, hsrcIn⟩ := declareSourceCteWith_names h₂
    obtain ⟨hsub₃, hjoinIn⟩ := declareJoinCtesWith_names h₃
    have hsub₄ := declareCombineCtesWith_mono h₄
    -- the parts, compiled in the scope of all declarations
    obtain ⟨src, h₅, h⟩ := Result.bind_eq_ok.1 h
    have hsrc := compileOptSourceWith_scoped d.1 source hsrcU
      (fun c hc => hsub₄ (hsub₃ (hsrcIn c hc))) h₅
    obtain ⟨src', h₆, h⟩ := Result.bind_eq_ok.1 h
    have hsrc' := compileJoinsWith_scoped d.1 src joins hjoinsU
      (fun j hj c hc => hsub₄ (hjoinIn j hj c hc)) hsrc h₆
    obtain ⟨flt, h₇, h⟩ := Result.bind_eq_ok.1 h
    have hflt := compileConditionWith_scoped d.1 filter hfilterU h₇
    obtain ⟨hv, h₈, h⟩ := Result.bind_eq_ok.1 h
    have hhv := compileConditionWith_scoped d.1 having hhavingU h₈
    refine compileCombinesWith_scoped d.1 _ 0 combines hcombinesU ?_ hd.covers h
    -- the select before its combined members: its list, the bodies, and the parts under it
    rw [Query.scopeItems_eq]
    refine scoped_cons.2 ⟨hd.decls, scoped_append.2 ⟨hd.bodies, Scoped.under ?_ hd.covers⟩⟩
    have hcols : SelectItem.listScopeItems
        (if fields.isEmpty then [.star] else fields.map compileField) = [] := by
      split <;> simp [SelectItem.listScopeItems]
    simp only [Query.restItems, hcols, listScopeItems_map_compileGroupBy,
      listScopeItems_map_compileSort, SetPart.listScopeItems, List.nil_append, List.append_nil,
      scoped_append]
    exact ⟨⟨hsrc', hflt⟩, hhv⟩

end

end Scoping

/-! ### Statements -/

section Statements

variable {ref : String → TableRef} {U : List Cte}

theorem listScopeItems_eq_nil {es : List Expr} (h : ∀ e ∈ es, e.scopeItems = []) :
    Expr.listScopeItems es = [] := by
  induction es with
  | nil => rfl
  | cons e es ih =>
    simp only [Expr.listScopeItems, h e List.mem_cons_self,
      ih fun e' he' => h e' (List.mem_cons_of_mem _ he'), List.append_nil]

theorem compileFlatConditionWith_scoped {es : List Expression} {r : Option Expr}
    (hsub : Expression.listAllCtes es ⊆ U) (h : compileFlatConditionWith ref es = .ok r) :
    Scoped ref U [] (Expr.optScopeItems r) := by
  obtain ⟨⟨acc, first⟩, hes, h⟩ := Result.bind_eq_ok.1 h
  cases h
  exact appendExpressionsWith_scoped [] none true es hsub (scoped_nil []) hes

/-- Each field value is compiled to what `g` makes of its bound parameter. -/
theorem mapM_boundValues_eq {β : Type} {fields : List FieldValue} {rows : List β}
    {g : FieldValue → Param → β}
    (h : (fields.mapM fun (f : FieldValue) => do
        let p ← Value.toParam f.value
        pure (g f p)) = .ok rows) :
    ∀ x ∈ rows, ∃ f p, x = g f p :=
  Result.forall_mem_of_mapM_ok (fun f x hx => by
    obtain ⟨p, -, hx⟩ := Result.bind_eq_ok.1 hx
    cases hx
    exact ⟨f, p, rfl⟩) h

/-- A field value is written as a bound parameter. -/
theorem mapM_boundValues_scopeItems {β : Type} {fields : List FieldValue} {rows : List β}
    {g : FieldValue → Param → β} {e : β → Expr} (he : ∀ f p, (e (g f p)).scopeItems = [])
    (h : (fields.mapM fun (f : FieldValue) => do
        let p ← Value.toParam f.value
        pure (g f p)) = .ok rows) :
    ∀ x ∈ rows, (e x).scopeItems = [] := by
  intro x hx
  obtain ⟨f, p, rfl⟩ := mapM_boundValues_eq h x hx
  exact he f p

/-- An insert from a query takes the query's `with` list as its own; the rows after it see the
list, as the query's body did. -/
theorem compileInsertWith_scoped {s : Insert} {r : InsertStmt}
    (hsub : (s.query.map Select.allCtes).getD [] ⊆ U) (h : compileInsertWith ref s = .ok r) :
    Scoped ref U [] (Stmt.insert r).scopeItems := by
  have htable : (ScopeItem.ref (tableRef s.table) []).Sound ref U [] := .inl ⟨_, rfl⟩
  unfold compileInsertWith at h
  split at h
  · cases h
  · cases h
  · -- field values: one row of bound parameters
    obtain ⟨row, hrow, h⟩ := Result.bind_eq_ok.1 h
    cases h
    have hrow' := listScopeItems_eq_nil
      (mapM_boundValues_scopeItems (e := id) (fun _ _ => rfl) hrow)
    simp [Stmt.scopeItems, InsertRows.scopeItems, CteDef.listScopeItems, hrow', ScopeItem.Sound]
  · rename_i q hq _
    split at h
    · cases h
    · obtain ⟨compiled, hc, h⟩ := Result.bind_eq_ok.1 h
      cases h
      have hcompiled := compileSelectWith_scoped [] q (by simpa [hq] using hsub) hc
      rw [Query.scopeItems_eq] at hcompiled
      simp only [scoped_cons, scoped_append] at hcompiled
      obtain ⟨hdecl, hbodies, hrest⟩ := hcompiled
      simp only [Stmt.scopeItems, InsertRows.scopeItems, scoped_cons, scoped_append]
      refine ⟨htable, hdecl, hbodies, ?_⟩
      rw [Query.scopeItems_eq]
      simpa [CteDef.listScopeItems, Query.restItems, ScopeItem.under, ScopeItem.Sound] using
        hrest

theorem compileUpdateWith_scoped {s : Update} {r : UpdateStmt}
    (hsub : Expression.listAllCtes s.filters ⊆ U) (h : compileUpdateWith ref s = .ok r) :
    Scoped ref U [] (Stmt.update r).scopeItems := by
  unfold compileUpdateWith at h
  split at h
  · cases h
  · obtain ⟨set, hset, h⟩ := Result.bind_eq_ok.1 h
    obtain ⟨filter, hfilter, h⟩ := Result.bind_eq_ok.1 h
    cases h
    -- the assigned values are bound parameters
    have hset' : Expr.listScopeItems (set.map Prod.snd) = [] := by
      refine listScopeItems_eq_nil fun e he => ?_
      obtain ⟨x, hx, rfl⟩ := List.mem_map.1 he
      exact mapM_boundValues_scopeItems (e := Prod.snd) (fun _ _ => rfl) hset x hx
    simp only [Stmt.scopeItems, hset', List.nil_append, scoped_cons]
    exact ⟨.inl ⟨_, rfl⟩, compileFlatConditionWith_scoped hsub hfilter⟩

theorem compileDeleteWith_scoped {s : Delete} {r : DeleteStmt}
    (hsub : Expression.listAllCtes s.filters ⊆ U) (h : compileDeleteWith ref s = .ok r) :
    Scoped ref U [] (Stmt.delete r).scopeItems := by
  obtain ⟨filter, hfilter, h⟩ := Result.bind_eq_ok.1 h
  cases h
  simp only [Stmt.scopeItems, scoped_cons]
  exact ⟨.inl ⟨_, rfl⟩, compileFlatConditionWith_scoped hsub hfilter⟩

/-- Every scope item of a compiled statement is sound with no names declared around it. -/
theorem compileStatementWith_scoped (s : Statement) {stmt : Stmt}
    (h : compileStatementWith ref s = .ok stmt) : Scoped ref s.allCtes [] stmt.scopeItems := by
  cases s with
  | select s =>
    obtain ⟨q, hq, rfl⟩ := Result.map_eq_ok.1 h
    exact compileSelectWith_scoped [] s (List.Subset.refl _) hq
  | insert s =>
    obtain ⟨r, hr, rfl⟩ := Result.map_eq_ok.1 h
    exact compileInsertWith_scoped (List.subset_append_right _ _) hr
  | update s =>
    obtain ⟨r, hr, rfl⟩ := Result.map_eq_ok.1 h
    exact compileUpdateWith_scoped (List.subset_append_right _ _) hr
  | delete s =>
    obtain ⟨r, hr, rfl⟩ := Result.map_eq_ok.1 h
    exact compileDeleteWith_scoped (List.Subset.refl _) hr

end Statements

/-- Common table expressions are declared where compiled SQL reads them. When the common table
expressions of a statement have unique names and it compiles, every `with` list of the result
declares each name once, each declaration made for a common table expression of the
statement. And compiling it with each reference to a common table expression marked, as
`cteMark`, which no table's reference equals, succeeds too, and every marked reference finds a
declaration of its name in scope where it stands: in the `with` list of an enclosing select
or of the insert, or among the entries before it when it stands in a declaration's body. That
declaration is made for the common table expression of that name. -/
theorem compiled_ctes_in_scope (s : Statement) (hunique : CtesUnique s.allCtes) {stmt : Stmt}
    (h : compileStatement s = .ok stmt) :
    (∀ ds, .decls ds ∈ stmt.scopeItems → (ScopeItem.decls ds).Resolved cteRef s.allCtes) ∧
      ∃ marked, compileStatementWith cteMark s = .ok marked ∧
        ∀ i ∈ marked.scopeItems, i.Resolved cteMark s.allCtes := by
  rw [← compileStatementWith_cteRef] at h
  obtain ⟨marked, hmarked⟩ := compileStatementWith_transfer s h
  exact ⟨fun ds hds => compileStatementWith_scoped s h _ hds, marked, hmarked,
    fun i hi => ScopeItem.resolved_of_sound hunique (compileStatementWith_scoped s hmarked i hi)⟩

/-- A select from a common table expression whose body filters a table. -/
def recentEvents : Statement :=
  .select (Select.ofCte (Cte.ofSelect ((Select.ofTable (Table.new "events")).withWhere
    (Filter.empty.withExpression (Expression.new "id" (.integer 7)))) "recent"))

theorem recentEvents_ctes_in_scope :
    CtesUnique recentEvents.allCtes ∧ ∃ stmt, compileStatement recentEvents = .ok stmt ∧
      (∀ ds, .decls ds ∈ stmt.scopeItems →
          (ScopeItem.decls ds).Resolved cteRef recentEvents.allCtes) ∧
        ∃ marked, compileStatementWith cteMark recentEvents = .ok marked ∧
          ∀ i ∈ marked.scopeItems, i.Resolved cteMark recentEvents.allCtes :=
  have hunique : CtesUnique recentEvents.allCtes := ctesUnique_singleton _
  ⟨hunique, _, rfl, compiled_ctes_in_scope recentEvents hunique rfl⟩

end QueryDoc.Compile
