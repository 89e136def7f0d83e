import QueryDoc.Proofs.Result
import QueryDoc.Compile.Statement

/-!
Edits to a filter that leave its condition unchanged.

Of a filter's first expression's connective the builder reads only the negation, since the
first item joins nothing: turning its `or` into `and`, or `orNot` into `andNot`, changes
nothing (`applyFilter_first_toAnd`, and `compileFlatCondition_first_toAnd` for the flat lists
of updates and deletes).

A child filter that compiles to no condition adds nothing, but still counts as a child: the
child after it joins by the enclosing filter's connective, where the first child joins by plain
`and`. In a filter with no expressions the first child that reaches the builder finds it empty,
so only a negated connective tells `and` from `or`. The main statement,
`filter_edits_keep_condition`, says exactly which edits keep the condition;
`empty_child_negates_next` shows that its exceptions are real.
-/

namespace QueryDoc.Compile

open Sql

variable {scope : List String}

/-! ### The builder's first item -/

/-- Joined to nothing, an item is only negated or not. -/
theorem push_none (c : Connective) (e : Expr) :
    push none c e = some (if c.isNegated then .not e else e) :=
  rfl

/-- Joined to nothing, a group reads only the negation of its connective. -/
theorem pushGroup_none_of_isNegated {c c' : Connective} (h : c.isNegated = c'.isNegated)
    (g : Option Expr) : pushGroup none c g = pushGroup none c' g := by
  cases g with
  | none => rfl
  | some g => simp only [pushGroup, push_none, h]

/-- An expression is joined under the connective it is given; its own is not read. -/
theorem appendExpression_withConnective (acc : Option Expr) (c c' : Connective) (e : Expression) :
    appendExpression scope acc c (e.withConnective c') = appendExpression scope acc c e := by
  obtain ⟨name, value, relation, conn, raw⟩ := e
  rfl

/-- Replacing the first expression's connective by one with the same `and` form changes
nothing. -/
theorem appendExpressions_first_toAnd (acc : Option Expr) (e : Expression) (es : List Expression)
    {c' : Connective} (h : c'.toAnd = e.connective.toAnd) :
    appendExpressions scope acc true (e.withConnective c' :: es) =
      appendExpressions scope acc true (e :: es) := by
  simp only [appendExpressions, if_true]
  rw [show (e.withConnective c').connective = c' from rfl, h, appendExpression_withConnective]

/-- Once an item has been joined, the builder is not waiting for its first one any more. -/
theorem appendExpressions_not_first {acc : Option Expr} {es : List Expression}
    {r : Option Expr × Bool} (h : appendExpressions scope acc false es = .ok r) : r.2 = false := by
  induction es generalizing acc with
  | nil =>
    cases h
    rfl
  | cons e es ih =>
    obtain ⟨acc', -, h2⟩ := Result.bind_eq_ok.1 h
    exact ih h2

/-- The builder is still waiting for its first item after the expressions exactly when there
were none, and then nothing was added. -/
theorem appendExpressions_ok {acc : Option Expr} {first : Bool} :
    ∀ {es : List Expression} {r : Option Expr × Bool},
      appendExpressions scope acc first es = .ok r →
        (es = [] → r = (acc, first)) ∧ (es ≠ [] → r.2 = false)
  | [], _, h => by
    cases h
    exact ⟨fun _ => rfl, fun hne => absurd rfl hne⟩
  | e :: es, r, h => by
    obtain ⟨acc', -, h2⟩ := Result.bind_eq_ok.1 h
    exact ⟨fun hnil => absurd hnil (List.cons_ne_nil e es),
      fun _ => appendExpressions_not_first h2⟩

/-! ### Empty children -/

/-- An empty child adds nothing, but the builder no longer counts the next child as first. -/
theorem applyChildren_cons_empty {g : Filter} (hg : applyFilter scope none g = .ok none)
    (acc : Option Expr) (first : Bool) (c : Connective) (fs : List Filter) :
    applyChildren scope acc first c (g :: fs) = applyChildren scope acc false c fs := by
  rw [applyChildren, hg]
  rfl

/-- Children that are all empty leave the condition as it was. -/
theorem applyChildren_all_empty {fs : List Filter}
    (hfs : ∀ g ∈ fs, applyFilter scope none g = .ok none) (acc : Option Expr) (first : Bool)
    (c : Connective) : applyChildren scope acc first c fs = .ok acc := by
  induction fs generalizing first with
  | nil => rfl
  | cons g fs ih =>
    rw [applyChildren_cons_empty (hfs g List.mem_cons_self)]
    exact ih (fun h hh => hfs h (List.mem_cons_of_mem _ hh)) false

/-- A run of empty children in front only takes away the first child's `and`. -/
theorem applyChildren_leading_empty {pre : List Filter}
    (hpre : ∀ g ∈ pre, applyFilter scope none g = .ok none) (acc : Option Expr) (first : Bool)
    (c : Connective) (rest : List Filter) :
    applyChildren scope acc first c (pre ++ rest) =
      applyChildren scope acc (first && pre.isEmpty) c rest := by
  induction pre generalizing first with
  | nil => simp
  | cons g pre ih =>
    rw [List.cons_append, applyChildren_cons_empty (hpre g List.mem_cons_self),
      ih (fun h hh => hpre h (List.mem_cons_of_mem _ hh))]
    simp

/-- Once a child has been seen, an empty child anywhere among the rest changes nothing. -/
theorem applyChildren_insert_empty_later {g : Filter} (hg : applyFilter scope none g = .ok none)
    (c : Connective) (post : List Filter) :
    ∀ (pre : List Filter) (acc : Option Expr),
      applyChildren scope acc false c (pre ++ g :: post) =
        applyChildren scope acc false c (pre ++ post)
  | [], acc => by
    rw [List.nil_append, List.nil_append, applyChildren_cons_empty hg]
  | h :: pre, acc => by
    rw [List.cons_append, List.cons_append, applyChildren, applyChildren]
    congr 1
    funext group
    exact applyChildren_insert_empty_later hg c post pre _

/-- With nothing joined yet and a connective that is not negated, it does not matter whether
the builder counts the next child as first. -/
theorem applyChildren_first_of_not_negated {c : Connective} (hc : c.isNegated = false)
    (fs : List Filter) :
    applyChildren scope none true c fs = applyChildren scope none false c fs := by
  cases fs with
  | nil => rfl
  | cons g fs =>
    rw [applyChildren, applyChildren]
    congr 1
    funext group
    rw [if_pos rfl, if_neg Bool.false_ne_true, pushGroup_none_of_isNegated (by rw [hc]; rfl)]

/-- An empty child inserted among a filter's children changes nothing, except in front of
the children of a builder that is still empty, under a negated connective. -/
theorem applyChildren_insert_empty {g : Filter} (hg : applyFilter scope none g = .ok none)
    {acc : Option Expr} {first : Bool} {c : Connective} {pre : List Filter}
    (hkeep : first = false ∨ pre ≠ [] ∨ (acc = none ∧ c.isNegated = false))
    (post : List Filter) :
    applyChildren scope acc first c (pre ++ g :: post) =
      applyChildren scope acc first c (pre ++ post) := by
  cases first with
  | false => exact applyChildren_insert_empty_later hg c post pre acc
  | true =>
    cases pre with
    | cons h pre =>
      rw [List.cons_append, List.cons_append, applyChildren, applyChildren]
      congr 1
      funext group
      exact applyChildren_insert_empty_later hg c post pre _
    | nil =>
      obtain ⟨rfl, hc⟩ : acc = none ∧ c.isNegated = false := by simpa using hkeep
      rw [List.nil_append, List.nil_append, applyChildren_cons_empty hg,
        applyChildren_first_of_not_negated hc]

/-! ### Whole filters -/

/-- The condition of a filter is its expressions' condition followed by its children. -/
theorem applyFilter_eq (acc : Option Expr) (es : List Expression) (fs : List Filter)
    (c : Connective) :
    applyFilter scope acc ⟨es, fs, c⟩ =
      appendExpressions scope acc true es >>= fun r => applyChildren scope r.1 r.2 c fs :=
  rfl

/-- Turning the first expression's `or` into `and`, or `orNot` into `andNot`, keeps a
filter's condition. -/
theorem applyFilter_first_toAnd (acc : Option Expr) (e : Expression) (es : List Expression)
    (fs : List Filter) (c : Connective) {c' : Connective} (h : c'.toAnd = e.connective.toAnd) :
    applyFilter scope acc ⟨e.withConnective c' :: es, fs, c⟩ =
      applyFilter scope acc ⟨e :: es, fs, c⟩ := by
  rw [applyFilter_eq, applyFilter_eq, appendExpressions_first_toAnd acc e es h]

/-- The same for the flat condition list of an update or a delete. -/
theorem compileFlatCondition_first_toAnd (e : Expression) (es : List Expression)
    {c' : Connective} (h : c'.toAnd = e.connective.toAnd) :
    compileFlatCondition (e.withConnective c' :: es) = compileFlatCondition (e :: es) := by
  unfold compileFlatCondition
  rw [appendExpressions_first_toAnd none e es h]

/-- Two lists of children that give the same condition whatever the expressions left in the
builder give the same filter condition. -/
theorem applyFilter_congr_children {es : List Expression} {fs fs' : List Filter}
    {c c' : Connective}
    (h : ∀ acc first, appendExpressions scope none true es = .ok (acc, first) →
      applyChildren scope acc first c fs = applyChildren scope acc first c' fs') :
    applyFilter scope none ⟨es, fs, c⟩ = applyFilter scope none ⟨es, fs', c'⟩ := by
  rw [applyFilter_eq, applyFilter_eq]
  rcases hes : appendExpressions scope none true es with err | ⟨acc, first⟩
  · rfl
  · exact h acc first hes

/-- Inserting an empty child keeps a filter's condition, unless it goes in front of the
children of a filter with no expressions and a negated connective. -/
theorem applyFilter_insert_empty {g : Filter} (hg : applyFilter scope none g = .ok none)
    (es : List Expression) (pre post : List Filter) {c : Connective}
    (hkeep : es ≠ [] ∨ pre ≠ [] ∨ c.isNegated = false) :
    applyFilter scope none ⟨es, pre ++ g :: post, c⟩ = applyFilter scope none ⟨es, pre ++ post, c⟩ := by
  refine applyFilter_congr_children fun acc first hes => applyChildren_insert_empty hg ?_ post
  obtain ⟨hnil, hcons⟩ := appendExpressions_ok hes
  rcases hkeep with hes' | hpre | hc
  · exact .inl (hcons hes')
  · exact .inr (.inl hpre)
  · by_cases hempty : es = []
    · cases hnil hempty
      exact .inr (.inr ⟨rfl, hc⟩)
    · exact .inl (hcons hempty)

/-- With no expressions and at most one child that is not empty, the connective of a filter
matters only when that child is not the first, and then only through its negation. -/
theorem applyFilter_connective_one_child {pre post : List Filter} (g : Filter)
    (hrest : ∀ h ∈ pre ++ post, applyFilter scope none h = .ok none) {c c' : Connective}
    (hkeep : pre = [] ∨ c.isNegated = c'.isNegated) :
    applyFilter scope none ⟨[], pre ++ g :: post, c⟩ =
      applyFilter scope none ⟨[], pre ++ g :: post, c'⟩ := by
  have hpre : ∀ h ∈ pre, applyFilter scope none h = .ok none :=
    fun h hh => hrest h (List.mem_append_left _ hh)
  have hpost : ∀ h ∈ post, applyFilter scope none h = .ok none :=
    fun h hh => hrest h (List.mem_append_right _ hh)
  refine applyFilter_congr_children fun acc first hes => ?_
  cases hes
  rw [applyChildren_leading_empty hpre, applyChildren_leading_empty hpre, applyChildren,
    applyChildren]
  congr 1
  funext group
  rw [applyChildren_all_empty hpost, applyChildren_all_empty hpost]
  -- the one child that may add something is joined to an empty builder
  rcases hkeep with rfl | hneg
  · rfl
  · cases pre.isEmpty <;> simp only [Bool.true_and, if_true,
      Bool.false_eq_true, if_false, pushGroup_none_of_isNegated hneg]

/-- What edits keep a filter's condition. The first expression's `or` is read as `and`
(in filters and in flat condition lists). An empty child may be inserted or removed anywhere
except in front of the children of a filter with no expressions and a negated connective.
With no expressions and at most one child that is not empty, the filter's connective may
change if that child is the first or the negation stays. -/
theorem filter_edits_keep_condition (scope : List String) (acc : Option Expr) (e : Expression)
    (es : List Expression) (fs : List Filter) (g : Filter) (pre post : List Filter)
    (c c' : Connective) :
    (c'.toAnd = e.connective.toAnd →
      applyFilter scope acc ⟨e.withConnective c' :: es, fs, c⟩ =
          applyFilter scope acc ⟨e :: es, fs, c⟩ ∧
        compileFlatCondition (e.withConnective c' :: es) = compileFlatCondition (e :: es)) ∧
    (applyFilter scope none g = .ok none → (es ≠ [] ∨ pre ≠ [] ∨ c.isNegated = false) →
      applyFilter scope none ⟨es, pre ++ g :: post, c⟩ =
        applyFilter scope none ⟨es, pre ++ post, c⟩) ∧
    ((∀ h ∈ pre ++ post, applyFilter scope none h = .ok none) →
      (pre = [] ∨ c.isNegated = c'.isNegated) →
      applyFilter scope none ⟨[], pre ++ g :: post, c⟩ =
        applyFilter scope none ⟨[], pre ++ g :: post, c'⟩) :=
  ⟨fun h => ⟨applyFilter_first_toAnd acc e es fs c h, compileFlatCondition_first_toAnd e es h⟩,
    fun hg hkeep => applyFilter_insert_empty hg es pre post hkeep,
    fun hrest hkeep => applyFilter_connective_one_child g hrest hkeep⟩

/-- The filter `id = 1`. -/
def idIsOne : Filter := Filter.empty.withExpression (.new "id" (.integer 1))

theorem idIsOne_edits_kept :
    applyFilter [] none ⟨[], [idIsOne, Filter.empty], .andNot⟩ =
        applyFilter [] none ⟨[], [idIsOne], .andNot⟩ ∧
      applyFilter [] none ⟨[], [idIsOne, Filter.empty], .andNot⟩ =
        applyFilter [] none ⟨[], [idIsOne, Filter.empty], .or⟩ ∧
      compileFlatCondition [(Expression.new "id" (.integer 1)).withConnective .or] =
        compileFlatCondition [Expression.new "id" (.integer 1)] :=
  have edits := filter_edits_keep_condition [] none (.new "id" (.integer 1)) [] []
    Filter.empty [idIsOne] [] .andNot .or
  ⟨edits.2.1 rfl (.inr (.inl (List.cons_ne_nil _ _))),
    (filter_edits_keep_condition [] none (.new "id" (.integer 1)) [] [] idIsOne []
        [Filter.empty] .andNot .or).2.2
      (fun h hh => by rw [List.mem_singleton.1 hh]; rfl) (.inl rfl),
    (edits.1 rfl).2⟩

/-- An empty child in front of `id = 1`, under `andNot`, makes the filter read `not((id = 1))`;
without it, or under `and`, the filter reads `(id = 1)`. -/
theorem empty_child_negates_next :
    applyFilter [] none ⟨[], [Filter.empty, idIsOne], .andNot⟩ ≠
        applyFilter [] none ⟨[], [idIsOne], .andNot⟩ ∧
      applyFilter [] none ⟨[], [Filter.empty, idIsOne], .andNot⟩ ≠
        applyFilter [] none ⟨[], [Filter.empty, idIsOne], .and⟩ := by
  let cond : Expr := .nested (.binary (.columnPath "id") .eq (.bound (.integer 1)))
  have hneg : applyFilter [] none ⟨[], [Filter.empty, idIsOne], .andNot⟩ = .ok (some (.not cond)) :=
    rfl
  have hfirst : applyFilter [] none ⟨[], [idIsOne], .andNot⟩ = .ok (some cond) := rfl
  have hand : applyFilter [] none ⟨[], [Filter.empty, idIsOne], .and⟩ = .ok (some cond) := rfl
  rw [hneg, hfirst, hand]
  constructor <;> intro h <;> cases h

end QueryDoc.Compile
