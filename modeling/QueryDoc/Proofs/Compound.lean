import QueryDoc.Proofs.Infix
import QueryDoc.Proofs.Result
import QueryDoc.Proofs.Placeholders
import QueryDoc.Compile.Statement

/-!
How each dialect reads the compound selects the compiler writes.

A select with combined selects compiles to one whose set operations follow its body in
declaration order, written flat: `core op₁ m₁ op₂ m₂ …`. Each member is written whole
(`Query.Bare`), so at the level of set operators the text is a chain of operands and operators
(`Query.compoundTokens`).

The combines ask for the left fold `((core op₁ m₁) op₂ m₂) …` (`Query.compoundTree`). SQLite
gives every compound operator one precedence, grouping to the left, and reads the left fold.
PostgreSQL and SQL Server bind `intersect` tighter than `union` and `except`: they read the
left fold exactly when no `intersect` follows another operator (`IntersectsFirst`). Main
theorem: `compiled_compound_reading`; `union_then_intersect_misread` is a select where
PostgreSQL returns a row the combines drop.
-/

namespace QueryDoc.Sql

open Infix

/-! ### The dialects' grammar of compound selects -/

/-- Which compound operators a dialect binds first: PostgreSQL and SQL Server bind `intersect`
tighter than `union`, `union all` and `except`; SQLite gives all four one precedence. -/
def Dialect.bindsFirst : Dialect → SetOperation → Bool
  | .sqlite, _ => false
  | _, .intersect => true
  | _, _ => false

/-- No `intersect` follows a `union`, a `union all` or an `except`. -/
def IntersectsFirst (ops : List SetOperation) : Prop :=
  ops.Pairwise fun a b => b = .intersect → a = .intersect

instance (ops : List SetOperation) : Decidable (IntersectsFirst ops) :=
  inferInstanceAs (Decidable (List.Pairwise _ ops))

/-- Whether a row is in the result of a set operation, from whether it is in each side. -/
def SetOperation.keeps : SetOperation → Bool → Bool → Bool
  | .union | .unionAll => fun l r => l || r
  | .intersect => fun l r => l && r
  | .except => fun l r => l && !r

/-! ### The compound part of a select as tokens -/

/-- The text of one token of a compound select: a select's body, or a set operator between two
clause breaks. -/
def compoundTokenPieces : Tok (List Piece) SetOperation → List Piece
  | .operand ps => ps
  | .op o => [.clause, .text (setOperationText o), .clause]
  | .notOpen => [.text "not("]
  | .lparen => [.text "("]
  | .rparen => [.text ")"]

namespace Query

/-- The compound part of a select as tokens: its body, then each set operation's operator and
the body of its select. -/
def compoundTokens (d : Dialect) (q : Query) : List (Tok (List Piece) SetOperation) :=
  .operand (q.bodyPieces d) :: pairTokens (q.setOps.map fun p => (p.op, p.query.bodyPieces d))

/-- Each set operation's operator with its select's body as an operand. -/
def compoundOperands (d : Dialect) (q : Query) : List (SetOperation × Term (List Piece) SetOperation) :=
  q.setOps.map fun p => (p.op, .atom (p.query.bodyPieces d))

/-- The compound as its set operations ask for it: each applied in turn to all before it. -/
def compoundTree (d : Dialect) (q : Query) : Term (List Piece) SetOperation :=
  leftFold (.atom (q.bodyPieces d)) (q.compoundOperands d)

/-- The compound as the dialect reads it. -/
def compoundReading (d : Dialect) (q : Query) : Term (List Piece) SetOperation :=
  readChain d.bindsFirst (.atom (q.bodyPieces d)) (q.compoundOperands d)

/-- What a select writes after its compound part: its sorting, then its paging. -/
def sortingPieces (d : Dialect) (q : Query) : List Piece :=
  (match q.orderBy with
   | [] =>
     if (q.limit.isSome || q.offset.isSome) && d == .sqlServer then
       [.clause, .text "order by (select 0)"]
     else []
   | _ => [.clause, .text "order by "] ++ OrderItem.listPieces d q.orderBy) ++
    paginationPieces d q.limit q.offset

/-- A select that its body writes whole: no `with` list, set operations, sorting or paging. -/
structure Bare (q : Query) : Prop where
  ctes : q.ctes = []
  setOps : q.setOps = []
  orderBy : q.orderBy = []
  limit : q.limit = none
  offset : q.offset = none

end Query

/-! ### The text is its tokens -/

theorem SetPart.listPieces_eq_tokens (d : Dialect) : ∀ ss : List SetPart,
    SetPart.listPieces d ss =
      (pairTokens (ss.map fun p => (p.op, p.query.bodyPieces d))).flatMap compoundTokenPieces
  | [] => rfl
  | ⟨op, q⟩ :: rest => by
    simp only [SetPart.listPieces, SetPart.listPieces_eq_tokens d rest]
    simp [pairTokens, compoundTokenPieces]

/-- A select's text is its `with` list, the text of its compound tokens, and its sorting and
paging. -/
theorem Query.pieces_eq_compound (d : Dialect) (q : Query) :
    q.pieces d =
      withPieces d q.ctes ++ (q.compoundTokens d).flatMap compoundTokenPieces ++
        q.sortingPieces d := by
  rw [Query.pieces_eq, SetPart.listPieces_eq_tokens, compoundTokens, sortingPieces]
  cases q.orderBy <;> simp [compoundTokenPieces, List.append_assoc]

/-- A bare select is written by its body alone. -/
theorem Query.pieces_of_bare {q : Query} (h : q.Bare) (d : Dialect) :
    q.pieces d = q.bodyPieces d := by
  rw [Query.pieces_eq, h.ctes, h.setOps, h.orderBy, h.limit, h.offset]
  cases d <;> simp [withPieces, SetPart.listPieces, paginationPieces]

/-! ### How the dialects read the tokens -/

theorem Query.readText_compoundTokens (d : Dialect) (q : Query) :
    readText d.bindsFirst (q.compoundTokens d) = some (q.compoundReading d) := by
  rw [compoundTokens, readText_operands]
  simp [compoundReading, compoundOperands, Function.comp_def]

/-- Outside SQLite, `intersect` is the operator bound first. -/
theorem Dialect.bindsFirst_iff {d : Dialect} (hd : d ≠ .sqlite) (o : SetOperation) :
    d.bindsFirst o = true ↔ o = .intersect := by
  cases d <;> cases o <;> simp_all [Dialect.bindsFirst]

/-- The operators are in an order the dialect reads as written exactly in SQLite, or when no
`intersect` follows another operator. -/
theorem tightFirst_bindsFirst_iff {α : Type} (d : Dialect)
    (ps : List (SetOperation × Term α SetOperation)) :
    TightFirst d.bindsFirst ps ↔ d = .sqlite ∨ IntersectsFirst (ps.map Prod.fst) := by
  rw [TightFirst, IntersectsFirst, List.pairwise_map]
  cases d with
  | sqlite =>
    -- nothing binds first, so no operator is out of order
    refine iff_of_true (List.pairwise_of_forall fun a b h => ?_) (.inl rfl)
    simp [Dialect.bindsFirst] at h
  | postgres | sqlServer =>
    simp only [reduceCtorEq, false_or]
    exact List.Pairwise.iff fun a b => by
      rw [Dialect.bindsFirst_iff (by decide), Dialect.bindsFirst_iff (by decide)]

/-- A dialect reads the compound as its set operations ask exactly in SQLite, or when no
`intersect` follows another operator. -/
theorem Query.compoundReading_eq_tree_iff (d : Dialect) (q : Query) :
    q.compoundReading d = q.compoundTree d ↔
      d = .sqlite ∨ IntersectsFirst (q.setOps.map SetPart.op) := by
  rw [compoundReading, compoundTree, readChain_eq_leftFold_iff rfl, tightFirst_bindsFirst_iff]
  simp [compoundOperands, Function.comp_def]

end QueryDoc.Sql

namespace QueryDoc.Compile

open Sql Infix

/-! ### What the compiler appends -/

/-- Appending combined selects keeps the select's paging. -/
theorem compileCombines_paging {scope : List String} :
    ∀ {stmt : Query} {i : Nat} {cs : List Combine} {q : Query},
      compileCombines scope stmt i cs = .ok q → q.limit = stmt.limit ∧ q.offset = stmt.offset
  | _, _, [], _, h => by
    cases h
    exact ⟨rfl, rfl⟩
  | _, _, ⟨_, _⟩ :: _, _, h => by
    unfold compileCombines at h
    obtain ⟨member, -, h⟩ := Result.bind_eq_ok.1 h
    split at h
    · simp [invalid] at h
    · dsimp only at h
      obtain ⟨hlimit, hoffset⟩ := compileCombines_paging h
      exact ⟨hlimit, hoffset⟩

/-- A select compiles in four declaration steps, then its parts in the scope of all
declarations, then its combined selects appended to the core. -/
theorem compileSelect_steps {scope : List String} {ctes : List Cte} {source : Option Source}
    {fields : List Field} {joins : List Join} {filter having : Option Filter}
    {groupBys : List GroupBy} {sorts : List SortKey} {combines : List Combine} {q : Query}
    (h : compileSelect scope
      ⟨ctes, source, fields, joins, filter, groupBys, having, sorts, combines⟩ = .ok q) :
    ∃ d₁ d₂ d₃ d src src' flt hv,
      declareCtes (scope, []) ctes = .ok d₁ ∧ declareSourceCte d₁ source = .ok d₂ ∧
      declareJoinCtes d₂ joins = .ok d₃ ∧ declareCombineCtes d₃ combines = .ok d ∧
      compileOptSource d.1 source = .ok src ∧ compileJoins d.1 src joins = .ok src' ∧
      compileCondition d.1 filter = .ok flt ∧ compileCondition d.1 having = .ok hv ∧
      compileCombines d.1
        { ctes := d.2
          columns := if fields.isEmpty then [.star] else fields.map compileField
          source := src'
          filter := flt
          groupBy := groupBys.map compileGroupBy
          having := hv
          setOps := []
          orderBy := sorts.map compileSort
          limit := none
          offset := none } 0 combines = .ok q := by
  unfold compileSelect at h
  obtain ⟨d₁, h₁, h⟩ := Result.bind_eq_ok.1 h
  obtain ⟨d₂, h₂, h⟩ := Result.bind_eq_ok.1 h
  obtain ⟨d₃, h₃, h⟩ := Result.bind_eq_ok.1 h
  obtain ⟨d, h₄, h⟩ := Result.bind_eq_ok.1 h
  obtain ⟨src, h₅, h⟩ := Result.bind_eq_ok.1 h
  obtain ⟨src', h₆, h⟩ := Result.bind_eq_ok.1 h
  obtain ⟨flt, h₇, h⟩ := Result.bind_eq_ok.1 h
  obtain ⟨hv, h₈, h⟩ := Result.bind_eq_ok.1 h
  exact ⟨d₁, d₂, d₃, d, src, src', flt, hv, h₁, h₂, h₃, h₄, h₅, h₆, h₇, h₈, h⟩

/-- A compiled select is its core, with no set operations and no paging, and then its combined
selects appended. -/
theorem compileSelect_eq_ok {scope : List String} {s : Select} {q : Query}
    (h : compileSelect scope s = .ok q) :
    ∃ (scope' : List String) (stmt : Query), stmt.setOps = [] ∧ stmt.limit = none ∧
      stmt.offset = none ∧ stmt.orderBy = s.sorts.map compileSort ∧
      compileCombines scope' stmt 0 s.combines = .ok q := by
  obtain ⟨ctes, source, fields, joins, filter, groupBys, having, sorts, combines⟩ := s
  obtain ⟨_, _, _, _, _, _, _, _, -, -, -, -, -, -, -, -, h⟩ := compileSelect_steps h
  exact ⟨_, _, rfl, rfl, rfl, rfl, h⟩

/-- A compiled select is never paged. -/
theorem compileSelect_paging {scope : List String} {s : Select} {q : Query}
    (h : compileSelect scope s = .ok q) : q.limit = none ∧ q.offset = none := by
  obtain ⟨_, _, -, hlimit, hoffset, -, h⟩ := compileSelect_eq_ok h
  obtain ⟨hl, ho⟩ := compileCombines_paging h
  exact ⟨hl.trans hlimit, ho.trans hoffset⟩

/-- Appending combined selects keeps the sorting. -/
theorem compileCombines_orderBy {scope : List String} :
    ∀ {stmt : Query} {i : Nat} {cs : List Combine} {q : Query},
      compileCombines scope stmt i cs = .ok q → q.orderBy = stmt.orderBy
  | _, _, [], _, h => by
    cases h
    rfl
  | _, _, ⟨_, _⟩ :: _, _, h => by
    unfold compileCombines at h
    obtain ⟨member, -, h⟩ := Result.bind_eq_ok.1 h
    split at h
    · cases h
    · dsimp only at h
      rw [compileCombines_orderBy h]

/-- A compiled select sorts by its sort keys. -/
theorem compileSelect_orderBy {scope : List String} {s : Select} {q : Query}
    (h : compileSelect scope s = .ok q) : q.orderBy = s.sorts.map compileSort := by
  obtain ⟨_, _, -, -, -, horder, h⟩ := compileSelect_eq_ok h
  rw [compileCombines_orderBy h, horder]

/-- Appending combined selects adds one set operation for each, with its operator and in
order, and each added select is bare. -/
theorem compileCombines_parts {scope : List String} :
    ∀ {stmt : Query} {i : Nat} {cs : List Combine} {q : Query},
      compileCombines scope stmt i cs = .ok q →
      ∃ parts : List SetPart, q.setOps = stmt.setOps ++ parts ∧
        parts.map SetPart.op = cs.map Combine.operation ∧ ∀ p ∈ parts, p.query.Bare
  | _, _, [], _, h => by
    cases h
    exact ⟨[], by simp, rfl, by simp⟩
  | stmt, i, ⟨s, op⟩ :: cs, q, h => by
    unfold compileCombines at h
    obtain ⟨member, hmember, h⟩ := Result.bind_eq_ok.1 h
    split at h
    · simp [invalid] at h
    next hsorted =>
      dsimp only at h
      obtain ⟨parts, hq, hops, hbare⟩ := compileCombines_parts h
      rw [List.append_assoc, List.singleton_append] at hq
      refine ⟨_, hq, by simp [hops], fun p hp => ?_⟩
      rcases List.mem_cons.1 hp with rfl | hp
      · -- the member is bare: sorting was refused, paging is never set, and set operations of
        -- its own are wrapped away
        obtain ⟨hlimit, hoffset⟩ := compileSelect_paging hmember
        have horder : member.orderBy = [] := by simpa using hsorted
        dsimp only
        split
        next hsets => exact ⟨rfl, List.isEmpty_iff.1 hsets, horder, hlimit, hoffset⟩
        · exact ⟨rfl, rfl, rfl, rfl, rfl⟩
      · exact hbare p hp

/-- The set operations of a compiled select are its combined selects, in order, each bare. -/
theorem compileSelect_setOps {scope : List String} {s : Select} {q : Query}
    (h : compileSelect scope s = .ok q) :
    q.setOps.map SetPart.op = s.combines.map Combine.operation ∧ ∀ p ∈ q.setOps, p.query.Bare := by
  obtain ⟨_, _, hnone, -, -, -, h⟩ := compileSelect_eq_ok h
  obtain ⟨parts, hparts, hops, hbare⟩ := compileCombines_parts h
  rw [hnone, List.nil_append] at hparts
  rw [hparts]
  exact ⟨hops, hbare⟩

/-! ### How the dialects read a compiled compound -/

/-- For every select the compiler accepts and every dialect: the text is the `with` list, the
compound tokens and the sorting; there is one set operation for each combined select, with its
operator and in order; each member is written whole by its body; the dialect reads the tokens
as `compoundReading`; and that reading is the left fold the combines ask for exactly in SQLite,
or when no `intersect` follows another operator. -/
theorem compiled_compound_reading {scope : List String} {s : Select} {q : Query}
    (h : compileSelect scope s = .ok q) (d : Dialect) :
    q.pieces d =
        withPieces d q.ctes ++ (q.compoundTokens d).flatMap compoundTokenPieces ++
          q.sortingPieces d ∧
      q.setOps.map SetPart.op = s.combines.map Combine.operation ∧
      (∀ p ∈ q.setOps, p.query.pieces d = p.query.bodyPieces d) ∧
      readText d.bindsFirst (q.compoundTokens d) = some (q.compoundReading d) ∧
      (q.compoundReading d = q.compoundTree d ↔
        d = .sqlite ∨ IntersectsFirst (s.combines.map Combine.operation)) := by
  obtain ⟨hops, hbare⟩ := compileSelect_setOps h
  refine ⟨Query.pieces_eq_compound d q, hops, fun p hp => Query.pieces_of_bare (hbare p hp) d,
    Query.readText_compoundTokens d q, ?_⟩
  rw [Query.compoundReading_eq_tree_iff, hops]

/-- The rows of `a`, with those of `b` added, then kept where they are in `c`. -/
def unionThenIntersect : Select :=
  { Select.ofTable (.new "a") with
    combines := [⟨.ofTable (.new "b"), .union⟩, ⟨.ofTable (.new "c"), .intersect⟩] }

theorem union_then_intersect_compound :
    ∃ q, compileSelect [] unionThenIntersect = .ok q ∧
      (q.pieces .sqlite =
          withPieces .sqlite q.ctes ++ (q.compoundTokens .sqlite).flatMap compoundTokenPieces ++
            q.sortingPieces .sqlite ∧
        q.setOps.map SetPart.op = unionThenIntersect.combines.map Combine.operation ∧
        (∀ p ∈ q.setOps, p.query.pieces .sqlite = p.query.bodyPieces .sqlite) ∧
        readText Dialect.sqlite.bindsFirst (q.compoundTokens .sqlite) =
          some (q.compoundReading .sqlite) ∧
        (q.compoundReading .sqlite = q.compoundTree .sqlite ↔
          Dialect.sqlite = .sqlite ∨
            IntersectsFirst (unionThenIntersect.combines.map Combine.operation))) :=
  ⟨_, rfl, compiled_compound_reading rfl .sqlite⟩

/-- PostgreSQL reads `a union b intersect c` as `a union (b intersect c)`: a row of `a` alone
is returned, where the combines, `(a union b) intersect c`, drop it. -/
theorem union_then_intersect_misread :
    ∃ q, compileSelect [] unionThenIntersect = .ok q ∧
      ∃ a b c : List Piece,
        q.compoundTokens .postgres =
          [.operand a, .op .union, .operand b, .op .intersect, .operand c] ∧
        q.compoundReading .postgres = .bin (.atom a) .union (.bin (.atom b) .intersect (.atom c)) ∧
        q.compoundTree .postgres = .bin (.bin (.atom a) .union (.atom b)) .intersect (.atom c) ∧
        ∀ v : List Piece → Bool, v a = true → v b = false → v c = false →
          (Term.bin (.atom a) .union (.bin (.atom b) .intersect (.atom c))).eval v
              SetOperation.keeps = true ∧
            (Term.bin (.bin (.atom a) .union (.atom b)) .intersect (.atom c)).eval v
              SetOperation.keeps = false := by
  refine ⟨_, rfl, _, _, _, rfl, rfl, rfl, fun v ha hb hc => ?_⟩
  simp_all [Term.eval, SetOperation.keeps]

end QueryDoc.Compile
