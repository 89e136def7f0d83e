import QueryDoc.Sql.Render

/-!
One statement text, three writers.

A statement is turned into pieces once, and the parameterized, inline and pretty texts are
three ways of writing those pieces. What the writers share is a *skeleton*: the marks (text
and breaks) before the first bound value, and each bound value with the marks after it. A
break remembers the indentation depth it stands at. Main theorem:
`Stmt.writers_share_skeleton`. Every writer ends at indentation zero: the body of a common
table expression is the only thing indented, and it closes its own level.
-/

namespace QueryDoc.Sql

/-! ### Skeletons -/

/-- What a writer meets between two bound values: text, or a break (a clause break or a bare
line break) at an indentation depth. -/
inductive Mark where
  | text (s : String)
  | brk (clause : Bool) (depth : Nat)

/-- A mark in compact text: a clause break is a space, a line break nothing. -/
def Mark.compact : Mark → String
  | .text s => s
  | .brk clause _ => if clause then " " else ""

/-- A mark in pretty text: every break is a new line, four spaces a level in. -/
def Mark.pretty : Mark → String
  | .text s => s
  | .brk _ depth => "\n" ++ String.join (List.replicate depth "    ")

/-- A text as its writers see it: the marks before the first bound value, then each bound
value with the marks that follow it. -/
structure Skeleton where
  head : List Mark
  tail : List (Param × List Mark)

namespace Skeleton

/-- The bound values, in text order. -/
def values (sk : Skeleton) : List Param := sk.tail.map Prod.fst

/-- One more mark in front. -/
def consMark (m : Mark) (sk : Skeleton) : Skeleton := ⟨m :: sk.head, sk.tail⟩

/-- One more bound value in front. -/
def consValue (p : Param) (sk : Skeleton) : Skeleton := ⟨[], (p, sk.head) :: sk.tail⟩

end Skeleton

/-- Marks written one after another. -/
def marksText (mark : Mark → String) (ms : List Mark) : String := String.join (ms.map mark)

/-- Bound values with the marks after each; the value after `k` others is written by
`hole (k + 1)`. -/
def holesText (hole : Nat → Param → String) (mark : Mark → String) :
    Nat → List (Param × List Mark) → String
  | _, [] => ""
  | k, (p, ms) :: rest => hole (k + 1) p ++ marksText mark ms ++ holesText hole mark (k + 1) rest

/-- A skeleton written out, its values numbered on from `k`. -/
def Skeleton.textFrom (sk : Skeleton) (k : Nat) (hole : Nat → Param → String)
    (mark : Mark → String) : String :=
  marksText mark sk.head ++ holesText hole mark k sk.tail

/-- A skeleton written out, its values numbered from 1. -/
def Skeleton.text (sk : Skeleton) (hole : Nat → Param → String) (mark : Mark → String) :
    String :=
  sk.textFrom 0 hole mark

/-- The skeleton of pieces written from an indentation depth. -/
def skeleton : Nat → List Piece → Skeleton
  | _, [] => ⟨[], []⟩
  | n, .text s :: ps => (skeleton n ps).consMark (.text s)
  | n, .value p :: ps => (skeleton n ps).consValue p
  | n, .clause :: ps => (skeleton n ps).consMark (.brk true n)
  | n, .lineBreak :: ps => (skeleton n ps).consMark (.brk false n)
  | n, .indent :: ps => skeleton (n + 1) ps
  | n, .dedent :: ps => skeleton (n - 1) ps

/-- The indentation depth after pieces written from a depth. -/
def depthAfter : Nat → List Piece → Nat
  | n, [] => n
  | n, .indent :: ps => depthAfter (n + 1) ps
  | n, .dedent :: ps => depthAfter (n - 1) ps
  | n, _ :: ps => depthAfter n ps

namespace Skeleton

variable {hole : Nat → Param → String} {mark : Mark → String}

@[simp] theorem textFrom_consMark (m : Mark) (sk : Skeleton) (k : Nat) :
    (sk.consMark m).textFrom k hole mark = mark m ++ sk.textFrom k hole mark := by
  simp [textFrom, consMark, marksText, String.append_assoc]

@[simp] theorem textFrom_consValue (p : Param) (sk : Skeleton) (k : Nat) :
    (sk.consValue p).textFrom k hole mark = hole (k + 1) p ++ sk.textFrom (k + 1) hole mark := by
  simp [textFrom, consValue, holesText, marksText, String.append_assoc]

@[simp] theorem values_consMark (m : Mark) (sk : Skeleton) :
    (sk.consMark m).values = sk.values := rfl

@[simp] theorem values_consValue (p : Param) (sk : Skeleton) :
    (sk.consValue p).values = p :: sk.values := rfl

end Skeleton

/-! ### The writers read the skeleton -/

/-- How a layout writes the `k`-th bound value. -/
def Layout.hole (d : Dialect) (layout : Layout) (k : Nat) (p : Param) : String :=
  if layout.parameterized then d.placeholder k else p.literal d

/-- How a layout writes a mark. -/
def Layout.mark (layout : Layout) (m : Mark) : String :=
  if layout.pretty then m.pretty else m.compact

section Writer

variable (d : Dialect) (layout : Layout) (w : Written)

@[simp] theorem Layout.mark_text (s : String) : layout.mark (.text s) = s := by
  cases h : layout.pretty <;> simp [Layout.mark, h, Mark.pretty, Mark.compact]

/-! What one piece does to a writer's state. -/

theorem Written.push_text (s : String) :
    w.push d layout (.text s) = { w with sql := w.sql ++ layout.mark (.text s) } := by
  simp [Written.push]

theorem Written.push_value (p : Param) :
    w.push d layout (.value p) =
      { w with sql := w.sql ++ layout.hole d (w.params.size + 1) p,
               params := if layout.parameterized then w.params.push p else w.params } := by
  cases h : layout.parameterized <;> simp [Written.push, Layout.hole, h]

theorem Written.push_break {piece : Piece} {clause : Bool}
    (h : (piece = .clause ∧ clause = true) ∨ (piece = .lineBreak ∧ clause = false)) :
    w.push d layout piece = { w with sql := w.sql ++ layout.mark (.brk clause w.indent) } := by
  rcases h with ⟨rfl, rfl⟩ | ⟨rfl, rfl⟩ <;> cases hp : layout.pretty <;>
    simp [Written.push, Written.newLine, Layout.mark, Mark.pretty, Mark.compact, hp,
      String.append_assoc]

theorem Written.push_indent : w.push d layout .indent = { w with indent := w.indent + 1 } := rfl

theorem Written.push_dedent : w.push d layout .dedent = { w with indent := w.indent - 1 } := rfl

/-- Writing pieces from any state appends the text of their skeleton, its values numbered on
from the values already collected. -/
theorem foldl_push_sql : ∀ (ps : List Piece) (w : Written) (k : Nat),
    (layout.parameterized = true → w.params.size = k) →
    (ps.foldl (Written.push d layout) w).sql =
      w.sql ++ (skeleton w.indent ps).textFrom k (layout.hole d) layout.mark
  | [], w, _, _ => by simp [skeleton, Skeleton.textFrom, marksText, holesText]
  | .text s :: ps, w, k, hk => by
    rw [List.foldl_cons, foldl_push_sql ps (w.push d layout (.text s)) k hk, Written.push_text]
    simp [skeleton, String.append_assoc]
  | .value p :: ps, w, k, hk => by
    -- the value takes the number after those collected, whether or not it is collected
    have hnext : layout.parameterized = true →
        (if layout.parameterized then w.params.push p else w.params).size = k + 1 := by
      intro h
      simp [h, hk h]
    have hhole : layout.hole d (w.params.size + 1) p = layout.hole d (k + 1) p := by
      cases h : layout.parameterized
      · simp [Layout.hole, h]
      · rw [hk h]
    rw [List.foldl_cons, Written.push_value, foldl_push_sql ps _ (k + 1) hnext]
    simp [skeleton, hhole, String.append_assoc]
  | .clause :: ps, w, k, hk => by
    rw [List.foldl_cons, foldl_push_sql ps (w.push d layout .clause) k
      (by rw [Written.push_break d layout w (.inl ⟨rfl, rfl⟩)]; exact hk),
      Written.push_break d layout w (.inl ⟨rfl, rfl⟩)]
    simp [skeleton, String.append_assoc]
  | .lineBreak :: ps, w, k, hk => by
    rw [List.foldl_cons, foldl_push_sql ps (w.push d layout .lineBreak) k
      (by rw [Written.push_break d layout w (.inr ⟨rfl, rfl⟩)]; exact hk),
      Written.push_break d layout w (.inr ⟨rfl, rfl⟩)]
    simp [skeleton, String.append_assoc]
  | .indent :: ps, w, k, hk => by
    rw [List.foldl_cons, foldl_push_sql ps (w.push d layout .indent) k hk]
    rfl
  | .dedent :: ps, w, k, hk => by
    rw [List.foldl_cons, foldl_push_sql ps (w.push d layout .dedent) k hk]
    rfl

/-- Writing pieces collects their values, in order, when the layout collects values at all. -/
theorem foldl_push_params : ∀ (ps : List Piece) (w : Written),
    (ps.foldl (Written.push d layout) w).params.toList =
      w.params.toList ++ (if layout.parameterized then (skeleton w.indent ps).values else [])
  | [], w => by simp [skeleton, Skeleton.values]
  | .value p :: ps, w => by
    rw [List.foldl_cons, Written.push_value, foldl_push_params ps]
    cases layout.parameterized <;> simp [skeleton]
  | .text s :: ps, w => by
    rw [List.foldl_cons, Written.push_text, foldl_push_params ps]
    simp [skeleton]
  | .clause :: ps, w => by
    rw [List.foldl_cons, Written.push_break d layout w (.inl ⟨rfl, rfl⟩), foldl_push_params ps]
    simp [skeleton]
  | .lineBreak :: ps, w => by
    rw [List.foldl_cons, Written.push_break d layout w (.inr ⟨rfl, rfl⟩), foldl_push_params ps]
    simp [skeleton]
  | .indent :: ps, w => by
    rw [List.foldl_cons, Written.push_indent, foldl_push_params ps]
    rfl
  | .dedent :: ps, w => by
    rw [List.foldl_cons, Written.push_dedent, foldl_push_params ps]
    rfl

/-- Writing pieces moves the indentation as `depthAfter` says. -/
theorem foldl_push_indent : ∀ (ps : List Piece) (w : Written),
    (ps.foldl (Written.push d layout) w).indent = depthAfter w.indent ps
  | [], w => rfl
  | .value p :: ps, w => by
    rw [List.foldl_cons, Written.push_value, foldl_push_indent ps]
    rfl
  | .text s :: ps, w => by
    rw [List.foldl_cons, Written.push_text, foldl_push_indent ps]
    rfl
  | .clause :: ps, w => by
    rw [List.foldl_cons, Written.push_break d layout w (.inl ⟨rfl, rfl⟩), foldl_push_indent ps]
    rfl
  | .lineBreak :: ps, w => by
    rw [List.foldl_cons, Written.push_break d layout w (.inr ⟨rfl, rfl⟩), foldl_push_indent ps]
    rfl
  | .indent :: ps, w => by
    rw [List.foldl_cons, Written.push_indent, foldl_push_indent ps]
    rfl
  | .dedent :: ps, w => by
    rw [List.foldl_cons, Written.push_dedent, foldl_push_indent ps]
    rfl

end Writer

/-! ### The indentation comes back

Only the body of a common table expression is indented, between an `indent` and a `dedent`
of its own; every other piece leaves the depth alone. So each part of a statement, and the
statement itself, ends at the depth it started from. -/

theorem depthAfter_append : ∀ (n : Nat) (ps qs : List Piece),
    depthAfter n (ps ++ qs) = depthAfter (depthAfter n ps) qs
  | _, [], _ => rfl
  | n, p :: ps, qs => by
    cases p <;> simp only [List.cons_append, depthAfter] <;> exact depthAfter_append _ ps qs

theorem depthAfter_flatMap {α : Type} (f : α → List Piece) (hf : ∀ a n, depthAfter n (f a) = n) :
    ∀ (as : List α) (n : Nat), depthAfter n (as.flatMap f) = n
  | [], _ => rfl
  | a :: as, n => by rw [List.flatMap_cons, depthAfter_append, hf, depthAfter_flatMap f hf as]

theorem depthAfter_rawPieces : ∀ (cs : List Char) (bs : List Param) (inQuote : Bool) (n : Nat),
    depthAfter n (rawPieces cs bs inQuote) = n
  | [], _, _, _ => rfl
  | c :: cs, bs, inQuote, n => by
    unfold rawPieces
    split
    · simp [depthAfter, depthAfter_rawPieces]
    · split
      · cases bs <;> simp [depthAfter, depthAfter_rawPieces]
      · simp [depthAfter, depthAfter_rawPieces]

theorem depthAfter_paginationPieces (d : Dialect) (limit offset : Option Nat) (n : Nat) :
    depthAfter n (paginationPieces d limit offset) = n := by
  cases d <;> cases limit <;> cases offset <;>
    simp +decide [paginationPieces, depthAfter]

/-- A clause keeps the depth when its pieces, if any, do. -/
theorem depthAfter_clauseOf (keyword : String) {o : Option (List Piece)}
    (h : ∀ ps ∈ o, ∀ m, depthAfter m ps = m) (n : Nat) : depthAfter n (clauseOf keyword o) = n := by
  cases o with
  | none => rfl
  | some ps => simp [clauseOf, depthAfter, h ps rfl]

theorem depthAfter_assembleBody {columns source filter groupBy having : Option (List Piece)}
    (hc : ∀ ps ∈ columns, ∀ m, depthAfter m ps = m) (hs : ∀ ps ∈ source, ∀ m, depthAfter m ps = m)
    (hf : ∀ ps ∈ filter, ∀ m, depthAfter m ps = m) (hg : ∀ ps ∈ groupBy, ∀ m, depthAfter m ps = m)
    (hh : ∀ ps ∈ having, ∀ m, depthAfter m ps = m) (n : Nat) :
    depthAfter n (assembleBody columns source filter groupBy having) = n := by
  have hcols : depthAfter n (columns.getD [.text "*"]) = n := by
    cases columns with
    | none => rfl
    | some ps => exact hc ps rfl n
  simp only [assembleBody, depthAfter_append, depthAfter, hcols, depthAfter_clauseOf _ hs,
    depthAfter_clauseOf _ hf, depthAfter_clauseOf _ hg, depthAfter_clauseOf _ hh]

/-- A select's pieces are its `with` list, its body, its set operations, its sorting and its
paging, in that order. -/
theorem Query.pieces_eq (d : Dialect) (q : Query) :
    q.pieces d =
      withPieces d q.ctes ++ q.bodyPieces d ++ SetPart.listPieces d q.setOps ++
        (match q.orderBy with
         | [] =>
           if (q.limit.isSome || q.offset.isSome) && d == .sqlServer then
             [.clause, .text "order by (select 0)"]
           else []
         | _ => [.clause, .text "order by "] ++ OrderItem.listPieces d q.orderBy) ++
        paginationPieces d q.limit q.offset := by
  obtain ⟨ctes, columns, source, filter, groupBy, having, setOps, orderBy, limit, offset⟩ := q
  cases ctes <;> cases orderBy <;> rfl

variable (d : Dialect)

mutual

theorem Expr.depthAfter_pieces : ∀ (e : Expr) (n : Nat), depthAfter n (e.pieces d) = n
  | .column c, n => by
    have hq : ∀ (q : String) m, depthAfter m [identPiece d q, .text "."] = m := fun _ _ => rfl
    simp only [Expr.pieces, ColumnRef.pieces, depthAfter_append, depthAfter_flatMap _ hq]
    split <;> rfl
  | .literal _, n | .bound _, n => rfl
  | .binary l _ r, n => by
    simp [Expr.pieces, depthAfter_append, depthAfter, Expr.depthAfter_pieces l,
      Expr.depthAfter_pieces r]
  | .not e, n | .nested e, n | .isNull e _, n => by
    simp [Expr.pieces, depthAfter_append, depthAfter, Expr.depthAfter_pieces e]
  | .subquery q, n | .exists q _, n => by
    simp [Expr.pieces, depthAfter_append, depthAfter, Query.depthAfter_pieces q]
  | .inList e items _, n => by
    have hitems := Expr.depthAfter_listPieces items
    cases items with
    | nil => rfl
    | cons i is =>
      simp [Expr.pieces, depthAfter_append, depthAfter, Expr.depthAfter_pieces e, hitems]
  | .inSubquery e q _, n => by
    simp [Expr.pieces, depthAfter_append, depthAfter, Expr.depthAfter_pieces e,
      Query.depthAfter_pieces q]
  | .like e pattern _, n => by
    simp [Expr.pieces, depthAfter_append, depthAfter, Expr.depthAfter_pieces e,
      Expr.depthAfter_pieces pattern]
  | .raw sql bindings, n => depthAfter_rawPieces _ _ _ n

theorem Expr.depthAfter_listPieces : ∀ (es : List Expr) (n : Nat),
    depthAfter n (Expr.listPieces d es) = n
  | [], _ => rfl
  | [e], n => Expr.depthAfter_pieces e n
  | e :: e' :: es, n => by
    simp [Expr.listPieces, depthAfter_append, depthAfter, Expr.depthAfter_pieces e,
      Expr.depthAfter_listPieces (e' :: es)]

theorem SelectItem.depthAfter_listPieces : ∀ (items : List SelectItem) (n : Nat),
    depthAfter n (SelectItem.listPieces d items) = n
  | [], _ => rfl
  | .expr e (some a) :: rest, n => by
    have hrest := SelectItem.depthAfter_listPieces rest
    rw [SelectItem.listPieces.eq_def]
    cases rest <;>
      simp [depthAfter_append, depthAfter, identPiece, Expr.depthAfter_pieces e, hrest]
  | .expr e none :: rest, n => by
    have hrest := SelectItem.depthAfter_listPieces rest
    rw [SelectItem.listPieces.eq_def]
    cases rest <;> simp [depthAfter_append, depthAfter, Expr.depthAfter_pieces e, hrest]
  | .star :: rest, n => by
    have hrest := SelectItem.depthAfter_listPieces rest
    rw [SelectItem.listPieces.eq_def]
    cases rest with
    | nil => rfl
    | cons r rs => simp [depthAfter, hrest]

theorem FromItem.depthAfter_pieces : ∀ (f : FromItem) (n : Nat), depthAfter n (f.pieces d) = n
  | .table ⟨name, aliasName⟩, n => by
    cases name with
    | quoted schema name => cases schema <;> cases aliasName <;>
        simp [FromItem.pieces, TableRef.pieces, TableName.pieces, identPiece, depthAfter]
    | raw sql => cases aliasName <;>
        simp [FromItem.pieces, TableRef.pieces, TableName.pieces, identPiece, depthAfter]
  | .subquery q _, n => by
    simp [FromItem.pieces, depthAfter_append, depthAfter, identPiece, Query.depthAfter_pieces q]
  | .join left _ right none, n => by
    simp [FromItem.pieces, depthAfter_append, FromItem.depthAfter_pieces left,
      FromItem.depthAfter_pieces right, depthAfter]
  | .join left _ right (some e), n => by
    simp [FromItem.pieces, depthAfter_append, FromItem.depthAfter_pieces left,
      FromItem.depthAfter_pieces right, Expr.depthAfter_pieces e, depthAfter]

theorem CteDef.depthAfter_pieces : ∀ (c : CteDef) (n : Nat), depthAfter n (c.pieces d) = n
  | ⟨_, .select q⟩, n => by
    simp [CteDef.pieces, depthAfter_append, depthAfter, identPiece, Query.depthAfter_pieces q]
  | ⟨_, .raw _⟩, n => by simp [CteDef.pieces, depthAfter, identPiece]

theorem CteDef.depthAfter_listPieces : ∀ (cs : List CteDef) (n : Nat),
    depthAfter n (CteDef.listPieces d cs) = n
  | [], _ => rfl
  | [c], n => CteDef.depthAfter_pieces c n
  | c :: c' :: cs, n => by
    simp [CteDef.listPieces, depthAfter_append, depthAfter, CteDef.depthAfter_pieces c,
      CteDef.depthAfter_listPieces (c' :: cs)]

theorem OrderItem.depthAfter_listPieces : ∀ (os : List OrderItem) (n : Nat),
    depthAfter n (OrderItem.listPieces d os) = n
  | [], _ => rfl
  | ⟨e, dir⟩ :: rest, n => by
    have hrest := OrderItem.depthAfter_listPieces rest
    rw [OrderItem.listPieces.eq_def]
    cases dir <;> cases rest <;>
      simp [depthAfter_append, depthAfter, Expr.depthAfter_pieces e, hrest]

theorem SetPart.depthAfter_listPieces : ∀ (ss : List SetPart) (n : Nat),
    depthAfter n (SetPart.listPieces d ss) = n
  | [], _ => rfl
  | ⟨_, q⟩ :: rest, n => by
    simp [SetPart.listPieces, depthAfter_append, depthAfter, Query.depthAfter_bodyPieces q,
      SetPart.depthAfter_listPieces rest]

theorem Query.depthAfter_bodyPieces : ∀ (q : Query) (n : Nat), depthAfter n (q.bodyPieces d) = n
  | ⟨_, columns, source, filter, groupBy, having, _, _, _, _⟩, n => by
    have hcols := SelectItem.depthAfter_listPieces columns
    have hgroup := Expr.depthAfter_listPieces groupBy
    have hsource : ∀ ps ∈ FromItem.optPieces d source, ∀ m, depthAfter m ps = m := by
      match source with
      | some f => simpa [FromItem.optPieces] using FromItem.depthAfter_pieces f
      | none => simp [FromItem.optPieces]
    have hfilter : ∀ ps ∈ Expr.optPieces d filter, ∀ m, depthAfter m ps = m := by
      match filter with
      | some e => simpa [Expr.optPieces] using Expr.depthAfter_pieces e
      | none => simp [Expr.optPieces]
    have hhaving : ∀ ps ∈ Expr.optPieces d having, ∀ m, depthAfter m ps = m := by
      match having with
      | some e => simpa [Expr.optPieces] using Expr.depthAfter_pieces e
      | none => simp [Expr.optPieces]
    simp only [Query.bodyPieces]
    apply depthAfter_assembleBody _ hsource hfilter _ hhaving
    · cases columns <;> simp [hcols]
    · cases groupBy <;> simp [hgroup]

theorem Query.depthAfter_pieces : ∀ (q : Query) (n : Nat), depthAfter n (q.pieces d) = n
  | ⟨ctes, columns, source, filter, groupBy, having, setOps, orderBy, limit, offset⟩, n => by
    have hctes := CteDef.depthAfter_listPieces ctes
    have hbody := Query.depthAfter_bodyPieces ⟨ctes, columns, source, filter, groupBy, having,
      setOps, orderBy, limit, offset⟩
    have hsets := SetPart.depthAfter_listPieces setOps
    have horder := OrderItem.depthAfter_listPieces orderBy
    rw [Query.pieces_eq]
    cases ctes <;> cases orderBy <;>
      simp [withPieces, depthAfter_append, depthAfter, hctes, hbody, hsets, horder,
        depthAfter_paginationPieces] <;> split <;> simp [depthAfter]

end

/-! ### Statements -/

theorem depthAfter_commaJoin : ∀ (pss : List (List Piece)),
    (∀ ps ∈ pss, ∀ m, depthAfter m ps = m) → ∀ n, depthAfter n (commaJoin pss) = n
  | [], _, _ => rfl
  | [ps], h, n => h ps List.mem_cons_self n
  | ps :: ps' :: pss, h, n => by
    have hps := h ps List.mem_cons_self
    have hrest := depthAfter_commaJoin (ps' :: pss) fun qs hq => h qs (List.mem_cons_of_mem ps hq)
    simp [commaJoin, depthAfter_append, depthAfter, hps, hrest]

theorem depthAfter_rowsPieces : ∀ (rows : List (List Expr)) (n : Nat),
    depthAfter n (rowsPieces d rows) = n
  | [], _ => rfl
  | [r], n => by simp [rowsPieces, depthAfter_append, depthAfter, Expr.depthAfter_listPieces d r]
  | r :: r' :: rs, n => by
    simp [rowsPieces, depthAfter_append, depthAfter, Expr.depthAfter_listPieces d r,
      depthAfter_rowsPieces (r' :: rs)]

theorem depthAfter_withPieces (cs : List CteDef) (n : Nat) : depthAfter n (withPieces d cs) = n := by
  cases cs with
  | nil => rfl
  | cons c cs =>
    simp [withPieces, depthAfter_append, depthAfter, CteDef.depthAfter_listPieces d (c :: cs)]

theorem TableName.depthAfter_pieces (t : TableName) (n : Nat) : depthAfter n (t.pieces d) = n := by
  cases t with
  | quoted schema name => cases schema <;> rfl
  | raw sql => rfl

theorem TableRef.depthAfter_pieces (t : TableRef) (n : Nat) : depthAfter n (t.pieces d) = n :=
  FromItem.depthAfter_pieces d (.table t) n

/-- A statement's pieces leave the indentation where they found it. -/
theorem Stmt.depthAfter_pieces (s : Stmt) (n : Nat) : depthAfter n (s.pieces d) = n := by
  cases s with
  | select q => exact Query.depthAfter_pieces d q n
  | insert s =>
    obtain ⟨ctes, table, columns, rows⟩ := s
    cases columns <;> cases rows <;>
      simp [Stmt.pieces, InsertStmt.pieces, depthAfter_append, depthAfter, depthAfter_withPieces,
        TableName.depthAfter_pieces, depthAfter_commaJoin, identPiece, depthAfter_rowsPieces,
        Query.depthAfter_pieces]
  | update s =>
    obtain ⟨table, set, filter⟩ := s
    have hset : ∀ ps ∈ set.map (fun ce => identPiece d ce.1 :: .text " = " :: ce.2.pieces d),
        ∀ m, depthAfter m ps = m := by
      intro ps hps
      obtain ⟨⟨c, e⟩, -, rfl⟩ := List.mem_map.1 hps
      simp [depthAfter, identPiece, Expr.depthAfter_pieces]
    cases filter <;>
      simp [Stmt.pieces, UpdateStmt.pieces, depthAfter_append, depthAfter,
        TableRef.depthAfter_pieces, depthAfter_commaJoin _ hset, Expr.depthAfter_pieces]
  | delete s =>
    obtain ⟨table, filter⟩ := s
    cases filter <;>
      simp [Stmt.pieces, DeleteStmt.pieces, depthAfter_append, depthAfter,
        TableRef.depthAfter_pieces, Expr.depthAfter_pieces]

/-! ### One skeleton, three texts -/

theorem Layout.hole_collecting (pretty : Bool) :
    Layout.hole d ⟨true, pretty⟩ = fun k _ => d.placeholder k := rfl

theorem Layout.hole_literal (pretty : Bool) :
    Layout.hole d ⟨false, pretty⟩ = fun _ p => p.literal d := rfl

theorem Layout.mark_compact (parameterized : Bool) :
    Layout.mark ⟨parameterized, false⟩ = Mark.compact := rfl

theorem Layout.mark_pretty (parameterized : Bool) :
    Layout.mark ⟨parameterized, true⟩ = Mark.pretty := rfl

/-- A writer's whole text is the skeleton of its pieces, values numbered from 1. -/
theorem writePieces_sql (layout : Layout) (ps : List Piece) :
    (writePieces d layout ps).sql = (skeleton 0 ps).text (layout.hole d) layout.mark := by
  rw [writePieces, foldl_push_sql d layout ps ⟨"", #[], 0⟩ 0 (fun _ => rfl)]
  simp [Skeleton.text]

/-- A collecting writer collects the skeleton's values. -/
theorem writePieces_params (layout : Layout) (h : layout.parameterized = true) (ps : List Piece) :
    (writePieces d layout ps).params.toList = (skeleton 0 ps).values := by
  rw [writePieces, foldl_push_params]
  simp [h]

/-- Every statement, in every dialect: its parameterized, inline and pretty texts are one
skeleton written three ways. The parameterized text writes the `k`-th value as the `k`-th
placeholder and collects the skeleton's values in text order; the inline and pretty texts
write the same values as literals, and differ from each other only at breaks. Every writer
ends at indentation zero. -/
theorem Stmt.writers_share_skeleton (s : Stmt) :
    (s.render d).params = (skeleton 0 (s.pieces d)).values ∧
      (s.render d).sql = (skeleton 0 (s.pieces d)).text (fun k _ => d.placeholder k) Mark.compact ∧
      s.renderInline d = (skeleton 0 (s.pieces d)).text (fun _ p => p.literal d) Mark.compact ∧
      s.renderPretty d = (skeleton 0 (s.pieces d)).text (fun _ p => p.literal d) Mark.pretty ∧
      ∀ layout : Layout, (writePieces d layout (s.pieces d)).indent = 0 := by
  refine ⟨?_, ?_, ?_, ?_, fun layout => ?_⟩
  · exact writePieces_params d ⟨true, false⟩ rfl (s.pieces d)
  · rw [Stmt.render, parameterized, writePieces_sql, Layout.hole_collecting, Layout.mark_compact]
  · rw [Stmt.renderInline, inline, writePieces_sql, Layout.hole_literal, Layout.mark_compact]
  · rw [Stmt.renderPretty, pretty, writePieces_sql, Layout.hole_literal, Layout.mark_pretty]
  · rw [writePieces, foldl_push_indent]
    exact Stmt.depthAfter_pieces d s 0

end QueryDoc.Sql
