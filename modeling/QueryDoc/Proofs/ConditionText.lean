import QueryDoc.Proofs.Infix
import QueryDoc.Proofs.Result
import QueryDoc.Compile.Statement

/-!
How SQL reads the conditions the builder writes.

The builder joins each item, negated or not, to everything before it by `and` or `or`, and
folds a group on its own in parentheses: a left-leaning tree, `((a or b) and not(c))`. Its text
has no parentheses but those of groups and of `not(…)`, so SQL, where `and` binds tighter than
`or`, reads `a or b and not(c)` as `a or (b and not(c))`.

At the level of its connectives the text is a list of tokens (`Expr.pieces_eq_tokens`):
operands, `and`, `or`, `not(`, `(` and `)`. SQL does not keep a raw fragment whole: it meets
the `and`s and `or`s of its text outside quotes, comments, parentheses and `case … end`
(`Expr.textTokens`, from the scan `rawCut`). Where no fragment has one (`Expr.rawClosed`), SQL
reads the tokens as `Expr.reading` (`Expr.readText_tokens`), and for every such condition the
builder can produce, that is its own tree exactly when no `and` follows an `or` along a chain
(`Expr.AndsBeforeOrs`). A fragment with an `or` of its own, joined by `and`, is read apart
(`condition_text_misread`).
-/

namespace QueryDoc.Sql

open Infix

/-- Whether an operator joins conditions: `and` or `or`. -/
def BinOp.joinsConditions : BinOp → Bool
  | .and | .or => true
  | _ => false

/-- `and`, the connective that binds tighter. -/
def BinOp.isAnd : BinOp → Bool
  | .and => true
  | _ => false

/-- The text of one token of a condition. -/
def conditionTokenPieces (d : Dialect) : Tok Expr BinOp → List Piece
  | .operand e => e.pieces d
  | .op o => [.text (" " ++ o.text ++ " ")]
  | .notOpen => [.text "not("]
  | .lparen => [.text "("]
  | .rparen => [.text ")"]

/-! ### Raw fragments at the level of connectives -/

/-- How far a scan of raw SQL has come: the text that closes the quote or comment it is in
(empty outside one), whether the next character is the `*` of a comment just opened, how deep
it is in parentheses and `case … end`, how many `between`s wait for their `and`, the word being
read, the text since the last cut, and the cuts so far: each top-level `and` or `or` with the
text before it. -/
structure RawScan where
  closer : List Char := []
  skip : Bool := false
  depth : Nat := 0
  between : Nat := 0
  word : List Char := []
  piece : List Char := []
  cuts : List (List Char × BinOp) := []

namespace RawScan

/-- Ends the word being read. At the top level an `or`, or an `and` that no `between` waits
for, cuts the text there; `case` and `end` go a level in and out. -/
def endWord (s : RawScan) : RawScan :=
  let w := s.word.map Char.toLower
  let kept := { s with word := [], piece := s.piece ++ s.word }
  let cut (o : BinOp) : RawScan := { s with word := [], piece := [], cuts := s.cuts ++ [(s.piece, o)] }
  if s.depth = 0 ∧ w = "or".toList then cut .or
  else if s.depth = 0 ∧ w = "and".toList then
    if s.between = 0 then cut .and else { kept with between := s.between - 1 }
  else if s.depth = 0 ∧ w = "between".toList then { kept with between := s.between + 1 }
  else if w = "case".toList then { kept with depth := s.depth + 1 }
  else if w = "end".toList then { kept with depth := s.depth - 1 }
  else kept

/-- Takes a character, outside quotes and comments, that ends a word: a quote or a comment
opens, a parenthesis goes a level in or out. -/
def enter (s : RawScan) (c : Char) (next : Option Char) : RawScan :=
  let s := { s with piece := s.piece ++ [c] }
  if c = '\'' ∨ c = '\x22' ∨ c = '\x60' then { s with closer := [c] }
  else if c = '[' then { s with closer := [']'] }
  else if c = '-' ∧ next = some '-' then { s with closer := ['\n'] }
  else if c = '/' ∧ next = some '*' then { s with closer := ['*', '/'], skip := true }
  else if c = '(' then { s with depth := s.depth + 1 }
  else if c = ')' then { s with depth := s.depth - 1 }
  else s

/-- Scans the rest of the text. -/
def run : RawScan → List Char → RawScan
  | s, [] => s.endWord
  | s, c :: cs =>
    if s.skip then run { s with skip := false, piece := s.piece ++ [c] } cs
    else match s.closer with
      | [] =>
        if c.isAlphanum || c == '_' || c == '$' || 127 < c.toNat then run { s with word := s.word ++ [c] } cs
        else run (s.endWord.enter c cs.head?) cs
      -- inside a quote or a comment only its closing text counts
      | d :: ds =>
        run { s with piece := s.piece ++ [c], closer := if (d :: ds).isPrefixOf (c :: cs) then ds else d :: ds } cs

end RawScan

/-- A raw fragment's text scanned for its top-level `and`s and `or`s. -/
def rawCut (sql : String) : RawScan := RawScan.run {} sql.toList

namespace Expr

/-- Whether an expression is an `and` or an `or`. -/
def isConnective : Expr → Bool
  | .binary _ op _ => op.joinsConditions
  | _ => false

/-- Whether an expression is an `or`. -/
def isOr : Expr → Bool
  | .binary _ .or _ => true
  | _ => false

/-- The tokens of a condition's text as far as its connectives go: everything that is not an
`and`, an `or`, a `not(…)` or a parenthesized group is one operand. -/
def tokens : Expr → List (Tok Expr BinOp)
  | .binary l op r =>
    if op.joinsConditions then l.tokens ++ [.op op] ++ r.tokens else [.operand (.binary l op r)]
  | .not e => [.notOpen] ++ e.tokens ++ [.rparen]
  | .nested e => [.lparen] ++ e.tokens ++ [.rparen]
  | e => [.operand e]

/-- The tokens of a raw fragment's text: the fragment itself when the text has no top-level
`and` or `or`; otherwise the pieces around them, each raw SQL with the fragment's bindings. -/
def rawTokens (sql : String) (bindings : List Param) : List (Tok Expr BinOp) :=
  let scan := rawCut sql
  if scan.cuts.isEmpty then [.operand (.raw sql bindings)]
  else scan.cuts.flatMap (fun p => [.operand (.raw (String.ofList p.1) bindings), .op p.2]) ++
    [.operand (.raw (String.ofList scan.piece) bindings)]

/-- The tokens of a condition's text as SQL meets them: those of `tokens`, with the text of each
raw fragment cut at its top-level connectives. -/
def textTokens : Expr → List (Tok Expr BinOp)
  | .binary l op r =>
    if op.joinsConditions then l.textTokens ++ [.op op] ++ r.textTokens else [.operand (.binary l op r)]
  | .not e => [.notOpen] ++ e.textTokens ++ [.rparen]
  | .nested e => [.lparen] ++ e.textTokens ++ [.rparen]
  | .raw sql bindings => rawTokens sql bindings
  | e => [.operand e]

/-- No raw fragment among the operands has a top-level `and` or `or` in its text. -/
def rawClosed : Expr → Bool
  | .binary l op r => !op.joinsConditions || (l.rawClosed && r.rawClosed)
  | .not e => e.rawClosed
  | .nested e => e.rawClosed
  | .raw sql _ => (rawCut sql).cuts.isEmpty
  | _ => true

/-- The condition as the builder's tree: its `and`, `or` and `not` nodes, groups dropped. -/
def tree : Expr → Term Expr BinOp
  | .binary l op r => if op.joinsConditions then .bin l.tree op r.tree else .atom (.binary l op r)
  | .not e => .neg e.tree
  | .nested e => e.tree
  | e => .atom e

/-- The items of the outermost level of a condition's text. -/
def items : Expr → List (Item Expr BinOp)
  | .binary l op r =>
    if op.joinsConditions then l.items ++ [.op op] ++ r.items else [.operand (.binary l op r)]
  | .not e => [.group true e.items]
  | .nested e => [.group false e.items]
  | e => [.operand e]

/-- The outermost level as SQL reads it: the reading of its first item, then each connective
with the reading of the item after it. -/
def chain : Expr → Term Expr BinOp × List (BinOp × Term Expr BinOp)
  | .binary l op r =>
    if op.joinsConditions then (l.chain.1, l.chain.2 ++ (op, r.chain.1) :: r.chain.2)
    else (.atom (.binary l op r), [])
  | .not e => (.neg (readChain BinOp.isAnd e.chain.1 e.chain.2), [])
  | .nested e => (readChain BinOp.isAnd e.chain.1 e.chain.2, [])
  | e => (.atom e, [])

/-- How SQL reads a condition's text: `and` before `or`, each grouping to the left. -/
def reading (e : Expr) : Term Expr BinOp := readChain BinOp.isAnd e.chain.1 e.chain.2

/-! ### The text is its tokens -/

/-- The text written for a condition is the text of its tokens, in order. -/
theorem pieces_eq_tokens (d : Dialect) :
    ∀ e : Expr, e.pieces d = e.tokens.flatMap (conditionTokenPieces d)
  | .binary l op r => by
    by_cases h : op.joinsConditions
    · simp only [tokens, h, if_true, List.flatMap_append, List.flatMap_cons, List.flatMap_nil,
        List.append_nil, conditionTokenPieces, ← pieces_eq_tokens d l, ← pieces_eq_tokens d r]
      rfl
    · simp [tokens, h, conditionTokenPieces]
  | .not e => by
    simp only [tokens, List.flatMap_append, List.flatMap_cons, List.flatMap_nil, List.append_nil,
      conditionTokenPieces, ← pieces_eq_tokens d e]
    rfl
  | .nested e => by
    simp only [tokens, List.flatMap_append, List.flatMap_cons, List.flatMap_nil, List.append_nil,
      conditionTokenPieces, ← pieces_eq_tokens d e]
    rfl
  | .column _ | .literal _ | .bound _ | .subquery _ | .isNull _ _ | .inList _ _ _
  | .inSubquery _ _ _ | .like _ _ _ | .exists _ _ | .raw _ _ => by
    simp [tokens, conditionTokenPieces]

/-- Where no raw fragment's text has a top-level connective, SQL meets the tokens `tokens`
gives. -/
theorem textTokens_eq_tokens : ∀ e : Expr, e.rawClosed = true → e.textTokens = e.tokens
  | .binary l op r, h => by
    by_cases hop : op.joinsConditions
    · simp only [rawClosed, hop, Bool.not_true, Bool.false_or, Bool.and_eq_true] at h
      simp [textTokens, tokens, hop, textTokens_eq_tokens l h.1, textTokens_eq_tokens r h.2]
    · simp [textTokens, tokens, hop]
  | .not e, h => by simp [textTokens, tokens, textTokens_eq_tokens e h]
  | .nested e, h => by simp [textTokens, tokens, textTokens_eq_tokens e h]
  | .raw sql bindings, h => by
    have hcuts : (rawCut sql).cuts.isEmpty = true := h
    simp [textTokens, tokens, rawTokens, hcuts]
  | .column _, _ | .literal _, _ | .bound _, _ | .subquery _, _ | .isNull _ _, _
  | .inList _ _ _, _ | .inSubquery _ _ _, _ | .like _ _ _, _ | .exists _ _, _ => rfl

/-! ### SQL's reading of the tokens -/

/-- Matching the parentheses of a condition's tokens adds its items to the current level. -/
theorem nest_tokens :
    ∀ (e : Expr) (cur : List (Item Expr BinOp)) (outer : List (Bool × List (Item Expr BinOp)))
      (rest : List (Tok Expr BinOp)), nest cur outer (e.tokens ++ rest) = nest (cur ++ e.items) outer rest
  | .binary l op r, cur, outer, rest => by
    by_cases h : op.joinsConditions
    · simp only [tokens, items, h, if_true, List.append_assoc, List.cons_append, List.nil_append]
      rw [nest_tokens l, nest, nest_tokens r]
      simp
    · simp [tokens, items, h, nest]
  | .not e, cur, outer, rest => by
    simp only [tokens, items, List.append_assoc, List.cons_append, List.nil_append, nest]
    rw [nest_tokens e, nest]
    simp
  | .nested e, cur, outer, rest => by
    simp only [tokens, items, List.append_assoc, List.cons_append, List.nil_append, nest]
    rw [nest_tokens e, nest]
    simp
  | .column _, _, _, _ | .literal _, _, _, _ | .bound _, _, _, _ | .subquery _, _, _, _
  | .isNull _ _, _, _, _ | .inList _ _ _, _, _, _ | .inSubquery _ _ _, _, _, _
  | .like _ _ _, _, _, _ | .exists _ _, _, _, _ | .raw _ _, _, _, _ => by
    simp [tokens, items, nest]

/-- The items of a level read as its chain: the first item as the chain's first reading, and
the items after it as its pairs, whatever follows them. -/
def ReadsAsChain (e : Expr) : Prop :=
  ∃ x tl, e.items = x :: tl ∧ x.read BinOp.isAnd = some e.chain.1 ∧
    ∀ more, readPairs BinOp.isAnd (tl ++ more) = (readPairs BinOp.isAnd more).map (e.chain.2 ++ ·)

theorem readLevel_items {e : Expr} (h : e.ReadsAsChain) :
    readLevel BinOp.isAnd e.items = some e.reading := by
  obtain ⟨x, tl, hitems, hx, hpairs⟩ := h
  have htl := hpairs []
  rw [List.append_nil] at htl
  simp [hitems, readLevel, hx, htl, readPairs, reading]

theorem readsAsChain : ∀ e : Expr, e.ReadsAsChain
  | .binary l op r => by
    by_cases h : op.joinsConditions
    · obtain ⟨xl, tll, hl, hxl, hpl⟩ := readsAsChain l
      obtain ⟨xr, tlr, hr, hxr, hpr⟩ := readsAsChain r
      refine ⟨xl, tll ++ [.op op] ++ xr :: tlr, ?_, ?_, ?_⟩
      · simp [items, h, hl, hr]
      · simpa [chain, h] using hxl
      · intro more
        have hstep : readPairs BinOp.isAnd (.op op :: xr :: (tlr ++ more)) =
            (readPairs BinOp.isAnd more).map (((op, r.chain.1) :: r.chain.2) ++ ·) := by
          rw [readPairs, hxr, hpr]
          cases readPairs BinOp.isAnd more <;> simp
        simp only [List.append_assoc, List.cons_append, List.nil_append]
        rw [hpl, hstep]
        cases readPairs BinOp.isAnd more <;> simp [chain, h]
    · exact ⟨.operand (.binary l op r), [], by simp [items, h], by simp [Item.read, chain, h],
        fun more => by simp [chain, h]⟩
  | .not e => ⟨.group true e.items, [], rfl,
      by simp [Item.read, readLevel_items (readsAsChain e), chain, reading],
      fun more => by simp [chain]⟩
  | .nested e => ⟨.group false e.items, [], rfl,
      by simp [Item.read, readLevel_items (readsAsChain e), chain, reading],
      fun more => by simp [chain]⟩
  | .column _ | .literal _ | .bound _ | .subquery _ | .isNull _ _ | .inList _ _ _
  | .inSubquery _ _ _ | .like _ _ _ | .exists _ _ | .raw _ _ =>
    ⟨_, [], rfl, rfl, fun more => by simp [chain]⟩

/-- SQL reads the tokens of every condition as `reading` says. -/
theorem readText_tokens (e : Expr) : readText BinOp.isAnd e.tokens = some e.reading := by
  have h := nest_tokens e [] [] []
  rw [List.append_nil, List.nil_append] at h
  rw [readText, h, nest]
  exact readLevel_items (readsAsChain e)

/-! ### The builder's tree against SQL's reading -/

/-- The outermost chain of a condition as written: its first item, then each connective with
the item after it. -/
def spine : Expr → Expr × List (BinOp × Expr)
  | .binary l op r =>
    if op.joinsConditions then (l.spine.1, l.spine.2 ++ [(op, r)]) else (.binary l op r, [])
  | e => (e, [])

/-- Every `and` and `or` has a single item on its right, as when items are joined one at a
time. -/
def LeftChain : Expr → Prop
  | .binary l op r =>
    op.joinsConditions = true → l.LeftChain ∧ r.isConnective = false ∧ r.LeftChain
  | .not e => e.LeftChain
  | .nested e => e.LeftChain
  | _ => True

/-- Along every chain each `and` comes before every `or`: no `and` has an `or` as its left
operand. -/
def AndsBeforeOrs : Expr → Prop
  | .binary l op r =>
    op.joinsConditions = true →
      (op.isAnd = true → l.isOr = false) ∧ l.AndsBeforeOrs ∧ r.AndsBeforeOrs
  | .not e => e.AndsBeforeOrs
  | .nested e => e.AndsBeforeOrs
  | _ => True

/-- An item, not being an `and` or an `or`, is a chain of its own. -/
theorem spine_of_not_connective {e : Expr} (h : e.isConnective = false) : e.spine = (e, []) := by
  cases e with
  | binary l op r => simp_all [isConnective, spine]
  | _ => rfl

theorem chain_of_not_connective {e : Expr} (h : e.isConnective = false) : e.chain.2 = [] := by
  cases e with
  | binary l op r => simp_all [isConnective, chain]
  | _ => rfl

/-- The builder's tree is the left fold of the chain as written. -/
theorem tree_eq_leftFold :
    ∀ e : Expr, e.tree = leftFold e.spine.1.tree (e.spine.2.map fun p => (p.1, p.2.tree))
  | .binary l op r => by
    by_cases h : op.joinsConditions
    · simp [tree, spine, h, tree_eq_leftFold l]
    · simp [tree, spine, h, leftFold]
  | .not _ | .nested _ | .column _ | .literal _ | .bound _ | .subquery _ | .isNull _ _
  | .inList _ _ _ | .inSubquery _ _ _ | .like _ _ _ | .exists _ _ | .raw _ _ => by
    simp [spine, leftFold]

/-- In a left chain, SQL's reading groups the items of the chain as written. -/
theorem chain_eq_spine : ∀ e : Expr, e.LeftChain →
    e.chain = (e.spine.1.chain.1, e.spine.2.map fun p => (p.1, p.2.chain.1))
  | .binary l op r, h => by
    by_cases hop : op.joinsConditions
    · obtain ⟨hl, hr, -⟩ := h hop
      simp [chain, spine, hop, chain_eq_spine l hl, chain_of_not_connective hr]
    · simp [chain, spine, hop]
  | .not _, _ | .nested _, _ | .column _, _ | .literal _, _ | .bound _, _ | .subquery _, _
  | .isNull _ _, _ | .inList _ _ _, _ | .inSubquery _ _ _, _ | .like _ _ _, _ | .exists _ _, _
  | .raw _ _, _ => by
    simp [chain, spine]

/-- With ands before ors along a chain, the chain has no `or` exactly when the condition is
not an `or` itself. -/
theorem all_and_iff_not_or {e : Expr} (h : e.LeftChain)
    (hord : e.spine.2.Pairwise fun a b => b.1.isAnd = true → a.1.isAnd = true) :
    (∀ p ∈ e.spine.2, p.1.isAnd = true) ↔ e.isOr = false := by
  cases e with
  | binary l op r =>
    by_cases hop : op.joinsConditions
    · rw [spine, if_pos hop] at hord ⊢
      obtain ⟨-, -, hlast⟩ := List.pairwise_append.1 hord
      cases op with
      | and =>
        refine iff_of_true (fun p hp => ?_) rfl
        rcases List.mem_append.1 hp with hp | hp
        · exact hlast p hp _ (List.mem_singleton_self _) rfl
        · rw [List.mem_singleton.1 hp]
          rfl
      | or =>
        refine iff_of_false (fun hall => ?_) (by simp [isOr])
        simpa [BinOp.isAnd] using hall _ (List.mem_append_right _ (List.mem_singleton_self _))
      | _ => simp [BinOp.joinsConditions] at hop
    · cases op <;> simp_all [spine, BinOp.joinsConditions, isOr]
  | _ => simp [spine, isOr]

/-- In a left chain, ands come before ors everywhere exactly when they do along the outermost
chain and inside each of its items. -/
theorem andsBeforeOrs_iff_spine : ∀ e : Expr, e.LeftChain →
    (e.AndsBeforeOrs ↔
      (e.spine.2.Pairwise fun a b => b.1.isAnd = true → a.1.isAnd = true) ∧
        e.spine.1.AndsBeforeOrs ∧ ∀ p ∈ e.spine.2, p.2.AndsBeforeOrs)
  | .binary l op r, h => by
    by_cases hop : op.joinsConditions
    · obtain ⟨hl, -, -⟩ := h hop
      have habo : (Expr.binary l op r).AndsBeforeOrs ↔
          (op.isAnd = true → l.isOr = false) ∧ l.AndsBeforeOrs ∧ r.AndsBeforeOrs := by
        simp [AndsBeforeOrs, hop]
      rw [habo, spine, if_pos hop, andsBeforeOrs_iff_spine l hl, List.pairwise_append]
      simp only [List.forall_mem_append, List.forall_mem_singleton, List.pairwise_singleton,
        true_and]
      constructor
      · rintro ⟨hnot, ⟨hord, hfirst, hitems⟩, hr⟩
        exact ⟨⟨hord, fun a ha hand => (all_and_iff_not_or hl hord).2 (hnot hand) a ha⟩,
          hfirst, hitems, hr⟩
      · rintro ⟨⟨hord, hlast⟩, hfirst, hitems, hr⟩
        exact ⟨fun hand => (all_and_iff_not_or hl hord).1 fun a ha => hlast a ha hand,
          ⟨hord, hfirst, hitems⟩, hr⟩
    · simp [AndsBeforeOrs, spine, hop]
  | .not _, _ | .nested _, _ | .column _, _ | .literal _, _ | .bound _, _ | .subquery _, _
  | .isNull _ _, _ | .inList _ _ _, _ | .inSubquery _ _ _, _ | .like _ _ _, _ | .exists _ _, _
  | .raw _ _, _ => by
    simp [spine]

/-- Each item of a chain reads as its tree exactly when ands come before ors inside it. -/
def ItemsRead (e : Expr) : Prop :=
  (e.spine.1.chain.1 = e.spine.1.tree ↔ e.spine.1.AndsBeforeOrs) ∧
    ∀ p ∈ e.spine.2, (p.2.chain.1 = p.2.tree ↔ p.2.AndsBeforeOrs)

theorem reading_eq_tree_iff_of_items {e : Expr} (h : e.LeftChain) (hi : e.ItemsRead) :
    e.reading = e.tree ↔ e.AndsBeforeOrs := by
  have hops : (e.spine.2.map fun p => (p.1, p.2.chain.1)).map Prod.fst =
      (e.spine.2.map fun p => (p.1, p.2.tree)).map Prod.fst := by
    simp [List.map_map, Function.comp_def]
  rw [reading, chain_eq_spine e h, tree_eq_leftFold e, readChain_eq_leftFold_iff hops,
    andsBeforeOrs_iff_spine e h, TightFirst, List.pairwise_map, hi.1, List.map_inj_left]
  simp only [Prod.mk.injEq, true_and]
  constructor
  · rintro ⟨hord, hfirst, hitems⟩
    exact ⟨hord, hfirst, fun p hp => (hi.2 p hp).1 (hitems p hp)⟩
  · rintro ⟨hord, hfirst, hitems⟩
    exact ⟨hord, hfirst, fun p hp => (hi.2 p hp).2 (hitems p hp)⟩

theorem itemsRead : ∀ e : Expr, e.LeftChain → e.ItemsRead
  | .binary l op r, h => by
    by_cases hop : op.joinsConditions
    · obtain ⟨hl, hr, hrc⟩ := h hop
      obtain ⟨hfirst, hitems⟩ := itemsRead l hl
      have hrself := (itemsRead r hrc).1
      rw [spine_of_not_connective hr] at hrself
      refine ⟨by simpa [spine, hop] using hfirst, ?_⟩
      simp only [spine, hop, if_true, List.mem_append, List.mem_singleton]
      rintro p (hp | rfl)
      · exact hitems p hp
      · exact hrself
    · refine ⟨?_, by simp [spine, hop]⟩
      simp [spine, hop, chain, tree, AndsBeforeOrs]
  | .not e, h => by
    have he : e.LeftChain := h
    refine ⟨?_, by simp [spine]⟩
    simp only [spine, chain, tree, AndsBeforeOrs, Term.neg.injEq]
    exact reading_eq_tree_iff_of_items he (itemsRead e he)
  | .nested e, h => by
    have he : e.LeftChain := h
    refine ⟨?_, by simp [spine]⟩
    exact reading_eq_tree_iff_of_items he (itemsRead e he)
  | .column _, _ | .literal _, _ | .bound _, _ | .subquery _, _ | .isNull _ _, _
  | .inList _ _ _, _ | .inSubquery _ _ _, _ | .like _ _ _, _ | .exists _ _, _ | .raw _ _, _ => by
    simp [ItemsRead, spine, chain, tree, AndsBeforeOrs]

/-- SQL reads a left chain as the builder's tree exactly when, along every chain, ands come
before ors. -/
theorem reading_eq_tree_iff {e : Expr} (h : e.LeftChain) :
    e.reading = e.tree ↔ e.AndsBeforeOrs :=
  reading_eq_tree_iff_of_items h (itemsRead e h)

end Expr

end QueryDoc.Sql

namespace QueryDoc.Compile

open Sql Infix

/-- The truth value of a reading, each operand valued by `v`. -/
def conditionValue (v : Expr → Bool) (t : Term Expr BinOp) : Bool :=
  t.eval v fun o a b => if o.isAnd then a && b else a || b

/-- The conditions the builder can produce. Starting from nothing, each call joins one more
item to what came before: a predicate (a comparison, not a connective), raw SQL, or a
parenthesized group built the same way. -/
inductive Built : Option Expr → Prop
  | empty : Built none
  | predicate {acc : Option Expr} (c : Connective) (p : Predicate)
      (hp : p.toExpr.isConnective = false) : Built acc → Built (push acc c p.toExpr)
  | raw {acc : Option Expr} (c : Connective) (sql : String) (bindings : List Param) :
      Built acc → Built (push acc c (.raw sql bindings))
  | group {acc : Option Expr} {g : Expr} (c : Connective) :
      Built acc → Built (some g) → Built (pushGroup acc c (some g))

/-- Joining an item that is no connective keeps a condition a left chain. -/
theorem push_leftChain {acc : Option Expr} {c : Connective} {x e : Expr}
    (hacc : ∀ a, acc = some a → a.LeftChain) (hx : x.isConnective = false) (hxc : x.LeftChain)
    (h : push acc c x = some e) : e.LeftChain := by
  have hitem : (if c.isNegated then Expr.not x else x).isConnective = false ∧
      (if c.isNegated then Expr.not x else x).LeftChain := by
    split
    · exact ⟨rfl, hxc⟩
    · exact ⟨hx, hxc⟩
  simp only [push, Option.some.injEq] at h
  subst h
  cases acc with
  | none => exact hitem.2
  | some a =>
    have ha := hacc a rfl
    by_cases ho : c.isOr
    · simpa [ho, Expr.orE, Expr.LeftChain, BinOp.joinsConditions] using ⟨ha, hitem⟩
    · simpa [ho, Expr.andE, Expr.LeftChain, BinOp.joinsConditions] using ⟨ha, hitem⟩

/-- Every condition the builder produces is a left chain. -/
theorem Built.leftChain {acc : Option Expr} (h : Built acc) : ∀ e, acc = some e → e.LeftChain := by
  induction h with
  | empty => simp
  | predicate c p hp _ ih =>
    refine fun e he => push_leftChain ih hp ?_ he
    cases p <;> simp [Predicate.toExpr, Expr.LeftChain, Expr.columnPath, Expr.isConnective]
  | raw c sql bindings _ ih => exact fun e he => push_leftChain (x := .raw sql bindings) ih rfl trivial he
  | @group _ g c _ _ ih ihg => exact fun e he => push_leftChain (x := .nested g) ih rfl (ihg g rfl) he

theorem Built.pushGroup {acc group : Option Expr} (c : Connective) (hacc : Built acc)
    (hg : Built group) : Built (Compile.pushGroup acc c group) := by
  cases group with
  | none => exact hacc
  | some g => exact .group c hacc hg

/-! ### The filter combinator builds through the same calls -/

theorem comparisonOperator_not_connective {r : Relation} {op : BinOp}
    (h : comparisonOperator r = some op) : op.joinsConditions = false := by
  cases r <;> simp [comparisonOperator] at h <;> subst h <;> rfl

/-- What a condition on a column compiles to: a membership in, or the existence of, the select
its value holds, compiled in the condition's scope; or a test for null, a comparison by the
relation's operator, a membership in values, a `true` test or a `like` test. -/
theorem toPredicate_eq_ok {scope : List String} {name : String} {value : Value}
    {relation : Relation} {p : Predicate} (h : toPredicate scope name value relation = .ok p) :
    (∃ s q, value = .query s ∧ compileSelect scope s = .ok q ∧ (p = .inQuery name q ∨ p = .exists q)) ∨
      p = .null name ∨ (∃ op v, comparisonOperator relation = some op ∧ p = .compare name op v) ∨
      (∃ ps, p = .isIn name ps) ∨ p = .isTrue name ∨ ∃ k t, p = .like name k t := by
  cases relation <;> unfold toPredicate at h
  case equalTo | greaterThan | greaterThanOrEqualTo | lessThan | lessThanOrEqualTo =>
    split at h
    · simp [← Result.pure_eq_ok.1 h]
    · split at h
      next op hop =>
        obtain ⟨v, -, h⟩ := Result.bind_eq_ok.1 h
        simp [← Result.pure_eq_ok.1 h, hop]
      next => simp [invalid] at h
  case isIn =>
    split at h
    · obtain ⟨q, hq, h⟩ := Result.bind_eq_ok.1 h
      simp [← Result.pure_eq_ok.1 h, hq]
    · obtain ⟨ps, -, h⟩ := Result.bind_eq_ok.1 h
      simp [← Result.pure_eq_ok.1 h]
    · simp [← Result.pure_eq_ok.1 h]
    · simp [invalid] at h
  case «exists» =>
    split at h
    · obtain ⟨q, hq, h⟩ := Result.bind_eq_ok.1 h
      simp [← Result.pure_eq_ok.1 h, hq]
    · simp [invalid] at h
  case nullValue | trueValue => simp [← Result.pure_eq_ok.1 h]
  case startsWith | endsWith | contains =>
    unfold likeCondition at h
    split at h
    · cases h
      simp
    · simp [invalid] at h

/-- Every predicate a condition states is a single operand. -/
theorem toPredicate_not_connective {scope : List String} {name : String} {value : Value}
    {relation : Relation} {p : Predicate} (h : toPredicate scope name value relation = .ok p) :
    p.toExpr.isConnective = false := by
  rcases toPredicate_eq_ok h with ⟨-, -, -, -, rfl | rfl⟩ | rfl | ⟨op, v, hop, rfl⟩ | ⟨_, rfl⟩ | rfl | ⟨_, _, rfl⟩
  case inr.inr.inl => exact comparisonOperator_not_connective hop
  all_goals rfl

theorem appendExpression_built {scope : List String} {acc r : Option Expr} {c : Connective}
    {ex : Expression} (h : appendExpression scope acc c ex = .ok r) (hacc : Built acc) :
    Built r := by
  obtain ⟨name, value, relation, conn, raw⟩ := ex
  unfold appendExpression at h
  split at h
  · split at h
    · simp [invalid] at h
    · obtain ⟨bs, -, h⟩ := Result.bind_eq_ok.1 h
      unfold pushRaw at h
      dsimp only at h
      split at h
      · simp [invalid] at h
      · split at h
        · simp [invalid] at h
        · cases h
          exact .raw c name bs hacc
  · obtain ⟨p, hp, h⟩ := Result.bind_eq_ok.1 h
    rw [← Result.pure_eq_ok.1 h]
    exact .predicate c p (toPredicate_not_connective hp) hacc

theorem appendExpressions_built {scope : List String} :
    ∀ {acc : Option Expr} {first : Bool} {es : List Expression} {r : Option Expr × Bool},
      appendExpressions scope acc first es = .ok r → Built acc → Built r.1
  | _, _, [], _, h, hacc => by
    cases h
    exact hacc
  | _, _, e :: es, _, h, hacc => by
    obtain ⟨acc', h1, h2⟩ := Result.bind_eq_ok.1 h
    exact appendExpressions_built h2 (appendExpression_built h1 hacc)

mutual

theorem applyFilter_built {scope : List String} :
    ∀ {f : Filter} {acc r : Option Expr}, applyFilter scope acc f = .ok r → Built acc → Built r
  | ⟨_, filters, _⟩, _, _, h, hacc => by
    obtain ⟨⟨acc', first⟩, h1, h2⟩ := Result.bind_eq_ok.1 h
    exact applyChildren_built h2 (appendExpressions_built h1 hacc)

theorem applyChildren_built {scope : List String} :
    ∀ {fs : List Filter} {acc : Option Expr} {first : Bool} {c : Connective} {r : Option Expr},
      applyChildren scope acc first c fs = .ok r → Built acc → Built r
  | [], _, _, _, _, h, hacc => by
    cases h
    exact hacc
  | _ :: _, _, _, _, _, h, hacc => by
    obtain ⟨group, h1, h2⟩ := Result.bind_eq_ok.1 h
    exact applyChildren_built h2 (.pushGroup _ hacc (applyFilter_built h1 .empty))

end

/-- A `where` or `having` condition is built by the builder's calls. -/
theorem compileCondition_built {scope : List String} {f : Option Filter} {r : Option Expr}
    (h : compileCondition scope f = .ok r) : Built r := by
  cases f with
  | none =>
    cases h
    exact .empty
  | some f => exact applyFilter_built h .empty

/-- The condition of an update or a delete is built by the builder's calls. -/
theorem compileFlatCondition_built {es : List Expression} {r : Option Expr}
    (h : compileFlatCondition es = .ok r) : Built r := by
  obtain ⟨⟨acc, first⟩, h1, h2⟩ := Result.bind_eq_ok.1 h
  rw [← Result.pure_eq_ok.1 h2]
  exact appendExpressions_built h1 .empty

/-! ### How SQL reads what the builder writes -/

/-- For every condition the builder can produce whose raw fragments have no top-level `and` or
`or`, and every dialect: the text written for it is the text of its tokens, which are the
tokens SQL meets; SQL reads them as `reading` says; and that reading is the builder's own tree
exactly when, along every chain, each `and` comes before every `or`. -/
theorem built_condition_reading {e : Expr} (h : Built (some e)) (d : Dialect) (hraw : e.rawClosed = true) :
    e.pieces d = e.tokens.flatMap (conditionTokenPieces d) ∧ e.textTokens = e.tokens ∧
      readText BinOp.isAnd e.textTokens = some e.reading ∧ (e.reading = e.tree ↔ e.AndsBeforeOrs) := by
  have htext := Expr.textTokens_eq_tokens e hraw
  refine ⟨Expr.pieces_eq_tokens d e, htext, ?_, Expr.reading_eq_tree_iff (h.leftChain e rfl)⟩
  rw [htext]
  exact Expr.readText_tokens e

/-- The `where` condition `id = 1 and (kind = 'x' or kind = 'y')`, read in PostgreSQL. -/
theorem grouped_condition_reading :
    ∃ e, compileCondition [] (some ⟨[⟨"id", .integer 1, .equalTo, .and, false⟩],
        [⟨[⟨"kind", .text "x", .equalTo, .and, false⟩, ⟨"kind", .text "y", .equalTo, .or, false⟩],
          [], .and⟩], .and⟩) = .ok (some e) ∧ Built (some e) ∧ e.rawClosed = true ∧
      (e.pieces .postgres = e.tokens.flatMap (conditionTokenPieces .postgres) ∧
        e.textTokens = e.tokens ∧ readText BinOp.isAnd e.textTokens = some e.reading ∧
        (e.reading = e.tree ↔ e.AndsBeforeOrs)) := by
  obtain ⟨e, he⟩ : ∃ e, compileCondition [] (some ⟨[⟨"id", .integer 1, .equalTo, .and, false⟩],
      [⟨[⟨"kind", .text "x", .equalTo, .and, false⟩, ⟨"kind", .text "y", .equalTo, .or, false⟩],
        [], .and⟩], .and⟩) = .ok (some e) := ⟨_, rfl⟩
  have hraw : e.rawClosed = true := by
    cases he
    rfl
  exact ⟨e, he, compileCondition_built he, hraw,
    built_condition_reading (compileCondition_built he) .postgres hraw⟩

/-- A valuation of the atoms: a comparison against a bound string, or raw SQL, holds when that
string, or the SQL's text, is one of `holding`; every other atom is false. -/
def boundStringIn (holding : List String) : Expr → Bool
  | .binary _ _ (.bound (.string s)) => holding.contains s
  | .raw sql _ => holding.contains sql
  | _ => false

/-- Two conditions SQL reads otherwise than the builder's tree. The builder folds `id = 'a'`,
`or id = 'b'`, `and not id = 'c'` into `(a or b) and not(c)` but writes `a or b and not(c)`,
which SQL reads as `a or (b and not(c))`: where `a` and `c` hold, the two differ. And it joins
the raw SQL `x = 1 or y = 2` to `id = 'a'` as one operand, `a and (x = 1 or y = 2)`, with no
`and` after an `or`, but writes `a and x = 1 or y = 2`, which SQL cuts at the raw text's `or`
and reads as `(a and x = 1) or y = 2`: where only `y = 2` holds, the two differ. -/
theorem condition_text_misread :
    (∃ e, compileFlatCondition [⟨"id", .text "a", .equalTo, .and, false⟩,
        ⟨"id", .text "b", .equalTo, .or, false⟩, ⟨"id", .text "c", .equalTo, .andNot, false⟩] =
        .ok (some e) ∧ readText BinOp.isAnd e.textTokens = some e.reading ∧
      ∃ v, conditionValue v e.reading ≠ conditionValue v e.tree) ∧
    ∃ e r, compileFlatCondition [⟨"id", .text "a", .equalTo, .and, false⟩,
        ⟨"x = 1 or y = 2", .null, .equalTo, .and, true⟩] = .ok (some e) ∧ Built (some e) ∧
      e.AndsBeforeOrs ∧ e.rawClosed = false ∧ readText BinOp.isAnd e.textTokens = some r ∧
      ∃ v, conditionValue v r ≠ conditionValue v e.tree := by
  refine ⟨⟨_, rfl, by rw [Expr.textTokens_eq_tokens _ rfl]; exact Expr.readText_tokens _,
    boundStringIn ["a", "c"], by decide⟩, ?_⟩
  -- the raw text is cut at its `or`, the space on each side going with its piece
  have htokens : ((Predicate.compare "id" .eq (.string "a")).toExpr.andE (.raw "x = 1 or y = 2" [])).textTokens =
      [.operand (Predicate.compare "id" .eq (.string "a")).toExpr, .op .and, .operand (.raw "x = 1 " []),
        .op .or, .operand (.raw " y = 2" [])] := by
    simp only [Expr.andE, Expr.textTokens, Expr.rawTokens, Predicate.toExpr, BinOp.joinsConditions]
    rfl
  have hcompile : compileFlatCondition [⟨"id", .text "a", .equalTo, .and, false⟩,
      ⟨"x = 1 or y = 2", .null, .equalTo, .and, true⟩] =
      .ok (some ((Predicate.compare "id" .eq (.string "a")).toExpr.andE (.raw "x = 1 or y = 2" []))) := rfl
  refine ⟨_, .bin (.bin (.atom (Predicate.compare "id" .eq (.string "a")).toExpr) .and
      (.atom (.raw "x = 1 " []))) .or (.atom (.raw " y = 2" [])), hcompile,
    compileFlatCondition_built hcompile, ?_, rfl, by rw [htokens]; rfl,
    boundStringIn [" y = 2", "x = 1 or y = 2"], by decide⟩
  simp [Expr.AndsBeforeOrs, Expr.andE, Predicate.toExpr, Expr.isOr, BinOp.joinsConditions]

end QueryDoc.Compile
