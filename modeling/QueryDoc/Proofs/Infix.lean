import Mathlib.Data.List.Induction

/-!
Reading infix text with two levels of precedence.

SQL writes conditions and compound selects as infix text: operands separated by binary
operators, grouped by parentheses (and `not(`). Such text is read in two steps (`readText`):
parentheses are matched first (`nest`), and each level, a run `t₀ o₁ t₁ … oₙ tₙ`, is grouped by
precedence (`readChain`): the operators for which `tight` holds bind first, and each level
groups to the left. A writer that folds items left to right without parentheses is read as its
left fold exactly when no tight operator follows a loose one (`readChain_eq_leftFold_iff`,
`TightFirst`).
-/

namespace QueryDoc.Infix

/-- A token of infix text: an operand, a binary operator, `not(`, `(` or `)`. -/
inductive Tok (α β : Type) where
  | operand (a : α)
  | op (o : β)
  | notOpen
  | lparen
  | rparen

/-- A reading of infix text: operands joined by binary operators, and negation. -/
inductive Term (α β : Type) where
  | atom (a : α)
  | bin (l : Term α β) (o : β) (r : Term α β)
  | neg (t : Term α β)

/-- One element of a parenthesis level: an operand, an operator, or a parenthesized level,
negated when `not(` opened it. -/
inductive Item (α β : Type) where
  | operand (a : α)
  | op (o : β)
  | group (negated : Bool) (items : List (Item α β))

variable {α β : Type}

/-- The value of a reading, operands valued by `val` and operators by `app`. -/
def Term.eval (val : α → Bool) (app : β → Bool → Bool → Bool) : Term α β → Bool
  | .atom a => val a
  | .bin l o r => app o (l.eval val app) (r.eval val app)
  | .neg t => !(t.eval val app)

/-! ### Matching parentheses -/

/-- Matches parentheses left to right. `cur` holds the items of the current level and `outer`
the levels it sits in, innermost first, each with whether `not(` opened the level inside it.
Fails on a parenthesis without its partner. -/
def nest : List (Item α β) → List (Bool × List (Item α β)) → List (Tok α β) →
    Option (List (Item α β))
  | cur, [], [] => some cur
  | _, _ :: _, [] => none
  | cur, outer, .operand a :: ts => nest (cur ++ [.operand a]) outer ts
  | cur, outer, .op o :: ts => nest (cur ++ [.op o]) outer ts
  | cur, outer, .notOpen :: ts => nest [] ((true, cur) :: outer) ts
  | cur, outer, .lparen :: ts => nest [] ((false, cur) :: outer) ts
  | cur, (negated, up) :: outer, .rparen :: ts => nest (up ++ [.group negated cur]) outer ts
  | _, [], .rparen :: _ => none

/-! ### Precedence within a level -/

/-- The reader's state within a level: the part already closed by a loose operator, with that
operator, and the run of tight operators since. -/
structure Reading (α β : Type) where
  closed : Option (Term α β × β)
  run : Term α β

/-- The reading of everything seen so far. -/
def Reading.close (s : Reading α β) : Term α β :=
  match s.closed with
  | none => s.run
  | some (l, o) => .bin l o s.run

/-- One more operator and operand: a tight operator extends the run, a loose one closes it. -/
def Reading.step (tight : β → Bool) (s : Reading α β) (p : β × Term α β) : Reading α β :=
  if tight p.1 then ⟨s.closed, .bin s.run p.1 p.2⟩ else ⟨some (s.close, p.1), p.2⟩

/-- The state after reading `first` and then `rest`. -/
def scan (tight : β → Bool) (first : Term α β) (rest : List (β × Term α β)) : Reading α β :=
  rest.foldl (Reading.step tight) ⟨none, first⟩

/-- Reads `t₀ o₁ t₁ … oₙ tₙ`: tight operators bind first, and each level groups to the
left. -/
def readChain (tight : β → Bool) (first : Term α β) (rest : List (β × Term α β)) : Term α β :=
  (scan tight first rest).close

/-- The left fold `((t₀ o₁ t₁) o₂ t₂) …`, whatever the operators. -/
def leftFold (first : Term α β) (rest : List (β × Term α β)) : Term α β :=
  rest.foldl (fun l p => .bin l p.1 p.2) first

mutual

/-- Reads one item: an operand, or a parenthesized level. -/
def Item.read (tight : β → Bool) : Item α β → Option (Term α β)
  | .operand a => some (.atom a)
  | .op _ => none
  | .group negated items => (readLevel tight items).map fun t => if negated then .neg t else t

/-- Reads a level: an item, then operators each followed by an item. -/
def readLevel (tight : β → Bool) : List (Item α β) → Option (Term α β)
  | [] => none
  | x :: rest => do
    let t ← x.read tight
    let ps ← readPairs tight rest
    pure (readChain tight t ps)

/-- Reads operators each followed by an item. -/
def readPairs (tight : β → Bool) : List (Item α β) → Option (List (β × Term α β))
  | [] => some []
  | .op o :: x :: rest => do
    let t ← x.read tight
    let ps ← readPairs tight rest
    pure ((o, t) :: ps)
  | _ => none

end

/-- Reads infix text: parentheses first, then precedence within each level. -/
def readText (tight : β → Bool) (ts : List (Tok α β)) : Option (Term α β) :=
  (nest [] [] ts).bind (readLevel tight)

/-- No tight operator follows a loose one: an operator followed, anywhere later, by a tight
operator is tight itself. -/
def TightFirst (tight : β → Bool) (ps : List (β × Term α β)) : Prop :=
  ps.Pairwise fun a b => tight b.1 = true → tight a.1 = true

variable {tight : β → Bool}

/-! ### The reader's state -/

@[simp] theorem scan_nil (first : Term α β) : scan tight first [] = ⟨none, first⟩ := rfl

theorem scan_concat (first : Term α β) (ps : List (β × Term α β)) (p : β × Term α β) :
    scan tight first (ps ++ [p]) = (scan tight first ps).step tight p := by
  simp [scan]

@[simp] theorem leftFold_concat (first : Term α β) (ps : List (β × Term α β)) (p : β × Term α β) :
    leftFold first (ps ++ [p]) = .bin (leftFold first ps) p.1 p.2 := by
  simp [leftFold]

/-- Nothing is closed exactly while every operator read is tight. -/
theorem scan_closed_eq_none_iff (first : Term α β) (ps : List (β × Term α β)) :
    (scan tight first ps).closed = none ↔ ∀ p ∈ ps, tight p.1 = true := by
  induction ps using List.reverseRecOn with
  | nil => simp
  | append_singleton ps p ih =>
    rw [scan_concat, Reading.step, List.forall_mem_append, List.forall_mem_singleton]
    by_cases hp : tight p.1
    · simp only [hp, if_true, ih, and_true]
    · simp only [hp, Bool.false_eq_true, if_false, reduceCtorEq, and_false]

/-- The part closed so far ends with a loose operator. -/
theorem scan_closed_loose (first : Term α β) (ps : List (β × Term α β)) {l : Term α β} {o : β}
    (h : (scan tight first ps).closed = some (l, o)) : tight o = false := by
  induction ps using List.reverseRecOn generalizing l o with
  | nil => simp at h
  | append_singleton ps p ih =>
    rw [scan_concat, Reading.step] at h
    by_cases hp : tight p.1
    · simp only [hp, if_true] at h
      exact ih h
    · simp only [hp, Bool.false_eq_true, if_false, Option.some.injEq, Prod.mk.injEq] at h
      rw [← h.2]
      simpa using hp

/-- While every operator is tight, the run is the left fold. -/
theorem scan_run_of_tight (first : Term α β) (ps : List (β × Term α β))
    (h : ∀ p ∈ ps, tight p.1 = true) : (scan tight first ps).run = leftFold first ps := by
  induction ps using List.reverseRecOn with
  | nil => rfl
  | append_singleton ps p ih =>
    have hp : tight p.1 = true := h p (by simp)
    rw [scan_concat, Reading.step, if_pos hp, leftFold_concat, ih fun q hq => h q (by simp [hq])]

theorem readChain_concat (first : Term α β) (ps : List (β × Term α β)) (p : β × Term α β) :
    readChain tight first (ps ++ [p]) = ((scan tight first ps).step tight p).close := by
  rw [readChain, scan_concat]

/-! ### When the reading is the left fold -/

/-- Operators in the right order: the reading is the left fold. -/
theorem readChain_eq_leftFold (first : Term α β) (ps : List (β × Term α β))
    (h : TightFirst tight ps) : readChain tight first ps = leftFold first ps := by
  induction ps using List.reverseRecOn with
  | nil => rfl
  | append_singleton ps p ih =>
    rw [TightFirst, List.pairwise_append] at h
    obtain ⟨hps, -, hlast⟩ := h
    rw [readChain_concat, leftFold_concat, Reading.step]
    by_cases hp : tight p.1
    · -- a tight last operator: everything before it was tight too, so nothing is closed
      have hall : ∀ q ∈ ps, tight q.1 = true := fun q hq => hlast q hq p (by simp) hp
      have hnone := (scan_closed_eq_none_iff first ps).2 hall
      simp only [hp, if_true, Reading.close, hnone, scan_run_of_tight first ps hall]
    · simp only [hp, Bool.false_eq_true, if_false, Reading.close]
      show Term.bin (readChain tight first ps) p.1 p.2 = _
      rw [ih hps]

/-- A list whose operators match a non-empty one has a last element too. -/
theorem exists_concat_of_map_eq {ps' ps : List (β × Term α β)} {p : β × Term α β}
    (h : ps'.map Prod.fst = (ps ++ [p]).map Prod.fst) : ∃ qs q, ps' = qs ++ [q] := by
  rcases List.eq_nil_or_concat ps' with rfl | ⟨qs, q, rfl⟩
  · simp at h
  · exact ⟨qs, q, List.concat_eq_append⟩

/-- All operators tight: the order is right. -/
theorem tightFirst_of_forall {ps : List (β × Term α β)} (h : ∀ p ∈ ps, tight p.1 = true) :
    TightFirst tight ps := by
  induction ps with
  | nil => exact .nil
  | cons p ps ih => exact .cons (fun _ _ _ => h p (by simp)) (ih fun q hq => h q (by simp [hq]))

/-- Left folds with the same operators are equal only with the same operands. -/
theorem leftFold_inj {t t' : Term α β} {ps ps' : List (β × Term α β)}
    (hops : ps'.map Prod.fst = ps.map Prod.fst) (h : leftFold t' ps' = leftFold t ps) :
    t' = t ∧ ps' = ps := by
  induction ps using List.reverseRecOn generalizing ps' with
  | nil =>
    simp only [List.map_nil, List.map_eq_nil_iff] at hops
    subst hops
    exact ⟨h, rfl⟩
  | append_singleton ps p ih =>
    obtain ⟨qs, q, rfl⟩ := exists_concat_of_map_eq hops
    simp only [List.map_append, List.map_cons, List.map_nil] at hops
    obtain ⟨hqs, -⟩ := List.append_inj' hops (by simp)
    rw [leftFold_concat, leftFold_concat] at h
    injection h with hl ho hr
    obtain ⟨rfl, rfl⟩ := ih hqs hl
    exact ⟨rfl, congrArg (qs ++ [·]) (Prod.ext ho hr)⟩

/-- Operators in the wrong order: the reading is no left fold of those operators, whatever
the operands. -/
theorem readChain_ne_leftFold {t t' : Term α β} {ps ps' : List (β × Term α β)}
    (hops : ps'.map Prod.fst = ps.map Prod.fst) (h : ¬ TightFirst tight ps') :
    readChain tight t' ps' ≠ leftFold t ps := by
  induction ps using List.reverseRecOn generalizing ps' with
  | nil =>
    simp only [List.map_nil, List.map_eq_nil_iff] at hops
    subst hops
    exact absurd List.Pairwise.nil h
  | append_singleton ps p ih =>
    obtain ⟨qs, q, rfl⟩ := exists_concat_of_map_eq hops
    simp only [List.map_append, List.map_cons, List.map_nil] at hops
    obtain ⟨hqs, hq⟩ := List.append_inj' hops (by simp)
    simp only [List.cons.injEq, and_true] at hq
    rw [readChain_concat, leftFold_concat, Reading.step]
    intro heq
    by_cases ht : tight q.1
    · -- the last operator is tight: either something loose came before, and the reading's
      -- top operator is that loose one, or all was tight and the order was right after all
      rw [if_pos ht] at heq
      cases hc : (scan tight t' qs).closed with
      | none =>
        have hall := (scan_closed_eq_none_iff t' qs).1 hc
        apply h
        apply tightFirst_of_forall
        intro r hr
        rcases List.mem_append.1 hr with hr | hr
        · exact hall r hr
        · simp only [List.mem_singleton] at hr
          rw [hr]
          exact ht
      | some lo =>
        obtain ⟨l, o⟩ := lo
        simp only [Reading.close, hc] at heq
        injection heq with _ ho
        have hloose := scan_closed_loose t' qs hc
        rw [ho, ← hq, ht] at hloose
        exact Bool.noConfusion hloose
    · rw [if_neg ht] at heq
      simp only [Reading.close] at heq
      injection heq with hl
      refine ih hqs ?_ hl
      intro hgood
      apply h
      rw [TightFirst, List.pairwise_append]
      exact ⟨hgood, by simp, fun a _ b hb hb' => by simp at hb; subst hb; simp [ht] at hb'⟩

/-- The reading of a level is its left fold exactly when no tight operator follows a loose
one; operands read differently make the two differ as well. -/
theorem readChain_eq_leftFold_iff {t t' : Term α β} {ps ps' : List (β × Term α β)}
    (hops : ps'.map Prod.fst = ps.map Prod.fst) :
    readChain tight t' ps' = leftFold t ps ↔ TightFirst tight ps' ∧ t' = t ∧ ps' = ps := by
  constructor
  · intro h
    have hord : TightFirst tight ps' := by
      by_contra hbad
      exact readChain_ne_leftFold hops hbad h
    rw [readChain_eq_leftFold t' ps' hord] at h
    exact ⟨hord, leftFold_inj hops h⟩
  · rintro ⟨hord, rfl, rfl⟩
    exact readChain_eq_leftFold t' ps' hord

/-! ### Text without parentheses -/

/-- The tokens `o₁ a₁ o₂ a₂ …`. -/
def pairTokens (ps : List (β × α)) : List (Tok α β) :=
  ps.flatMap fun p => [.op p.1, .operand p.2]

theorem nest_pairTokens (cur : List (Item α β)) (outer : List (Bool × List (Item α β)))
    (ps : List (β × α)) (rest : List (Tok α β)) :
    nest cur outer (pairTokens ps ++ rest) =
      nest (cur ++ ps.flatMap fun p => [.op p.1, .operand p.2]) outer rest := by
  induction ps generalizing cur with
  | nil => simp [pairTokens]
  | cons p ps ih =>
    simp only [pairTokens, List.flatMap_cons, List.cons_append, List.nil_append, nest] at ih ⊢
    rw [ih]
    simp

theorem readPairs_operands (ps : List (β × α)) :
    readPairs tight (ps.flatMap fun p => [Item.op p.1, .operand p.2]) =
      some (ps.map fun p => (p.1, .atom p.2)) := by
  induction ps with
  | nil => simp [readPairs]
  | cons p ps ih => simp [readPairs, Item.read, ih]

/-- Text with no parentheses, `a₀ o₁ a₁ … oₙ aₙ`, reads as its one level. -/
theorem readText_operands (a : α) (ps : List (β × α)) :
    readText tight (.operand a :: pairTokens ps) =
      some (readChain tight (.atom a) (ps.map fun p => (p.1, .atom p.2))) := by
  have h := nest_pairTokens (α := α) [.operand a] [] ps []
  rw [List.append_nil] at h
  simp only [readText, nest, List.nil_append, h]
  simp [readLevel, Item.read, readPairs_operands]

end QueryDoc.Infix
