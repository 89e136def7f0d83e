import QueryDoc.Proofs.Placeholders

/-!
Bound values in raw SQL.

A raw fragment takes its bindings at its markers: the `?` outside single quotes, every `'`
toggling the quote state (`insideQuotes`). The builder's check counts them (`countMarkers`) and
the writer replaces them in order while bindings remain (`rawPieces`); both toggle at every `'`,
so they agree on every fragment (`raw_fragment_binds_markers`).
-/

namespace QueryDoc.Sql

/-- Whether text ends inside a quote: it holds an odd number of `'`. -/
def insideQuotes (cs : List Char) : Bool := cs.count '\'' % 2 == 1

/-- Whether position `i` of a fragment holds a marker: a `?` outside quotes. -/
def isMarker (cs : List Char) (i : Nat) : Bool := cs[i]? == some '?' && !insideQuotes (cs.take i)

/-- The number of markers before position `i` of a fragment. -/
def markersBefore (cs : List Char) (i : Nat) : Nat := (List.range i).countP (isMarker cs)

@[simp] theorem insideQuotes_nil : insideQuotes [] = false := rfl

@[simp] theorem insideQuotes_cons_quote (cs : List Char) :
    insideQuotes ('\'' :: cs) = !insideQuotes cs := by
  simp only [insideQuotes, List.count_cons_self]
  cases h : cs.count '\'' % 2 == 1 <;> simp_all [Nat.add_mod]

@[simp] theorem insideQuotes_cons_of_ne {c : Char} (hc : c ≠ '\'') (cs : List Char) :
    insideQuotes (c :: cs) = insideQuotes cs := by
  simp [insideQuotes, hc]

/-- The second part of a fragment is counted from the quote state the first leaves. -/
theorem countMarkers_append (ys : List Char) :
    ∀ (xs : List Char) (q : Bool),
      countMarkers (xs ++ ys) q = countMarkers xs q + countMarkers ys (q ^^ insideQuotes xs)
  | [], q => by simp [countMarkers]
  | c :: xs, q => by
    simp only [List.cons_append, countMarkers]
    by_cases hq : c = '\''
    · subst hq
      simp [countMarkers_append ys xs]
    · by_cases hm : c = '?' ∧ q = false
      · obtain ⟨rfl, rfl⟩ := hm
        simp [countMarkers_append ys xs]
        omega
      · have hm' : (c == '?' && !q) = false := by
          cases q <;> simp_all
        simp [hq, hm', countMarkers_append ys xs, insideQuotes_cons_of_ne hq]

/-- The second part of a fragment takes the bindings and quote state the first leaves. -/
theorem rawPieces_append (ys : List Char) :
    ∀ (xs : List Char) (bs : List Param) (q : Bool),
      rawPieces (xs ++ ys) bs q =
        rawPieces xs bs q ++ rawPieces ys (bs.drop (countMarkers xs q)) (q ^^ insideQuotes xs)
  | [], bs, q => by simp [rawPieces, countMarkers]
  | c :: xs, bs, q => by
    simp only [List.cons_append, rawPieces, countMarkers]
    by_cases hq : c = '\''
    · subst hq
      simp [rawPieces_append ys xs]
    · by_cases hm : c = '?' ∧ q = false
      · obtain ⟨rfl, rfl⟩ := hm
        cases bs with
        | nil => simp [rawPieces_append ys xs]
        | cons b rest => simp [rawPieces_append ys xs]
      · have hm' : (c == '?' && !q) = false := by
          cases q <;> simp_all
        simp [hq, hm', rawPieces_append ys xs, insideQuotes_cons_of_ne hq]

/-- One piece per character. -/
@[simp] theorem rawPieces_length :
    ∀ (cs : List Char) (bs : List Param) (q : Bool), (rawPieces cs bs q).length = cs.length
  | [], _, _ => rfl
  | c :: cs, bs, q => by
    simp only [rawPieces]
    split
    · simp [rawPieces_length cs]
    · split
      · cases bs <;> simp [rawPieces_length cs]
      · simp [rawPieces_length cs]

/-- The writer binds as many values as there are markers. -/
theorem rawPieces_values (n : Nat) :
    ∀ (cs : List Char) (bs : List Param) (q : Bool),
      (skeleton n (rawPieces cs bs q)).values = bs.take (countMarkers cs q)
  | [], _, _ => by simp [rawPieces, countMarkers, skeleton, Skeleton.values]
  | c :: cs, bs, q => by
    simp only [rawPieces, countMarkers]
    split
    · simp [skeleton, rawPieces_values n cs]
    · split
      · cases bs with
        | nil => simp [skeleton, rawPieces_values n cs]
        | cons b rest => simp [skeleton, rawPieces_values n cs]
      · simp [skeleton, rawPieces_values n cs]

theorem countMarkers_take (cs : List Char) :
    ∀ i, countMarkers (cs.take i) false = markersBefore cs i
  | 0 => by simp [countMarkers, markersBefore]
  | i + 1 => by
    rw [List.take_add_one, countMarkers_append, countMarkers_take cs i]
    simp only [markersBefore, List.range_succ, List.countP_append]
    congr 1
    cases hc : cs[i]? with
    | none => simp [countMarkers, isMarker, hc]
    | some c =>
      by_cases hq : c = '\''
      · simp [countMarkers, isMarker, hc, hq]
      · cases hin : insideQuotes (cs.take i) <;>
          by_cases hm : c = '?' <;> simp [countMarkers, isMarker, hc, hq, hin, hm]

theorem rawMarkerCount_eq (sql : String) :
    rawMarkerCount sql = markersBefore sql.toList sql.toList.length := by
  rw [rawMarkerCount, ← countMarkers_take, List.take_length]

theorem eq_take_append_cons_drop {α : Type} {cs : List α} {i : Nat} {c : α} (hc : cs[i]? = some c) :
    cs = cs.take i ++ c :: cs.drop (i + 1) := by
  obtain ⟨hi, rfl⟩ := List.getElem?_eq_some_iff.1 hc
  rw [← List.drop_eq_getElem_cons hi, List.take_append_drop]

/-- Position `i` is written as its character, unless it is a marker with a binding at its
rank: then as that binding. -/
theorem rawPieces_getElem? (cs : List Char) (bs : List Param) (i : Nat) :
    (rawPieces cs bs false)[i]? = cs[i]?.map fun c =>
      if isMarker cs i then ((bs[markersBefore cs i]?).map .value).getD (.text "?")
      else .text (String.singleton c) := by
  cases hc : cs[i]? with
  | none => simpa using hc
  | some c =>
    have hi : i < cs.length := (List.getElem?_eq_some_iff.1 hc).1
    have hlen : (rawPieces (cs.take i) bs false).length = i := by
      simp [Nat.min_eq_left (Nat.le_of_lt hi)]
    -- the text before position `i` leaves the bindings from its rank on, and its quote state
    conv => lhs; rw [eq_take_append_cons_drop hc, ← List.singleton_append, rawPieces_append,
      rawPieces_append]
    rw [List.getElem?_append_right (by omega), hlen, Nat.sub_self,
      List.getElem?_append_left (by simp), countMarkers_take, Bool.false_xor, Option.map_some,
      ← List.head?_drop (l := bs)]
    generalize bs.drop (markersBefore cs i) = rest
    by_cases hq : c = '\''
    · subst hq
      simp [rawPieces, isMarker, hc]
    · cases hin : insideQuotes (cs.take i) <;> by_cases hm : c = '?' <;>
        cases rest <;> simp [rawPieces, isMarker, hc, hq, hin, hm]

theorem markersBefore_lt_of_isMarker {cs : List Char} {i : Nat} (hm : isMarker cs i = true) :
    markersBefore cs i < markersBefore cs cs.length := by
  simp only [isMarker, Bool.and_eq_true, beq_iff_eq, Bool.not_eq_true'] at hm
  obtain ⟨hc, hq⟩ := hm
  rw [← countMarkers_take, ← countMarkers_take, List.take_length]
  -- the count over the whole fragment is the count before `i`, then the marker at `i`
  conv => rhs; rw [eq_take_append_cons_drop hc, countMarkers_append]
  simp [countMarkers, hq]

/-- How a written raw fragment `sql`, with pieces `ps`, binds `b`: it collects `params`. -/
structure BindsMarkers (sql : String) (b params : List Param) (ps : List Piece) : Prop where
  /-- The collected values are exactly the bindings, in order. -/
  params_eq : params = b
  /-- The builder's check counts exactly the markers. -/
  counted : rawMarkerCount sql = markersBefore sql.toList sql.toList.length
  length_eq : ps.length = sql.toList.length
  /-- With bindings, the marker with `k` markers before it takes the `k`-th binding. -/
  bound : ∀ i, isMarker sql.toList i = true → b ≠ [] →
    ∃ v, b[markersBefore sql.toList i]? = some v ∧ ps[i]? = some (.value v)
  /-- Every other character, and every one when there are no bindings, is kept. -/
  kept : ∀ i ch, sql.toList[i]? = some ch → (isMarker sql.toList i = false ∨ b = []) →
    ps[i]? = some (.text (String.singleton ch))

/-- Fragments the builder accepts, with no bindings or one per marker, bind their markers. -/
theorem raw_fragment_binds_markers (d : Dialect) (sql : String) (b : List Param)
    (hcount : b = [] ∨ rawMarkerCount sql = b.length) :
    BindsMarkers sql b ((Expr.raw sql b).render d).params ((Expr.raw sql b).pieces d) := by
  have hpieces : (Expr.raw sql b).pieces d = rawPieces sql.toList b false := by
    simp [Expr.pieces]
  -- with bindings, the check has matched one binding to each marker
  have hmarkers : b ≠ [] → markersBefore sql.toList sql.toList.length = b.length := by
    intro hb
    rcases hcount with h | h
    · exact absurd h hb
    · rw [← rawMarkerCount_eq, h]
  refine ⟨?_, rawMarkerCount_eq sql, by simp [hpieces], fun i hm hb => ?_,
    fun i ch hc hm => ?_⟩
  · rw [show ((Expr.raw sql b).render d).params = _ from writePieces_params d ⟨true, false⟩ rfl _,
      hpieces, rawPieces_values]
    rcases hcount with rfl | h
    · simp
    · rw [← rawMarkerCount, h, List.take_length]
  · have hlt : markersBefore sql.toList i < b.length :=
      hmarkers hb ▸ markersBefore_lt_of_isMarker hm
    have hv := List.getElem?_eq_getElem hlt
    have hc : sql.toList[i]? = some '?' := by simp_all [isMarker]
    refine ⟨_, hv, ?_⟩
    rw [hpieces, rawPieces_getElem?, hc]
    simp [hm, hv]
  · rw [hpieces, rawPieces_getElem?, hc]
    by_cases hmi : isMarker sql.toList i
    · -- a marker kept as it is: there are no bindings
      have hb : b = [] := by simpa [hmi] using hm
      have hch : ch = '?' := by simp_all [isMarker]
      simp [hmi, hb, hch]
    · simp [hmi]

/-- A quoted `?` after a doubled quote keeps its text; the two markers take the bindings. -/
theorem quoted_mark_between_bindings :
    ([Param.integer 1, .string "x"] = [] ∨
        rawMarkerCount "a = ? or b = 'it''s ?' or c = ?" = [Param.integer 1, .string "x"].length) ∧
      BindsMarkers "a = ? or b = 'it''s ?' or c = ?" [.integer 1, .string "x"]
        ((Expr.raw "a = ? or b = 'it''s ?' or c = ?" [.integer 1, .string "x"]).render .postgres).params
        ((Expr.raw "a = ? or b = 'it''s ?' or c = ?" [.integer 1, .string "x"]).pieces .postgres) :=
  ⟨.inr rfl, raw_fragment_binds_markers .postgres _ _ (.inr rfl)⟩

end QueryDoc.Sql
