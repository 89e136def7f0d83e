import QueryDoc.Compile.Condition
import QueryDoc.Store.Function
import Mathlib.Data.List.Infix

/-!
`like` patterns that anchor a text.

A `StartsWith`, `EndsWith` or `Contains` condition binds `k.pattern t` in
`column like ? escape '\'`, and the store decides `like` by `likeMatch`. Read
case-sensitively, escaped text matches exactly itself (`likeMatch_escaped`), so the pattern
selects the values that start with, end with or contain the text.
-/

namespace QueryDoc.Store

/-- A character that is neither the escape character nor a wildcard matches itself. -/
theorem likeMatch_plain {esc : Option Char} {c : Char} (he : esc ≠ some c) (hp : c ≠ '%')
    (hu : c ≠ '_') (ps s : List Char) :
    likeMatch true esc (c :: ps) s = true ↔ ∃ s', s = c :: s' ∧ likeMatch true esc ps s' = true := by
  have h1 : (esc == some c) = false := by simpa using he
  have h2 : (c == '%') = false := by simpa using hp
  have h3 : (c == '_') = false := by simpa using hu
  rw [likeMatch.eq_def]
  cases s with
  | nil => simp [h1, h2, h3]
  | cons x xs =>
    simp only [h1, h2, h3, Bool.false_eq_true, if_false]
    simp [eq_comm (a := x)]

/-- The character after the escape character matches itself, whatever it is. -/
theorem likeMatch_escape {esc : Option Char} {c : Char} (h : esc = some c) (q : Char)
    (ps s : List Char) :
    likeMatch true esc (c :: q :: ps) s = true ↔ ∃ s', s = q :: s' ∧ likeMatch true esc ps s' = true := by
  have h1 : (esc == some c) = true := by simp [h]
  rw [likeMatch.eq_def]
  cases s with
  | nil => simp [h1]
  | cons x xs =>
    simp only [h1, if_true]
    simp [eq_comm (a := x)]

/-- An unescaped `%` matches any run of characters. -/
theorem likeMatch_percent {esc : Option Char} (he : esc ≠ some '%') (e : Bool) (ps s : List Char) :
    likeMatch e esc ('%' :: ps) s = true ↔ ∃ s₁ s₂, s = s₁ ++ s₂ ∧ likeMatch e esc ps s₂ = true := by
  have h1 : (esc == some '%') = false := by simpa using he
  rw [likeMatch.eq_def]
  simp only [h1, Bool.false_eq_true, ↓reduceIte, beq_self_eq_true, List.any_eq_true, List.mem_range]
  constructor
  · rintro ⟨k, -, hk⟩
    exact ⟨s.take k, s.drop k, (List.take_append_drop k s).symm, hk⟩
  · rintro ⟨s₁, s₂, rfl, h⟩
    refine ⟨s₁.length, by rw [List.length_append]; omega, ?_⟩
    simpa using h

end QueryDoc.Store

namespace QueryDoc.Compile

open Store

/-- How a pattern writes a character of the text: `%`, `_` and `\` behind a `\`. -/
def likeLiteral (c : Char) : List Char :=
  if c == '%' || c == '_' || c == '\\' then ['\\', c] else [c]

theorem escapeLike_toList (s : String) : (escapeLike s).toList = s.toList.flatMap likeLiteral := by
  rw [escapeLike, String.toList_ofList]
  rfl

/-- Under `\` escaping, the written form of a character matches exactly that character. -/
theorem likeMatch_likeLiteral (c : Char) (rest s : List Char) :
    likeMatch true (some '\\') (likeLiteral c ++ rest) s = true ↔
      ∃ s', s = c :: s' ∧ likeMatch true (some '\\') rest s' = true := by
  by_cases hc : c = '%' ∨ c = '_' ∨ c = '\\'
  · have hw : likeLiteral c ++ rest = '\\' :: c :: rest := by
      simp [likeLiteral, hc, or_assoc]
    rw [hw]
    exact likeMatch_escape rfl c rest s
  · simp only [not_or] at hc
    obtain ⟨hp, hu, hb⟩ := hc
    have hw : likeLiteral c ++ rest = c :: rest := by
      simp [likeLiteral, hp, hu, hb]
    rw [hw]
    exact likeMatch_plain (by simpa [eq_comm] using hb) hp hu rest s

/-- Escaped text, then more pattern, matches the text followed by what the rest matches. -/
theorem likeMatch_escaped (cs rest s : List Char) :
    likeMatch true (some '\\') (cs.flatMap likeLiteral ++ rest) s = true ↔
      ∃ s', s = cs ++ s' ∧ likeMatch true (some '\\') rest s' = true := by
  induction cs generalizing s with
  | nil => simp
  | cons c cs ih =>
    rw [List.flatMap_cons, List.append_assoc, likeMatch_likeLiteral]
    constructor
    · rintro ⟨s', rfl, h⟩
      obtain ⟨s'', rfl, h'⟩ := (ih s').1 h
      exact ⟨s'', rfl, h'⟩
    · rintro ⟨s', rfl, h⟩
      exact ⟨cs ++ s', rfl, (ih _).2 ⟨s', rfl, h⟩⟩

theorem likeMatch_percent_only (s : List Char) : likeMatch true (some '\\') ['%'] s = true :=
  (likeMatch_percent (by decide) true [] s).2 ⟨s, [], by simp, rfl⟩

/-- The values a pattern of the kind selects: those that start with, end with or contain the
text. -/
def LikeKind.Anchors : LikeKind → List Char → List Char → Prop
  | .startsWith, t, s => t <+: s
  | .endsWith, t, s => t <:+ s
  | .contains, t, s => t <:+: s

theorem LikeKind.pattern_toList (k : LikeKind) (t : String) :
    (k.pattern t).toList =
      (if k = .startsWith then [] else ['%']) ++ t.toList.flatMap likeLiteral ++
        (if k = .endsWith then [] else ['%']) := by
  cases k <;> simp [LikeKind.pattern, escapeLike_toList, String.toList_append]

theorem likeMatch_escaped_percent (t s : List Char) :
    likeMatch true (some '\\') (t.flatMap likeLiteral ++ ['%']) s = true ↔ t <+: s := by
  rw [likeMatch_escaped]
  simp only [likeMatch_percent_only, and_true]
  exact ⟨fun ⟨s', h⟩ => ⟨s', h.symm⟩, fun ⟨s', h⟩ => ⟨s', h.symm⟩⟩

theorem likeMatch_escaped_end (t s : List Char) :
    likeMatch true (some '\\') (t.flatMap likeLiteral) s = true ↔ s = t := by
  rw [← List.append_nil (t.flatMap likeLiteral), likeMatch_escaped]
  constructor
  · rintro ⟨s', rfl, hs'⟩
    have : s' = [] := by simpa [likeMatch] using hs'
    simp [this]
  · rintro rfl
    exact ⟨[], by simp, rfl⟩

/-- Read case-sensitively, a pattern matches exactly the values its kind anchors the text in. -/
theorem likeMatch_pattern_iff (k : LikeKind) (t : String) (s : List Char) :
    likeMatch true (some '\\') (k.pattern t).toList s = true ↔ k.Anchors t.toList s := by
  rw [LikeKind.pattern_toList]
  cases k with
  | startsWith => simpa [LikeKind.Anchors] using likeMatch_escaped_percent t.toList s
  | endsWith =>
    -- the leading `%` takes some first part, the escaped text all the rest
    simp only [reduceCtorEq, if_false, if_true, List.append_nil, List.cons_append, List.nil_append]
    rw [likeMatch_percent (by decide)]
    simp only [likeMatch_escaped_end, LikeKind.Anchors]
    constructor
    · rintro ⟨s₁, s₂, rfl, rfl⟩
      exact ⟨s₁, rfl⟩
    · rintro ⟨s₁, rfl⟩
      exact ⟨s₁, t.toList, rfl, rfl⟩
  | contains =>
    simp only [reduceCtorEq, if_false, List.cons_append, List.nil_append]
    rw [likeMatch_percent (by decide)]
    simp only [likeMatch_escaped_percent, LikeKind.Anchors]
    constructor
    · rintro ⟨s₁, s₂, rfl, s₃, rfl⟩
      exact ⟨s₁, s₃, by simp⟩
    · rintro ⟨s₁, s₃, rfl⟩
      exact ⟨s₁, t.toList ++ s₃, by simp, s₃, rfl⟩

/-- A pattern is three parts: `%` unless `StartsWith`, the escaped text, which matches itself,
and `%` unless `EndsWith`. Bound with `escape '\'`, it matches exactly the anchored values. -/
theorem like_pattern_matches_anchored (k : LikeKind) (t : String) :
    (k.pattern t).toList =
        (if k = .startsWith then [] else ['%']) ++ t.toList.flatMap likeLiteral ++
          (if k = .endsWith then [] else ['%']) ∧
      (∀ rest s : List Char,
        likeMatch true (some '\\') (t.toList.flatMap likeLiteral ++ rest) s = true ↔
          ∃ s', s = t.toList ++ s' ∧ likeMatch true (some '\\') rest s' = true) ∧
      (∀ s : String, likeMatch true (some '\\') (k.pattern t).toList s.toList = true ↔
        k.Anchors t.toList s.toList) ∧
      (∀ (column : String) (d : Sql.Dialect), (Predicate.like column k t).toExpr.pieces d =
        (Sql.Expr.columnPath column).pieces d ++
          [.text " like ", .value (.string (k.pattern t)), .text " escape '\\'"]) :=
  ⟨LikeKind.pattern_toList k t, fun rest s => likeMatch_escaped t.toList rest s,
    fun s => likeMatch_pattern_iff k t s.toList,
    fun column d => by simp [Predicate.toExpr, Sql.Expr.pieces]⟩

end QueryDoc.Compile
