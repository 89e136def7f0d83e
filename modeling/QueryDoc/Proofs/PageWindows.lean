import Mathlib.Algebra.Order.Floor.Div
import QueryDoc.Paging

/-!
Pages of a result.

A page of `n` rows numbered `p` starts after the rows of the pages before it: `pageBounds p n`
asks for `limit n offset (p - 1) * n`, and `window` is what those two clauses keep of a result.
`totalPages t n` counts the pages `t` rows fill. Main statement: `pages_cover_rows`. The limit is
the page size as given: `huge_page_size_accepted` is a page of `2^63` rows, whose limit SQLite,
PostgreSQL and SQL Server, which count rows in signed 64 bits, do not take.
-/

namespace QueryDoc

/-- The rows `limit l offset o` keeps of a result: at most `l` of them, from position `o` on. -/
def window {α : Type} (limit offset : Nat) (rows : List α) : List α :=
  (rows.drop offset).take limit

@[simp] theorem length_window {α : Type} (limit offset : Nat) (rows : List α) :
    (window limit offset rows).length = min limit (rows.length - offset) := by
  simp [window]

/-- The largest count a `limit` or an `offset` takes in SQLite, PostgreSQL and SQL Server: they
read it as a signed 64-bit integer. -/
def clauseCountMax : Nat := Nat.pow 2 63 - 1

/-! ### Bounds -/

theorem pageBounds_eq_ok_iff (pageNum pageSize : Nat) (b : Nat × Nat) :
    pageBounds pageNum pageSize = .ok b ↔
      1 ≤ pageNum ∧ 1 ≤ pageSize ∧ (pageNum - 1) * pageSize ≤ maxOffset ∧
        b = (pageSize, (pageNum - 1) * pageSize) := by
  unfold pageBounds
  split_ifs with h₀ h₁ h₂
  · simp [invalid, h₀]
  · simp [invalid, h₁]
  · simp only [invalid, reduceCtorEq, false_iff]
    omega
  · simp only [Except.ok.injEq]
    constructor
    · rintro rfl
      exact ⟨by omega, by omega, by omega, rfl⟩
    · rintro ⟨-, -, -, rfl⟩
      rfl

/-- A page that is not given bounds is refused with a validation failure. -/
theorem pageBounds_error_isValidation {pageNum pageSize : Nat} {e : Error}
    (h : pageBounds pageNum pageSize = .error e) : e.isValidation = true := by
  unfold pageBounds at h
  split_ifs at h <;> cases h <;> rfl

/-! ### Counting pages -/

theorem totalPages_eq_zero {total pageSize : Nat} (h : total = 0 ∨ pageSize = 0) :
    totalPages total pageSize = 0 := by
  simp [totalPages, h]

/-- With pages of at least one row, the pages `total` rows fill are `total / pageSize` rounded
up. -/
theorem totalPages_eq_ceilDiv (total : Nat) {pageSize : Nat} (h : 1 ≤ pageSize) :
    totalPages total pageSize = total ⌈/⌉ pageSize := by
  rw [Nat.ceilDiv_eq_add_pred_div, totalPages]
  split_ifs with h₀
  · -- no rows fill no pages
    have ht : total = 0 := by omega
    simp [ht, Nat.div_eq_of_lt (show pageSize - 1 < pageSize by omega)]
  · have hsplit : total + pageSize - 1 = (total - 1) + pageSize := by omega
    rw [hsplit, Nat.add_div_right _ (by omega)]
    omega

/-- There are never more pages than rows, so the count fits wherever the rows' count does. -/
theorem totalPages_le (total pageSize : Nat) : totalPages total pageSize ≤ total := by
  unfold totalPages
  split_ifs with h
  · exact Nat.zero_le _
  · have := Nat.div_le_self (total - 1) pageSize
    omega

/-- The page numbered `p` has rows exactly when it is one of the `totalPages` pages. -/
theorem sub_one_mul_lt_iff {total pageSize : Nat} (h : 1 ≤ pageSize) {p : Nat} (hp : 1 ≤ p) :
    (p - 1) * pageSize < total ↔ p ≤ totalPages total pageSize := by
  rw [totalPages_eq_ceilDiv total h]
  have hle := ceilDiv_le_iff_le_mul (a := pageSize) (b := total) (c := p - 1) (by omega)
  rw [Nat.mul_comm pageSize] at hle
  omega

/-! ### Windows -/

/-- The first `k` pages hold the first `k * n` rows, in order. -/
theorem flatMap_windows {α : Type} (rows : List α) (n : Nat) : ∀ k : Nat,
    (List.range' 1 k).flatMap (fun p => window n ((p - 1) * n) rows) = rows.take (k * n)
  | 0 => by simp
  | k + 1 => by
    rw [List.range'_1_concat, List.flatMap_append, flatMap_windows rows n k, List.flatMap_singleton,
      window, show 1 + k - 1 = k by omega, ← List.take_add, Nat.succ_mul]

/-- The pages from the first to the last hold all the rows, in order. -/
theorem flatMap_windows_totalPages {α : Type} (rows : List α) {n : Nat} (h : 1 ≤ n) :
    (List.range' 1 (totalPages rows.length n)).flatMap (fun p => window n ((p - 1) * n) rows) =
      rows := by
  rw [flatMap_windows, List.take_of_length_le]
  -- the pages cover the rows: `n` times the rounded-up quotient is at least the count
  have hcover := le_smul_ceilDiv (a := n) (b := rows.length) (by omega)
  rw [smul_eq_mul, ← totalPages_eq_ceilDiv _ h, Nat.mul_comm] at hcover
  exact hcover

/-- The window of page `p` holds `min n (t - (p - 1) * n)` of `t` rows: it has rows exactly
when the page is one of the `totalPages` pages. -/
theorem window_ne_nil_iff {α : Type} (rows : List α) {n : Nat} (h : 1 ≤ n) {p : Nat} (hp : 1 ≤ p) :
    window n ((p - 1) * n) rows ≠ [] ↔ p ≤ totalPages rows.length n := by
  rw [← sub_one_mul_lt_iff h hp, Ne, ← List.length_eq_zero_iff, length_window]
  omega

/-! ### Pages of a result -/

/-- A page's bounds are its size and the rows of the pages before it, given exactly when the
page number and size are positive and that offset fits in 64 unsigned bits; any other page is
refused with a validation failure. The pages of `t` rows are `t / n` rounded up, none for no rows
or for pages of no rows, and never more than `t`. With pages of at least one row, the pages from
the first to the last hold all the rows in order, page `p` holding `min n (t - (p - 1) * n)` of
them; those pages are not empty, and every later one is. -/
theorem pages_cover_rows :
    (∀ pageNum pageSize b, pageBounds pageNum pageSize = .ok b ↔
      1 ≤ pageNum ∧ 1 ≤ pageSize ∧ (pageNum - 1) * pageSize ≤ maxOffset ∧
        b = (pageSize, (pageNum - 1) * pageSize)) ∧
    (∀ pageNum pageSize e, pageBounds pageNum pageSize = .error e → e.isValidation = true) ∧
    (∀ total pageSize, (total = 0 ∨ pageSize = 0 → totalPages total pageSize = 0) ∧
      (1 ≤ pageSize → totalPages total pageSize = total ⌈/⌉ pageSize) ∧
      totalPages total pageSize ≤ total) ∧
    (∀ (α : Type) (rows : List α) (n : Nat), 1 ≤ n →
      (List.range' 1 (totalPages rows.length n)).flatMap (fun p => window n ((p - 1) * n) rows) =
        rows ∧
      ∀ p, 1 ≤ p → (window n ((p - 1) * n) rows).length = min n (rows.length - (p - 1) * n) ∧
        (window n ((p - 1) * n) rows ≠ [] ↔ p ≤ totalPages rows.length n)) :=
  ⟨pageBounds_eq_ok_iff, fun _ _ _ => pageBounds_error_isValidation,
    fun total _ => ⟨totalPages_eq_zero, totalPages_eq_ceilDiv total, totalPages_le total _⟩,
    fun _ rows _ h => ⟨flatMap_windows_totalPages rows h,
      fun _ hp => ⟨length_window _ _ _, window_ne_nil_iff rows h hp⟩⟩⟩

/-- A page of `2^63` rows is given bounds, though its limit is past the largest count that
SQLite, PostgreSQL and SQL Server take. -/
theorem huge_page_size_accepted :
    pageBounds 1 (Nat.pow 2 63) = .ok (Nat.pow 2 63, 0) ∧ clauseCountMax < Nat.pow 2 63 :=
  ⟨rfl, by decide⟩

end QueryDoc
