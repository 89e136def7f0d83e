import Mathlib
import QueryDoc.Proofs.NestedSelects

/-!
The target columns of an insert from a select, against the columns the select returns.

An insert from a select names its target columns by the select's fields, each by
`Field.outputName`: its alias, else its name. The select itself projects each field as
`compileField` writes it, a raw expression or a column reference parsed from the name, and
the database names a result column by its alias, else by the column of a plain column
reference (`SelectItem.resultName?`), the last dot-separated part of the field's name.

Main statement: `insert_columns_name_results`. For every aliased or non-raw field, the target
column is the result column's name exactly when the field has an alias or its name is one
part, a column of its own; a field `v.id` fills the target column `v.id` with the result
column `id` (`dotted_field_targets_whole_name`).
-/

namespace QueryDoc.Sql

/-- The name the database gives the result column of a select item, where the text alone
fixes it: the alias, or the column of a plain column reference. -/
def SelectItem.resultName? : SelectItem → Option String
  | .expr _ (some aliasName) => some aliasName
  | .expr (.column c) none => some c.column
  | _ => none

end QueryDoc.Sql

namespace QueryDoc.Compile

open Sql

/-- A field's result column is named by its alias, or, for a field that is not raw, by the
column its name parses to. -/
theorem resultName_compileField (f : Field) :
    (compileField f).resultName? =
      match f.aliasName with
      | some aliasName => some aliasName
      | none => if f.raw then none else some (ColumnRef.parse f.name).column := by
  obtain ⟨name, aliasName, raw⟩ := f
  cases aliasName with
  | some aliasName => rfl
  | none =>
    cases raw with
    | true => rfl
    | false => rfl

/-- Combining selects appends set operations and leaves the projected columns alone. -/
theorem compileCombines_columns {scope : List String} :
    ∀ (stmt : Query) (i : Nat) (cs : List Combine) {q : Query},
      compileCombines scope stmt i cs = .ok q → q.columns = stmt.columns
  | _, _, [], _, h => by
    cases h
    rfl
  | stmt, i, ⟨s, op⟩ :: cs, _, h => by
    obtain ⟨member, -, -, h⟩ := compileCombines_cons_eq_ok h
    exact compileCombines_columns { stmt with
      ctes := hoistCtes stmt.ctes member.ctes
      setOps := stmt.setOps ++ [⟨op, memberForm member i⟩] } (i + 1) cs h

/-- A compiled select projects its fields as `compileField` writes them, or `*` when it has
none. -/
theorem compileSelect_columns {scope : List String} {s : Select} {q : Query}
    (h : compileSelect scope s = .ok q) :
    q.columns = if s.fields.isEmpty then [.star] else s.fields.map compileField := by
  obtain ⟨ctes, source, fields, joins, filter, groupBys, having, sorts, combines⟩ := s
  obtain ⟨d₁, d₂, d₃, d, src, src', flt, hv, -, -, -, -, -, -, -, -, h⟩ := compileSelect_steps h
  exact compileCombines_columns _ 0 combines h

/-- An insert from a select writes the select, without its `with` list, and names the target
columns by the fields' output names. -/
theorem compileInsert_query {s : Insert} {q : Select} (hq : s.query = some q) {r : InsertStmt}
    (h : compileInsert s = .ok r) :
    ∃ compiled, compileSelect [] q = .ok compiled ∧ q.fields ≠ [] ∧
      r.columns = q.fields.map Field.outputName ∧ r.rows = .query { compiled with ctes := [] } := by
  unfold compileInsert at h
  split at h
  · cases h
  · rename_i hnone _
    rw [hq] at hnone
    cases hnone
  · rename_i hnone _
    rw [hq] at hnone
    cases hnone
  · rename_i q' hq' _
    rw [hq] at hq'
    cases hq'
    split at h
    · cases h
    · rename_i hfields
      obtain ⟨compiled, hc, h⟩ := Result.bind_eq_ok.1 h
      cases h
      exact ⟨compiled, hc, by simpa using hfields, rfl, rfl⟩

/-- The `i`-th target column of an insert from a select is the field the select projects
`i`-th, named by its output name. For a field with an alias, or a field that is not raw, the
target column is the name of its result column exactly when the field has an alias or its
name parses to a column that is the whole name. -/
theorem insert_columns_name_results (s : Insert) {q : Select} (hq : s.query = some q)
    {r : InsertStmt} (h : compileInsert s = .ok r) :
    ∃ cq, r.rows = .query cq ∧ r.columns = q.fields.map Field.outputName ∧
      cq.columns = q.fields.map compileField ∧
      ∀ f ∈ q.fields, (f.aliasName.isSome ∨ f.raw = false) →
        ((compileField f).resultName? = some f.outputName ↔
          f.aliasName.isSome ∨ (ColumnRef.parse f.name).column = f.name) := by
  obtain ⟨compiled, hc, hfields, hcols, hrows⟩ := compileInsert_query hq h
  have hprojected := compileSelect_columns hc
  rw [if_neg (by simpa using hfields)] at hprojected
  refine ⟨_, hrows, hcols, hprojected, fun f _ hnamed => ?_⟩
  rw [resultName_compileField]
  obtain ⟨name, aliasName, raw⟩ := f
  cases aliasName with
  | some aliasName => simp [Field.outputName]
  | none =>
    -- without an alias the field is not raw, and is named by its parsed column
    have hraw : raw = false := by simpa using hnamed
    subst hraw
    simp [Field.outputName]

/-- An insert into `t` of the column `v.id` of `canvas`, read as `v`. -/
def dottedInsert : Insert :=
  ⟨.new "t", [], some { Select.ofTable ⟨"canvas", some "v", false⟩ with
    fields := [Field.new "v.id"] }⟩

/-- An insert into `t` of the column `v.id` of `canvas`, read as `v`, under the alias `id`. -/
def aliasedInsert : Insert :=
  ⟨.new "t", [], some { Select.ofTable ⟨"canvas", some "v", false⟩ with
    fields := [⟨"v.id", some "id", false⟩] }⟩

theorem aliasedInsert_columns_name_results :
    ∃ q, aliasedInsert.query = some q ∧ ∃ r, compileInsert aliasedInsert = .ok r ∧
      ∃ cq, r.rows = .query cq ∧ r.columns = q.fields.map Field.outputName ∧
        cq.columns = q.fields.map compileField ∧
        ∀ f ∈ q.fields, (f.aliasName.isSome ∨ f.raw = false) →
          ((compileField f).resultName? = some f.outputName ↔
            f.aliasName.isSome ∨ (ColumnRef.parse f.name).column = f.name) :=
  ⟨_, rfl, _, rfl, insert_columns_name_results aliasedInsert rfl rfl⟩

/-- The target column of the field `v.id` is `v.id`, while the select returns it as the
column `id`. -/
theorem dotted_field_targets_whole_name :
    ∃ r cq, compileInsert dottedInsert = .ok r ∧ r.rows = .query cq ∧
      r.columns = ["v.id"] ∧ cq.columns = [compileField (Field.new "v.id")] ∧
      (compileField (Field.new "v.id")).resultName? = some "id" :=
  ⟨_, _, rfl, rfl, rfl, rfl, by cbv⟩

end QueryDoc.Compile
