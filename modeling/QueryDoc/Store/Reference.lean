import QueryDoc.Store.Schema

/-!
Foreign keys and the parent keys they refer to.

A foreign key names a parent table and, maybe, columns of it; those columns must be the
parent's primary key or the columns of a unique index without a filter, else the key is a
mismatch. A child row whose key has a null in it refers to nothing and is never broken; any
other refers to the parent rows whose key equals its own, the child's values taken to the
parent columns' preferences and compared under their collations.
-/

namespace QueryDoc.Store

namespace Reference

/-- The failure of a foreign key whose parent key is no key of the parent. -/
def mismatch (child parent : String) : Failure :=
  Failure.general ("foreign key mismatch - \"" ++ child ++ "\" referencing \"" ++ parent ++ "\"")

/-- The parent table of a foreign key and the columns of its key, which must be its primary
key or a unique index; with the child's columns that match them, in the same order. -/
def parentKey (db : Database) (dbName : String) (child : Table) (fk : ForeignKeyDef) :
    Outcome (Table × List Nat × List Nat) := do
  let some parent := db.table? fk.ref.parent
    | throw (Failure.general ("no such table: " ++ dbName ++ "." ++ fk.ref.parent))
  let cols ← if fk.ref.parentColumns.isEmpty then
      if parent.primaryKey.isEmpty then throw (mismatch child.name parent.name)
      else pure (parent.primaryKey.map (·.1))
    else fk.ref.parentColumns.mapM fun nm =>
      match parent.columnIndex? nm with
      | some i => pure i
      | none => throw (mismatch child.name parent.name)
  let childCols ← fk.columns.mapM fun nm =>
    match child.columnIndex? nm with
    | some i => pure i
    | none => throw (mismatch child.name parent.name)
  if cols.length != childCols.length then throw (mismatch child.name parent.name)
  let isPk := parent.primaryKey.length == cols.length && parent.primaryKey.all (fun (c, _, _) => cols.contains c)
  let isUnique := (db.indexesOf parent.name).any fun i =>
    i.unique && i.filter.isNone && i.parts.length == cols.length &&
      i.parts.all (fun p => match p.source with
        | .column c => cols.contains c
        | _ => false)
  if isPk || isUnique then pure (parent, cols, childCols) else throw (mismatch child.name parent.name)

/-- Whether a parent row's key equals values, compared as the parent's columns compare. -/
def keyMatches (parent : Table) (slots : List Nat) (vals : List Datum) (pr : Array Datum) : Bool :=
  (slots.zip vals).all fun (s, v) =>
    let col := parent.columns[s]?
    let aff := (col.map (·.affinity)).getD .blob
    let coll := (col.map (·.collation)).getD .binary
    let pv := pr[s]?.getD Datum.null
    !pv.isNull && !v.isNull && (v.store aff).sameWith coll pv

/-- The broken references of a table, as `foreign_key_check` lists them: for each row in
order and each foreign key, the latest declared first (numbered from 0), whose key has no null
and matches no parent row, the table's name, the row id (null without one), the parent's name
and the key's number. A parent table that does not exist matches nothing; a parent key that is
no key fails before any row is read. -/
def dangling (db : Database) (dbName : String) (child : Table) : Outcome (List (Array Datum)) := do
  let keys ← child.foreignKeys.reverse.zipIdx.mapM fun (fk, k) =>
    if (db.table? fk.ref.parent).isNone then pure (fk, k, none)
    else do
      let key ← parentKey db dbName child fk
      pure (fk, k, some key)
  let broken (r : Row) (entry : ForeignKeyDef × Nat × Option (Table × List Nat × List Nat)) :
      Option (Array Datum) :=
    let (fk, k, key) := entry
    let childSlots := match key with
      | some (_, _, cs) => cs
      | none => fk.columns.filterMap child.columnIndex?
    let vals := childSlots.map (r.values[·]?.getD Datum.null)
    let found := match key with
      | some (parent, slots, _) => parent.rows.any (fun pr => keyMatches parent slots vals pr.values)
      | none => false
    if vals.any Datum.isNull || found then none
    else some #[.text child.name, if child.withoutRowid then .null else .integer r.rowid,
      .text fk.ref.parent, .integer k]
  pure (child.rows.toList.flatMap fun r => keys.filterMap (broken r))

end Reference

end QueryDoc.Store
