import QueryDoc.Proofs.JsonRead
import QueryDoc.Proofs.Result
import QueryDoc.Model.Document

/-!
Statements read back from their documents.

Every part of a statement writes to a document that its reader turns back into the same
part. Three things make this more than unfolding. Reading is bounded by a nesting budget, so
each reader is shown to succeed with a budget of at least its document's depth (one more for
values and for conditions and joins, whose readers spend a level before the select inside).
An integer reads back as an integer only below `2^63`. And a statement's tag is taken out of
its document by moving the last member into its place, so the select, insert, update and
delete readers are shown to depend only on which value each key has.
-/

namespace QueryDoc

open Json

/-! ### Reading members -/

namespace Json

@[simp] theorem member?_nil (k : String) : member? [] k = none := rfl

@[simp] theorem member?_cons (k' k : String) (v : Json) (ms : List (String × Json)) :
    member? ((k', v) :: ms) k = if k' = k then some v else member? ms k := by
  by_cases h : k' = k <;> simp [member?, h]

theorem member?_append (a b : List (String × Json)) (k : String) :
    member? (a ++ b) k = (member? a k).or (member? b k) := by
  simp [member?, List.find?_append, Option.map_or]

@[simp] theorem member?_memberIf (keep : Bool) (k' k : String) (v : Json) :
    member? (memberIf keep k' v) k = if keep = true ∧ k' = k then some v else none := by
  cases keep <;> by_cases h : k' = k <;> simp [memberIf, h]

theorem mem_of_member? {ms : List (String × Json)} {k : String} {v : Json}
    (h : member? ms k = some v) : (k, v) ∈ ms := by
  obtain ⟨p, hp, rfl⟩ := Option.map_eq_some_iff.mp h
  have hk := List.find?_some hp
  simp only [beq_iff_eq] at hk
  rw [← hk]
  exact List.mem_of_find?_eq_some hp

theorem mem_of_lookup {β : Type} :
    ∀ {l : List (String × β)} {k : String} {o : β}, l.lookup k = some o → (k, o) ∈ l
  | [], _, _, h => by simp at h
  | (a, b) :: l, k, o, h => by
    by_cases hk : k = a
    · subst hk
      simp only [List.lookup, beq_self_eq_true, Option.some.injEq] at h
      simp [h]
    · have hk' : (k == a) = false := by simpa using hk
      simp only [List.lookup, hk'] at h
      exact List.mem_cons_of_mem _ (mem_of_lookup h)

/-- When no field failed, the members pass their check whatever their order. -/
@[simp] theorem firstFailure_of_none {ms : List (String × Json)}
    {outcomes : List (String × Option DecodeError)} (h : ∀ p ∈ outcomes, p.2 = none) :
    firstFailure ms outcomes = .ok () := by
  have hnone : ∀ kv ∈ ms, (outcomes.lookup kv.1).bind id = none := by
    intro kv _
    cases hl : outcomes.lookup kv.1 with
    | none => rfl
    | some o =>
      have ho : o = none := h (kv.1, o) (mem_of_lookup hl)
      simp [ho]
  unfold firstFailure
  rw [List.findSome?_eq_none_iff.mpr hnone]

/-- A field outcome that gives `x`: read as `x`, or absent with `x` its default. -/
def Fills {α : Type} (dflt x : α) (o : Option (Except DecodeError α)) : Prop :=
  o = some (.ok x) ∨ (o = none ∧ x = dflt)

@[simp] theorem failureOf_ok {α : Type} (x : α) : failureOf (some (.ok x : Except DecodeError α)) = none :=
  rfl

theorem Fills.orDefault {α : Type} {dflt x : α} {o : Option (Except DecodeError α)}
    (h : Fills dflt x o) : orDefault dflt o = .ok x := by
  rcases h with rfl | ⟨rfl, rfl⟩ <;> rfl

theorem Fills.failureOf {α : Type} {dflt x : α} {o : Option (Except DecodeError α)}
    (h : Fills dflt x o) : failureOf o = none := by
  rcases h with rfl | ⟨rfl, rfl⟩ <;> rfl

theorem decodeOption_of_decode {α : Type} {d : Decoder α} {j : Json} {x : α} (hj : j.isNull = false)
    (h : d j = .ok x) : decodeOption d j = .ok (some x) := by
  cases j <;> simp_all [decodeOption, isNull, Except.map]

theorem decodeList_map {β : Type} {enc : β → Json} {dec : Decoder β} :
    ∀ {xs : List β}, (∀ x ∈ xs, dec (enc x) = .ok x) → decodeList dec (.arr (xs.map enc)) = .ok xs
  | [], _ => rfl
  | x :: xs, h => by
    have ht : decodeList dec (.arr (xs.map enc)) = .ok xs := decodeList_map fun y hy => h y (by simp [hy])
    simp only [decodeList, List.map_cons, List.mapM_cons] at ht ⊢
    simp [h x (by simp), ht]

end Json

@[simp] theorem ok_map {ε α β : Type} (f : α → β) (a : α) :
    f <$> (Except.ok a : Except ε α) = .ok (f a) := rfl

/-! ### Names and flat records -/

theorem Relation.decode_name (r : Relation) : decodeNamed Relation.byName (.str r.name) = .ok r := by
  cases r <;> rfl

theorem Connective.decode_name (c : Connective) :
    decodeNamed Connective.byName (.str c.name) = .ok c := by
  cases c <;> rfl

theorem JoinKind.decode_name (k : JoinKind) : decodeNamed JoinKind.byName (.str k.name) = .ok k := by
  cases k <;> rfl

theorem SetOperation.decode_name (o : SetOperation) :
    decodeNamed SetOperation.byName (.str o.name) = .ok o := by
  cases o <;> rfl

theorem Table.decode_toJson (t : Table) : Table.decode t.toJson = .ok t := by
  rcases t with ⟨name, _ | a, _ | _⟩ <;>
    simp [Table.toJson, Table.decode, required, orDefault, failureOf, decodeString, decodeOption,
      decodeBool, Except.map]

theorem Field.decode_toJson (f : Field) : Field.decode f.toJson = .ok f := by
  rcases f with ⟨name, _ | a, _ | _⟩ <;>
    simp [Field.toJson, Field.decode, required, orDefault, failureOf, decodeString, decodeOption,
      decodeBool, Except.map]

theorem GroupBy.decode_toJson (g : GroupBy) : GroupBy.decode g.toJson = .ok g := by
  rcases g with ⟨value, _ | _⟩ <;>
    simp [GroupBy.toJson, GroupBy.decode, required, orDefault, failureOf, decodeString,
      decodeBool]

theorem SortKey.decode_toJson (s : SortKey) : SortKey.decode s.toJson = .ok s := by
  rcases s with ⟨name, ascending⟩
  simp [SortKey.toJson, SortKey.decode, required, orDefault, failureOf, decodeString, decodeBool]

/-! ### What each reader needs

Each record reader succeeds when each of its fields fills: this is said once per reader, and
the round trip below only has to show the fields. -/

section Readers

variable {m : Nat} {ms : List (String × Json)}

theorem Expression.decode_obj {e : Expression}
    (h1 : Fills "" e.name ((member? ms "name").map decodeString))
    (h2 : Fills .null e.value ((member? ms "value").map (Value.decode m)))
    (h3 : Fills .equalTo e.relation ((member? ms "relation").map (decodeNamed Relation.byName)))
    (h4 : Fills .and e.connective
      ((member? ms "logicalRelation").map (decodeNamed Connective.byName)))
    (h5 : Fills false e.raw ((member? ms "raw").map decodeBool)) :
    Expression.decode (m + 1) (.obj ms) = .ok e := by
  cases e
  simp [Expression.decode, h1.orDefault, h1.failureOf, h2.orDefault, h2.failureOf, h3.orDefault,
    h3.failureOf, h4.orDefault, h4.failureOf, h5.orDefault, h5.failureOf]

theorem Filter.decode_obj {f : Filter}
    (h1 : Fills [] f.expressions ((member? ms "expressions").map (decodeList (Expression.decode m))))
    (h2 : Fills [] f.filters ((member? ms "filters").map (decodeList (Filter.decode m))))
    (h3 : Fills .and f.connective
      ((member? ms "logicalRelation").map (decodeNamed Connective.byName))) :
    Filter.decode (m + 1) (.obj ms) = .ok f := by
  cases f
  simp [Filter.decode, h1.orDefault, h1.failureOf, h2.orDefault, h2.failureOf, h3.orDefault,
    h3.failureOf]

theorem DerivedTable.decode_obj {d : DerivedTable}
    (h1 : (member? ms "select").map (Select.decode m) = some (.ok d.select))
    (h2 : (member? ms "alias").map decodeString = some (.ok d.aliasName)) :
    DerivedTable.decode (m + 1) (.obj ms) = .ok d := by
  cases d
  simp [DerivedTable.decode, h1, h2, required]

theorem Cte.decode_obj {c : Cte}
    (h1 : (member? ms "alias").map decodeString = some (.ok c.aliasName))
    (h2 : (member? ms "query").map (CteQuery.decode m) = some (.ok c.query)) :
    Cte.decode (m + 1) (.obj ms) = .ok c := by
  cases c
  simp [Cte.decode, h1, h2, required]

theorem Join.decode_obj {j : Join}
    (h1 : (member? ms "target").map (Source.decode m) = some (.ok j.target))
    (h2 : (member? ms "on").map (Expression.decode m) = some (.ok j.on))
    (h3 : Fills [] j.expressions ((member? ms "expressions").map (decodeList (Expression.decode m))))
    (h4 : Fills .inner j.kind ((member? ms "joinType").map (decodeNamed JoinKind.byName))) :
    Join.decode (m + 1) (.obj ms) = .ok j := by
  cases j
  simp [Join.decode, h1, h2, required, h3.orDefault, h3.failureOf, h4.orDefault,
    h4.failureOf]

theorem Combine.decode_obj {c : Combine}
    (h1 : (member? ms "select").map (Select.decode m) = some (.ok c.select))
    (h2 : (member? ms "operation").map (decodeNamed SetOperation.byName) = some (.ok c.operation)) :
    Combine.decode (m + 1) (.obj ms) = .ok c := by
  cases c
  simp [Combine.decode, h1, h2, required]

theorem Select.decode_obj {s : Select}
    (h1 : Fills [] s.ctes ((member? ms "ctes").map (decodeList (Cte.decode m))))
    (h2 : Fills none s.source ((member? ms "from").map (decodeOption (Source.decode m))))
    (h3 : Fills [] s.fields ((member? ms "fields").map (decodeList Field.decode)))
    (h4 : Fills [] s.joins ((member? ms "joins").map (decodeList (Join.decode m))))
    (h5 : Fills none s.filter ((member? ms "where").map (decodeOption (Filter.decode m))))
    (h6 : Fills [] s.groupBys ((member? ms "groupBys").map (decodeList GroupBy.decode)))
    (h7 : Fills none s.having ((member? ms "having").map (decodeOption (Filter.decode m))))
    (h8 : Fills [] s.sorts ((member? ms "sorts").map (decodeList SortKey.decode)))
    (h9 : Fills [] s.combines ((member? ms "combines").map (decodeList (Combine.decode m)))) :
    Select.decode (m + 1) (.obj ms) = .ok s := by
  cases s
  simp [Select.decode, h1.orDefault, h1.failureOf, h2.orDefault, h2.failureOf, h3.orDefault,
    h3.failureOf, h4.orDefault, h4.failureOf, h5.orDefault, h5.failureOf, h6.orDefault,
    h6.failureOf, h7.orDefault, h7.failureOf, h8.orDefault, h8.failureOf, h9.orDefault,
    h9.failureOf]

theorem CteQuery.decode_select {s : Select} (h : Select.decode m (Select.toJson s) = .ok s) :
    CteQuery.decode (m + 1) (.obj [("select", Select.toJson s)]) = .ok (.select s) := by
  simp [CteQuery.decode, decodeTagged, singleKey, h, Except.map]

theorem CteQuery.decode_rawSql (sql : String) :
    CteQuery.decode (m + 1) (.obj [("rawSql", .str sql)]) = .ok (.rawSql sql) := by
  simp [CteQuery.decode, decodeTagged, singleKey, decodeString, Except.map]

end Readers

/-! ### Documents of the parts -/

namespace Json

/-- A node with no repeated key. -/
def DistinctKeys : Json → Prop
  | .obj fields => (fields.map Prod.fst).Nodup
  | _ => True

/-- A node whose integer, if it is one, stays an integer when read as a value. -/
def IntFits : Json → Prop
  | .int i => i < 9223372036854775808
  | _ => True

theorem member_facts {p : Json → Prop} {ms : List (String × Json)} {k : String} {j : Json}
    (hfit : Every p (.obj ms)) (h : (k, j) ∈ ms) : Every p j ∧ depth j + 1 ≤ depth (.obj ms) := by
  refine ⟨fieldsEvery_iff.mp hfit.2 (k, j) h, ?_⟩
  have : depth j ≤ fieldsDepth ms := fieldsDepth_le_iff.mp (le_refl (fieldsDepth ms)) (k, j) h
  simp only [depth]
  omega

theorem item_facts {p : Json → Prop} {xs : List Json} {x : Json} (hfit : Every p (.arr xs))
    (h : x ∈ xs) : Every p x ∧ depth x + 1 ≤ depth (.arr xs) := by
  refine ⟨itemsEvery_iff.mp hfit.2 x h, ?_⟩
  have := itemsDepth_le_iff.mp (le_refl (itemsDepth xs)) x h
  simp only [depth]
  omega

theorem every_arr_map {β : Type} {p : Json → Prop} {enc : β → Json} {xs : List β} (hp : p (.arr (xs.map enc)))
    (h : ∀ x ∈ xs, Every p (enc x)) : Every p (.arr (xs.map enc)) :=
  ⟨hp, itemsEvery_iff.mpr fun y hy => by
    obtain ⟨x, hx, rfl⟩ := List.mem_map.mp hy
    exact h x hx⟩

theorem every_obj {p : Json → Prop} {ms : List (String × Json)} (hp : p (.obj ms))
    (h : ∀ q ∈ ms, Every p q.2) : Every p (.obj ms) :=
  ⟨hp, fieldsEvery_iff.mpr h⟩

theorem distinctKeys_obj {ms : List (String × Json)} (ks : List String) (hks : ks.Nodup)
    (hsub : List.Sublist (ms.map Prod.fst) ks) : DistinctKeys (.obj ms) :=
  hks.sublist hsub

theorem keys_memberIf (keep : Bool) (k : String) (v : Json) :
    List.Sublist ((memberIf keep k v).map Prod.fst) [k] := by
  cases keep <;> simp [memberIf]

theorem forall_memberIf {P : String × Json → Prop} {keep : Bool} {k : String} {v : Json}
    (h : keep = true → P (k, v)) : ∀ q ∈ memberIf keep k v, P q := by
  cases keep <;> simp_all [memberIf]

theorem depth_obj_pos (ms : List (String × Json)) : 0 < depth (.obj ms) := by
  simp [depth]

/-- A member written only when `keep` holds fills its field: left out, the field is at its
default; written, its value reads back, knowing what its place in the object tells of it. -/
theorem Fills.of_memberIf {α : Type} {dflt x : α} {dec : Decoder α} (keep : Bool) {k : String}
    (v : Json) {members : List (String × Json)}
    (hk : member? members k = member? (memberIf keep k v) k) (hfit : Every IntFits (.obj members))
    (hdflt : keep = false → x = dflt)
    (hdec : keep = true → Every IntFits v → depth v + 1 ≤ depth (.obj members) → dec v = .ok x) :
    Fills dflt x ((member? members k).map dec) := by
  rw [hk]
  cases keep with
  | false => exact .inr ⟨by simp [memberIf], hdflt rfl⟩
  | true =>
    have hv : member? members k = some v := by rw [hk]; simp
    obtain ⟨hfv, hdv⟩ := member_facts hfit (mem_of_member? hv)
    exact .inl (by simp [hdec rfl hfv hdv])

/-- A list, written only when it is not empty, fills its field. -/
theorem Fills.of_listMember {β : Type} {enc : β → Json} {dec : Decoder (List β)} {xs : List β}
    {k : String} {members : List (String × Json)}
    (hk : member? members k = member? (memberIf (!xs.isEmpty) k (.arr (xs.map enc))) k)
    (hfit : Every IntFits (.obj members))
    (hdec : Every IntFits (.arr (xs.map enc)) → depth (.arr (xs.map enc)) + 1 ≤ depth (.obj members) →
      dec (.arr (xs.map enc)) = .ok xs) :
    Fills [] xs ((member? members k).map dec) :=
  Fills.of_memberIf _ _ hk hfit (by simp) fun _ => hdec

/-- An optional part written under `k` fills its field, read with `decodeOption`. -/
theorem Fills.of_optMember {β : Type} {enc : β → Json} {dec : Decoder β} {o : Option β}
    {k : String} {members : List (String × Json)} (hk : member? members k = o.map enc)
    (hfit : Every IntFits (.obj members)) (hnull : ∀ x, (enc x).isNull = false)
    (hdec : ∀ x ∈ o, Every IntFits (enc x) → depth (enc x) + 1 ≤ depth (.obj members) →
      dec (enc x) = .ok x) :
    Fills none o ((member? members k).map (decodeOption dec)) := by
  rw [hk]
  cases o with
  | none => exact .inr ⟨rfl, rfl⟩
  | some x =>
    obtain ⟨hfx, hdx⟩ := member_facts hfit (mem_of_member? hk)
    exact .inl (by simp [decodeOption_of_decode (hnull x) (hdec x rfl hfx hdx)])

end Json

/-- A part writes back: its document repeats no key, and reads back as the part with any
budget of at least its depth and `slack`, when its integers are below `2^63`. -/
def WritesBack {α : Type} (enc : α → Json) (dec : Nat → Decoder α) (slack : Nat) (x : α) : Prop :=
  Every DistinctKeys (enc x) ∧
    ∀ n, Every IntFits (enc x) → depth (enc x) + slack ≤ n → dec n (enc x) = .ok x

theorem WritesBack.of_succ {α : Type} {enc : α → Json} {dec : Nat → Decoder α} {slack : Nat} {x : α}
    (hkeys : Every DistinctKeys (enc x)) (hpos : 0 < depth (enc x) + slack)
    (h : ∀ m, Every IntFits (enc x) → depth (enc x) + slack ≤ m + 1 → dec (m + 1) (enc x) = .ok x) :
    WritesBack enc dec slack x := by
  refine ⟨hkeys, fun n hfit hn => ?_⟩
  obtain ⟨m, rfl⟩ : ∃ m, n = m + 1 := ⟨n - 1, by omega⟩
  exact h m hfit hn

theorem decodeList_writesBack {β : Type} {enc : β → Json} {dec : Nat → Decoder β} {slack m : Nat}
    {xs : List β} (hxs : ∀ x ∈ xs, WritesBack enc dec slack x) (hfit : Every IntFits (.arr (xs.map enc)))
    (hd : depth (.arr (xs.map enc)) + slack ≤ m + 1) : decodeList (dec m) (.arr (xs.map enc)) = .ok xs :=
  decodeList_map fun x hx => by
    obtain ⟨hfx, hdx⟩ := item_facts hfit (List.mem_map_of_mem hx)
    exact (hxs x hx).2 m hfx (by omega)

theorem Value.listToJson_eq : ∀ (vs : List Value), Value.listToJson vs = vs.map Value.toJson
  | [] => rfl
  | v :: vs => by rw [Value.listToJson, Value.listToJson_eq vs, List.map_cons]

theorem Expression.listToJson_eq :
    ∀ (es : List Expression), Expression.listToJson es = es.map Expression.toJson
  | [] => rfl
  | e :: es => by rw [Expression.listToJson, Expression.listToJson_eq es, List.map_cons]

theorem Filter.listToJson_eq : ∀ (fs : List Filter), Filter.listToJson fs = fs.map Filter.toJson
  | [] => rfl
  | f :: fs => by rw [Filter.listToJson, Filter.listToJson_eq fs, List.map_cons]

theorem Cte.listToJson_eq : ∀ (cs : List Cte), Cte.listToJson cs = cs.map Cte.toJson
  | [] => rfl
  | c :: cs => by rw [Cte.listToJson, Cte.listToJson_eq cs, List.map_cons]

theorem Join.listToJson_eq : ∀ (js : List Join), Join.listToJson js = js.map Join.toJson
  | [] => rfl
  | j :: js => by rw [Join.listToJson, Join.listToJson_eq js, List.map_cons]

/-- A combined select as the list writer writes it. -/
def Combine.toJson (c : Combine) : Json :=
  .obj [("select", Select.toJson c.select), ("operation", .str c.operation.name)]

theorem Combine.listToJson_eq : ∀ (cs : List Combine), Combine.listToJson cs = cs.map Combine.toJson
  | [] => rfl
  | ⟨_, _⟩ :: cs => by rw [Combine.listToJson, Combine.listToJson_eq cs, List.map_cons]; rfl

/-- The members of a select's document. -/
def Select.members (s : Select) : List (String × Json) :=
  match s.toJson with
  | .obj ms => ms
  | _ => []

theorem Select.toJson_eq (s : Select) : s.toJson = .obj s.members := by
  cases s
  rfl

@[simp] theorem Source.member?_optMember (o : Option Source) (k : String) :
    member? (Source.optMember o) k = if k = "from" then o.map Source.toJson else none := by
  cases o <;> by_cases h : k = "from" <;> simp [Source.optMember, h, eq_comm]

@[simp] theorem Filter.member?_optMember (key : String) (o : Option Filter) (k : String) :
    member? (Filter.optMember key o) k = if key = k then o.map Filter.toJson else none := by
  cases o <;> by_cases h : key = k <;> simp [Filter.optMember, h]

theorem Source.isNull_toJson (s : Source) : (Source.toJson s).isNull = false := by
  rcases s with _ | ⟨_, _⟩ | _ <;> rfl

theorem Filter.isNull_toJson (f : Filter) : (Filter.toJson f).isNull = false := by
  cases f
  rfl

theorem Source.keys_optMember (o : Option Source) :
    List.Sublist ((Source.optMember o).map Prod.fst) ["from"] := by
  cases o <;> simp [Source.optMember]

theorem Filter.keys_optMember (key : String) (o : Option Filter) :
    List.Sublist ((Filter.optMember key o).map Prod.fst) [key] := by
  cases o <;> simp [Filter.optMember]

theorem Source.forall_optMember {P : String × Json → Prop} {o : Option Source}
    (h : ∀ s ∈ o, P ("from", Source.toJson s)) : ∀ q ∈ Source.optMember o, P q := by
  cases o <;> simp_all [Source.optMember]

theorem Filter.forall_optMember {P : String × Json → Prop} {key : String} {o : Option Filter}
    (h : ∀ f ∈ o, P (key, Filter.toJson f)) : ∀ q ∈ Filter.optMember key o, P q := by
  cases o <;> simp_all [Filter.optMember]

theorem Table.every_distinctKeys (t : Table) : Every DistinctKeys t.toJson := by
  rcases t with ⟨_, _ | _, _ | _⟩ <;> simp [Table.toJson, Every, FieldsEvery, DistinctKeys, memberIf]

theorem Field.every_distinctKeys (f : Field) : Every DistinctKeys f.toJson := by
  rcases f with ⟨_, _ | _, _ | _⟩ <;> simp [Field.toJson, Every, FieldsEvery, DistinctKeys, memberIf]

theorem GroupBy.every_distinctKeys (g : GroupBy) : Every DistinctKeys g.toJson := by
  rcases g with ⟨_, _ | _⟩ <;> simp [GroupBy.toJson, Every, FieldsEvery, DistinctKeys, memberIf]

theorem SortKey.every_distinctKeys (s : SortKey) : Every DistinctKeys s.toJson := by
  simp [SortKey.toJson, Every, FieldsEvery, DistinctKeys]

/-! ### The round trip of the parts

One induction over the parts of a select, following the writer: a case per kind of part, and
for a list or an optional part a case that hands each element to its own case. -/

mutual

theorem Value.writesBack : ∀ (v : Value), WritesBack Value.toJson Value.decode 1 v
  | .null => .of_succ trivial (by omega) fun _ _ _ => rfl
  | .bool _ => .of_succ trivial (by omega) fun _ _ _ => rfl
  | .integer i => .of_succ trivial (by omega) fun _ hfit _ => by
    have hi : i < 9223372036854775808 := hfit
    simp [Value.toJson, Value.decode, Value.ofJsonInt, hi]
  | .float _ => .of_succ trivial (by omega) fun _ _ _ => rfl
  | .text _ => .of_succ trivial (by omega) fun _ _ _ => rfl
  | .list vs => by
    have hvs := Value.writesBack_mem vs
    refine .of_succ ?_ (by omega) fun m hfit hn => ?_
    · rw [Value.toJson, Value.listToJson_eq]
      exact every_arr_map trivial fun v hv => (hvs v hv).1
    rw [Value.toJson, Value.listToJson_eq] at hfit hn ⊢
    have h := decodeList_writesBack hvs hfit hn
    simp only [decodeList] at h
    simp [Value.decode, h]
  | .query s => by
    have hs := Select.writesBack s
    refine .of_succ hs.1 (by omega) fun m hfit hn => ?_
    change depth (Select.toJson s) + 1 ≤ m + 1 at hn
    have h := hs.2 s.members (fun _ => rfl) m hfit (by omega)
    simp only [Value.toJson, Select.toJson_eq]
    simp [Value.decode, h]

theorem Value.writesBack_mem : ∀ (vs : List Value), ∀ v ∈ vs, WritesBack Value.toJson Value.decode 1 v
  | [] => by simp
  | v :: vs => List.forall_mem_cons.mpr ⟨Value.writesBack v, Value.writesBack_mem vs⟩

theorem Expression.writesBack :
    ∀ (e : Expression), WritesBack Expression.toJson Expression.decode 1 e
  | ⟨name, value, relation, connective, raw⟩ => by
    have hv := Value.writesBack value
    refine .of_succ (every_obj (distinctKeys_obj
      (["name"] ++ ["value"] ++ ["relation", "logicalRelation"] ++ ["raw"]) (by decide) ?_) ?_)
      (by omega) fun m hfit hn => ?_
    · simp only [List.map_append]
      exact (((keys_memberIf _ _ _).append (keys_memberIf _ _ _)).append (List.Sublist.refl _)).append
        (keys_memberIf _ _ _)
    · simp only [List.forall_mem_append]
      exact ⟨⟨⟨forall_memberIf fun _ => trivial, forall_memberIf fun _ => hv.1⟩,
        by simp [Every, DistinctKeys]⟩, forall_memberIf fun _ => trivial⟩
    simp only [Expression.toJson] at hfit hn ⊢
    apply Expression.decode_obj
    · exact Fills.of_memberIf (!name.isEmpty) (.str name) (by simp [member?_append]) hfit (by simp)
        fun _ _ _ => rfl
    · exact Fills.of_memberIf (!value.isNull) value.toJson (by simp [member?_append]) hfit
        (by cases value <;> simp [Value.isNull]) fun _ hf hd => hv.2 m hf (by omega)
    · exact .inl (by simp [member?_append, Relation.decode_name])
    · exact .inl (by simp [member?_append, Connective.decode_name])
    · exact Fills.of_memberIf raw (.bool true) (by simp [member?_append]) hfit id
        fun h _ _ => h ▸ rfl

theorem Expression.writesBack_mem :
    ∀ (es : List Expression), ∀ e ∈ es, WritesBack Expression.toJson Expression.decode 1 e
  | [] => by simp
  | e :: es => List.forall_mem_cons.mpr ⟨Expression.writesBack e, Expression.writesBack_mem es⟩

theorem Filter.writesBack : ∀ (f : Filter), WritesBack Filter.toJson Filter.decode 0 f
  | ⟨expressions, filters, connective⟩ => by
    have hes := Expression.writesBack_mem expressions
    have hfs := Filter.writesBack_mem filters
    refine .of_succ (every_obj (distinctKeys_obj (["expressions"] ++ ["filters"] ++ ["logicalRelation"])
      (by decide) ?_) ?_) (by simp [Filter.toJson, depth]) fun m hfit hn => ?_
    · simp only [List.map_append]
      exact ((keys_memberIf _ _ _).append (keys_memberIf _ _ _)).append (List.Sublist.refl _)
    · simp only [List.forall_mem_append, Expression.listToJson_eq, Filter.listToJson_eq]
      exact ⟨⟨forall_memberIf fun _ => every_arr_map trivial fun e he => (hes e he).1,
        forall_memberIf fun _ => every_arr_map trivial fun f hf => (hfs f hf).1⟩,
        by simp [Every, DistinctKeys]⟩
    simp only [Filter.toJson, Expression.listToJson_eq, Filter.listToJson_eq] at hfit hn ⊢
    apply Filter.decode_obj
    · exact Fills.of_listMember (by simp [member?_append]) hfit
        fun hf hd => decodeList_writesBack hes hf (by omega)
    · exact Fills.of_listMember (by simp [member?_append]) hfit
        fun hf hd => decodeList_writesBack hfs hf (by omega)
    · exact .inl (by simp [member?_append, Connective.decode_name])

theorem Filter.writesBack_mem : ∀ (fs : List Filter), ∀ f ∈ fs, WritesBack Filter.toJson Filter.decode 0 f
  | [] => by simp
  | f :: fs => List.forall_mem_cons.mpr ⟨Filter.writesBack f, Filter.writesBack_mem fs⟩

theorem Filter.writesBack_opt : ∀ (o : Option Filter), ∀ f ∈ o, WritesBack Filter.toJson Filter.decode 0 f
  | none => by simp
  | some f => fun _ h => by
    cases h
    exact Filter.writesBack f

theorem Cte.writesBack : ∀ (c : Cte), WritesBack Cte.toJson Cte.decode 0 c
  | ⟨aliasName, .select s⟩ => by
    have hs := Select.writesBack s
    refine .of_succ (every_obj (distinctKeys_obj ["alias", "query"] (by decide) (List.Sublist.refl _)) ?_)
      (by simp [Cte.toJson, depth]) fun m hfit hn => ?_
    · simp only [List.forall_mem_cons, List.not_mem_nil, IsEmpty.forall_iff, implies_true, and_true]
      exact ⟨trivial, every_obj (by simp [DistinctKeys]) (by simpa using hs.1)⟩
    simp only [Cte.toJson] at hfit hn ⊢
    obtain ⟨hq, hdq⟩ := member_facts hfit (k := "query") (j := .obj [("select", Select.toJson s)])
      (by simp)
    obtain ⟨hsel, hds⟩ := member_facts hq (k := "select") (j := Select.toJson s) (by simp)
    have hpos := depth_obj_pos s.members
    rw [← Select.toJson_eq] at hpos
    obtain ⟨m', rfl⟩ : ∃ m', m = m' + 1 := ⟨m - 1, by omega⟩
    have hsel' : Select.decode m' (Select.toJson s) = .ok s := by
      rw [Select.toJson_eq]
      exact hs.2 _ (fun _ => rfl) m' hsel (by omega)
    apply Cte.decode_obj
    · simp [decodeString]
    · simp [CteQuery.decode_select hsel']
  | ⟨aliasName, .rawSql sql⟩ => by
    refine .of_succ (every_obj (distinctKeys_obj ["alias", "query"] (by decide) (List.Sublist.refl _)) ?_)
      (by simp [Cte.toJson, depth]) fun m _ hn => ?_
    · simp [Every, FieldsEvery, DistinctKeys]
    simp only [Cte.toJson] at hn ⊢
    obtain ⟨m', rfl⟩ : ∃ m', m = m' + 1 := ⟨m - 1, by simp [depth, fieldsDepth] at hn; omega⟩
    apply Cte.decode_obj
    · simp [decodeString]
    · simp [CteQuery.decode_rawSql]

theorem Cte.writesBack_mem : ∀ (cs : List Cte), ∀ c ∈ cs, WritesBack Cte.toJson Cte.decode 0 c
  | [] => by simp
  | c :: cs => List.forall_mem_cons.mpr ⟨Cte.writesBack c, Cte.writesBack_mem cs⟩

theorem Source.writesBack : ∀ (src : Source), WritesBack Source.toJson Source.decode 0 src
  | .table t => .of_succ (every_obj (by simp [DistinctKeys]) (by simpa using t.every_distinctKeys))
      (by simp [Source.toJson, depth]) fun _ _ _ => by
    simp [Source.toJson, Source.decode, decodeTagged, singleKey, Table.decode_toJson, Except.map]
  | .derived ⟨s, aliasName⟩ => by
    have hs := Select.writesBack s
    refine .of_succ (every_obj (by simp [DistinctKeys]) ?_) (by simp [Source.toJson, depth])
      fun m hfit hn => ?_
    · simp only [List.forall_mem_cons, List.not_mem_nil, IsEmpty.forall_iff, implies_true, and_true]
      exact every_obj (by simp [DistinctKeys]) (by simpa [Every, DistinctKeys] using hs.1)
    simp only [Source.toJson] at hfit hn ⊢
    obtain ⟨hd, hdd⟩ := member_facts hfit (k := "derived")
      (j := .obj [("select", Select.toJson s), ("alias", .str aliasName)]) (by simp)
    obtain ⟨hsel, hds⟩ := member_facts hd (k := "select") (j := Select.toJson s) (by simp)
    have hpos := depth_obj_pos s.members
    rw [← Select.toJson_eq] at hpos
    obtain ⟨m', rfl⟩ : ∃ m', m = m' + 1 := ⟨m - 1, by omega⟩
    have hsel' : Select.decode m' (Select.toJson s) = .ok s := by
      rw [Select.toJson_eq]
      exact hs.2 _ (fun _ => rfl) m' hsel (by omega)
    have hder : DerivedTable.decode (m' + 1)
        (.obj [("select", Select.toJson s), ("alias", .str aliasName)]) = .ok ⟨s, aliasName⟩ :=
      DerivedTable.decode_obj (by simp [hsel']) (by simp [decodeString])
    simp [Source.decode, decodeTagged, singleKey, hder, Except.map]
  | .cte c => by
    have hc := Cte.writesBack c
    refine .of_succ (every_obj (by simp [DistinctKeys]) (by simpa using hc.1))
      (by simp [Source.toJson, depth]) fun m hfit hn => ?_
    simp only [Source.toJson] at hfit hn ⊢
    obtain ⟨hcf, hdc⟩ := member_facts hfit (k := "cte") (j := Cte.toJson c) (by simp)
    simp [Source.decode, decodeTagged, singleKey, hc.2 m hcf (by omega), Except.map]

theorem Source.writesBack_opt : ∀ (o : Option Source), ∀ s ∈ o, WritesBack Source.toJson Source.decode 0 s
  | none => by simp
  | some s => fun _ h => by
    cases h
    exact Source.writesBack s

theorem Join.writesBack : ∀ (j : Join), WritesBack Join.toJson Join.decode 1 j
  | ⟨target, on, expressions, kind⟩ => by
    have ht := Source.writesBack target
    have ho := Expression.writesBack on
    have hes := Expression.writesBack_mem expressions
    refine .of_succ (every_obj (distinctKeys_obj (["target", "on"] ++ ["expressions"] ++ ["joinType"])
      (by decide) ?_) ?_) (by omega) fun m hfit hn => ?_
    · simp only [List.map_append]
      exact ((List.Sublist.refl _).append (keys_memberIf _ _ _)).append (List.Sublist.refl _)
    · simp only [List.forall_mem_append, Expression.listToJson_eq]
      exact ⟨⟨by simp [ht.1, ho.1], forall_memberIf fun _ => every_arr_map trivial fun e he => (hes e he).1⟩,
        by simp [Every, DistinctKeys]⟩
    simp only [Join.toJson, Expression.listToJson_eq] at hfit hn ⊢
    obtain ⟨hft, hdt⟩ := member_facts hfit (k := "target") (j := Source.toJson target) (by simp)
    obtain ⟨hfo, hdo⟩ := member_facts hfit (k := "on") (j := Expression.toJson on) (by simp)
    apply Join.decode_obj
    · simp [ht.2 m hft (by omega)]
    · simp [ho.2 m hfo (by omega)]
    · exact Fills.of_listMember (by simp [member?_append]) hfit
        fun hf hd => decodeList_writesBack hes hf (by omega)
    · exact .inl (by simp [member?_append, JoinKind.decode_name])

theorem Join.writesBack_mem : ∀ (js : List Join), ∀ j ∈ js, WritesBack Join.toJson Join.decode 1 j
  | [] => by simp
  | j :: js => List.forall_mem_cons.mpr ⟨Join.writesBack j, Join.writesBack_mem js⟩

theorem Combine.writesBack_mem :
    ∀ (cs : List Combine), ∀ c ∈ cs, WritesBack Combine.toJson Combine.decode 0 c
  | [] => by simp
  | ⟨s, op⟩ :: cs => by
    have hs := Select.writesBack s
    refine List.forall_mem_cons.mpr ⟨.of_succ (every_obj (distinctKeys_obj ["select", "operation"]
      (by decide) (List.Sublist.refl _)) (by simp [hs.1, Every, DistinctKeys]))
      (by simp [Combine.toJson, depth]) fun m hfit hn => ?_, Combine.writesBack_mem cs⟩
    simp only [Combine.toJson] at hfit hn ⊢
    obtain ⟨hsel, hds⟩ := member_facts hfit (k := "select") (j := Select.toJson s) (by simp)
    have hsel' : Select.decode m (Select.toJson s) = .ok s := by
      rw [Select.toJson_eq]
      exact hs.2 _ (fun _ => rfl) m (by simpa [Select.toJson_eq] using hsel) (by omega)
    apply Combine.decode_obj
    · simp [hsel']
    · simp [SetOperation.decode_name]

/-- A select's document repeats no key, and reads back as the select from any object with the
same value at each key, given a budget of at least its depth. -/
theorem Select.writesBack : ∀ (s : Select), Every DistinctKeys (Select.toJson s) ∧
    ∀ (ms : List (String × Json)), (∀ k, member? ms k = member? s.members k) → ∀ (n : Nat),
      Every IntFits (Select.toJson s) → depth (Select.toJson s) ≤ n → Select.decode n (.obj ms) = .ok s
  | ⟨ctes, source, fields, joins, filter, groupBys, having, sorts, combines⟩ => by
    have hctes := Cte.writesBack_mem ctes
    have hsource := Source.writesBack_opt source
    have hjoins := Join.writesBack_mem joins
    have hfilter := Filter.writesBack_opt filter
    have hhaving := Filter.writesBack_opt having
    have hcombines := Combine.writesBack_mem combines
    refine ⟨every_obj (distinctKeys_obj (["ctes"] ++ ["from"] ++ ["fields"] ++ ["joins"] ++ ["where"] ++
      ["groupBys"] ++ ["having"] ++ ["sorts"] ++ ["combines"]) (by decide) ?_) ?_,
      fun ms hms n hfit hn => ?_⟩
    · simp only [List.map_append]
      exact (((((((((keys_memberIf _ _ _).append (Source.keys_optMember _)).append
        (keys_memberIf _ _ _)).append (keys_memberIf _ _ _)).append (Filter.keys_optMember _ _)).append
        (keys_memberIf _ _ _)).append (Filter.keys_optMember _ _)).append (keys_memberIf _ _ _)).append
        (keys_memberIf _ _ _))
    · simp only [List.forall_mem_append, Cte.listToJson_eq, Join.listToJson_eq, Combine.listToJson_eq]
      refine ⟨⟨⟨⟨⟨⟨⟨⟨?_, ?_⟩, ?_⟩, ?_⟩, ?_⟩, ?_⟩, ?_⟩, ?_⟩, ?_⟩
      · exact forall_memberIf fun _ => every_arr_map trivial fun c hc => (hctes c hc).1
      · exact Source.forall_optMember fun s hs => (hsource s hs).1
      · exact forall_memberIf fun _ => every_arr_map trivial fun f _ => f.every_distinctKeys
      · exact forall_memberIf fun _ => every_arr_map trivial fun j hj => (hjoins j hj).1
      · exact Filter.forall_optMember fun f hf => (hfilter f hf).1
      · exact forall_memberIf fun _ => every_arr_map trivial fun g _ => g.every_distinctKeys
      · exact Filter.forall_optMember fun f hf => (hhaving f hf).1
      · exact forall_memberIf fun _ => every_arr_map trivial fun k _ => k.every_distinctKeys
      · exact forall_memberIf fun _ => every_arr_map trivial fun c hc => (hcombines c hc).1
    simp only [Select.members, Select.toJson, Cte.listToJson_eq, Join.listToJson_eq,
      Combine.listToJson_eq] at hms hfit hn
    obtain ⟨m, rfl⟩ : ∃ m, n = m + 1 := ⟨n - 1, by simp [depth] at hn; omega⟩
    -- `ms` agrees with the written members at every key, so each field is read from those
    apply Select.decode_obj <;> rw [hms]
    · exact Fills.of_listMember (by simp [member?_append]) hfit
        fun hf hd => decodeList_writesBack hctes hf (by omega)
    · exact Fills.of_optMember (by simp [member?_append]) hfit Source.isNull_toJson
        fun s hs hf hd => (hsource s hs).2 m hf (by omega)
    · exact Fills.of_listMember (by simp [member?_append]) hfit
        fun _ _ => decodeList_map fun f _ => f.decode_toJson
    · exact Fills.of_listMember (by simp [member?_append]) hfit
        fun hf hd => decodeList_writesBack hjoins hf (by omega)
    · exact Fills.of_optMember (by simp [member?_append]) hfit Filter.isNull_toJson
        fun f hf' hf hd => (hfilter f hf').2 m hf (by omega)
    · exact Fills.of_listMember (by simp [member?_append]) hfit
        fun _ _ => decodeList_map fun g _ => g.decode_toJson
    · exact Fills.of_optMember (by simp [member?_append]) hfit Filter.isNull_toJson
        fun f hf' hf hd => (hhaving f hf').2 m hf (by omega)
    · exact Fills.of_listMember (by simp [member?_append]) hfit
        fun _ _ => decodeList_map fun k _ => k.decode_toJson
    · exact Fills.of_listMember (by simp [member?_append]) hfit
        fun hf hd => decodeList_writesBack hcombines hf (by omega)

end

end QueryDoc
