import QueryDoc.Proofs.DocumentCodec

/-!
Statements, their documents and their text.

A statement's document is the members of its part behind a `statementType` tag. Reading drops
the tag as the document store does, moving the last member into its place, and reads the rest
as the tagged kind of statement; the readers look members up by key, so that changes nothing
while no key repeats, which no writer lets happen. The value writer stores a NaN or infinite
double as `null`, so a statement reads back as itself when its doubles are finite. Through
text, the parser refuses containers nested more than 127 deep, so a statement reads back from
its text exactly when its document nests no deeper.
-/

namespace QueryDoc

open Json

/-! ### Members by key -/

namespace Json

theorem member?_eq_none_iff {ms : List (String × Json)} {k : String} :
    member? ms k = none ↔ k ∉ ms.map Prod.fst := by
  simp only [member?, Option.map_eq_none_iff, List.find?_eq_none, beq_iff_eq, List.mem_map, not_exists,
    not_and]

theorem member?_eq_none {ms : List (String × Json)} {k : String} (h : k ∉ ms.map Prod.fst) :
    member? ms k = none :=
  member?_eq_none_iff.mpr h

theorem member?_of_mem {ms : List (String × Json)} {k : String} {v : Json}
    (hnd : (ms.map Prod.fst).Nodup) (h : (k, v) ∈ ms) : member? ms k = some v := by
  induction ms with
  | nil => simp at h
  | cons p ms ih =>
    obtain ⟨k', v'⟩ := p
    simp only [List.map_cons, List.nodup_cons] at hnd
    rcases List.mem_cons.mp h with heq | h
    · cases heq
      simp
    · have hk : k' ≠ k := by
        rintro rfl
        exact hnd.1 (List.mem_map.mpr ⟨(k', v), h, rfl⟩)
      simp [hk, ih hnd.2 h]

/-- Taking out a leading key by moving the last member into its place keeps every other
lookup. -/
theorem member?_removeKey_head (key : String) (t : Json) (rest : List (String × Json))
    (hnd : (rest.map Prod.fst).Nodup) (k : String) :
    member? (removeKey ((key, t) :: rest) key) k = member? rest k := by
  have hidx : ((key, t) :: rest).findIdx? (·.1 == key) = some 0 := by simp [List.findIdx?_cons]
  rcases List.eq_nil_or_concat rest with rfl | ⟨init, last, rfl⟩
  · simp [removeKey, hidx]
  · rw [List.concat_eq_append] at hidx hnd ⊢
    -- the moved member `last` now stands first, ahead of `init`
    have hmoved : removeKey ((key, t) :: (init ++ [last])) key = last :: init := by
      simp [removeKey, hidx, List.getLast?_cons]
    have hlast : last.1 ∉ init.map Prod.fst := by
      simp only [List.map_append, List.map_cons, List.map_nil, List.nodup_append] at hnd
      intro h
      exact hnd.2.2 last.1 h last.1 (by simp) rfl
    rw [hmoved, member?_append]
    obtain ⟨k', v'⟩ := last
    by_cases hk : k' = k
    · subst hk
      simp [member?_eq_none hlast]
    · simp [hk]

/-- An object with the same value at each key as a key-distinct one nests at least as deep. -/
theorem depth_le_of_member? {ms ms' : List (String × Json)} (hnd : (ms.map Prod.fst).Nodup)
    (h : ∀ k, member? ms' k = member? ms k) : depth (.obj ms) ≤ depth (.obj ms') := by
  have hsub : fieldsDepth ms ≤ fieldsDepth ms' := by
    rw [fieldsDepth_le_iff]
    intro p hp
    have hm : member? ms' p.1 = some p.2 := by rw [h]; exact member?_of_mem hnd hp
    exact fieldsDepth_le_iff.mp le_rfl _ (mem_of_member? hm)
  simp only [depth]
  omega

/-! ### Stored doubles -/

/-- A node that is no double without a JSON number. -/
def FloatFinite : Json → Prop
  | .float f => (f.isNaN || f.isInf) = false
  | _ => True

mutual
/-- The value writer stores a value whose doubles are all finite as it is. -/
theorem storeFloats_eq_self : ∀ (j : Json), Every FloatFinite j → j.storeFloats = j
  | .float f, h => by
    have hf : (f.isNaN || f.isInf) = false := h
    simp only [storeFloats, hf, Bool.false_eq_true, if_false]
  | .arr xs, ⟨_, h⟩ => by rw [storeFloats, storeItems_eq_self xs h]
  | .obj fs, ⟨_, h⟩ => by rw [storeFloats, storeFields_eq_self fs h]
  | .null, _ | .bool _, _ | .int _, _ | .str _, _ => rfl

theorem storeItems_eq_self : ∀ (xs : List Json), ItemsEvery FloatFinite xs → storeItems xs = xs
  | [], _ => rfl
  | x :: xs, ⟨hx, h⟩ => by rw [storeItems, storeFloats_eq_self x hx, storeItems_eq_self xs h]

theorem storeFields_eq_self :
    ∀ (fs : List (String × Json)), FieldsEvery FloatFinite fs → storeFields fs = fs
  | [], _ => rfl
  | (_, v) :: fs, ⟨hv, h⟩ => by rw [storeFields, storeFloats_eq_self v hv, storeFields_eq_self fs h]
end

end Json

/-! ### Assignments, inserts, updates and deletes -/

section Readers

variable {n : Nat} {ms : List (String × Json)}

theorem FieldValue.decode_obj {f : FieldValue}
    (h1 : (member? ms "name").map decodeString = some (.ok f.name))
    (h2 : Fills .null f.value ((member? ms "value").map (Value.decode n))) :
    FieldValue.decode n (.obj ms) = .ok f := by
  cases f
  simp [FieldValue.decode, h1, h2.orDefault, h2.failureOf, required]

theorem Insert.decode_obj {i : Insert}
    (h1 : (member? ms "table").map Table.decode = some (.ok i.table))
    (h2 : Fills [] i.fields ((member? ms "fields").map (decodeList (FieldValue.decode n))))
    (h3 : Fills none i.query ((member? ms "query").map (decodeOption (Select.decode n)))) :
    Insert.decode n (.obj ms) = .ok i := by
  cases i
  simp [Insert.decode, h1, h2.orDefault, h2.failureOf, h3.orDefault, h3.failureOf, required]

theorem Update.decode_obj {u : Update}
    (h1 : (member? ms "table").map Table.decode = some (.ok u.table))
    (h2 : Fills [] u.fields ((member? ms "fields").map (decodeList (FieldValue.decode n))))
    (h3 : Fills [] u.filters ((member? ms "filters").map (decodeList (Expression.decode n)))) :
    Update.decode n (.obj ms) = .ok u := by
  cases u
  simp [Update.decode, h1, h2.orDefault, h2.failureOf, h3.orDefault, h3.failureOf, required]

theorem Delete.decode_obj {d : Delete}
    (h1 : (member? ms "table").map Table.decode = some (.ok d.table))
    (h2 : Fills [] d.filters ((member? ms "filters").map (decodeList (Expression.decode n)))) :
    Delete.decode n (.obj ms) = .ok d := by
  cases d
  simp [Delete.decode, h1, h2.orDefault, h2.failureOf, required]

end Readers

theorem FieldValue.writesBack (f : FieldValue) : WritesBack FieldValue.toJson FieldValue.decode 0 f := by
  rcases f with ⟨name, value⟩
  have hv := Value.writesBack value
  refine ⟨every_obj (distinctKeys_obj (["name"] ++ ["value"]) (by decide) ?_) ?_, fun n hfit hn => ?_⟩
  · simp only [List.map_append]
    exact (List.Sublist.refl _).append (keys_memberIf _ _ _)
  · simp only [List.forall_mem_append]
    exact ⟨by simp [Every, DistinctKeys], forall_memberIf fun _ => hv.1⟩
  simp only [FieldValue.toJson] at hfit hn ⊢
  apply FieldValue.decode_obj
  · simp [decodeString]
  · exact Fills.of_memberIf (!value.isNull) value.toJson (by simp) hfit
      (by cases value <;> simp [Value.isNull]) fun _ hf hd => hv.2 n hf (by omega)

/-- A statement part writes back from its members: they repeat no key, and any object with
the same value at each key reads back as the part within a budget of their depth. -/
def MembersWriteBack {α : Type} (members : List (String × Json)) (dec : Nat → Decoder α) (x : α) :
    Prop :=
  Every DistinctKeys (.obj members) ∧
    ∀ (ms : List (String × Json)), (∀ k, member? ms k = member? members k) → ∀ (n : Nat),
      Every IntFits (.obj members) → depth (.obj members) ≤ n → dec n (.obj ms) = .ok x

theorem Select.membersWriteBack (s : Select) : MembersWriteBack s.members Select.decode s := by
  have h := Select.writesBack s
  rw [Select.toJson_eq] at h
  exact h

theorem Insert.membersWriteBack (i : Insert) : MembersWriteBack i.members Insert.decode i := by
  rcases i with ⟨table, fields, query⟩
  have hfields : ∀ f ∈ fields, WritesBack FieldValue.toJson FieldValue.decode 0 f :=
    fun f _ => FieldValue.writesBack f
  have hquery : ∀ q ∈ query, MembersWriteBack q.members Select.decode q :=
    fun q _ => Select.membersWriteBack q
  refine ⟨every_obj (distinctKeys_obj (["table"] ++ ["fields"] ++ ["query"]) (by decide) ?_) ?_,
    fun ms hms n hfit hn => ?_⟩
  · simp only [Insert.members, List.map_append]
    refine ((List.Sublist.refl _).append (keys_memberIf _ _ _)).append ?_
    cases query <;> simp
  · simp only [Insert.members, List.forall_mem_append]
    refine ⟨⟨by simp [table.every_distinctKeys],
      forall_memberIf fun _ => every_arr_map trivial fun f hf => (hfields f hf).1⟩, ?_⟩
    cases query with
    | none => simp
    | some q => simpa [Select.toJson_eq] using (hquery q rfl).1
  simp only [Insert.members] at hms hfit hn
  apply Insert.decode_obj <;> rw [hms]
  · simp [Table.decode_toJson]
  · exact Fills.of_listMember (by cases query <;> simp [member?_append]) hfit
      fun hf hd => decodeList_writesBack hfields hf (by omega)
  · have hnull (q : Select) : (Select.toJson q).isNull = false := by rw [Select.toJson_eq]; rfl
    refine Fills.of_optMember (by cases query <;> simp [member?_append]) hfit hnull
      fun q hq hf hd => ?_
    rw [Select.toJson_eq] at hf hd ⊢
    exact (hquery q hq).2 _ (fun _ => rfl) n hf (by omega)

theorem Update.membersWriteBack (u : Update) : MembersWriteBack u.members Update.decode u := by
  rcases u with ⟨table, fields, filters⟩
  have hfields : ∀ f ∈ fields, WritesBack FieldValue.toJson FieldValue.decode 0 f :=
    fun f _ => FieldValue.writesBack f
  have hfilters := Expression.writesBack_mem filters
  refine ⟨every_obj (distinctKeys_obj (["table"] ++ ["fields"] ++ ["filters"]) (by decide) ?_) ?_,
    fun ms hms n hfit hn => ?_⟩
  · simp only [Update.members, List.map_append]
    exact ((List.Sublist.refl _).append (keys_memberIf _ _ _)).append (keys_memberIf _ _ _)
  · simp only [Update.members, List.forall_mem_append, Expression.listToJson_eq]
    exact ⟨⟨by simp [table.every_distinctKeys],
      forall_memberIf fun _ => every_arr_map trivial fun f hf => (hfields f hf).1⟩,
      forall_memberIf fun _ => every_arr_map trivial fun e he => (hfilters e he).1⟩
  simp only [Update.members, Expression.listToJson_eq] at hms hfit hn
  apply Update.decode_obj <;> rw [hms]
  · simp [Table.decode_toJson]
  · exact Fills.of_listMember (by simp [member?_append]) hfit
      fun hf hd => decodeList_writesBack hfields hf (by omega)
  · exact Fills.of_listMember (by simp [member?_append]) hfit
      fun hf hd => decodeList_writesBack hfilters hf (by omega)

theorem Delete.membersWriteBack (d : Delete) : MembersWriteBack d.members Delete.decode d := by
  rcases d with ⟨table, filters⟩
  have hfilters := Expression.writesBack_mem filters
  refine ⟨every_obj (distinctKeys_obj (["table"] ++ ["filters"]) (by decide) ?_) ?_,
    fun ms hms n hfit hn => ?_⟩
  · simp only [Delete.members, List.map_append]
    exact (List.Sublist.refl _).append (keys_memberIf _ _ _)
  · simp only [Delete.members, List.forall_mem_append, Expression.listToJson_eq]
    exact ⟨by simp [table.every_distinctKeys],
      forall_memberIf fun _ => every_arr_map trivial fun e he => (hfilters e he).1⟩
  simp only [Delete.members, Expression.listToJson_eq] at hms hfit hn
  apply Delete.decode_obj <;> rw [hms]
  · simp [Table.decode_toJson]
  · exact Fills.of_listMember (by simp) hfit
      fun hf hd => decodeList_writesBack hfilters hf (by omega)

/-! ### Statements -/

theorem Statement.members_select (s : Select) : Statement.members (.select s) = s.members := rfl

/-- No part writes a member under the tag's key. -/
theorem Statement.member?_tag (s : Statement) : member? s.members "statementType" = none := by
  rcases s with ⟨_, source, _, _, filter, _, having, _, _⟩ | ⟨_, _, _ | _⟩ | _ | _ <;>
    simp [Statement.members, Select.toJson, Insert.members, Update.members, Delete.members,
      member?_append]

theorem Statement.every_distinctKeys (s : Statement) : Every DistinctKeys (.obj s.members) := by
  cases s with
  | select s => exact (Select.membersWriteBack s).1
  | insert i => exact (Insert.membersWriteBack i).1
  | update u => exact (Update.membersWriteBack u).1
  | delete d => exact (Delete.membersWriteBack d).1

/-- A statement's document repeats no key: the tag's key is none of its part's keys. -/
theorem Statement.every_distinctKeys_document (s : Statement) : Every DistinctKeys s.document := by
  have hmembers := Statement.every_distinctKeys s
  have htag := member?_eq_none_iff.mp (Statement.member?_tag s)
  refine every_obj (List.nodup_cons.mpr ⟨htag, hmembers.1⟩) ?_
  rw [List.forall_mem_cons]
  exact ⟨trivial, fieldsEvery_iff.mp hmembers.2⟩

theorem StatementType.parse_tag {tag : String} {ty : StatementType} (h : StatementType.parse tag = .ok ty) :
    ty.tag = tag := by
  unfold StatementType.parse at h
  split_ifs at h with h1 h2 h3 h4 <;> simp only [invalid, reduceCtorEq, Except.ok.injEq] at h <;>
    subst h <;> simp_all [StatementType.tag]

theorem StatementType.parse_error {tag : String} {e : Error} (h : StatementType.parse tag = .error e) :
    ∃ m, e = .validation m := by
  unfold StatementType.parse at h
  split_ifs at h
  simp only [invalid, Except.error.injEq] at h
  exact ⟨_, h.symm⟩

theorem StatementType.parse_tag_self (ty : StatementType) : StatementType.parse ty.tag = .ok ty := by
  cases ty <;> rfl

/-- A statement's document reads back as the statement, when its integers are below `2^63`
and its doubles are finite. -/
theorem Statement.decode_encode (s : Statement) (hfit : Every IntFits s.document)
    (hfin : Every FloatFinite s.document) : Statement.decode s.encode = .ok s := by
  rw [Statement.encode, storeFloats_eq_self _ hfin]
  have hnd := (Statement.every_distinctKeys s).1
  -- the reader drops the tag by moving the last member to the front
  have hagree := member?_removeKey_head "statementType" (.str s.type.tag) s.members hnd
  have hbudget : depth (.obj s.members) ≤
      decodeBudget (.obj (removeKey (("statementType", .str s.type.tag) :: s.members) "statementType")) := by
    have := depth_le_of_member? hnd hagree
    simp only [decodeBudget]
    omega
  have hfit' : Every IntFits (.obj s.members) := ⟨trivial, hfit.2.2⟩
  cases s with
  | select s =>
    have h := (Select.membersWriteBack s).2 _ hagree _ hfit' hbudget
    simp only [Statement.type, Statement.members_select] at h
    simp [Statement.decode, Statement.document, Statement.members_select, StatementType.parse_tag_self, h,
      Statement.type, Except.map, Except.mapError]
  | insert i =>
    have h := (Insert.membersWriteBack i).2 _ hagree _ hfit' hbudget
    simp only [Statement.type, Statement.members] at h
    simp [Statement.decode, Statement.document, Statement.members, StatementType.parse_tag_self, h,
      Statement.type, Except.map, Except.mapError]
  | update u =>
    have h := (Update.membersWriteBack u).2 _ hagree _ hfit' hbudget
    simp only [Statement.type, Statement.members] at h
    simp [Statement.decode, Statement.document, Statement.members, StatementType.parse_tag_self, h,
      Statement.type, Except.map, Except.mapError]
  | delete d =>
    have h := (Delete.membersWriteBack d).2 _ hagree _ hfit' hbudget
    simp only [Statement.type, Statement.members] at h
    simp [Statement.decode, Statement.document, Statement.members, StatementType.parse_tag_self, h,
      Statement.type, Except.map, Except.mapError]

/-- Reading dispatches on the tag alone: what it reads is an object tagged with the kind of
statement it gave. -/
theorem Statement.decode_eq_ok {d : Json} {s : Statement} (h : Statement.decode d = .ok s) :
    ∃ ms, d = .obj ms ∧ member? ms "statementType" = some (.str s.type.tag) := by
  unfold Statement.decode at h
  split at h
  · next ms =>
    split at h
    · next tag htag =>
      obtain ⟨ty, hty, hrest⟩ := Result.bind_eq_ok.mp h
      refine ⟨ms, rfl, ?_⟩
      have htype : s.type = ty := by
        cases ty <;> simp only [Result.mapError_eq_ok] at hrest <;>
          obtain ⟨x, -, rfl⟩ := Result.map_eq_ok.mp hrest <;> rfl
      rw [htag, htype, StatementType.parse_tag hty]
    · simp [invalid] at h
  · simp [invalid] at h

/-- A document that is not an object, or has no string tag naming a kind of statement, is
refused as invalid. -/
theorem Statement.decode_untagged {d : Json}
    (h : ¬ ∃ ms ty, d = .obj ms ∧ member? ms "statementType" = some (.str (StatementType.tag ty))) :
    ∃ msg, Statement.decode d = .error (.validation msg) := by
  cases d with
  | obj ms =>
    cases hm : member? ms "statementType" with
    | none => exact ⟨_, by simp only [Statement.decode, hm]; rfl⟩
    | some j =>
      cases j with
      | str tag =>
        cases hp : StatementType.parse tag with
        | error e =>
          obtain ⟨m, rfl⟩ := StatementType.parse_error hp
          exact ⟨m, by simp [Statement.decode, hm, hp]; rfl⟩
        | ok ty => exact absurd ⟨ms, ty, rfl, by rw [hm, StatementType.parse_tag hp]⟩ h
      | _ => exact ⟨_, by simp only [Statement.decode, hm]; rfl⟩
  | _ => exact ⟨_, rfl⟩

/-- A select copied through its document is the same select, when its integers are below
`2^63` and its doubles are finite. -/
theorem Select.deepClone_eq (s : Select) (hfit : Every IntFits s.toJson) (hfin : Every FloatFinite s.toJson) :
    s.deepClone = .ok s := by
  rw [Select.deepClone, storeFloats_eq_self _ hfin, Select.toJson_eq]
  rw [Select.toJson_eq] at hfit
  have h := (Select.membersWriteBack s).2 s.members (fun _ => rfl) (decodeBudget (.obj s.members)) hfit
    (by simp only [decodeBudget]; omega)
  rw [h]
  rfl

/-! ### Through text -/

namespace Json

/-- A number node that survives a document: an integer in the signed 64-bit range, or a
double that reads back from its text. -/
def NumberFits : Json → Prop
  | .int i => -9223372036854775808 ≤ i ∧ i < 9223372036854775808
  | .float f => parse (floatText f) = .ok (.float f)
  | _ => True

theorem faithful_of_numberFits : ∀ (j : Json), NumberFits j → DistinctKeys j → Faithful j
  | .int _, ⟨hlo, hhi⟩, _ => ⟨hlo, by omega⟩
  | .float _, h, _ => h
  | .obj _, _, h => h
  | .null, _, _ | .bool _, _, _ | .str _, _, _ | .arr _, _, _ => trivial

theorem intFits_of_numberFits : ∀ (j : Json), NumberFits j → IntFits j
  | .int _, ⟨_, h⟩ => h
  | .null, _ | .bool _, _ | .float _, _ | .str _, _ | .arr _, _ | .obj _, _ => trivial

/-- A double that reads back from its text is finite: the others are written `null`. -/
theorem floatFinite_of_numberFits : ∀ (j : Json), NumberFits j → FloatFinite j
  | .float f, h => by
    cases hf : (f.isNaN || f.isInf) with
    | false => exact hf
    | true =>
      have hnull : parse (floatText f) = .ok .null := by
        rw [floatText, hf, if_pos rfl]
        exact parse_render (j := .null) trivial (by decide)
      exact absurd (hnull.symm.trans h) (by simp)
  | .null, _ | .bool _, _ | .int _, _ | .str _, _ | .arr _, _ | .obj _, _ => trivial

end Json

/-- A statement reads back from its text while its document nests at most 127 deep, and is
refused as malformed from 128 on: its integers are 64-bit and its doubles read back from their
text. -/
theorem Statement.fromJsonText_toJsonText (s : Statement) (hfit : Every NumberFits s.document) :
    (depth s.document < 128 → Statement.fromJsonText s.toJsonText = .ok s) ∧
    (128 ≤ depth s.document → ∃ msg, Statement.fromJsonText s.toJsonText = .error (.validation msg)) := by
  have hread : Readable s.document :=
    Every.imp₂ faithful_of_numberFits _ hfit (Statement.every_distinctKeys_document s)
  have hint : Every IntFits s.document :=
    Every.imp₂ (fun j h _ => intFits_of_numberFits j h) _ hfit hfit
  have hfin : Every FloatFinite s.document :=
    Every.imp₂ (fun j h _ => floatFinite_of_numberFits j h) _ hfit hfit
  have htext : s.toJsonText = render s.document := by
    rw [Statement.toJsonText, Statement.encode, storeFloats_eq_self _ hfin]
  have hdecode : Statement.decode s.document = .ok s := by
    rw [← storeFloats_eq_self _ hfin]
    exact Statement.decode_encode s hint hfin
  constructor
  · intro hd
    simp [Statement.fromJsonText, htext, parse_render hread hd, hdecode]
  · intro hd
    obtain ⟨e, he⟩ := parse_render_error hread hd
    exact ⟨_, by simp only [Statement.fromJsonText, htext, he]; rfl⟩

/-- A statement's document: tagged with the statement's kind, read back as the statement when
its doubles are finite, and read back from its text up to the parser's nesting limit; reading
dispatches on the tag alone, and a select copies through its document. -/
theorem statement_document_round_trip (s : Statement) (hfit : Every IntFits s.document)
    (hfin : Every FloatFinite s.document) :
    (∃ ms, s.encode = .obj ms ∧ member? ms "statementType" = some (.str s.type.tag)) ∧
    Statement.decode s.encode = .ok s ∧
    (∀ v : Select, Every IntFits v.toJson → Every FloatFinite v.toJson → v.deepClone = .ok v) ∧
    (∀ d t, Statement.decode d = .ok t →
      ∃ ms, d = .obj ms ∧ member? ms "statementType" = some (.str t.type.tag)) ∧
    (∀ d, (¬ ∃ ms ty, d = .obj ms ∧ member? ms "statementType" = some (.str (StatementType.tag ty))) →
      ∃ msg, Statement.decode d = .error (.validation msg)) ∧
    (Every NumberFits s.document →
      (depth s.document < 128 → Statement.fromJsonText s.toJsonText = .ok s) ∧
      (128 ≤ depth s.document → ∃ msg, Statement.fromJsonText s.toJsonText = .error (.validation msg))) :=
  ⟨⟨("statementType", .str s.type.tag) :: storeFields s.members, rfl, by simp⟩,
    Statement.decode_encode s hfit hfin,
    Select.deepClone_eq, fun _ _ h => Statement.decode_eq_ok h, fun _ h => Statement.decode_untagged h,
    Statement.fromJsonText_toJsonText s⟩

/-- Deleting the row of `canvas` whose `id` is 5. -/
def deleteById : Statement :=
  .delete ⟨⟨"canvas", none, false⟩, [⟨"id", .integer 5, .equalTo, .and, false⟩]⟩

theorem delete_by_id_round_trip :
    Every IntFits deleteById.document ∧ Every FloatFinite deleteById.document ∧
      Statement.decode deleteById.encode = .ok deleteById ∧
      Statement.fromJsonText deleteById.toJsonText = .ok deleteById := by
  have hnum : Every NumberFits deleteById.document := by
    simp [deleteById, Statement.document, Statement.members, Delete.members, memberIf, Every,
      FieldsEvery, ItemsEvery, NumberFits, Table.toJson, Expression.listToJson, Expression.toJson,
      Value.isNull, Value.toJson]
  have hfit : Every IntFits deleteById.document :=
    Every.imp₂ (fun j h _ => intFits_of_numberFits j h) _ hnum hnum
  have hfin : Every FloatFinite deleteById.document :=
    Every.imp₂ (fun j h _ => floatFinite_of_numberFits j h) _ hnum hnum
  obtain ⟨-, hdec, -, -, -, htext⟩ := statement_document_round_trip deleteById hfit hfin
  exact ⟨hfit, hfin, hdec, (htext hnum).1 (by decide)⟩

/-- A filter nesting `k` empty groups, one inside the other. -/
def nestedFilter : Nat → Filter
  | 0 => ⟨[], [], .and⟩
  | k + 1 => ⟨[], [nestedFilter k], .and⟩

/-- A select whose filter nests `k` groups deep. -/
def deepSelect (k : Nat) : Statement :=
  .select ⟨[], none, [], [], some (nestedFilter k), [], none, [], []⟩

/-- Each group adds an object and the array of its subgroups. -/
theorem depth_nestedFilter : ∀ k, depth (Filter.toJson (nestedFilter k)) = 2 * k + 1
  | 0 => rfl
  | k + 1 => by
    simp [nestedFilter, Filter.toJson, Filter.listToJson, memberIf, depth, fieldsDepth, itemsDepth,
      depth_nestedFilter k]
    omega

theorem every_numberFits_nestedFilter : ∀ k, Every NumberFits (Filter.toJson (nestedFilter k))
  | 0 => by simp [nestedFilter, Filter.toJson, memberIf, Every, FieldsEvery, NumberFits]
  | k + 1 => by
    simp [nestedFilter, Filter.toJson, Filter.listToJson, memberIf, Every, FieldsEvery, ItemsEvery,
      NumberFits, every_numberFits_nestedFilter k]

theorem depth_deepSelect (k : Nat) : depth (deepSelect k).document = 2 * k + 2 := by
  simp [deepSelect, Statement.document, Statement.members, Select.toJson, Source.optMember,
    Filter.optMember, memberIf, depth, fieldsDepth, depth_nestedFilter]

/-- A select nesting `k` groups reads back from its text exactly when `k < 63`. -/
theorem Statement.fromJsonText_deepSelect (k : Nat) :
    Statement.fromJsonText (deepSelect k).toJsonText = .ok (deepSelect k) ↔ k < 63 := by
  have hnum : Every NumberFits (deepSelect k).document := by
    simp [deepSelect, Statement.document, Statement.members, Select.toJson, Source.optMember,
      Filter.optMember, memberIf, Every, FieldsEvery, NumberFits, every_numberFits_nestedFilter]
  have htext := Statement.fromJsonText_toJsonText _ hnum
  rw [depth_deepSelect] at htext
  constructor
  · intro hok
    by_contra hk
    obtain ⟨msg, herr⟩ := htext.2 (by omega)
    rw [hok] at herr
    exact absurd herr (by simp)
  · intro hk
    exact htext.1 (by omega)

theorem deep_select_text_refused :
    depth (deepSelect 63).document = 128 ∧
      Statement.fromJsonText (deepSelect 63).toJsonText ≠ .ok (deepSelect 63) :=
  ⟨depth_deepSelect 63, fun h => absurd ((Statement.fromJsonText_deepSelect 63).mp h) (by decide)⟩

end QueryDoc
