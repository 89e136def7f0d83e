import QueryDoc.Proofs.JsonNumbers

/-!
Written JSON reads back.

`parse (render j)` gives `j` back exactly when `j` writes faithfully and its containers nest
within the reader's budget of 128: its integers are in the reader's 64-bit range, its doubles
read back from their text, and no object repeats a key, which the reader merges into its first
place. Scalars are read by the number and string modules' lemmas; arrays and objects go through
the item and member loops, which take each item's reading as a hypothesis, so one mutual
induction over the value closes the circle. What a reading leaves is stated up to blanks, since
a double is known to read back only through `parse`, which passes over trailing blanks.
-/

namespace QueryDoc.Json

/-! ### Skipping blanks -/

theorem skipBlanks_skip : ∀ (rest : List UInt8) (l k : Nat),
    (skipBlanks rest l k).skip = skipBlanks rest l k
  | [], _, _ => rfl
  | b :: bs, l, k => by
    simp only [skipBlanks]
    split_ifs with h1 h2
    · exact skipBlanks_skip bs _ _
    · exact skipBlanks_skip bs _ _
    · simp [Cursor.skip, skipBlanks, h1, h2]

namespace Cursor

theorem skip_skip (c : Cursor) : c.skip.skip = c.skip := skipBlanks_skip _ _ _

/-- Past blanks, the skip lands on the first other byte. -/
theorem skip_rest {c : Cursor} {w bs : List UInt8} {b : UInt8} (hw : ∀ x ∈ w, IsBlank x)
    (hb : ¬ IsBlank b) (h : c.rest = w ++ b :: bs) : c.skip.rest = b :: bs := by
  obtain ⟨l, k, hs⟩ := skipBlanks_append hw (b :: bs) c.line c.column
  rw [skip, h, hs, skipBlanks_of_not_blank hb]

theorem skip_of_head {c : Cursor} {b : UInt8} {bs : List UInt8} (hb : ¬ IsBlank b)
    (h : c.rest = b :: bs) : c.skip = c := by
  cases c
  simp_all [skip, skipBlanks_of_not_blank hb]

/-- Blanks to the end skip to the end. -/
theorem skip_blanks {c : Cursor} (hw : ∀ x ∈ c.rest, IsBlank x) : c.skip.rest = [] := by
  obtain ⟨l, k, hs⟩ := skipBlanks_append hw [] c.line c.column
  rw [skip, ← List.append_nil c.rest, hs]
  rfl

end Cursor

/-! ### The first byte decides

A value's reading skips blanks and then dispatches on one byte; each lemma below says where a
known byte sends it. -/

section Dispatch

variable {fuel budget : Nat} {c : Cursor} {rest : List UInt8}

-- Stated once so that the lemmas below rewrite with it rather than each unfolding the
-- reader on its own.
theorem readValue_unfold (fuel budget : Nat) (c : Cursor) :
    readValue fuel budget c =
      match c.skip.peek? with
      | none => .error (c.skip.failAhead .eofValue)
      | some b =>
        if b == 110 then (readIdent [117, 108, 108] c.skip.advance).map (fun d => (.null, d))
        else if b == 116 then (readIdent [114, 117, 101] c.skip.advance).map (fun d => (.bool true, d))
        else if b == 102 then
          (readIdent [97, 108, 115, 101] c.skip.advance).map (fun d => (.bool false, d))
        else if b == 45 then readNumber fuel false c.skip.advance
        else if isDigit b then readNumber fuel true c.skip
        else if b == 34 then readStringBody fuel [] c.skip.advance |>.map (fun (s, d) => (.str s, d))
        else if b == 91 then
          match budget with
          | 0 | 1 => .error (c.skip.failAhead .recursionLimit)
          | d + 2 =>
            match readItems (readValue fuel (d + 1)) fuel true [] c.skip.advance with
            | .ok (xs, e) => .ok (.arr xs, e.advance)
            | .error err => .error err
        else if b == 123 then
          match budget with
          | 0 | 1 => .error (c.skip.failAhead .recursionLimit)
          | d + 2 =>
            match readMembers (readValue fuel (d + 1)) fuel true [] c.skip.advance with
            | .ok (fs, e) => .ok (.obj fs, e.advance)
            | .error err => .error err
        else .error (c.skip.failAhead .expectedValue) :=
  readValue.eq_def fuel budget c

theorem readValue_skip : readValue fuel budget c.skip = readValue fuel budget c := by
  rw [readValue_unfold, readValue_unfold, Cursor.skip_skip]

theorem readValue_of_minus (h : c.skip.rest = 45 :: rest) :
    readValue fuel budget c = readNumber fuel false c.skip.advance := by
  rw [readValue_unfold]
  simp [h]

theorem readValue_of_digit {b : UInt8} (h : c.skip.rest = b :: rest) (hb : isDigit b = true) :
    readValue fuel budget c = readNumber fuel true c.skip := by
  have hne : ∀ x : UInt8, isDigit x = false → b ≠ x := by
    rintro x hx rfl
    rw [hb] at hx
    cases hx
  rw [readValue_unfold]
  simp [h, hb, hne 110 (by decide), hne 116 (by decide), hne 102 (by decide),
    hne 45 (by decide)]

theorem readValue_of_quote {s : String} {d : Cursor} (h : c.skip.rest = 34 :: rest)
    (hs : readStringBody fuel [] c.skip.advance = .ok (s, d)) :
    readValue fuel budget c = .ok (.str s, d) := by
  rw [readValue_unfold]
  simp [h, hs, Except.map, (by decide : isDigit 34 = false)]

/-- `null`, `true` and `false` are told apart by their first letter. -/
theorem readValue_of_ident {b : UInt8} {es : List UInt8} {j : Json} {d : Cursor}
    (hj : (b, es, j) = (110, [117, 108, 108], .null) ∨ (b, es, j) = (116, [114, 117, 101], .bool true) ∨
      (b, es, j) = (102, [97, 108, 115, 101], .bool false))
    (h : c.skip.rest = b :: rest) (hi : readIdent es c.skip.advance = .ok d) :
    readValue fuel budget c = .ok (j, d) := by
  rcases hj with hj | hj | hj <;> simp only [Prod.mk.injEq] at hj <;>
    obtain ⟨rfl, rfl, rfl⟩ := hj <;> rw [readValue_unfold] <;> simp [h, hi, Except.map]

theorem readValue_of_bracket {xs : List Json} {e : Cursor} (d : Nat) (h : c.skip.rest = 91 :: rest)
    (hi : readItems (readValue fuel (d + 1)) fuel true [] c.skip.advance = .ok (xs, e)) :
    readValue fuel (d + 2) c = .ok (.arr xs, e.advance) := by
  rw [readValue_unfold]
  simp [h, hi, (by decide : isDigit 91 = false)]

theorem readValue_of_bracket_error {err : SyntaxError} (d : Nat) (h : c.skip.rest = 91 :: rest)
    (hi : readItems (readValue fuel (d + 1)) fuel true [] c.skip.advance = .error err) :
    readValue fuel (d + 2) c = .error err := by
  rw [readValue_unfold]
  simp [h, hi, (by decide : isDigit 91 = false)]

theorem readValue_of_brace {fs : List (String × Json)} {e : Cursor} (d : Nat)
    (h : c.skip.rest = 123 :: rest)
    (hi : readMembers (readValue fuel (d + 1)) fuel true [] c.skip.advance = .ok (fs, e)) :
    readValue fuel (d + 2) c = .ok (.obj fs, e.advance) := by
  rw [readValue_unfold]
  simp [h, hi, (by decide : isDigit 123 = false)]

theorem readValue_of_brace_error {err : SyntaxError} (d : Nat) (h : c.skip.rest = 123 :: rest)
    (hi : readMembers (readValue fuel (d + 1)) fuel true [] c.skip.advance = .error err) :
    readValue fuel (d + 2) c = .error err := by
  rw [readValue_unfold]
  simp [h, hi, (by decide : isDigit 123 = false)]

/-- With a budget of one, no container opens. -/
theorem readValue_container_one {b : UInt8} (hb : b = 91 ∨ b = 123) (h : c.skip.rest = b :: rest) :
    ∃ e, readValue fuel 1 c = .error e := by
  rcases hb with rfl | rfl <;> rw [readValue_unfold] <;>
    simp [h, (by decide : isDigit 91 = false), (by decide : isDigit 123 = false)]

end Dispatch

/-! ### Scalars -/

/-- The bytes of a blank are none of the bytes that open a value. -/
theorem not_blank_of_digit {b : UInt8} (hb : isDigit b = true) : ¬ IsBlank b := by
  rintro (rfl | rfl | rfl | rfl) <;> exact absurd hb (by decide)

theorem readIdent_bytes : ∀ (es : List UInt8) (c : Cursor) (tail : List UInt8), c.rest = es ++ tail →
    ∃ d : Cursor, d.rest = tail ∧ readIdent es c = .ok d
  | [], c, _, h => ⟨c, h, rfl⟩
  | e :: es, c, tail, h => by
    obtain ⟨d, hd, hrun⟩ := readIdent_bytes es c.advance tail (Cursor.advance_rest h)
    exact ⟨d, hd, by simp [readIdent, Cursor.next?_of_rest h, hrun]⟩

/-- What a reader makes of a value's text before `tail`: the value, with at most blanks left
before `tail`. -/
def ReadsAt (run : Cursor → Step Json) (j : Json) (c : Cursor) (tail : List UInt8) : Prop :=
  ∃ (d : Cursor) (w : List UInt8), (∀ b ∈ w, IsBlank b) ∧ d.rest = w ++ tail ∧ run c = .ok (j, d)

section Scalars

variable {fuel budget : Nat} {c : Cursor} {tail : List UInt8}

theorem readValue_ident {b : UInt8} {es : List UInt8} {j : Json}
    (hj : (b, es, j) = (110, [117, 108, 108], .null) ∨ (b, es, j) = (116, [114, 117, 101], .bool true) ∨
      (b, es, j) = (102, [97, 108, 115, 101], .bool false))
    (hc : c.rest = b :: es ++ tail) : ReadsAt (readValue fuel budget) j c tail := by
  have hb : ¬ IsBlank b := by
    rcases hj with hj | hj | hj <;> simp only [Prod.mk.injEq] at hj <;> rw [hj.1] <;> decide
  have hskip := Cursor.skip_of_head hb hc
  obtain ⟨d, hd, hi⟩ := readIdent_bytes es c.advance tail (Cursor.advance_rest hc)
  have hs : c.skip.rest = b :: (es ++ tail) := by rw [hskip, hc, List.cons_append]
  exact ⟨d, [], by simp, by simpa using hd, readValue_of_ident hj hs (by rw [hskip]; exact hi)⟩

theorem utf8_repr_head (m : Nat) : ∃ b bs, utf8 (Nat.repr m) = b :: bs ∧ isDigit b = true := by
  rw [utf8_repr]
  cases h : Nat.toDigits 10 m with
  | nil => exact absurd h Nat.toDigits_ne_nil
  | cons ch ds =>
    have hmem : ch ∈ Nat.toDigits 10 m := by
      rw [h]
      exact List.mem_cons_self
    have hch : ch.isDigit := Nat.isDigit_of_mem_toDigits (by decide) (by decide) hmem
    exact ⟨digitByte ch, ds.map digitByte, rfl, (digitByte_of_isDigit hch).1⟩

theorem readValue_int {i : Int} (hlo : -9223372036854775808 ≤ i)
    (hhi : i ≤ 18446744073709551615) (hc : c.rest = utf8 (toString i) ++ tail)
    (hend : NumberEnds tail) (hf : (utf8 (toString i)).length < fuel) :
    ReadsAt (readValue fuel budget) (.int i) c tail := by
  cases i with
  | ofNat m =>
    change c.rest = utf8 (Nat.repr m) ++ tail at hc
    obtain ⟨b, bs, hm, hb⟩ := utf8_repr_head m
    have hc' : c.rest = b :: (bs ++ tail) := by rw [hc, hm, List.cons_append]
    have hskip := Cursor.skip_of_head (not_blank_of_digit hb) hc'
    simp only [Int.ofNat_eq_natCast] at hhi
    obtain ⟨d, k, hd, hrun⟩ := readNumber_repr true (m := m) (by omega) fuel c tail hc hend hf
    refine ⟨d, [], by simp, by simpa using hd, ?_⟩
    rw [readValue_of_digit (by rw [hskip]; exact hc') hb, hskip, hrun, afterInteger_positive (hd ▸ hend)]
    rfl
  | negSucc m =>
    have htext : utf8 (toString (Int.negSucc m)) = 45 :: utf8 (Nat.repr (m + 1)) := by
      change utf8 ("-" ++ Nat.repr (m + 1)) = _
      rw [utf8_append]
      rfl
    rw [htext, List.cons_append] at hc
    have hskip := Cursor.skip_of_head (by decide) hc
    have hm : m + 1 ≤ Nat.pow 2 63 := by
      have h63 : Nat.pow 2 63 = 9223372036854775808 := rfl
      rw [Int.negSucc_eq] at hlo
      omega
    obtain ⟨d, k, hd, hrun⟩ := readNumber_repr false (m := m + 1) (by omega) fuel c.advance tail
      (Cursor.advance_rest hc) hend (by rw [htext] at hf; simp at hf; omega)
    refine ⟨d, [], by simp, by simpa using hd, ?_⟩
    rw [readValue_of_minus (by rw [hskip]; exact hc), hskip, hrun,
      afterInteger_negative (hd ▸ hend) k (by omega) hm, Int.negSucc_eq]
    push_cast
    rfl

theorem readValue_str (s : String) (hc : c.rest = utf8 (quote s) ++ tail)
    (hf : (utf8 (quote s)).length < fuel) : ReadsAt (readValue fuel budget) (.str s) c tail := by
  rw [utf8_quote] at hc hf
  simp only [List.cons_append, List.append_assoc] at hc
  have hskip := Cursor.skip_of_head (by decide) hc
  obtain ⟨d, hd, hs⟩ := readStringBody_quote s fuel c.advance tail (Cursor.advance_rest hc)
    (by simp at hf; omega)
  exact ⟨d, [], by simp, by simpa using hd,
    readValue_of_quote (by rw [hskip]; exact hc) (by rw [hskip]; exact hs)⟩

/-- A text that parses was read by one value reading, with only blanks after it. -/
theorem parse_eq_ok {t : String} {v : Json} (h : parse t = .ok v) :
    ∃ d : Cursor, readValue ((utf8 t).length + 2) 128 (Cursor.start t) = .ok (v, d) ∧
      d.skip.rest = [] := by
  simp only [parse, start_rest] at h
  split at h
  · cases h
  · next v' d hrun =>
    split at h
    · cases h
    · next hnone =>
      cases h
      exact ⟨d, hrun, List.head?_eq_none_iff.mp hnone⟩

/-- A double's text that parses starts, past blanks, with a minus sign or a digit, and the
reading from there stops at blanks. -/
theorem parse_float_lead {t : String} {f : Float} (h : parse t = .ok (.float f)) :
    ∃ (d0 : Cursor) (b : UInt8) (r : List UInt8), (skipBlanks (utf8 t) 1 0).rest = b :: r ∧
      (∀ x ∈ d0.rest, IsBlank x) ∧
      ((b = 45 ∧ readNumber ((utf8 t).length + 2) false (Cursor.start t).skip.advance =
          .ok (.float f, d0)) ∨
        (b ≠ 45 ∧ isDigit b = true ∧
          readNumber ((utf8 t).length + 2) true (Cursor.start t).skip = .ok (.float f, d0))) := by
  obtain ⟨d0, hrun, hend⟩ := parse_eq_ok h
  have hw := skipBlanks_eq_nil d0.rest d0.line d0.column hend
  have hs : (Cursor.start t).skip.rest = (skipBlanks (utf8 t) 1 0).rest := by
    rw [Cursor.skip, start_rest]
    rfl
  rcases readValue_eq_float hrun with ⟨h45, hnum⟩ | ⟨b, hb, h45, hdig, hnum⟩
  · rw [hs] at h45
    obtain ⟨r, hr⟩ : ∃ r, (skipBlanks (utf8 t) 1 0).rest = 45 :: r := by
      cases hq : (skipBlanks (utf8 t) 1 0).rest <;> simp_all
    exact ⟨d0, 45, r, hr, hw, .inl ⟨rfl, hnum⟩⟩
  · rw [hs] at hb
    obtain ⟨r, hr⟩ : ∃ r, (skipBlanks (utf8 t) 1 0).rest = b :: r := by
      cases hq : (skipBlanks (utf8 t) 1 0).rest <;> simp_all
    exact ⟨d0, b, r, hr, hw, .inr ⟨h45, hdig, hnum⟩⟩

/-- A double that reads back alone reads back before any `tail` that ends a number. -/
theorem readValue_float {f : Float} (hf : parse (floatText f) = .ok (.float f))
    (hc : c.rest = utf8 (floatText f) ++ tail) (hend : NumberEnds tail)
    (hfuel : (utf8 (floatText f)).length + 2 ≤ fuel) :
    ReadsAt (readValue fuel budget) (.float f) c tail := by
  obtain ⟨d0, b, r, hr, hw, hnum⟩ := parse_float_lead hf
  have hs0 : (Cursor.start (floatText f)).skip.rest = b :: r := by
    rw [Cursor.skip, start_rest]
    exact hr
  have hs : c.skip.rest = b :: (r ++ tail) := by
    rw [Cursor.skip, hc, skipBlanks_append_rest _ _ 1 0 _ _ (by simp [hr]), hr, List.cons_append]
  have hend' := numberEnds_blanks hw hend
  rcases hnum with ⟨rfl, hrun⟩ | ⟨h45, hdig, hrun⟩
  · obtain ⟨d, hd, hrun'⟩ := readNumber_local false _ fuel _ c.skip.advance _ d0 tail hrun hend
      hend' hfuel (by rw [Cursor.advance_rest hs, Cursor.advance_rest hs0])
    exact ⟨d, d0.rest, hw, hd, by rw [readValue_of_minus hs]; exact hrun'⟩
  · obtain ⟨d, hd, hrun'⟩ := readNumber_local true _ fuel _ c.skip _ d0 tail hrun hend
      hend' hfuel (by rw [hs, hs0, List.cons_append])
    exact ⟨d, d0.rest, hw, hd, by rw [readValue_of_digit hs hdig]; exact hrun'⟩

end Scalars

/-! ### Properties at every node -/

mutual
/-- `p` holds at every node of a value. -/
def Every (p : Json → Prop) : Json → Prop
  | .arr items => p (.arr items) ∧ ItemsEvery p items
  | .obj fields => p (.obj fields) ∧ FieldsEvery p fields
  | j => p j

/-- `p` holds at every node of some items. -/
def ItemsEvery (p : Json → Prop) : List Json → Prop
  | [] => True
  | j :: rest => Every p j ∧ ItemsEvery p rest

/-- `p` holds at every node of some member values. -/
def FieldsEvery (p : Json → Prop) : List (String × Json) → Prop
  | [] => True
  | (_, j) :: rest => Every p j ∧ FieldsEvery p rest
end

mutual
/-- Two properties at every node give their consequence at every node. -/
theorem Every.imp₂ {p q r : Json → Prop} (h : ∀ j, p j → q j → r j) :
    ∀ (j : Json), Every p j → Every q j → Every r j
  | .arr xs, ⟨hp, hps⟩, ⟨hq, hqs⟩ => ⟨h _ hp hq, ItemsEvery.imp₂ h xs hps hqs⟩
  | .obj fs, ⟨hp, hps⟩, ⟨hq, hqs⟩ => ⟨h _ hp hq, FieldsEvery.imp₂ h fs hps hqs⟩
  | .null, hp, hq => h _ hp hq
  | .bool _, hp, hq => h _ hp hq
  | .int _, hp, hq => h _ hp hq
  | .float _, hp, hq => h _ hp hq
  | .str _, hp, hq => h _ hp hq

theorem ItemsEvery.imp₂ {p q r : Json → Prop} (h : ∀ j, p j → q j → r j) :
    ∀ (xs : List Json), ItemsEvery p xs → ItemsEvery q xs → ItemsEvery r xs
  | [], _, _ => trivial
  | x :: xs, ⟨hp, hps⟩, ⟨hq, hqs⟩ => ⟨Every.imp₂ h x hp hq, ItemsEvery.imp₂ h xs hps hqs⟩

theorem FieldsEvery.imp₂ {p q r : Json → Prop} (h : ∀ j, p j → q j → r j) :
    ∀ (fs : List (String × Json)), FieldsEvery p fs → FieldsEvery q fs → FieldsEvery r fs
  | [], _, _ => trivial
  | (_, v) :: fs, ⟨hp, hps⟩, ⟨hq, hqs⟩ => ⟨Every.imp₂ h v hp hq, FieldsEvery.imp₂ h fs hps hqs⟩
end

/-- What holds at every node holds at the root. -/
theorem every_self {p : Json → Prop} : ∀ {j : Json}, Every p j → p j
  | .arr _, h => h.1
  | .obj _, h => h.1
  | .null, h => h
  | .bool _, h => h
  | .int _, h => h
  | .float _, h => h
  | .str _, h => h

theorem itemsEvery_iff {p : Json → Prop} : ∀ {xs : List Json}, ItemsEvery p xs ↔ ∀ x ∈ xs, Every p x
  | [] => by simp [ItemsEvery]
  | x :: xs => by simp [ItemsEvery, itemsEvery_iff]

theorem fieldsEvery_iff {p : Json → Prop} :
    ∀ {fs : List (String × Json)}, FieldsEvery p fs ↔ ∀ q ∈ fs, Every p q.2
  | [] => by simp [FieldsEvery]
  | (_, v) :: fs => by simp [FieldsEvery, fieldsEvery_iff]

/-! ### Values that write faithfully -/

/-- A node that writes faithfully: an integer in the reader's range, a double that reads back
from its text, an object with no repeated key. -/
def Faithful : Json → Prop
  | .int i => -9223372036854775808 ≤ i ∧ i ≤ 18446744073709551615
  | .float f => parse (floatText f) = .ok (.float f)
  | .obj fields => (fields.map Prod.fst).Nodup
  | _ => True

/-- A value whose text reads back as itself, nesting apart. -/
abbrev Readable (j : Json) : Prop := Every Faithful j

/-- What a reader makes of a value's text before a `tail` that ends a number: the value when
`ok` holds, and a failure when it does not. -/
def ReadsBack (run : Cursor → Step Json) (j : Json) (ok : Prop) : Prop :=
  ∀ (c : Cursor) (tail : List UInt8), c.rest = utf8 (render j) ++ tail → NumberEnds tail →
    (ok → ReadsAt run j c tail) ∧ (¬ ok → ∃ e, run c = .error e)

/-- After any blanks, a value's text starts with a byte that cannot close an array. -/
def OpensValue (j : Json) : Prop :=
  ∀ (tail : List UInt8) (l k : Nat),
    ∃ b, (skipBlanks (utf8 (render j) ++ tail) l k).rest.head? = some b ∧ b ≠ 93

theorem opensValue_of_head {j : Json} {b : UInt8} {bs : List UInt8} (h : utf8 (render j) = b :: bs)
    (hb : ¬ IsBlank b) (h93 : b ≠ 93) : OpensValue j := by
  intro tail l k
  refine ⟨b, ?_, h93⟩
  rw [h, List.cons_append, skipBlanks_of_not_blank hb]
  rfl

theorem utf8_render_arr (xs : List Json) :
    utf8 (render (.arr xs)) = 91 :: utf8 (renderItems xs) ++ [93] := by
  have hl : utf8 "[" = [91] := by decide
  have hr : utf8 "]" = [93] := by decide
  simp [render, hl, hr]

theorem utf8_render_obj (fs : List (String × Json)) :
    utf8 (render (.obj fs)) = 123 :: utf8 (renderFields fs) ++ [125] := by
  have hl : utf8 "\x7b" = [123] := by decide
  have hr : utf8 "\x7d" = [125] := by decide
  simp [render, hl, hr]

theorem opensValue_of_readable : ∀ {j : Json}, Faithful j → OpensValue j
  | .null, _ => opensValue_of_head (show utf8 (render .null) = 110 :: [117, 108, 108] by decide)
      (by decide) (by decide)
  | .bool true, _ =>
    opensValue_of_head (show utf8 (render (.bool true)) = 116 :: [114, 117, 101] by decide)
      (by decide) (by decide)
  | .bool false, _ =>
    opensValue_of_head (show utf8 (render (.bool false)) = 102 :: [97, 108, 115, 101] by decide)
      (by decide) (by decide)
  | .int (.ofNat m), _ => by
    obtain ⟨b, bs, hm, hb⟩ := utf8_repr_head m
    refine opensValue_of_head hm (not_blank_of_digit hb) ?_
    rintro rfl
    exact absurd hb (by decide)
  | .int (.negSucc m), _ => by
    have htext : utf8 (render (.int (.negSucc m))) = 45 :: utf8 (Nat.repr (m + 1)) := by
      change utf8 ("-" ++ Nat.repr (m + 1)) = _
      rw [utf8_append]
      rfl
    exact opensValue_of_head htext (by decide) (by decide)
  | .float f, hf => by
    obtain ⟨d0, b, r, hr, -, hnum⟩ := parse_float_lead hf
    intro tail l k
    refine ⟨b, ?_, ?_⟩
    · rw [render, skipBlanks_append_rest _ _ 1 0 _ _ (by simp [hr]), hr]
      rfl
    · rcases hnum with ⟨rfl, -⟩ | ⟨-, hdig, -⟩
      · decide
      · rintro rfl
        exact absurd hdig (by decide)
  | .str s, _ => opensValue_of_head (b := 34) (by rw [render, utf8_quote]; rfl) (by decide) (by decide)
  | .arr xs, _ => opensValue_of_head (utf8_render_arr xs) (by decide) (by decide)
  | .obj fs, _ => opensValue_of_head (utf8_render_obj fs) (by decide) (by decide)

/-! ### Depth -/

theorem itemsDepth_le_iff {n : Nat} : ∀ {xs : List Json}, itemsDepth xs ≤ n ↔ ∀ x ∈ xs, depth x ≤ n
  | [] => by simp [itemsDepth]
  | x :: xs => by simp [itemsDepth, itemsDepth_le_iff]

theorem fieldsDepth_le_iff {n : Nat} :
    ∀ {fs : List (String × Json)}, fieldsDepth fs ≤ n ↔ ∀ p ∈ fs, depth p.2 ≤ n
  | [] => by simp [fieldsDepth]
  | (_, j) :: fs => by simp [fieldsDepth, fieldsDepth_le_iff]

@[simp] theorem utf8_empty : utf8 "" = [] := by decide

/-! ### The item loop

The loop is read with the item reader left open: each item is only known to read back, or to
fail, as `ReadsBack` says. `good` says which items read back. -/

/-- The text of items after the first, each behind its comma. -/
def commaItems (xs : List Json) : String := String.join (xs.map fun x => "," ++ render x)

theorem utf8_commaItems_cons (x : Json) (xs : List Json) :
    utf8 (commaItems (x :: xs)) = 44 :: utf8 (render x) ++ utf8 (commaItems xs) := by
  have hc : utf8 "," = [44] := by decide
  simp [commaItems, utf8_join, hc]

theorem renderItems_cons : ∀ (x : Json) (xs : List Json),
    renderItems (x :: xs) = render x ++ commaItems xs
  | x, [] => by simp [renderItems, commaItems]
  | x, y :: ys => by
    rw [renderItems, renderItems_cons y ys]
    · simp [commaItems, String.append_assoc]
    · simp

theorem length_commaItems : ∀ (xs : List Json), xs.length ≤ (utf8 (commaItems xs)).length
  | [] => by simp
  | x :: xs => by
    have := length_commaItems xs
    simp only [utf8_commaItems_cons, List.length_cons, List.length_append]
    omega

theorem length_render_le_commaItems {x : Json} :
    ∀ {xs : List Json}, x ∈ xs → (utf8 (render x)).length < (utf8 (commaItems xs)).length
  | y :: ys, h => by
    simp only [utf8_commaItems_cons, List.length_cons, List.length_append]
    rcases List.mem_cons.mp h with rfl | h
    · omega
    · have := length_render_le_commaItems h
      omega

/-- Where a comma or a closing bracket follows, a number has ended. -/
theorem numberEnds_commaItems (xs : List Json) (tail : List UInt8) :
    NumberEnds (utf8 (commaItems xs) ++ 93 :: tail) := by
  cases xs with
  | nil => intro b hb; simp [commaItems] at hb; subst hb; decide
  | cons x xs => intro b hb; simp [utf8_commaItems_cons] at hb; subst hb; decide

section Items

variable (item : Cursor → Step Json) (good : Json → Prop) (hskip : ∀ c, item c.skip = item c)
include hskip

/-- After the first item, each item behind its comma is read until the closing bracket. -/
theorem readItems_more : ∀ (xs : List Json), (∀ x ∈ xs, ReadsBack item x (good x) ∧ OpensValue x) →
    ∀ (f : Nat) (acc : List Json) (c : Cursor) (w tail : List UInt8), (∀ b ∈ w, IsBlank b) →
    c.rest = w ++ (utf8 (commaItems xs) ++ 93 :: tail) → xs.length < f →
    ((∀ x ∈ xs, good x) → ∃ d : Cursor, d.rest = 93 :: tail ∧
        readItems item f false acc c = .ok (acc.reverse ++ xs, d)) ∧
      ((∃ x ∈ xs, ¬ good x) → ∃ e, readItems item f false acc c = .error e)
  | _, _, 0, _, _, _, _, _, _, hf => absurd hf (Nat.not_lt_zero _)
  | [], _, f + 1, acc, c, w, tail, hw, hc, _ => by
    have hs : c.skip.rest = 93 :: tail := Cursor.skip_rest hw (by decide) (by simpa [commaItems] using hc)
    refine ⟨fun _ => ⟨c.skip, hs, by simp [readItems, hs]⟩, ?_⟩
    rintro ⟨x, hx, -⟩
    simp at hx
  | x :: xs, hxs, f + 1, acc, c, w, tail, hw, hc, hf => by
    rw [List.forall_mem_cons] at hxs
    obtain ⟨⟨hx, hopen⟩, hxs⟩ := hxs
    have hs : c.skip.rest = 44 :: (utf8 (render x) ++ (utf8 (commaItems xs) ++ 93 :: tail)) :=
      Cursor.skip_rest hw (by decide) (by rw [hc, utf8_commaItems_cons]; simp)
    have ha := Cursor.advance_rest hs
    obtain ⟨b2, hb2, hb2ne⟩ := hopen (utf8 (commaItems xs) ++ 93 :: tail) c.skip.advance.line
      c.skip.advance.column
    have hc2 : c.skip.advance.skip.rest.head? = some b2 := by rw [Cursor.skip, ha]; exact hb2
    obtain ⟨hok, hbad⟩ := hx c.skip.advance _ ha (numberEnds_commaItems xs tail)
    have hrest := fun (d : Cursor) (w' : List UInt8) (hw' : ∀ b ∈ w', IsBlank b)
        (hd : d.rest = w' ++ (utf8 (commaItems xs) ++ 93 :: tail)) =>
      readItems_more xs hxs f (x :: acc) d w' tail hw' hd (by simpa using hf)
    refine ⟨fun hall => ?_, ?_⟩
    · rw [List.forall_mem_cons] at hall
      obtain ⟨d, w', hw', hd, hrun⟩ := hok hall.1
      obtain ⟨e, he, hrun'⟩ := (hrest d w' hw' hd).1 hall.2
      exact ⟨e, he, by simpa [readItems, hs, hc2, hb2ne, hskip, hrun] using hrun'⟩
    · rintro ⟨y, hy, hgy⟩
      by_cases hgx : good x
      · obtain ⟨d, w', hw', hd, hrun⟩ := hok hgx
        have hy' : y ∈ xs := by
          rcases List.mem_cons.mp hy with rfl | hy
          · exact absurd hgx hgy
          · exact hy
        obtain ⟨e, he⟩ := (hrest d w' hw' hd).2 ⟨y, hy', hgy⟩
        exact ⟨e, by simp [readItems, hs, hc2, hb2ne, hskip, hrun, he]⟩
      · obtain ⟨e, he⟩ := hbad hgx
        exact ⟨e, by simp [readItems, hs, hc2, hb2ne, hskip, he]⟩

/-- The items of an array text are read until the closing bracket, which is left. -/
theorem readItems_render (xs : List Json) (hxs : ∀ x ∈ xs, ReadsBack item x (good x) ∧ OpensValue x)
    (f : Nat) (c : Cursor) (tail : List UInt8) (hc : c.rest = utf8 (renderItems xs) ++ 93 :: tail)
    (hf : xs.length < f) :
    ((∀ x ∈ xs, good x) → ∃ d : Cursor, d.rest = 93 :: tail ∧
        readItems item f true [] c = .ok (xs, d)) ∧
      ((∃ x ∈ xs, ¬ good x) → ∃ e, readItems item f true [] c = .error e) := by
  obtain ⟨f, rfl⟩ : ∃ f', f = f' + 1 := ⟨f - 1, by omega⟩
  cases xs with
  | nil =>
    have hs : c.skip.rest = 93 :: tail := Cursor.skip_rest (w := []) (by simp) (by decide)
      (by simpa [renderItems] using hc)
    refine ⟨fun _ => ⟨c.skip, hs, by simp [readItems, hs]⟩, ?_⟩
    rintro ⟨x, hx, -⟩
    simp at hx
  | cons x xs =>
    rw [List.forall_mem_cons] at hxs
    obtain ⟨⟨hx, hopen⟩, hxs⟩ := hxs
    rw [renderItems_cons, utf8_append, List.append_assoc] at hc
    obtain ⟨b, hb, hb93⟩ := hopen (utf8 (commaItems xs) ++ 93 :: tail) c.line c.column
    have hpeek : c.skip.rest.head? = some b := by rw [Cursor.skip, hc]; exact hb
    obtain ⟨hok, hbad⟩ := hx c _ hc (numberEnds_commaItems xs tail)
    refine ⟨fun hall => ?_, ?_⟩
    · rw [List.forall_mem_cons] at hall
      obtain ⟨d, w, hw, hd, hrun⟩ := hok hall.1
      obtain ⟨e, he, hrun'⟩ := (readItems_more item good hskip xs hxs f [x] d w tail hw hd
        (by simpa using hf)).1 hall.2
      exact ⟨e, he, by simpa [readItems, hpeek, hb93, hskip, hrun] using hrun'⟩
    · rintro ⟨y, hy, hgy⟩
      by_cases hgx : good x
      · obtain ⟨d, w, hw, hd, hrun⟩ := hok hgx
        have hy' : y ∈ xs := by
          rcases List.mem_cons.mp hy with rfl | hy
          · exact absurd hgx hgy
          · exact hy
        obtain ⟨e, he⟩ := (readItems_more item good hskip xs hxs f [x] d w tail hw hd
          (by simpa using hf)).2 ⟨y, hy', hgy⟩
        exact ⟨e, by simp [readItems, hpeek, hb93, hskip, hrun, he]⟩
      · obtain ⟨e, he⟩ := hbad hgx
        exact ⟨e, by simp [readItems, hpeek, hb93, hskip, he]⟩

end Items

/-! ### The member loop -/

/-- One member as written: its quoted key, a colon and its value. -/
def memberText (p : String × Json) : String := quote p.1 ++ ":" ++ render p.2

/-- The text of members after the first, each behind its comma. -/
def commaFields (fs : List (String × Json)) : String :=
  String.join (fs.map fun p => "," ++ memberText p)

theorem utf8_memberText (k : String) (v : Json) :
    utf8 (memberText (k, v)) =
      34 :: utf8 (String.join (k.toList.map escapeChar)) ++ 34 :: 58 :: utf8 (render v) := by
  have hc : utf8 ":" = [58] := by decide
  simp [memberText, utf8_quote, hc]

theorem utf8_commaFields_cons (p : String × Json) (fs : List (String × Json)) :
    utf8 (commaFields (p :: fs)) = 44 :: utf8 (memberText p) ++ utf8 (commaFields fs) := by
  have hc : utf8 "," = [44] := by decide
  simp [commaFields, utf8_join, hc]

theorem renderFields_cons : ∀ (p : String × Json) (fs : List (String × Json)),
    renderFields (p :: fs) = memberText p ++ commaFields fs
  | (k, v), [] => by simp [renderFields, commaFields, memberText]
  | (k, v), (k', v') :: fs => by
    rw [renderFields, renderFields_cons (k', v') fs]
    · simp [commaFields, memberText, String.append_assoc]
    · simp

theorem numberEnds_commaFields (fs : List (String × Json)) (tail : List UInt8) :
    NumberEnds (utf8 (commaFields fs) ++ 125 :: tail) := by
  cases fs with
  | nil => intro b hb; simp [commaFields] at hb; subst hb; decide
  | cons p fs => intro b hb; simp [utf8_commaFields_cons] at hb; subst hb; decide

theorem readColon_of_head {d : Cursor} {r : List UInt8} (h : d.rest = 58 :: r) :
    readColon d = .ok d.advance := by
  simp [readColon, Cursor.skip_of_head (by decide) h, h]

/-- A key the members so far do not have goes last. -/
theorem setField_new {acc : List (String × Json)} {k : String} (v : Json)
    (h : k ∉ acc.map Prod.fst) : setField acc k v = acc ++ [(k, v)] := by
  have hany : acc.any (·.1 == k) = false := by
    simp only [List.any_eq_false, beq_iff_eq]
    intro p hp hpk
    exact h (List.mem_map.mpr ⟨p, hp, hpk⟩)
  simp [setField, hany]

section Members

variable (item : Cursor → Step Json) (good : Json → Prop)

/-- One member: its key, its colon and its value, after which the loop goes on. -/
theorem readMember {k : String} {v : Json} (hv : ReadsBack item v (good v)) (f : Nat)
    (acc : List (String × Json)) (c : Cursor) (more : List UInt8)
    (hc : c.rest = utf8 (memberText (k, v)) ++ more) (hend : NumberEnds more)
    (hf : (utf8 (memberText (k, v))).length < f) :
    (good v → ∃ (d : Cursor) (w : List UInt8), (∀ b ∈ w, IsBlank b) ∧ d.rest = w ++ more ∧
        readMembers.member item f acc c = readMembers item f false (setField acc k v) d) ∧
      (¬ good v → ∃ e, readMembers.member item f acc c = .error e) := by
  rw [utf8_memberText] at hc hf
  simp only [List.cons_append, List.append_assoc] at hc
  obtain ⟨d1, hd1, hs⟩ := readStringBody_quote k f c.advance _ (Cursor.advance_rest hc)
    (by simp at hf; omega)
  have hcolon := readColon_of_head hd1
  obtain ⟨hok, hbad⟩ := hv d1.advance more (Cursor.advance_rest hd1) hend
  refine ⟨fun hg => ?_, fun hg => ?_⟩
  · obtain ⟨d, w, hw, hd, hrun⟩ := hok hg
    exact ⟨d, w, hw, hd, by simp [readMembers.member, hc, hs, hcolon, hrun]⟩
  · obtain ⟨e, he⟩ := hbad hg
    exact ⟨e, by simp [readMembers.member, hc, hs, hcolon, he]⟩

/-- After the first member, each member behind its comma is read until the closing brace. -/
theorem readMembers_more : ∀ (fs : List (String × Json)), (∀ p ∈ fs, ReadsBack item p.2 (good p.2)) →
    ∀ (f : Nat) (acc : List (String × Json)) (c : Cursor) (w tail : List UInt8),
    (∀ b ∈ w, IsBlank b) → c.rest = w ++ (utf8 (commaFields fs) ++ 125 :: tail) →
    (utf8 (commaFields fs)).length < f → ((acc ++ fs).map Prod.fst).Nodup →
    ((∀ p ∈ fs, good p.2) → ∃ d : Cursor, d.rest = 125 :: tail ∧
        readMembers item f false acc c = .ok (acc ++ fs, d)) ∧
      ((∃ p ∈ fs, ¬ good p.2) → ∃ e, readMembers item f false acc c = .error e)
  | _, _, 0, _, _, _, _, _, _, hf, _ => absurd hf (Nat.not_lt_zero _)
  | [], _, f + 1, acc, c, w, tail, hw, hc, _, _ => by
    have hs : c.skip.rest = 125 :: tail :=
      Cursor.skip_rest hw (by decide) (by simpa [commaFields] using hc)
    refine ⟨fun _ => ⟨c.skip, hs, by simp [readMembers, hs]⟩, ?_⟩
    rintro ⟨p, hp, -⟩
    simp at hp
  | (k, v) :: fs, hfs, f + 1, acc, c, w, tail, hw, hc, hf, hnd => by
    rw [List.forall_mem_cons] at hfs
    obtain ⟨hv, hfs⟩ := hfs
    rw [utf8_commaFields_cons, List.length_append, List.length_cons] at hf
    have hs : c.skip.rest = 44 :: (utf8 (memberText (k, v)) ++ (utf8 (commaFields fs) ++ 125 :: tail)) :=
      Cursor.skip_rest hw (by decide) (by rw [hc, utf8_commaFields_cons]; simp)
    have ha := Cursor.advance_rest hs
    have hskip2 : c.skip.advance.skip = c.skip.advance :=
      Cursor.skip_of_head (b := 34) (by decide) (by rw [ha, utf8_memberText]; rfl)
    have hk : k ∉ acc.map Prod.fst := by
      intro hk
      simp only [List.map_append, List.map_cons, List.nodup_append] at hnd
      exact hnd.2.2 k hk k (by simp) rfl
    obtain ⟨hok, hbad⟩ := readMember item good (k := k) (v := v) hv f acc c.skip.advance _ ha
      (numberEnds_commaFields fs tail) (by omega)
    rw [setField_new v hk] at hok
    have hrest := fun (d : Cursor) (w' : List UInt8) (hw' : ∀ b ∈ w', IsBlank b)
        (hd : d.rest = w' ++ (utf8 (commaFields fs) ++ 125 :: tail)) =>
      readMembers_more fs hfs f (acc ++ [(k, v)]) d w' tail hw' hd (by omega) (by simpa using hnd)
    refine ⟨fun hall => ?_, ?_⟩
    · rw [List.forall_mem_cons] at hall
      obtain ⟨d, w', hw', hd, hrun⟩ := hok hall.1
      obtain ⟨e, he, hrun'⟩ := (hrest d w' hw' hd).1 hall.2
      exact ⟨e, he, by simpa [readMembers, hs, hskip2, hrun] using hrun'⟩
    · rintro ⟨p, hp, hgp⟩
      by_cases hgv : good v
      · obtain ⟨d, w', hw', hd, hrun⟩ := hok hgv
        have hp' : p ∈ fs := by
          rcases List.mem_cons.mp hp with rfl | hp
          · exact absurd hgv hgp
          · exact hp
        obtain ⟨e, he⟩ := (hrest d w' hw' hd).2 ⟨p, hp', hgp⟩
        exact ⟨e, by simp [readMembers, hs, hskip2, hrun, he]⟩
      · obtain ⟨e, he⟩ := hbad hgv
        exact ⟨e, by simp [readMembers, hs, hskip2, he]⟩

/-- The members of an object text are read until the closing brace, which is left. -/
theorem readMembers_render (fs : List (String × Json)) (hfs : ∀ p ∈ fs, ReadsBack item p.2 (good p.2))
    (f : Nat) (c : Cursor) (tail : List UInt8) (hc : c.rest = utf8 (renderFields fs) ++ 125 :: tail)
    (hf : (utf8 (renderFields fs)).length + 1 < f) (hnd : (fs.map Prod.fst).Nodup) :
    ((∀ p ∈ fs, good p.2) → ∃ d : Cursor, d.rest = 125 :: tail ∧
        readMembers item f true [] c = .ok (fs, d)) ∧
      ((∃ p ∈ fs, ¬ good p.2) → ∃ e, readMembers item f true [] c = .error e) := by
  obtain ⟨f, rfl⟩ : ∃ f', f = f' + 1 := ⟨f - 1, by omega⟩
  cases fs with
  | nil =>
    have hs : c.skip.rest = 125 :: tail := Cursor.skip_rest (w := []) (by simp) (by decide)
      (by simpa [renderFields] using hc)
    refine ⟨fun _ => ⟨c.skip, hs, by simp [readMembers, hs]⟩, ?_⟩
    rintro ⟨p, hp, -⟩
    simp at hp
  | cons p fs =>
    obtain ⟨k, v⟩ := p
    rw [List.forall_mem_cons] at hfs
    obtain ⟨hv, hfs⟩ := hfs
    rw [renderFields_cons, utf8_append, List.append_assoc] at hc
    rw [renderFields_cons, utf8_append, List.length_append] at hf
    have hskip1 : c.skip = c := Cursor.skip_of_head (b := 34) (by decide) (by rw [hc, utf8_memberText]; rfl)
    have hpeek : c.rest.head? = some 34 := by rw [hc, utf8_memberText]; rfl
    obtain ⟨hok, hbad⟩ := readMember item good (k := k) (v := v) hv f [] c _ hc (numberEnds_commaFields fs tail)
      (by omega)
    rw [setField_new v (by simp)] at hok
    have hrest := fun (d : Cursor) (w : List UInt8) (hw : ∀ b ∈ w, IsBlank b)
        (hd : d.rest = w ++ (utf8 (commaFields fs) ++ 125 :: tail)) =>
      readMembers_more item good fs hfs f [(k, v)] d w tail hw hd (by omega) (by simpa using hnd)
    refine ⟨fun hall => ?_, ?_⟩
    · rw [List.forall_mem_cons] at hall
      obtain ⟨d, w, hw, hd, hrun⟩ := hok hall.1
      obtain ⟨e, he, hrun'⟩ := (hrest d w hw hd).1 hall.2
      exact ⟨e, he, by simpa [readMembers, hskip1, hpeek, hrun] using hrun'⟩
    · rintro ⟨p, hp, hgp⟩
      by_cases hgv : good v
      · obtain ⟨d, w, hw, hd, hrun⟩ := hok hgv
        have hp' : p ∈ fs := by
          rcases List.mem_cons.mp hp with rfl | hp
          · exact absurd hgv hgp
          · exact hp
        obtain ⟨e, he⟩ := (hrest d w hw hd).2 ⟨p, hp', hgp⟩
        exact ⟨e, by simp [readMembers, hskip1, hpeek, hrun, he]⟩
      · obtain ⟨e, he⟩ := hbad hgv
        exact ⟨e, by simp [readMembers, hskip1, hpeek, he]⟩

end Members

/-! ### Reading a whole value -/

theorem length_le_renderItems : ∀ (xs : List Json), xs.length ≤ (utf8 (renderItems xs)).length + 1
  | [] => by simp
  | x :: xs => by
    have := length_commaItems xs
    rw [renderItems_cons, utf8_append, List.length_append, List.length_cons]
    omega

theorem length_render_le_renderItems {x : Json} {xs : List Json} (h : x ∈ xs) :
    (utf8 (render x)).length ≤ (utf8 (renderItems xs)).length := by
  cases xs with
  | nil => simp at h
  | cons y ys =>
    rw [renderItems_cons, utf8_append, List.length_append]
    rcases List.mem_cons.mp h with rfl | h
    · omega
    · have := length_render_le_commaItems h
      omega

theorem length_render_le_renderFields {p : String × Json} :
    ∀ {fs : List (String × Json)}, p ∈ fs → (utf8 (render p.2)).length ≤ (utf8 (renderFields fs)).length
  | q :: fs, h => by
    rw [renderFields_cons, utf8_append, List.length_append]
    rcases List.mem_cons.mp h with rfl | h
    · have : (utf8 (render p.2)).length ≤ (utf8 (memberText p)).length := by
        simp only [memberText, utf8_append, List.length_append]
        omega
      omega
    · cases fs with
      | nil => simp at h
      | cons r rs =>
        have := length_render_le_renderFields h
        rw [renderFields_cons, utf8_append, List.length_append] at this
        have hc := utf8_commaFields_cons r rs
        have hr : (utf8 (render p.2)).length ≤ (utf8 (commaFields (r :: rs))).length := by
          rw [hc]
          simp only [List.length_cons, List.length_append]
          omega
        omega

/-- A scalar reads back whatever the budget. -/
theorem readsBack_scalar {fuel budget : Nat} {j : Json} (h0 : depth j = 0) (hb : 0 < budget)
    (h : ∀ (c : Cursor) (tail : List UInt8), c.rest = utf8 (render j) ++ tail → NumberEnds tail →
      ReadsAt (readValue fuel budget) j c tail) :
    ReadsBack (readValue fuel budget) j (depth j < budget) :=
  fun c tail hc hend => ⟨fun _ => h c tail hc hend, fun hd => absurd (h0 ▸ hb) hd⟩

theorem depth_arr_lt_iff {xs : List Json} {d : Nat} :
    depth (.arr xs) < d + 2 ↔ ∀ x ∈ xs, depth x < d + 1 := by
  rw [depth]
  simp only [Nat.lt_succ_iff]
  rw [← itemsDepth_le_iff]
  omega

theorem depth_obj_lt_iff {fs : List (String × Json)} {d : Nat} :
    depth (.obj fs) < d + 2 ↔ ∀ p ∈ fs, depth p.2 < d + 1 := by
  rw [depth]
  simp only [Nat.lt_succ_iff]
  rw [← fieldsDepth_le_iff]
  omega

/-- A budget of at least one splits into one or two and more. -/
theorem budget_cases {budget : Nat} (hb : 0 < budget) : budget = 1 ∨ ∃ d, budget = d + 2 := by
  rcases budget with _ | _ | d
  · omega
  · exact .inl rfl
  · exact .inr ⟨d, rfl⟩

mutual

/-- A faithful value's text reads back as the value within the budget, and fails beyond it. -/
theorem readValue_render : ∀ (j : Json), Readable j → ∀ (fuel budget : Nat), 0 < budget →
    (utf8 (render j)).length + 2 ≤ fuel → ReadsBack (readValue fuel budget) j (depth j < budget)
  | .null, _, _, _, hb, _ => readsBack_scalar rfl hb fun c tail hc _ =>
    readValue_ident (.inl rfl) (by rw [hc]; rfl)
  | .bool true, _, _, _, hb, _ => readsBack_scalar rfl hb fun c tail hc _ =>
    readValue_ident (.inr (.inl rfl)) (by rw [hc]; rfl)
  | .bool false, _, _, _, hb, _ => readsBack_scalar rfl hb fun c tail hc _ =>
    readValue_ident (.inr (.inr rfl)) (by rw [hc]; rfl)
  | .int i, ⟨hlo, hhi⟩, _, _, hb, hf => readsBack_scalar rfl hb fun _ _ hc hend =>
    readValue_int hlo hhi hc hend (by change (utf8 (toString i)).length + 2 ≤ _ at hf; omega)
  | .float f, hfl, _, _, hb, hf => readsBack_scalar rfl hb fun _ _ hc hend =>
    readValue_float hfl hc hend hf
  | .str s, _, _, _, hb, hf => readsBack_scalar rfl hb fun _ _ hc _ =>
    readValue_str s hc (by change (utf8 (quote s)).length + 2 ≤ _ at hf; omega)
  | .arr xs, ⟨_, hxs⟩, fuel, budget, hb, hf => by
    intro c tail hc hend
    rw [utf8_render_arr] at hc hf
    simp only [List.length_cons, List.length_append] at hf
    have hs : c.skip.rest = 91 :: (utf8 (renderItems xs) ++ 93 :: tail) :=
      Cursor.skip_rest (w := []) (by simp) (by decide) (by rw [hc]; simp)
    rcases budget_cases hb with rfl | ⟨d, rfl⟩
    · exact ⟨fun h => absurd h (by simp [depth]), fun _ => readValue_container_one (.inl rfl) hs⟩
    · -- the items are read with one container less to spend
      have hitems := items_readBack xs hxs fuel
        (fun x hx => by have := length_render_le_renderItems hx; omega) (d + 1) (by omega)
      have hloop := readItems_render (readValue fuel (d + 1)) (fun x => depth x < d + 1)
        (fun _ => readValue_skip) xs hitems fuel c.skip.advance tail (Cursor.advance_rest hs)
        (by have := length_le_renderItems xs; omega)
      refine ⟨fun h => ?_, fun h => ?_⟩
      · obtain ⟨e, he, hrun⟩ := hloop.1 (depth_arr_lt_iff.mp h)
        exact ⟨e.advance, [], by simp, by simpa using Cursor.advance_rest he,
          readValue_of_bracket d hs hrun⟩
      · obtain ⟨err, hrun⟩ := hloop.2 (by simpa [depth_arr_lt_iff] using h)
        exact ⟨err, readValue_of_bracket_error d hs hrun⟩
  | .obj fs, ⟨hnd, hfs⟩, fuel, budget, hb, hf => by
    intro c tail hc hend
    rw [utf8_render_obj] at hc hf
    simp only [List.length_cons, List.length_append] at hf
    have hs : c.skip.rest = 123 :: (utf8 (renderFields fs) ++ 125 :: tail) :=
      Cursor.skip_rest (w := []) (by simp) (by decide) (by rw [hc]; simp)
    rcases budget_cases hb with rfl | ⟨d, rfl⟩
    · exact ⟨fun h => absurd h (by simp [depth]), fun _ => readValue_container_one (.inr rfl) hs⟩
    · -- the member values are read with one container less to spend
      have hfields := fields_readBack fs hfs fuel
        (fun p hp => by have := length_render_le_renderFields hp; omega) (d + 1) (by omega)
      have hloop := readMembers_render (readValue fuel (d + 1)) (fun x => depth x < d + 1)
        fs hfields fuel c.skip.advance tail (Cursor.advance_rest hs) (by omega) hnd
      refine ⟨fun h => ?_, fun h => ?_⟩
      · obtain ⟨e, he, hrun⟩ := hloop.1 (depth_obj_lt_iff.mp h)
        exact ⟨e.advance, [], by simp, by simpa using Cursor.advance_rest he,
          readValue_of_brace d hs hrun⟩
      · obtain ⟨err, hrun⟩ := hloop.2 (by simpa [depth_obj_lt_iff] using h)
        exact ⟨err, readValue_of_brace_error d hs hrun⟩

/-- Items each read back, and each opens with a byte that is not a closing bracket. -/
theorem items_readBack : ∀ (xs : List Json), ItemsEvery Faithful xs → ∀ (fuel : Nat),
    (∀ x ∈ xs, (utf8 (render x)).length + 2 ≤ fuel) → ∀ (budget : Nat), 0 < budget →
    ∀ x ∈ xs, ReadsBack (readValue fuel budget) x (depth x < budget) ∧ OpensValue x
  | [], _, _, _, _, _ => by simp
  | x :: xs, ⟨hx, hxs⟩, fuel, hf, budget, hb => List.forall_mem_cons.mpr
    ⟨⟨readValue_render x hx fuel budget hb (hf x List.mem_cons_self), opensValue_of_readable (every_self hx)⟩,
      items_readBack xs hxs fuel (fun y hy => hf y (List.mem_cons_of_mem _ hy)) budget hb⟩

/-- Member values each read back. -/
theorem fields_readBack : ∀ (fs : List (String × Json)), FieldsEvery Faithful fs → ∀ (fuel : Nat),
    (∀ p ∈ fs, (utf8 (render p.2)).length + 2 ≤ fuel) → ∀ (budget : Nat), 0 < budget →
    ∀ p ∈ fs, ReadsBack (readValue fuel budget) p.2 (depth p.2 < budget)
  | [], _, _, _, _, _ => by simp
  | (k, v) :: fs, ⟨hv, hfs⟩, fuel, hf, budget, hb => List.forall_mem_cons.mpr
    ⟨readValue_render v hv fuel budget hb (hf (k, v) List.mem_cons_self),
      fields_readBack fs hfs fuel (fun p hp => hf p (List.mem_cons_of_mem _ hp)) budget hb⟩

end

/-- The reading of a faithful value's whole text, within the reader's budget or beyond it. -/
theorem readValue_start {j : Json} (hj : Readable j) :
    ReadsBack (readValue ((utf8 (render j)).length + 2) 128) j (depth j < 128) :=
  readValue_render j hj _ 128 (by decide) le_rfl

/-- A faithful value whose containers nest at most 127 deep parses back from its text. -/
theorem parse_render {j : Json} (hj : Readable j) (hd : depth j < 128) : parse (render j) = .ok j := by
  have hstart := start_rest (render j)
  obtain ⟨d, w, hw, hdr, hrun⟩ := ((readValue_start hj) (Cursor.start (render j)) []
    (by simp [hstart]) (by simp [NumberEnds])).1 hd
  have hend : d.skip.rest = [] := Cursor.skip_blanks (by simpa [hdr] using hw)
  simp [parse, hstart, hrun, hend]

/-- Deeper, its text fails to parse. -/
theorem parse_render_error {j : Json} (hj : Readable j) (hd : 128 ≤ depth j) :
    ∃ e, parse (render j) = .error e := by
  have hstart := start_rest (render j)
  obtain ⟨e, he⟩ := ((readValue_start hj) (Cursor.start (render j)) []
    (by simp [hstart]) (by simp [NumberEnds])).2 (by omega)
  exact ⟨e, by simp [parse, hstart, he]⟩

end QueryDoc.Json
