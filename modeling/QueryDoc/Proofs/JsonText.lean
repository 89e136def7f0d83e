import Mathlib
import QueryDoc.Json.Reader
import QueryDoc.Json.Writer

/-!
Reading back what the writer writes.

The reader walks the UTF-8 bytes of a text. Every lemma here reads a piece of written text
followed by an arbitrary remainder: it succeeds with the value that was written, and the
cursor it returns holds the remainder. Positions (line and column) only feed failures, so
the lemmas say nothing about them.

A string reads back whatever characters it holds: each escape the writer makes is one the
reader undoes, and every other character is copied byte by byte. Containers read back as long
as they nest no deeper than the reader allows.
-/

namespace QueryDoc.Json

/-! ### Bytes -/

/-- The UTF-8 bytes of a text, in the order a reader walks them. -/
def utf8 (s : String) : List UInt8 := s.toByteArray.data.toList

@[simp]
theorem utf8_append (s t : String) : utf8 (s ++ t) = utf8 s ++ utf8 t := by
  simp [utf8, ByteArray.data_append]

theorem utf8_ofList (cs : List Char) :
    utf8 (String.ofList cs) = cs.flatMap String.utf8EncodeChar := by
  simp [utf8, List.utf8Encode]

@[simp]
theorem utf8_singleton (c : Char) : utf8 (String.singleton c) = String.utf8EncodeChar c := by
  rw [String.singleton_eq_ofList, utf8_ofList]
  simp

theorem utf8_join (ss : List String) : utf8 (String.join ss) = ss.flatMap utf8 := by
  induction ss with
  | nil => simp [String.join_nil, utf8]
  | cons s ss ih => simp [String.join_cons, ih]

private theorem byteArray_toList_loop (bs : ByteArray) (i : Nat) (r : List UInt8) :
    ByteArray.toList.loop bs i r = r.reverse ++ bs.data.toList.drop i := by
  fun_induction ByteArray.toList.loop bs i r with
  | case1 i r h ih =>
    rw [← ByteArray.size_data] at h
    have hi : i < bs.data.toList.length := by simpa using h
    rw [ih, List.drop_eq_getElem_cons (l := bs.data.toList) hi]
    simp [ByteArray.get!, getElem!_pos bs.data i h]
  | case2 i r h =>
    rw [← ByteArray.size_data] at h
    simp [List.drop_eq_nil_of_le (by simpa using h : bs.data.toList.length ≤ i)]

theorem byteArray_toList (bs : ByteArray) : bs.toList = bs.data.toList := by
  unfold ByteArray.toList
  rw [byteArray_toList_loop]
  simp

theorem toByteArray_toList (s : String) : s.toByteArray.toList = utf8 s := byteArray_toList _

theorem start_rest (s : String) : (Cursor.start s).rest = utf8 s := by
  simp [Cursor.start, toByteArray_toList]

/-- A character below 128 is the one byte of its code. -/
theorem utf8EncodeChar_of_lt {c : Char} (h : c.toNat < 128) :
    String.utf8EncodeChar c = [UInt8.ofNat c.toNat] := by
  simp only [String.utf8EncodeChar, Char.toNat_val]
  rw [if_pos (by omega)]

/-- No byte of a character from space upwards, other than `"` and `\`, is one the string
reader stops at: every byte is at least 32, and none is a quote or a backslash. -/
theorem utf8EncodeChar_plain {c : Char} (h32 : 32 ≤ c.toNat) (hq : c ≠ '"') (hb : c ≠ '\\') :
    ∀ b ∈ String.utf8EncodeChar c, 32 ≤ b ∧ b ≠ 34 ∧ b ≠ 92 := by
  have hq' : c.toNat ≠ 34 := fun h => hq (Char.toNat_inj.mp h)
  have hb' : c.toNat ≠ 92 := fun h => hb (Char.toNat_inj.mp h)
  simp only [String.utf8EncodeChar, Char.toNat_val]
  split_ifs <;> simp [UInt8.le_iff_toNat_le, UInt8.ext_iff] <;> omega

/-! ### Cursors -/

namespace Cursor

variable {c : Cursor} {b : UInt8} {bs : List UInt8}

@[simp]
theorem peek?_eq : c.peek? = c.rest.head? := rfl

theorem advance_rest (h : c.rest = b :: bs) : c.advance.rest = bs := by
  simp [advance, h]

theorem next?_of_rest (h : c.rest = b :: bs) : c.next? = some (b, c.advance) := by
  simp [next?, h]

end Cursor

/-- The bytes `skipBlanks` passes over: space, tab, carriage return and newline. -/
def IsBlank (b : UInt8) : Prop := b = 32 ∨ b = 9 ∨ b = 13 ∨ b = 10

instance (b : UInt8) : Decidable (IsBlank b) := inferInstanceAs (Decidable (_ ∨ _))

theorem skipBlanks_of_not_blank {b : UInt8} (h : ¬ IsBlank b) (bs : List UInt8) (l k : Nat) :
    skipBlanks (b :: bs) l k = ⟨b :: bs, l, k⟩ := by
  simp only [IsBlank, not_or] at h
  simp [skipBlanks, h.1, h.2.1, h.2.2.1, h.2.2.2]

theorem skipBlanks_append {w : List UInt8} (hw : ∀ b ∈ w, IsBlank b) (tail : List UInt8)
    (l k : Nat) : ∃ l' k', skipBlanks (w ++ tail) l k = skipBlanks tail l' k' := by
  induction w generalizing l k with
  | nil => exact ⟨l, k, rfl⟩
  | cons b w ih =>
    have hbw := hw b (by simp)
    have hrest := fun x hx => hw x (List.mem_cons_of_mem b hx)
    simp only [IsBlank] at hbw
    rcases hbw with rfl | rfl | rfl | rfl <;> simpa [skipBlanks] using ih hrest _ _

/-! ### Strings -/

/-- Bytes that neither end a string nor start an escape are copied as they are. -/
theorem readStringBody_plain : ∀ (bs : List UInt8), (∀ b ∈ bs, 32 ≤ b ∧ b ≠ 34 ∧ b ≠ 92) →
    ∀ (fuel : Nat) (acc : List UInt8) (c : Cursor) (more : List UInt8), c.rest = bs ++ more →
      bs.length ≤ fuel → ∃ d : Cursor, d.rest = more ∧
        readStringBody fuel acc c = readStringBody (fuel - bs.length) (bs.reverse ++ acc) d
  | [], _, fuel, acc, c, more, hc, _ => ⟨c, by simpa using hc, by simp⟩
  | _ :: _, _, 0, _, _, _, _, hf => by simp at hf
  | b :: bs, hbs, fuel + 1, acc, c, more, hc, hf => by
    obtain ⟨h32, hq, hb⟩ := hbs b (by simp)
    rw [List.cons_append] at hc
    obtain ⟨d, hd, hrun⟩ := readStringBody_plain bs (fun x hx => hbs x (by simp [hx])) fuel
      (b :: acc) c.advance more (Cursor.advance_rest hc) (by simpa using hf)
    refine ⟨d, hd, ?_⟩
    have hlt : ¬ b < 32 := by
      simp only [UInt8.lt_iff_toNat_lt, UInt8.le_iff_toNat_le] at h32 ⊢
      omega
    simp [readStringBody, Cursor.next?_of_rest hc, hq, hb, hlt, hrun]

/-- One written character is read back as its UTF-8 bytes, which the reader collects
reversed: an escape costs one step of fuel, a plain character one step a byte. -/
structure ReadsChar (x : Char) (fuel : Nat) (acc : List UInt8) (c : Cursor) (more : List UInt8) :
    Prop where
  run : ∃ (d : Cursor) (k : Nat), d.rest = more ∧ fuel ≤ k + (utf8 (escapeChar x)).length ∧
    readStringBody fuel acc c = readStringBody k ((String.utf8EncodeChar x).reverse ++ acc) d

/-- A two-byte escape: a backslash, then a byte that `readEscape` turns into the character. -/
theorem readsChar_shortEscape {x : Char} {e : UInt8} (hx : utf8 (escapeChar x) = [92, e])
    (hesc : ∀ acc (d : Cursor) r, d.rest = e :: r →
      readEscape acc d = .ok ((String.utf8EncodeChar x).reverse ++ acc, d.advance))
    {fuel acc c more} (hc : c.rest = utf8 (escapeChar x) ++ more)
    (hf : (utf8 (escapeChar x)).length ≤ fuel) : ReadsChar x fuel acc c more := by
  rw [hx] at hc hf
  obtain ⟨f, rfl⟩ : ∃ f, fuel = f + 1 := ⟨fuel - 1, by simp at hf; omega⟩
  have hc' : c.advance.rest = e :: more := Cursor.advance_rest hc
  refine ⟨c.advance.advance, f, Cursor.advance_rest hc', by simp [hx], ?_⟩
  simp [readStringBody, Cursor.next?_of_rest hc, hesc acc c.advance more hc']

/-- The byte of a lowercase hex digit. -/
def hexByte (k : Nat) : UInt8 := UInt8.ofNat (hexDigit k).toNat

theorem hexVal_hexByte : ∀ k < 16, hexVal (hexByte k) = some k := by decide

theorem hexDigit_lt : ∀ k < 16, (hexDigit k).toNat < 128 := by decide

/-- A control character without a short escape is written `\u00` and two hex digits. -/
theorem utf8_escapeChar_control {x : Char} (h : x.toNat < 32) (hn : x ≠ '\n') (hr : x ≠ '\r')
    (ht : x ≠ '\t') (hb : x ≠ '\x08') (hf : x ≠ '\x0c') :
    utf8 (escapeChar x) = [92, 117, 48, 48, hexByte (x.toNat / 16), hexByte (x.toNat % 16)] := by
  have hq : x ≠ '"' := by rintro rfl; simp at h
  have hs : x ≠ '\\' := by rintro rfl; simp at h
  have hu : utf8 "\\u00" = [92, 117, 48, 48] := by decide
  have hhi := hexDigit_lt (x.toNat / 16) (by omega)
  have hlo := hexDigit_lt (x.toNat % 16) (by omega)
  simp only [escapeChar, beq_iff_eq, hq, hs, hn, hr, ht, hb, hf, if_false, h, if_true,
    utf8_append, hu, utf8_singleton] at hhi hlo ⊢
  simp [utf8EncodeChar_of_lt hhi, utf8EncodeChar_of_lt hlo, hexByte]

theorem readUnicode_control {n : Nat} (h : n < 32) (acc : List UInt8) {c : Cursor}
    {more : List UInt8} (hc : c.rest = [48, 48, hexByte (n / 16), hexByte (n % 16)] ++ more) :
    ∃ d : Cursor, d.rest = more ∧
      readUnicode acc c = .ok ((String.utf8EncodeChar (Char.ofNat n)).reverse ++ acc, d) := by
  have hhi := hexVal_hexByte (n / 16) (by omega)
  have hlo := hexVal_hexByte (n % 16) (by omega)
  have h0 : hexVal 48 = some 0 := by decide
  have hn : n / 16 * 16 + n % 16 = n := by omega
  have hlow : ¬ (56320 ≤ n ∧ n ≤ 57343) := by omega
  have hbmp : n < 55296 ∨ 56319 < n := by omega
  refine ⟨c.advance.advance.advance.advance, ?_, ?_⟩
  · simp only [List.cons_append, List.nil_append] at hc
    simp [Cursor.advance, hc]
  · simp only [List.cons_append, List.nil_append] at hc
    simp only [readUnicode, readHex4, hc, h0, hhi, hlo]
    simp [bind, Except.bind, pure, Except.pure, utf8Rev, byteArray_toList, hn, hlow, hbmp,
      List.utf8Encode_singleton]

/-- Every character reads back: an escape through `readEscape`, a plain character byte by
byte. -/
theorem readsChar (x : Char) {fuel acc c more} (hc : c.rest = utf8 (escapeChar x) ++ more)
    (hf : (utf8 (escapeChar x)).length ≤ fuel) : ReadsChar x fuel acc c more := by
  by_cases hs : x = '"' ∨ x = '\\' ∨ x = '\n' ∨ x = '\r' ∨ x = '\t' ∨ x = '\x08' ∨ x = '\x0c'
  · -- the escaped byte after the backslash, in the order `escapeChar` tries them
    have short := fun {x : Char} (e : UInt8) (hx : utf8 (escapeChar x) = [92, e])
        (hesc : ∀ acc (d : Cursor) r, d.rest = e :: r →
          readEscape acc d = .ok ((String.utf8EncodeChar x).reverse ++ acc, d.advance))
        (hc : c.rest = utf8 (escapeChar x) ++ more) (hf : (utf8 (escapeChar x)).length ≤ fuel) =>
      (readsChar_shortEscape hx hesc hc hf : ReadsChar x fuel acc c more)
    rcases hs with rfl | rfl | rfl | rfl | rfl | rfl | rfl
    · exact short 34 (by decide) (fun _ _ _ h => by simp [readEscape, Cursor.next?_of_rest h]; rfl) hc hf
    · exact short 92 (by decide) (fun _ _ _ h => by simp [readEscape, Cursor.next?_of_rest h]; rfl) hc hf
    · exact short 110 (by decide) (fun _ _ _ h => by simp [readEscape, Cursor.next?_of_rest h]; rfl) hc hf
    · exact short 114 (by decide) (fun _ _ _ h => by simp [readEscape, Cursor.next?_of_rest h]; rfl) hc hf
    · exact short 116 (by decide) (fun _ _ _ h => by simp [readEscape, Cursor.next?_of_rest h]; rfl) hc hf
    · exact short 98 (by decide) (fun _ _ _ h => by simp [readEscape, Cursor.next?_of_rest h]; rfl) hc hf
    · exact short 102 (by decide) (fun _ _ _ h => by simp [readEscape, Cursor.next?_of_rest h]; rfl) hc hf
  simp only [not_or] at hs
  obtain ⟨hq, hb, hn, hr, ht, h8, h12⟩ := hs
  by_cases hctl : x.toNat < 32
  · -- `\u00` and two hex digits, read back by `readUnicode`
    have hx := utf8_escapeChar_control hctl hn hr ht h8 h12
    rw [hx] at hc hf
    obtain ⟨f, rfl⟩ : ∃ f, fuel = f + 1 := ⟨fuel - 1, by simp at hf; omega⟩
    have h1 : c.advance.rest = 117 :: ([48, 48, hexByte (x.toNat / 16),
        hexByte (x.toNat % 16)] ++ more) := Cursor.advance_rest hc
    obtain ⟨d, hd, hu⟩ := readUnicode_control hctl acc (Cursor.advance_rest h1)
    refine ⟨d, f, hd, by simp [hx], ?_⟩
    simp [readStringBody, Cursor.next?_of_rest hc, readEscape, Cursor.next?_of_rest h1, hu]
  · have hx : escapeChar x = String.singleton x := by
      simp [escapeChar, hq, hb, hn, hr, ht, h8, h12, hctl]
    rw [hx, utf8_singleton] at hc hf
    obtain ⟨d, hd, hrun⟩ := readStringBody_plain _
      (utf8EncodeChar_plain (by omega) hq hb) fuel acc c more hc hf
    exact ⟨d, _, hd, by rw [hx, utf8_singleton]; omega, hrun⟩

/-- The body of a written string, up to its closing quote, reads back as the bytes of its
characters. -/
theorem readStringBody_chars : ∀ (cs : List Char) (fuel : Nat) (acc : List UInt8) (c : Cursor)
    (tail : List UInt8), c.rest = utf8 (String.join (cs.map escapeChar)) ++ 34 :: tail →
    (utf8 (String.join (cs.map escapeChar))).length < fuel →
    ∃ d : Cursor, d.rest = tail ∧ readStringBody fuel acc c =
      .ok ((String.fromUTF8? ⟨(acc.reverse ++ cs.flatMap String.utf8EncodeChar).toArray⟩).getD "", d)
  | [], fuel + 1, acc, c, tail, hc, _ => by
    simp only [List.map_nil, String.join_nil] at hc
    refine ⟨c.advance, Cursor.advance_rest (by simpa [utf8] using hc), ?_⟩
    simp [readStringBody, Cursor.next?_of_rest (by simpa [utf8] using hc)]
  | x :: cs, fuel, acc, c, tail, hc, hf => by
    simp only [List.map_cons, String.join_cons, utf8_append, List.append_assoc,
      List.length_append] at hc hf
    have hx : (utf8 (escapeChar x)).length ≤ fuel := by omega
    obtain ⟨d, k, hd, hk, hrun⟩ := (readsChar x hc hx : ReadsChar x fuel acc c _).run
    obtain ⟨e, he, hrun'⟩ := readStringBody_chars cs k _ d tail hd (by omega)
    refine ⟨e, he, ?_⟩
    rw [hrun, hrun']
    simp

theorem fromUTF8?_utf8 (s : String) : String.fromUTF8? ⟨(utf8 s).toArray⟩ = some s := by
  simp only [utf8, Array.toArray_toList]
  simp [String.fromUTF8?, s.isValidUTF8, String.fromUTF8]

theorem utf8_quote (s : String) :
    utf8 (quote s) = 34 :: utf8 (String.join (s.toList.map escapeChar)) ++ [34] := by
  have hq : utf8 "\"" = [34] := by decide
  simp [quote, hq]

/-- A written string body reads back as the string. -/
theorem readStringBody_quote (s : String) (fuel : Nat) (c : Cursor) (tail : List UInt8)
    (hc : c.rest = utf8 (String.join (s.toList.map escapeChar)) ++ 34 :: tail)
    (hf : (utf8 (String.join (s.toList.map escapeChar))).length < fuel) :
    ∃ d : Cursor, d.rest = tail ∧ readStringBody fuel [] c = .ok (s, d) := by
  obtain ⟨d, hd, hrun⟩ := readStringBody_chars s.toList fuel [] c tail hc hf
  have hs : s.toList.flatMap String.utf8EncodeChar = utf8 s := by
    rw [← utf8_ofList, String.ofList_toList]
  refine ⟨d, hd, ?_⟩
  simp [hrun, hs, fromUTF8?_utf8]

end QueryDoc.Json
