import QueryDoc.Proofs.JsonText

/-!
Reading back written numbers.

An integer is written as its decimal digits, after a `-` when negative. Read back, the digits
accumulate into the same natural number while no prefix passes `2^64 - 1`, and an integer in
the range of a 64-bit number stays an integer. A double is written by the shortest-digits
printer, and whether its text reads back as the same double is a property of floating-point
arithmetic that nothing here decides. Instead, reading a number is local: the reader looks only
at the number's bytes and the byte after, and more fuel changes nothing once it is read. So a
double whose own text reads back as itself does so inside a document too.
-/

namespace QueryDoc.Json

/-- What may follow a number without being read as part of it: nothing, or a byte that is no
digit, no `.` and no exponent mark. -/
def NumberEnds (tail : List UInt8) : Prop :=
  ∀ b ∈ tail.head?, isDigit b = false ∧ b ≠ 46 ∧ b ≠ 101 ∧ b ≠ 69

/-! ### Integers -/

/-- The byte of a decimal digit character. -/
def digitByte (ch : Char) : UInt8 := UInt8.ofNat ch.toNat

theorem toNat_of_isDigit {ch : Char} (h : ch.isDigit) : 48 ≤ ch.toNat ∧ ch.toNat ≤ 57 := by
  simp only [Char.isDigit, Bool.and_eq_true, decide_eq_true_eq] at h
  rw [← Char.toNat_val]
  simp only [UInt32.le_iff_toNat_le] at h
  exact ⟨h.1, h.2⟩

theorem flatMap_utf8EncodeChar_digits : ∀ (ds : List Char), (∀ ch ∈ ds, ch.isDigit) →
    ds.flatMap String.utf8EncodeChar = ds.map digitByte
  | [], _ => rfl
  | ch :: ds, h => by
    have hd := toNat_of_isDigit (h ch (by simp))
    rw [List.flatMap_cons, utf8EncodeChar_of_lt (by omega),
      flatMap_utf8EncodeChar_digits ds (fun x hx => h x (by simp [hx]))]
    rfl

theorem utf8_repr (m : Nat) : utf8 (Nat.repr m) = (Nat.toDigits 10 m).map digitByte := by
  rw [Nat.repr, utf8_ofList, flatMap_utf8EncodeChar_digits]
  exact fun ch hch => Nat.isDigit_of_mem_toDigits (by decide) (by decide) hch

theorem digitByte_of_isDigit {ch : Char} (h : ch.isDigit) :
    isDigit (digitByte ch) = true ∧ digitVal (digitByte ch) = ch.toNat - 48 := by
  have h' := toNat_of_isDigit h
  simp only [isDigit, digitByte, digitVal, Bool.and_eq_true, decide_eq_true_eq,
    UInt8.le_iff_toNat_le, UInt8.toNat_ofNat, UInt8.toNat_ofNat']
  omega

/-- Appending a digit stays within 64 bits exactly when the reader sees no overflow. -/
theorem overflowsU64_eq_false {sig d : Nat} (h : sig * 10 + d ≤ 18446744073709551615)
    (hd : d ≤ 9) : overflowsU64 sig d = false := by
  simp only [overflowsU64, Bool.and_eq_false_iff, decide_eq_false_iff_not, Bool.or_eq_false_iff]
  omega

theorem le_ofDigitChars (ds : List Char) (init : Nat) : init ≤ Nat.ofDigitChars 10 ds init := by
  rw [Nat.ofDigitChars_eq_ofDigitChars_zero]
  have := Nat.one_le_two_pow (n := ds.length)
  nlinarith [Nat.one_le_pow ds.length 10 (by decide)]

/-- The digits after the first accumulate into the significand, one step of fuel each. -/
theorem integerDigits_digits (positive : Bool) : ∀ (ds : List Char), (∀ ch ∈ ds, ch.isDigit) →
    ∀ (fuel sig : Nat) (c : Cursor) (tail : List UInt8), c.rest = ds.map digitByte ++ tail →
    NumberEnds tail → ds.length < fuel →
    Nat.ofDigitChars 10 ds sig ≤ 18446744073709551615 →
    ∃ (d : Cursor) (k : Nat), d.rest = tail ∧
      integerDigits positive fuel sig c = afterInteger k positive (Nat.ofDigitChars 10 ds sig) d
  | [], _, fuel + 1, sig, c, tail, hc, hend, _, _ => by
    refine ⟨c, fuel, by simpa using hc, ?_⟩
    simp only [List.map_nil, List.nil_append] at hc
    cases tail with
    | nil => simp [integerDigits, hc]
    | cons b bs => simp [integerDigits, hc, (hend b (by simp)).1]
  | ch :: ds, hds, fuel + 1, sig, c, tail, hc, hend, hf, hmax => by
    obtain ⟨hdig, hval⟩ := digitByte_of_isDigit (hds ch (by simp))
    rw [List.map_cons, List.cons_append] at hc
    have hnext : Nat.ofDigitChars 10 (ch :: ds) sig = Nat.ofDigitChars 10 ds (sig * 10 + (ch.toNat - 48)) := by
      rw [Nat.ofDigitChars_cons, Nat.mul_comm]
      rfl
    have hle := le_ofDigitChars ds (sig * 10 + (ch.toNat - 48))
    have hch : ch.toNat - 48 ≤ 9 := by
      have h := toNat_of_isDigit (hds ch (by simp))
      omega
    obtain ⟨d, k, hd, hrun⟩ := integerDigits_digits positive ds (fun x hx => hds x (by simp [hx]))
      fuel (sig * 10 + (ch.toNat - 48)) c.advance tail (Cursor.advance_rest hc) hend
      (by simpa using hf) (hnext ▸ hmax)
    have hno : overflowsU64 sig (ch.toNat - 48) = false := overflowsU64_eq_false (by omega) hch
    refine ⟨d, k, hd, ?_⟩
    rw [hnext, ← hrun]
    simp [integerDigits, hc, hdig, hval, hno]

/-- The decimal digits of a positive number do not start with `0`. -/
theorem toDigits_head {m : Nat} (hm : 0 < m) :
    ∃ ch ds, Nat.toDigits 10 m = ch :: ds ∧ ch ≠ '0' := by
  induction m using Nat.strong_induction_on with
  | _ m ih =>
    rcases Nat.lt_or_ge m 10 with hlt | hge
    · exact ⟨m.digitChar, [], Nat.toDigits_of_lt_base hlt, by simp; omega⟩
    · obtain ⟨ch, ds, h, hne⟩ := ih (m / 10) (by omega) (by omega)
      exact ⟨ch, ds ++ [(m % 10).digitChar], by rw [Nat.toDigits_of_base_le (by decide) hge, h]; rfl,
        hne⟩

/-- The decimal text of a number below `2^64` reads as that number, up to what follows the
digits. -/
theorem readNumber_repr (positive : Bool) {m : Nat} (hm : m ≤ 18446744073709551615) (fuel : Nat)
    (c : Cursor) (tail : List UInt8) (hc : c.rest = utf8 (Nat.repr m) ++ tail)
    (hend : NumberEnds tail) (hf : (utf8 (Nat.repr m)).length < fuel) :
    ∃ (d : Cursor) (k : Nat), d.rest = tail ∧ readNumber fuel positive c = afterInteger k positive m d := by
  rw [utf8_repr] at hc hf
  rcases Nat.eq_zero_or_pos m with rfl | hpos
  · rw [Nat.toDigits_zero] at hc
    have hc' : c.rest = 48 :: tail := by simpa [digitByte] using hc
    refine ⟨c.advance, fuel, Cursor.advance_rest hc', ?_⟩
    cases tail with
    | nil => simp [readNumber, Cursor.next?_of_rest hc', Cursor.advance_rest hc']
    | cons b bs =>
      simp [readNumber, Cursor.next?_of_rest hc', Cursor.advance_rest hc', (hend b (by simp)).1]
  · obtain ⟨ch, ds, hdigits, hne⟩ := toDigits_head hpos
    have hall : ∀ x ∈ ch :: ds, x.isDigit := fun x hx =>
      Nat.isDigit_of_mem_toDigits (by decide) (by decide) (hdigits ▸ hx)
    obtain ⟨hdig, hval⟩ := digitByte_of_isDigit (hall ch (by simp))
    have h48 : digitByte ch ≠ 48 := by
      have := toNat_of_isDigit (hall ch (by simp))
      intro h
      apply hne
      apply Char.toNat_inj.mp
      simp only [digitByte, UInt8.ext_iff, UInt8.toNat_ofNat', UInt8.toNat_ofNat] at h
      simp
      omega
    have hm' : Nat.ofDigitChars 10 ds (ch.toNat - 48) = m := by
      have h := Nat.ofDigitChars_toDigits (b := 10) (n := m) (by decide) (by decide)
      rw [hdigits, Nat.ofDigitChars_cons] at h
      simpa using h
    rw [hdigits, List.map_cons, List.cons_append] at hc
    rw [hdigits] at hf
    obtain ⟨d, k, hd, hrun⟩ := integerDigits_digits positive ds (fun x hx => hall x (by simp [hx]))
      fuel (ch.toNat - 48) c.advance tail (Cursor.advance_rest hc) hend (by simp at hf; omega)
      (by omega)
    refine ⟨d, k, hd, ?_⟩
    rw [← hm', ← hrun]
    simp [readNumber, Cursor.next?_of_rest hc, h48, hdig, hval]

/-- After the digits of an integer, with nothing that continues the number, a positive
significand is an integer. -/
theorem afterInteger_positive {c : Cursor} (hend : NumberEnds c.rest) (fuel sig : Nat) :
    afterInteger fuel true sig c = .ok (.int sig, c) := by
  cases h : c.rest with
  | nil => simp [afterInteger, h]
  | cons b bs =>
    obtain ⟨_, h46, h101, h69⟩ := hend b (by simp [h])
    simp [afterInteger, h, h46, h101, h69]

/-- A negative significand up to `2^63` is a negative integer. -/
theorem afterInteger_negative {c : Cursor} (hend : NumberEnds c.rest) (fuel : Nat) {sig : Nat}
    (h0 : 0 < sig) (hmax : sig ≤ Nat.pow 2 63) :
    afterInteger fuel false sig c = .ok (.int (-(sig : Int)), c) := by
  have hne : (sig == 0) = false := by simp; omega
  cases h : c.rest with
  | nil => simp [afterInteger, h, hne, hmax]
  | cons b bs =>
    obtain ⟨_, h46, h101, h69⟩ := hend b (by simp [h])
    simp [afterInteger, h, h46, h101, h69, hne, hmax]

/-! ### Reading a number is local -/

/-- Bytes that do not start with a digit. -/
def NoDigitHead (bs : List UInt8) : Prop := ∀ b ∈ bs.head?, isDigit b = false

theorem NumberEnds.noDigitHead {bs : List UInt8} (h : NumberEnds bs) : NoDigitHead bs :=
  fun b hb => (h b hb).1

/-- Skipping digits stops at the same byte when the text goes on with something that is not
a digit, and with more fuel. -/
theorem skipDigits_local : ∀ (k k' : Nat) (c c' : Cursor) (tail : List UInt8),
    NoDigitHead ((skipDigits k c).rest ++ tail) → k ≤ k' → c'.rest = c.rest ++ tail →
    (skipDigits k' c').rest = (skipDigits k c).rest ++ tail
  | 0, 0, c, c', tail, _, _, hc' => by simp [skipDigits, hc']
  | 0, k' + 1, c, c', tail, hnd, _, hc' => by
    simp only [skipDigits] at hnd
    cases h : c'.rest with
    | nil => simp [skipDigits, Cursor.peek?, h, ← hc']
    | cons b bs =>
      have hb : isDigit b = false := hnd b (by simp [← hc', h])
      have hskip : skipDigits (k' + 1) c' = c' := by simp [skipDigits, Cursor.peek?, h, hb]
      rw [hskip, hc']
      rfl
  | k + 1, 0, _, _, _, _, hk, _ => by omega
  | k + 1, k' + 1, c, c', tail, hnd, hk, hc' => by
    cases h : c.rest with
    | nil =>
      have hskip : skipDigits (k + 1) c = c := by simp [skipDigits, Cursor.peek?, h]
      rw [hskip, h] at hnd ⊢
      rw [h, List.nil_append] at hc'
      cases ht : tail with
      | nil => simp [skipDigits, Cursor.peek?, hc', ht]
      | cons b bs =>
        have hb : isDigit b = false := hnd b (by simp [ht])
        simp [skipDigits, Cursor.peek?, hc', ht, hb]
    | cons b bs =>
      have hc'' : c'.rest = b :: (bs ++ tail) := by rw [hc', h, List.cons_append]
      by_cases hb : isDigit b = true
      · have hskip : skipDigits (k + 1) c = skipDigits k c.advance := by
          simp [skipDigits, Cursor.peek?, h, hb]
        have hskip' : skipDigits (k' + 1) c' = skipDigits k' c'.advance := by
          simp [skipDigits, Cursor.peek?, hc'', hb]
        rw [hskip] at hnd ⊢
        rw [hskip']
        exact skipDigits_local k k' c.advance c'.advance tail hnd (by omega)
          (by rw [Cursor.advance_rest hc'', Cursor.advance_rest h])
      · have hskip : skipDigits (k + 1) c = c := by simp [skipDigits, Cursor.peek?, h, hb]
        have hskip' : skipDigits (k' + 1) c' = c' := by simp [skipDigits, Cursor.peek?, hc'', hb]
        rw [hskip, hskip', hc', h]

/-- A number reader is local: a run that reads a value from some bytes reads the same value
from those bytes followed by more, with any larger fuel, and stops at the same place, as long
as what follows cannot continue the number. -/
def Local (run : Nat → Cursor → Step Json) : Prop :=
  ∀ (k k' : Nat) (c c' : Cursor) (v : Json) (d : Cursor) (tail : List UInt8),
    run k c = .ok (v, d) → NumberEnds tail → NumberEnds (d.rest ++ tail) → k ≤ k' →
    c'.rest = c.rest ++ tail → ∃ d' : Cursor, d'.rest = d.rest ++ tail ∧ run k' c' = .ok (v, d')

/-- Where the bytes of a reading have run out, what follows shows no continuation. -/
theorem peek_of_ends {c c' : Cursor} {tail : List UInt8} (hr : c.rest = [])
    (hc' : c'.rest = c.rest ++ tail) (hend : NumberEnds tail) :
    c'.rest.head? = none ∨
      ∃ b, c'.rest.head? = some b ∧ isDigit b = false ∧ b ≠ 46 ∧ b ≠ 101 ∧ b ≠ 69 := by
  rw [hr, List.nil_append] at hc'
  cases ht : tail with
  | nil => simp [hc', ht]
  | cons b bs => exact Or.inr ⟨b, by simp [hc', ht], hend b (by simp [ht])⟩

theorem peek_of_cons {c c' : Cursor} {tail bs : List UInt8} {b : UInt8} (hr : c.rest = b :: bs)
    (hc' : c'.rest = c.rest ++ tail) : c'.rest = b :: (bs ++ tail) := by
  rw [hc', hr, List.cons_append]

theorem fromParts_local (positive : Bool) (sig : Nat) (exp : Int) :
    Local (fun _ c => fromParts positive sig exp c) := by
  intro k k' c c' v d tail h _ _ _ hc'
  simp only [fromParts] at h ⊢
  split at h
  · cases h
  · next f hf =>
    simp only [Except.ok.injEq, Prod.mk.injEq] at h
    obtain ⟨rfl, rfl⟩ := h
    exact ⟨c', hc', by simp⟩

theorem exponentOverflow_local (positive zeroSig positiveExp : Bool) :
    Local (fun k c => exponentOverflow k positive zeroSig positiveExp c) := by
  intro k k' c c' v d tail h _ hend' hk hc'
  simp only [exponentOverflow] at h ⊢
  split at h
  · cases h
  · next hz =>
    simp only [Except.ok.injEq, Prod.mk.injEq] at h
    obtain ⟨rfl, rfl⟩ := h
    refine ⟨_, skipDigits_local k k' c c' tail hend'.noDigitHead hk hc', ?_⟩
    simp [hz]

theorem exponentDigits_local (positive : Bool) (sig : Nat) (start : Int) (positiveExp : Bool) :
    ∀ exp, Local (fun k c => exponentDigits positive sig start positiveExp k exp c) := by
  intro exp k
  induction k generalizing exp with
  | zero => intro k' c c' v d tail h; simp [exponentDigits] at h
  | succ k ih =>
    intro k' c c' v d tail h hend hend' hk hc'
    dsimp only at h ⊢
    obtain ⟨k', rfl⟩ : ∃ j, k' = j + 1 := ⟨k' - 1, by omega⟩
    have hfin := fromParts_local positive sig
      (if positiveExp then clampI32 (start + exp) else clampI32 (start - exp))
    cases hr : c.rest with
    | nil =>
      have h1 : exponentDigits positive sig start positiveExp (k + 1) exp c =
          exponentDigits.finish positive sig start positiveExp exp c := by
        simp [exponentDigits, hr]
      have h2 : exponentDigits positive sig start positiveExp (k' + 1) exp c' =
          exponentDigits.finish positive sig start positiveExp exp c' := by
        rcases peek_of_ends hr hc' hend with hp | ⟨b, hp, hb, -⟩
        · simp [exponentDigits, hp]
        · simp [exponentDigits, hp, hb]
      rw [h1] at h
      rw [h2]
      exact hfin k k' c c' v d tail h hend hend' (by omega) hc'
    | cons b bs =>
      have hc'' := peek_of_cons hr hc'
      have had : c'.advance.rest = c.advance.rest ++ tail := by
        rw [Cursor.advance_rest hc'', Cursor.advance_rest hr]
      by_cases hb : isDigit b = true
      · by_cases ho : overflowsI32 exp (digitVal b) = true
        · simp [exponentDigits, hr, hb, ho] at h
          obtain ⟨d', hd', hrun⟩ := exponentOverflow_local positive (sig == 0) positiveExp
            k k' c.advance c'.advance v d tail h hend hend' (by omega) had
          exact ⟨d', hd', by simp [exponentDigits, hc'', hb, ho, hrun]⟩
        · simp [exponentDigits, hr, hb, ho] at h
          obtain ⟨d', hd', hrun⟩ := ih _ k' c.advance c'.advance v d tail h hend hend' (by omega) had
          exact ⟨d', hd', by simp [exponentDigits, hc'', hb, ho, hrun]⟩
      · simp [exponentDigits, hr, hb] at h
        obtain ⟨d', hd', hrun⟩ := hfin k k' c c' v d tail h hend hend' (by omega) hc'
        exact ⟨d', hd', by simp [exponentDigits, hc'', hb, exponentDigits.finish, hrun]⟩

/-- The first digit of an exponent, after its `e` and its sign, starts the exponent digits. -/
theorem exponentStart_local (positive : Bool) (sig : Nat) (start : Int) (positiveExp : Bool) :
    Local (fun k c => match c.next? with
      | none => .error (c.fail .eofValue)
      | some (b, d) =>
        if isDigit b then exponentDigits positive sig start positiveExp k (digitVal b) d
        else .error (d.fail .invalidNumber)) := by
  intro k k' c c' v d tail h hend hend' hk hc'
  dsimp only at h ⊢
  cases hr : c.rest with
  | nil => simp [Cursor.next?, hr] at h
  | cons b bs =>
    have hc'' := peek_of_cons hr hc'
    by_cases hb : isDigit b = true
    · simp only [Cursor.next?_of_rest hr, hb, if_true] at h
      obtain ⟨d', hd', hrun⟩ := exponentDigits_local positive sig start positiveExp (digitVal b)
        k k' c.advance c'.advance v d tail h hend hend' hk
        (by rw [Cursor.advance_rest hc'', Cursor.advance_rest hr])
      exact ⟨d', hd', by simp [Cursor.next?_of_rest hc'', hb, hrun]⟩
    · simp [Cursor.next?_of_rest hr, hb] at h

theorem readExponent_local (positive : Bool) (sig : Nat) (start : Int) :
    Local (fun k c => readExponent k positive sig start c) := by
  intro k k' c c' v d tail h hend hend' hk hc'
  dsimp only at h ⊢
  cases hr : c.rest with
  | nil =>
    have ha : c.advance.rest = [] := by simp [Cursor.advance, hr]
    simp [readExponent, Cursor.next?, ha] at h
  | cons b bs =>
    have hc'' := peek_of_cons hr hc'
    have ha := Cursor.advance_rest hr
    have ha' := Cursor.advance_rest hc''
    have hstart := fun e => exponentStart_local positive sig start e k k'
    cases bs with
    | nil => simp [readExponent, Cursor.next?, ha] at h
    | cons x xs =>
      by_cases hsign : x = 43 ∨ x = 45
      · -- a sign: the digits start one byte further on
        have hb := Cursor.advance_rest ha
        have hb' := Cursor.advance_rest ha'
        rcases hsign with rfl | rfl
        · simp only [readExponent, ha, ha', Cursor.peek?_eq, List.head?_cons,
            List.cons_append] at h ⊢
          exact hstart true _ _ v d tail h hend hend' hk (by rw [hb, hb']; rfl)
        · simp only [readExponent, ha, ha', Cursor.peek?_eq, List.head?_cons,
            List.cons_append] at h ⊢
          exact hstart false _ _ v d tail h hend hend' hk (by rw [hb, hb']; rfl)
      · -- no sign: the digits start right after the `e`
        simp only [not_or] at hsign
        simp only [List.cons_append] at ha'
        simp [readExponent, ha, hsign.1, hsign.2] at h
        simp only [readExponent, ha', Cursor.peek?_eq, List.head?_cons]
        simp [hsign.1, hsign.2]
        exact hstart true _ _ v d tail h hend hend' hk (by rw [ha, ha', List.cons_append])

theorem afterFraction_local (positive : Bool) (sig : Nat) (exp : Int) :
    Local (fun k c => afterFraction k positive sig exp c) := by
  intro k k' c c' v d tail h hend hend' hk hc'
  dsimp only at h ⊢
  cases hr : c.rest with
  | nil =>
    simp [afterFraction, hr] at h
    obtain ⟨d', hd', hrun⟩ := fromParts_local positive sig exp k k' c c' v d tail h hend hend' hk hc'
    rcases peek_of_ends hr hc' hend with hp | ⟨b, hp, -, -, h101, h69⟩
    · exact ⟨d', hd', by simp [afterFraction, hp, hrun]⟩
    · exact ⟨d', hd', by simp [afterFraction, hp, h101, h69, hrun]⟩
  | cons b bs =>
    have hc'' := peek_of_cons hr hc'
    by_cases he : b = 101 ∨ b = 69
    · have hh : afterFraction k positive sig exp c = readExponent k positive sig exp c := by
        rcases he with rfl | rfl <;> simp [afterFraction, hr]
      have hh' : afterFraction k' positive sig exp c' = readExponent k' positive sig exp c' := by
        rcases he with rfl | rfl <;> simp [afterFraction, hc'']
      rw [hh] at h
      rw [hh']
      exact readExponent_local positive sig exp k k' c c' v d tail h hend hend' hk hc'
    · simp only [not_or] at he
      simp [afterFraction, hr, he.1, he.2] at h
      obtain ⟨d', hd', hrun⟩ := fromParts_local positive sig exp k k' c c' v d tail h hend hend' hk hc'
      exact ⟨d', hd', by simp [afterFraction, hc'', he.1, he.2, hrun]⟩

theorem fromParts_cursor {positive : Bool} {sig : Nat} {exp : Int} {c : Cursor} {v : Json}
    {d : Cursor} (h : fromParts positive sig exp c = .ok (v, d)) : d = c := by
  simp only [fromParts] at h
  split at h
  · cases h
  · simp only [Except.ok.injEq, Prod.mk.injEq] at h
    exact h.2.symm

/-- Where a fraction read to its end goes on, it does not go on with a digit. -/
theorem afterFraction_noDigitHead {k : Nat} {positive : Bool} {sig : Nat} {exp : Int}
    {e : Cursor} {v : Json} {d : Cursor} {tail : List UInt8}
    (h : afterFraction k positive sig exp e = .ok (v, d)) (hend : NumberEnds tail)
    (hend' : NumberEnds (d.rest ++ tail)) : NoDigitHead (e.rest ++ tail) := by
  cases hr : e.rest with
  | nil => exact hend.noDigitHead
  | cons b bs =>
    by_cases he : b = 101 ∨ b = 69
    · intro x hx
      simp only [List.cons_append, List.head?_cons, Option.mem_def, Option.some.injEq] at hx
      subst hx
      rcases he with rfl | rfl <;> decide
    · simp only [not_or] at he
      simp [afterFraction, hr, he.1, he.2] at h
      rw [← hr, ← fromParts_cursor h]
      exact hend'.noDigitHead

theorem fractionDone_local (positive : Bool) (before : Int) (sig : Nat) (after : Int) :
    Local (fun k c => fractionDigits.done positive before k sig after c) := by
  intro k k' c c' v d tail h hend hend' hk hc'
  dsimp only [fractionDigits.done] at h ⊢
  split at h
  · split at h <;> cases h
  · next h0 =>
    obtain ⟨d', hd', hrun⟩ := afterFraction_local positive sig (before + after) k k' c c' v d tail
      h hend hend' hk hc'
    exact ⟨d', hd', by simp [h0, hrun]⟩

theorem fractionDigits_local (positive : Bool) (before : Int) :
    ∀ sig after, Local (fun k c => fractionDigits positive before k sig after c) := by
  intro sig after k
  induction k generalizing sig after with
  | zero => intro k' c c' v d tail h; simp [fractionDigits] at h
  | succ k ih =>
    intro k' c c' v d tail h hend hend' hk hc'
    dsimp only at h ⊢
    obtain ⟨k', rfl⟩ : ∃ j, k' = j + 1 := ⟨k' - 1, by omega⟩
    have hdone := fractionDone_local positive before sig after k k' c c' v d tail
    cases hr : c.rest with
    | nil =>
      simp [fractionDigits, hr] at h
      obtain ⟨d', hd', hrun⟩ := hdone h hend hend' (by omega) hc'
      rcases peek_of_ends hr hc' hend with hp | ⟨b, hp, hb, -⟩
      · exact ⟨d', hd', by simp [fractionDigits, hp, hrun]⟩
      · exact ⟨d', hd', by simp [fractionDigits, hp, hb, hrun]⟩
    | cons b bs =>
      have hc'' := peek_of_cons hr hc'
      have had : c'.advance.rest = c.advance.rest ++ tail := by
        rw [Cursor.advance_rest hc'', Cursor.advance_rest hr]
      by_cases hb : isDigit b = true
      · by_cases ho : overflowsU64 sig (digitVal b) = true
        · -- the significand is full: the remaining digits are skipped
          simp [fractionDigits, hr, hb, ho] at h
          have hskip := skipDigits_local k k' c c' tail
            (afterFraction_noDigitHead h hend hend') (by omega) hc'
          obtain ⟨d', hd', hrun⟩ := afterFraction_local positive sig (before + after) k k'
            (skipDigits k c) (skipDigits k' c') v d tail h hend hend' (by omega) hskip
          exact ⟨d', hd', by simp [fractionDigits, hc'', hb, ho, hrun]⟩
        · simp [fractionDigits, hr, hb, ho] at h
          obtain ⟨d', hd', hrun⟩ := ih _ _ k' c.advance c'.advance v d tail h hend hend'
            (by omega) had
          exact ⟨d', hd', by simp [fractionDigits, hc'', hb, ho, hrun]⟩
      · simp [fractionDigits, hr, hb] at h
        obtain ⟨d', hd', hrun⟩ := hdone h hend hend' (by omega) hc'
        exact ⟨d', hd', by simp [fractionDigits, hc'', hb, hrun]⟩

theorem readFraction_local (positive : Bool) (sig : Nat) (before : Int) :
    Local (fun k c => readFraction k positive sig before c) := by
  intro k k' c c' v d tail h hend hend' hk hc'
  dsimp only [readFraction] at h ⊢
  cases hr : c.rest with
  | nil =>
    -- a point with nothing after it is no number
    have ha : c.advance.rest = [] := by simp [Cursor.advance, hr]
    cases k with
    | zero => simp [fractionDigits] at h
    | succ k => simp [fractionDigits, fractionDigits.done, ha] at h
  | cons b bs =>
    have hc'' := peek_of_cons hr hc'
    exact fractionDigits_local positive before sig 0 k k' c.advance c'.advance v d tail h hend
      hend' hk (by rw [Cursor.advance_rest hc'', Cursor.advance_rest hr])

/-- Bytes after which an integer part is complete: no `.` and no exponent mark. -/
def IntegerEnds (bs : List UInt8) : Prop := ∀ b ∈ bs.head?, b ≠ 46 ∧ b ≠ 101 ∧ b ≠ 69

theorem afterInteger_of_ends {k : Nat} {positive : Bool} {sig : Nat} {c : Cursor}
    (hc : IntegerEnds c.rest) :
    afterInteger k positive sig c = (if positive then .ok (.int sig, c)
      else if sig == 0 then .ok (.float (-0.0), c)
      else if sig ≤ Nat.pow 2 63 then .ok (.int (-(sig : Int)), c)
      else .ok (.float (-(UInt64.ofNat sig).toFloat), c)) := by
  cases hr : c.rest with
  | nil => simp [afterInteger, hr]
  | cons b bs =>
    obtain ⟨h46, h101, h69⟩ := hc b (by simp [hr])
    simp [afterInteger, hr, h46, h101, h69]

/-- A complete integer part gives the same value wherever the cursor stands. -/
theorem afterInteger_fallthrough {k : Nat} (k' : Nat) {positive : Bool} {sig : Nat} {c c' : Cursor}
    {v : Json} {d : Cursor} (hc : IntegerEnds c.rest) (hc' : IntegerEnds c'.rest)
    (h : afterInteger k positive sig c = .ok (v, d)) :
    d = c ∧ afterInteger k' positive sig c' = .ok (v, c') := by
  rw [afterInteger_of_ends hc] at h
  rw [afterInteger_of_ends hc']
  split_ifs at h ⊢ <;> simp_all

theorem afterInteger_local (positive : Bool) (sig : Nat) :
    Local (fun k c => afterInteger k positive sig c) := by
  intro k k' c c' v d tail h hend hend' hk hc'
  dsimp only at h ⊢
  cases hr : c.rest with
  | nil =>
    have hi : IntegerEnds c'.rest := by
      rcases peek_of_ends hr hc' hend with hp | ⟨b, hp, -, h46, h101, h69⟩ <;>
        intro x hx <;> simp_all
    obtain ⟨rfl, hrun⟩ := afterInteger_fallthrough k' (by simp [IntegerEnds, hr]) hi h
    exact ⟨c', hc', hrun⟩
  | cons b bs =>
    have hc'' := peek_of_cons hr hc'
    by_cases h46 : b = 46
    · subst h46
      simp [afterInteger, hr] at h
      obtain ⟨d', hd', hrun⟩ := readFraction_local positive sig 0 k k' c c' v d tail h hend hend'
        hk hc'
      exact ⟨d', hd', by simp [afterInteger, hc'', hrun]⟩
    by_cases he : b = 101 ∨ b = 69
    · have hh : afterInteger k positive sig c = readExponent k positive sig 0 c := by
        rcases he with rfl | rfl <;> simp [afterInteger, hr]
      have hh' : afterInteger k' positive sig c' = readExponent k' positive sig 0 c' := by
        rcases he with rfl | rfl <;> simp [afterInteger, hc'']
      rw [hh] at h
      rw [hh']
      exact readExponent_local positive sig 0 k k' c c' v d tail h hend hend' hk hc'
    simp only [not_or] at he
    have hi : IntegerEnds c.rest := by intro x hx; simp_all
    have hi' : IntegerEnds c'.rest := by intro x hx; simp_all
    obtain ⟨rfl, hrun⟩ := afterInteger_fallthrough k' hi hi' h
    exact ⟨c', hc', hrun⟩

theorem isDigit_101 : isDigit 101 = false := by decide

theorem isDigit_69 : isDigit 69 = false := by decide

theorem longDigits_local (positive : Bool) (sig : Nat) :
    ∀ exp, Local (fun k c => longDigits positive sig k exp c) := by
  intro exp k
  induction k generalizing exp with
  | zero => intro k' c c' v d tail h; simp [longDigits] at h
  | succ k ih =>
    intro k' c c' v d tail h hend hend' hk hc'
    dsimp only at h ⊢
    obtain ⟨k', rfl⟩ : ∃ j, k' = j + 1 := ⟨k' - 1, by omega⟩
    have hparts := fromParts_local positive sig exp k k' c c' v d tail
    cases hr : c.rest with
    | nil =>
      simp [longDigits, hr] at h
      obtain ⟨d', hd', hrun⟩ := hparts h hend hend' (by omega) hc'
      rcases peek_of_ends hr hc' hend with hp | ⟨b, hp, hb, h46, h101, h69⟩
      · exact ⟨d', hd', by simp [longDigits, hp, hrun]⟩
      · exact ⟨d', hd', by simp [longDigits, hp, hb, h46, h101, h69, hrun]⟩
    | cons b bs =>
      have hc'' := peek_of_cons hr hc'
      by_cases hb : isDigit b = true
      · simp [longDigits, hr, hb] at h
        obtain ⟨d', hd', hrun⟩ := ih _ k' c.advance c'.advance v d tail h hend hend' (by omega)
          (by rw [Cursor.advance_rest hc'', Cursor.advance_rest hr])
        exact ⟨d', hd', by simp [longDigits, hc'', hb, hrun]⟩
      by_cases h46 : b = 46
      · subst h46
        simp [longDigits, hr, hb] at h
        obtain ⟨d', hd', hrun⟩ := readFraction_local positive sig exp k k' c c' v d tail h hend
          hend' (by omega) hc'
        exact ⟨d', hd', by simp [longDigits, hc'', hb, hrun]⟩
      by_cases he : b = 101 ∨ b = 69
      · have hh : longDigits positive sig (k + 1) exp c = readExponent k positive sig exp c := by
          rcases he with rfl | rfl <;> simp [longDigits, hr, isDigit_101, isDigit_69]
        have hh' : longDigits positive sig (k' + 1) exp c' = readExponent k' positive sig exp c' := by
          rcases he with rfl | rfl <;> simp [longDigits, hc'', isDigit_101, isDigit_69]
        rw [hh] at h
        rw [hh']
        exact readExponent_local positive sig exp k k' c c' v d tail h hend hend' (by omega) hc'
      simp only [not_or] at he
      simp [longDigits, hr, hb, h46, he.1, he.2] at h
      obtain ⟨d', hd', hrun⟩ := hparts h hend hend' (by omega) hc'
      exact ⟨d', hd', by simp [longDigits, hc'', hb, h46, he.1, he.2, hrun]⟩

theorem integerDigits_local (positive : Bool) :
    ∀ sig, Local (fun k c => integerDigits positive k sig c) := by
  intro sig k
  induction k generalizing sig with
  | zero => intro k' c c' v d tail h; simp [integerDigits] at h
  | succ k ih =>
    intro k' c c' v d tail h hend hend' hk hc'
    dsimp only at h ⊢
    obtain ⟨k', rfl⟩ : ∃ j, k' = j + 1 := ⟨k' - 1, by omega⟩
    have hint := afterInteger_local positive sig k k' c c' v d tail
    cases hr : c.rest with
    | nil =>
      simp [integerDigits, hr] at h
      obtain ⟨d', hd', hrun⟩ := hint h hend hend' (by omega) hc'
      rcases peek_of_ends hr hc' hend with hp | ⟨b, hp, hb, -⟩
      · exact ⟨d', hd', by simp [integerDigits, hp, hrun]⟩
      · exact ⟨d', hd', by simp [integerDigits, hp, hb, hrun]⟩
    | cons b bs =>
      have hc'' := peek_of_cons hr hc'
      by_cases hb : isDigit b = true
      · by_cases ho : overflowsU64 sig (digitVal b) = true
        · -- the significand is full: the remaining integer digits raise the exponent
          simp [integerDigits, hr, hb, ho] at h
          obtain ⟨d', hd', hrun⟩ := longDigits_local positive sig 0 k k' c c' v d tail h hend
            hend' (by omega) hc'
          exact ⟨d', hd', by simp [integerDigits, hc'', hb, ho, hrun]⟩
        · simp [integerDigits, hr, hb, ho] at h
          obtain ⟨d', hd', hrun⟩ := ih _ k' c.advance c'.advance v d tail h hend hend' (by omega)
            (by rw [Cursor.advance_rest hc'', Cursor.advance_rest hr])
          exact ⟨d', hd', by simp [integerDigits, hc'', hb, ho, hrun]⟩
      · simp [integerDigits, hr, hb] at h
        obtain ⟨d', hd', hrun⟩ := hint h hend hend' (by omega) hc'
        exact ⟨d', hd', by simp [integerDigits, hc'', hb, hrun]⟩

/-- Reading a whole number is local. -/
theorem readNumber_local (positive : Bool) : Local (fun k c => readNumber k positive c) := by
  intro k k' c c' v d tail h hend hend' hk hc'
  dsimp only at h ⊢
  cases hr : c.rest with
  | nil => simp [readNumber, Cursor.next?, hr] at h
  | cons b bs =>
    have hc'' := peek_of_cons hr hc'
    have ha := Cursor.advance_rest hr
    have ha' := Cursor.advance_rest hc''
    have had : c'.advance.rest = c.advance.rest ++ tail := by rw [ha, ha']
    by_cases h48 : b = 48
    · -- a leading zero: what follows it must not be a digit
      subst h48
      have hint := afterInteger_local positive 0 k k' c.advance c'.advance v d tail
      cases bs with
      | nil =>
        simp [readNumber, Cursor.next?_of_rest hr, ha] at h
        obtain ⟨d', hd', hrun⟩ := hint h hend hend' hk had
        rcases peek_of_ends ha had hend with hp | ⟨x, hp, hx, -⟩
        · exact ⟨d', hd', by simp [readNumber, Cursor.next?_of_rest hc'', hp, hrun]⟩
        · exact ⟨d', hd', by simp [readNumber, Cursor.next?_of_rest hc'', hp, hx, hrun]⟩
      | cons x xs =>
        have hx : isDigit x = false := by
          by_contra hx
          rw [Bool.not_eq_false] at hx
          simp [readNumber, Cursor.next?_of_rest hr, ha, hx] at h
        simp [readNumber, Cursor.next?_of_rest hr, ha, hx] at h
        obtain ⟨d', hd', hrun⟩ := hint h hend hend' hk had
        exact ⟨d', hd', by simp [readNumber, Cursor.next?_of_rest hc'', ha', hx, hrun]⟩
    · by_cases hb : isDigit b = true
      · simp [readNumber, Cursor.next?_of_rest hr, h48, hb] at h
        obtain ⟨d', hd', hrun⟩ := integerDigits_local positive (digitVal b) k k' c.advance
          c'.advance v d tail h hend hend' hk had
        exact ⟨d', hd', by simp [readNumber, Cursor.next?_of_rest hc'', h48, hb, hrun]⟩
      · simp [readNumber, Cursor.next?_of_rest hr, h48, hb] at h

/-! ### Numbers among other values -/

theorem skipBlanks_append_rest : ∀ (rest tail : List UInt8) (l k l' k' : Nat),
    (skipBlanks rest l k).rest ≠ [] →
      (skipBlanks (rest ++ tail) l' k').rest = (skipBlanks rest l k).rest ++ tail
  | [], _, _, _, _, _, h => by simp [skipBlanks] at h
  | b :: bs, tail, l, k, l', k', h => by
    simp only [List.cons_append, skipBlanks] at h ⊢
    split_ifs at h ⊢ with h1 h2
    · exact skipBlanks_append_rest bs tail _ _ _ _ h
    · exact skipBlanks_append_rest bs tail _ _ _ _ h
    · rfl

/-- A skip that runs to the end of the text passed over blanks only. -/
theorem skipBlanks_eq_nil : ∀ (rest : List UInt8) (l k : Nat), (skipBlanks rest l k).rest = [] →
    ∀ b ∈ rest, IsBlank b
  | [], _, _, _ => by simp
  | b :: bs, l, k, h => by
    simp only [skipBlanks] at h
    split_ifs at h with h1 h2
    · intro x hx
      rcases List.mem_cons.mp hx with rfl | hx
      · simp only [Bool.or_eq_true, beq_iff_eq] at h1
        rcases h1 with (h | h) | h <;> simp [IsBlank, h]
      · exact skipBlanks_eq_nil bs _ _ h x hx
    · intro x hx
      rcases List.mem_cons.mp hx with rfl | hx
      · simp only [beq_iff_eq] at h2
        simp [IsBlank, h2]
      · exact skipBlanks_eq_nil bs _ _ h x hx

theorem numberEnds_blanks {w tail : List UInt8} (hw : ∀ b ∈ w, IsBlank b) (ht : NumberEnds tail) :
    NumberEnds (w ++ tail) := by
  cases w with
  | nil => simpa using ht
  | cons b bs =>
    intro x hx
    simp only [List.cons_append, List.head?_cons, Option.mem_def, Option.some.injEq] at hx
    subst hx
    rcases hw b (by simp) with rfl | rfl | rfl | rfl <;> decide

/-- A value read as a double was read as a number, after a `-` or from its first digit. -/
theorem readValue_eq_float {k budget : Nat} {c : Cursor} {f : Float} {d : Cursor}
    (h : readValue k budget c = .ok (.float f, d)) :
    (c.skip.rest.head? = some 45 ∧ readNumber k false c.skip.advance = .ok (.float f, d)) ∨
      (∃ b, c.skip.rest.head? = some b ∧ b ≠ 45 ∧ isDigit b = true ∧
        readNumber k true c.skip = .ok (.float f, d)) := by
  unfold readValue at h
  simp only [Cursor.peek?_eq] at h
  split at h
  · cases h
  · next b hb =>
    split_ifs at h with h110 h116 h102 h45 hdig h34 h91 h123
    · simp [Except.map] at h; split at h <;> simp at h
    · simp [Except.map] at h; split at h <;> simp at h
    · simp [Except.map] at h; split at h <;> simp at h
    · simp only [beq_iff_eq] at h45
      exact Or.inl ⟨h45 ▸ hb, h⟩
    · simp only [beq_iff_eq] at h45
      exact Or.inr ⟨b, hb, h45, hdig, h⟩
    · simp [Except.map] at h; split at h <;> simp at h
    · split at h
      · cases h
      · cases h
      · split at h <;> simp at h
    · split at h
      · cases h
      · cases h
      · split at h <;> simp at h

end QueryDoc.Json
