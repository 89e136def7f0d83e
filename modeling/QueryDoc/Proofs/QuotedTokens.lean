import QueryDoc.Sql.Render
import QueryDoc.Store.Token

/-!
Quoted text read back by a lexer.

String literals and quoted identifiers are written by one scheme: an opening character, the
text with its closing character written twice, the closing character. The dialects' lexers
read them by one rule (`readDelimited`): after the opening character, everything up to a
closing character that is not doubled, a doubled one standing for itself. That is the rule of
standard string literals, of `"` names in PostgreSQL and SQLite and of `[` names in SQL Server;
the store's lexer reads `'` and `"` so (`Store.readToken`).

Followed by more text, the written form is consumed whole, and the value starts with the text.
It is consumed exactly, with the text as its value, unless what follows starts with the
closing character, which pairs with the written one as an escape: `'a'` followed by `'b'` is
the literal `a'b` (`literal_then_quote_runs_on`). Main statement: `quoted_text_read_back`.
-/

namespace QueryDoc.Store

/-! ### Reading the inside -/

/-- A character other than the closing one is part of the token's value. -/
theorem readQuoted_other {q c : Char} (hc : c ≠ q) (cs acc : List Char) :
    readQuoted q (c :: cs) acc = readQuoted q cs (c :: acc) := by
  cases cs <;> simp [readQuoted, hc]

/-- A closing character followed by another one is an escape: the token goes on. -/
theorem readQuoted_doubled (q : Char) (rest acc : List Char) :
    readQuoted q (q :: q :: rest) acc = readQuoted q rest (q :: acc) := by
  simp [readQuoted]

/-- A closing character not followed by another one closes the token. -/
theorem readQuoted_close {q : Char} {rest : List Char} (hrest : rest.head? ≠ some q)
    (acc : List Char) :
    readQuoted q (q :: rest) acc = some (String.ofList acc.reverse, rest) := by
  cases rest with
  | nil => simp [readQuoted]
  | cons d ds =>
    have hd : d ≠ q := fun h => hrest (by rw [h]; rfl)
    simp [readQuoted, hd]

/-- Reading on from one more character keeps the characters before it. -/
theorem reverse_prefix_of_cons {c : Char} {acc l : List Char} (h : (c :: acc).reverse <+: l) :
    acc.reverse <+: l :=
  (List.prefix_append _ _).trans (by simpa using h)

/-- The value of a token read on from `acc` starts with `acc`'s characters, and the token
takes in at least the first character: the text after it is what follows some of the rest. -/
theorem readQuoted_extends {q : Char} :
    ∀ {cs acc : List Char} {v : String} {after : List Char},
      readQuoted q cs acc = some (v, after) → acc.reverse <+: v.toList ∧ after <:+ cs.tail
  | [], _, _, _, h => by cases h
  | [c], acc, v, after, h => by
    by_cases hc : c = q
    · subst hc
      rw [readQuoted_close (by simp)] at h
      cases h
      simp
    · rw [readQuoted_other hc] at h
      cases h
  | c :: d :: ds, acc, v, after, h => by
    by_cases hc : c = q
    · subst hc
      by_cases hd : d = c
      · -- a doubled closing character: read on, two characters further
        subst hd
        rw [readQuoted_doubled] at h
        obtain ⟨hstarts, hsuffix⟩ := readQuoted_extends h
        exact ⟨reverse_prefix_of_cons hstarts,
          hsuffix.trans ((List.tail_suffix ds).trans (List.suffix_cons _ _))⟩
      · rw [readQuoted_close (by simpa using hd)] at h
        cases h
        exact ⟨by simp, List.suffix_refl _⟩
    · rw [readQuoted_other hc] at h
      obtain ⟨hstarts, hsuffix⟩ := readQuoted_extends h
      exact ⟨reverse_prefix_of_cons hstarts, hsuffix.trans (List.suffix_cons _ _)⟩

/-- The store's lexer reads a token opened by `'` as a string, by the rule of `readDelimited`. -/
theorem readToken_quote (cs : List Char) :
    readToken ('\'' :: cs) =
      match readQuoted '\'' cs [] with
      | some (s, after) => (.string s, after)
      | none => (.illegal, []) := rfl

/-- The store's lexer reads a token opened by `"` as a name, by the rule of `readDelimited`. -/
theorem readToken_doubleQuote (cs : List Char) :
    readToken ('"' :: cs) =
      match readQuoted '"' cs [] with
      | some (s, after) => (.quotedName s, after)
      | none => (.illegal, []) := rfl

end QueryDoc.Store

namespace QueryDoc.Sql

/-- The inside of a quoted text: the closing character `q` is written twice. -/
def escapeWith (q : Char) (cs : List Char) : List Char :=
  cs.flatMap fun c => if c == q then [c, c] else [c]

/-- A lexer reading a delimited token that opens with `openC` and closes with `closeC`, a
doubled `closeC` standing for one: the token's value and the text after it, or nothing when
the text does not open the token or the token never closes. -/
def readDelimited (openC closeC : Char) : List Char → Option (String × List Char)
  | c :: rest => if c = openC then Store.readQuoted closeC rest [] else none
  | [] => none

theorem quoteLiteral_toList (s : String) :
    (quoteLiteral s).toList = '\'' :: escapeWith '\'' s.toList ++ ['\''] := by
  simp [quoteLiteral, escapeWith, String.toList_append]

theorem Dialect.quote_toList (d : Dialect) (s : String) :
    (d.quote s).toList = d.quoteChars.1 :: escapeWith d.quoteChars.2 s.toList ++ [d.quoteChars.2] := by
  cases d <;> simp [Dialect.quote, Dialect.quoteChars, escapeWith, String.toList_append]

/-- Reading escaped text takes it into the token's value, whatever follows. -/
theorem readQuoted_escapeWith (q : Char) (rest : List Char) :
    ∀ (cs acc : List Char),
      Store.readQuoted q (escapeWith q cs ++ rest) acc = Store.readQuoted q rest (cs.reverse ++ acc)
  | [], acc => rfl
  | c :: cs, acc => by
    by_cases hc : c = q
    · -- a closing character written twice is read back as one
      subst hc
      have hwritten : escapeWith c (c :: cs) ++ rest = c :: c :: (escapeWith c cs ++ rest) := by
        simp [escapeWith]
      rw [hwritten, Store.readQuoted_doubled, readQuoted_escapeWith c rest cs]
      simp
    · have hwritten : escapeWith q (c :: cs) ++ rest = c :: (escapeWith q cs ++ rest) := by
        simp [escapeWith, hc]
      rw [hwritten, Store.readQuoted_other hc, readQuoted_escapeWith q rest cs]
      simp

/-! ### Reading written text -/

section Delimited

variable {openC closeC : Char} {s rest : List Char}

/-- The inside and closing character of written text, followed by text that does not start
with the closing character, are read back exactly. -/
theorem readQuoted_written (hrest : rest.head? ≠ some closeC) :
    Store.readQuoted closeC (escapeWith closeC s ++ closeC :: rest) [] =
      some (String.ofList s, rest) := by
  rw [readQuoted_escapeWith, Store.readQuoted_close hrest]
  simp

theorem readDelimited_written (hrest : rest.head? ≠ some closeC) :
    readDelimited openC closeC (openC :: escapeWith closeC s ++ closeC :: rest) =
      some (String.ofList s, rest) := by
  simp only [readDelimited, if_pos, List.cons_append]
  exact readQuoted_written hrest

/-- Whatever follows written text, a token read from it takes in the whole written form and
has a value that starts with the text. -/
theorem readDelimited_written_extends {v : String} {after : List Char}
    (h : readDelimited openC closeC (openC :: escapeWith closeC s ++ closeC :: rest) =
      some (v, after)) :
    s <+: v.toList ∧ after <:+ rest := by
  simp only [readDelimited, if_pos, List.cons_append] at h
  rw [readQuoted_escapeWith] at h
  -- the token reads on from the closing character, with the text read so far
  simpa using Store.readQuoted_extends h

end Delimited

/-- A written string literal, and a quoted identifier of every dialect, followed by any text,
is read as one token that takes in the whole written form, with a value that starts with the
text written. When the text after does not start with the closing character, the token is
exactly the written form, and its value is the text; the store's lexer reads the literal and
the SQLite name so too. -/
theorem quoted_text_read_back (s : String) (d : Dialect) (rest : List Char) :
    (∀ v after, readDelimited '\'' '\'' ((quoteLiteral s).toList ++ rest) = some (v, after) →
        s.toList <+: v.toList ∧ after <:+ rest) ∧
      (∀ v after, readDelimited d.quoteChars.1 d.quoteChars.2 ((d.quote s).toList ++ rest) =
          some (v, after) → s.toList <+: v.toList ∧ after <:+ rest) ∧
      (rest.head? ≠ some '\'' →
        readDelimited '\'' '\'' ((quoteLiteral s).toList ++ rest) = some (s, rest) ∧
          Store.readToken ((quoteLiteral s).toList ++ rest) = (.string s, rest)) ∧
      (rest.head? ≠ some d.quoteChars.2 →
        readDelimited d.quoteChars.1 d.quoteChars.2 ((d.quote s).toList ++ rest) = some (s, rest)) ∧
      (rest.head? ≠ some '"' →
        Store.readToken ((Dialect.sqlite.quote s).toList ++ rest) = (.quotedName s, rest)) := by
  have hlit : (quoteLiteral s).toList ++ rest =
      '\'' :: escapeWith '\'' s.toList ++ '\'' :: rest := by
    simp [quoteLiteral_toList]
  have hident : ∀ d : Dialect, (d.quote s).toList ++ rest =
      d.quoteChars.1 :: escapeWith d.quoteChars.2 s.toList ++ d.quoteChars.2 :: rest := by
    intro d
    simp [Dialect.quote_toList]
  refine ⟨fun v after h => ?_, fun v after h => ?_, fun hrest => ⟨?_, ?_⟩, fun hrest => ?_,
    fun hrest => ?_⟩
  · rw [hlit] at h
    exact readDelimited_written_extends h
  · rw [hident] at h
    exact readDelimited_written_extends h
  · rw [hlit, readDelimited_written hrest, String.ofList_toList]
  · rw [hlit, List.cons_append, Store.readToken_quote, readQuoted_written hrest,
      String.ofList_toList]
  · rw [hident, readDelimited_written hrest, String.ofList_toList]
  · rw [hident, List.cons_append]
    simp only [Dialect.quoteChars]
    rw [Store.readToken_doubleQuote, readQuoted_written hrest, String.ofList_toList]

theorem apostrophe_and_bracket_read_back :
    readDelimited '\'' '\'' ((quoteLiteral "it's").toList ++ " or".toList) =
        some ("it's", " or".toList) ∧
      Store.readToken ((quoteLiteral "it's").toList ++ " or".toList) =
        (.string "it's", " or".toList) ∧
      readDelimited '[' ']' ((Dialect.sqlServer.quote "a]b").toList ++ " or".toList) =
        some ("a]b", " or".toList) :=
  ⟨((quoted_text_read_back "it's" .sqlServer " or".toList).2.2.1 (by decide)).1,
    ((quoted_text_read_back "it's" .sqlServer " or".toList).2.2.1 (by decide)).2,
    (quoted_text_read_back "a]b" .sqlServer " or".toList).2.2.2.1 (by decide)⟩

/-- The literal `'a'` followed by `'b'` is read as the one literal `a'b`, by the dialects' rule and
by the store's lexer. -/
theorem literal_then_quote_runs_on :
    readDelimited '\'' '\'' ((quoteLiteral "a").toList ++ "'b'".toList) = some ("a'b", []) ∧
      Store.readToken ((quoteLiteral "a").toList ++ "'b'".toList) = (.string "a'b", []) :=
  ⟨rfl, rfl⟩

end QueryDoc.Sql
