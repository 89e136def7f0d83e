import QueryDoc.Store.FullText.Tokenize

/-!
Full-text queries and how their text is read.

A query is built of phrases: terms that must stand one after another in a column. A phrase
can be limited to some columns; a term can stand for every term it begins (`term*`) or be
required to open its column (`^term`). Queries combine with `AND` (also written by putting
two side by side), `OR` and `NOT` (the rows of the left side without those of the right), and
phrases can be required to stand near each other.

Two syntaxes read query text.

The one of the third and fourth versions (`Syntax4`) reads words, quoted phrases, the
keywords `AND`, `OR`, `NOT`, `NEAR` and `NEAR/n`, parentheses and `column:word`. `NEAR`
binds tightest, then `NOT`, `AND` and `OR`; operators of one kind group from the left. A
column can only be named before a single word: before a quote or a parenthesis it ends the
reading of its level. Any fault makes the whole query malformed.

The one of the fifth version (`Syntax5`) reads barewords and quoted strings, `+` between the
parts of a phrase, `*` after one, `^` before one, `NEAR(phrases, n)`, column filters
(`col : ...`, `{a b} : ...`, `- col : ...`) and the keywords `AND`, `OR` and `NOT`; `NOT`
binds tightest and `OR` loosest. A fault is reported at the token where reading cannot go on.
-/

namespace QueryDoc.Store.FullText

/-- A term of a query phrase. -/
structure QueryTerm where
  text : String
  /-- Matches every term that begins with `text`. -/
  truncated : Bool := false
  /-- Must be the first term of its column. -/
  first : Bool := false
  deriving Repr, BEq, Inhabited

/-- Terms that must stand one after another in one column, a column of `columns` (any
column when none is given). -/
structure Phrase where
  terms : List QueryTerm
  columns : Option (List Nat) := none
  deriving Repr, BEq, Inhabited

/-- A full-text query. -/
inductive TextQuery where
  | phrase (p : Phrase)
  /-- Phrases that all stand in one column, no more than `distance` terms apart. -/
  | near (phrases : List Phrase) (distance : Nat)
  /-- Phrases each near the one before it, within the distance its link gives. -/
  | chain (first : Phrase) (links : List (Nat × Phrase))
  | both (l r : TextQuery)
  | either (l r : TextQuery)
  /-- The rows of `l` but not of `r`. -/
  | without (l r : TextQuery)
  /-- A query that no row matches. -/
  | nothing
  deriving Repr, BEq, Inhabited

namespace TextQuery

/-- The phrases of a query, left to right. -/
def phrases : TextQuery → List Phrase
  | .phrase p => [p]
  | .near ps _ => ps
  | .chain p links => p :: links.map (·.2)
  | .both l r => l.phrases ++ r.phrases
  | .either l r => l.phrases ++ r.phrases
  | .without l r => l.phrases ++ r.phrases
  | .nothing => []

end TextQuery

/-- Whether a character is a blank between parts of a query. -/
def isQueryBlank (c : Char) : Bool :=
  c == ' ' || c == '\t' || c == '\n' || c == '\r' || c.toNat == 11 || c.toNat == 12

/-- ASCII lowercase of a text, as a list of characters. -/
def lowerChars (cs : List Char) : List Char := cs.map Stem.lowerAscii

namespace Syntax4

/-- What a query of the third or fourth version is read against. -/
structure Setting where
  tokenizer : Tokenizer
  columns : List String
  /-- The column a word without a column searches; the number of columns stands for all. -/
  defaultColumn : Nat
  /-- Whether `^` before a word pins it to the start of its column (fourth version). -/
  carets : Bool

/-- The operators, from the tightest. -/
inductive Op where
  | near
  | not
  | and
  | or
  deriving BEq, Repr

/-- How tightly an operator binds: lower binds tighter. -/
def Op.rank : Op → Nat
  | .near => 1
  | .not => 2
  | .and => 3
  | .or => 4

/-- A query as read, before runs of `NEAR` become chains. -/
inductive Node where
  | leaf (p : Phrase)
  | op (o : Op) (distance : Nat) (l r : Node)
  deriving Inhabited

/-- The operator at the top of a node, none for a phrase. -/
def Node.top : Node → Option Op
  | .leaf _ => none
  | .op o _ _ _ => some o

/-- What one step of reading gives: an operator, or an operand. -/
inductive Item where
  | keyword (o : Op) (distance : Nat)
  | operand (n : Node)

/-- The result of one step of reading: the end of a level (the text's end, a closing
parenthesis, or a column name followed by nothing a word can be read from), or an item (or
nothing, for text that held no word) with the text after it. -/
inductive Step where
  | done (rest : List Char) (nest : Int)
  | item (it : Option Item) (rest : List Char) (nest : Int)

/-- The columns a phrase of column `col` searches. -/
def columnsOf (s : Setting) (col : Nat) : Option (List Nat) :=
  if col < s.columns.length then some [col] else none

/-- The value of the digits at the start of some characters, and how many there are. -/
def leadingNumber (cs : List Char) : Nat × Nat :=
  let ds := cs.takeWhile Char.isDigit
  (ds.foldl (fun n d => n * 10 + (d.toNat - 48)) 0, ds.length)

/-- A keyword at the start of some characters: it must be written in capitals and be followed
by a blank, a quote, a parenthesis or the end. `NEAR/n` gives a distance; plain `NEAR`, ten.
The operator, its distance and the characters it takes. -/
def keywordAt (cs : List Char) : Option (Op × Nat × Nat) :=
  let attempt (word : String) (o : Op) : Option (Op × Nat × Nat) :=
    let w := word.toList
    if w.isPrefixOf cs then
      let after := cs.drop w.length
      let (dist, extra) : Nat × Nat :=
        match o, after with
        | .near, '/' :: d :: _ =>
          if d.isDigit then
            let (v, k) := leadingNumber (after.drop 1)
            (v, k + 1)
          else (10, 0)
        | _, _ => (10, 0)
      let next := (cs.drop (w.length + extra)).head?
      if next.all (fun c => isQueryBlank c || c == '"' || c == '(' || c == ')') then some (o, dist, w.length + extra)
      else none
    else none
  (attempt "OR" .or).orElse fun _ => (attempt "AND" .and).orElse fun _ =>
    (attempt "NOT" .not).orElse fun _ => attempt "NEAR" .near

/-- The phrase of a quoted string: all its words, in the default column. A word followed by
`*` is truncated; one after `^` opens its column. -/
def quoted (s : Setting) (cs : List Char) : Phrase :=
  let terms := (s.tokenizer.charPieces cs).map fun p =>
    { text := p.term, truncated := cs[p.stop]? == some '*',
      first := p.start > 0 && cs[p.start - 1]? == some '^' : QueryTerm }
  { terms := terms, columns := columnsOf s s.defaultColumn }

/-- Reads the first word of the text before the next quote or parenthesis, as a phrase of one
term in column `col`: a `*` right after it truncates it, a `^` right before it (fourth version)
pins it. Text before a quote or parenthesis that holds no word is passed over; none at all
ends the level. -/
def word (s : Setting) (col : Nat) (cs : List Char) (nest : Int) : Step :=
  let limit := (cs.findIdx? fun c => c == '(' || c == ')' || c == '"').getD cs.length
  match (s.tokenizer.charPieces (cs.take limit)).head? with
  | some p =>
    let truncated := cs[p.stop]? == some '*'
    let stop := if truncated then p.stop + 1 else p.stop
    let first := s.carets && p.start > 0 && cs[p.start - 1]? == some '^'
    let phrase : Phrase := { terms := [{ text := p.term, truncated := truncated, first := first }],
                             columns := columnsOf s col }
    .item (some (.operand (.leaf phrase))) (cs.drop stop) nest
  | none =>
    if limit > 0 then .item none (cs.drop limit) nest
    else .done cs nest

/-- The column a `name:` at the start of some characters names, with the characters it
takes. -/
def columnPrefix (s : Setting) (cs : List Char) : Option (Nat × Nat) :=
  (s.columns.zipIdx.find? fun (name, _) =>
    let n := name.length
    cs.length > n && cs[n]? == some ':' && lowerChars (cs.take n) == lowerChars name.toList).map
    fun (name, i) => (i, name.length + 1)

/-- Checks the items of one level in order and joins them: operands and operators must
alternate (two operands side by side are joined by `AND`), the level may not start or end with
an operator, and `NEAR` may only stand between phrases. The operators then group by how
tightly they bind. -/
def assemble (items : List Item) : Except Unit (Option Node) := do
  let mut requirePhrase := true
  let mut prev : Option (Option Op) := none
  let mut operands : List Node := []
  let mut ops : List (Op × Nat) := []
  for it in items do
    let (isPhrase, kind) : Bool × Option Op := match it with
      | .keyword o _ => (false, some o)
      | .operand n => (true, n.top)
    if !isPhrase && requirePhrase then throw ()
    if isPhrase && !requirePhrase then
      ops := ops ++ [(.and, 10)]
      prev := some (some .and)
    match prev with
    | some pk =>
      if (kind == some .near && !isPhrase && pk != none) || (kind != none && isPhrase && pk == some .near) then
        throw ()
    | none => pure ()
    match it with
    | .keyword o d => ops := ops ++ [(o, d)]
    | .operand n => operands := operands ++ [n]
    requirePhrase := !isPhrase
    prev := some kind
  if !operands.isEmpty && requirePhrase then throw ()
  match operands with
  | [] => pure none
  | first :: more =>
    -- operators that bind at least as tightly as the next one apply first
    let reduce (outs : List Node) (stack : List (Op × Nat)) (rank : Nat) : List Node × List (Op × Nat) :=
      let rec go : Nat → List Node → List (Op × Nat) → List Node × List (Op × Nat)
        | 0, outs, stack => (outs, stack)
        | k + 1, outs, stack =>
          match stack, outs with
          | (o, d) :: st, r :: l :: os => if o.rank ≤ rank then go k (.op o d l r :: os) st else (outs, stack)
          | _, _ => (outs, stack)
      go (stack.length + 1) outs stack
    let (outs, stack) := (ops.zip more).foldl (fun (acc : List Node × List (Op × Nat)) ((o, d), n) =>
      let (outs, stack) := reduce acc.1 acc.2 o.rank
      (n :: outs, (o, d) :: stack)) ([first], [])
    let (outs, _) := reduce outs stack 5
    pure outs.head?

mutual

/-- Reads one item of a query. -/
def next : Nat → Setting → List Char → Int → Except Unit Step
  | 0, _, _, _ => throw ()
  | fuel + 1, s, input, nest => do
    let trimmed := input.dropWhile isQueryBlank
    if trimmed.isEmpty then return .done [] nest
    match keywordAt trimmed with
    | some (o, d, k) => return .item (some (.keyword o d)) (trimmed.drop k) nest
    | none =>
      match trimmed with
      | '"' :: rest =>
        match rest.findIdx? (· == '"') with
        | none => throw ()
        | some k => return .item (some (.operand (.leaf (quoted s (rest.take k))))) (rest.drop (k + 1)) nest
      | '(' :: rest =>
        let (node, after, nest') ← level fuel s rest (nest + 1) []
        return .item (node.map .operand) after nest'
      | ')' :: rest => return .done rest (nest - 1)
      | _ =>
        match columnPrefix s trimmed with
        | some (col, k) => return word s col (trimmed.drop k) nest
        | none => return word s s.defaultColumn input nest

/-- Reads the items of one level until it ends, and joins them. -/
def level : Nat → Setting → List Char → Int → List Item → Except Unit (Option Node × List Char × Int)
  | 0, _, _, _, _ => throw ()
  | fuel + 1, s, input, nest, items => do
    match ← next fuel s input nest with
    | .done rest nest' => return (← assemble items, rest, nest')
    | .item it rest nest' =>
      let items := match it with
        | some i => items ++ [i]
        | none => items
      level fuel s rest nest' items

end

/-- The chain of phrases of a run of `NEAR`, which only ever joins phrases. -/
def nearChain : Node → Option (Phrase × List (Nat × Phrase))
  | .leaf p => some (p, [])
  | .op .near d l (.leaf p) => (nearChain l).map fun (f, links) => (f, links ++ [(d, p)])
  | _ => none

/-- A query from the tree read. -/
def toQuery : Node → TextQuery
  | .leaf p => .phrase p
  | .op .near d l r =>
    match nearChain (.op .near d l r) with
    | some (f, links) => .chain f links
    | none => .both (toQuery l) (toQuery r)
  | .op .not _ l r => .without (toQuery l) (toQuery r)
  | .op .and _ l r => .both (toQuery l) (toQuery r)
  | .op .or _ l r => .either (toQuery l) (toQuery r)

/-- Reads a query; none for a query with nothing to search, which no row matches. -/
def parse (s : Setting) (q : String) : Except Unit (Option TextQuery) := do
  let cs := q.toList
  let (node, _, nest) ← level (4 * cs.length + 8) s cs 0 []
  if nest != 0 then throw ()
  pure (node.map toQuery)

end Syntax4

namespace Syntax5

/-- A token of a query of the fifth version. -/
inductive Tok where
  | lp | rp | lcp | rcp | colon | comma | plus | star | minus | caret | eof
  | and | or | not
  /-- A bareword or a quoted string, as written. -/
  | word (written : String)
  /-- A fault met while splitting the text, reported when reading reaches it. -/
  | fault (message : String)
  deriving BEq, Repr, Inhabited

/-- The text of a token as a fault names it. -/
def Tok.shown : Tok → String
  | .lp => "("
  | .rp => ")"
  | .lcp => "\x7b"
  | .rcp => "\x7d"
  | .colon => ":"
  | .comma => ","
  | .plus => "+"
  | .star => "*"
  | .minus => "-"
  | .caret => "^"
  | .eof => ""
  | .and => "AND"
  | .or => "OR"
  | .not => "NOT"
  | .word w => w
  | .fault _ => ""

/-- Whether a character may stand in a bareword: ASCII letters, digits and `_`, the
character 26, and every character past ASCII. -/
def isBare (c : Char) : Bool := c.isAlphanum || c == '_' || c.toNat == 26 || c.toNat ≥ 0x80

/-- Whether a character is a blank between tokens. -/
def isBlank (c : Char) : Bool := c == ' ' || c == '\t' || c == '\n' || c == '\r'

/-- The message of a syntax fault at a token. -/
def nearMessage (shown : String) : String := "fts5: syntax error near \"" ++ shown ++ "\""

/-- The rest of a quoted string after its opening quote: its characters up to the closing
quote (a doubled quote stands for one, and stays doubled here) and what follows, or none when
it does not end. -/
def quotedRest : List Char → Option (List Char × List Char)
  | [] => none
  | '"' :: '"' :: rest => (quotedRest rest).map fun (body, after) => ('"' :: '"' :: body, after)
  | '"' :: rest => some ([], rest)
  | c :: rest => (quotedRest rest).map fun (body, after) => (c :: body, after)

/-- Splits a query into tokens; a fault ends the list. -/
def tokens (cs : List Char) : List Tok :=
  let rec go : Nat → List Char → List Tok → List Tok
    | 0, _, acc => (Tok.fault "unterminated string" :: acc).reverse
    | fuel + 1, cs, acc =>
      match cs.dropWhile isBlank with
      | [] => (Tok.eof :: acc).reverse
      | c :: rest =>
        let single : Option Tok :=
          if c == '(' then some .lp else if c == ')' then some .rp
          else if c.toNat == 123 then some .lcp else if c.toNat == 125 then some .rcp
          else if c == ':' then some .colon else if c == ',' then some .comma
          else if c == '+' then some .plus else if c == '*' then some .star
          else if c == '-' then some .minus else if c == '^' then some .caret
          else none
        match single with
        | some t => go fuel rest (t :: acc)
        | none =>
          if c == '"' then
            match quotedRest rest with
            | some (body, after) => go fuel after (.word (String.ofList ('"' :: body ++ ['"'])) :: acc)
            | none => (Tok.fault "unterminated string" :: acc).reverse
          else if isBare c then
            let w := c :: rest.takeWhile isBare
            let after := rest.dropWhile isBare
            let t : Tok := match String.ofList w with
              | "OR" => .or
              | "NOT" => .not
              | "AND" => .and
              | s => .word s
            go fuel after (t :: acc)
          else (Tok.fault (nearMessage (String.singleton c)) :: acc).reverse
  go (cs.length + 1) cs []

/-- The text of a word: a quoted string without its quotes, doubled quotes made single. -/
def unquote (w : String) : String :=
  match w.toList with
  | '"' :: rest =>
    let body := rest.dropLast
    let rec undouble : List Char → List Char
      | '"' :: '"' :: more => '"' :: undouble more
      | c :: more => c :: undouble more
      | [] => []
    String.ofList (undouble body)
  | _ => w

/-- What a query of the fifth version is read against. -/
structure Setting where
  tokenizer : Tokenizer
  columns : List String

/-- A reading step over the tokens left. -/
abbrev Reader := StateT (List Tok) (Except String)

/-- The next token, failing at a splitting fault. -/
def peek : Reader Tok := do
  match (← get) with
  | .fault m :: _ => throw m
  | t :: _ => pure t
  | [] => pure .eof

/-- The token after the next. -/
def peekSecond : Reader Tok := do
  match (← get) with
  | _ :: .fault m :: _ => throw m
  | _ :: t :: _ => pure t
  | _ => pure .eof

/-- Moves past the next token. -/
def advance : Reader Unit := modify List.tail

/-- Fails at a token. -/
def failAt {α : Type} (t : Tok) : Reader α := throw (nearMessage t.shown)

/-- Moves past a token that must come next. -/
def expect (t : Tok) : Reader Unit := do
  let n ← peek
  if n == t then advance else failAt n

/-- The column a name in a filter names. -/
def columnNamed (s : Setting) (w : String) : Reader Nat := do
  let name := unquote w
  match s.columns.findIdx? fun c => lowerChars c.toList == lowerChars name.toList with
  | some i => pure i
  | none => throw ("no such column: " ++ name)

/-- Reads a column filter: `name`, `{names}`, or either after `-`, which takes the columns
not named. -/
def colset (s : Setting) : Reader (List Nat) := do
  let invert ← do
    if (← peek) == .minus then advance; pure true else pure false
  let named ← match ← peek with
    | .word w =>
      advance
      let _ ← peek
      pure [← columnNamed s w]
    | .lcp =>
      advance
      let rec names : Nat → List Nat → Reader (List Nat)
        | 0, acc => pure acc
        | k + 1, acc => do
          match ← peek with
          | .word w =>
            advance
            let _ ← peek
            let c ← columnNamed s w
            names k (acc ++ [c])
          | .rcp =>
            if acc.isEmpty then failAt .rcp else advance; pure acc
          | t => failAt t
      names ((← get).length + 1) []
    | t => failAt t
  let all := List.range s.columns.length
  pure (if invert then all.filter (!named.contains ·) else all.filter named.contains)

/-- The terms a word gives: its text split by the tokenizer; `*` after it truncates the last. -/
def wordTerms (s : Setting) (w : String) (star : Bool) : List QueryTerm :=
  let pieces := s.tokenizer.pieces (unquote w)
  let n := pieces.length
  pieces.zipIdx.map fun (p, i) => { text := p.term, truncated := star && i + 1 == n }

/-- Reads a phrase: words joined by `+`, each maybe followed by `*`. -/
def phrase (s : Setting) : Reader Phrase := do
  let rec parts : Nat → List QueryTerm → Reader (List QueryTerm)
    | 0, acc => pure acc
    | k + 1, acc => do
      match ← peek with
      | .word w =>
        advance
        let star ← do if (← peek) == .star then advance; pure true else pure false
        let acc := acc ++ wordTerms s w star
        if (← peek) == .plus then advance; parts k acc else pure acc
      | t => failAt t
  pure { terms := ← parts ((← get).length + 1) [] }

/-- The query of a group of phrases: none for a group whose phrases are all empty but one,
which matches nothing. Empty phrases are left out of a group of several. -/
def groupQuery (ps : List Phrase) (distance : Nat) : TextQuery :=
  match ps.filter (!·.terms.isEmpty) with
  | [] => .nothing
  | [p] => .phrase p
  | kept => .near kept distance

/-- Reads a group of phrases: one phrase, one after `^` (its first term must open its column),
or `NEAR(phrases[, distance])`. -/
def nearset (s : Setting) : Reader TextQuery := do
  match ← peek with
  | .caret =>
    advance
    let p ← phrase s
    let p := { p with terms := match p.terms with
      | t :: ts => { t with first := true } :: ts
      | [] => [] }
    pure (groupQuery [p] 10)
  | .word w =>
    if (← peekSecond) == .lp then
      advance
      advance
      let rec items : Nat → List Phrase → Reader (List Phrase)
        | 0, acc => pure acc
        | k + 1, acc => do
          let p ← phrase s
          match ← peek with
          | .word _ => items k (acc ++ [p])
          | _ => pure (acc ++ [p])
      let ps ← items ((← get).length + 1) []
      let dist ← do
        if (← peek) == .comma then
          advance
          match ← peek with
          | .word d => advance; pure (some d)
          | t => failAt t
        else pure none
      expect .rp
      let _ ← peek
      if w != "NEAR" then throw (nearMessage w)
      let distance ← match dist with
        | some d =>
          if d.toList.all Char.isDigit then pure (d.toList.foldl (fun n c => n * 10 + (c.toNat - 48)) 0)
          else throw ("expected integer, got \"" ++ d ++ "\"")
        | none => pure 10
      pure (groupQuery ps distance)
    else
      pure (groupQuery [← phrase s] 10)
  | t => failAt t

/-- A query limited to some columns: each group of phrases keeps only the columns it already
had that are among them; a group left with none matches nothing. -/
def limitTo (cols : List Nat) : TextQuery → TextQuery
  | .phrase p =>
    let cs := (p.columns.getD cols).filter cols.contains
    if cs.isEmpty then .nothing else .phrase { p with columns := some cs }
  | .near ps d =>
    let cs := ((ps.head?.bind (·.columns)).getD cols).filter cols.contains
    if cs.isEmpty then .nothing else .near (ps.map fun p => { p with columns := some cs }) d
  | .chain p links => .chain p links
  | .both l r => .both (limitTo cols l) (limitTo cols r)
  | .either l r => .either (limitTo cols l) (limitTo cols r)
  | .without l r => .without (limitTo cols l) (limitTo cols r)
  | .nothing => .nothing

/-- Joins a group to the groups before it that stand side by side: a group that matches nothing
is left out. -/
def sideBySide (acc next : TextQuery) : TextQuery :=
  if next == .nothing then acc
  else if acc == .nothing then next
  else .both acc next

/-- Whether a token can open a group of phrases. -/
def opensGroup : Tok → Bool
  | .word _ | .minus | .lcp | .caret => true
  | _ => false

/-- Whether the tokens ahead open a column filter: `-`, `\x7b`, or a word before `:`. -/
def filterAhead : Reader Bool := do
  match ← peek with
  | .minus | .lcp => pure true
  | .word _ => pure ((← peekSecond) == .colon)
  | _ => pure false

/-- Reads a group of phrases, maybe after a column filter. -/
def filteredGroup (s : Setting) : Reader TextQuery := do
  if ← filterAhead then
    let cols ← colset s
    expect .colon
    pure (limitTo cols (← nearset s))
  else nearset s

/-- Reads the groups of phrases that follow a first one side by side. -/
def groupsAfter (s : Setting) (first : TextQuery) : Reader TextQuery := do
  let rec more : Nat → TextQuery → Reader TextQuery
    | 0, acc => pure acc
    | k + 1, acc => do
      if !opensGroup (← peek) then return acc
      more k (sideBySide acc (← filteredGroup s))
  more ((← get).length + 1) first

mutual

/-- Reads a query: groups joined by `OR`, the loosest. -/
def orExpr : Nat → Setting → Reader TextQuery
  | 0, _ => throw (nearMessage "")
  | fuel + 1, s => do orMore fuel s (← andExpr fuel s)

/-- Reads what follows a query joined to it by `OR`. -/
def orMore : Nat → Setting → TextQuery → Reader TextQuery
  | 0, _, _ => throw (nearMessage "")
  | fuel + 1, s, acc => do
    if (← peek) == .or then
      advance
      orMore fuel s (.either acc (← andExpr fuel s))
    else pure acc

/-- Reads groups joined by `AND`. -/
def andExpr : Nat → Setting → Reader TextQuery
  | 0, _ => throw (nearMessage "")
  | fuel + 1, s => do andMore fuel s (← notExpr fuel s)

/-- Reads what follows a query joined to it by `AND`. -/
def andMore : Nat → Setting → TextQuery → Reader TextQuery
  | 0, _, _ => throw (nearMessage "")
  | fuel + 1, s, acc => do
    if (← peek) == .and then
      advance
      andMore fuel s (.both acc (← notExpr fuel s))
    else pure acc

/-- Reads groups joined by `NOT`, the tightest. -/
def notExpr : Nat → Setting → Reader TextQuery
  | 0, _ => throw (nearMessage "")
  | fuel + 1, s => do notMore fuel s (← primary fuel s)

/-- Reads what follows a query joined to it by `NOT`. -/
def notMore : Nat → Setting → TextQuery → Reader TextQuery
  | 0, _, _ => throw (nearMessage "")
  | fuel + 1, s, acc => do
    if (← peek) == .not then
      advance
      notMore fuel s (.without acc (← primary fuel s))
    else pure acc

/-- Reads a query in parentheses, one in parentheses after a column filter, or groups of
phrases side by side. -/
def primary : Nat → Setting → Reader TextQuery
  | 0, _ => throw (nearMessage "")
  | fuel + 1, s => do
    if (← peek) == .lp then
      advance
      let q ← orExpr fuel s
      expect .rp
      pure q
    else if ← filterAhead then
      let cols ← colset s
      expect .colon
      if (← peek) == .lp then
        advance
        let q ← orExpr fuel s
        expect .rp
        pure (limitTo cols q)
      else groupsAfter s (limitTo cols (← nearset s))
    else groupsAfter s (← nearset s)

end

/-- Reads a query of the fifth version; the message of its fault when it has one. -/
def parse (s : Setting) (q : String) : Except String TextQuery := do
  let toks := tokens q.toList
  let (query, rest) ← (orExpr (8 * toks.length + 16) s).run toks
  match rest with
  | .fault m :: _ => throw m
  | [] | [.eof] => pure query
  | t :: _ => throw (nearMessage t.shown)

end Syntax5

end QueryDoc.Store.FullText
