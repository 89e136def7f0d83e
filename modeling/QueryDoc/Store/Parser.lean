import QueryDoc.Store.Token
import QueryDoc.Store.Command
import QueryDoc.Store.Failure

/-!
Reading a statement from its text.

The reader takes the tokens of the first statement of a text; what follows its `;` is left
alone, and empty statements before it are skipped. A token that cannot continue the
statement is a syntax error that names it and its offset; running out of tokens in the
middle of a statement is an incomplete input; an unrecognized token is reported when the
reader reaches it.

Expressions are read by precedence, loosest first: `or`; `and`; prefix `not`; `=`, `!=`,
`is`, `like`, `between`, `in` and the null tests; `<`, `<=`, `>`, `>=`; the bit operators;
`+` and `-`; `*`, `/` and `%`; `||`; `collate`; and last the prefix signs. Operators of one
level group from the left.

Every reading step takes one unit of a depth budget; the budget given is several times the
number of tokens, more than any statement can use, so it never runs out.
-/

namespace QueryDoc.Store

/-- Where the reader is: the tokens, the next position, the highest parameter number and the
numbers given to named parameters. -/
structure Cursor where
  tokens : Array Token
  pos : Nat
  highestParam : Nat
  sql : String
  paramNames : List (String × Nat) := []

/-- A reading step. -/
abbrev Parse := StateT Cursor (Except Failure)

namespace Parse

/-- ASCII uppercase. -/
def upper (s : String) : String := String.ofList (s.toList.map Char.toUpper)

/-- The bytes of a text between two offsets, blanks trimmed from both ends. -/
def sliceText (s : String) (start stop : Nat) : String :=
  let bytes := s.toUTF8.extract start stop
  let text := (String.fromUTF8? bytes).getD ""
  let cs := (text.toList.dropWhile isTokenSpace).reverse.dropWhile isTokenSpace
  String.ofList cs.reverse

/-- Whether a term is a bare integer literal zero, which reads as false. -/
def isFalseLiteral : Term → Bool
  | .literal (.integer 0) => true
  | _ => false

/-- The conjunction of two terms. A bare zero on either side makes the whole a bare zero at
once, so the other side's names are never looked up. -/
def conjoin (l r : Term) : Term :=
  if isFalseLiteral l || isFalseLiteral r then .literal (.integer 0) else .binary .and l r

/-- The failure for a budget that ran out. -/
def overflow {α : Type} : Parse α := throw (Failure.general "parser stack overflow")

/-- The token at the reader, if any; an unrecognized token fails here. -/
def peek : Parse (Option Token) := do
  let c ← get
  match c.tokens[c.pos]? with
  | none => pure none
  | some t =>
    if t.kind == .illegal then
      throw (.located ("unrecognized token: \"" ++ t.text ++ "\"") c.sql t.offset)
    else pure (some t)

/-- The token `k` places after the reader, without failing. -/
def peekAt (k : Nat) : Parse (Option Token) := do
  let c ← get
  pure c.tokens[c.pos + k]?

/-- Moves past the current token. -/
def advance : Parse Unit := modify fun c => { c with pos := c.pos + 1 }

/-- The byte offset of the current token, or the end of the text. -/
def here : Parse Nat := do
  let c ← get
  match c.tokens[c.pos]? with
  | some t => pure t.offset
  | none => pure c.sql.utf8ByteSize

/-- The text from a byte offset to the end of the last token taken. -/
def textSince (start : Nat) : Parse String := do
  let c ← get
  let stop := match c.tokens[c.pos - 1]? with
    | some t => t.stop
    | none => start
  pure (sliceText c.sql start stop)

/-- Fails at the current token. -/
def syntaxError {α : Type} : Parse α := do
  match ← peek with
  | none => throw (Failure.general "incomplete input")
  | some t => throw (.located ("near \"" ++ t.text ++ "\": syntax error") (← get).sql t.offset)

/-- Whether a token is the keyword `kw` (given in uppercase). -/
def isKeyword (t : Token) (kw : String) : Bool :=
  match t.kind with
  | .word w => upper w == kw
  | _ => false

/-- Whether a token is the symbol `s`. -/
def isSymbol (t : Token) (s : String) : Bool := t.kind == .symbol s

/-- Whether the current token is the keyword. -/
def atKeyword (kw : String) : Parse Bool := do
  match ← peek with
  | some t => pure (isKeyword t kw)
  | none => pure false

/-- Whether the token `k` places ahead is the keyword. -/
def keywordAt (k : Nat) (kw : String) : Parse Bool := do
  match ← peekAt k with
  | some t => pure (isKeyword t kw)
  | none => pure false

/-- Takes the keyword if it is next. -/
def acceptKeyword (kw : String) : Parse Bool := do
  if ← atKeyword kw then advance; pure true else pure false

/-- Requires the keyword. -/
def expectKeyword (kw : String) : Parse Unit := do
  unless ← acceptKeyword kw do syntaxError

/-- Whether the current token is the symbol. -/
def atSymbol (s : String) : Parse Bool := do
  match ← peek with
  | some t => pure (isSymbol t s)
  | none => pure false

/-- Takes the symbol if it is next. -/
def acceptSymbol (s : String) : Parse Bool := do
  if ← atSymbol s then advance; pure true else pure false

/-- Requires the symbol. -/
def expectSymbol (s : String) : Parse Unit := do
  unless ← acceptSymbol s do syntaxError

/-- Keywords that can never be names. -/
def reservedWords : List String :=
  ["ADD", "ALL", "ALTER", "AND", "AS", "AUTOINCREMENT", "BETWEEN", "CASE", "CHECK", "COLLATE",
   "COMMIT", "CONSTRAINT", "CREATE", "DEFAULT", "DEFERRABLE", "DELETE", "DISTINCT", "DROP",
   "ELSE", "ESCAPE", "EXCEPT", "EXISTS", "FOREIGN", "FROM", "GROUP", "HAVING", "IN", "INDEX",
   "INSERT", "INTERSECT", "INTO", "IS", "ISNULL", "JOIN", "LIMIT", "NOT", "NOTHING", "NOTNULL",
   "NULL", "ON", "OR", "ORDER", "PRIMARY", "REFERENCES", "RETURNING", "SELECT", "SET", "TABLE",
   "THEN", "TO", "TRANSACTION", "UNION", "UNIQUE", "UPDATE", "USING", "VALUES", "WHEN", "WHERE"]

/-- Keywords that name a kind of join. They may name a table or a column, but a bare one
after a source is a join, never an alias. -/
def joinWords : List String := ["CROSS", "FULL", "INNER", "LEFT", "NATURAL", "OUTER", "RIGHT"]

/-- Whether a word is reserved. -/
def isReserved (w : String) : Bool := reservedWords.contains (upper w)

/-- Whether a word names a kind of join. -/
def isJoinWord (w : String) : Bool := joinWords.contains (upper w)

/-- Whether a token can stand where a plain name is expected by the lookahead that decides
whether `window`, `over` and `filter` are keywords: a word that is not reserved, a quoted name
or a string. -/
def isNameLike (t : Token) : Bool :=
  match t.kind with
  | .word w => !isReserved w
  | .quotedName _ | .otherQuotedName _ | .string _ => true
  | _ => false

/-- The name a token spells, if it can be a name here; strings count when `strings`. -/
def nameOf (t : Token) (strings : Bool) : Option String :=
  match t.kind with
  | .word w => if isReserved w then none else some w
  | .quotedName n => some n
  | .otherQuotedName n => some n
  | .string s => if strings then some s else none
  | _ => none

/-- Whether the token at the reader is the keyword `window` that starts a window clause: it is
followed by a name and `as`. -/
def atWindowClause : Parse Bool := do
  match ← peek, ← peekAt 1, ← peekAt 2 with
  | some w, some n, some a => pure (isKeyword w "WINDOW" && isNameLike n && isKeyword a "AS")
  | _, _, _ => pure false

/-- Requires a name. -/
def name : Parse String := do
  match ← peek with
  | some t =>
    match nameOf t true with
    | some n => advance; pure n
    | none => syntaxError
  | none => syntaxError

/-- An alias after an expression or a source: `as name`, or a bare name, which is never a
reserved word, a kind of join, `indexed` or the start of a window clause. -/
def alias? : Parse (Option String) := do
  if ← acceptKeyword "AS" then some <$> name
  else
    match ← peek with
    | some t =>
      match t.kind with
      | .word w =>
        if isReserved w || isJoinWord w || upper w == "INDEXED" || (← atWindowClause) then
          pure none
        else do advance; pure (some w)
      | .quotedName n | .otherQuotedName n | .string n => do advance; pure (some n)
      | _ => pure none
    | none => pure none

/-- Names in parentheses, separated by commas. -/
def nameListRest : Nat → List String → Parse (List String)
  | 0, _ => overflow
  | n + 1, acc => do
    let x ← name
    if ← acceptSymbol "," then nameListRest n (x :: acc) else pure (x :: acc).reverse

/-- `( name, … )`. -/
def parenNames (budget : Nat) : Parse (List String) := do
  expectSymbol "("
  let xs ← nameListRest budget []
  expectSymbol ")"
  pure xs

/-- The value of a hexadecimal literal, as a 64-bit two's complement integer; more than sixteen
digits after the leading zeros are too many. -/
def hexLiteral (digits : String) (text : String) (offset : Nat) : Parse Datum := do
  if (digits.toList.dropWhile (· == '0')).length > 16 then
    throw (.located ("hex literal too big: " ++ text) (← get).sql offset)
  let v := digits.toList.foldl (fun acc c => acc * 16 + hexValue c) 0
  pure (.integer (if v ≥ Nat.pow 2 63 then (v : Int) - Int.pow 2 64 else v))

/-- The value of a decimal integer literal, negated when `negative`; too large for 64 bits it
is a double. -/
def integerLiteral (digits : String) (negative : Bool) : Datum :=
  let v : Nat := digits.toList.foldl (fun acc c => acc * 10 + digitValue c) 0
  let i : Int := if negative then -(v : Int) else v
  if fitsInteger i then .integer i
  else
    let x := (scanNumber digits).value
    .real (if negative then -x else x)

/-- The value of a literal with a point or an exponent, negated when `negative`. -/
def floatLiteral (text : String) (negative : Bool) : Datum :=
  let x := (scanNumber text).value
  .real (if negative then -x else x)

/-- The largest parameter number. -/
def maxParam : Nat := 32766

/-- The number of a parameter written as `text` at `offset`: `?N` is `N`, a bare `?` one more
than the highest so far, and a name the number it had before or else one more than the
highest. -/
def paramIndex (text : String) (offset : Nat) : Parse Nat := do
  let c ← get
  let i ←
    if text == "?" then pure (c.highestParam + 1)
    else if text.startsWith "?" then do
      let ds := (text.drop 1).toString
      let v := ds.toList.foldl (fun n d => n * 10 + digitValue d) 0
      if v < 1 || v > maxParam then
        throw (.located ("variable number must be between ?1 and ?" ++ toString maxParam) c.sql offset)
      pure v
    else pure ((c.paramNames.lookup text).getD (c.highestParam + 1))
  let names := if text.startsWith "?" || (c.paramNames.lookup text).isSome then c.paramNames
    else (text, i) :: c.paramNames
  set { c with highestParam := max c.highestParam i, paramNames := names }
  if i > maxParam then throw (.located "too many SQL variables" c.sql offset)
  pure i

/-- A type name: words, maybe followed by one or two numbers in parentheses; returns its text.
In a column definition (`inColumn`) the word `generated` starts a constraint instead. -/
def typeName (inColumn : Bool) : Parse (Option String) := do
  let start ← here
  let rec words : Nat → Nat → Parse Nat
    | 0, k => pure k
    | fuel + 1, k => do
      match ← peek with
      | some t =>
        match t.kind with
        | .word w =>
          if isReserved w || isJoinWord w || upper w == "INDEXED" ||
              (inColumn && upper w == "GENERATED") then pure k
          else do advance; words fuel (k + 1)
        | .quotedName _ | .otherQuotedName _ | .string _ => do advance; words fuel (k + 1)
        | _ => pure k
      | none => pure k
  let count ← words 64 0
  if count == 0 then pure none
  else
    if ← atSymbol "(" then
      advance
      let rec sizes : Nat → Parse Unit
        | 0 => pure ()
        | fuel + 1 => do
          let _ ← acceptSymbol "+"
          let _ ← acceptSymbol "-"
          match ← peek with
          | some t =>
            match t.kind with
            | .integer _ | .float _ | .hex _ => advance
            | .word _ => advance
            | _ => syntaxError
          | none => syntaxError
          if ← acceptSymbol "," then sizes fuel else pure ()
      sizes 4
      expectSymbol ")"
    pure (some (← textSince start))

/-- The keywords of pattern operators: `like`, `glob`, `regexp` and `match`. -/
def isMatchWord (u : String) : Bool := u == "LIKE" || u == "GLOB" || u == "REGEXP" || u == "MATCH"

/-- The precedence of the binary or postfix operator a token starts, if it starts one. -/
def operatorLevel (t : Token) (next : Option Token) : Option Nat :=
  match t.kind with
  | .word w =>
    let u := upper w
    if u == "OR" then some 1
    else if u == "AND" then some 2
    else if u == "IS" || isMatchWord u || u == "BETWEEN" || u == "IN" ||
        u == "ISNULL" || u == "NOTNULL" then some 4
    else if u == "NOT" then
      match next with
      | some n =>
        if isKeyword n "LIKE" || isKeyword n "GLOB" || isKeyword n "REGEXP" ||
            isKeyword n "MATCH" || isKeyword n "BETWEEN" || isKeyword n "IN" ||
            isKeyword n "NULL" then some 4 else none
      | none => none
    else if u == "COLLATE" then some 11
    else none
  | .symbol s =>
    if s == "=" || s == "==" || s == "!=" || s == "<>" then some 4
    else if s == "<" || s == "<=" || s == ">" || s == ">=" then some 5
    else if s == "&" || s == "|" || s == "<<" || s == ">>" then some 7
    else if s == "+" || s == "-" then some 8
    else if s == "*" || s == "/" || s == "%" then some 9
    else if s == "||" || s == "->" || s == "->>" then some 10
    else none
  | _ => none

/-- The binary operator of a symbol. -/
def symbolOp (s : String) : BinaryOp :=
  if s == "=" || s == "==" then .eq
  else if s == "!=" || s == "<>" then .ne
  else if s == "<" then .lt
  else if s == "<=" then .le
  else if s == ">" then .gt
  else if s == ">=" then .ge
  else if s == "&" then .bitAnd
  else if s == "|" then .bitOr
  else if s == "<<" then .shiftLeft
  else if s == ">>" then .shiftRight
  else if s == "+" then .add
  else if s == "-" then .sub
  else if s == "*" then .mul
  else if s == "/" then .div
  else if s == "%" then .rem
  else .concat

/-- Whether the tokens ahead start a query. -/
def atQueryStart : Parse Bool := do
  pure ((← atKeyword "SELECT") || (← atKeyword "WITH") || (← atKeyword "VALUES"))

/-- A call with plain arguments and nothing after them. -/
def plainCall (name : String) (args : List Term) (offset : Nat) : Term :=
  .call name args false false offset [] none none

/-- Whether the token is the keyword `filter` that starts a filter clause: it follows the
closing parenthesis of a call and comes before an opening one. -/
def atFilterClause : Parse Bool := do
  match ← peek, ← peekAt 1 with
  | some f, some p => pure (isKeyword f "FILTER" && isSymbol p "(")
  | _, _ => pure false

/-- Whether the token is the keyword `over` that starts a window: it follows the closing
parenthesis of a call and comes before an opening one or a name. -/
def atOverClause : Parse Bool := do
  match ← peek, ← peekAt 1 with
  | some f, some p => pure (isKeyword f "OVER" && (isSymbol p "(" || isNameLike p))
  | _, _ => pure false

/-- The direction and null placement after an ordering term. -/
def sortOrder : Parse (Bool × Option Bool) := do
  let desc ← if ← acceptKeyword "DESC" then pure true else do let _ ← acceptKeyword "ASC"; pure false
  if ← acceptKeyword "NULLS" then
    if ← acceptKeyword "FIRST" then pure (desc, some true)
    else if ← acceptKeyword "LAST" then pure (desc, some false)
    else syntaxError
  else pure (desc, none)

/-- The words of a join operator after a source, if one is there: `,`, `join`, or one to
three join words and names before `join`. Returns the kind and whether it is natural. -/
def joinOperator : Parse (Option (JoinOp × Bool)) := do
  if ← acceptSymbol "," then pure (some (.inner, false))
  else if ← acceptKeyword "JOIN" then pure (some (.inner, false))
  else
    match ← peek with
    | some t =>
      match t.kind with
      | .word w =>
        if !isJoinWord w then pure none
        else
          advance
          let rec words : Nat → List Token → Parse (List Token)
            | 0, acc => pure acc.reverse
            | k + 1, acc => do
              if ← acceptKeyword "JOIN" then pure acc.reverse
              else
                match ← peek with
                | some u =>
                  if acc.length < 3 && (nameOf u true).isSome then do advance; words k (u :: acc)
                  else syntaxError
                | none => syntaxError
          let ws ← words 4 [t]
          -- natural 1, left 2, outer 4, right 8, inner 16, cross 32, unknown 64
          let code (tok : Token) : Nat :=
            match tok.kind with
            | .word x =>
              let u := upper x
              if u == "NATURAL" then 1 else if u == "LEFT" then 2 + 4
              else if u == "OUTER" then 4 else if u == "RIGHT" then 8 + 4
              else if u == "FULL" then 2 + 8 + 4 else if u == "INNER" then 16
              else if u == "CROSS" then 16 + 32 else 64
            | _ => 64
          let codes := ws.map code
          let all := codes.foldl (· ||| ·) 0
          let bad := codes.any (· == 64) || (all &&& 20 == 20) || (all &&& (4 + 2 + 8) == 4)
          if bad then
            throw (Failure.general ("unknown join type: " ++ " ".intercalate (ws.map (·.text))))
          let op : JoinOp :=
            if all &&& 2 != 0 && all &&& 8 != 0 then .full
            else if all &&& 2 != 0 then .left
            else if all &&& 8 != 0 then .right
            else if all &&& 32 != 0 then .cross
            else .inner
          pure (some (op, all &&& 1 != 0))
      | _ => pure none
    | none => pure none

/-- How many parentheses wrap nothing but one number token at the reader, if that is what
follows: a minus sign before them negates the number itself, as it does a bare number. -/
def wrappedNumber : Parse (Option Nat) := do
  let c ← get
  let rest := c.tokens.toList.drop c.pos
  let opens := (rest.takeWhile (isSymbol · "(")).length
  match rest[opens]? with
  | some t =>
    let isNumber := match t.kind with
      | .integer _ | .float _ | .hex _ => true
      | _ => false
    let closes := rest.drop (opens + 1) |>.take opens
    pure (if isNumber && closes.length == opens && closes.all (isSymbol · ")") then some opens else none)
  | none => pure none

/-- The number token at the reader under a minus sign, as one literal. Negation of the
smallest 64-bit integer written in hexadecimal has no value. -/
def negatedNumber : Parse Term := do
  match ← peek with
  | some u =>
    match u.kind with
    | .integer ds =>
      advance
      -- a negated zero stays a negation: only a bare zero is a false literal
      match integerLiteral ds true with
      | .integer 0 => pure (.unary .neg (.literal (.integer 0)))
      | d => pure (.literal d)
    | .float text => advance; pure (.literal (floatLiteral text true))
    | .hex ds =>
      advance
      let text := String.ofList (u.text.toList.filter (· != '_'))
      match ← hexLiteral ds text u.offset with
      | .integer v =>
        if v == -(Int.pow 2 63) then throw (.located ("hex literal too big: -" ++ text) (← get).sql u.offset)
        else pure (.unary .neg (.literal (.integer v)))
      | d => pure (.unary .neg (.literal d))
    | _ => syntaxError
  | none => syntaxError

/-- Whether the reader is at what may follow a complete item of a source: a join, a later
clause, the end of a subquery or of the statement. -/
def endsSource : Parse Bool := do
  match ← peek with
  | none => pure true
  | some t =>
    match t.kind with
    | .symbol s => pure (s == "," || s == ")" || s == ";")
    | .word w =>
      pure (["JOIN", "NATURAL", "LEFT", "RIGHT", "FULL", "INNER", "CROSS", "OUTER", "WHERE", "GROUP",
        "HAVING", "WINDOW", "ORDER", "LIMIT", "UNION", "EXCEPT", "INTERSECT", "RETURNING"].contains (upper w))
    | _ => pure false

mutual

/-- An expression whose operators all have at least the given precedence. -/
def expr : Nat → Nat → Parse Term
  | 0, _ => overflow
  | n + 1, minLevel => do
    let left ← prefixTerm n
    binaryLoop n left minLevel

/-- `or` and the terms after it, each taking in `and`. -/
def orTerms : Nat → Term → Parse Term
  | 0, _ => overflow
  | n + 1, left => do
    if ← acceptKeyword "OR" then
      let right ← expr n 2
      orTerms n (.binary .or left right)
    else pure left

/-- An expression's first operand, with its prefix operators. -/
def prefixTerm : Nat → Parse Term
  | 0 => overflow
  | n + 1 => do
    match ← peek with
    | none => syntaxError
    | some t =>
      if isKeyword t "NOT" then
        advance
        let e ← expr n 3
        pure (.unary .not e)
      else if isSymbol t "-" then
        advance
        match ← wrappedNumber with
        | some k => do
          let _ ← (List.replicate k ()).mapM fun _ => advance
          let lit ← negatedNumber
          let _ ← (List.replicate k ()).mapM fun _ => advance
          binaryLoop n lit 12
        | none => do
          let e ← expr n 12
          pure (.unary .neg e)
      else if isSymbol t "+" then
        advance
        let e ← expr n 12
        pure (.unary .plus e)
      else if isSymbol t "~" then
        advance
        let e ← expr n 12
        pure (.unary .bitNot e)
      else primary n

/-- A literal, a parameter, a name, a call, a parenthesized expression, row of values or
subquery, `exists`, `case`, `cast`, `raise` or the current date or time. -/
def primary : Nat → Parse Term
  | 0 => overflow
  | n + 1 => do
    match ← peek with
    | none => syntaxError
    | some t =>
      match t.kind with
      | .integer ds =>
        advance
        -- a zero written with separators is a number but not the false literal
        match integerLiteral ds false with
        | .integer 0 => pure (if t.text.contains '_' then .unary .plus (.literal (.integer 0))
            else .literal (.integer 0))
        | d => pure (.literal d)
      | .float text => advance; pure (.literal (floatLiteral text false))
      | .hex ds => do
        advance
        let d ← hexLiteral ds (String.ofList (t.text.toList.filter (· != '_'))) t.offset
        pure (.literal d)
      | .badNumber shown => throw (Failure.general ("unrecognized token: \"" ++ shown ++ "\""))
      | .string s =>
        if (← peekAt 1).any (isSymbol · ".") then nameTerm n t s false
        else do advance; pure (.literal (.text s))
      | .blob bs => advance; pure (.literal (.blob bs))
      | .param p => do advance; let k ← paramIndex p t.offset; pure (.param k)
      | .symbol "(" => do
        advance
        if ← atQueryStart then
          let q ← query n
          expectSymbol ")"
          pure (.scalar q)
        else
          let es ← exprList n []
          expectSymbol ")"
          match es with
          | [e] => pure e
          | _ => pure (.rowValue es)
      | .word w =>
        let u := upper w
        if u == "NULL" then advance; pure (.literal .null)
        else if u == "EXISTS" then do
          advance
          expectSymbol "("
          let q ← query n
          expectSymbol ")"
          pure (.exists q)
        else if u == "CASE" then do
          advance
          let operand ← if ← atKeyword "WHEN" then pure none else some <$> expr n 0
          let branches ← whenBranches n []
          let otherwise ← if ← acceptKeyword "ELSE" then some <$> expr n 0 else pure none
          expectKeyword "END"
          pure (.caseOf operand branches otherwise)
        else if u == "CAST" then do
          advance
          expectSymbol "("
          let e ← expr n 0
          expectKeyword "AS"
          let ty ← typeName false
          expectSymbol ")"
          pure (.cast e (ty.getD ""))
        else if u == "RAISE" then do
          advance
          expectSymbol "("
          if ← acceptKeyword "IGNORE" then
            expectSymbol ")"
            pure (.raise .ignore none t.offset)
          else
            let action ← do
              if ← acceptKeyword "ROLLBACK" then pure RaiseAction.rollback
              else if ← acceptKeyword "ABORT" then pure .abort
              else if ← acceptKeyword "FAIL" then pure .fail
              else syntaxError
            expectSymbol ","
            let msg ← name
            expectSymbol ")"
            pure (.raise action (some (.literal (.text msg))) t.offset)
        else if u == "CURRENT_DATE" then do advance; pure (.currentTime "date")
        else if u == "CURRENT_TIME" then do advance; pure (.currentTime "time")
        else if u == "CURRENT_TIMESTAMP" then do advance; pure (.currentTime "timestamp")
        else if isReserved w then syntaxError
        else nameTerm n t w false
      | .quotedName nm => nameTerm n t nm true
      | .otherQuotedName nm => nameTerm n t nm false
      | _ => syntaxError

/-- A name in an expression: a call, a qualified column or a column. -/
def nameTerm : Nat → Token → String → Bool → Parse Term
  | 0, _, _, _ => overflow
  | n + 1, t, nm, dq => do
    advance
    if ← atSymbol "(" then
      advance
      let (args, distinct, star, order) ← do
        if ← acceptSymbol "*" then
          expectSymbol ")"
          pure ([], false, true, [])
        else if ← acceptSymbol ")" then pure ([], false, false, [])
        else do
          let distinct ← acceptKeyword "DISTINCT"
          if !distinct then let _ ← acceptKeyword "ALL"
          let args ← if ← atSymbol ")" then pure [] else exprList n []
          let order ← if ← acceptKeyword "ORDER" then do expectKeyword "BY"; orderTerms n [] else pure []
          expectSymbol ")"
          pure (args, distinct, false, order)
      let filter ← if ← atFilterClause then do
          advance
          expectSymbol "("
          expectKeyword "WHERE"
          let f ← expr n 0
          expectSymbol ")"
          pure (some f)
        else pure none
      let window ← if ← atOverClause then do
          advance
          if ← acceptSymbol "(" then
            let w ← windowSpec n
            expectSymbol ")"
            pure (some w)
          else
            let base ← name
            pure (some (WindowSpec.mk (some base) [] [] none))
        else pure none
      pure (.call nm args distinct star t.offset order filter window)
    else if ← atSymbol "." then
      advance
      match ← peek with
      | some c =>
        match c.kind with
        | .word w => if isReserved w then syntaxError else do advance; pure (.column (some nm) w false t.offset)
        | .quotedName w => do advance; pure (.column (some nm) w true t.offset)
        | .otherQuotedName w | .string w => do advance; pure (.column (some nm) w false t.offset)
        | _ => syntaxError
      | none => syntaxError
    else pure (.column none nm dq t.offset)

/-- The inside of a window's parentheses: a window it refines, partitions, an ordering and a
frame, each optional. -/
def windowSpec : Nat → Parse WindowSpec
  | 0 => overflow
  | n + 1 => do
    let base ← match ← peek with
      | some t =>
        if isKeyword t "PARTITION" || isKeyword t "ORDER" || isKeyword t "RANGE" ||
            isKeyword t "ROWS" || isKeyword t "GROUPS" || isSymbol t ")" then pure none
        else some <$> name
      | none => pure none
    let partition ← if ← acceptKeyword "PARTITION" then do expectKeyword "BY"; exprList n [] else pure []
    let order ← if ← acceptKeyword "ORDER" then do expectKeyword "BY"; orderTerms n [] else pure []
    let unit? : Option FrameUnit ← do
      if ← acceptKeyword "ROWS" then pure (some .rows)
      else if ← acceptKeyword "RANGE" then pure (some .range)
      else if ← acceptKeyword "GROUPS" then pure (some .groups)
      else pure none
    match unit? with
    | none => pure (.mk base partition order none)
    | some unit =>
      let (start, finish) ←
        if ← acceptKeyword "BETWEEN" then do
          let s ← frameBound n true
          expectKeyword "AND"
          let f ← frameBound n false
          pure (s, f)
        else do
          let s ← frameBound n true
          pure (s, FrameBound.currentRow)
      let exclude ← if ← acceptKeyword "EXCLUDE" then do
          if ← acceptKeyword "NO" then do expectKeyword "OTHERS"; pure FrameExclude.noOthers
          else if ← acceptKeyword "CURRENT" then do expectKeyword "ROW"; pure .currentRow
          else if ← acceptKeyword "GROUP" then pure .group
          else if ← acceptKeyword "TIES" then pure .ties
          else syntaxError
        else pure .noOthers
      pure (.mk base partition order (some (.mk unit start finish exclude)))

/-- One end of a window frame; `unbounded` may only be `preceding` at the start and only
`following` at the end. -/
def frameBound : Nat → Bool → Parse FrameBound
  | 0, _ => overflow
  | n + 1, isStart => do
    if (← atKeyword "UNBOUNDED") then
      advance
      if isStart then do expectKeyword "PRECEDING"; pure .unboundedPreceding
      else do expectKeyword "FOLLOWING"; pure .unboundedFollowing
    else if (← atKeyword "CURRENT") && (← keywordAt 1 "ROW") then
      advance; advance; pure .currentRow
    else
      let e ← expr n 0
      if ← acceptKeyword "PRECEDING" then pure (.preceding e)
      else if ← acceptKeyword "FOLLOWING" then pure (.following e)
      else syntaxError

/-- `when a then b` branches of a `case`. -/
def whenBranches : Nat → List (Term × Term) → Parse (List (Term × Term))
  | 0, _ => overflow
  | n + 1, acc => do
    if ← acceptKeyword "WHEN" then
      let c ← expr n 0
      expectKeyword "THEN"
      let r ← expr n 0
      whenBranches n ((c, r) :: acc)
    else if acc.isEmpty then syntaxError
    else pure acc.reverse

/-- Expressions separated by commas. -/
def exprList : Nat → List Term → Parse (List Term)
  | 0, _ => overflow
  | n + 1, acc => do
    let e ← expr n 0
    if ← acceptSymbol "," then exprList n (e :: acc) else pure (e :: acc).reverse

/-- Applies the binary and postfix operators that follow an operand, while their
precedence is at least `minLevel`. -/
def binaryLoop : Nat → Term → Nat → Parse Term
  | 0, _, _ => overflow
  | n + 1, left, minLevel => do
    match ← peek with
    | none => pure left
    | some t =>
      match operatorLevel t (← peekAt 1) with
      | none => pure left
      | some level =>
        if level < minLevel then pure left
        else
          advance
          let next ← operatorTail n t level left
          binaryLoop n next minLevel

/-- The rest of an operator whose first token was just taken. -/
def operatorTail : Nat → Token → Nat → Term → Parse Term
  | 0, _, _, _ => overflow
  | n + 1, t, level, left => do
    match t.kind with
    | .symbol s =>
      let right ← expr n (level + 1)
      if s == "->" || s == "->>" then pure (plainCall s [left, right] t.offset)
      else pure (.binary (symbolOp s) left right)
    | .word w =>
      let u := upper w
      if u == "OR" then do
        let right ← expr n 2
        pure (.binary .or left right)
      else if u == "AND" then do
        let right ← expr n 3
        pure (conjoin left right)
      else if u == "COLLATE" then do
        let c ← name
        pure (.collate left c)
      else if u == "ISNULL" then pure (.isNull left false)
      else if u == "NOTNULL" then pure (.isNull left true)
      else if u == "IS" then do
        let negated ← acceptKeyword "NOT"
        if ← acceptKeyword "DISTINCT" then
          expectKeyword "FROM"
          let right ← expr n 5
          pure (.binary (if negated then .isSame else .isNotSame) left right)
        else
          let right ← expr n 5
          pure (.binary (if negated then .isNotSame else .isSame) left right)
      else if u == "NOT" then do
        if ← acceptKeyword "NULL" then pure (.isNull left true)
        else matchTail n true left
      else matchTail n false left
    | _ => syntaxError

/-- `like`, `glob`, `regexp`, `match`, `between` and `in`, maybe after `not`. -/
def matchTail : Nat → Bool → Term → Parse Term
  | 0, _, _ => overflow
  | n + 1, negated, left => do
    if negated then
      let ok := match ← peek with
        | some k => match k.kind with
          | .word w => isMatchWord (upper w) || upper w == "BETWEEN" || upper w == "IN"
          | _ => false
        | none => false
      if ok then advance else syntaxError
    let prev ← get
    let (kw, written, offset) := match prev.tokens[prev.pos - 1]? with
      | some k => match k.kind with
        | .word w => (upper w, w, k.offset)
        | _ => ("", "", 0)
      | none => ("", "", 0)
    if kw == "REGEXP" || kw == "MATCH" then
      let pattern ← expr n 5
      let call := plainCall written [pattern, left] offset
      pure (if negated then .unary .not call else call)
    else if kw == "LIKE" then
      let pattern ← expr n 5
      let esc ← if ← acceptKeyword "ESCAPE" then some <$> expr n 5 else pure none
      pure (.like left pattern esc negated)
    else if kw == "GLOB" then
      let pattern ← expr n 5
      let call := plainCall "glob" [pattern, left] 0
      pure (if negated then .unary .not call else call)
    else if kw == "BETWEEN" then
      -- the lower bound ends at an `and` of its own level, but takes in `or` terms
      let lo ← orTerms n (← expr n 3)
      expectKeyword "AND"
      let hi ← expr n 5
      pure (.between left lo hi negated)
    else
      -- `in`
      if ← acceptSymbol "(" then
        if ← atQueryStart then
          let q ← query n
          expectSymbol ")"
          pure (.inQuery left q negated)
        else if ← acceptSymbol ")" then
          pure (.inList left [] negated)
        else
          let items ← exprList n []
          expectSymbol ")"
          pure (.inList left items negated)
      else
        let offset ← here
        let first ← name
        let (schema, table) ← if ← acceptSymbol "." then do pure (some first, ← name) else pure (none, first)
        let args ← if ← acceptSymbol "(" then do
            if ← acceptSymbol ")" then pure (some [])
            else
              let xs ← exprList n []
              expectSymbol ")"
              pure (some xs)
          else pure none
        let q := Query.mk false []
          (.select false [.all] (some (.table schema table none args none offset)) none [] none []) [] [] none none
        pure (.inQuery left q negated)

/-- A full query: common tables, a chain of simple selects, ordering, limit and offset. -/
def query : Nat → Parse Query
  | 0 => overflow
  | n + 1 => do
    let (recursive, ctes) ← withClause n
    let first ← core n
    let rest ← compoundRest n []
    let order ← if ← acceptKeyword "ORDER" then do expectKeyword "BY"; orderTerms n [] else pure []
    let (limit, offset) ← limitClause n
    pure (.mk recursive ctes first rest order limit offset)

/-- `with [recursive] name [(columns)] as (query), …`, if present. -/
def withClause : Nat → Parse (Bool × List CommonTable)
  | 0 => overflow
  | n + 1 => do
    if ← acceptKeyword "WITH" then
      let recursive ← acceptKeyword "RECURSIVE"
      let ctes ← cteList n []
      pure (recursive, ctes)
    else pure (false, [])

/-- Common tables separated by commas. -/
def cteList : Nat → List CommonTable → Parse (List CommonTable)
  | 0, _ => overflow
  | n + 1, acc => do
    let nm ← name
    let cols ← if ← atSymbol "(" then parenNames n else pure []
    expectKeyword "AS"
    if ← acceptKeyword "NOT" then expectKeyword "MATERIALIZED"
    else let _ ← acceptKeyword "MATERIALIZED"
    expectSymbol "("
    let q ← query n
    expectSymbol ")"
    if acc.any (fun (.mk other _ _) => upper other == upper nm) then
      throw (Failure.general ("duplicate WITH table name: " ++ nm))
    let acc := CommonTable.mk nm cols q :: acc
    if ← acceptSymbol "," then cteList n acc else pure acc.reverse

/-- The compound operator at the reader, taken if present. -/
def compoundOp? : Parse (Option CompoundOp) := do
  if ← acceptKeyword "UNION" then
    if ← acceptKeyword "ALL" then pure (some .unionAll) else pure (some .union)
  else if ← acceptKeyword "INTERSECT" then pure (some .intersect)
  else if ← acceptKeyword "EXCEPT" then pure (some .except)
  else pure none

/-- The simple selects after the first, each with its operator. -/
def compoundRest : Nat → List (CompoundOp × Core) → Parse (List (CompoundOp × Core))
  | 0, _ => overflow
  | n + 1, acc => do
    match ← compoundOp? with
    | some op =>
      let c ← core n
      compoundRest n ((op, c) :: acc)
    | none => pure acc.reverse

/-- A simple select or a list of value rows. -/
def core : Nat → Parse Core
  | 0 => overflow
  | n + 1 => do
    if ← acceptKeyword "VALUES" then
      let rows ← valueRows n []
      pure (.values rows)
    else
      expectKeyword "SELECT"
      let distinct ← acceptKeyword "DISTINCT"
      if !distinct then let _ ← acceptKeyword "ALL"
      let cols ← resultColumns n []
      let source ← if ← acceptKeyword "FROM" then some <$> sourceList n else pure none
      let filter ← if ← acceptKeyword "WHERE" then some <$> expr n 0 else pure none
      let groupBy ← if ← acceptKeyword "GROUP" then do expectKeyword "BY"; exprList n [] else pure []
      let having ← if ← acceptKeyword "HAVING" then some <$> expr n 0 else pure none
      let windows ← if ← atWindowClause then do advance; windowDefs n [] else pure []
      pure (.select distinct cols source filter groupBy having windows)

/-- `name as (window), …` of a window clause. -/
def windowDefs : Nat → List (String × WindowSpec) → Parse (List (String × WindowSpec))
  | 0, _ => overflow
  | n + 1, acc => do
    let nm ← name
    expectKeyword "AS"
    expectSymbol "("
    let w ← windowSpec n
    expectSymbol ")"
    let acc := (nm, w) :: acc
    if ← acceptSymbol "," then windowDefs n acc else pure acc.reverse

/-- `(a, b), (c, d), …` rows of values. -/
def valueRows : Nat → List (List Term) → Parse (List (List Term))
  | 0, _ => overflow
  | n + 1, acc => do
    expectSymbol "("
    let row ← exprList n []
    expectSymbol ")"
    if ← acceptSymbol "," then valueRows n (row :: acc) else pure (row :: acc).reverse

/-- The items of a column list. -/
def resultColumns : Nat → List ResultColumn → Parse (List ResultColumn)
  | 0, _ => overflow
  | n + 1, acc => do
    let item ← resultColumn n
    if ← acceptSymbol "," then resultColumns n (item :: acc) else pure (item :: acc).reverse

/-- One item of a column list: `*`, `t.*` or an expression with an optional alias. -/
def resultColumn : Nat → Parse ResultColumn
  | 0 => overflow
  | n + 1 => do
    if ← acceptSymbol "*" then pure .all
    else
      let starred := match ← peekAt 1, ← peekAt 2 with
        | some d, some s => isSymbol d "." && isSymbol s "*"
        | _, _ => false
      match ← peek, starred with
      | some t, true =>
        match nameOf t false with
        | some tb => do advance; advance; advance; pure (.allOf tb t.offset)
        | none => syntaxError
      | _, _ => do
        let start ← here
        let e ← expr n 0
        let stop ← here
        let span := sliceText (← get).sql start stop
        let a ← alias?
        pure (.term e a span)

/-- A source: items joined by commas and joins. -/
def sourceList : Nat → Parse Source
  | 0 => overflow
  | n + 1 => do
    let first ← sourceItem n
    -- a join constraint on the first item parses, and fails once the item is complete
    let constrained ← if ← acceptKeyword "ON" then do let _ ← expr n 0; pure (some "ON")
      else if ← acceptKeyword "USING" then do let _ ← parenNames n; pure (some "USING")
      else pure none
    match constrained with
    | some kw =>
      if ← endsSource then throw (Failure.general ("a JOIN clause is required before " ++ kw))
      else syntaxError
    | none => joinRest n first

/-- The joins after a source. -/
def joinRest : Nat → Source → Parse Source
  | 0, _ => overflow
  | n + 1, left => do
    match ← joinOperator with
    | none => pure left
    | some (op, natural) =>
      let right ← sourceItem n
      let on ← if ← acceptKeyword "ON" then some <$> expr n 0 else pure none
      let usingCols ← if on.isNone && (← acceptKeyword "USING") then parenNames n else pure []
      joinRest n (.join left op natural right on usingCols)

/-- One item of a source: a table (maybe in a schema, maybe called with arguments), a
subquery or a parenthesized source, with an alias. -/
def sourceItem : Nat → Parse Source
  | 0 => overflow
  | n + 1 => do
    if ← acceptSymbol "(" then
      if ← atQueryStart then
        let q ← query n
        expectSymbol ")"
        let a ← alias?
        pure (.query q a)
      else
        let s ← sourceList n
        expectSymbol ")"
        let _ ← alias?
        pure s
    else
      let offset ← here
      let first ← name
      let (schema, t) ← if ← acceptSymbol "." then do pure (some first, ← name) else pure (none, first)
      let args ← if ← acceptSymbol "(" then do
          if ← acceptSymbol ")" then pure (some [])
          else
            let xs ← exprList n []
            expectSymbol ")"
            pure (some xs)
        else pure none
      let a ← alias?
      let indexed ← if (← atKeyword "INDEXED") then do
          advance
          expectKeyword "BY"
          pure (some (some (← name)))
        else if (← atKeyword "NOT") && (← keywordAt 1 "INDEXED") then do
          advance; advance
          pure (some none)
        else pure none
      pure (.table schema t a args indexed offset)

/-- Ordering terms separated by commas. -/
def orderTerms : Nat → List OrderTerm → Parse (List OrderTerm)
  | 0, _ => overflow
  | n + 1, acc => do
    let e ← expr n 0
    let (desc, nulls) ← sortOrder
    let acc := OrderTerm.mk e desc nulls :: acc
    if ← acceptSymbol "," then orderTerms n acc else pure acc.reverse

/-- `limit a [offset b]` or `limit b, a`, if present. -/
def limitClause : Nat → Parse (Option Term × Option Term)
  | 0 => overflow
  | n + 1 => do
    if ← acceptKeyword "LIMIT" then
      let a ← expr n 0
      if ← acceptKeyword "OFFSET" then
        let b ← expr n 0
        pure (some a, some b)
      else if ← acceptSymbol "," then
        let b ← expr n 0
        pure (some b, some a)
      else pure (some a, none)
    else pure (none, none)

end

/-- `on conflict <action>` after a constraint, if present. -/
def conflictClause : Parse (Option OnConflict) := do
  if (← atKeyword "ON") && (← keywordAt 1 "CONFLICT") then
    advance; advance
    if ← acceptKeyword "ROLLBACK" then pure (some .rollback)
    else if ← acceptKeyword "ABORT" then pure (some .abort)
    else if ← acceptKeyword "FAIL" then pure (some .fail)
    else if ← acceptKeyword "IGNORE" then pure (some .ignore)
    else if ← acceptKeyword "REPLACE" then pure (some .replace)
    else syntaxError
  else pure none

/-- What a foreign key does on a change of its parent. -/
def foreignAction : Parse ForeignAction := do
  if ← acceptKeyword "SET" then
    if ← acceptKeyword "NULL" then pure .setNull
    else if ← acceptKeyword "DEFAULT" then pure .setDefault
    else syntaxError
  else if ← acceptKeyword "CASCADE" then pure .cascade
  else if ← acceptKeyword "RESTRICT" then pure .restrict
  else if ← acceptKeyword "NO" then do expectKeyword "ACTION"; pure .noAction
  else syntaxError

/-- The clauses after `references parent (columns)`: actions, `match` and deferral. -/
def referenceClauses : Nat → ForeignKey → Parse ForeignKey
  | 0, fk => pure fk
  | k + 1, fk => do
    if (← atKeyword "ON") && !(← keywordAt 1 "CONFLICT") then
      advance
      if ← acceptKeyword "DELETE" then
        let a ← foreignAction
        referenceClauses k { fk with onDelete := a }
      else if ← acceptKeyword "UPDATE" then
        let a ← foreignAction
        referenceClauses k { fk with onUpdate := a }
      else if ← acceptKeyword "INSERT" then
        let _ ← foreignAction
        referenceClauses k fk
      else syntaxError
    else if ← acceptKeyword "MATCH" then
      let _ ← name
      referenceClauses k fk
    else if (← atKeyword "NOT") && (← keywordAt 1 "DEFERRABLE") then
      advance; advance
      if ← acceptKeyword "INITIALLY" then
        let _ ← acceptKeyword "DEFERRED" <||> acceptKeyword "IMMEDIATE"
      referenceClauses k fk
    else if ← acceptKeyword "DEFERRABLE" then
      let deferred ← if ← acceptKeyword "INITIALLY" then do
          if ← acceptKeyword "DEFERRED" then pure true
          else do expectKeyword "IMMEDIATE"; pure false
        else pure false
      referenceClauses k { fk with deferred := deferred }
    else pure fk

/-- `references parent [(columns)] clauses…`, after `references`. -/
def referenceTarget (budget : Nat) : Parse ForeignKey := do
  let parent ← name
  let cols ← if ← atSymbol "(" then parenNames budget else pure []
  referenceClauses 16 { parent := parent, parentColumns := cols }

/-- A default written with a sign: the sign must be followed by a literal, `null` or the
current date or time. -/
def signedDefault (budget : Nat) : Parse Term := do
  let negative ← acceptSymbol "-"
  if !negative then let _ ← acceptSymbol "+"
  match ← peek with
  | some u =>
    match u.kind with
    | .integer ds => advance; pure (.literal (integerLiteral ds negative))
    | .float text => advance; pure (.literal (floatLiteral text negative))
    | .hex _ | .string _ | .blob _ => do
      let lit ← primary budget
      pure (if negative then .unary .neg lit else lit)
    | .word w =>
      let uw := upper w
      if uw == "NULL" || uw == "CURRENT_DATE" || uw == "CURRENT_TIME" || uw == "CURRENT_TIMESTAMP" then do
        let lit ← primary budget
        pure (if negative then .unary .neg lit else lit)
      else syntaxError
    | _ => syntaxError
  | none => syntaxError

/-- A column's default, with its text as written: a literal, a signed number, an expression
in parentheses (its text is what stands between them), or a bare name, which is a text
(`true` and `false` being 1 and 0). -/
def defaultValue (budget : Nat) : Parse (Term × String) := do
  if ← acceptSymbol "(" then
    let start ← here
    let e ← expr budget 0
    let text ← textSince start
    expectSymbol ")"
    pure (e, text)
  else
    let start ← here
    let e ← match ← peek with
      | some t =>
        match t.kind with
        | .word w =>
          let u := upper w
          if u == "NULL" || u == "CURRENT_DATE" || u == "CURRENT_TIME" || u == "CURRENT_TIMESTAMP" then
            primary budget
          else if isReserved w then syntaxError
          else do
            advance
            if u == "TRUE" then pure (.literal (.integer 1))
            else if u == "FALSE" then pure (.literal (.integer 0))
            else pure (.literal (.text w))
        | .symbol "+" | .symbol "-" => signedDefault budget
        | .integer _ | .float _ | .hex _ | .string _ | .blob _ => primary budget
        | .quotedName s | .otherQuotedName s => do
          advance
          pure (.literal (.text s))
        | _ => syntaxError
      | none => syntaxError
    pure (e, ← textSince start)

/-- A column definition's constraints. -/
def columnConstraints : Nat → ColumnDef → Parse ColumnDef
  | 0, c => pure c
  | n + 1, c => do
    if ← acceptKeyword "CONSTRAINT" then
      let nm ← name
      columnConstraints n { c with constraintName := some nm }
    else if ← acceptKeyword "PRIMARY" then
      expectKeyword "KEY"
      let (desc, _) ← sortOrder
      let conflict ← conflictClause
      let auto ← acceptKeyword "AUTOINCREMENT"
      columnConstraints n { c with
        primaryKey := true, descending := desc, keyConflict := conflict, autoincrement := auto }
    else if ← acceptKeyword "NOT" then
      expectKeyword "NULL"
      let conflict ← conflictClause
      columnConstraints n { c with notNull := true, notNullConflict := conflict }
    else if ← acceptKeyword "NULL" then
      let _ ← conflictClause
      columnConstraints n c
    else if ← acceptKeyword "UNIQUE" then
      let conflict ← conflictClause
      columnConstraints n { c with unique := true, uniqueConflict := conflict }
    else if ← acceptKeyword "CHECK" then
      expectSymbol "("
      let start ← here
      let e ← expr n 0
      let text ← textSince start
      expectSymbol ")"
      columnConstraints n { c with checks := c.checks ++ [(some (c.constraintName.getD text), e)] }
    else if ← acceptKeyword "DEFAULT" then
      let (d, text) ← defaultValue n
      columnConstraints n { c with defaultValue := some d, defaultText := some text }
    else if ← acceptKeyword "COLLATE" then
      let coll ← name
      columnConstraints n { c with collation := some coll }
    else if ← acceptKeyword "REFERENCES" then
      let fk ← referenceTarget n
      columnConstraints n { c with references := some fk }
    else if (← atKeyword "GENERATED") || (← atKeyword "AS") then
      if ← acceptKeyword "GENERATED" then expectKeyword "ALWAYS"
      expectKeyword "AS"
      expectSymbol "("
      let e ← expr n 0
      expectSymbol ")"
      let stored ← if ← acceptKeyword "STORED" then pure true
        else do let _ ← acceptKeyword "VIRTUAL"; pure false
      columnConstraints n { c with generated := some (e, stored) }
    else if (← atKeyword "NOT") || (← atKeyword "DEFERRABLE") then
      let _ ← referenceClauses 4 { parent := "", parentColumns := [] }
      columnConstraints n c
    else pure c

/-- Columns of a key or an index: names or expressions, each with an optional collation and
direction. -/
def indexedColumns : Nat → List IndexedColumn → Parse (List IndexedColumn)
  | 0, acc => pure acc.reverse
  | n + 1, acc => do
    let e ← expr n 0
    let (e, coll) := match e with
      | .collate inner c => (inner, some c)
      | other => (other, none)
    let (desc, _) ← sortOrder
    let acc := ⟨e, coll, desc⟩ :: acc
    if ← acceptSymbol "," then indexedColumns n acc else pure acc.reverse

/-- Column definitions and table constraints, separated by commas; table constraints come
last and need no comma between them. -/
def tableElements : Nat → List ColumnDef → List TableConstraint → Option String →
    Parse (List ColumnDef × List TableConstraint)
  | 0, cs, ts, _ => pure (cs.reverse, ts.reverse)
  | n + 1, cs, ts, carried => do
    let constraintName ← if ← acceptKeyword "CONSTRAINT" then some <$> name else pure carried
    if ← acceptKeyword "PRIMARY" then
      expectKeyword "KEY"
      expectSymbol "("
      let cols ← indexedColumns n []
      let auto ← acceptKeyword "AUTOINCREMENT"
      expectSymbol ")"
      let conflict ← conflictClause
      next n cs (.primaryKey cols auto conflict :: ts) constraintName
    else if ← acceptKeyword "UNIQUE" then
      expectSymbol "("
      let cols ← indexedColumns n []
      expectSymbol ")"
      let conflict ← conflictClause
      next n cs (.unique cols conflict :: ts) constraintName
    else if ← acceptKeyword "CHECK" then
      expectSymbol "("
      let start ← here
      let e ← expr n 0
      let text ← textSince start
      expectSymbol ")"
      let _ ← conflictClause
      next n cs (.check (some (constraintName.getD text)) e :: ts) constraintName
    else if ← acceptKeyword "FOREIGN" then
      expectKeyword "KEY"
      let cols ← parenNames n
      expectKeyword "REFERENCES"
      let fk ← referenceTarget n
      next n cs (.foreignKey cols fk :: ts) constraintName
    else if !ts.isEmpty || constraintName.isSome then syntaxError
    else
      let offset ← here
      let nm ← name
      let ty ← typeName true
      let c ← columnConstraints n {
        name := nm, declaredType := ty, notNull := false,
        primaryKey := false, unique := false, defaultValue := none, offset := offset }
      next n (c :: cs) ts none
where
  /-- Continues after one element: a comma and more, another table constraint, or the end. A
  constraint name holds for the constraints after it up to the next comma. -/
  next (k : Nat) (cs : List ColumnDef) (ts : List TableConstraint) (carried : Option String) :
      Parse (List ColumnDef × List TableConstraint) := do
    if ← acceptSymbol "," then tableElements k cs ts none
    else if !ts.isEmpty && ((← atKeyword "CONSTRAINT") || (← atKeyword "PRIMARY") ||
        (← atKeyword "UNIQUE") || (← atKeyword "CHECK") || (← atKeyword "FOREIGN")) then
      tableElements k cs ts carried
    else pure (cs.reverse, ts.reverse)

/-- `if not exists`, if present. -/
def ifNotExists : Parse Bool := do
  if ← acceptKeyword "IF" then do expectKeyword "NOT"; expectKeyword "EXISTS"; pure true
  else pure false

/-- `if exists`, if present. -/
def ifExists : Parse Bool := do
  if ← acceptKeyword "IF" then do expectKeyword "EXISTS"; pure true else pure false

/-- A name, maybe after a schema name and a dot: the schema and the name. -/
def qualifiedName : Parse (Option String × String) := do
  let first ← name
  if ← acceptSymbol "." then pure (some first, ← name) else pure (none, first)

/-- The options after a table's definition: `without rowid` and `strict`. -/
def tableOptions : Nat → TableOptions → Parse TableOptions
  | 0, o => pure o
  | n + 1, o => do
    let o ←
      if ← acceptKeyword "WITHOUT" then do
        let t ← peek
        let w ← name
        if upper w == "ROWID" then pure { o with withoutRowid := true }
        else throw (Failure.general ("unknown table option: " ++ ((t.map (·.text)).getD w)))
      else
        match ← peek with
        | some t =>
          match nameOf t false with
          | some w =>
            advance
            if upper w == "STRICT" then pure { o with strict := true }
            else throw (Failure.general ("unknown table option: " ++ t.text))
          | none => syntaxError
        | none => syntaxError
    if ← acceptSymbol "," then tableOptions n o else pure o

/-- `create [temp] table …`, after `create` and `temp`. -/
def createTable (budget : Nat) (temp : Bool) : Parse Command := do
  expectKeyword "TABLE"
  let ine ← ifNotExists
  let start ← here
  let (schema, t) ← qualifiedName
  if ← acceptKeyword "AS" then
    let q ← query budget
    pure (.createTable temp ine schema t (.query q) (← textSince start))
  else
    expectSymbol "("
    let (cols, constraints) ← tableElements budget [] [] none
    expectSymbol ")"
    let options ← match ← peek with
      | some tok =>
        if isSymbol tok ";" then pure {}
        else tableOptions 8 {}
      | none => pure {}
    pure (.createTable temp ine schema t (.columns cols constraints options) (← textSince start))

/-- `create virtual table …`, after `create virtual`: the module's arguments are kept as
text. -/
def createVirtual : Parse Command := do
  expectKeyword "TABLE"
  let ine ← ifNotExists
  let start ← here
  let (schema, t) ← qualifiedName
  expectKeyword "USING"
  let module ← name
  if ← acceptSymbol "(" then
    let rec skip : Nat → Nat → Parse Unit
      | 0, _ => pure ()
      | k + 1, depth => do
        match ← peek with
        | none => syntaxError
        | some tok =>
          advance
          if isSymbol tok "(" then skip k (depth + 1)
          else if isSymbol tok ")" then (if depth == 0 then pure () else skip k (depth - 1))
          else skip k depth
    skip ((← get).tokens.size + 1) 0
  pure (.createVirtualTable ine schema t module (← textSince start))

/-- `create [unique] index …`, after `create` and `unique`. -/
def createIndex (budget : Nat) (unique : Bool) : Parse Command := do
  expectKeyword "INDEX"
  let ine ← ifNotExists
  let start ← here
  let (schema, nm) ← qualifiedName
  expectKeyword "ON"
  let t ← name
  expectSymbol "("
  let cols ← indexedColumns budget []
  expectSymbol ")"
  let filter ← if ← acceptKeyword "WHERE" then some <$> expr budget 0 else pure none
  pure (.createIndex unique ine schema nm t cols filter (← textSince start))

/-- `create [temp] view …`, after `create` and `temp`. -/
def createView (budget : Nat) (temp : Bool) : Parse Command := do
  expectKeyword "VIEW"
  let ine ← ifNotExists
  let start ← here
  let (schema, nm) ← qualifiedName
  let cols ← if ← atSymbol "(" then parenNames budget else pure []
  expectKeyword "AS"
  let q ← query budget
  pure (.createView temp ine schema nm cols q (← textSince start))

/-- `or <action>` after `insert` or `update`, if present. -/
def conflictAction : Parse (Option OnConflict) := do
  if ← acceptKeyword "OR" then
    if ← acceptKeyword "IGNORE" then pure (some .ignore)
    else if ← acceptKeyword "REPLACE" then pure (some .replace)
    else if ← acceptKeyword "ABORT" then pure (some .abort)
    else if ← acceptKeyword "FAIL" then pure (some .fail)
    else if ← acceptKeyword "ROLLBACK" then pure (some .rollback)
    else syntaxError
  else pure none

/-- `set a = x, (b, c) = y, …` of an update. -/
def assignments : Nat → List (List String × Term) → Parse (List (List String × Term))
  | 0, acc => pure acc.reverse
  | k + 1, acc => do
    let cols ← if ← atSymbol "(" then parenNames k else do pure [← name]
    expectSymbol "="
    let e ← expr k 0
    let acc := (cols, e) :: acc
    if ← acceptSymbol "," then assignments k acc else pure acc.reverse

/-- `returning columns`, if present. -/
def returningClause (budget : Nat) : Parse (List ResultColumn) := do
  if ← acceptKeyword "RETURNING" then resultColumns budget [] else pure []

/-- The `on conflict` clauses of an insert. -/
def upsertClauses : Nat → List UpsertClause → Parse (List UpsertClause)
  | 0, acc => pure acc.reverse
  | k + 1, acc => do
    if (← atKeyword "ON") && (← keywordAt 1 "CONFLICT") then
      advance; advance
      let target ← if ← acceptSymbol "(" then do
          let cols ← indexedColumns k []
          expectSymbol ")"
          let f ← if ← acceptKeyword "WHERE" then some <$> expr k 0 else pure none
          pure (some (cols, f))
        else pure none
      expectKeyword "DO"
      let action ← if ← acceptKeyword "NOTHING" then pure UpsertAction.nothing
        else do
          expectKeyword "UPDATE"
          expectKeyword "SET"
          let sets ← assignments k []
          let f ← if ← acceptKeyword "WHERE" then some <$> expr k 0 else pure none
          pure (.update sets f)
      upsertClauses k (⟨target, action⟩ :: acc)
    else pure acc.reverse

/-- The table an insert, update or delete names: schema, name and alias. -/
def targetName (withAlias : Bool) : Parse (Option String × String × Option String) := do
  let (schema, t) ← qualifiedName
  let a ← if withAlias then (if ← acceptKeyword "AS" then some <$> name else pure none) else pure none
  pure (schema, t, a)

/-- `indexed by i` or `not indexed` after the table of an update or delete, which changes
nothing here. -/
def indexedClause : Parse Unit := do
  if ← acceptKeyword "INDEXED" then do expectKeyword "BY"; let _ ← name
  else if (← atKeyword "NOT") && (← keywordAt 1 "INDEXED") then do advance; advance

/-- An insert, update or delete after its common tables. -/
def change (budget : Nat) (recursive : Bool) (ctes : List CommonTable) : Parse Command := do
  if (← atKeyword "INSERT") || (← atKeyword "REPLACE") then
    let isReplace ← atKeyword "REPLACE"
    advance
    let onConflict ← if isReplace then pure (some OnConflict.replace) else conflictAction
    expectKeyword "INTO"
    let (schema, t, a) ← targetName true
    let cols ← if ← atSymbol "(" then some <$> parenNames budget else pure none
    if ← acceptKeyword "DEFAULT" then
      expectKeyword "VALUES"
      let ret ← returningClause budget
      pure (.insert recursive ctes onConflict schema t a cols .defaults [] ret)
    else
      let q ← query budget
      let ups ← upsertClauses 16 []
      let ret ← returningClause budget
      match q with
      | .mk false [] (.values rows) [] [] none none =>
        pure (.insert recursive ctes onConflict schema t a cols (.values rows) ups ret)
      | _ => pure (.insert recursive ctes onConflict schema t a cols (.query q) ups ret)
  else if ← acceptKeyword "UPDATE" then
    let onConflict ← conflictAction
    let (schema, t, a) ← targetName true
    indexedClause
    expectKeyword "SET"
    let sets ← assignments budget []
    let source ← if ← acceptKeyword "FROM" then some <$> sourceList budget else pure none
    let filter ← if ← acceptKeyword "WHERE" then some <$> expr budget 0 else pure none
    let ret ← returningClause budget
    pure (.update recursive ctes onConflict schema t a sets source filter ret)
  else if ← acceptKeyword "DELETE" then
    expectKeyword "FROM"
    let (schema, t, a) ← targetName true
    indexedClause
    let filter ← if ← acceptKeyword "WHERE" then some <$> expr budget 0 else pure none
    let ret ← returningClause budget
    pure (.delete recursive ctes schema t a filter ret)
  else syntaxError

/-- One statement of a trigger's body, up to its `;`. -/
def triggerStep (budget : Nat) : Parse Command := do
  if (← atKeyword "SELECT") || (← atKeyword "VALUES") || (← atKeyword "WITH") then
    .query <$> query budget
  else change budget false []

/-- The statements of a trigger's body, each ending with `;`, up to `end`. -/
def triggerSteps : Nat → Nat → List Command → Parse (List Command)
  | 0, _, acc => pure acc.reverse
  | k + 1, budget, acc => do
    let c ← triggerStep budget
    expectSymbol ";"
    if ← acceptKeyword "END" then pure (c :: acc).reverse
    else triggerSteps k budget (c :: acc)

/-- `create [temp] trigger …`, after `create` and `temp`. -/
def createTrigger (budget : Nat) (temp : Bool) : Parse Command := do
  expectKeyword "TRIGGER"
  let ine ← ifNotExists
  let start ← here
  let (schema, nm) ← qualifiedName
  let timing ← if ← acceptKeyword "BEFORE" then pure TriggerTiming.before
    else if ← acceptKeyword "AFTER" then pure .after
    else if ← acceptKeyword "INSTEAD" then do expectKeyword "OF"; pure .insteadOf
    else pure .before
  let event ← if ← acceptKeyword "INSERT" then pure TriggerEvent.insert
    else if ← acceptKeyword "DELETE" then pure .delete
    else if ← acceptKeyword "UPDATE" then do
      if ← acceptKeyword "OF" then pure (.update (← nameListRest budget []))
      else pure (.update [])
    else syntaxError
  expectKeyword "ON"
  let t ← name
  if ← acceptKeyword "FOR" then do expectKeyword "EACH"; expectKeyword "ROW"
  let whenCond ← if ← acceptKeyword "WHEN" then some <$> expr budget 0 else pure none
  expectKeyword "BEGIN"
  let body ← triggerSteps ((← get).tokens.size + 1) budget []
  pure (.createTrigger temp ine schema nm timing event t whenCond body (← textSince start))

/-- `alter table t …`, after `alter`. -/
def alterTable (budget : Nat) : Parse Command := do
  expectKeyword "TABLE"
  let (schema, t) ← qualifiedName
  if ← acceptKeyword "RENAME" then
    if ← acceptKeyword "TO" then pure (.alterTable schema t (.renameTable (← name)))
    else
      let _ ← acceptKeyword "COLUMN"
      let old ← name
      expectKeyword "TO"
      let quotedNew := match ← peek with
        | some tok =>
          match tok.kind with
          | .word _ => false
          | _ => true
        | none => false
      let new ← name
      pure (.alterTable schema t (.renameColumn old new quotedNew))
  else if ← acceptKeyword "ADD" then
    let _ ← acceptKeyword "COLUMN"
    let offset ← here
    let nm ← name
    let ty ← typeName true
    let c ← columnConstraints budget {
      name := nm, declaredType := ty, notNull := false,
      primaryKey := false, unique := false, defaultValue := none, offset := offset }
    pure (.alterTable schema t (.addColumn c (← textSince offset)))
  else if ← acceptKeyword "DROP" then
    let _ ← acceptKeyword "COLUMN"
    pure (.alterTable schema t (.dropColumn (← name)))
  else syntaxError

/-- The value of a pragma, as text: a signed number as written, a name, a string or a keyword
such as `on`. -/
def pragmaValue : Parse String := do
  let negative ← acceptSymbol "-"
  let signed ← if negative then pure true else acceptSymbol "+"
  match ← peek with
  | some t =>
    match t.kind with
    | .integer _ | .float _ | .hex _ => do
      advance; pure (if negative then "-" ++ t.text else t.text)
    | _ =>
      if signed then syntaxError
      else
        match t.kind with
        | .word w =>
          let u := upper w
          if u == "ON" || u == "DELETE" || u == "DEFAULT" || !isReserved w then do
            advance; pure w
          else syntaxError
        | .string s | .quotedName s | .otherQuotedName s => do advance; pure s
        | _ => syntaxError
  | none => syntaxError

/-- One statement. -/
def command (budget : Nat) : Parse Command := do
  match ← peek with
  | none => pure .empty
  | some t =>
    if isKeyword t "SELECT" || isKeyword t "VALUES" then .query <$> query budget
    else if isKeyword t "WITH" then
      let save ← get
      let (recursive, ctes) ← withClause budget
      if ← atKeyword "SELECT" <||> atKeyword "VALUES" then
        set save
        .query <$> query budget
      else change budget recursive ctes
    else if isKeyword t "INSERT" || isKeyword t "REPLACE" || isKeyword t "UPDATE" ||
        isKeyword t "DELETE" then change budget false []
    else if isKeyword t "CREATE" then do
      advance
      let temp ← acceptKeyword "TEMP" <||> acceptKeyword "TEMPORARY"
      if ← atKeyword "TABLE" then createTable budget temp
      else if ← atKeyword "VIEW" then createView budget temp
      else if ← atKeyword "TRIGGER" then createTrigger budget temp
      else if temp then syntaxError
      else if ← acceptKeyword "VIRTUAL" then createVirtual
      else if ← acceptKeyword "UNIQUE" then createIndex budget true
      else if ← atKeyword "INDEX" then createIndex budget false
      else syntaxError
    else if isKeyword t "DROP" then do
      advance
      let kind ← if ← acceptKeyword "TABLE" then pure ObjectKind.table
        else if ← acceptKeyword "INDEX" then pure .index
        else if ← acceptKeyword "VIEW" then pure .view
        else if ← acceptKeyword "TRIGGER" then pure .trigger
        else syntaxError
      let ie ← ifExists
      let (schema, nm) ← qualifiedName
      pure (.drop kind ie schema nm)
    else if isKeyword t "ALTER" then do advance; alterTable budget
    else if isKeyword t "PRAGMA" then do
      advance
      let (schema, nm) ← qualifiedName
      if ← acceptSymbol "=" then pure (.pragma schema nm (some (.assign (← pragmaValue))))
      else if ← acceptSymbol "(" then
        let v ← pragmaValue
        expectSymbol ")"
        pure (.pragma schema nm (some (.call v)))
      else pure (.pragma schema nm none)
    else if isKeyword t "BEGIN" then do
      advance
      let _ ← acceptKeyword "DEFERRED" <||> acceptKeyword "IMMEDIATE" <||> acceptKeyword "EXCLUSIVE"
      if ← acceptKeyword "TRANSACTION" then
        match ← peek with
        | some u => if (nameOf u false).isSome then advance
        | none => pure ()
      pure .begin
    else if isKeyword t "COMMIT" || isKeyword t "END" then do
      advance
      if ← acceptKeyword "TRANSACTION" then
        match ← peek with
        | some u => if (nameOf u false).isSome then advance
        | none => pure ()
      pure .commit
    else if isKeyword t "ROLLBACK" then do
      advance
      if ← acceptKeyword "TRANSACTION" then
        match ← peek with
        | some u => if (nameOf u false).isSome && !isKeyword u "TO" then advance
        | none => pure ()
      if ← acceptKeyword "TO" then
        let _ ← acceptKeyword "SAVEPOINT"
        pure (.rollbackTo (← name))
      else pure .rollback
    else if isKeyword t "SAVEPOINT" then do
      advance
      pure (.savepoint (← name))
    else if isKeyword t "RELEASE" then do
      advance
      let _ ← acceptKeyword "SAVEPOINT"
      pure (.release (← name))
    else if isKeyword t "ATTACH" then do
      advance
      let _ ← acceptKeyword "DATABASE"
      let file ← expr budget 0
      expectKeyword "AS"
      let nm ← expr budget 0
      if ← acceptKeyword "KEY" then let _ ← expr budget 0
      pure (.attach file nm)
    else if isKeyword t "DETACH" then do
      advance
      let _ ← acceptKeyword "DATABASE"
      pure (.detach (← expr budget 0))
    else if isKeyword t "ANALYZE" then do
      advance
      match ← peek with
      | some u =>
        if (nameOf u true).isSome then pure (.analyze (some (← qualifiedName)))
        else pure (.analyze none)
      | none => pure (.analyze none)
    else if isKeyword t "REINDEX" then do
      advance
      match ← peek with
      | some u =>
        if (nameOf u true).isSome then pure (.reindex (some (← qualifiedName)))
        else pure (.reindex none)
      | none => pure (.reindex none)
    else if isKeyword t "VACUUM" then do
      advance
      let schema ← match ← peek with
        | some u =>
          if (nameOf u true).isSome && !isKeyword u "INTO" then some <$> name else pure none
        | none => pure none
      let into ← if ← acceptKeyword "INTO" then some <$> expr budget 0 else pure none
      pure (.vacuum schema into)
    else syntaxError

/-- Skips empty statements. -/
def skipSemicolons : Nat → Parse Unit
  | 0 => pure ()
  | n + 1 => do if ← acceptSymbol ";" then skipSemicolons n else pure ()

/-- The first statement, which must end at a `;` or at the end of the text. -/
def statement (budget : Nat) : Parse Command := do
  skipSemicolons budget
  let c ← if ← acceptKeyword "EXPLAIN" then do
      let queryPlan ← acceptKeyword "QUERY"
      if queryPlan then expectKeyword "PLAN"
      match ← command budget with
      | .empty => syntaxError
      | inner => pure (.explain queryPlan inner)
    else command budget
  match ← peek with
  | none => pure c
  | some t => if isSymbol t ";" then pure c else syntaxError

end Parse

/-- Reads the first statement of a text, with the number of parameters it uses. -/
def Command.parse (sql : String) : Outcome (Command × Nat) := do
  let tokens := tokenize sql
  let budget := 16 * tokens.size + 64
  let (c, cursor) ← (Parse.statement budget).run ⟨tokens, 0, 0, sql, []⟩
  pure (c, cursor.highestParam)

end QueryDoc.Store
