import QueryDoc.Store.Datum

/-!
The settings pragmas read and change.

A connection keeps flags that change how its statements run, such as whether foreign keys
are enforced or whether a trigger may fire itself, and a few numbers such as how long it waits
for a lock. Each database keeps the settings of its file: the size of its pages, how many of
them are cached, how it keeps its journal, and values of its header such as the application
id.

A pragma's value is read as text, the way the library reads it: a number is read from its
leading digits, so that `12abc` is 12, and the words `on`, `yes`, `true`, `off`, `no`, `false`,
`full` and `extra` stand for the numbers they name. Several readings exist because the
pragmas use several: a 32-bit one that gives 0 for anything out of range, and a 64-bit one
that also reads hexadecimal and tells whether text was left over.
-/

namespace QueryDoc.Store

/-- A setting of a connection that is on or off, each set by the pragma of its name. -/
inductive Flag where
  | automaticIndex | cellSizeCheck | checkpointFullfsync | countChanges | deferForeignKeys
  | emptyResultCallbacks | foreignKeys | fullColumnNames | fullfsync | ignoreCheckConstraints
  | legacyAlterTable | queryOnly | readUncommitted | recursiveTriggers | reverseUnorderedSelects
  | shortColumnNames | trustedSchema | writableSchema
  deriving DecidableEq, Repr, Inhabited

namespace Flag

/-- Every flag. -/
def all : List Flag :=
  [.automaticIndex, .cellSizeCheck, .checkpointFullfsync, .countChanges, .deferForeignKeys,
   .emptyResultCallbacks, .foreignKeys, .fullColumnNames, .fullfsync, .ignoreCheckConstraints,
   .legacyAlterTable, .queryOnly, .readUncommitted, .recursiveTriggers, .reverseUnorderedSelects,
   .shortColumnNames, .trustedSchema, .writableSchema]

/-- The name of the pragma that reads and sets the flag. -/
def pragmaName : Flag → String
  | .automaticIndex => "automatic_index"
  | .cellSizeCheck => "cell_size_check"
  | .checkpointFullfsync => "checkpoint_fullfsync"
  | .countChanges => "count_changes"
  | .deferForeignKeys => "defer_foreign_keys"
  | .emptyResultCallbacks => "empty_result_callbacks"
  | .foreignKeys => "foreign_keys"
  | .fullColumnNames => "full_column_names"
  | .fullfsync => "fullfsync"
  | .ignoreCheckConstraints => "ignore_check_constraints"
  | .legacyAlterTable => "legacy_alter_table"
  | .queryOnly => "query_only"
  | .readUncommitted => "read_uncommitted"
  | .recursiveTriggers => "recursive_triggers"
  | .reverseUnorderedSelects => "reverse_unordered_selects"
  | .shortColumnNames => "short_column_names"
  | .trustedSchema => "trusted_schema"
  | .writableSchema => "writable_schema"

/-- The flag a pragma name (in lower case) sets, if it sets one. -/
def named (name : String) : Option Flag := all.find? (·.pragmaName == name)

/-- Whether the flag is on in a new connection: automatic indexes, foreign keys, short column
names and trust in the schema are. -/
def initial : Flag → Bool
  | .automaticIndex | .foreignKeys | .shortColumnNames | .trustedSchema => true
  | _ => false

end Flag

/-- The name `pragma encoding` shows for an encoding. -/
def TextEncoding.name : TextEncoding → String
  | .utf8 => "UTF-8"
  | .utf16le => "UTF-16le"
  | .utf16be => "UTF-16be"

/-- What a connection's pragmas set. -/
structure Settings where
  /-- The flags that are on. -/
  flags : List Flag := Flag.all.filter Flag.initial
  /-- Whether `like` tells upper from lower case. -/
  caseSensitiveLike : Bool := false
  /-- Whether `case_sensitive_like` ever ran, which puts `like` among the connection's own
  functions. -/
  likeRedefined : Bool := false
  /-- Whether changed pages may be written out before a commit. -/
  cacheSpill : Bool := true
  /-- How many milliseconds to wait for a lock; the library's connections start at five
  seconds. -/
  busyTimeout : Int := 5000
  /-- Where temporary tables are kept: 0 as built, 1 in a file, 2 in memory. -/
  tempStore : Nat := 0
  /-- How many rows `analyze` reads of each index; 0 for all of them. -/
  analysisLimit : Nat := 0
  /-- How many helper threads a sort may use. -/
  threads : Nat := 0
  /-- Whether databases attached later lock in exclusive mode. -/
  exclusiveLocking : Bool := false
  /-- After how many pages of log a checkpoint runs; 0 for never. -/
  walAutocheckpoint : Int := 1000
  /-- The soft limit on memory, in bytes; 0 for none. -/
  softHeapLimit : Int := 0
  /-- The hard limit on memory, in bytes; 0 for none. -/
  hardHeapLimit : Int := 0
  /-- The `pragma_` tables statements have named, each a module of the connection from then on,
  in the order they were first named. -/
  pragmaModules : List String := []
  /-- How the connection stores text; fixed once the main database holds anything. -/
  encoding : TextEncoding := .utf8
  /-- The mode `vacuum` gives the main database's free pages, when a pragma asked for one. -/
  nextAutoVacuum : Option Nat := none
  /-- The directory temporary files go to, when one was set. -/
  tempDirectory : Option String := none
  deriving Inhabited

namespace Settings

/-- Whether a flag is on. -/
def has (s : Settings) (f : Flag) : Bool := s.flags.contains f

/-- Turns a flag on or off. -/
def set (s : Settings) (f : Flag) (on : Bool) : Settings :=
  let rest := s.flags.filter (· != f)
  { s with flags := if on then rest ++ [f] else rest }

end Settings

/-- The ways a database may keep its journal, in the order of their numbers. -/
def journalModes : List String := ["delete", "persist", "off", "truncate", "memory", "wal"]

/-- What the pragmas set for one database file. -/
structure FileSettings where
  /-- The size of a page in bytes. -/
  pageSize : Nat := 4096
  /-- How many pages to cache, or, when negative, how many kibibytes. -/
  cacheSize : Int := -2000
  /-- How many changed pages may be cached before they are written out. -/
  spillSize : Nat := 1
  /-- The journal mode, as its number among `journalModes`. -/
  journal : Nat := 4
  /-- The largest the journal may stay, in bytes; -1 for no limit. -/
  journalSizeLimit : Int := -1
  /-- The most pages the file may grow to. -/
  maxPageCount : Nat := 4294967294
  /-- Whether deleted content is overwritten: 0 no, 1 yes, 2 only where it costs nothing. -/
  secureDelete : Nat := 0
  /-- How carefully writes are synced, one more than `pragma synchronous` shows. -/
  safetyLevel : Nat := 3
  /-- 0 when the file keeps its free pages, 1 when a commit gives them back, 2 when
  `incremental_vacuum` does. -/
  autoVacuum : Nat := 0
  /-- The application id in the header. -/
  applicationId : Int := 0
  /-- The cache size the header suggests; 0 for none. -/
  defaultCacheSize : Int := 0
  /-- Whether the file lives in memory, which keeps its journal in memory or not at all. -/
  inMemory : Bool := true
  deriving Inhabited

/-! ### Reading a pragma's value -/

namespace ValueText

/-- The value of a decimal digit character. -/
def digitOf (c : Char) : Nat := c.toNat - 48

/-- Whether a character is a hexadecimal digit. -/
def isHex (c : Char) : Bool :=
  c.isDigit || ('a' ≤ c && c ≤ 'f') || ('A' ≤ c && c ≤ 'F')

/-- The value of a hexadecimal digit character. -/
def hexDigitOf (c : Char) : Nat :=
  if c.isDigit then c.toNat - 48 else if 'a' ≤ c && c ≤ 'f' then c.toNat - 87 else c.toNat - 55

/-- A text read as a 32-bit integer: an optional sign, or `0x` and at most eight hexadecimal
digits, or decimal digits, with anything after them ignored. `none` when there are no digits
or the value does not fit. -/
def readInt32 (z : String) : Option Int :=
  let cs := z.toList
  let (neg, rest, signed) := match cs with
    | '-' :: r => (true, r, true)
    | '+' :: r => (false, r, true)
    | r => (false, r, false)
  match rest with
  | '0' :: x :: h :: more =>
    if !signed && (x == 'x' || x == 'X') && isHex h then
      let ds := (h :: more).dropWhile (· == '0')
      let taken := (ds.take 8).takeWhile isHex
      let u := taken.foldl (fun acc c => acc * 16 + hexDigitOf c) 0
      let after := ds.drop taken.length
      if u < 2147483648 && !((after.head?.map isHex).getD false) then some (u : Int) else none
    else decimal neg rest
  | _ => decimal neg rest
where
  /-- The decimal reading, after the sign. -/
  decimal (neg : Bool) (rest : List Char) : Option Int :=
    match rest.head? with
    | some c =>
      if !c.isDigit then none
      else
        let ds := (rest.dropWhile (· == '0')).takeWhile Char.isDigit
        let v := (ds.take 11).foldl (fun acc c => acc * 10 + digitOf c) 0
        if ds.length > 10 then none
        else if v > 2147483647 + (if neg then 1 else 0) then none
        else some (if neg then -(v : Int) else v)
    | none => none

/-- A text read as a 32-bit integer, 0 when it cannot be. -/
def atoi (z : String) : Int := (readInt32 z).getD 0

/-- A 64-bit pattern as a signed integer. -/
def asSigned64 (u : Nat) : Int :=
  let w := u % 18446744073709551616
  if w ≥ 9223372036854775808 then (w : Int) - 18446744073709551616 else w

/-- A text read as a 64-bit integer, with how the reading went: 0 when the text is an integer,
1 when text is left over after it, 2 when it is too large (the value is then the nearest
64-bit integer) and -1 when there are no digits. `0x` starts a hexadecimal integer of at most
sixteen digits. Only blanks, signs and digits are read as part of a decimal number, and the
first character after them is left over. -/
def readInt64 (z : String) : Int × Int :=
  let cs := z.toList
  match cs with
  | '0' :: x :: rest =>
    if x == 'x' || x == 'X' then
      let ds := rest.dropWhile (· == '0')
      let taken := ds.takeWhile isHex
      let u := taken.foldl (fun acc c => (acc * 16 + hexDigitOf c) % 18446744073709551616) 0
      let rc : Int := if taken.length > 16 then 2 else if ds.length > taken.length then 1 else 0
      (asSigned64 u, rc)
    else decimal cs
  | _ => decimal cs
where
  /-- The decimal reading of a text. -/
  decimal (cs : List Char) : Int × Int :=
    let spanned := cs.takeWhile fun c => c == '+' || c == '-' || c == ' ' || c == '\n' || c == '\t' || c.isDigit
    let part := if cs.length > spanned.length then cs.take (spanned.length + 1) else spanned
    let isBlank (c : Char) : Bool := c == ' ' || c == '\t' || c == '\n' || c == '\r' || c == '\x0c' || c == '\x0b'
    let afterBlank := part.dropWhile isBlank
    let (neg, body) := match afterBlank with
      | '-' :: r => (true, r)
      | '+' :: r => (false, r)
      | r => (false, r)
    let noZeros := body.dropWhile (· == '0')
    let ds := noZeros.takeWhile Char.isDigit
    let u := ds.foldl (fun acc c => acc * 10 + digitOf c) 0
    let value : Int :=
      if u > 9223372036854775807 then (if neg then -9223372036854775808 else 9223372036854775807)
      else if neg then -(u : Int) else u
    let left := noZeros.drop ds.length
    let rc : Int :=
      if ds.isEmpty && noZeros.length == body.length then -1
      else if left.any (fun c => !isBlank c) then 1
      else 0
    if ds.length < 19 then (value, rc)
    else if u < 9223372036854775808 then (value, rc)
    else if u == 9223372036854775808 && ds.length == 19 then (value, if neg then rc else 3)
    else (value, 2)

/-- The level a word or number names: a number is read from its digits (modulo 256); `on`,
`yes` and `true` are 1, `off`, `no` and `false` 0, `full` 2 and `extra` 3 unless `omitFull`;
anything else is `dflt`. -/
def levelOf (z : String) (omitFull : Bool) (dflt : Nat) : Nat :=
  match z.toList.head? with
  | some c =>
    if c.isDigit then (atoi z).toNat % 256
    else
      let w := z.toLower
      if w == "on" || w == "yes" || w == "true" then 1
      else if w == "off" || w == "no" || w == "false" then 0
      else if !omitFull && w == "full" then 2
      else if !omitFull && w == "extra" then 3
      else dflt
  | none => dflt

/-- A text read as on or off, `dflt` when it names neither. -/
def truthOf (z : String) (dflt : Bool) : Bool := levelOf z true (if dflt then 1 else 0) != 0

end ValueText

end QueryDoc.Store
