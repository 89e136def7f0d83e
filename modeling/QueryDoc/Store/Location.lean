import QueryDoc.Error
import QueryDoc.Text.Unicode

/-!
Where a database lives, read from a connection string.

A connection string is trimmed; a leading `Data Source=` (any case) is dropped, and so is
everything from the first `;`. What is left is the path. A path that mentions `:memory:` or
`mode=memory` names an in-memory database.

A path starting with `file:` is a URI: its query parameters may choose the storage (`vfs`),
the access mode (`mode`) and the cache (`cache`). An unknown storage, access mode or cache
mode is refused when the database is opened. Without `cache=shared`, every opening of an
in-memory path is a database of its own; with it, openings of the same name share one.
-/

namespace QueryDoc.Store

/-- The prefix naming the path in a connection string. -/
def dataSourcePrefix : String := "data source="

/-- ASCII lowercase. -/
def asciiLower (s : String) : String := String.ofList (s.toList.map Char.toLower)

/-- The path of a connection string. -/
def normalizePath (connection : String) : String :=
  let trimmed := Text.trimBlanks connection
  let bytes := trimmed.toUTF8
  let n := dataSourcePrefix.length
  let rest :=
    if bytes.size ≥ n && (String.fromUTF8? (bytes.extract 0 n)).map asciiLower == some dataSourcePrefix then
      (String.fromUTF8? (bytes.extract n bytes.size)).getD trimmed
    else trimmed
  Text.trimBlanks ((rest.splitOn ";").headD "")

/-- Whether a path names an in-memory database. -/
def isMemoryPath (path : String) : Bool :=
  let lower := asciiLower path
  (lower.splitOn ":memory:").length > 1 || (lower.splitOn "mode=memory").length > 1

/-- The query parameters of a `file:` URI, in order. -/
def uriParams (path : String) : List (String × String) :=
  match path.splitOn "?" with
  | _ :: query :: _ =>
    (query.splitOn "&").filterMap fun kv =>
      match kv.splitOn "=" with
      | [] => none
      | [k] => if k.isEmpty then none else some (k, "")
      | k :: v => some (k, "=".intercalate v)
  | _ => []

/-- The storage layers a database can be opened with. -/
def knownStorages : List String := ["unix", "unix-none", "unix-dotfile", "unix-excl", "memdb"]

/-- Why a path cannot be opened, if it cannot. -/
def openProblem (path : String) : Option String :=
  if !path.startsWith "file:" then none
  else
    let ps := uriParams path
    let badParam := ps.findSome? fun (k, v) =>
      if k == "cache" && not (["shared", "private"].contains v) then some ("no such cache mode: " ++ v)
      else if k == "mode" && not (["ro", "rw", "rwc", "memory"].contains v) then
        some ("no such access mode: " ++ v)
      else none
    let vfs := (ps.filter (·.1 == "vfs")).getLast?
    match badParam, vfs with
    | some e, _ => some e
    | none, some (_, v) => if knownStorages.contains v then none else some ("no such vfs: " ++ v)
    | none, none => none

/-- Whether openings of a path share one database. -/
def isSharedPath (path : String) : Bool :=
  path.startsWith "file:" && (uriParams path).any fun (k, v) => k == "cache" && v == "shared"

end QueryDoc.Store
