import Aird.Python.Json

/-! # Loading shares

`_load_shares` (`aird/utils/util.py:5-82`): five branches picked by the columns `PRAGMA table_info`
lists, each storing one share per row under the row's id. The JSON columns are read by `json.loads`
when the cell is truthy, the field's default otherwise or when it raises, and any exception out of a
branch gives `{}`. -/

namespace Aird

/-- A value stored in an SQLite cell, by storage class; TEXT keeps the bytes stored. -/
inductive SqlValue where
  | null
  | integer (i : Int)
  | real (bits : UInt64)
  | text (utf8 : Bytes)
  | blob (b : Bytes)
  deriving DecidableEq, Repr

/-- An `sqlite3.OperationalError`. -/
inductive SqlError where
  | noSuchTable
  | noSuchColumn (name : String)
  /-- "Could not decode to UTF-8 column …" -/
  | undecodable (column : String)
  deriving DecidableEq, Repr

/-- The Python value `sqlite3` returns for a cell of `column` (`text_factory = str`). -/
def SqlValue.fetch (column : String) : SqlValue → Except SqlError Scalar
  | .null => .ok .none
  | .integer i => .ok (.int i)
  | .real bits => .ok (.float bits)
  | .text bs => match Utf8.decode bs with
    | .ok s => .ok (.str s)
    | .error _ => .error (.undecodable column)
  | .blob b => .ok (.bytes b)

/-- The `shares` table: its column names in order, and its rows with a cell per column. -/
structure SharesTable where
  columns : List String
  rows : List (List SqlValue)
  row_width : ∀ r ∈ rows, r.length = columns.length

/-- A connection to the database: its `shares` table, when it exists. -/
structure Connection where
  shares : Option SharesTable

/-- SQLite matches column names without regard to ASCII case. -/
def sameName (a b : String) : Bool := a.data.map Char.toLower == b.data.map Char.toLower

/-- The place of each column of `cols` among the table's `columns`; SQLite resolves them when it
    prepares the statement, before reading a row. -/
def resolve (columns cols : List String) : Except SqlError (List (String × Nat)) :=
  cols.mapM fun c => match columns.findIdx? (sameName c) with
    | some i => .ok (c, i)
    | none => .error (.noSuchColumn c)

/-- The cells of `row` at the resolved columns `cols`, fetched. -/
def fetchRow (row : List SqlValue) (cols : List (String × Nat)) : Except SqlError (List Scalar) :=
  cols.mapM fun p => (row.getD p.2 .null).fetch p.1

namespace Connection

/-- `[row[1] for row in conn.execute("PRAGMA table_info(shares)").fetchall()]`: no rows when
    there is no table. -/
def tableInfo (conn : Connection) : List String := (conn.shares.map (·.columns)).getD []

/-- `conn.execute("SELECT c₁, …, cₙ FROM shares").fetchall()`. -/
def select (conn : Connection) (cols : List String) : Except SqlError (List (List Scalar)) :=
  match conn.shares with
  | none => .error .noSuchTable
  | some t => do
    let resolved ← resolve t.columns cols
    t.rows.mapM (fetchRow · resolved)

end Connection

/-! ### Shares -/

/-- A loaded share: the dict `_load_shares` stores under a share's id. -/
structure Share where
  paths : PyValue
  created : Scalar
  allowedUsers : PyValue
  secretToken : Scalar
  shareType : Scalar
  allowList : PyValue
  avoidList : PyValue
  expiryDate : Scalar
  deriving Repr

/-- `json.loads(x) if x else default`, inside `try … except Exception: default`, with the recursion
    budget `depth` left where `_load_shares` calls `json.loads`. -/
def loadsOr (depth : Nat) (default : PyValue) (x : Scalar) : PyValue :=
  if x.truthy then (jsonLoads depth x).getD default else default

/-- What `_load_shares` catches: an `sqlite3` error, or a row that does not unpack. -/
inductive LoadError where
  | sqlite (e : SqlError)
  | unpack

/-- The loop body of the newest branch (util.py:14-31): the row's id and its share. -/
def newestRow (depth : Nat) : List Scalar → Except LoadError (Scalar × Share)
  | [sid, created, pathsJson, allowedUsersJson, secretToken, shareType, allowListJson, avoidListJson,
      expiryDate] =>
    .ok (sid,
      { paths := loadsOr depth (.list []) pathsJson, created := created,
        allowedUsers := loadsOr depth .none allowedUsersJson, secretToken := secretToken,
        shareType := shareType.or (.str "static"), allowList := loadsOr depth (.list []) allowListJson,
        avoidList := loadsOr depth (.list []) avoidListJson, expiryDate := expiryDate })
  | _ => .error .unpack

/-- The loop body of the branch with `share_type` (util.py:34-43). -/
def shareTypeRow (depth : Nat) : List Scalar → Except LoadError (Scalar × Share)
  | [sid, created, pathsJson, allowedUsersJson, secretToken, shareType] =>
    .ok (sid,
      { paths := loadsOr depth (.list []) pathsJson, created := created,
        allowedUsers := loadsOr depth .none allowedUsersJson, secretToken := secretToken,
        shareType := shareType.or (.str "static"), allowList := .list [], avoidList := .list [],
        expiryDate := .none })
  | _ => .error .unpack

/-- The loop body of the branch with `secret_token` (util.py:46-55). -/
def secretTokenRow (depth : Nat) : List Scalar → Except LoadError (Scalar × Share)
  | [sid, created, pathsJson, allowedUsersJson, secretToken] =>
    .ok (sid,
      { paths := loadsOr depth (.list []) pathsJson, created := created,
        allowedUsers := loadsOr depth .none allowedUsersJson, secretToken := secretToken,
        shareType := .str "static", allowList := .list [], avoidList := .list [],
        expiryDate := .none })
  | _ => .error .unpack

/-- The loop body of the branch with `allowed_users` (util.py:58-67). -/
def allowedUsersRow (depth : Nat) : List Scalar → Except LoadError (Scalar × Share)
  | [sid, created, pathsJson, allowedUsersJson] =>
    .ok (sid,
      { paths := loadsOr depth (.list []) pathsJson, created := created,
        allowedUsers := loadsOr depth .none allowedUsersJson, secretToken := .none,
        shareType := .str "static", allowList := .list [], avoidList := .list [],
        expiryDate := .none })
  | _ => .error .unpack

/-- The loop body of the fallback for the oldest schema (util.py:71-76). -/
def baseRow (depth : Nat) : List Scalar → Except LoadError (Scalar × Share)
  | [sid, created, pathsJson] =>
    .ok (sid,
      { paths := loadsOr depth (.list []) pathsJson, created := created, allowedUsers := .none,
        secretToken := .none, shareType := .str "static", allowList := .list [],
        avoidList := .list [], expiryDate := .none })
  | _ => .error .unpack

/-! ### The branches -/

/-- The five schemas `_load_shares` tells apart, oldest first. -/
inductive Schema where
  | base | allowedUsers | secretToken | shareType | newest
  deriving DecidableEq, Repr

namespace Schema

/-- The branch taken for the columns `PRAGMA table_info` lists (util.py:12, 32, 44, 56, 68). -/
def detect (columns : List String) : Schema :=
  if "allowed_users" ∈ columns ∧ "secret_token" ∈ columns ∧ "share_type" ∈ columns ∧
      "allow_list" ∈ columns ∧ "avoid_list" ∈ columns ∧ "expiry_date" ∈ columns then .newest
  else if "allowed_users" ∈ columns ∧ "secret_token" ∈ columns ∧ "share_type" ∈ columns then .shareType
  else if "allowed_users" ∈ columns ∧ "secret_token" ∈ columns then .secretToken
  else if "allowed_users" ∈ columns then .allowedUsers
  else .base

/-- The columns the branch selects, in order (util.py:13, 33, 45, 57, 70). -/
def columns : Schema → List String
  | base => ["id", "created", "paths"]
  | allowedUsers => ["id", "created", "paths", "allowed_users"]
  | secretToken => ["id", "created", "paths", "allowed_users", "secret_token"]
  | shareType => ["id", "created", "paths", "allowed_users", "secret_token", "share_type"]
  | newest => ["id", "created", "paths", "allowed_users", "secret_token", "share_type", "allow_list",
      "avoid_list", "expiry_date"]

/-- The loop body of the branch. -/
def row (depth : Nat) : Schema → List Scalar → Except LoadError (Scalar × Share)
  | base => baseRow depth
  | allowedUsers => allowedUsersRow depth
  | secretToken => secretTokenRow depth
  | shareType => shareTypeRow depth
  | newest => newestRow depth

end Schema

/-- `for … in rows: loaded[sid] = {…}` from `loaded`: `loaded[sid]` finds a key `==` to `sid`. -/
def collect (row : List Scalar → Except LoadError (Scalar × Share)) :
    Dict Scalar Share → List (List Scalar) → Except LoadError (Dict Scalar Share)
  | loaded, [] => .ok loaded
  | loaded, r :: rows => do
    let (sid, share) ← row r
    collect row (loaded.insertOn Scalar.key sid share) rows

/-- The body of the `try` (util.py:7-76). -/
def loadSharesTry (depth : Nat) (conn : Connection) : Except LoadError (Dict Scalar Share) := do
  let schema := Schema.detect conn.tableInfo
  let rows ← (conn.select schema.columns).mapError .sqlite
  collect (schema.row depth) ∅ rows

/-- `_load_shares(conn)`, called with the recursion budget `depth` left for `json.loads`: `{}` when
    the `try` raises (util.py:77-81). -/
def loadShares (depth : Nat) (conn : Connection) : Dict Scalar Share :=
  match loadSharesTry depth conn with
  | .ok loaded => loaded
  | .error _ => ∅

end Aird
