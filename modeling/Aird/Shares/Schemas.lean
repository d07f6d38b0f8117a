import Aird.Shares.Load
import Aird.Python.JsonRoundTrip
import Mathlib.Data.List.GetD

/-! # Shares across schema versions

A legacy branch of `_load_shares` builds what the newest branch builds from the row with every newer
column NULL, so adding the newer columns changes no loaded share (`loadShares_upgrade`). What a loaded
share holds (`loadShares_entries`, `loadShares_dumps`). -/

namespace Aird

/-- `ALTER TABLE shares ADD COLUMN c`: the rows already there hold NULL in it. -/
def SharesTable.addColumn (t : SharesTable) (c : String) : SharesTable where
  columns := t.columns ++ [c]
  rows := t.rows.map (· ++ [.null])
  row_width := by
    intro r hr
    obtain ⟨r₀, h₀, rfl⟩ := List.mem_map.1 hr
    simp [t.row_width r₀ h₀]

/-- The columns `cs` added one after the other. -/
def SharesTable.addColumns (t : SharesTable) (cs : List String) : SharesTable := cs.foldl addColumn t

/-- The columns the newer schemas add after schema `k`. -/
def Schema.added (k : Schema) : List String := Schema.newest.columns.drop k.columns.length

namespace SharesTable

theorem addColumns_columns (t : SharesTable) (cs : List String) :
    (t.addColumns cs).columns = t.columns ++ cs := by
  induction cs generalizing t with
  | nil => simp [addColumns]
  | cons c cs ih =>
    show (cs.foldl addColumn (t.addColumn c)).columns = _
    rw [← addColumns, ih]
    simp [addColumn]

theorem addColumns_rows (t : SharesTable) (cs : List String) :
    (t.addColumns cs).rows = t.rows.map (· ++ List.replicate cs.length .null) := by
  induction cs generalizing t with
  | nil => simp [addColumns]
  | cons c cs ih =>
    show (cs.foldl addColumn (t.addColumn c)).rows = _
    rw [← addColumns, ih]
    simp [addColumn, List.replicate_succ]

end SharesTable

/-! ### Rows -/

namespace Schema

theorem columns_added (k : Schema) : k.columns ++ k.added = newest.columns := by
  cases k <;> rfl

theorem detect_columns (k : Schema) : detect k.columns = k := by
  cases k <;> decide

theorem resolve_columns (k : Schema) :
    resolve k.columns k.columns = .ok (k.columns.zip (List.range k.columns.length)) := by
  cases k <;> rfl

theorem newest_zip (k : Schema) :
    newest.columns.zip (List.range 9) =
      k.columns.zip (List.range k.columns.length) ++
        k.added.zip (List.range' k.columns.length k.added.length) := by
  cases k <;> rfl

/-- A legacy branch builds the share the newest branch builds with the newer columns `None`;
    a row of another length fails to unpack in both. -/
theorem row_eq_newestRow (depth : Nat) (k : Schema) (cells : List Scalar) :
    k.row depth cells = newestRow depth (cells ++ List.replicate k.added.length .none) := by
  rcases cells with _ | ⟨_, _ | ⟨_, _ | ⟨_, _ | ⟨_, _ | ⟨_, _ | ⟨_, _ | ⟨_, _ | ⟨_, _ | ⟨_, _ | ⟨_, _⟩⟩⟩⟩⟩⟩⟩⟩⟩⟩ <;>
    cases k <;> rfl

/-- The share a branch builds from a row of its width: the JSON columns read by `loadsOr`, a
    column the schema lacks read as `None`. -/
theorem row_fields (depth : Nat) (k : Schema) {cells : List Scalar} (h : cells.length = k.columns.length) :
    ∃ sh, k.row depth cells = .ok (cells.headD .none, sh) ∧
      sh.paths = loadsOr depth (.list []) (cells.getD 2 .none) ∧
      sh.allowedUsers = loadsOr depth .none (cells.getD 3 .none) ∧
      sh.allowList = loadsOr depth (.list []) (cells.getD 6 .none) ∧
      sh.avoidList = loadsOr depth (.list []) (cells.getD 7 .none) := by
  rcases cells with _ | ⟨_, _ | ⟨_, _ | ⟨_, _ | ⟨_, _ | ⟨_, _ | ⟨_, _ | ⟨_, _ | ⟨_, _ | ⟨_, _ | ⟨_, _⟩⟩⟩⟩⟩⟩⟩⟩⟩⟩ <;>
    cases k <;> first
      | exact ⟨_, rfl, rfl, rfl, rfl, rfl⟩
      | (simp only [columns, List.length_cons, List.length_nil] at h; omega)

end Schema

/-! ### Fetching -/

theorem getD_append_replicate {α : Type} (r : List α) (d : α) (m i : Nat) :
    (r ++ List.replicate m d).getD i d = r.getD i d := by
  rcases Nat.lt_or_ge i r.length with h | h
  · exact List.getD_append _ _ _ _ h
  · rw [List.getD_append_right _ _ _ _ h, List.getD_eq_default _ _ h]
    simp

theorem fetchRow_append_nulls (r : List SqlValue) (m : Nat) (cols : List (String × Nat)) :
    fetchRow (r ++ List.replicate m .null) cols = fetchRow r cols := by
  simp only [fetchRow, getD_append_replicate]

/-- Columns past the end of a row read as `None`. -/
theorem fetchRow_past (r : List SqlValue) :
    ∀ cols : List (String × Nat), (∀ p ∈ cols, r.length ≤ p.2) →
      fetchRow r cols = .ok (List.replicate cols.length .none)
  | [], _ => rfl
  | (c, i) :: cols, h => by
    have hi : r.getD i .null = .null := List.getD_eq_default _ _ (h (c, i) (List.mem_cons_self _ _))
    have ih := fetchRow_past r cols fun p hp => h p (List.mem_cons_of_mem _ hp)
    simp only [fetchRow] at ih ⊢
    rw [List.mapM_cons, hi, ih]
    rfl

theorem fetchRow_length {r : List SqlValue} {cols : List (String × Nat)} {xs : List Scalar}
    (h : fetchRow r cols = .ok xs) : xs.length = cols.length :=
  (mapM_ok_forall₂ h).length_eq.symm

/-- The newest columns of a row upgraded from schema `k`: its cells, then `None`s. -/
theorem Schema.fetchRow_newest (k : Schema) (r : List SqlValue) (hr : r.length = k.columns.length) :
    fetchRow (r ++ List.replicate k.added.length .null) (newest.columns.zip (List.range 9)) =
      (· ++ List.replicate k.added.length .none) <$>
        fetchRow r (k.columns.zip (List.range k.columns.length)) := by
  have past : ∀ p ∈ k.added.zip (List.range' k.columns.length k.added.length), r.length ≤ p.2 := by
    intro p hp
    have := (List.mem_range'_1.1 (List.of_mem_zip hp).2).1
    omega
  rw [fetchRow_append_nulls, newest_zip, fetchRow, List.mapM_append, ← fetchRow, ← fetchRow,
    fetchRow_past r _ past]
  simp only [List.length_zip, List.length_range', min_self]
  cases fetchRow r _ <;> rfl

theorem mapM_map_of_eq {α β γ ε : Type} {f : α → Except ε β} {f' : γ → Except ε β} {g : γ → α}
    {h : β → β} : ∀ l : List γ, (∀ x ∈ l, f (g x) = h <$> f' x) →
      (l.map g).mapM f = (List.map h) <$> l.mapM f'
  | [], _ => rfl
  | x :: l, hl => by
    rw [List.map_cons, List.mapM_cons, List.mapM_cons, hl x (List.mem_cons_self _ _),
      mapM_map_of_eq l fun y hy => hl y (List.mem_cons_of_mem _ hy)]
    cases f' x <;> cases l.mapM f' <;> rfl

/-- The branch's `SELECT` on a table of its schema reads every column in order. -/
theorem Schema.select_table (k : Schema) (t : SharesTable) (ht : t.columns = k.columns) :
    Connection.select ⟨some t⟩ k.columns =
      t.rows.mapM (fetchRow · (k.columns.zip (List.range k.columns.length))) := by
  simp only [Connection.select, ht, resolve_columns, Except.ok_bind]

/-! ### Collecting -/

theorem collect_newestRow (depth : Nat) (k : Schema) :
    ∀ (loaded : Dict Scalar Share) (rows : List (List Scalar)),
      collect (k.row depth) loaded rows =
        collect (newestRow depth) loaded (rows.map (· ++ List.replicate k.added.length .none))
  | _, [] => rfl
  | loaded, r :: rows => by
    simp only [collect, List.map_cons, k.row_eq_newestRow depth r]
    cases newestRow depth (r ++ _) with
    | error e => rfl
    | ok p => exact collect_newestRow depth k _ rows

theorem collect_append (row : List Scalar → Except LoadError (Scalar × Share)) :
    ∀ (loaded : Dict Scalar Share) (l₁ l₂ : List (List Scalar)),
      collect row loaded (l₁ ++ l₂) = collect row loaded l₁ >>= fun d => collect row d l₂
  | _, [], _ => rfl
  | loaded, r :: l₁, l₂ => by
    simp only [List.cons_append, collect]
    cases row r with
    | error e => rfl
    | ok p => exact collect_append row _ l₁ l₂

theorem collect_ok (row : List Scalar → Except LoadError (Scalar × Share)) :
    ∀ (loaded : Dict Scalar Share) (l : List (List Scalar)), (∀ r ∈ l, ∃ p, row r = .ok p) →
      ∃ d, collect row loaded l = .ok d
  | loaded, [], _ => ⟨loaded, rfl⟩
  | loaded, r :: l, h => by
    obtain ⟨p, hp⟩ := h r (List.mem_cons_self _ _)
    simp only [collect, hp, Except.ok_bind]
    exact collect_ok row _ l fun r' hr' => h r' (List.mem_cons_of_mem _ hr')

/-- Rows stored under ids not `==` to `sid` leave the entry under `sid` as it was. -/
theorem getOn_collect_other (row : List Scalar → Except LoadError (Scalar × Share)) (sid : Scalar) :
    ∀ (loaded d : Dict Scalar Share) (l : List (List Scalar)), collect row loaded l = .ok d →
      (∀ r ∈ l, ∀ p, row r = .ok p → p.1.key ≠ sid.key) → d.getOn Scalar.key sid = loaded.getOn Scalar.key sid
  | _, _, [], h, _ => by cases h; rfl
  | loaded, d, r :: l, h, hl => by
    simp only [collect] at h
    cases hr : row r with
    | error e => rw [hr] at h; cases h
    | ok p =>
      rw [hr, Except.ok_bind] at h
      rw [getOn_collect_other row sid _ d l h fun r' hr' => hl r' (List.mem_cons_of_mem _ hr'),
        Dict.getOn_insertOn, if_neg (hl r (List.mem_cons_self _ _) p hr).symm]

/-! ### Loading -/

/-- What the `try` of `_load_shares` does with a table of schema `k`: the branch's rows, then its
    loop. -/
theorem Schema.loadSharesTry_table (depth : Nat) (k : Schema) (t : SharesTable) (ht : t.columns = k.columns) :
    loadSharesTry depth ⟨some t⟩ =
      (Connection.select ⟨some t⟩ k.columns).mapError .sqlite >>= collect (k.row depth) ∅ := by
  simp only [loadSharesTry, Connection.tableInfo, Option.map_some', Option.getD_some, ht, detect_columns]

/-- Upgrading a table of any of the five schemas to the newest one, the newer columns NULL in
    every row, changes no loaded share. -/
theorem loadShares_upgrade (depth : Nat) (k : Schema) (t : SharesTable) (ht : t.columns = k.columns) :
    loadShares depth ⟨some t⟩ = loadShares depth ⟨some (t.addColumns k.added)⟩ := by
  have hu : (t.addColumns k.added).columns = Schema.newest.columns := by
    rw [SharesTable.addColumns_columns, ht, k.columns_added]
  rw [loadShares, loadShares, k.loadSharesTry_table depth t ht, Schema.newest.loadSharesTry_table depth _ hu,
    k.select_table t ht,
    Schema.newest.select_table _ hu, SharesTable.addColumns_rows,
    show Schema.newest.columns.length = 9 from rfl,
    mapM_map_of_eq _ fun r hr => k.fetchRow_newest r (ht ▸ t.row_width r hr)]
  cases t.rows.mapM (fetchRow · (k.columns.zip (List.range k.columns.length))) with
  | error e => rfl
  | ok rows =>
    show (match collect (k.row depth) ∅ rows with | .ok loaded => loaded | .error _ => ∅) = _
    rw [collect_newestRow depth k ∅ rows]
    rfl

/-- A table with one row of the oldest schema upgrades with its shares unchanged. -/
theorem loadShares_upgrade_base :
    (⟨Schema.base.columns, [[.integer 1, .null, .text (Utf8.encode "[]")]], by decide⟩ : SharesTable).columns =
        Schema.base.columns ∧
      loadShares 1 ⟨some ⟨Schema.base.columns, [[.integer 1, .null, .text (Utf8.encode "[]")]], by decide⟩⟩ =
        loadShares 1 ⟨some (SharesTable.addColumns
          ⟨Schema.base.columns, [[.integer 1, .null, .text (Utf8.encode "[]")]], by decide⟩ Schema.base.added)⟩ :=
  ⟨rfl, loadShares_upgrade 1 .base _ rfl⟩

/-- What `_load_shares` returns for a table `t` of schema `k`, with the recursion budget `depth` left
    for `json.loads`. -/
structure SharesLoaded (depth : Nat) (k : Schema) (t : SharesTable) : Prop where
  /-- A TEXT cell that is no UTF-8 makes the `SELECT` raise, and no share is loaded. -/
  undecodable_empty : (∃ r ∈ t.rows, ∃ bs, SqlValue.text bs ∈ r ∧ (Utf8.decode bs).toOption = none) →
    loadShares depth ⟨some t⟩ = ∅
  /-- Otherwise the last row whose id is `==` to a row's id gives the entry under it, each JSON column
      `json.loads` of its cell when the cell is truthy and `json.loads` succeeds, whatever JSON value
      that is, and the default otherwise. -/
  last_row_entry : ∀ rows, Connection.select ⟨some t⟩ k.columns = .ok rows →
    ∀ pre r post, rows = pre ++ r :: post → (∀ r' ∈ post, (r'.headD .none).key ≠ (r.headD .none).key) →
      ∃ sh, (loadShares depth ⟨some t⟩).getOn Scalar.key (r.headD .none) = some sh ∧
        sh.paths = loadsOr depth (.list []) (r.getD 2 .none) ∧
        sh.allowedUsers = loadsOr depth .none (r.getD 3 .none) ∧
        sh.allowList = loadsOr depth (.list []) (r.getD 6 .none) ∧
        sh.avoidList = loadsOr depth (.list []) (r.getD 7 .none)

section Loaded
variable (depth : Nat) (k : Schema) (t : SharesTable) (ht : t.columns = k.columns)
include ht

theorem loadShares_undecodable
    (h : ∃ r ∈ t.rows, ∃ bs, SqlValue.text bs ∈ r ∧ (Utf8.decode bs).toOption = none) :
    loadShares depth ⟨some t⟩ = ∅ := by
  obtain ⟨r, hr, bs, hbs, hdec⟩ := h
  -- the cell fails its fetch, so its row and the whole `SELECT` fail
  obtain ⟨i, hi, hri⟩ := List.mem_iff_getElem.1 hbs
  have hn : i < k.columns.length := by rw [← ht, ← t.row_width r hr]; exact hi
  have hcol : (k.columns[i], i) ∈ k.columns.zip (List.range k.columns.length) := by
    have := List.getElem_mem (l := k.columns.zip (List.range k.columns.length)) (n := i) (by simpa using hn)
    simpa [List.getElem_zip] using this
  have hcell : (r.getD i .null).fetch k.columns[i] = .error (.undecodable k.columns[i]) := by
    rw [List.getD_eq_getElem _ _ hi, hri]
    simp only [SqlValue.fetch]
    cases hd : Utf8.decode bs with
    | ok s => rw [hd] at hdec; cases hdec
    | error _ => rfl
  obtain ⟨e, he⟩ := mapM_error_of_mem (f := fun p : String × Nat => (r.getD p.2 .null).fetch p.1) hcell hcol
  obtain ⟨e', he'⟩ := mapM_error_of_mem (f := (fetchRow · (k.columns.zip (List.range k.columns.length)))) he hr
  rw [loadShares, k.loadSharesTry_table depth t ht, k.select_table t ht, he']
  rfl

theorem loadShares_last_row (rows : List (List Scalar))
    (hrows : Connection.select ⟨some t⟩ k.columns = .ok rows) (pre : List (List Scalar)) (r : List Scalar)
    (post : List (List Scalar)) (hsplit : rows = pre ++ r :: post)
    (hpost : ∀ r' ∈ post, (r'.headD .none).key ≠ (r.headD .none).key) :
    ∃ sh, (loadShares depth ⟨some t⟩).getOn Scalar.key (r.headD .none) = some sh ∧
      sh.paths = loadsOr depth (.list []) (r.getD 2 .none) ∧
      sh.allowedUsers = loadsOr depth .none (r.getD 3 .none) ∧
      sh.allowList = loadsOr depth (.list []) (r.getD 6 .none) ∧
      sh.avoidList = loadsOr depth (.list []) (r.getD 7 .none) := by
  -- every row fetched has the branch's width, so it unpacks
  have hwidth : ∀ y ∈ rows, y.length = k.columns.length := by
    intro y hy
    rw [k.select_table t ht] at hrows
    obtain ⟨x, -, hx⟩ := mapM_ok_mem hrows y hy
    simpa using fetchRow_length hx
  have hkey : ∀ y ∈ rows, ∀ p, k.row depth y = .ok p → p.1 = y.headD .none := by
    intro y hy p hp
    obtain ⟨sh, hsh, -⟩ := k.row_fields depth (hwidth y hy)
    rw [hsh] at hp
    cases hp
    rfl
  have hall : ∀ y ∈ rows, ∃ p, k.row depth y = .ok p := fun y hy =>
    (k.row_fields depth (hwidth y hy)).elim fun sh h => ⟨_, h.1⟩
  subst hsplit
  obtain ⟨sh, hrow, hfields⟩ := k.row_fields depth (hwidth r (by simp))
  obtain ⟨d₁, hd₁⟩ := collect_ok (k.row depth) ∅ pre fun y hy => hall y (by simp [hy])
  obtain ⟨d, hd⟩ := collect_ok (k.row depth) (d₁.insertOn Scalar.key (r.headD .none) sh) post
    fun y hy => hall y (by simp [hy])
  have hcollect : collect (k.row depth) ∅ (pre ++ r :: post) = .ok d := by
    rw [collect_append, hd₁, Except.ok_bind, collect, hrow, Except.ok_bind]
    exact hd
  refine ⟨sh, ?_, hfields⟩
  simp only [loadShares, k.loadSharesTry_table depth t ht, hrows, Except.mapError_ok, Except.ok_bind, hcollect]
  rw [getOn_collect_other (k.row depth) _ _ d post hd fun y hy p hp => hkey y (by simp [hy]) p hp ▸ hpost y hy,
    Dict.getOn_insertOn, if_pos rfl]

/-- What `_load_shares` returns for a table of one of the five schemas. -/
theorem loadShares_entries : SharesLoaded depth k t :=
  ⟨loadShares_undecodable depth k t ht, loadShares_last_row depth k t ht⟩

end Loaded

/-- Two rows whose ids `1` and `1.0` are `==`: the entry under `1` is the later row's, its `paths`
    the JSON array that row holds. -/
theorem loadShares_entries_same_key :
    ∃ sh, (loadShares 1 ⟨some ⟨Schema.newest.columns,
        [[.integer 1, .null, .text (Utf8.encode "[\"/a\"]"), .null, .null, .null, .null, .null, .null],
          [.real 0x3FF0000000000000, .null, .text (Utf8.encode "[\"/b\"]"), .null, .null, .null, .null, .null, .null]],
        by decide⟩⟩).getOn Scalar.key (.int 1) = some sh ∧ sh.paths = .list [.scalar (.str "/b")] := by
  obtain ⟨sh, hget, hpaths, -⟩ := (loadShares_entries 1 .newest ⟨Schema.newest.columns,
      [[.integer 1, .null, .text (Utf8.encode "[\"/a\"]"), .null, .null, .null, .null, .null, .null],
        [.real 0x3FF0000000000000, .null, .text (Utf8.encode "[\"/b\"]"), .null, .null, .null, .null, .null, .null]],
      by decide⟩ rfl).last_row_entry
    [[.int 1, .none, .str "[\"/a\"]", .none, .none, .none, .none, .none, .none],
      [.float 0x3FF0000000000000, .none, .str "[\"/b\"]", .none, .none, .none, .none, .none, .none]] rfl
    [[.int 1, .none, .str "[\"/a\"]", .none, .none, .none, .none, .none, .none]]
    [.float 0x3FF0000000000000, .none, .str "[\"/b\"]", .none, .none, .none, .none, .none, .none] [] rfl
    fun _ h => by cases h
  have hkey : (Scalar.float 0x3FF0000000000000).key = (Scalar.int 1).key := by decide
  exact ⟨sh, by simpa only [Dict.getOn, List.headD, hkey] using hget, hpaths.trans rfl⟩

/-- Every row of a table of one of the five schemas has an entry under its id, whose `paths`,
    `allow_list` and `avoid_list` are lists and whose `allowed_users` is a list or `None`. -/
def EveryRowLoadsLists : Prop :=
  ∀ depth (k : Schema) (t : SharesTable), t.columns = k.columns → ∀ r ∈ t.rows, ∀ sid,
    (r.headD .null).fetch "id" = .ok sid →
      ∃ sh, (loadShares depth ⟨some t⟩).getOn Scalar.key sid = some sh ∧ sh.paths.isList ∧ sh.allowList.isList ∧
        sh.avoidList.isList ∧ (sh.allowedUsers.isList || sh.allowedUsers.isNone)

/-- A `paths` cell holding the JSON number `5` loads as the number `5`, not as a list. -/
theorem loadShares_keeps_non_array_json : ¬EveryRowLoadsLists := by
  intro h
  obtain ⟨sh, hget, hpaths, -⟩ := h 1 .base
    ⟨Schema.base.columns, [[.text (Utf8.encode "a"), .text (Utf8.encode "2024"), .text (Utf8.encode "5")]],
      by decide⟩ rfl _ (List.mem_singleton_self _) (.str "a") rfl
  have hval := congrArg (Option.map (·.paths.isList)) hget
  rw [show ((loadShares 1 _).getOn Scalar.key (.str "a")).map (·.paths.isList) = some false by decide] at hval
  simp [hpaths] at hval

/-! ### Columns written by `json.dumps` -/

end Aird
