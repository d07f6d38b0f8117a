import Aird.Python.Str

/-! # File icons

`get_file_icon` (`aird/utils/util.py:84-214`): by the lowercased whole name for a few special files,
then `.env` files by a prefix of the name as it is, then by the lowercased extension in the order of
its `elif` chain, and `📦` otherwise. -/

namespace Aird

/-- `os.path.splitext(p)[1]` (`genericpath._splitext` with separator `/` and extension separator
    `.`): from the last `.` of the last path component, when something else than `.` stands before
    it in the component; empty otherwise. Read on the reversed path. -/
def splitextExt (p : String) : String :=
  let base := p.data.reverse.takeWhile (· ≠ '/')
  match base.dropWhile (· ≠ '.') with
  | _ :: stem => if stem.any (· ≠ '.') then ⟨'.' :: (base.takeWhile (· ≠ '.')).reverse⟩ else ""
  | [] => ""

/-- The special names, lowercased, and their icons (util.py:88-97). -/
def nameIcons : List (List String × String) := [
  (["readme", "readme.md", "readme.txt"], "📖"),
  (["license", "licence", "copying"], "📜"),
  (["makefile", "cmake", "cmakelists.txt"], "🔨"),
  (["dockerfile", "docker-compose.yml", "docker-compose.yaml"], "🐳"),
  ([".gitignore", ".gitattributes", ".gitmodules"], "🔧")]

/-- The extensions, lowercased, and their icons, in the order of the `elif` chain
    (util.py:102-209). -/
def extIcons : List (List String × String) := [
  ([".txt", ".md", ".rst", ".text"], "📄"),
  ([".doc", ".docx", ".rtf", ".odt"], "📝"),
  ([".pdf"], "📕"),
  ([".xls", ".xlsx", ".ods", ".csv"], "📊"),
  ([".ppt", ".pptx", ".odp"], "📋"),
  ([".jpg", ".jpeg", ".png", ".gif", ".bmp", ".webp", ".tiff", ".tif"], "🖼️"),
  ([".svg", ".ico"], "🎨"),
  ([".psd", ".ai", ".sketch"], "🎭"),
  ([".py", ".pyw"], "🐍💎"),
  ([".pyc", ".pyo"], "🐍⚡"),
  ([".js", ".jsx", ".ts", ".tsx", ".mjs"], "🟨"),
  ([".java", ".class", ".jar"], "☕"),
  ([".cpp", ".cxx", ".cc", ".c", ".h", ".hpp"], "⚙️"),
  ([".cs", ".vb", ".fs"], "🔷"),
  ([".php", ".phtml"], "🐘"),
  ([".rb", ".rake", ".gem"], "💎"),
  ([".go"], "🐹"),
  ([".rs"], "🦀"),
  ([".swift"], "🦉"),
  ([".kt", ".kts"], "🟣"),
  ([".scala"], "🔴"),
  ([".r", ".rmd"], "📊"),
  ([".m", ".mm"], "🍎"),
  ([".pl", ".pm"], "🐪"),
  ([".sh", ".bash", ".zsh", ".fish", ".bat", ".cmd", ".ps1"], "📟"),
  ([".lua"], "🌙"),
  ([".dart"], "🎯"),
  ([".html", ".htm", ".xhtml"], "🌐"),
  ([".css", ".scss", ".sass", ".less"], "🎨"),
  ([".xml", ".xsl", ".xsd"], "📰"),
  ([".json", ".jsonl"], "📋"),
  ([".yaml", ".yml"], "📄"),
  ([".toml", ".ini", ".cfg", ".conf"], "⚙️"),
  ([".zip", ".rar", ".7z", ".tar", ".gz", ".bz2", ".xz", ".lz", ".lzma"], "🗜️"),
  ([".deb", ".rpm", ".pkg", ".dmg", ".msi", ".exe"], "📦"),
  ([".mp4", ".avi", ".mkv", ".mov", ".wmv", ".flv", ".webm", ".m4v", ".3gp", ".ogv", ".mpg", ".mpeg"], "🎬"),
  ([".mp3", ".wav", ".flac", ".aac", ".ogg", ".m4a", ".wma", ".opus", ".aiff"], "🎵"),
  ([".ttf", ".otf", ".woff", ".woff2", ".eot"], "🔤"),
  ([".db", ".sqlite", ".sqlite3", ".mdb", ".accdb"], "🗃️"),
  ([".log", ".out", ".err"], "📜"),
  ([".sql"], "🗄️"),
  ([".parquet", ".avro", ".orc"], "📊"),
  ([".ipynb"], "📓")]

/-- The icon of the first entry of `table` that lists `key`. -/
def iconOf? (table : List (List String × String)) (key : String) : Option String :=
  (table.find? (key ∈ ·.1)).map (·.2)

/-- `get_file_icon(filename)`. -/
def getFileIcon (filename : String) : String :=
  let ext := lower (splitextExt filename)
  match iconOf? nameIcons (lower filename) with
  | some icon => icon
  | none => if startswith filename ".env" then "🔐" else (iconOf? extIcons ext).getD "📦"

/-- Line 98 tests the name as it is: `.ENV` falls through to the extension table, which has no
    entry for it, while its lowercase `.env` gets the key. -/
theorem getFileIcon_env_case : getFileIcon ".ENV" = "📦" ∧ getFileIcon (lower ".ENV") = "🔐" := by
  decide

/-! ### Lowercasing

A character lowercases to `.` or `/` only when it is one, so `splitext` finds its separators where
the lowercase has them; but `lower` reads across a `.` to pick the form of a capital sigma, so the
lowercased extension and the extension of the lowercase agree only up to that form. -/

section Scan
variable {g : Char → List Char} {p : Char → Bool}

theorem takeWhile_flatMap (hstop : ∀ c, p c = false → g c = [c])
    (hgo : ∀ c, p c = true → ∀ x ∈ g c, p x = true) :
    ∀ l : List Char, (l.flatMap g).takeWhile p = (l.takeWhile p).flatMap g
  | [] => rfl
  | c :: l => by
    cases hc : p c
    · simp [hstop c hc, hc]
    · rw [List.flatMap_cons, List.takeWhile_append_of_pos (hgo c hc), List.takeWhile_cons_of_pos hc,
        List.flatMap_cons, takeWhile_flatMap hstop hgo l]

theorem dropWhile_flatMap (hstop : ∀ c, p c = false → g c = [c])
    (hgo : ∀ c, p c = true → ∀ x ∈ g c, p x = true) :
    ∀ l : List Char, (l.flatMap g).dropWhile p = (l.dropWhile p).flatMap g
  | [] => rfl
  | c :: l => by
    cases hc : p c
    · simp [hstop c hc, hc]
    · rw [List.flatMap_cons, List.dropWhile_append_of_pos (hgo c hc), List.dropWhile_cons_of_pos hc,
        dropWhile_flatMap hstop hgo l]

end Scan

/-- `g` maps each separator of `splitext` to itself alone and brings no separator in elsewhere. -/
def KeepsSeparators (g : Char → List Char) : Prop :=
  ∀ sep, sep = '.' ∨ sep = '/' → ∀ c, (c = sep → g c = [sep]) ∧ (c ≠ sep → sep ∉ g c)

section Separators
variable {g : Char → List Char} (hsep : KeepsSeparators g)
include hsep

theorem reversed_stops {sep : Char} (hs : sep = '.' ∨ sep = '/') :
    (∀ c, decide (c ≠ sep) = false → (g c).reverse = [c]) ∧
      ∀ c, decide (c ≠ sep) = true → ∀ x ∈ (g c).reverse, decide (x ≠ sep) = true := by
  refine ⟨fun c hc => ?_, fun c hc x hx => ?_⟩
  · have hc : c = sep := by simpa using hc
    rw [(hsep sep hs c).1 hc, hc]
    rfl
  · have hc : c ≠ sep := by simpa using hc
    simp only [ne_eq, decide_eq_true_eq]
    rintro rfl
    exact (hsep _ hs c).2 hc (List.mem_reverse.1 hx)

/-- `splitext` commutes with a map of the characters that keeps its separators and drops none. -/
theorem splitextExt_flatMap (hne : ∀ c, g c ≠ []) (s : String) :
    splitextExt ⟨s.data.flatMap g⟩ = ⟨(splitextExt s).data.flatMap g⟩ := by
  have hrev : (s.data.flatMap g).reverse = s.data.reverse.flatMap (fun c => (g c).reverse) :=
    List.reverse_flatMap _ _
  obtain ⟨hs₁, hs₂⟩ := reversed_stops hsep (.inr rfl)
  obtain ⟨hd₁, hd₂⟩ := reversed_stops hsep (.inl rfl)
  have hdot : g '.' = ['.'] := (hsep '.' (.inl rfl) '.').1 rfl
  simp only [splitextExt, hrev, takeWhile_flatMap hs₁ hs₂, dropWhile_flatMap hd₁ hd₂,
    takeWhile_flatMap hd₁ hd₂]
  generalize s.data.reverse.takeWhile (· ≠ '/') = base
  cases hb : base.dropWhile (· ≠ '.') with
  | nil => rfl
  | cons c stem =>
    have hc : c = '.' := by simpa using dropWhile_eq_cons hb
    subst hc
    have hany : (stem.flatMap fun c => (g c).reverse).any (· ≠ '.') = stem.any (· ≠ '.') := by
      simp only [List.any_flatMap, List.any_reverse]
      congr
      funext a
      by_cases ha : a = '.'
      · simp [ha, hdot]
      · obtain ⟨x, hx⟩ := List.exists_mem_of_ne_nil _ (hne a)
        simpa [ha] using ⟨x, hx, fun e => (hsep '.' (.inl rfl) a).2 ha (e ▸ hx)⟩
    rw [List.flatMap_cons, hdot, List.reverse_singleton, List.singleton_append]
    dsimp only
    rw [hany]
    split
    · simp only [List.reverse_flatMap, Function.comp_def, List.reverse_reverse, List.flatMap_cons, hdot,
        List.singleton_append]
    · rfl

end Separators

theorem foldSigma_eq_sep {sep : Char} (hs : sep = '.' ∨ sep = '/') (c : Char) : foldSigma c = sep ↔ c = sep := by
  unfold foldSigma
  split_ifs with h
  · subst h
    rcases hs with rfl | rfl <;> decide
  · rfl

theorem keepsSeparators_lower : KeepsSeparators fun c => (Unicode.toLowerFull c).map foldSigma := by
  intro sep hs c
  dsimp only
  have hlt : sep.toNat < 65 := by rcases hs with rfl | rfl <;> decide
  refine ⟨fun hc => by rw [(toLowerFull_sep hlt c).1 hc, List.map_singleton, (foldSigma_eq_sep hs sep).2 rfl],
    fun hc hmem => ?_⟩
  obtain ⟨x, hx, hxs⟩ := List.mem_map.1 hmem
  exact (toLowerFull_sep hlt c).2 hc ((foldSigma_eq_sep hs x).1 hxs ▸ hx)

theorem keepsSeparators_foldSigma : KeepsSeparators fun c => [foldSigma c] := fun _ hs c =>
  ⟨fun hc => congrArg ([·]) ((foldSigma_eq_sep hs c).2 hc), fun hc hmem => hc ((foldSigma_eq_sep hs c).1
    (List.mem_singleton.1 hmem).symm)⟩

/-- The lowercased extension of a name is the extension of its lowercase, up to the form of a
    sigma. -/
theorem lower_splitextExt (s : String) :
    (lower (splitextExt s)).data.map foldSigma = (splitextExt (lower s)).data.map foldSigma := by
  have hlow := congrArg String.data
    (splitextExt_flatMap keepsSeparators_lower (fun c => by simpa using toLowerFull_ne_nil c) s)
  have hfold := congrArg String.data
    (splitextExt_flatMap keepsSeparators_foldSigma (fun _ => List.cons_ne_nil _ _) (lower s))
  rw [← List.map_eq_flatMap, ← List.map_eq_flatMap] at hfold
  dsimp only at hlow hfold
  show (lowerGo [] (splitextExt s).data).map foldSigma = _
  rw [lowerGo_foldSigma, List.map_flatMap, ← hlow, ← List.map_flatMap, ← lowerGo_foldSigma []]
  exact hfold

theorem extIcons_ascii : ∀ e ∈ extIcons, ∀ k ∈ e.1, ∀ c ∈ k.data, c.toNat < 0x80 := by decide

theorem foldSigma_eq_self {c : Char} (h : (foldSigma c).toNat < 0x80 ∨ c.toNat < 0x80) : foldSigma c = c := by
  unfold foldSigma at h ⊢
  split_ifs at h ⊢ with hc
  · subst hc
    exact absurd h (by decide)
  · rfl

theorem eq_of_foldSigma {l m : List Char} (h : l.map foldSigma = m.map foldSigma)
    (hm : ∀ c ∈ m, c.toNat < 0x80) : l = m := by
  have hm' : m.map foldSigma = m :=
    (List.map_congr_left fun c hc => foldSigma_eq_self (.inr (hm c hc))).trans (List.map_id' m)
  rw [hm'] at h
  have hl : l.map foldSigma = l := (List.map_congr_left fun c hc =>
    foldSigma_eq_self (.inl (hm _ (h ▸ List.mem_map_of_mem foldSigma hc)))).trans (List.map_id' l)
  rw [← hl, h]

theorem iconOf?_congr {x y : String} : ∀ {table : List (List String × String)},
    (∀ e ∈ table, x ∈ e.1 ↔ y ∈ e.1) → iconOf? table x = iconOf? table y
  | [], _ => rfl
  | e :: table, h => by
    have ih := iconOf?_congr fun e' he' => h e' (List.mem_cons_of_mem _ he')
    unfold iconOf? at ih ⊢
    simp only [List.find?_cons, decide_eq_decide.2 (h e (List.mem_cons_self _ _))]
    cases decide (y ∈ e.1)
    · exact ih
    · rfl

/-- Extensions equal up to the form of their sigmas get one icon. -/
theorem iconOf?_extIcons {x y : String} (h : x.data.map foldSigma = y.data.map foldSigma) :
    iconOf? extIcons x = iconOf? extIcons y := by
  refine iconOf?_congr fun e he => ⟨fun hx => ?_, fun hy => ?_⟩
  · exact String.ext (eq_of_foldSigma h.symm (extIcons_ascii e he x hx)) ▸ hx
  · exact String.ext (eq_of_foldSigma h (extIcons_ascii e he y hy)) ▸ hy

/-- The icon depends on the name only through its lowercase and whether the name as it is starts
    with `.env`; so `get_file_icon(f) == get_file_icon(f.lower())` whenever lowercasing keeps the
    answer of line 98. -/
theorem getFileIcon_eq_of_lower_eq {f g : String} (hl : lower f = lower g)
    (he : startswith f ".env" = startswith g ".env") : getFileIcon f = getFileIcon g := by
  have hext : iconOf? extIcons (lower (splitextExt f)) = iconOf? extIcons (lower (splitextExt g)) :=
    iconOf?_extIcons (by rw [lower_splitextExt, lower_splitextExt, hl])
  simp only [getFileIcon, hl, he, hext]

theorem getFileIcon_ecole_spellings :
    lower "ÉCOLE.PDF" = lower "école.pdf" ∧ startswith "ÉCOLE.PDF" ".env" = startswith "école.pdf" ".env" ∧
      getFileIcon "ÉCOLE.PDF" = getFileIcon "école.pdf" :=
  ⟨by decide, by decide, getFileIcon_eq_of_lower_eq (by decide) (by decide)⟩

end Aird
