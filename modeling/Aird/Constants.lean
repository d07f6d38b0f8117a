import Aird.Python.Str
import Mathlib.Data.Finset.Insert

/-! # The upload whitelist

`ALLOWED_UPLOAD_EXTENSIONS` (`aird/constants.py:44-58`): a fixed set, or the comma-separated entries
of `AIRD_ALLOWED_UPLOAD_EXTENSIONS` stripped, lowercased and put after one `.`. The `try` around the
comprehension catches nothing, as no string method it calls raises on a `str`. -/

namespace Aird

/-- The whitelist of lines 44-53, in the order of the set display. -/
def defaultUploadExtensions : List String :=
  [".txt", ".log", ".md", ".csv", ".json", ".xml", ".yaml", ".yml",
    ".png", ".jpg", ".jpeg", ".gif", ".bmp", ".webp", ".svg",
    ".zip", ".tar", ".gz", ".bz2", ".xz",
    ".py", ".js", ".ts", ".java", ".c", ".cpp", ".go", ".rs", ".sh"]

/-- The set comprehension of line 58 over `_env_exts`. -/
def envUploadExtensions (envExts : String) : Finset String :=
  (((split envExts ',').filter fun e => strip e ≠ "").map
    fun e => "." ++ lower (lstrip (strip e) ".")).toFinset

/-- `ALLOWED_UPLOAD_EXTENSIONS` once the module has run, for the value
    `os.environ.get("AIRD_ALLOWED_UPLOAD_EXTENSIONS")` returns: the comprehension where that is a
    nonempty text (`if _env_exts:`), the whitelist of lines 44-53 otherwise. -/
def allowedUploadExtensions : Option String → Finset String
  | some envExts => if envExts ≠ "" then envUploadExtensions envExts else defaultUploadExtensions.toFinset
  | none => defaultUploadExtensions.toFinset

example : allowedUploadExtensions (some " .TXT , ..Md,, ") = {".txt", ".md"} := by decide
example : allowedUploadExtensions (some " , ") = ∅ := by decide
example : allowedUploadExtensions (some "ÄB") = {".äb"} := by decide

/-! ### Writing the whitelist into the environment -/

/-- A character an extension may hold for the round trip: ASCII, and neither a capital, a comma
    nor whitespace. -/
def plainChar (c : Char) : Bool :=
  c.toNat < 128 && !(65 ≤ c.toNat && c.toNat ≤ 90) && c != ',' && !isSpace c

/-- An extension as lines 44-53 write them: `.`, then plain characters, the first of them not a
    `.`. -/
def plainExtension (e : String) : Bool :=
  match e.data with
  | '.' :: c :: name => c != '.' && (c :: name).all plainChar
  | _ => false

theorem plainExtension_cases {e : String} (h : plainExtension e = true) :
    ∃ c name, e.data = '.' :: c :: name ∧ c ≠ '.' ∧ ∀ x ∈ c :: name, plainChar x = true := by
  unfold plainExtension at h
  split at h
  · next c name he => exact ⟨c, name, he, by simpa using h⟩
  · cases h

/-- A plain extension is an entry the comprehension keeps and turns back into itself. -/
theorem plainExtension_entry {e : String} (h : plainExtension e = true) :
    strip e ≠ "" ∧ "." ++ lower (lstrip (strip e) ".") = e := by
  obtain ⟨c, name, he, hc, hplain⟩ := plainExtension_cases h
  have hchar : ∀ x ∈ c :: name, x.toNat < 128 ∧ (x.toNat < 65 ∨ 90 < x.toNat) ∧ x ≠ ',' ∧
      isSpace x = false := fun x hx => by simpa [plainChar, and_assoc] using hplain x hx
  have hstrip : strip e = e := strip_of_forall fun x hx => by
    rw [he, List.mem_cons] at hx
    rcases hx with rfl | hx
    · rfl
    · exact (hchar x hx).2.2.2
  have hname : lower ⟨c :: name⟩ = ⟨c :: name⟩ := lower_of_forall fun x hx => ⟨(hchar x hx).1, (hchar x hx).2.1⟩
  refine ⟨by rw [hstrip]; intro h0; simp [h0] at he, ?_⟩
  have hlstrip : lstrip e "." = ⟨c :: name⟩ := by
    simp [lstrip, he, hc, show ".".data = ['.'] from rfl]
  rw [hstrip, hlstrip, hname]
  exact String.ext (by simp [he])

/-- Setting `AIRD_ALLOWED_UPLOAD_EXTENSIONS` to plain extensions joined by commas makes the whitelist
    exactly those extensions. -/
theorem allowedUploadExtensions_join (exts : List String) (hne : exts ≠ [])
    (hplain : ∀ e ∈ exts, plainExtension e = true) :
    allowedUploadExtensions (some (join "," exts)) = exts.toFinset := by
  have hsplit : split (join "," exts) ',' = exts := split_join ',' hne fun e he hcomma => by
    obtain ⟨c, name, hd, -, hchars⟩ := plainExtension_cases (hplain e he)
    rw [hd, List.mem_cons] at hcomma
    rcases hcomma with h | h
    · exact absurd h (by decide)
    · exact absurd (hchars ',' h) (by decide)
  have hjoin : join "," exts ≠ "" := by
    intro h0
    rw [h0] at hsplit
    exact absurd (hplain "" (by rw [← hsplit]; decide)) (by decide)
  rw [allowedUploadExtensions, if_pos hjoin, envUploadExtensions, hsplit,
    List.filter_eq_self.2 fun e he => decide_eq_true (plainExtension_entry (hplain e he)).1,
    List.map_congr_left fun e he => (plainExtension_entry (hplain e he)).2, List.map_id']

/-- The whitelist of lines 44-53, written into the environment, is read back as itself. -/
theorem allowedUploadExtensions_join_default :
    defaultUploadExtensions ≠ [] ∧ (∀ e ∈ defaultUploadExtensions, plainExtension e = true) ∧
      allowedUploadExtensions (some (join "," defaultUploadExtensions)) =
        defaultUploadExtensions.toFinset :=
  ⟨by decide, by decide, allowedUploadExtensions_join _ (by decide) (by decide)⟩

end Aird
