import Aird.Python.Unicode
import Aird.Python.Value
import Mathlib.Data.List.DropRight

/-! # String methods

The methods of Python's `str` that the modelled code calls: `startswith`, `lower` (CPython's, with
the full lowercase of each character and the final form of a capital sigma), `strip`, `lstrip`,
`split` with a one-character separator, and `join`. -/

namespace Aird

/-- `s.startswith(prefix)`. -/
def startswith (s pre : String) : Bool := pre.data.isPrefixOf s.data

theorem dropWhile_eq_cons {α : Type} {p : α → Bool} :
    ∀ {l : List α} {c : α} {stem : List α}, l.dropWhile p = c :: stem → p c = false
  | [], _, _, h => by cases h
  | x :: l, c, stem, h => by
    by_cases hx : p x
    · rw [List.dropWhile_cons_of_pos hx] at h
      exact dropWhile_eq_cons h
    · rw [List.dropWhile_cons_of_neg hx] at h
      cases h
      simpa using hx

/-! ### Lowercase -/

/-- `handle_capital_sigma` (`Objects/unicodeobject.c`): a capital sigma takes its final form when
    the nearest character before it that is not case-ignorable is cased, and the nearest one after
    it, if there is one, is not. `before` holds the characters before it, nearest first. -/
def finalSigma (before after : List Char) : Bool :=
  match before.dropWhile Unicode.isCaseIgnorable with
  | [] => false
  | c :: _ => Unicode.isCased c && match after.dropWhile Unicode.isCaseIgnorable with
    | [] => true
    | c :: _ => !Unicode.isCased c

/-- `do_lower` from the characters `after` on, `before` those read already, nearest first: each
    character's full lowercase, a capital sigma's by its context (`lower_ucs4`). -/
def lowerGo : List Char → List Char → List Char
  | _, [] => []
  | before, c :: after =>
    (if c = 'Σ' then [if finalSigma before after then 'ς' else 'σ'] else Unicode.toLowerFull c) ++
      lowerGo (c :: before) after

/-- `s.lower()`. CPython lowercases an ASCII text by a shortcut with the same result. -/
def lower (s : String) : String := ⟨lowerGo [] s.data⟩

set_option maxRecDepth 4000 in
example : lower "ÉCOLE.PDF" = "école.pdf" ∧ lower "ΟΔΟΣ.Σ" = "οδοσ.ς" := by decide

/-- A final sigma read as `σ`: texts equal up to the form of their sigmas map to one text. -/
def foldSigma (c : Char) : Char := if c = 'ς' then 'σ' else c

/-- Up to the form of a sigma, `lower` lowercases character by character. -/
theorem lowerGo_foldSigma : ∀ (before l : List Char),
    (lowerGo before l).map foldSigma = (l.flatMap Unicode.toLowerFull).map foldSigma
  | _, [] => rfl
  | before, c :: after => by
    rw [lowerGo, List.flatMap_cons, List.map_append, List.map_append, lowerGo_foldSigma (c :: before) after]
    by_cases hc : c = 'Σ'
    · have hsigma : (Unicode.toLowerFull 'Σ').map foldSigma = ['σ'] := by decide
      subst hc
      rw [if_pos rfl, hsigma]
      split <;> rfl
    · rw [if_neg hc]

theorem toNat_ofNat_of_lt {n : Nat} (h : n < 0xD800) : (Char.ofNat n).toNat = n :=
  Unicode.toNat_ofNat_of_valid (.inl h)

/-- The full lowercase of a character holds a separator below `A`, such as `.` or `/`, just when the
    character is that separator, and is then the separator alone. -/
theorem toLowerFull_sep {sep : Char} (hsep : sep.toNat < 65) (c : Char) :
    (c = sep → Unicode.toLowerFull c = [sep]) ∧ (c ≠ sep → sep ∉ Unicode.toLowerFull c) := by
  by_cases ha : c.toNat < 0x80
  · rw [Unicode.toLowerFull, if_pos ha]
    refine ⟨fun hc => ?_, fun hc hmem => ?_⟩
    · subst hc
      rw [if_neg (by omega)]
    · rw [List.mem_singleton] at hmem
      split_ifs at hmem with hu
      · have := congrArg Char.toNat hmem
        rw [toNat_ofNat_of_lt (by omega)] at this
        omega
      · exact hc hmem.symm
  · have hne : c ≠ sep := fun e => by rw [e] at ha; omega
    exact ⟨fun e => absurd e hne, fun _ hmem => absurd (Unicode.toLowerFull_ge (by omega) sep hmem) (by omega)⟩

theorem toLowerFull_ne_nil (c : Char) : Unicode.toLowerFull c ≠ [] := by
  unfold Unicode.toLowerFull
  split_ifs <;> try split
  all_goals simp

/-- A text of ASCII characters other than capitals is its own lowercase. -/
theorem lowerGo_of_forall :
    ∀ {before l : List Char}, (∀ c ∈ l, c.toNat < 0x80 ∧ (c.toNat < 65 ∨ 90 < c.toNat)) → lowerGo before l = l
  | _, [], _ => rfl
  | before, c :: l, h => by
    rw [List.forall_mem_cons] at h
    have hc : c ≠ 'Σ' := fun e => absurd (e ▸ h.1.1) (by decide)
    rw [lowerGo, if_neg hc, Unicode.toLowerFull, if_pos h.1.1, if_neg (by omega), lowerGo_of_forall h.2]
    rfl

theorem lower_of_forall {s : String} (h : ∀ c ∈ s.data, c.toNat < 0x80 ∧ (c.toNat < 65 ∨ 90 < c.toNat)) :
    lower s = s :=
  congrArg String.mk (lowerGo_of_forall h)

/-! ### Whitespace, splitting and joining -/

/-- The characters `str.strip()` removes, those of CPython's `Py_UNICODE_ISSPACE`: tab to carriage
    return, the four information separators, space, U+0085, U+00A0, U+1680, U+2000 to U+200A,
    U+2028, U+2029, U+202F, U+205F and U+3000. -/
def isSpace (c : Char) : Bool :=
  (9 ≤ c.toNat && c.toNat ≤ 13) || (28 ≤ c.toNat && c.toNat ≤ 32) || c.toNat == 0x85 ||
    c.toNat == 0xA0 || c.toNat == 0x1680 || (0x2000 ≤ c.toNat && c.toNat ≤ 0x200A) ||
    c.toNat == 0x2028 || c.toNat == 0x2029 || c.toNat == 0x202F || c.toNat == 0x205F ||
    c.toNat == 0x3000

/-- `s.strip()`: `s` without the whitespace at its start and at its end. -/
def strip (s : String) : String := ⟨(s.data.dropWhile isSpace).rdropWhile isSpace⟩

/-- `s.lstrip(chars)`: `s` without the characters of `chars` at its start. -/
def lstrip (s chars : String) : String := ⟨s.data.dropWhile (· ∈ chars.data)⟩

/-- `s.split(sep)` for a separator of one character: the pieces between the separators, the empty
    ones included. -/
def split (s : String) (sep : Char) : List String := (s.data.splitOn sep).map String.mk

/-- `sep.join(parts)`. -/
def join (sep : String) (parts : List String) : String :=
  ⟨sep.data.intercalate (parts.map String.data)⟩

theorem strip_of_forall {s : String} (h : ∀ c ∈ s.data, isSpace c = false) : strip s = s := by
  have hl : s.data.dropWhile isSpace = s.data :=
    List.dropWhile_eq_self_iff.2 fun hl => by simp [h _ (List.getElem_mem hl)]
  rw [strip, hl, List.rdropWhile_eq_self_iff.2 fun hl => by simp [h _ (List.getLast_mem hl)]]

/-- Splitting at a character undoes joining with it, when no part holds it. -/
theorem split_join (sep : Char) {parts : List String} (hne : parts ≠ [])
    (hsep : ∀ p ∈ parts, sep ∉ p.data) : split (join ⟨[sep]⟩ parts) sep = parts := by
  rw [split, join, List.splitOn_intercalate _ sep (by simpa using hsep) (by simpa using hne),
    List.map_map]
  exact List.map_id _

end Aird
