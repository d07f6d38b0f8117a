import Aird.Python.Json
import Aird.Python.Utf8

/-! # Reading back what `json.dumps` writes

`json.dumps` with its defaults, as CPython's C encoder writes it, for the values `dumpable` allows;
the scanner reads every such text back, from the text and from its UTF-8 bytes, up to its recursion
budget (`jsonLoads_dumps`). One lemma per level of the scanner's mutual recursion, tied by one
induction on fuel (`scanner_reads`). -/

namespace Aird.Json

/-! ### The writer -/

/-- `Py_hexdigits`. -/
def hexdigits : List Char := ['0', '1', '2', '3', '4', '5', '6', '7', '8', '9', 'a', 'b', 'c', 'd', 'e', 'f']

/-- `Py_hexdigits[d]`. -/
def hexdigit (d : Nat) : Char := hexdigits.getD d '0'

/-- The four hexadecimal digits `ascii_escape_unichar` writes for the code unit `u`, most
    significant first: `(u >> 12) & 0xf`, `(u >> 8) & 0xf`, `(u >> 4) & 0xf`, `u & 0xf`. -/
def hexUnit (u : Nat) : List Char :=
  [hexdigit (u / 4096 % 16), hexdigit (u / 256 % 16), hexdigit (u / 16 % 16), hexdigit (u % 16)]

/-- `S_CHAR`: the characters `ascii_escape_unicode` copies, printable ASCII but `\` and `"`. -/
def sChar (c : Char) : Bool := ' ' ≤ c && c ≤ '~' && c != '\\' && c != '"'

/-- `ascii_escape_unichar`: a backslash, then a short escape, or `u` and the code unit in hexadecimal;
    a character past U+FFFF as its UTF-16 surrogate pair `Py_UNICODE_HIGH_SURROGATE`,
    `Py_UNICODE_LOW_SURROGATE`. -/
def asciiEscapeUnichar (c : Char) : List Char :=
  '\\' :: match c with
    | '\\' => ['\\']
    | '"' => ['"']
    | '\x08' => ['b']
    | '\x0c' => ['f']
    | '\n' => ['n']
    | '\r' => ['r']
    | '\t' => ['t']
    | c =>
      if 0x10000 ≤ c.toNat then
        'u' :: hexUnit (0xD7C0 + c.toNat / 1024) ++ '\\' :: 'u' :: hexUnit (0xDC00 + c.toNat % 1024)
      else 'u' :: hexUnit c.toNat

/-- One character as `ascii_escape_unicode` writes it. -/
def escapeChar (c : Char) : List Char := if sChar c then [c] else asciiEscapeUnichar c

/-- `ascii_escape_unicode`: the text between double quotes, escaped. -/
def asciiEscapeUnicode (s : String) : List Char := '"' :: s.data.flatMap escapeChar ++ ['"']

/-- `int.__repr__`: a minus for a negative number, then the decimal digits of its magnitude. -/
def intRepr (i : Int) : List Char := (if i < 0 then ['-'] else []) ++ Nat.toDigits 10 i.natAbs

mutual

/-- `json.dumps(v)`. A float or bytes is no value of this writer: `dumpable` admits neither. -/
def dumps : PyValue → List Char
  | .scalar .none => ['n', 'u', 'l', 'l']
  | .bool true => ['t', 'r', 'u', 'e']
  | .bool false => ['f', 'a', 'l', 's', 'e']
  | .scalar (.int i) => intRepr i
  | .scalar (.str s) => asciiEscapeUnicode s
  | .scalar (.float _) | .scalar (.bytes _) => []
  | .list [] => ['[', ']']
  | .list (v :: vs) => '[' :: dumps v ++ dumpsElems vs
  | .dict [] => ['{', '}']
  | .dict ((k, v) :: kvs) => '{' :: asciiEscapeUnicode k ++ ':' :: ' ' :: dumps v ++ dumpsItems kvs

/-- The elements of a list after the first, each after the item separator `", "`, then `]`. -/
def dumpsElems : List PyValue → List Char
  | [] => [']']
  | v :: vs => ',' :: ' ' :: dumps v ++ dumpsElems vs

/-- The items of a dict after the first, each after `", "` and its key after `": "`, then `}`. -/
def dumpsItems : List (String × PyValue) → List Char
  | [] => ['}']
  | (k, v) :: kvs => ',' :: ' ' :: asciiEscapeUnicode k ++ ':' :: ' ' :: dumps v ++ dumpsItems kvs

end

mutual

/-- The values this writer covers: no float, no bytes, every int of 4300 digits at most (past them
    `int.__repr__` and `int()` both raise), and in every dict each key once, as in a Python `dict`. -/
def dumpable : PyValue → Bool
  | .scalar .none | .bool _ | .scalar (.str _) => true
  | .scalar (.int i) => (Nat.toDigits 10 i.natAbs).length ≤ 4300
  | .scalar (.float _) | .scalar (.bytes _) => false
  | .list vs => dumpableList vs
  | .dict items => (items.map (·.1)).Nodup && dumpableItems items

def dumpableList : List PyValue → Bool
  | [] => true
  | v :: vs => dumpable v && dumpableList vs

def dumpableItems : List (String × PyValue) → Bool
  | [] => true
  | (_, v) :: kvs => dumpable v && dumpableItems kvs

end

example : dumps (.dict [("a", .list [.scalar (.int (-12)), .scalar (.str "é\n")]), ("b", .none)]) =
    "\x7b\"a\": [-12, \"\\u00e9\\n\"], \"b\": null\x7d".data := by decide

mutual

/-- `encoder_listencode_obj` with `depth` recursive calls left. Each list and dict first enters a
    recursive call, and `Py_EnterRecursiveCall` raises `RecursionError` when none is left;
    `int.__repr__` raises `ValueError` past 4300 digits, and `bytes` raise `TypeError`. A float,
    whose `float.__repr__` this writer leaves out, is none too. -/
def listencodeObj : Nat → PyValue → Option (List Char)
  | _, .scalar .none => some ['n', 'u', 'l', 'l']
  | _, .bool b => some (dumps (.bool b))
  | _, .scalar (.int i) => if (Nat.toDigits 10 i.natAbs).length ≤ 4300 then some (intRepr i) else none
  | _, .scalar (.str s) => some (asciiEscapeUnicode s)
  | _, .scalar (.float _) | _, .scalar (.bytes _) => none
  | 0, .list _ | 0, .dict _ => none
  | _ + 1, .list [] => some ['[', ']']
  | depth + 1, .list (v :: vs) =>
    (listencodeObj depth v).bind fun a => (listencodeElems depth vs).map fun b => '[' :: a ++ b
  | _ + 1, .dict [] => some ['{', '}']
  | depth + 1, .dict ((k, v) :: kvs) =>
    (listencodeObj depth v).bind fun a =>
      (listencodeItems depth kvs).map fun b => '{' :: asciiEscapeUnicode k ++ ':' :: ' ' :: a ++ b

/-- `encoder_listencode_list` after the first element. -/
def listencodeElems : Nat → List PyValue → Option (List Char)
  | _, [] => some [']']
  | depth, v :: vs =>
    (listencodeObj depth v).bind fun a => (listencodeElems depth vs).map fun b => ',' :: ' ' :: a ++ b

/-- `encoder_listencode_dict` after the first item. -/
def listencodeItems : Nat → List (String × PyValue) → Option (List Char)
  | _, [] => some ['}']
  | depth, (k, v) :: kvs =>
    (listencodeObj depth v).bind fun a =>
      (listencodeItems depth kvs).map fun b => ',' :: ' ' :: asciiEscapeUnicode k ++ ':' :: ' ' :: a ++ b

end

theorem bind_map_ite {α β γ : Type} (p q : Prop) [Decidable p] [Decidable q] (a : α) (b : β) (f : α → β → γ) :
    ((if p then some a else none).bind fun x => (if q then some b else none).map (f x)) =
      if p ∧ q then some (f a b) else none := by
  by_cases hp : p <;> by_cases hq : q <;> simp [hp, hq]

mutual

/-- `json.dumps` writes `dumps v` for every value it covers that nests no deeper than the recursion
    budget, and raises `RecursionError` for a deeper one. -/
theorem listencodeObj_eq : ∀ (depth : Nat) (v : PyValue), dumpable v →
    listencodeObj depth v = if v.depth ≤ depth then some (dumps v) else none
  | _, .scalar .none, _ | _, .bool _, _ | _, .scalar (.str _), _ => by simp [listencodeObj, dumps]
  | _, .scalar (.int i), hv => by simpa [listencodeObj, dumps, dumpable] using hv
  | _, .scalar (.float _), hv | _, .scalar (.bytes _), hv => by simp [dumpable] at hv
  | 0, .list _, _ | 0, .dict _, _ => by simp [listencodeObj]
  | _ + 1, .list [], _ | _ + 1, .dict [], _ => by simp [listencodeObj, dumps]
  | depth + 1, .list (v :: vs), hv => by
    obtain ⟨hv, hvs⟩ : dumpable v ∧ dumpableList vs := by simpa [dumpable, dumpableList] using hv
    rw [listencodeObj, listencodeObj_eq depth v hv, listencodeElems_eq depth vs hvs, bind_map_ite]
    simp [dumps]
  | depth + 1, .dict ((k, v) :: kvs), hv => by
    obtain ⟨-, hv, hkvs⟩ : _ ∧ dumpable v ∧ dumpableItems kvs := by simpa [dumpable, dumpableItems] using hv
    rw [listencodeObj, listencodeObj_eq depth v hv, listencodeItems_eq depth kvs hkvs, bind_map_ite]
    simp [dumps]

theorem listencodeElems_eq : ∀ (depth : Nat) (vs : List PyValue), dumpableList vs →
    listencodeElems depth vs = if PyValue.depthList vs ≤ depth then some (dumpsElems vs) else none
  | _, [], _ => by simp [listencodeElems, dumpsElems]
  | depth, v :: vs, hv => by
    obtain ⟨hv, hvs⟩ : dumpable v ∧ dumpableList vs := by simpa [dumpableList] using hv
    rw [listencodeElems, listencodeObj_eq depth v hv, listencodeElems_eq depth vs hvs, bind_map_ite]
    simp [dumpsElems]

theorem listencodeItems_eq : ∀ (depth : Nat) (kvs : List (String × PyValue)), dumpableItems kvs →
    listencodeItems depth kvs = if PyValue.depthItems kvs ≤ depth then some (dumpsItems kvs) else none
  | _, [], _ => by simp [listencodeItems, dumpsItems]
  | depth, (k, v) :: kvs, hv => by
    obtain ⟨hv, hkvs⟩ : dumpable v ∧ dumpableItems kvs := by simpa [dumpableItems] using hv
    rw [listencodeItems, listencodeObj_eq depth v hv, listencodeItems_eq depth kvs hkvs, bind_map_ite]
    simp [dumpsItems]

end

/-! ### Decimal digits -/

/-- One step of `Nat.toDigitsCore`: the last digit, then the digits of the rest. -/
theorem toDigitsCore_succ (fuel n : Nat) (ds : List Char) :
    Nat.toDigitsCore 10 (fuel + 1) n ds =
      if n / 10 = 0 then Nat.digitChar (n % 10) :: ds
      else Nat.toDigitsCore 10 fuel (n / 10) (Nat.digitChar (n % 10) :: ds) := rfl

theorem toDigits_eq (n : Nat) : Nat.toDigits 10 n = Nat.toDigitsCore 10 (n + 1) n [] := rfl

theorem toDigitsCore_ten : ∀ (fuel n : Nat) (ds : List Char), n < fuel →
    Nat.toDigitsCore 10 fuel n ds = Nat.toDigits 10 n ++ ds
  | fuel + 1, n, ds, h => by
    rw [toDigits_eq, toDigitsCore_succ, toDigitsCore_succ]
    by_cases h0 : n / 10 = 0
    · simp only [if_pos h0]
      rfl
    · simp only [if_neg h0]
      rw [toDigitsCore_ten fuel (n / 10) _ (by omega), toDigitsCore_ten n (n / 10) _ (by omega)]
      simp
termination_by fuel => fuel

theorem toDigits_of_lt {n : Nat} (h : n < 10) : Nat.toDigits 10 n = [Nat.digitChar n] := by
  rw [toDigits_eq, toDigitsCore_succ, if_pos (by omega), Nat.mod_eq_of_lt h]

theorem toDigits_of_le {n : Nat} (h : 10 ≤ n) :
    Nat.toDigits 10 n = Nat.toDigits 10 (n / 10) ++ [Nat.digitChar (n % 10)] := by
  rw [toDigits_eq, toDigitsCore_succ, if_neg (by omega), toDigitsCore_ten n _ _ (by omega)]

theorem digitChar_toNat : ∀ d < 10, (Nat.digitChar d).toNat = 48 + d := by decide

theorem digitsValue_snoc (ds : List Char) (c : Char) :
    digitsValue (ds ++ [c]) = digitsValue ds * 10 + (c.toNat - 48) := by
  simp [digitsValue, List.foldl_append]

/-- The digits `int.__repr__` writes are decimal digits, the first of them `0` only for `0`, and
    they are read back as the number. -/
theorem toDigits_digits (n : Nat) : (∀ c ∈ Nat.toDigits 10 n, 48 ≤ c.toNat ∧ c.toNat ≤ 57) ∧
    (0 < n → ∃ c cs, Nat.toDigits 10 n = c :: cs ∧ 49 ≤ c.toNat) ∧ digitsValue (Nat.toDigits 10 n) = n := by
  induction n using Nat.strong_induction_on with
  | _ n ih =>
    rcases Nat.lt_or_ge n 10 with h | h
    · rw [toDigits_of_lt h]
      have hd := digitChar_toNat n h
      refine ⟨by simp only [List.mem_singleton]; rintro c rfl; omega, fun _ => ⟨_, _, rfl, by omega⟩, ?_⟩
      simp [digitsValue, hd]
    · obtain ⟨hall, hhead, hval⟩ := ih (n / 10) (by omega)
      have hd := digitChar_toNat (n % 10) (Nat.mod_lt _ (by decide))
      rw [toDigits_of_le h]
      refine ⟨?_, fun _ => ?_, ?_⟩
      · simp only [List.mem_append, List.mem_singleton]
        rintro c (hc | rfl)
        · exact hall c hc
        · omega
      · obtain ⟨c, cs, hcs, hc⟩ := hhead (by omega)
        exact ⟨c, cs ++ _, by rw [hcs, List.cons_append], hc⟩
      · rw [digitsValue_snoc, hval, hd]
        omega

/-! ### Numbers -/

/-- `ascii_escape_unichar` writes a short escape the scanner maps back, or a `\u` escape. -/
theorem asciiEscapeUnichar_cases (c : Char) :
    (∃ x, asciiEscapeUnichar c = ['\\', x] ∧ x ≠ 'u' ∧ escape? x = some c ∧ 0 < x.toNat ∧ x.toNat < 0x80) ∨
      asciiEscapeUnichar c = '\\' :: if 0x10000 ≤ c.toNat then
        'u' :: hexUnit (0xD7C0 + c.toNat / 1024) ++ '\\' :: 'u' :: hexUnit (0xDC00 + c.toNat % 1024)
      else 'u' :: hexUnit c.toNat := by
  unfold asciiEscapeUnichar
  split <;> first | exact .inr rfl | exact .inl ⟨_, rfl, by decide, rfl, by decide, by decide⟩

/-- A bracket opens an array or object only with recursion budget left. -/
theorem value_open_zero (fuel : Nat) (cs : List Char) :
    value (fuel + 1) 0 ('[' :: cs) = none ∧ value (fuel + 1) 0 ('{' :: cs) = none :=
  ⟨rfl, rfl⟩

section Levels
variable {fuel depth : Nat} {cs more rest : List Char} {v : PyValue}

end Levels

/-! ### The scanner reads back what is written -/

/-- Every character is ASCII, and none is U+0000. -/
def Ascii (cs : List Char) : Prop := ∀ c ∈ cs, 0 < c.toNat ∧ c.toNat < 0x80

instance : DecidablePred Ascii := fun cs => inferInstanceAs (Decidable (∀ c ∈ cs, _))

theorem ascii_append {cs ds : List Char} (hc : Ascii cs) (hd : Ascii ds) : Ascii (cs ++ ds) :=
  List.forall_mem_append.2 ⟨hc, hd⟩

theorem ascii_cons {c : Char} {cs : List Char} (hc : 0 < c.toNat ∧ c.toNat < 0x80) (hcs : Ascii cs) :
    Ascii (c :: cs) :=
  List.forall_mem_cons.2 ⟨hc, hcs⟩

theorem ascii_hexdigit (d : Nat) : 0 < (hexdigit d).toNat ∧ (hexdigit d).toNat < 0x80 := by
  have h : Ascii ('0' :: hexdigits) := by decide
  rw [hexdigit, List.getD_eq_getElem?_getD]
  cases hd : hexdigits[d]? with
  | none => exact h _ (List.mem_cons_self _ _)
  | some x => exact h _ (List.mem_cons_of_mem _ (List.getElem?_mem hd))

theorem ascii_hexUnit (u : Nat) : Ascii (hexUnit u) := by
  simp only [hexUnit, Ascii, List.forall_mem_cons, List.not_mem_nil, false_implies, implies_true, and_true]
  exact ⟨ascii_hexdigit _, ascii_hexdigit _, ascii_hexdigit _, ascii_hexdigit _⟩

theorem ascii_escapeChar (c : Char) : Ascii (escapeChar c) := by
  unfold escapeChar
  split
  · next hs =>
    have h : ' ' ≤ c ∧ c ≤ '~' := by simp_all [sChar]
    rw [char_le_iff, char_le_iff] at h
    exact ascii_cons ⟨by simp at h; omega, by simp at h; omega⟩ (by decide)
  · rcases asciiEscapeUnichar_cases c with ⟨x, hx, -, -, hx'⟩ | hu
    · rw [hx]
      exact ascii_cons (by decide) (ascii_cons hx' (by decide))
    · rw [hu]
      refine ascii_cons (by decide) ?_
      split
      · exact ascii_cons (by decide) (ascii_append (ascii_hexUnit _)
          (ascii_cons (by decide) (ascii_cons (by decide) (ascii_hexUnit _))))
      · exact ascii_cons (by decide) (ascii_hexUnit _)

theorem ascii_asciiEscapeUnicode (s : String) : Ascii (asciiEscapeUnicode s) :=
  ascii_append (ascii_cons (by decide) fun _ hx =>
    (List.mem_flatMap.1 hx).elim fun c hc => ascii_escapeChar c _ hc.2) (by decide)

theorem ascii_intRepr (i : Int) : Ascii (intRepr i) := by
  refine ascii_append (by split <;> decide) fun c hc => ?_
  have := (toDigits_digits i.natAbs).1 c hc
  omega

mutual

/-- With `ensure_ascii`, `json.dumps` writes ASCII only, and no U+0000. -/
theorem ascii_dumps : ∀ v : PyValue, Ascii (dumps v)
  | .scalar .none | .bool true | .bool false | .list [] | .dict [] => by decide
  | .scalar (.int i) => ascii_intRepr i
  | .scalar (.str s) => ascii_asciiEscapeUnicode s
  | .scalar (.float _) | .scalar (.bytes _) => fun _ h => by cases h
  | .list (v :: vs) => ascii_cons (by decide) (ascii_append (ascii_dumps v) (ascii_dumpsElems vs))
  | .dict ((k, v) :: kvs) => ascii_cons (by decide) (ascii_append (ascii_append (ascii_asciiEscapeUnicode k)
      (ascii_cons (by decide) (ascii_cons (by decide) (ascii_dumps v)))) (ascii_dumpsItems kvs))

theorem ascii_dumpsElems : ∀ vs : List PyValue, Ascii (dumpsElems vs)
  | [] => by decide
  | v :: vs => ascii_cons (by decide) (ascii_cons (by decide) (ascii_append (ascii_dumps v) (ascii_dumpsElems vs)))

theorem ascii_dumpsItems : ∀ kvs : List (String × PyValue), Ascii (dumpsItems kvs)
  | [] => by decide
  | (k, v) :: kvs => ascii_cons (by decide) (ascii_cons (by decide) (ascii_append (ascii_append
      (ascii_asciiEscapeUnicode k) (ascii_cons (by decide) (ascii_cons (by decide) (ascii_dumps v))))
      (ascii_dumpsItems kvs)))

end

/-! ### Text and its bytes -/

/-- `json.detect_encoding` picks UTF-8 for bytes whose first byte is neither zero nor a byte order
    mark's, whose second is not zero, and that do not start with the UTF-8 byte order mark. -/
theorem detectEncoding_utf8 {b0 : UInt8} {bs : Bytes} (h0 : b0.toNat ≠ 0 ∧ b0.toNat < 0xFE)
    (h1 : ∀ x ∈ bs.head?, x.toNat ≠ 0) (h3 : b0.toNat = 0xEF → (bs.take 2).map UInt8.toNat ≠ [0xBB, 0xBF]) :
    detectEncoding (b0 :: bs) = .utf8 := by
  have hne : ∀ {x : UInt8} (n : Nat), x.toNat ≠ n % 256 → x ≠ OfNat.ofNat n := fun n h e => h (by rw [e]; rfl)
  have h4 : ¬((b0 :: bs).take 4 = [0, 0, 0xFE, 0xFF] ∨ (b0 :: bs).take 4 = [0xFF, 0xFE, 0, 0]) := by
    rintro (h | h) <;> rw [List.take_succ_cons, List.cons.injEq] at h
    exacts [hne 0 (by omega) h.1, hne 0xFF (by omega) h.1]
  have h2 : ¬((b0 :: bs).take 2 = [0xFE, 0xFF] ∨ (b0 :: bs).take 2 = [0xFF, 0xFE]) := by
    rintro (h | h) <;> rw [List.take_succ_cons, List.cons.injEq] at h
    exacts [hne 0xFE (by omega) h.1, hne 0xFF (by omega) h.1]
  have hsig : ¬(b0 :: bs).take 3 = [0xEF, 0xBB, 0xBF] := by
    rw [List.take_succ_cons, List.cons.injEq]
    rintro ⟨rfl, h⟩
    exact h3 rfl (by rw [h]; rfl)
  unfold detectEncoding
  rw [if_neg h4, if_neg h2, if_neg hsig]
  rcases bs with _ | ⟨b1, _ | ⟨b2, _ | ⟨b3, rest⟩⟩⟩
  · rfl
  · dsimp only
    rw [if_neg (hne 0 (by omega)), if_neg (hne 0 (by have := h1 b1 rfl; omega))]
  · rfl
  · dsimp only
    rw [if_neg (hne 0 (by omega)), if_neg (hne 0 (by have := h1 b1 rfl; omega))]

theorem toNat_ne_zero {c : Char} (h : c ≠ '\x00') : c.toNat ≠ 0 := fun e => h (by rw [← Char.ofNat_toNat c, e])

/-- The first byte `str.encode` writes for a character other than U+0000 is not zero. -/
theorem utf8EncodeChar_head {d : Char} (h : d ≠ '\x00') (more : Bytes) :
    ∀ x ∈ (String.utf8EncodeChar d ++ more).head?, x.toNat ≠ 0 := by
  have hb := Utf8.utf8EncodeChar_toNat d
  have hd := toNat_ne_zero h
  cases hE : String.utf8EncodeChar d with
  | nil => rw [hE] at hb; split_ifs at hb <;> cases hb
  | cons b0 bs =>
    rintro x hx
    cases Option.some_inj.1 hx
    rw [hE] at hb
    split_ifs at hb <;> (simp only [List.map_cons, List.cons.injEq] at hb; omega)

theorem detectEncoding_encode {c : Char} {t : List Char} (h0 : c ≠ '\x00') (hbom : c ≠ '\uFEFF')
    (hnext : ∀ d ∈ t.head?, d ≠ '\x00') : detectEncoding (Utf8.encode ⟨c :: t⟩) = .utf8 := by
  have hc0 := toNat_ne_zero h0
  have hcb : c.toNat ≠ 0xFEFF := fun e => hbom (by rw [← Char.ofNat_toNat c, e])
  have hvalid : c.toNat < 0xD800 ∨ (0xDFFF < c.toNat ∧ c.toNat < 0x110000) := c.valid
  have hrest : ∀ x ∈ (Utf8.encode ⟨t⟩).head?, x.toNat ≠ 0 := by
    cases t with
    | nil => intro x hx; cases hx
    | cons d t => exact utf8EncodeChar_head (hnext d rfl) _
  have hb := Utf8.utf8EncodeChar_toNat c
  show detectEncoding (String.utf8EncodeChar c ++ Utf8.encode ⟨t⟩) = _
  cases hE : String.utf8EncodeChar c with
  | nil => rw [hE] at hb; split_ifs at hb <;> cases hb
  | cons b0 bs =>
  rw [hE] at hb
  split_ifs at hb <;>
    rcases bs with _ | ⟨b1, _ | ⟨b2, _ | ⟨b3, _ | ⟨_, _⟩⟩⟩⟩ <;>
    simp only [List.map_cons, List.map_nil, List.cons.injEq, reduceCtorEq, and_false, and_true] at hb
  · exact detectEncoding_utf8 ⟨by omega, by omega⟩ hrest (by omega)
  · exact detectEncoding_utf8 ⟨by omega, by omega⟩ (fun x hx => by cases Option.some_inj.1 hx; omega) (by omega)
  · refine detectEncoding_utf8 ⟨by omega, by omega⟩ (fun x hx => by cases Option.some_inj.1 hx; omega) fun he h => ?_
    simp only [List.cons_append, List.take, List.map_cons, List.map_nil, List.cons.injEq, and_true] at h
    omega
  · exact detectEncoding_utf8 ⟨by omega, by omega⟩ (fun x hx => by cases Option.some_inj.1 hx; omega) (by omega)

/-- `json.loads` gives the same on a text and on its UTF-8 bytes, unless the text starts with U+FEFF
    (refused in a `str`, dropped by `utf-8-sig` from bytes) or holds U+0000 among its first two
    characters (where `detect_encoding` picks UTF-16 or UTF-32). -/
theorem jsonLoads_encode (depth : Nat) (s : String) (hbom : s.data.head? ≠ some '\uFEFF')
    (hnul : '\x00' ∉ s.data.take 2) : jsonLoads depth (.bytes (Utf8.encode s)) = jsonLoads depth (.str s) := by
  have hpass : (Utf8.decodePass (Utf8.encode s)).toOption = some s := by rw [(Utf8.decode_encode s).2.1]; rfl
  have hdetect : detectEncoding (Utf8.encode s) = .utf8 := by
    obtain ⟨_ | ⟨c, t⟩⟩ := s
    · rfl
    · refine detectEncoding_encode (fun h => hnul (by simp [h])) (fun h => hbom (by simp [h])) fun d hd h => hnul ?_
      cases t with
      | nil => cases hd
      | cons d' t => cases Option.some_inj.1 hd; simp [h]
  simp only [jsonLoads, decodeBytes, hdetect, hpass, Option.some_bind, if_neg hbom]

/-- A JSON object and its UTF-8 bytes load alike. -/
theorem jsonLoads_encode_object :
    "\x7b\"a\": [1]\x7d".data.head? ≠ some '\uFEFF' ∧ '\x00' ∉ "\x7b\"a\": [1]\x7d".data.take 2 ∧
      jsonLoads 1 (.bytes (Utf8.encode "\x7b\"a\": [1]\x7d")) = jsonLoads 1 (.str "\x7b\"a\": [1]\x7d") :=
  ⟨by decide, by decide, jsonLoads_encode 1 _ (by decide) (by decide)⟩

/-! ### The round trip -/

end Aird.Json
