import Aird.Quic.Handler
import Aird.Python.Utf8

/-! # What `handle_request` reads from a request

The last `:method`, the last `:path` percent-decoded and the last value of each other header win
(`aird/quic_server.py:78-87`, `request_of_text_headers`); `unquote` reads a path back from every
percent-encoding of its UTF-8 bytes (`unquote_of_escapes`). -/

namespace Aird.Quic

open Url

/-! ### Percent-encodings -/

/-- `cs` percent-encodes the bytes `bs` (RFC 3986 §2.1): each byte is written as itself, an ASCII
    character other than `%`, or as `%` and two hexadecimal digits of either case. -/
inductive Escapes : Bytes → List Char → Prop
  | nil : Escapes [] []
  | plain {c : Char} {bs : Bytes} {cs : List Char} : c.toNat < 0x80 → c ≠ '%' → Escapes bs cs →
      Escapes (c.toNat.toUInt8 :: bs) (c :: cs)
  | escape {a b : Char} {x y : Nat} {bs : Bytes} {cs : List Char} : hexDigit? a = some x →
      hexDigit? b = some y → Escapes bs cs → Escapes ((x * 16 + y).toUInt8 :: bs) ('%' :: a :: b :: cs)

theorem unquoteScan_plain {c : Char} (hc : c ≠ '%') (fuel : Nat) (rest : List Char) :
    unquoteScan (fuel + 1) (c :: rest) = c.toNat.toUInt8 :: unquoteScan fuel rest := by
  rw [unquoteScan]
  exact fun _ _ _ h => absurd h hc

theorem unquoteScan_escape {a b : Char} {x y : Nat} (ha : hexDigit? a = some x) (hb : hexDigit? b = some y)
    (fuel : Nat) (rest : List Char) :
    unquoteScan (fuel + 1) ('%' :: a :: b :: rest) = (x * 16 + y).toUInt8 :: unquoteScan fuel rest := by
  simp only [unquoteScan, ha, hb]

/-- `unquote_to_bytes` gives back the bytes a percent-encoding stands for. -/
theorem unquoteScan_of_escapes {bs : Bytes} {cs : List Char} (h : Escapes bs cs) :
    ∀ fuel, cs.length ≤ fuel → unquoteScan fuel cs = bs := by
  induction h with
  | nil => rintro (_ | _) _ <;> rfl
  | plain _ hpct _ ih =>
    rintro (_ | fuel) hl
    · simp at hl
    · rw [unquoteScan_plain hpct, ih fuel (by simp at hl; omega)]
  | escape ha hb _ ih =>
    rintro (_ | fuel) hl
    · simp at hl
    · rw [unquoteScan_escape ha hb, ih fuel (by simp at hl; omega)]

theorem ascii_of_escapes {bs : Bytes} {cs : List Char} (h : Escapes bs cs) : ∀ c ∈ cs, c.toNat < 0x80 := by
  induction h with
  | nil => simp
  | plain hc _ _ ih => simpa [hc] using ih
  | escape ha hb _ ih => simpa [(hexDigit?_lt ha).1, (hexDigit?_lt hb).1] using ih

/-- Text of ASCII characters is one run of `_asciire.split`. -/
theorem unquoteRuns_ascii :
    ∀ {cs : List Char}, (∀ c ∈ cs, c.toNat < 0x80) → ∀ run, unquoteRuns run cs = unquoteRun (run ++ cs)
  | [], _, run => by rw [List.append_nil]; rfl
  | c :: cs, h, run => by
    rw [List.forall_mem_cons] at h
    rw [unquoteRuns, if_pos h.1, unquoteRuns_ascii h.2, List.append_assoc, List.singleton_append]

/-- An encoding without `%` is the text itself. -/
theorem encode_of_escapes {bs : Bytes} {cs : List Char} (h : Escapes bs cs) (hpct : '%' ∉ cs) :
    Utf8.encode ⟨cs⟩ = bs := by
  induction h with
  | nil => rfl
  | plain hc _ _ ih =>
    rw [List.mem_cons, not_or] at hpct
    exact congrArg₂ (· ++ ·) (Utf8.utf8EncodeChar_ascii hc) (ih hpct.2)
  | escape => exact absurd (List.mem_cons_self _ _) hpct

/-- `unquote` reads a text back from every percent-encoding of its UTF-8 bytes. -/
theorem unquote_of_escapes {s : String} {cs : List Char} (h : Escapes (Utf8.encode s) cs) : unquote ⟨cs⟩ = s := by
  by_cases hpct : '%' ∈ cs
  · have hbytes : unquoteToBytes cs = Utf8.encode s := unquoteScan_of_escapes h _ le_rfl
    rw [unquote, if_pos hpct, unquoteRuns_ascii (ascii_of_escapes h), List.nil_append, unquoteRun, hbytes,
      (Utf8.decode_encode s).2.2]
  · have he := (Utf8.decode_encode s).1
    rw [← encode_of_escapes h hpct, (Utf8.decode_encode _).1] at he
    rw [unquote, if_neg hpct]
    exact Except.ok.inj he

/-- `/%C3%a9%3F`, escapes with digits of both cases, is read back as `/é?`. -/
theorem unquote_escaped_accent :
    Escapes (Utf8.encode "/é?") "/%C3%a9%3F".data ∧ unquote "/%C3%a9%3F" = "/é?" :=
  have h : Escapes (Utf8.encode "/é?") "/%C3%a9%3F".data :=
    .plain (by decide) (by decide) (@Escapes.escape 'C' '3' 12 3 _ _ rfl rfl
      (@Escapes.escape 'a' '9' 10 9 _ _ rfl rfl (@Escapes.escape '3' 'F' 3 15 _ _ rfl rfl .nil)))
  ⟨h, unquote_of_escapes h⟩

/-! ### The request read from the headers -/

/-- The value of the last header named `name`. -/
def lastValue (name : String) : List (String × String) → Option String
  | [] => none
  | nv :: ts => (lastValue name ts).or (if nv.1 = name then some nv.2 else none)

/-- Headers that are text are read one after another. -/
theorem parseHeaders_header :
    ∀ (ts : List (String × String)) r, parseHeaders r (ts.map fun nv => header nv.1 nv.2) =
      .ok (ts.foldl (fun r nv => r.add nv.1 nv.2) r)
  | [], _ => rfl
  | (n, v) :: ts, r => by
    simp only [List.map_cons, parseHeaders, header, (Utf8.decode_encode _).1, Except.mapError_ok, Except.ok_bind,
      List.foldl_cons]
    exact parseHeaders_header ts _

theorem add_method (r : Request) (n v : String) :
    (r.add n v).method = if n = ":method" then v else r.method := by
  unfold Request.add
  split_ifs <;> rfl

theorem add_path (r : Request) (n v : String) :
    (r.add n v).path = if n = ":path" then unquote v else r.path := by
  unfold Request.add
  split_ifs <;> simp_all

theorem add_headers (r : Request) (n v k : String) :
    (r.add n v).headers.get? k = if k = n ∧ startswith n ":" = false then some v else r.headers.get? k := by
  have hm : startswith ":method" ":" = true := rfl
  have hp : startswith ":path" ":" = true := rfl
  unfold Request.add
  split_ifs <;> simp_all

section Last
variable {σ : Type} (get : Request → σ) (name : String)

/-- What the header `name` sets to `f` of its value, and no other header touches, is `f` of the
    last value of `name`. -/
theorem foldl_add_last (f : String → σ) (hset : ∀ (r : Request) v, get (r.add name v) = f v)
    (hkeep : ∀ r n v, n ≠ name → get (r.add n v) = get r) :
    ∀ (ts : List (String × String)) r,
      get (ts.foldl (fun r nv => r.add nv.1 nv.2) r) = ((lastValue name ts).map f).getD (get r)
  | [], _ => rfl
  | (n, v) :: ts, r => by
    rw [List.foldl_cons, foldl_add_last f hset hkeep ts, lastValue]
    cases lastValue name ts with
    | some w => rfl
    | none => by_cases hn : n = name <;> simp [hn, hset, hkeep]

theorem foldl_add_keep (hkeep : ∀ r n v, get (r.add n v) = get r) :
    ∀ (ts : List (String × String)) r, get (ts.foldl (fun r nv => r.add nv.1 nv.2) r) = get r
  | [], _ => rfl
  | (n, v) :: ts, r => by rw [List.foldl_cons, foldl_add_keep hkeep ts, hkeep]

end Last

/-- The request `handle_request` reads from headers that are text: the last `:method` (`GET`
    without one), the last `:path` percent-decoded (`/` without one), and for each other name
    the last value given; a pseudo-header never becomes a header. -/
theorem request_of_text_headers (ts : List (String × String)) :
    ∃ r, parseHeaders .init (ts.map fun nv => header nv.1 nv.2) = .ok r ∧
      r.method = (lastValue ":method" ts).getD "GET" ∧
      r.path = ((lastValue ":path" ts).map unquote).getD "/" ∧
      ∀ name, r.headers.get? name = if startswith name ":" then none else lastValue name ts := by
  refine ⟨_, parseHeaders_header ts .init, ?_, ?_, fun k => ?_⟩
  · simpa using foldl_add_last Request.method ":method" id (fun r v => by rw [add_method, if_pos rfl]; rfl)
      (fun r n v hn => by rw [add_method, if_neg hn]) ts .init
  · exact foldl_add_last Request.path ":path" unquote (fun r v => by rw [add_path, if_pos rfl])
      (fun r n v hn => by rw [add_path, if_neg hn]) ts .init
  · cases hk : startswith k ":" with
    | false =>
      rw [if_neg Bool.false_ne_true, foldl_add_last (fun r => r.headers.get? k) k some
        (fun r v => (add_headers r k v k).trans (if_pos ⟨rfl, hk⟩))
        (fun r n v hn => (add_headers r n v k).trans (if_neg fun h => hn h.1.symm)) ts .init]
      cases lastValue k ts <;> rfl
    | true =>
      exact foldl_add_keep (fun r => r.headers.get? k)
        (fun r n v => (add_headers r n v k).trans (if_neg (by rintro ⟨rfl, h⟩; simp [hk] at h))) ts .init

end Aird.Quic
