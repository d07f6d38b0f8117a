import Aird.Python.Codec
import Aird.Python.Str

/-! # Request targets and redirect locations

`urllib.parse.unquote` as CPython 3.11 computes it (`aird/quic_server.py:85`), the split of a URI
by RFC 3986 Appendix B, the request target a client sends when it follows a location, and
Tornado's split of a target (`uri.partition("?")`). -/

namespace Aird.Url

/-- `unquote_to_bytes` on a run of ASCII characters: a `%` and two hexadecimal digits give a byte,
    every other character its own byte. Each step reads a character at least, so `fuel` of the
    run's length suffices. -/
def unquoteScan : Nat → List Char → Bytes
  | 0, _ | _ + 1, [] => []
  | fuel + 1, c :: rest =>
    match c, rest with
    | '%', a :: b :: rest' =>
      match hexDigit? a, hexDigit? b with
      | some x, some y => (x * 16 + y).toUInt8 :: unquoteScan fuel rest'
      | _, _ => 0x25 :: unquoteScan fuel rest
    | _, _ => c.toNat.toUInt8 :: unquoteScan fuel rest

/-- `unquote_to_bytes(run)`. -/
def unquoteToBytes (run : List Char) : Bytes := unquoteScan run.length run

/-- One ASCII run decoded: `unquote_to_bytes(run).decode('utf-8', 'replace')`. -/
def unquoteRun (run : List Char) : List Char := (Utf8.decodeReplace (unquoteToBytes run)).data

/-- The loop over `_asciire.split(string)`: `run` holds the ASCII characters read since the last
    character outside ASCII. -/
def unquoteRuns (run : List Char) : List Char → List Char
  | [] => unquoteRun run
  | c :: cs => if c.toNat < 128 then unquoteRuns (run ++ [c]) cs else unquoteRun run ++ c :: unquoteRuns [] cs

/-- `urllib.parse.unquote(string)`. -/
def unquote (s : String) : String := if '%' ∈ s.data then ⟨unquoteRuns [] s.data⟩ else s

example : unquote "/a%3Fb" = "/a?b" := by decide
example : unquote "/%zz%4" = "/%zz%4" := by decide
example : unquote "/%E2%82%AC%E2%82" = "/€\uFFFD" := by decide

/-! ### URIs -/

/-- The five components of a URI reference (RFC 3986 §3). -/
structure Uri where
  scheme : Option String
  authority : Option String
  path : String
  query : Option String
  fragment : Option String
  deriving DecidableEq, Repr

/-- The characters up to the first of `stops`, and the rest. -/
def spanUntil (stops : List Char) (cs : List Char) : List Char × List Char :=
  (cs.takeWhile (· ∉ stops), cs.dropWhile (· ∉ stops))

/-- `(([^:/?#]+):)?`: the scheme, and the rest. -/
def splitScheme (cs : List Char) : Option String × List Char :=
  match spanUntil [':', '/', '?', '#'] cs with
  | (c :: name, ':' :: rest) => (some (String.mk (c :: name)), rest)
  | _ => (none, cs)

/-- `(//([^/?#]*))?`: the authority, and the rest. -/
def splitAuthority : List Char → Option String × List Char
  | '/' :: '/' :: rest => (some (String.mk (spanUntil ['/', '?', '#'] rest).1), (spanUntil ['/', '?', '#'] rest).2)
  | cs => (none, cs)

/-- `(\?([^#]*))?`: the query, and the rest. -/
def splitQuery : List Char → Option String × List Char
  | '?' :: rest => (some (String.mk (spanUntil ['#'] rest).1), (spanUntil ['#'] rest).2)
  | cs => (none, cs)

/-- A URI reference split by `^(([^:/?#]+):)?(//([^/?#]*))?([^?#]*)(\?([^#]*))?(#(.*))?`
    (RFC 3986 Appendix B). -/
def parseUri (s : String) : Uri :=
  let (scheme, rest) := splitScheme s.data
  let (authority, rest) := splitAuthority rest
  let (path, rest) := spanUntil ['?', '#'] rest
  let (query, rest) := splitQuery rest
  let fragment := match rest with
    | '#' :: r => some (String.mk r)
    | _ => none
  ⟨scheme, authority, String.mk path, query, fragment⟩

/-! ### Following a redirect -/

/-- Step 2C of `remove_dot_segments`: the last segment of the output and the `/` before it go. -/
def dropLastSegment (out : List Char) : List Char := ((out.reverse.dropWhile (· ≠ '/')).drop 1).reverse

/-- `remove_dot_segments` (RFC 3986 §5.2.4) from the input buffer `input` on, `out` the output
    buffer. Each step shortens the input, so `fuel` of its length suffices. -/
def removeDotSegmentsGo : Nat → List Char → List Char → List Char
  | 0, _, out | _ + 1, [], out => out
  | fuel + 1, '/' :: rest, out =>
    match rest with
    | '.' :: '/' :: r => removeDotSegmentsGo fuel ('/' :: r) out
    | ['.'] => removeDotSegmentsGo fuel ['/'] out
    | '.' :: '.' :: '/' :: r => removeDotSegmentsGo fuel ('/' :: r) (dropLastSegment out)
    | ['.', '.'] => removeDotSegmentsGo fuel ['/'] (dropLastSegment out)
    | _ => removeDotSegmentsGo fuel (rest.dropWhile (· ≠ '/')) (out ++ '/' :: rest.takeWhile (· ≠ '/'))
  | fuel + 1, '.' :: '.' :: '/' :: r, out | fuel + 1, '.' :: '/' :: r, out => removeDotSegmentsGo fuel r out
  | _ + 1, ['.'], out | _ + 1, ['.', '.'], out => out
  | fuel + 1, c :: rest, out =>
    removeDotSegmentsGo fuel (rest.dropWhile (· ≠ '/')) (out ++ c :: rest.takeWhile (· ≠ '/'))

/-- `remove_dot_segments(path)`. -/
def removeDotSegments (path : List Char) : List Char := removeDotSegmentsGo path.length path []

example : removeDotSegments "/a/b/c/./../../g".data = "/a/g".data ∧
    removeDotSegments "mid/content=5/../6".data = "mid/6".data := by decide

/-- The characters RFC 3986 allows in a path or a query (§3.3, §3.4): letters, digits, `-._~`, the
    sub-delimiters `!$&'()*+,;=`, `:`, `@`, `/`, `?`, and the `%` that starts an escape. -/
def uriChar (c : Char) : Bool :=
  (97 ≤ c.toNat && c.toNat ≤ 122) || (65 ≤ c.toNat && c.toNat ≤ 90) || (48 ≤ c.toNat && c.toNat ≤ 57) ||
    [0x2D, 0x2E, 0x5F, 0x7E, 0x21, 0x24, 0x26, 0x27, 0x28, 0x29, 0x2A, 0x2B, 0x2C, 0x3B, 0x3D, 0x3A, 0x40, 0x2F,
      0x3F, 0x25].contains c.toNat

/-- An uppercase hexadecimal digit. -/
def hexUpper (d : Nat) : Char := Char.ofNat (if d < 10 then 48 + d else 55 + d)

/-- How a client writes a text into a request target: a character the URI grammar does not allow,
    a space or one past ASCII for instance, as the escapes of its UTF-8 bytes (RFC 3986 §2.1). -/
def escapeUri (cs : List Char) : List Char :=
  cs.flatMap fun c => if uriChar c then [c] else
    (String.utf8EncodeChar c).flatMap fun b => ['%', hexUpper (b.toNat / 16), hexUpper (b.toNat % 16)]

/-- The request target a client sends when it follows a URI: the path with its dot segments
    removed (RFC 3986 §5.2.2), `/` when empty, and the query, each escaped; the fragment stays with
    the client (RFC 9110 §7.1). -/
def Uri.target (u : Uri) : String :=
  ⟨escapeUri (removeDotSegments (if u.path = "" then "/" else u.path).data) ++ match u.query with
    | some q => '?' :: escapeUri q.data
    | none => []⟩

example : (parseUri "http://localhost:8000/a/../b c/é?x y").target = "/b%20c/%C3%A9?x%20y" := by decide

/-- No segment of a path is `.` or `..`. -/
def NoDotSegments (path : List Char) : Prop := ∀ seg ∈ path.splitOn '/', seg ≠ ['.'] ∧ seg ≠ ['.', '.']

instance : DecidablePred NoDotSegments := fun _ => inferInstanceAs (Decidable (∀ seg ∈ _, _))

theorem splitOn_slash {seg : List Char} (hseg : '/' ∉ seg) (rest : List Char) :
    (seg ++ '/' :: rest).splitOn '/' = seg :: rest.splitOn '/' :=
  List.splitOnP_first (· == '/') seg (fun _ hx e => hseg (beq_iff_eq.1 e ▸ hx)) '/' (beq_self_eq_true _) rest

/-- A path that starts with `/` and has no dot segment is kept by `remove_dot_segments`. -/
theorem removeDotSegmentsGo_plain :
    ∀ (fuel : Nat) (s out : List Char), s.length < fuel → NoDotSegments s →
      removeDotSegmentsGo fuel ('/' :: s) out = out ++ '/' :: s
  | 0, _, _, h, _ => absurd h (Nat.not_lt_zero _)
  | fuel + 1, s, out, hlen, hs => by
    have hseg : '/' ∉ s.takeWhile (· ≠ '/') := fun h => by simpa using List.mem_takeWhile_imp h
    have hsplit := List.takeWhile_append_dropWhile (· ≠ '/') s
    -- a first segment `.` or `..` is excluded, so the segment moves to the output (step 2E)
    rw [removeDotSegmentsGo]
    rotate_left
    · rintro r rfl
      exact (hs ['.'] (@splitOn_slash ['.'] (by decide) r ▸ List.mem_cons_self _ _)).1 rfl
    · rintro rfl
      exact (hs ['.'] (by decide)).1 rfl
    · rintro r rfl
      exact (hs ['.', '.'] (@splitOn_slash ['.', '.'] (by decide) r ▸ List.mem_cons_self _ _)).2 rfl
    · rintro rfl
      exact (hs ['.', '.'] (by decide)).2 rfl
    cases hd : s.dropWhile (· ≠ '/') with
    | nil =>
      rw [hd, List.append_nil] at hsplit
      cases fuel <;> simp only [removeDotSegmentsGo, hsplit]
    | cons c r =>
      have hc : c = '/' := by simpa using dropWhile_eq_cons hd
      subst hc
      rw [hd] at hsplit
      have hr : NoDotSegments r := fun seg hmem =>
        hs seg (hsplit ▸ splitOn_slash hseg r ▸ List.mem_cons_of_mem _ hmem)
      have hlen' : r.length < fuel := by
        have := congrArg List.length hsplit
        simp only [List.length_append, List.length_cons] at this
        omega
      rw [removeDotSegmentsGo_plain fuel r _ hlen' hr, List.append_assoc, List.cons_append, hsplit]

/-- A client writes a text of characters the URI grammar allows as it is. -/
theorem escapeUri_of_forall {cs : List Char} (h : ∀ c ∈ cs, uriChar c) : escapeUri cs = cs := by
  rw [escapeUri, List.flatMap_congr fun c hc => if_pos (h c hc), List.flatMap_singleton']

/-- A client asks for a path that starts with `/` and has no dot segment, and for a query, as they
    are, when they hold only characters the URI grammar allows. -/
theorem Uri.target_plain (scheme authority : Option String) (s : List Char) (query fragment : Option String)
    (hdots : NoDotSegments ('/' :: s)) (hpath : ∀ c ∈ s, uriChar c) (hquery : ∀ q ∈ query, ∀ c ∈ q.data, uriChar c) :
    (Uri.mk scheme authority ⟨'/' :: s⟩ query fragment).target =
      ⟨'/' :: s ++ (query.map fun q => '?' :: q.data).getD []⟩ := by
  have hs : NoDotSegments s := fun seg h => hdots seg (@splitOn_slash [] (List.not_mem_nil _) s ▸ List.mem_cons_of_mem _ h)
  have hrm : removeDotSegments ('/' :: s) = '/' :: s :=
    (removeDotSegmentsGo_plain _ s [] (Nat.lt_succ_self _) hs).trans (List.nil_append _)
  have hne : (⟨'/' :: s⟩ : String) ≠ "" := fun h => List.cons_ne_nil _ _ (congrArg String.data h)
  rw [Uri.target, if_neg hne]
  dsimp only
  rw [hrm, escapeUri_of_forall (List.forall_mem_cons.2 ⟨by decide, hpath⟩)]
  cases query with
  | none => rfl
  | some q => exact congrArg (fun t => String.mk ('/' :: s ++ '?' :: t)) (escapeUri_of_forall (hquery q rfl))

/-- How Tornado splits a request target: `path, sep, query = uri.partition("?")`. -/
def partitionTarget (target : String) : String × String :=
  match spanUntil ['?'] target.data with
  | (path, _ :: query) => (String.mk path, String.mk query)
  | (path, []) => (String.mk path, "")

example : parseUri "http://localhost:8000/a?b#c" =
    ⟨some "http", some "localhost:8000", "/a", some "b", some "c"⟩ := by decide

end Aird.Url
