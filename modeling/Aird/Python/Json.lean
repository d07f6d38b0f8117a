import Aird.Python.Codec

/-! # `json.loads`

CPython's C scanner (`_json.c`, `scan_once_unicode`) behind `json.loads`, with
`json.detect_encoding` on `bytes`. Every failure is `none`, since the code catches them all alike;
`RecursionError` is among them, raised where arrays and objects nest deeper than the recursion
budget left where `json.loads` is called. -/

namespace Aird.Json

/-- JSON whitespace as `json` skips it. -/
def isSpace (c : Char) : Bool := c == ' ' || c == '\t' || c == '\n' || c == '\r'

/-- Skip whitespace. -/
def skip (cs : List Char) : List Char := cs.dropWhile isSpace

/-! ### Numbers -/

/-- `q ÷ d` rounded to nearest, ties to even. -/
def roundDiv (q d : Nat) : Nat :=
  let n := q / d
  if 2 * (q % d) > d ∨ (2 * (q % d) = d ∧ n % 2 = 1) then n + 1 else n

/-- The binary exponent `k` of `p / q > 0`: `2^k ≤ p / q < 2^(k+1)`. -/
def binExp (p q : Nat) : Int :=
  let k : Int := (Nat.log2 p : Int) - Nat.log2 q
  if p * 2 ^ (-k).toNat < q * 2 ^ k.toNat then k - 1 else k

/-- The bits of the double nearest `p / q` (ties to even), `+∞` past the largest double. Below
    `2^(-1022)` the bits count units of `2^(-1074)`, so that a value rounding up to `2^(-1022)` gets
    the bits of the smallest normal. -/
def magnitude (p q : Nat) : Nat :=
  if p = 0 then 0 else
    let k := binExp p q
    if k < -1022 then roundDiv (p * 2 ^ 1074) q
    else
      -- the last place of a double near `p / q` is `2^(k - 52)`
      let n := roundDiv (p * 2 ^ (52 - k).toNat) (q * 2 ^ (k - 52).toNat)
      let (n, k) := if n = 2 ^ 53 then (2 ^ 52, k + 1) else (n, k)
      if 2047 ≤ k + 1023 then 0x7FF0000000000000
      else (k + 1023).toNat * 2 ^ 52 + (n - 2 ^ 52)

/-- `float()` of the numeral `±m × 10^e`, as its bits. -/
def doubleBits (neg : Bool) (m : Nat) (e : Int) : UInt64 :=
  let mag := if 0 ≤ e then magnitude (m * 10 ^ e.toNat) 1 else magnitude m (10 ^ e.natAbs)
  UInt64.ofNat ((if neg then 2 ^ 63 else 0) + mag)

/-- The value of a list of decimal digits. -/
def digitsValue (ds : List Char) : Nat := ds.foldl (fun acc d => acc * 10 + (d.toNat - '0'.toNat)) 0

/-- The digits at the head of `cs`, and what follows them. -/
def digits (cs : List Char) : List Char × List Char := (cs.takeWhile Char.isDigit, cs.dropWhile Char.isDigit)

/-- `_match_number_unicode`: `-?(0|[1-9][0-9]*)(\.[0-9]+)?([eE][-+]?[0-9]+)?`, an `int` without
    fraction and exponent, a `float` with one. -/
def number (cs : List Char) : Option (Scalar × List Char) :=
  let (neg, cs) := match cs with
    | '-' :: rest => (true, rest)
    | _ => (false, cs)
  let intPart : Option (List Char × List Char) := match cs with
    | '0' :: rest => some (['0'], rest)
    | c :: rest => if '1' ≤ c ∧ c ≤ '9' then some (c :: (digits rest).1, (digits rest).2) else none
    | [] => none
  intPart.bind fun (ip, rest) =>
    let (fp, rest) := match rest with
      | '.' :: d :: more => if d.isDigit then (d :: (digits more).1, (digits more).2) else ([], rest)
      | _ => ([], rest)
    let (ex, rest) : Option Int × List Char := match rest with
      | e :: more =>
        if e = 'e' ∨ e = 'E' then
          let (eneg, ds) := match more with
            | '-' :: ds => (true, ds)
            | '+' :: ds => (false, ds)
            | _ => (false, more)
          match digits ds with
          | ([], _) => (none, rest)
          | (d, after) => (some (if eneg then -(digitsValue d : Int) else digitsValue d), after)
        else (none, rest)
      | [] => (none, [])
    if fp = [] ∧ ex = none then
      if 4300 < ip.length then none
      else some (.int (if neg then -(digitsValue ip : Int) else digitsValue ip), rest)
    else some (.float (doubleBits neg (digitsValue (ip ++ fp)) (ex.getD 0 - fp.length)), rest)

/-- Python's `float('nan')`, `float('inf')` and `float('-inf')`. -/
def nanBits : UInt64 := 0x7FF8000000000000
def infBits : UInt64 := 0x7FF0000000000000
def negInfBits : UInt64 := 0xFFF0000000000000

/-! ### Strings -/

/-- The escapes `\"`, `\\`, `\/`, `\b`, `\f`, `\n`, `\r`, `\t`. -/
def escape? : Char → Option Char
  | '"' => some '"'
  | '\\' => some '\\'
  | '/' => some '/'
  | 'b' => some '\x08'
  | 'f' => some '\x0c'
  | 'n' => some '\n'
  | 'r' => some '\r'
  | 't' => some '\t'
  | _ => none

/-- The code unit of the four hexadecimal digits of a `\u` escape. -/
def hex4 (a b c d : Char) : Option Nat :=
  ([a, b, c, d].mapM hexDigit?).map fun ds => ds.foldl (fun acc x => acc * 16 + x) 0

/-- `c` in front of the characters a string scan read. -/
def consChar (c : Char) : Option (List Char × List Char) → Option (List Char × List Char) :=
  Option.map fun (s, rest) => (c :: s, rest)

/-- `scanstring_unicode`, after the opening quote: the characters up to the closing quote, and
    what follows it. Each step reads a character at least, so `fuel` of the length suffices. -/
def string : Nat → List Char → Option (List Char × List Char)
  | 0, _ | _ + 1, [] => none
  | _ + 1, '"' :: rest => some ([], rest)
  | fuel + 1, '\\' :: 'u' :: a :: b :: c :: d :: rest =>
    (hex4 a b c d).bind fun u =>
      match rest with
      | '\\' :: 'u' :: e :: f :: g :: h :: rest' =>
        if 0xD800 ≤ u ∧ u < 0xDC00 then
          (hex4 e f g h).bind fun v =>
            if 0xDC00 ≤ v ∧ v < 0xE000 then
              consChar (Char.ofNat (0x10000 + (u - 0xD800) * 0x400 + (v - 0xDC00))) (string fuel rest')
            else consChar (toChar u) (string fuel rest)
        else consChar (toChar u) (string fuel rest)
      | _ => consChar (toChar u) (string fuel rest)
  | fuel + 1, '\\' :: c :: rest => (escape? c).bind fun e => consChar e (string fuel rest)
  | fuel + 1, c :: rest => if c.toNat < 0x20 then none else consChar c (string fuel rest)

/-! ### Values -/

mutual

/-- `scan_once_unicode`: one value at the head of `cs`, and what follows it. `depth` more arrays
    and objects may open; `Py_EnterRecursiveCall` raises `RecursionError` at the one past it. -/
def value : Nat → Nat → List Char → Option (PyValue × List Char)
  | 0, _, _ => none
  | fuel + 1, depth, cs =>
    match cs with
    | '"' :: rest => (string rest.length rest).map fun (s, r) => (.scalar (.str ⟨s⟩), r)
    | '{' :: rest =>
      match depth with
      | 0 => none
      | depth + 1 =>
        match skip rest with
        | '}' :: r => some (.dict [], r)
        | r => members fuel depth [] r
    | '[' :: rest =>
      match depth with
      | 0 => none
      | depth + 1 =>
        match skip rest with
        | ']' :: r => some (.list [], r)
        | r => elements fuel depth [] r
    | 'n' :: 'u' :: 'l' :: 'l' :: r => some (.none, r)
    | 't' :: 'r' :: 'u' :: 'e' :: r => some (.bool true, r)
    | 'f' :: 'a' :: 'l' :: 's' :: 'e' :: r => some (.bool false, r)
    | 'N' :: 'a' :: 'N' :: r => some (.scalar (.float nanBits), r)
    | 'I' :: 'n' :: 'f' :: 'i' :: 'n' :: 'i' :: 't' :: 'y' :: r => some (.scalar (.float infBits), r)
    | '-' :: 'I' :: 'n' :: 'f' :: 'i' :: 'n' :: 'i' :: 't' :: 'y' :: r =>
      some (.scalar (.float negInfBits), r)
    | _ => (number cs).map fun (x, r) => (.scalar x, r)

/-- `_parse_array_unicode` from its first element on, `acc` the elements read. -/
def elements : Nat → Nat → List PyValue → List Char → Option (PyValue × List Char)
  | 0, _, _, _ => none
  | fuel + 1, depth, acc, cs =>
    (value fuel depth cs).bind fun (v, r) =>
      match skip r with
      | ']' :: r => some (.list (acc ++ [v]), r)
      | ',' :: r => elements fuel depth (acc ++ [v]) (skip r)
      | _ => none

/-- `_parse_object_unicode` from its first key on, `acc` the items read; a key read again keeps
    its place and takes the new value. -/
def members : Nat → Nat → List (String × PyValue) → List Char → Option (PyValue × List Char)
  | 0, _, _, _ => none
  | fuel + 1, depth, acc, '"' :: cs =>
    (string cs.length cs).bind fun (k, r) =>
      match skip r with
      | ':' :: r =>
        (value fuel depth (skip r)).bind fun (v, r) =>
          let acc := Dict.setItem ⟨k⟩ v acc
          match skip r with
          | '}' :: r => some (.dict acc, r)
          | ',' :: r => members fuel depth acc (skip r)
          | _ => none
      | _ => none
  | _ + 1, _, _, _ => none

end

/-- `JSONDecoder.decode`: one value between whitespace, and nothing else. Two calls of the
    scanner's functions read a character at least, so this fuel is never exhausted. -/
def decode (depth : Nat) (cs : List Char) : Option PyValue :=
  match value (2 * cs.length + 1) depth (skip cs) with
  | some (v, r) => if skip r = [] then some v else none
  | none => none

/-! ### Bytes -/

/-- The codecs `json.detect_encoding` chooses from. -/
inductive Encoding where
  | utf8 | utf8Sig | utf16 | utf16Be | utf16Le | utf32 | utf32Be | utf32Le
  deriving DecidableEq, Repr

/-- `json.detect_encoding`: a byte order mark, or where the first bytes are zero. -/
def detectEncoding (b : Bytes) : Encoding :=
  if b.take 4 = [0, 0, 0xFE, 0xFF] ∨ b.take 4 = [0xFF, 0xFE, 0, 0] then .utf32
  else if b.take 2 = [0xFE, 0xFF] ∨ b.take 2 = [0xFF, 0xFE] then .utf16
  else if b.take 3 = [0xEF, 0xBB, 0xBF] then .utf8Sig
  else match b with
    | b0 :: b1 :: b2 :: b3 :: _ =>
      if b0 = 0 then (if b1 ≠ 0 then .utf16Be else .utf32Be)
      else if b1 = 0 then (if b2 ≠ 0 ∨ b3 ≠ 0 then .utf16Le else .utf32Le)
      else .utf8
    | [b0, b1] => if b0 = 0 then .utf16Be else if b1 = 0 then .utf16Le else .utf8
    | _ => .utf8

/-- `b.decode(detect_encoding(b), 'surrogatepass')`; `'utf-16'` and `'utf-32'` read the byte
    order from the byte order mark and drop it, `'utf-8-sig'` drops its mark. -/
def decodeBytes (b : Bytes) : Option String :=
  match detectEncoding b with
  | .utf8 => (Utf8.decodePass b).toOption
  | .utf8Sig => (Utf8.decodePass (b.drop 3)).toOption
  | .utf16 => decodeUtf16 (b.take 2 = [0xFE, 0xFF]) (b.drop 2)
  | .utf16Be => decodeUtf16 true b
  | .utf16Le => decodeUtf16 false b
  | .utf32 => decodeUtf32 (b.take 4 = [0, 0, 0xFE, 0xFF]) (b.drop 4)
  | .utf32Be => decodeUtf32 true b
  | .utf32Le => decodeUtf32 false b

end Json

/-- `json.loads(x)` called with the recursion budget `depth`, none where it raises: a `str` that
    starts with a byte order mark, `bytes` its codec cannot decode, a text that is no JSON or nests
    deeper than `depth`, and anything else than `str` or `bytes` (`TypeError`). -/
def jsonLoads (depth : Nat) : Scalar → Option PyValue
  | .str s => if s.data.head? = some '\uFEFF' then none else Json.decode depth s.data
  | .bytes b => (Json.decodeBytes b).bind fun s => Json.decode depth s.data
  | _ => none

end Aird
