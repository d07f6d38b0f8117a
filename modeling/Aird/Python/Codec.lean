import Aird.Python.Value
import Mathlib.Data.List.Defs
import Mathlib.Algebra.Group.Nat.Basic

/-! # Text codecs

CPython's codecs as the modelled code reaches them: strict UTF-8 decoding of header bytes and TEXT
cells, `errors='replace'` in `unquote`, the UTF-16 and UTF-32 codecs in `json.loads`, and UTF-8
encoding of responses. A stretch RFC 3629 §4 cannot complete is where decoding raises or puts one
U+FFFD. -/

namespace Aird

/-- The value of a hexadecimal digit. -/
def hexDigit? (c : Char) : Option Nat :=
  if '0' ≤ c ∧ c ≤ '9' then some (c.toNat - '0'.toNat)
  else if 'a' ≤ c ∧ c ≤ 'f' then some (c.toNat - 'a'.toNat + 10)
  else if 'A' ≤ c ∧ c ≤ 'F' then some (c.toNat - 'A'.toNat + 10)
  else none

theorem char_le_iff (a b : Char) : a ≤ b ↔ a.toNat ≤ b.toNat := Iff.rfl

/-- A hexadecimal digit is an ASCII character, and its value is below 16. -/
theorem hexDigit?_lt {a : Char} {x : Nat} (h : hexDigit? a = some x) : a.toNat < 0x80 ∧ x < 16 := by
  have hlits : ('0'.toNat, '9'.toNat, 'a'.toNat, 'f'.toNat, 'A'.toNat, 'F'.toNat) = (48, 57, 97, 102, 65, 70) := rfl
  simp only [Prod.mk.injEq] at hlits
  unfold hexDigit? at h
  simp only [char_le_iff] at h
  split_ifs at h <;> cases h <;> omega

/-- The character of code point `n`; U+FFFD stands for a lone surrogate. -/
def toChar (n : Nat) : Char := if 0xD800 ≤ n ∧ n < 0xE000 then '\uFFFD' else Char.ofNat n

namespace Utf8

/-- The ranges of the continuation bytes after lead byte `b`, or none when `b` starts no
    character. `surrogates` lets `%xED` take `%xA0-BF`, as `'surrogatepass'` does. -/
def tails (surrogates : Bool) (b : UInt8) : Option (List (UInt8 × UInt8)) :=
  if b < 0x80 then some []
  else if b < 0xC2 then none
  else if b < 0xE0 then some [(0x80, 0xBF)]
  else if b = 0xE0 then some [(0xA0, 0xBF), (0x80, 0xBF)]
  else if b = 0xED then some [(0x80, if surrogates then 0xBF else 0x9F), (0x80, 0xBF)]
  else if b < 0xF0 then some [(0x80, 0xBF), (0x80, 0xBF)]
  else if b = 0xF0 then some [(0x90, 0xBF), (0x80, 0xBF), (0x80, 0xBF)]
  else if b < 0xF4 then some [(0x80, 0xBF), (0x80, 0xBF), (0x80, 0xBF)]
  else if b = 0xF4 then some [(0x80, 0x8F), (0x80, 0xBF), (0x80, 0xBF)]
  else none

/-- How many of the bytes `cs` fit the ranges `rs`, one after the other. -/
def fitting : List (UInt8 × UInt8) → Bytes → Nat
  | (lo, hi) :: rs, c :: cs => if lo ≤ c ∧ c ≤ hi then fitting rs cs + 1 else 0
  | _, _ => 0

/-- The code point of lead byte `b` followed by the continuation bytes `cs`. -/
def codePoint (b : UInt8) (cs : Bytes) : Nat :=
  cs.foldl (fun acc c => acc * 64 + c.toNat % 64)
    (if cs = [] then b.toNat else b.toNat % 2 ^ (6 - cs.length))

/-- What the decoder reads at lead byte `b` before `rest`: a character and the number of bytes
    of `rest` it takes, or an invalid stretch and the number of bytes of `rest` in it. -/
def read (surrogates : Bool) (b : UInt8) (rest : Bytes) : Except Nat (Char × Nat) :=
  match tails surrogates b with
  | none => .error 0
  | some rs =>
    let k := fitting rs rest
    if k = rs.length then .ok (toChar (codePoint b (rest.take k)), k) else .error k

/-- The decoder's pass: each character read (none for an invalid stretch) with its length in
    bytes. Every step reads a byte at least, so `fuel` of the length of the bytes suffices. -/
def scan (surrogates : Bool) : Nat → Bytes → List (Option Char × Nat)
  | 0, _ | _ + 1, [] => []
  | fuel + 1, b :: rest =>
    match read surrogates b rest with
    | .ok (c, k) => (some c, k + 1) :: scan surrogates fuel (rest.drop k)
    | .error k => (none, k + 1) :: scan surrogates fuel (rest.drop k)

/-- The pieces of `bs`. -/
def pieces (surrogates : Bool) (bs : Bytes) : List (Option Char × Nat) := scan surrogates bs.length bs

/-- The characters of the pieces from byte `pos` on, or the position of the first invalid one. -/
def strict : List (Option Char × Nat) → Nat → Except Nat (List Char)
  | [], _ => .ok []
  | (some c, n) :: ps, pos => (c :: ·) <$> strict ps (pos + n)
  | (none, _) :: _, pos => .error pos

/-- `bs.decode('utf-8')`: the text, or the start of the stretch `UnicodeDecodeError` reports. -/
def decode (bs : Bytes) : Except Nat String := String.mk <$> strict (pieces false bs) 0

/-- `bs.decode('utf-8', 'surrogatepass')`. -/
def decodePass (bs : Bytes) : Except Nat String := String.mk <$> strict (pieces true bs) 0

/-- `bs.decode('utf-8', 'replace')`. -/
def decodeReplace (bs : Bytes) : String := ⟨(pieces false bs).map fun p => p.1.getD '\uFFFD'⟩

/-- `s.encode('utf-8')`. -/
def encode (s : String) : Bytes := s.data.flatMap String.utf8EncodeChar

end Utf8

/-- The code units of `bs`, `w` bytes each, most significant first when `bigEndian`; none when
    the length is no multiple of `w` (the codec's "truncated data"). -/
def codeUnits (w : Nat) (bigEndian : Bool) (bs : Bytes) : Option (List Nat) :=
  if bs.length % w = 0 then
    some ((bs.toChunks w).map fun u =>
      (if bigEndian then u else u.reverse).foldl (fun acc b => acc * 256 + b.toNat) 0)
  else none

/-- UTF-16 code units to text: a high and a low surrogate make one character; a lone surrogate
    passes (`'surrogatepass'`). -/
def utf16Chars : List Nat → List Char
  | [] => []
  | [u] => [toChar u]
  | u :: v :: us =>
    if 0xD800 ≤ u ∧ u < 0xDC00 ∧ 0xDC00 ≤ v ∧ v < 0xE000 then
      Char.ofNat (0x10000 + (u - 0xD800) * 0x400 + (v - 0xDC00)) :: utf16Chars us
    else toChar u :: utf16Chars (v :: us)

/-- `bs.decode('utf-16-be' or 'utf-16-le', 'surrogatepass')`. -/
def decodeUtf16 (bigEndian : Bool) (bs : Bytes) : Option String :=
  (codeUnits 2 bigEndian bs).map fun us => ⟨utf16Chars us⟩

/-- `bs.decode('utf-32-be' or 'utf-32-le', 'surrogatepass')`: a unit past U+10FFFF is an error. -/
def decodeUtf32 (bigEndian : Bool) (bs : Bytes) : Option String := do
  let us ← codeUnits 4 bigEndian bs
  if us.all (· ≤ 0x10FFFF) then some ⟨us.map toChar⟩ else none

end Aird
