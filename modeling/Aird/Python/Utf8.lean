import Aird.Python.Codec

/-! # The UTF-8 round trip

`str.encode('utf-8')` and `bytes.decode('utf-8')` are inverse (`decode_encode`), and strict
decoding accepts only the encodings of text (`decode_eq_ok_iff`): the continuation bytes allowed
after each lead byte (RFC 3629 §4) refuse overlong forms, surrogates and code points past U+10FFFF. -/

namespace Aird.Utf8

/-! ### Bytes as numbers -/

theorem lt_iff (a b : UInt8) : a < b ↔ a.toNat < b.toNat := Iff.rfl

theorem eq_iff (a b : UInt8) : a = b ↔ a.toNat = b.toNat := ⟨congrArg _, UInt8.toNat.inj⟩

theorem toNat_lit (n : Nat) : (no_index (OfNat.ofNat n : UInt8)).toNat = n % 256 := rfl

theorem toNat_lor (a b : UInt8) : (a ||| b).toNat = a.toNat ||| b.toNat := BitVec.toNat_or ..

theorem toNat_toUInt8 (v : UInt32) : v.toUInt8.toNat = v.toNat % 256 := by
  simp [UInt32.toUInt8, UInt8.toNat, UInt8.ofNat]

/-- A byte `utf8EncodeChar` writes: the low `i` bits of `x`, under the marker bits `2 ^ i * a`. -/
theorem toNat_byte (x : UInt32) (m l : UInt8) (i a : Nat) (hi : 2 ^ i ∣ 256) (hm : m.toNat = 2 ^ i - 1)
    (hl : l.toNat = 2 ^ i * a) : (x.toUInt8 &&& m ||| l).toNat = 2 ^ i * a + x.toNat % 2 ^ i := by
  rw [toNat_lor, UInt8.and_toNat, hm, hl, Nat.and_pow_two_sub_one_eq_mod, Nat.or_comm,
    ← Nat.mul_add_lt_is_or (Nat.mod_lt _ (Nat.two_pow_pos i)), toNat_toUInt8, Nat.mod_mod_of_dvd _ hi]

theorem toNat_shiftRight_6 (v : UInt32) : (v >>> 6).toNat = v.toNat / 64 := by
  show (v.toBitVec >>> (UInt32.mod 6 32).toBitVec).toNat = _
  simp [BitVec.toNat_ushiftRight, Nat.shiftRight_eq_div_pow]
  rfl

theorem toNat_shiftRight_12 (v : UInt32) : (v >>> 12).toNat = v.toNat / 4096 := by
  show (v.toBitVec >>> (UInt32.mod 12 32).toBitVec).toNat = _
  simp [BitVec.toNat_ushiftRight, Nat.shiftRight_eq_div_pow]
  rfl

theorem toNat_shiftRight_18 (v : UInt32) : (v >>> 18).toNat = v.toNat / 262144 := by
  show (v.toBitVec >>> (UInt32.mod 18 32).toBitVec).toNat = _
  simp [BitVec.toNat_ushiftRight, Nat.shiftRight_eq_div_pow]
  rfl

/-! ### Encoding -/

/-- The bytes `str.encode` writes for a character, as numbers: one byte below U+0080, then a lead
    byte carrying the high bits and continuation bytes of six bits each. -/
theorem utf8EncodeChar_toNat (c : Char) : (String.utf8EncodeChar c).map UInt8.toNat =
    if c.toNat ≤ 0x7F then [c.toNat]
    else if c.toNat ≤ 0x7FF then [0xC0 + c.toNat / 64, 0x80 + c.toNat % 64]
    else if c.toNat ≤ 0xFFFF then [0xE0 + c.toNat / 4096, 0x80 + c.toNat / 64 % 64, 0x80 + c.toNat % 64]
    else [0xF0 + c.toNat / 262144, 0x80 + c.toNat / 4096 % 64, 0x80 + c.toNat / 64 % 64,
      0x80 + c.toNat % 64] := by
  have hc : c.toNat < 0xD800 ∨ (0xDFFF < c.toNat ∧ c.toNat < 0x110000) := c.valid
  have hle : ∀ k : UInt32, c.val ≤ k ↔ c.toNat ≤ k.toNat := fun _ => Iff.rfl
  have hv : c.val.toNat = c.toNat := rfl
  unfold String.utf8EncodeChar
  simp only [hle, show (0x7f : UInt32).toNat = 0x7F from rfl, show (0x7ff : UInt32).toNat = 0x7FF from rfl,
    show (0xffff : UInt32).toNat = 0xFFFF from rfl]
  split_ifs <;>
    simp only [List.map_cons, List.map_nil, List.cons.injEq, and_true, toNat_toUInt8, hv,
      toNat_byte c.val 63 128 6 2 (by decide) rfl rfl, toNat_byte (c.val >>> 6) 31 192 5 6 (by decide) rfl rfl,
      toNat_byte (c.val >>> 6) 63 128 6 2 (by decide) rfl rfl, toNat_byte (c.val >>> 12) 15 224 4 14 (by decide) rfl rfl,
      toNat_byte (c.val >>> 12) 63 128 6 2 (by decide) rfl rfl, toNat_byte (c.val >>> 18) 7 240 3 30 (by decide) rfl rfl,
      toNat_shiftRight_6, toNat_shiftRight_12, toNat_shiftRight_18] <;>
    omega

/-- A character below U+0080 is written as the one byte of its code point. -/
theorem utf8EncodeChar_ascii {c : Char} (h : c.toNat < 0x80) : String.utf8EncodeChar c = [c.toNat.toUInt8] := by
  refine List.map_injective_iff.2 (fun _ _ => UInt8.toNat.inj) ?_
  rw [utf8EncodeChar_toNat, if_pos (by omega), List.map_singleton]
  exact congrArg (· :: []) (Nat.mod_eq_of_lt (by omega)).symm

/-! ### Lead bytes

What `tails` allows after a lead byte, one lemma for each kind of lead byte. -/

section Tails
variable {s : Bool} {b : UInt8}

theorem tails_ascii (h : b.toNat < 0x80) : tails s b = some [] := by
  simp (disch := omega) only [tails, lt_iff, toNat_lit, Nat.reduceMod, if_pos]

theorem tails_none (h : (0x80 ≤ b.toNat ∧ b.toNat < 0xC2) ∨ 0xF5 ≤ b.toNat) : tails s b = none := by
  simp (disch := omega) only [tails, lt_iff, eq_iff, toNat_lit, Nat.reduceMod, if_pos, if_neg, ite_self]

theorem tails_two (h : 0xC2 ≤ b.toNat ∧ b.toNat < 0xE0) : tails s b = some [(0x80, 0xBF)] := by
  simp (disch := omega) only [tails, lt_iff, toNat_lit, Nat.reduceMod, if_pos, if_neg]

theorem tails_E0 (h : b.toNat = 0xE0) : tails s b = some [(0xA0, 0xBF), (0x80, 0xBF)] := by
  simp (disch := omega) only [tails, lt_iff, eq_iff, toNat_lit, Nat.reduceMod, if_pos, if_neg]

theorem tails_ED (h : b.toNat = 0xED) : tails s b = some [(0x80, if s then 0xBF else 0x9F), (0x80, 0xBF)] := by
  simp (disch := omega) only [tails, lt_iff, eq_iff, toNat_lit, Nat.reduceMod, if_pos, if_neg]

theorem tails_three (h : 0xE1 ≤ b.toNat ∧ b.toNat < 0xF0 ∧ b.toNat ≠ 0xED) :
    tails s b = some [(0x80, 0xBF), (0x80, 0xBF)] := by
  simp (disch := omega) only [tails, lt_iff, eq_iff, toNat_lit, Nat.reduceMod, if_pos, if_neg]

theorem tails_F0 (h : b.toNat = 0xF0) : tails s b = some [(0x90, 0xBF), (0x80, 0xBF), (0x80, 0xBF)] := by
  simp (disch := omega) only [tails, lt_iff, eq_iff, toNat_lit, Nat.reduceMod, if_pos, if_neg]

theorem tails_four (h : 0xF1 ≤ b.toNat ∧ b.toNat < 0xF4) :
    tails s b = some [(0x80, 0xBF), (0x80, 0xBF), (0x80, 0xBF)] := by
  simp (disch := omega) only [tails, lt_iff, eq_iff, toNat_lit, Nat.reduceMod, if_pos, if_neg]

theorem tails_F4 (h : b.toNat = 0xF4) : tails s b = some [(0x80, 0x8F), (0x80, 0xBF), (0x80, 0xBF)] := by
  simp (disch := omega) only [tails, lt_iff, eq_iff, toNat_lit, Nat.reduceMod, if_pos, if_neg]

end Tails

/-! ### Reading a character -/

/-- A continuation byte that fits its range. -/
def InRange (r : UInt8 × UInt8) (x : UInt8) : Prop := r.1 ≤ x ∧ x ≤ r.2

theorem inRange_lit {l h : Nat} {x : UInt8} : InRange (OfNat.ofNat l, OfNat.ofNat h) x ↔
    (OfNat.ofNat l : Nat) % 256 ≤ x.toNat ∧ x.toNat ≤ (OfNat.ofNat h : Nat) % 256 := Iff.rfl

theorem fitting_of_forall₂ {rs : List (UInt8 × UInt8)} {cs : Bytes} (h : List.Forall₂ InRange rs cs)
    (more : Bytes) : fitting rs (cs ++ more) = cs.length := by
  induction h with
  | nil => cases more <;> rfl
  | cons hr _ ih => simp [fitting, hr.1, hr.2, ih]

theorem forall₂_of_fitting : ∀ {rs : List (UInt8 × UInt8)} {xs : Bytes}, fitting rs xs = rs.length →
    List.Forall₂ InRange rs (xs.take rs.length)
  | [], _, _ => .nil
  | (lo, hi) :: rs, x :: xs, h => by
    simp only [fitting] at h
    split_ifs at h with hx
    · exact .cons hx (forall₂_of_fitting (by simpa using h))
    · simp at h
  | _ :: _, [], h => by simp [fitting] at h

theorem read_of_tails {s : Bool} {b : UInt8} {cs : Bytes} {rs : List (UInt8 × UInt8)} {c : Char}
    (ht : tails s b = some rs) (hr : List.Forall₂ InRange rs cs) (hc : toChar (codePoint b cs) = c)
    (more : Bytes) : read s b (cs ++ more) = .ok (c, cs.length) := by
  simp [read, ht, fitting_of_forall₂ hr, hr.length_eq, hc]

theorem toChar_toNat (c : Char) : toChar c.toNat = c := by
  have h : c.toNat < 0xD800 ∨ (0xDFFF < c.toNat ∧ c.toNat < 0x110000) := c.valid
  rw [toChar, if_neg (by omega), Char.ofNat_toNat]

theorem toChar_of_eq {c : Char} {n : Nat} (h : n = c.toNat) : toChar n = c := h ▸ toChar_toNat c

theorem toNat_toChar {n : Nat} (h : n < 0xD800 ∨ (0xDFFF < n ∧ n < 0x110000)) : (toChar n).toNat = n := by
  rw [toChar, if_neg (by omega), Char.ofNat, dif_pos h]
  rfl

theorem codePoint_one (b : UInt8) : codePoint b [] = b.toNat := rfl

theorem codePoint_two (b b1 : UInt8) : codePoint b [b1] = b.toNat % 32 * 64 + b1.toNat % 64 := rfl

theorem codePoint_three (b b1 b2 : UInt8) :
    codePoint b [b1, b2] = (b.toNat % 16 * 64 + b1.toNat % 64) * 64 + b2.toNat % 64 := rfl

theorem codePoint_four (b b1 b2 b3 : UInt8) :
    codePoint b [b1, b2, b3] = ((b.toNat % 8 * 64 + b1.toNat % 64) * 64 + b2.toNat % 64) * 64 + b3.toNat % 64 :=
  rfl

section Encoded
variable {s : Bool} {c : Char} {b b1 b2 b3 : UInt8}

theorem read_encoded_two (h : 0x7F < c.toNat ∧ c.toNat ≤ 0x7FF) (hb : b.toNat = 0xC0 + c.toNat / 64)
    (hb1 : b1.toNat = 0x80 + c.toNat % 64) (more : Bytes) : read s b ([b1] ++ more) = .ok (c, 1) :=
  read_of_tails (tails_two (by omega)) (.cons (inRange_lit.2 (by omega)) .nil)
    (toChar_of_eq (by rw [codePoint_two, hb, hb1]; omega)) more

theorem read_encoded_three (h : 0x7FF < c.toNat ∧ c.toNat ≤ 0xFFFF) (hb : b.toNat = 0xE0 + c.toNat / 4096)
    (hb1 : b1.toNat = 0x80 + c.toNat / 64 % 64) (hb2 : b2.toNat = 0x80 + c.toNat % 64) (more : Bytes) :
    read s b ([b1, b2] ++ more) = .ok (c, 2) := by
  have hc : c.toNat < 0xD800 ∨ 0xDFFF < c.toNat := c.valid.imp_right And.left
  have hcp : toChar (codePoint b [b1, b2]) = c := toChar_of_eq (by rw [codePoint_three, hb, hb1, hb2]; omega)
  have hr : ∀ {r}, InRange r b1 → List.Forall₂ InRange [r, (0x80, 0xBF)] [b1, b2] :=
    fun h₁ => .cons h₁ (.cons (inRange_lit.2 (by omega)) .nil)
  rcases (by omega : b.toNat = 0xE0 ∨ b.toNat = 0xED ∨ (0xE1 ≤ b.toNat ∧ b.toNat < 0xF0 ∧ b.toNat ≠ 0xED))
    with h | h | h
  · exact read_of_tails (tails_E0 h) (hr (inRange_lit.2 (by omega))) hcp more
  · refine read_of_tails (tails_ED h) (hr ?_) hcp more
    cases s
    exacts [inRange_lit.2 (by omega), inRange_lit.2 (by omega)]
  · exact read_of_tails (tails_three h) (hr (inRange_lit.2 (by omega))) hcp more

theorem read_encoded_four (h : 0xFFFF < c.toNat) (hb : b.toNat = 0xF0 + c.toNat / 262144)
    (hb1 : b1.toNat = 0x80 + c.toNat / 4096 % 64) (hb2 : b2.toNat = 0x80 + c.toNat / 64 % 64)
    (hb3 : b3.toNat = 0x80 + c.toNat % 64) (more : Bytes) : read s b ([b1, b2, b3] ++ more) = .ok (c, 3) := by
  have hc : c.toNat < 0xD800 ∨ (0xDFFF < c.toNat ∧ c.toNat < 0x110000) := c.valid
  have hcp : toChar (codePoint b [b1, b2, b3]) = c :=
    toChar_of_eq (by rw [codePoint_four, hb, hb1, hb2, hb3]; omega)
  have hr : ∀ {r}, InRange r b1 → List.Forall₂ InRange [r, (0x80, 0xBF), (0x80, 0xBF)] [b1, b2, b3] :=
    fun h₁ => .cons h₁ (.cons (inRange_lit.2 (by omega)) (.cons (inRange_lit.2 (by omega)) .nil))
  rcases (by omega : b.toNat = 0xF0 ∨ (0xF1 ≤ b.toNat ∧ b.toNat < 0xF4) ∨ b.toNat = 0xF4) with h | h | h
  · exact read_of_tails (tails_F0 h) (hr (inRange_lit.2 (by omega))) hcp more
  · exact read_of_tails (tails_four h) (hr (inRange_lit.2 (by omega))) hcp more
  · exact read_of_tails (tails_F4 h) (hr (inRange_lit.2 (by omega))) hcp more

end Encoded

/-- The decoder reads back each character `str.encode` writes, whatever follows it. -/
theorem read_utf8EncodeChar (s : Bool) (c : Char) :
    ∃ b cs, String.utf8EncodeChar c = b :: cs ∧ ∀ more, read s b (cs ++ more) = .ok (c, cs.length) := by
  have hbytes := utf8EncodeChar_toNat c
  cases hcs : String.utf8EncodeChar c with
  | nil => rw [hcs] at hbytes; split_ifs at hbytes <;> cases hbytes
  | cons b cs =>
    refine ⟨b, cs, rfl, fun more => ?_⟩
    rw [hcs] at hbytes
    split_ifs at hbytes with h1 h2 h3 <;>
      rcases cs with _ | ⟨b1, _ | ⟨b2, _ | ⟨b3, _ | ⟨_, _⟩⟩⟩⟩ <;>
      simp only [List.map_cons, List.map_nil, List.cons.injEq, reduceCtorEq, and_false, and_true] at hbytes
    · exact read_of_tails (tails_ascii (by omega)) .nil (toChar_of_eq (by rw [codePoint_one, hbytes])) more
    · exact read_encoded_two ⟨by omega, h2⟩ hbytes.1 hbytes.2 more
    · exact read_encoded_three ⟨by omega, h3⟩ hbytes.1 hbytes.2.1 hbytes.2.2 more
    · exact read_encoded_four (by omega) hbytes.1 hbytes.2.1 hbytes.2.2.1 hbytes.2.2.2 more

/-! ### Text encoded decodes back -/

/-- The decoder's pass over encoded text reads each character whole. -/
theorem scan_encode (s : Bool) : ∀ (cs : List Char) (fuel : Nat),
    (cs.flatMap String.utf8EncodeChar).length ≤ fuel →
      scan s fuel (cs.flatMap String.utf8EncodeChar) = cs.map fun c => (some c, (String.utf8EncodeChar c).length)
  | [], fuel, _ => by cases fuel <;> rfl
  | c :: cs, fuel, h => by
    obtain ⟨b, bs, he, hread⟩ := read_utf8EncodeChar s c
    rw [List.flatMap_cons, he, List.cons_append] at h ⊢
    simp only [List.length_cons, List.length_append] at h
    obtain ⟨fuel, rfl⟩ : ∃ f, fuel = f + 1 := ⟨fuel - 1, by omega⟩
    rw [scan, hread]
    dsimp only
    rw [List.drop_left, scan_encode s cs fuel (by omega), List.map_cons, he, List.length_cons]

theorem strict_map_some (f : Char → Nat) : ∀ (cs : List Char) (pos : Nat),
    strict (cs.map fun c => (some c, f c)) pos = .ok cs
  | [], _ => rfl
  | c :: cs, pos => by rw [List.map_cons, strict, strict_map_some f cs]; rfl

/-- Text encoded as UTF-8 decodes back to itself: strictly, with `'surrogatepass'`, and with
    `'replace'`. -/
theorem decode_encode (t : String) :
    decode (encode t) = .ok t ∧ decodePass (encode t) = .ok t ∧ decodeReplace (encode t) = t := by
  have hp : ∀ s, pieces s (encode t) = t.data.map fun c => (some c, (String.utf8EncodeChar c).length) :=
    fun s => scan_encode s t.data _ le_rfl
  refine ⟨?_, ?_, ?_⟩
  · rw [decode, hp, strict_map_some]; rfl
  · rw [decodePass, hp, strict_map_some]; rfl
  · rw [decodeReplace, hp, List.map_map]
    exact congrArg String.mk (List.map_id _)

/-! ### Only encodings decode -/

theorem encode_two {b b1 : UInt8} (hb : 0xC2 ≤ b.toNat ∧ b.toNat < 0xE0)
    (h1 : 0x80 ≤ b1.toNat ∧ b1.toNat ≤ 0xBF) : String.utf8EncodeChar (toChar (codePoint b [b1])) = [b, b1] := by
  have hn : codePoint b [b1] = (b.toNat - 0xC0) * 64 + (b1.toNat - 0x80) := by rw [codePoint_two]; omega
  apply List.map_injective_iff.2 fun _ _ => UInt8.toNat.inj
  rw [utf8EncodeChar_toNat, hn, toNat_toChar (by omega), if_neg (by omega), if_pos (by omega)]
  simp only [List.map_cons, List.map_nil, List.cons.injEq, and_true]
  omega

theorem encode_three {b b1 b2 : UInt8} (hb : 0xE0 ≤ b.toNat ∧ b.toNat < 0xF0)
    (h1 : 0x80 ≤ b1.toNat ∧ b1.toNat ≤ 0xBF) (h2 : 0x80 ≤ b2.toNat ∧ b2.toNat ≤ 0xBF)
    (hn : 0x800 ≤ codePoint b [b1, b2] ∧ (codePoint b [b1, b2] < 0xD800 ∨ 0xE000 ≤ codePoint b [b1, b2])) :
    String.utf8EncodeChar (toChar (codePoint b [b1, b2])) = [b, b1, b2] := by
  have hn' : codePoint b [b1, b2] = (b.toNat - 0xE0) * 4096 + (b1.toNat - 0x80) * 64 + (b2.toNat - 0x80) := by
    rw [codePoint_three]; omega
  rw [hn'] at hn ⊢
  apply List.map_injective_iff.2 fun _ _ => UInt8.toNat.inj
  rw [utf8EncodeChar_toNat, toNat_toChar (by omega), if_neg (by omega), if_neg (by omega), if_pos (by omega)]
  simp only [List.map_cons, List.map_nil, List.cons.injEq, and_true]
  omega

theorem encode_four {b b1 b2 b3 : UInt8} (hb : 0xF0 ≤ b.toNat ∧ b.toNat < 0xF5)
    (h1 : 0x80 ≤ b1.toNat ∧ b1.toNat ≤ 0xBF) (h2 : 0x80 ≤ b2.toNat ∧ b2.toNat ≤ 0xBF)
    (h3 : 0x80 ≤ b3.toNat ∧ b3.toNat ≤ 0xBF)
    (hn : 0x10000 ≤ codePoint b [b1, b2, b3] ∧ codePoint b [b1, b2, b3] < 0x110000) :
    String.utf8EncodeChar (toChar (codePoint b [b1, b2, b3])) = [b, b1, b2, b3] := by
  have hn' : codePoint b [b1, b2, b3] =
      (b.toNat - 0xF0) * 262144 + (b1.toNat - 0x80) * 4096 + (b2.toNat - 0x80) * 64 + (b3.toNat - 0x80) := by
    rw [codePoint_four]; omega
  rw [hn'] at hn ⊢
  apply List.map_injective_iff.2 fun _ _ => UInt8.toNat.inj
  rw [utf8EncodeChar_toNat, toNat_toChar (by omega), if_neg (by omega), if_neg (by omega), if_neg (by omega)]
  simp only [List.map_cons, List.map_nil, List.cons.injEq, and_true]
  omega

theorem forall₂_pair {r₁ r₂ : UInt8 × UInt8} {cs : Bytes} (h : List.Forall₂ InRange [r₁, r₂] cs) :
    ∃ b1 b2, cs = [b1, b2] ∧ InRange r₁ b1 ∧ InRange r₂ b2 := by
  rcases h with _ | ⟨h1, _ | ⟨h2, _ | _⟩⟩
  exact ⟨_, _, rfl, h1, h2⟩

theorem forall₂_triple {r₁ r₂ r₃ : UInt8 × UInt8} {cs : Bytes} (h : List.Forall₂ InRange [r₁, r₂, r₃] cs) :
    ∃ b1 b2 b3, cs = [b1, b2, b3] ∧ InRange r₁ b1 ∧ InRange r₂ b2 ∧ InRange r₃ b3 := by
  rcases h with _ | ⟨h1, _ | ⟨h2, _ | ⟨h3, _ | _⟩⟩⟩
  exact ⟨_, _, _, rfl, h1, h2, h3⟩

/-- A character the strict decoder reads is encoded by just the bytes it read: the ranges after
    `E0` and `F0` refuse overlong forms, the range after `ED` surrogates, the range after `F4` code
    points past U+10FFFF. -/
theorem utf8EncodeChar_codePoint {b : UInt8} {rs : List (UInt8 × UInt8)} {cs : Bytes}
    (ht : tails false b = some rs) (hf : List.Forall₂ InRange rs cs) :
    String.utf8EncodeChar (toChar (codePoint b cs)) = b :: cs := by
  have hb : b.toNat < 256 := UInt8.toNat_lt_size b
  rcases (by omega : b.toNat < 0x80 ∨ ((0x80 ≤ b.toNat ∧ b.toNat < 0xC2) ∨ 0xF5 ≤ b.toNat) ∨
      (0xC2 ≤ b.toNat ∧ b.toNat < 0xE0) ∨ b.toNat = 0xE0 ∨ b.toNat = 0xED ∨
      (0xE1 ≤ b.toNat ∧ b.toNat < 0xF0 ∧ b.toNat ≠ 0xED) ∨ b.toNat = 0xF0 ∨
      (0xF1 ≤ b.toNat ∧ b.toNat < 0xF4) ∨ b.toNat = 0xF4) with h | h | h | h | h | h | h | h | h
  · rw [tails_ascii h] at ht
    cases ht
    cases hf
    apply List.map_injective_iff.2 fun _ _ => UInt8.toNat.inj
    rw [utf8EncodeChar_toNat, codePoint_one, toNat_toChar (by omega), if_pos (by omega)]
    rfl
  · rw [tails_none h] at ht
    cases ht
  · rw [tails_two h] at ht
    cases ht
    rcases hf with _ | ⟨r1, _ | _⟩
    exact encode_two h (inRange_lit.1 r1)
  · rw [tails_E0 h] at ht
    cases ht
    obtain ⟨b1, b2, rfl, r1, r2⟩ := forall₂_pair hf
    have r1 := inRange_lit.1 r1
    refine encode_three ?_ ?_ (inRange_lit.1 r2) ?_ <;> (try rw [codePoint_three]) <;> omega
  · rw [tails_ED h] at ht
    cases ht
    obtain ⟨b1, b2, rfl, r1, r2⟩ := forall₂_pair hf
    have r1 : 0x80 ≤ b1.toNat ∧ b1.toNat ≤ 0x9F := r1
    refine encode_three ?_ ?_ (inRange_lit.1 r2) ?_ <;> (try rw [codePoint_three]) <;> omega
  · rw [tails_three h] at ht
    cases ht
    obtain ⟨b1, b2, rfl, r1, r2⟩ := forall₂_pair hf
    have r1 := inRange_lit.1 r1
    refine encode_three ?_ ?_ (inRange_lit.1 r2) ?_ <;> (try rw [codePoint_three]) <;> omega
  · rw [tails_F0 h] at ht
    cases ht
    obtain ⟨b1, b2, b3, rfl, r1, r2, r3⟩ := forall₂_triple hf
    have r1 := inRange_lit.1 r1
    have r2 := inRange_lit.1 r2
    refine encode_four ?_ ?_ r2 (inRange_lit.1 r3) ?_ <;> (try rw [codePoint_four]) <;> omega
  · rw [tails_four h] at ht
    cases ht
    obtain ⟨b1, b2, b3, rfl, r1, r2, r3⟩ := forall₂_triple hf
    have r1 := inRange_lit.1 r1
    have r2 := inRange_lit.1 r2
    refine encode_four ?_ ?_ r2 (inRange_lit.1 r3) ?_ <;> (try rw [codePoint_four]) <;> omega
  · rw [tails_F4 h] at ht
    cases ht
    obtain ⟨b1, b2, b3, rfl, r1, r2, r3⟩ := forall₂_triple hf
    have r1 := inRange_lit.1 r1
    have r2 := inRange_lit.1 r2
    refine encode_four ?_ ?_ r2 (inRange_lit.1 r3) ?_ <;> (try rw [codePoint_four]) <;> omega

/-- What the strict decoder reads at a lead byte is the encoding of the character it gives. -/
theorem utf8EncodeChar_of_read {b : UInt8} {rest : Bytes} {c : Char} {k : Nat}
    (h : read false b rest = .ok (c, k)) : String.utf8EncodeChar c = b :: rest.take k := by
  unfold read at h
  split at h
  · cases h
  · next rs ht =>
    simp only at h
    split at h
    · next hk =>
      cases h
      rw [hk]
      exact utf8EncodeChar_codePoint ht (forall₂_of_fitting hk)
    · cases h

theorem strict_cons_some {c : Char} {n pos : Nat} {ps : List (Option Char × Nat)} {cs : List Char}
    (h : strict ((some c, n) :: ps) pos = .ok cs) : ∃ cs', cs = c :: cs' ∧ strict ps (pos + n) = .ok cs' := by
  rw [strict] at h
  cases hs : strict ps (pos + n) with
  | error e => rw [hs] at h; cases h
  | ok cs' => rw [hs] at h; cases h; exact ⟨cs', rfl, rfl⟩

/-- Bytes whose pieces are all characters are the encoding of those characters. -/
theorem flatMap_of_scan : ∀ (fuel : Nat) (bs : Bytes) (cs : List Char) (pos : Nat), bs.length ≤ fuel →
    strict (scan false fuel bs) pos = .ok cs → cs.flatMap String.utf8EncodeChar = bs
  | 0, [], _, _, _, h | _ + 1, [], _, _, _, h => by cases h; rfl
  | 0, _ :: _, _, _, hl, _ => absurd hl (by simp)
  | fuel + 1, b :: rest, cs, pos, hl, h => by
    rw [scan] at h
    split at h
    · next c k hr =>
      obtain ⟨cs', rfl, h'⟩ := strict_cons_some h
      rw [List.flatMap_cons, utf8EncodeChar_of_read hr,
        flatMap_of_scan fuel _ cs' _ (by simp only [List.length_cons, List.length_drop] at hl ⊢; omega) h',
        List.cons_append, List.take_append_drop]
    · cases h

/-- `bytes.decode('utf-8')` succeeds exactly on the UTF-8 encodings of text, and gives the text
    encoded. -/
theorem decode_eq_ok_iff (bs : Bytes) (t : String) : decode bs = .ok t ↔ encode t = bs := by
  constructor
  · intro h
    simp only [decode] at h
    cases hs : strict (pieces false bs) 0 with
    | error e => rw [hs] at h; cases h
    | ok cs =>
      rw [hs] at h
      cases h
      exact flatMap_of_scan _ bs cs 0 le_rfl hs
  · rintro rfl
    exact (decode_encode t).1

theorem isOk_decode_iff (bs : Bytes) : (decode bs).isOk ↔ ∃ t, encode t = bs := by
  simp only [← decode_eq_ok_iff]
  cases decode bs <;> simp [Except.isOk, Except.toBool]

end Aird.Utf8
