import Mathlib.Data.List.Nodup
import Mathlib.Algebra.Group.Nat.Basic

/-! # Python values

The scalars `sqlite3` hands back for a cell and JSON gives for a leaf, the lists and dicts
`json.loads` builds, Python's truth test on them, and `dict`: insertion order with each key once,
`d[k] = v` replacing the value of an equal key in place. -/

namespace Aird

/-- Python's `bytes`. -/
abbrev Bytes := List UInt8

/-- A Python scalar as `sqlite3` returns a cell: `None`, `int`, `float` (its IEEE 754 bits), `str`
    or `bytes`. -/
inductive Scalar where
  | none
  | int (i : Int)
  | float (bits : UInt64)
  | str (s : String)
  | bytes (b : Bytes)
  deriving DecidableEq, Repr

/-- A Python value: a scalar, a `bool`, or the `list` and `dict` that `json.loads` builds. -/
inductive PyValue where
  | scalar (x : Scalar)
  | bool (b : Bool)
  | list (xs : List PyValue)
  | dict (items : List (String × PyValue))
  deriving Repr

namespace Scalar

/-- Python's truth test: `None`, `0`, `0.0`, `-0.0`, `''` and `b''` are false. -/
def truthy : Scalar → Bool
  | none => false
  | int i => i ≠ 0
  | float bits => bits ≠ 0 && bits ≠ 0x8000000000000000
  | str s => s ≠ ""
  | bytes b => b ≠ []

/-- `a or b`. -/
def or (a b : Scalar) : Scalar := if a.truthy then a else b

/-- The integer a finite double with these bits equals, when it equals one (`float.is_integer`): a
    sign bit, 11 exponent bits and 52 fraction bits, the value `sig * 2 ^ (e - 1075)` with the
    hidden bit set in a normal number and the exponent of a subnormal read as 1. -/
def floatInt? (bits : UInt64) : Option Int :=
  let n := bits.toNat
  let e := n / 2 ^ 52 % 2 ^ 11
  let sig : Nat := if e = 0 then n % 2 ^ 52 else 2 ^ 52 + n % 2 ^ 52
  let sign : Int → Int := if n < 2 ^ 63 then id else Neg.neg
  if e = 0x7FF then Option.none
  else if 1075 ≤ e then some (sign ((sig * 2 ^ (e - 1075) : Nat) : Int))
  else if sig = 0 then some 0
  else if sig % 2 ^ (1075 - max e 1) = 0 then some (sign ((sig / 2 ^ (1075 - max e 1) : Nat) : Int))
  else Option.none

/-- What a `dict` tells keys apart by: Python's `==`, under which a float with an integral value
    equals that `int` (`1 == 1.0`, `0 == 0.0 == -0.0`) and no `str` equals a `bytes`. A NaN, equal
    to nothing, is left out: SQLite stores no NaN, so no cell holds one. -/
def key : Scalar → Scalar
  | float bits => match floatInt? bits with
    | some i => int i
    | Option.none => float bits
  | x => x

example : (float 0x3FF0000000000000).key = (int 1).key ∧ (float 0x8000000000000000).key = (float 0).key ∧
    (float 0x3FF8000000000000).key ≠ (int 1).key := by decide

@[simp] theorem truthy_none : none.truthy = false := rfl

@[simp] theorem none_or (b : Scalar) : none.or b = b := rfl

end Scalar

namespace PyValue

/-- `None`. -/
abbrev none : PyValue := scalar .none

/-- `isinstance(v, list)`. -/
def isList : PyValue → Bool
  | list _ => true
  | _ => false

/-- `v is None`. -/
def isNone : PyValue → Bool
  | scalar .none => true
  | _ => false

mutual

/-- How deep lists and dicts nest in a value, each list or dict one level: the recursive calls
    CPython's JSON encoder and scanner enter for it. -/
def depth : PyValue → Nat
  | list vs => depthList vs + 1
  | dict items => depthItems items + 1
  | _ => 0

def depthList : List PyValue → Nat
  | [] => 0
  | v :: vs => max v.depth (depthList vs)

def depthItems : List (String × PyValue) → Nat
  | [] => 0
  | (_, v) :: items => max v.depth (depthItems items)

end

@[simp] theorem depth_scalar (x : Scalar) : (scalar x).depth = 0 := rfl
@[simp] theorem depth_bool (b : Bool) : (bool b).depth = 0 := rfl
@[simp] theorem depth_list (vs : List PyValue) : (list vs).depth = depthList vs + 1 := rfl
@[simp] theorem depth_dict (items : List (String × PyValue)) : (dict items).depth = depthItems items + 1 := rfl
@[simp] theorem depthList_nil : depthList [] = 0 := rfl
@[simp] theorem depthList_cons (v : PyValue) (vs : List PyValue) :
    depthList (v :: vs) = max v.depth (depthList vs) := rfl
@[simp] theorem depthItems_nil : depthItems [] = 0 := rfl
@[simp] theorem depthItems_cons (k : String) (v : PyValue) (items : List (String × PyValue)) :
    depthItems ((k, v) :: items) = max v.depth (depthItems items) := rfl

end PyValue

/-! ### Dicts -/

/-- A Python `dict`: its items in insertion order, each key once. -/
structure Dict (κ α : Type) [DecidableEq κ] where
  items : List (κ × α)
  keys_nodup : (items.map (·.1)).Nodup

namespace Dict
variable {κ α : Type} [DecidableEq κ]

/-- `{}`. -/
def empty : Dict κ α := ⟨[], List.nodup_nil⟩

instance : EmptyCollection (Dict κ α) := ⟨empty⟩

/-- `d.get(k)`. -/
def get? (d : Dict κ α) (k : κ) : Option α := d.items.lookup k

/-- The items after `d[k] = v`: the value of `k` replaced in place, or `(k, v)` appended. -/
def setItem (k : κ) (v : α) : List (κ × α) → List (κ × α)
  | [] => [(k, v)]
  | (k', v') :: rest => if k' = k then (k, v) :: rest else (k', v') :: setItem k v rest

theorem keys_setItem (k : κ) (v : α) :
    ∀ l : List (κ × α), (setItem k v l).map (·.1) = if k ∈ l.map (·.1) then l.map (·.1) else l.map (·.1) ++ [k]
  | [] => rfl
  | (k', v') :: rest => by
    by_cases h : k' = k
    · simp [setItem, h]
    · have ih := keys_setItem k v rest
      by_cases hk : k ∈ rest.map (·.1) <;> simp_all [setItem, Ne.symm h]

theorem nodup_setItem (k : κ) (v : α) {l : List (κ × α)} (h : (l.map (·.1)).Nodup) :
    ((setItem k v l).map (·.1)).Nodup := by
  rw [keys_setItem]
  split
  · exact h
  · rename_i hk
    simpa [List.nodup_append, h] using hk

/-- `d[k] = v`. -/
def insert (d : Dict κ α) (k : κ) (v : α) : Dict κ α := ⟨setItem k v d.items, nodup_setItem k v d.keys_nodup⟩

/-- `d.pop(k, None)`, its value left out. -/
def pop (d : Dict κ α) (k : κ) : Dict κ α :=
  ⟨d.items.filter (·.1 ≠ k), d.keys_nodup.sublist ((List.filter_sublist _).map _)⟩

theorem lookup_cons_pair (k k₀ : κ) (v₀ : α) (l : List (κ × α)) :
    ((k₀, v₀) :: l).lookup k = if k = k₀ then some v₀ else l.lookup k := by
  show (match k == k₀ with | true => some v₀ | false => l.lookup k) = _
  by_cases h : k = k₀
  · simp [h]
  · rw [beq_false_of_ne h]
    simp [h]

theorem lookup_setItem (k k' : κ) (v : α) :
    ∀ l : List (κ × α), (setItem k v l).lookup k' = if k' = k then some v else l.lookup k'
  | [] => by simp [setItem, lookup_cons_pair]
  | (k₀, v₀) :: rest => by
    by_cases h₀ : k₀ = k
    · subst h₀
      by_cases h : k' = k₀ <;> simp [setItem, lookup_cons_pair, h]
    · have ih := lookup_setItem k k' v rest
      by_cases h : k' = k₀ <;> simp_all [setItem, lookup_cons_pair]

@[simp] theorem get?_empty (k : κ) : (∅ : Dict κ α).get? k = none := rfl

@[simp] theorem get?_insert (d : Dict κ α) (k k' : κ) (v : α) :
    (d.insert k v).get? k' = if k' = k then some v else d.get? k' :=
  lookup_setItem k k' v d.items

theorem lookup_filter_ne (k k' : κ) :
    ∀ l : List (κ × α), (l.filter (·.1 ≠ k)).lookup k' = if k' = k then none else l.lookup k'
  | [] => by simp
  | (k₀, v₀) :: l => by
    have ih := lookup_filter_ne k k' l
    by_cases h : k₀ = k
    · rw [List.filter_cons_of_neg (p := fun x : κ × α => decide (x.1 ≠ k)) (by simpa using h), ih, lookup_cons_pair]
      by_cases h' : k' = k <;> simp [h, h']
    · rw [List.filter_cons_of_pos (p := fun x : κ × α => decide (x.1 ≠ k)) (decide_eq_true h), lookup_cons_pair, lookup_cons_pair, ih]
      by_cases h' : k' = k₀ <;> by_cases h'' : k' = k <;> simp_all

@[simp] theorem get?_pop (d : Dict κ α) (k k' : κ) :
    (d.pop k).get? k' = if k' = k then none else d.get? k' :=
  lookup_filter_ne k k' d.items

/-! Keys that `==` compares through a function `f`, as `1` and `1.0` are one key: a key equal to
one already there finds that one, which keeps its place and itself. -/

section On
variable {β : Type} [DecidableEq β] (f : κ → β)

/-- The items after `d[k] = v`: the first key `k'` with `f k' = f k` takes the value, or `(k, v)`
    is appended. -/
def setItemOn (k : κ) (v : α) : List (κ × α) → List (κ × α)
  | [] => [(k, v)]
  | (k', v') :: rest => if f k' = f k then (k', v) :: rest else (k', v') :: setItemOn k v rest

omit [DecidableEq κ] in
theorem keys_setItemOn (k : κ) (v : α) : ∀ l : List (κ × α),
    (setItemOn f k v l).map (·.1) = if ∃ k' ∈ l.map (·.1), f k' = f k then l.map (·.1) else l.map (·.1) ++ [k]
  | [] => rfl
  | (k', v') :: rest => by
    by_cases h : f k' = f k
    · simp [setItemOn, h]
    · have hcons : (∃ x ∈ (k' :: rest.map (·.1)), f x = f k) ↔ ∃ x ∈ rest.map (·.1), f x = f k :=
        ⟨fun ⟨x, hx, e⟩ => (List.mem_cons.1 hx).elim (fun hx => absurd (hx ▸ e) h) fun hx => ⟨x, hx, e⟩,
          fun ⟨x, hx, e⟩ => ⟨x, List.mem_cons_of_mem _ hx, e⟩⟩
      rw [setItemOn, if_neg h, List.map_cons, List.map_cons, keys_setItemOn k v rest]
      by_cases hk : ∃ x ∈ rest.map (·.1), f x = f k
      · rw [if_pos hk, if_pos (hcons.2 hk)]
      · rw [if_neg hk, if_neg (mt hcons.1 hk)]
        rfl

omit [DecidableEq κ] in
theorem nodup_setItemOn (k : κ) (v : α) {l : List (κ × α)} (h : (l.map (·.1)).Nodup) :
    ((setItemOn f k v l).map (·.1)).Nodup := by
  rw [keys_setItemOn]
  split
  · exact h
  · rename_i hk
    exact List.nodup_append.2 ⟨h, List.nodup_singleton k, fun x hx hy => hk ⟨x, hx, by
      rw [List.mem_singleton.1 hy]⟩⟩

/-- `d[k] = v`. -/
def insertOn (d : Dict κ α) (k : κ) (v : α) : Dict κ α :=
  ⟨setItemOn f k v d.items, nodup_setItemOn f k v d.keys_nodup⟩

/-- `d.get(k)`. -/
def getOn (d : Dict κ α) (k : κ) : Option α := (d.items.find? (f ·.1 = f k)).map (·.2)

@[simp] theorem getOn_empty (k : κ) : (∅ : Dict κ α).getOn f k = none := rfl

omit [DecidableEq κ] in
theorem find?_setItemOn (k k' : κ) (v : α) : ∀ l : List (κ × α),
    ((setItemOn f k v l).find? (f ·.1 = f k')).map (·.2) =
      if f k' = f k then some v else (l.find? (f ·.1 = f k')).map (·.2)
  | [] => by by_cases h : f k' = f k <;> simp [setItemOn, h, eq_comm]
  | (k₀, v₀) :: rest => by
    by_cases h₀ : f k₀ = f k
    · by_cases h : f k' = f k
      · simp [setItemOn, h₀, h]
      · have h₁ : ¬f k = f k' := fun e => h e.symm
        simp [setItemOn, List.find?_cons, h₀, h, h₁]
    · have ih := find?_setItemOn k k' v rest
      by_cases h₁ : f k₀ = f k'
      · have h : ¬f k' = f k := fun e => h₀ (h₁.trans e)
        simp [setItemOn, List.find?_cons, h₀, h, h₁]
      · simpa [setItemOn, h₀, h₁] using ih

@[simp] theorem getOn_insertOn (d : Dict κ α) (k k' : κ) (v : α) :
    (d.insertOn f k v).getOn f k' = if f k' = f k then some v else d.getOn f k' :=
  find?_setItemOn f k k' v d.items

end On

end Dict

/-! ### Exceptions

A Python function that may raise is modelled in `Except`; these unfold its steps. -/

@[simp] theorem Except.ok_bind {ε α β : Type} (a : α) (f : α → Except ε β) : (Except.ok a >>= f) = f a := rfl

@[simp] theorem Except.error_bind {ε α β : Type} (e : ε) (f : α → Except ε β) :
    (Except.error e >>= f) = Except.error e := rfl

@[simp] theorem Except.mapError_ok {ε ε' α : Type} (f : ε → ε') (a : α) :
    (Except.ok a : Except ε α).mapError f = .ok a := rfl

@[simp] theorem Except.mapError_error {ε ε' α : Type} (f : ε → ε') (e : ε) :
    (Except.error e : Except ε α).mapError f = .error (f e) := rfl

/-- A failing element makes a `mapM` fail. -/
theorem mapM_error_of_mem {ε α β : Type} {f : α → Except ε β} {x : α} {e : ε} (hf : f x = .error e) :
    ∀ {l : List α}, x ∈ l → ∃ e', l.mapM f = .error e'
  | y :: l, hx => by
    rw [List.mapM_cons]
    rcases List.mem_cons.1 hx with rfl | hx
    · exact ⟨e, by rw [hf]; rfl⟩
    · cases f y with
      | error e' => exact ⟨e', rfl⟩
      | ok b =>
        obtain ⟨e', he'⟩ := mapM_error_of_mem hf hx
        exact ⟨e', by rw [Except.ok_bind, he']; rfl⟩

/-- What a `mapM` that succeeds returns: one result of each element, in order. -/
theorem mapM_ok_forall₂ {ε α β : Type} {f : α → Except ε β} :
    ∀ {l : List α} {ys : List β}, l.mapM f = .ok ys → List.Forall₂ (fun x y => f x = .ok y) l ys
  | [], ys, h => by cases h; exact .nil
  | x :: l, ys, h => by
    rw [List.mapM_cons] at h
    cases hx : f x with
    | error e => rw [hx] at h; cases h
    | ok y =>
      rw [hx, Except.ok_bind] at h
      cases hl : l.mapM f with
      | error e => rw [hl] at h; cases h
      | ok ys' =>
        rw [hl] at h
        cases h
        exact .cons hx (mapM_ok_forall₂ hl)

/-- Each result of a `mapM` that succeeds comes from an element. -/
theorem mapM_ok_mem {ε α β : Type} {f : α → Except ε β} {l : List α} {ys : List β}
    (h : l.mapM f = .ok ys) : ∀ y ∈ ys, ∃ x ∈ l, f x = .ok y := by
  have hf := mapM_ok_forall₂ h
  clear h
  induction hf with
  | nil => intro y hy; cases hy
  | cons hxy _ ih =>
    intro y hy
    rcases List.mem_cons.1 hy with rfl | hy
    · exact ⟨_, List.mem_cons_self _ _, hxy⟩
    · obtain ⟨x, hx, hx'⟩ := ih y hy
      exact ⟨x, List.mem_cons_of_mem _ hx, hx'⟩

end Aird
