/-!
# Machine words

A `Word` is a 64-bit register value or address. `Word.hex` is its written form; `checkedAdd` and
`checkedMul` report the operation that leaves the 64-bit range, where `+` and `*` wrap.
-/

namespace HartLayer

/-- A 64-bit register value or address. -/
abbrev Word := UInt64

/-- An addition or a multiplication whose result needs more than 64 bits. -/
inductive Overflow where
  | add
  | mul
  deriving DecidableEq, Repr

def Overflow.message : Overflow → String
  | .add => "attempt to add with overflow"
  | .mul => "attempt to multiply with overflow"

namespace Word

/-- Lower-case hexadecimal digits behind `0x`, without leading zeros. -/
def hex (w : Word) : String :=
  "0x" ++ String.ofList (Nat.toDigits 16 w.toNat)

def decimal (w : Word) : String :=
  toString w.toNat

/-- The sum, if it fits a word. -/
def checkedAdd (a b : Word) : Except Overflow Word :=
  if a.toNat + b.toNat < UInt64.size then .ok (a + b) else .error .add

def checkedMul (a b : Word) : Except Overflow Word :=
  if a.toNat * b.toNat < UInt64.size then .ok (a * b) else .error .mul

/-- Byte `i` of a word, the least significant one first. -/
def byteAt (w : Word) (i : Nat) : UInt8 :=
  (w.toNat >>> (8 * i)).toUInt8

/-- The word with given bytes, `f 0` being the least significant one. -/
def ofBytes (f : Nat → UInt8) : Word :=
  ((f 0).toNat + 256 * ((f 1).toNat + 256 * ((f 2).toNat + 256 * ((f 3).toNat +
    256 * ((f 4).toNat + 256 * ((f 5).toNat + 256 * ((f 6).toNat + 256 * (f 7).toNat)))))
      )).toUInt64

/-- The bit of weight `2 ^ i`. -/
def bit (w : Word) (i : Nat) : Bool :=
  w.toNat.testBit i

theorem bit_or (w m : Word) (i : Nat) : (w ||| m).bit i = (w.bit i || m.bit i) := by
  simp only [bit, UInt64.toNat_or, Nat.testBit_or]

/-- Clearing the bits of a mask leaves the others as they are. -/
theorem bit_and_not (w m : Word) (i : Nat) : (w &&& ~~~m).bit i = (w.bit i && !m.bit i) := by
  have mask : (~~~m).toNat = 2 ^ 64 - (m.toNat + 1) := by
    rw [UInt64.toNat_not, UInt64.size]
    omega
  simp only [bit, UInt64.toNat_and, mask, Nat.testBit_and,
    Nat.testBit_two_pow_sub_succ m.toNat_lt]
  by_cases inside : i < 64
  · rw [decide_eq_true inside, Bool.true_and]
  · have above : w.toNat.testBit i = false := by
      refine Nat.testBit_lt_two_pow (Nat.lt_of_lt_of_le w.toNat_lt ?_)
      exact Nat.pow_le_pow_right (by decide) (by omega)
    rw [above, Bool.false_and, Bool.false_and]

/-- The bytes of a word that is made of bytes. -/
theorem byteAt_ofBytes (f : Nat → UInt8) {i : Nat} (h : i < 8) : (ofBytes f).byteAt i = f i := by
  have hb (j : Nat) := (f j).toNat_lt
  have := hb 0; have := hb 1; have := hb 2; have := hb 3
  have := hb 4; have := hb 5; have := hb 6; have := hb 7
  apply UInt8.toNat_inj.1
  simp only [byteAt, ofBytes, Nat.shiftRight_eq_div_pow, Nat.toUInt8, Nat.toUInt64,
    UInt8.toNat_ofNat', UInt64.toNat_ofNat']
  match i, h with
  | 0, _ | 1, _ | 2, _ | 3, _ | 4, _ | 5, _ | 6, _ | 7, _ => omega

/-- A word is the value of its eight bytes. -/
theorem sum_byteAt (w : Word) :
    (byteAt w 0).toNat + 256 * ((byteAt w 1).toNat + 256 * ((byteAt w 2).toNat +
      256 * ((byteAt w 3).toNat + 256 * ((byteAt w 4).toNat + 256 * ((byteAt w 5).toNat +
        256 * ((byteAt w 6).toNat + 256 * (byteAt w 7).toNat)))))) = w.toNat := by
  have h := w.toNat_lt
  simp only [byteAt, Nat.shiftRight_eq_div_pow, Nat.toUInt8, UInt8.toNat_ofNat']
  omega

/-- A number below `2 ^ 64` is the value of its word. -/
theorem toNat_toUInt64 {x : Nat} (h : x < UInt64.size) : x.toUInt64.toNat = x :=
  (UInt64.toNat_ofNat' ..).trans (Nat.mod_eq_of_lt h)

/-- The offset of the byte `i` places behind an address, as long as `i` is a small number. -/
theorem toNat_add_sub (a : Word) {i : Nat} (h : i < UInt64.size) :
    (a + i.toUInt64 - a).toNat = i := by
  have : a + i.toUInt64 - a = i.toUInt64 := by rw [UInt64.add_comm, UInt64.add_sub_cancel]
  rw [this, toNat_toUInt64 h]

/-- How far a word lies behind an address that is moved on. -/
theorem toNat_sub_add (x a : Word) {k : Nat} (h : k < UInt64.size) :
    (x - (a + k.toUInt64)).toNat =
      if k ≤ (x - a).toNat then (x - a).toNat - k else (x - a).toNat + UInt64.size - k := by
  have hk : k.toUInt64.toNat = k := toNat_toUInt64 h
  have hx := x.toNat_lt
  have ha := a.toNat_lt
  simp only [UInt64.toNat_sub, UInt64.toNat_add, hk, UInt64.size] at *
  split <;> omega

/-- Two steps behind an address are one step. -/
theorem add_toUInt64_add (a : Word) (i j : Nat) :
    a + i.toUInt64 + j.toUInt64 = a + (i + j).toUInt64 := by
  rw [UInt64.add_assoc]
  exact congrArg _ (UInt64.ofNat_add i j).symm

theorem checkedAdd_eq_ok_iff {a b c : Word} :
    checkedAdd a b = .ok c ↔ a.toNat + b.toNat = c.toNat := by
  have hc := c.toNat_lt
  unfold checkedAdd
  split
  · next h =>
    rw [Except.ok.injEq, ← UInt64.toNat_inj, UInt64.toNat_add, Nat.mod_eq_of_lt h]
  · next h =>
    constructor
    · intro e; exact nomatch e
    · intro e; exact absurd (e ▸ hc) h

theorem checkedMul_eq_ok_iff {a b c : Word} :
    checkedMul a b = .ok c ↔ a.toNat * b.toNat = c.toNat := by
  have hc := c.toNat_lt
  unfold checkedMul
  split
  · next h =>
    rw [Except.ok.injEq, ← UInt64.toNat_inj, UInt64.toNat_mul, Nat.mod_eq_of_lt h]
  · next h =>
    constructor
    · intro e; exact nomatch e
    · intro e; exact absurd (e ▸ hc) h

/-! ## Partial arithmetic -/

/-- The sum, if it fits a word. -/
def add? (a b : Word) : Option Word := (checkedAdd a b).toOption

/-- The difference, if it is not negative. -/
def sub? (a b : Word) : Option Word := if b ≤ a then some (a - b) else none

theorem sub?_eq_some_iff {a b c : Word} : sub? a b = some c ↔ c.toNat + b.toNat = a.toNat := by
  rw [sub?, Option.ite_none_right_eq_some, Option.some.injEq]
  constructor
  · rintro ⟨le, rfl⟩
    rw [UInt64.toNat_sub_of_le _ _ le]
    exact Nat.sub_add_cancel (UInt64.le_iff_toNat_le.mp le)
  · intro sum
    have le : b ≤ a := by
      rw [UInt64.le_iff_toNat_le]
      omega
    refine ⟨le, ?_⟩
    rw [← UInt64.toNat_inj, UInt64.toNat_sub_of_le _ _ le]
    omega

theorem add?_toUInt64 {x y : Nat} (h : x + y < UInt64.size) :
    add? x.toUInt64 y.toUInt64 = some (x + y).toUInt64 := by
  have sum : x.toUInt64.toNat + y.toUInt64.toNat = (x + y).toUInt64.toNat := by
    rw [toNat_toUInt64 h, toNat_toUInt64 (by omega), toNat_toUInt64 (by omega)]
  rw [add?, checkedAdd_eq_ok_iff.mpr sum]
  rfl

theorem sub?_toUInt64 {x y : Nat} (h : y ≤ x) (hx : x < UInt64.size) :
    sub? x.toUInt64 y.toUInt64 = some (x - y).toUInt64 := by
  rw [sub?_eq_some_iff, toNat_toUInt64 hx, toNat_toUInt64 (by omega), toNat_toUInt64 (by omega)]
  exact Nat.sub_add_cancel h

theorem mod_toUInt64 {x n : Nat} (hx : x < UInt64.size) (hn : n < UInt64.size) :
    x.toUInt64 % n.toUInt64 = (x % n).toUInt64 := by
  have small : x % n < UInt64.size := Nat.lt_of_le_of_lt (Nat.mod_le x n) hx
  rw [← UInt64.toNat_inj, UInt64.toNat_mod, toNat_toUInt64 hx, toNat_toUInt64 hn,
    toNat_toUInt64 small]

end Word

end HartLayer
