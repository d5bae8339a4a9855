import Std.Data.TreeMap
import HartLayer.Word

/-!
# Byte memory

`Memory` gives a byte to every address. Bytes that were written one by one or in words are kept in
cells of eight aligned bytes, and all others come from a background; an `overlay` of any length
makes the memory so far the background. How a write is kept cannot be seen: `byte_write`,
`byte_setWord` and `byte_overlay` say that inside the run that was written the new bytes are read
and outside nothing has changed. Words are stored with the least significant byte first; a word
depends on its eight bytes alone (`word_congr`), and they determine it (`word_eq_of_byteAt`).
-/

namespace HartLayer

/-- A byte at every address: cells of eight bytes by their numbers, and a background. -/
structure Memory where
  background : Word → UInt8
  cells : Std.TreeMap Nat Word (@compare Nat instOrdNat)

namespace Memory

def zero : Memory := ⟨fun _ => 0, ∅⟩

instance : Inhabited Memory := ⟨zero⟩

def byte (m : Memory) (x : Word) : UInt8 :=
  match m.cells[x.toNat / 8]? with
  | some w => w.byteAt (x.toNat % 8)
  | none => m.background x

/-! ## Writing -/

/-- Keeps a cell with a given number. -/
def setCell (m : Memory) (k : Nat) (w : Word) : Memory := { m with cells := m.cells.insert k w }

theorem byte_setCell (m : Memory) (k : Nat) (w x : Word) :
    (m.setCell k w).byte x = if k = x.toNat / 8 then w.byteAt (x.toNat % 8) else m.byte x := by
  simp only [byte, setCell, Std.TreeMap.getElem?_insert, Nat.compare_eq_eq]
  by_cases h : k = x.toNat / 8
  · rw [if_pos h, if_pos h]
  · rw [if_neg h, if_neg h]

/-- Keeps the cell of an address with the bytes that `f` has for it. -/
def refresh (m : Memory) (f : Word → UInt8) (a : Word) : Memory :=
  m.setCell (a.toNat / 8) (Word.ofBytes fun i => f (8 * (a.toNat / 8) + i).toUInt64)

theorem byte_refresh (m : Memory) (f : Word → UInt8) (a x : Word) :
    (m.refresh f a).byte x = if a.toNat / 8 = x.toNat / 8 then f x else m.byte x := by
  rw [refresh, byte_setCell]
  split
  · next h =>
    rw [Word.byteAt_ofBytes _ (Nat.mod_lt _ (by decide)), h, Nat.div_add_mod]
    exact congrArg f UInt64.ofNat_toNat
  · rfl

/-- Lays at most eight bytes `f 0`, `f 1`, … `f (n - 1)` at `a`, `a + 1`, … They lie in one cell or
in two. -/
def write (m : Memory) (a : Word) (n : Nat) (f : Nat → UInt8) : Memory :=
  let g (x : Word) := if (x - a).toNat < n then f (x - a).toNat else m.byte x
  let last := a + (n - 1).toUInt64
  if a.toNat / 8 = last.toNat / 8 then m.refresh g a else (m.refresh g a).refresh g last

/-- Inside the run the new bytes are read, outside it the old ones. -/
theorem byte_write (m : Memory) (a : Word) {n : Nat} (h : n ≤ 8) (f : Nat → UInt8) (x : Word) :
    (m.write a n f).byte x = if (x - a).toNat < n then f (x - a).toNat else m.byte x := by
  have outside (h1 : ¬a.toNat / 8 = x.toNat / 8)
      (h2 : ¬(a + (n - 1).toUInt64).toNat / 8 = x.toNat / 8) : ¬(x - a).toNat < n := by
    have hn : (n - 1).toUInt64.toNat = n - 1 :=
      Word.toNat_toUInt64 (Nat.lt_of_le_of_lt (show n - 1 ≤ 8 by omega) (by decide))
    have hx := x.toNat_lt
    have ha := a.toNat_lt
    simp only [UInt64.toNat_sub, UInt64.toNat_add, hn] at *
    omega
  by_cases hc : a.toNat / 8 = (a + (n - 1).toUInt64).toNat / 8
  · rw [write, if_pos hc, byte_refresh]
    by_cases h1 : a.toNat / 8 = x.toNat / 8
    · rw [if_pos h1]
    · rw [if_neg h1, if_neg (outside h1 (hc ▸ h1))]
  · rw [write, if_neg hc, byte_refresh, byte_refresh]
    by_cases h2 : (a + (n - 1).toUInt64).toNat / 8 = x.toNat / 8
    · rw [if_pos h2]
    · by_cases h1 : a.toNat / 8 = x.toNat / 8
      · rw [if_neg h2, if_pos h1]
      · rw [if_neg h2, if_neg h1, if_neg (outside h1 h2)]

def setByte (m : Memory) (a : Word) (v : UInt8) : Memory :=
  m.write a 1 fun _ => v

def setHalfWord (m : Memory) (a : Word) (v : UInt32) : Memory :=
  m.write a 4 fun i => Word.byteAt v.toUInt64 i

/-- Stores a 64-bit word. At an aligned address it is a cell. -/
def setWord (m : Memory) (a v : Word) : Memory :=
  if a.toNat % 8 = 0 then m.setCell (a.toNat / 8) v else m.write a 8 v.byteAt

theorem byte_setWord (m : Memory) (a v x : Word) :
    (m.setWord a v).byte x =
      if (x - a).toNat < 8 then v.byteAt (x - a).toNat else m.byte x := by
  unfold setWord
  split
  · next h =>
    have hx := x.toNat_lt
    have ha := a.toNat_lt
    rw [byte_setCell]
    split
    · next hc =>
      have : (x - a).toNat = x.toNat % 8 := by rw [UInt64.toNat_sub]; omega
      rw [this, if_pos (Nat.mod_lt _ (by decide))]
    · next hc =>
      have : ¬(x - a).toNat < 8 := by rw [UInt64.toNat_sub]; omega
      rw [if_neg this]
  · exact byte_write m a (Nat.le_refl 8) v.byteAt x

/-- Stores the words `f 0`, `f 1`, … `f (n - 1)` one after the other from `a` on. -/
def setWords (m : Memory) (a : Word) (f : Nat → Word) : Nat → Memory
  | 0 => m
  | n + 1 => (setWords m a f n).setWord (a + (8 * n).toUInt64) (f n)

theorem byte_setWords (m : Memory) (a : Word) (f : Nat → Word) {n : Nat}
    (h : 8 * n ≤ UInt64.size) (x : Word) :
    (m.setWords a f n).byte x =
      if (x - a).toNat < 8 * n then (f ((x - a).toNat / 8)).byteAt ((x - a).toNat % 8)
      else m.byte x := by
  induction n with
  | zero => rfl
  | succ n ih =>
    have hx := (x - a).toNat_lt
    rw [setWords, byte_setWord, ih (by omega), Word.toNat_sub_add x a (by omega)]
    generalize (x - a).toNat = d at *
    simp only [UInt64.size] at *
    by_cases inside : 8 * n ≤ d ∧ d < 8 * n + 8
    · rw [if_pos inside.1, if_pos (show d - 8 * n < 8 by omega),
        if_pos (show d < 8 * (n + 1) by omega), show d / 8 = n by omega,
        show d - 8 * n = d % 8 by omega]
    · rw [if_neg (by split <;> omega)]
      by_cases before : d < 8 * n
      · rw [if_pos before, if_pos (by omega)]
      · rw [if_neg before, if_neg (by omega)]

/-- The bytes `f 0`, `f 1`, … `f (n - 1)` laid at `a`, `a + 1`, … over the memory so far. -/
def overlay (m : Memory) (a : Word) (n : Nat) (f : Nat → UInt8) : Memory :=
  ⟨fun x => if (x - a).toNat < n then f (x - a).toNat else m.byte x, ∅⟩

theorem byte_overlay (m : Memory) (a : Word) (n : Nat) (f : Nat → UInt8) (x : Word) :
    (m.overlay a n f).byte x = if (x - a).toNat < n then f (x - a).toNat else m.byte x := by
  simp only [byte, overlay, Std.TreeMap.getElem?_emptyc]

def fill (m : Memory) (a : Word) (n : Nat) (b : UInt8) : Memory :=
  m.overlay a n fun _ => b

/-- Copies `n` bytes that do not overlap their target. -/
def copy (m : Memory) (source target : Word) (n : Nat) : Memory :=
  m.overlay target n fun i => m.byte (source + i.toUInt64)

/-! ## Reading -/

def bytes (m : Memory) (a : Word) (n : Nat) : List UInt8 :=
  (List.range n).map fun i => m.byte (a + i.toUInt64)

/-- The value of the `n` bytes at `a`, the least significant one first. -/
def valueAt (m : Memory) (a : Word) : Nat → Nat
  | 0 => 0
  | n + 1 => (m.byte a).toNat + 256 * valueAt m (a + 1) n

def cellAt? (m : Memory) (a : Word) : Option Word :=
  if a.toNat % 8 = 0 then m.cells[a.toNat / 8]? else none

def word (m : Memory) (a : Word) : Word :=
  (m.cellAt? a).getD (m.valueAt a 8).toUInt64

def halfWord (m : Memory) (a : Word) : UInt32 :=
  (m.valueAt a 4).toUInt32

/-- The value of a run of bytes depends on these bytes alone. -/
theorem valueAt_congr {m m' : Memory} {n : Nat} : ∀ {a b : Word},
    (∀ i < n, m.byte (a + i.toUInt64) = m'.byte (b + i.toUInt64)) →
      m.valueAt a n = m'.valueAt b n := by
  induction n with
  | zero => intro a b _; rfl
  | succ n ih =>
    intro a b h
    have h0 : m.byte a = m'.byte b := by simpa using h 0 (Nat.succ_pos n)
    have ht : m.valueAt (a + 1) n = m'.valueAt (b + 1) n := by
      refine ih fun i hi => ?_
      have hs := h (1 + i) (by omega)
      rwa [← Word.add_toUInt64_add, ← Word.add_toUInt64_add] at hs
    simp only [valueAt, h0, ht]

/-- Eight bytes that are those of a word have its value. -/
theorem valueAt_eq_of_byteAt {m : Memory} {a w : Word}
    (h : ∀ i < 8, m.byte (a + i.toUInt64) = w.byteAt i) : m.valueAt a 8 = w.toNat := by
  have step (i : Nat) : a + i.toUInt64 + 1 = a + (i + 1).toUInt64 :=
    Word.add_toUInt64_add a i 1
  have h0 : m.byte a = w.byteAt 0 := by simpa using h 0 (by omega)
  have s0 : a + 1 = a + (1 : Nat).toUInt64 := rfl
  simp only [valueAt, s0, step, h0, h 1 (by omega), h 2 (by omega), h 3 (by omega),
    h 4 (by omega), h 5 (by omega), h 6 (by omega), h 7 (by omega)]
  exact w.sum_byteAt

theorem byte_of_cellAt {m : Memory} {a w : Word} (h : m.cellAt? a = some w) {i : Nat}
    (hi : i < 8) : m.byte (a + i.toUInt64) = w.byteAt i := by
  unfold cellAt? at h
  split at h
  · next ha =>
    have hn : i.toUInt64.toNat = i := Word.toNat_toUInt64 (Nat.lt_trans hi (by decide))
    have hl := a.toNat_lt
    have sum : (a + i.toUInt64).toNat = a.toNat + i := by
      rw [UInt64.toNat_add, hn]; omega
    rw [byte, sum, show (a.toNat + i) / 8 = a.toNat / 8 by omega, h,
      show (a.toNat + i) % 8 = i by omega]
  · cases h

/-- A word is the value of its eight bytes, whether it is kept in a cell or not. -/
theorem word_eq_valueAt (m : Memory) (a : Word) : m.word a = (m.valueAt a 8).toUInt64 := by
  unfold word
  cases h : m.cellAt? a with
  | none => rfl
  | some w =>
    rw [valueAt_eq_of_byteAt fun i hi => byte_of_cellAt h hi]
    exact UInt64.ofNat_toNat.symm

/-- A word depends on its eight bytes alone. -/
theorem word_congr {m m' : Memory} {a b : Word}
    (h : ∀ i < 8, m.byte (a + i.toUInt64) = m'.byte (b + i.toUInt64)) :
    m.word a = m'.word b := by
  rw [word_eq_valueAt, word_eq_valueAt, valueAt_congr h]

theorem word_eq_of_byteAt {m : Memory} {a w : Word}
    (h : ∀ i < 8, m.byte (a + i.toUInt64) = w.byteAt i) : m.word a = w := by
  rw [word_eq_valueAt, valueAt_eq_of_byteAt h]
  exact UInt64.ofNat_toNat

@[simp] theorem word_setWord (m : Memory) (a w : Word) : (m.setWord a w).word a = w :=
  word_eq_of_byteAt fun i hi => by
    rw [byte_setWord, Word.toNat_add_sub a (Nat.lt_trans hi (by decide)), if_pos hi]

/-- A word that does not touch the one that is stored stays as it is. -/
theorem word_setWord_of_apart (m : Memory) {a b : Word} (w : Word)
    (behind : 8 ≤ (b - a).toNat) (before : (b - a).toNat + 8 ≤ UInt64.size) :
    (m.setWord a w).word b = m.word b :=
  word_congr fun i hi => by
    have hn : i.toUInt64.toNat = i := Word.toNat_toUInt64 (Nat.lt_trans hi (by decide))
    have hb := b.toNat_lt
    have ha := a.toNat_lt
    rw [byte_setWord, if_neg]
    simp only [UInt64.toNat_sub, UInt64.toNat_add, hn, UInt64.size] at *
    omega

end Memory

end HartLayer
