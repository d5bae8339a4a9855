import HartLayer.Device.Mapped
import HartLayer.Proofs.Drawing

/-!
# What a drawing leaves in the framebuffer

A drawing has pixels for some rows and columns of the screen (`Drawing.pixelAt?`), and the cell of
each row and column is a word of the framebuffer of its own (`Screen.cell`). Drawing a rectangle that
lies on the screen ends without an overflow, and each byte of the memory is then what the drawing
lays there (`Drawing.lays?`), or else what it was (`byte_painted`). So what drawings do one behind
the other is read off what each of them lays.

* `MappedRegisters.byte_after_of_last` : what accesses leave in memory;
* `plots?_eq_some_iff` : a drawing lays at an address what one of its pixels has there;
* `lays?_unique`, `lays?_parts` : what drawings apart from each other lay, and the parts of one;
* `drawsOnScreen_reported` : what drawing on the screen that the device reports comes to.
-/

namespace HartLayer

/-! ## Accesses to memory -/

namespace Memory

theorem byte_setHalfWord (m : Memory) (a : Word) (v : UInt32) (x : Word) :
    (m.setHalfWord a v).byte x =
      if (x - a).toNat < 4 then Word.byteAt v.toUInt64 (x - a).toNat else m.byte x :=
  byte_write m a (by decide) _ x

/-- A 32-bit word depends on its four bytes alone. -/
theorem halfWord_congr {m m' : Memory} {a b : Word}
    (h : ∀ i < 4, m.byte (a + i.toUInt64) = m'.byte (b + i.toUInt64)) :
    m.halfWord a = m'.halfWord b := by
  rw [halfWord, halfWord, valueAt_congr h]

/-- Four bytes that are those of a 32-bit word make this word. -/
theorem halfWord_eq_of_byteAt {m : Memory} {a : Word} {v : UInt32}
    (h : ∀ i < 4, m.byte (a + i.toUInt64) = Word.byteAt v.toUInt64 i) : m.halfWord a = v := by
  have step (i : Nat) : a + i.toUInt64 + 1 = a + (i + 1).toUInt64 := Word.add_toUInt64_add a i 1
  have first : m.byte a = Word.byteAt v.toUInt64 0 := by simpa using h 0 (by decide)
  have next : a + 1 = a + (1 : Nat).toUInt64 := rfl
  have bound := v.toNat_lt
  have value : m.valueAt a 4 = v.toNat := by
    simp only [valueAt, next, step, first, h 1 (by decide), h 2 (by decide), h 3 (by decide),
      Word.byteAt, UInt32.toNat_toUInt64, Nat.shiftRight_eq_div_pow, Nat.toUInt8,
      UInt8.toNat_ofNat']
    omega
  rw [halfWord, value]
  exact UInt32.ofNat_toNat

end Memory

namespace Access

/-- Whether an access changes the byte at an address. -/
def hits (a : Access) (x : Word) : Bool := a.isWrite && decide ((x - a.addr).toNat < a.width.toNat)

end Access

namespace MappedRegisters

def applied (m : Memory) : Access → Memory
  | .read8 _ | .read32 _ | .read64 _ => m
  | .write8 a v => m.setByte a v
  | .write32 a v => m.setHalfWord a v

def after (m : Memory) (accesses : List Access) : Memory := accesses.foldl applied m

theorem runFrom_making {α : Type} (accesses : List Access) (rest : Routine α) (m : Memory) :
    Attempt.runFrom ((Routine.making accesses rest).run answer) m =
      Attempt.runFrom (rest.run answer) (after m accesses) := by
  induction accesses generalizing m with
  | nil => rfl
  | cons a accesses ih => cases a <;> exact ih _

theorem byte_applied_of_not_hit {a : Access} {x : Word} (missed : a.hits x = false) (m : Memory) :
    (applied m a).byte x = m.byte x := by
  cases a with
  | write8 a v =>
    have far : ¬(x - a).toNat < 1 := of_decide_eq_false missed
    rw [applied, Memory.setByte, Memory.byte_write _ _ (by decide), if_neg far]
  | write32 a v =>
    have far : ¬(x - a).toNat < 4 := of_decide_eq_false missed
    rw [applied, Memory.byte_setHalfWord, if_neg far]
  | _ => rfl

/-- A byte that no access changes stays. -/
theorem byte_after_of_not_hit {accesses : List Access} {x : Word}
    (missed : ∀ a ∈ accesses, a.hits x = false) (m : Memory) :
    (after m accesses).byte x = m.byte x := by
  induction accesses generalizing m with
  | nil => rfl
  | cons a accesses ih =>
    obtain ⟨here, later⟩ := List.forall_mem_cons.mp missed
    exact (ih later _).trans (byte_applied_of_not_hit here m)

/-- A byte that one access writes, and none behind it, is what this one wrote. -/
theorem byte_after_of_last {accesses : List Access} {x a : Word} {v : UInt32} {k : Nat}
    (written : accesses[k]? = some (.write32 a v)) (hit : (x - a).toNat < 4)
    (last : ∀ j b, k < j → accesses[j]? = some b → b.hits x = false) (m : Memory) :
    (after m accesses).byte x = Word.byteAt v.toUInt64 (x - a).toNat := by
  obtain ⟨hk, here⟩ := List.getElem?_eq_some_iff.mp written
  have behind : ∀ b ∈ accesses.drop (k + 1), b.hits x = false := by
    intro b mem
    obtain ⟨j, found⟩ := List.mem_iff_getElem?.mp mem
    rw [List.getElem?_drop] at found
    exact last _ b (by omega) found
  rw [← List.take_append_drop k accesses, List.drop_eq_getElem_cons hk, here, after,
    List.foldl_append, List.foldl_cons]
  refine (byte_after_of_not_hit behind _).trans ?_
  rw [applied, Memory.byte_setHalfWord, if_pos hit]

end MappedRegisters

namespace Display

/-! ## Cells -/

/-- Where the pixel in a row and a column of a screen is kept. -/
def Screen.cell (s : Screen) (row col : Nat) : Nat :=
  DeviceMap.framebuffer.toNat + 4 * (s.width.toNat * row + col)

/-- Whether a row and a column of the screen belong to the rectangle of a drawing. -/
def Drawing.Covers (d : Drawing) (row col : Nat) : Prop :=
  (d.y.toNat ≤ row ∧ row < d.y.toNat + d.h.toNat) ∧ d.x.toNat ≤ col ∧ col < d.x.toNat + d.w.toNat

instance (d : Drawing) (row col : Nat) : Decidable (d.Covers row col) := by
  unfold Drawing.Covers
  infer_instance

/-- The pixel that a drawing has for a row and a column of the screen. -/
def Drawing.pixelAt? (d : Drawing) (row col : Nat) : Option UInt32 :=
  if d.Covers row col then
    (d.pixels.getD [])[(row - d.y.toNat) * d.w.toNat + (col - d.x.toNat)]?
  else none

/-- The rectangle of a drawing lies on a screen. -/
structure Drawing.LiesOn (d : Drawing) (s : Screen) : Prop where
  width : d.x.toNat + d.w.toNat ≤ s.width.toNat
  height : d.y.toNat + d.h.toNat ≤ s.height.toNat

variable {s : Screen} {d : Drawing} {row col : Nat}

theorem count_eq (d : Drawing) :
    d.count = min (d.pixels.getD []).length (d.w.toNat * d.h.toNat) := by
  unfold Drawing.count
  cases d.pixels with
  | none => simp
  | some pixels =>
    dsimp only [Option.getD_some]
    split
    · next none => simp [none]
    · rfl

theorem getElem?_drawn {k : Nat} (hk : k < d.count) : d.drawn[k]? = (d.pixels.getD [])[k]? :=
  List.getElem?_take_of_lt hk

/-- Pixel `k` of a drawing belongs to a row and a column of its rectangle. -/
theorem pixelAt?_of_lt {k : Nat} (hk : k < d.count) :
    d.Covers (d.y.toNat + k / d.w.toNat) (d.x.toNat + k % d.w.toNat) ∧
      d.pixelAt? (d.y.toNat + k / d.w.toNat) (d.x.toNat + k % d.w.toNat) = d.drawn[k]? := by
  have few := hk
  rw [count_eq] at few
  have area : k < d.w.toNat * d.h.toNat := Nat.lt_of_lt_of_le few (Nat.min_le_right _ _)
  have wide : 0 < d.w.toNat := Nat.pos_of_mul_pos_right (Nat.zero_lt_of_lt area)
  have high : k / d.w.toNat < d.h.toNat := Nat.div_lt_of_lt_mul area
  have covers : d.Covers (d.y.toNat + k / d.w.toNat) (d.x.toNat + k % d.w.toNat) :=
    ⟨⟨Nat.le_add_right _ _, Nat.add_lt_add_left high _⟩, Nat.le_add_right _ _,
      Nat.add_lt_add_left (Nat.mod_lt k wide) _⟩
  refine ⟨covers, ?_⟩
  rw [Drawing.pixelAt?, if_pos covers, getElem?_drawn hk, Nat.add_sub_cancel_left,
    Nat.add_sub_cancel_left, Nat.div_add_mod']

theorem pixelAt?_of_not_covers (h : ¬d.Covers row col) : d.pixelAt? row col = none := if_neg h

/-- The index of a pixel, from its row and column in a rectangle. -/
theorem index_lt {w h i j : Nat} (hi : i < h) (hj : j < w) : i * w + j < w * h := by
  have rows : (i + 1) * w ≤ h * w := Nat.mul_le_mul_right w hi
  rw [Nat.mul_comm w]
  rw [Nat.succ_mul] at rows
  omega

/-- Every pixel that a drawing has for a row and a column is one of those that it draws. -/
theorem exists_of_pixelAt? {p : UInt32} (h : d.pixelAt? row col = some p) :
    ∃ k < d.count, d.drawn[k]? = some p ∧ row = d.y.toNat + k / d.w.toNat ∧
      col = d.x.toNat + k % d.w.toNat := by
  rw [Drawing.pixelAt?, Option.ite_none_right_eq_some] at h
  obtain ⟨⟨⟨top, bottom⟩, left, right⟩, found⟩ := h
  obtain ⟨i, rfl⟩ := Nat.exists_eq_add_of_le top
  obtain ⟨j, rfl⟩ := Nat.exists_eq_add_of_le left
  rw [Nat.add_sub_cancel_left, Nat.add_sub_cancel_left] at found
  have inside : j < d.w.toNat := Nat.lt_of_add_lt_add_left right
  have area := index_lt (Nat.lt_of_add_lt_add_left bottom) inside
  have count : i * d.w.toNat + j < d.count := by
    rw [count_eq]
    exact Nat.lt_min.mpr ⟨(List.getElem?_eq_some_iff.mp found).1, area⟩
  obtain ⟨row, column⟩ := row_and_column (i := i) inside
  exact ⟨_, count, (getElem?_drawn count).trans found, by rw [row], by rw [column]⟩

/-- The cell of a pixel is the place where it is written. -/
theorem place_eq_cell (s : Screen) (d : Drawing) (k : Nat) :
    place s d k = s.cell (d.y.toNat + k / d.w.toNat) (d.x.toNat + k % d.w.toNat) := by
  rw [place, Screen.cell, Nat.add_assoc (_ * _)]

/-! ## What a drawing lays at an address -/

/-- The byte of a pixel that a drawing lays at an address, if there is one. -/
def Drawing.plots? (d : Drawing) (s : Screen) (x : Word) : Option UInt8 :=
  if DeviceMap.framebuffer.toNat ≤ x.toNat then
    let offset := x.toNat - DeviceMap.framebuffer.toNat
    (d.pixelAt? (offset / 4 / s.width.toNat) (offset / 4 % s.width.toNat)).map fun p =>
      Word.byteAt p.toUInt64 (offset % 4)
  else none

/-- The byte that a drawing lays at an address, if it does: one of the request to show the
framebuffer, or of a pixel. -/
def Drawing.lays? (d : Drawing) (s : Screen) (x : Word) : Option UInt8 :=
  if d.sync = true ∧ (x - syncAddress).toNat < 4 then some (Word.byteAt 1 (x - syncAddress).toNat)
  else d.plots? s x

/-- The sizes of a screen fit 16 bits, as those that the device reports. -/
structure Screen.Small (s : Screen) : Prop where
  width : s.width.toNat < 2 ^ 16
  height : s.height.toNat < 2 ^ 16

/-- The cells of a screen lie in its framebuffer. -/
theorem cell_lt (hr : row < s.height.toNat) (hc : col < s.width.toNat) :
    s.cell row col + 4 ≤
      DeviceMap.framebuffer.toNat + 4 * (s.width.toNat * s.height.toNat) := by
  have rows := Nat.mul_le_mul_left s.width.toNat (Nat.succ_le_of_lt hr)
  rw [Nat.mul_succ] at rows
  unfold Screen.cell
  omega

theorem Drawing.LiesOn.bounds (lies : d.LiesOn s) (covers : d.Covers row col) :
    row < s.height.toNat ∧ col < s.width.toNat := by
  obtain ⟨width, height⟩ := lies
  obtain ⟨⟨-, bottom⟩, -, right⟩ := covers
  omega

/-- The framebuffer of a small screen lies in the address space. -/
theorem Screen.Small.framebuffer_lt (small : s.Small) :
    DeviceMap.framebuffer.toNat + 4 * (s.width.toNat * s.height.toNat) < UInt64.size := by
  have area := Nat.mul_le_mul (Nat.le_of_lt small.width) (Nat.le_of_lt small.height)
  have base : DeviceMap.framebuffer.toNat = 0xa1000000 := rfl
  rw [UInt64.size]
  omega

theorem Screen.Small.cell_lt (small : s.Small) (hr : row < s.height.toNat)
    (hc : col < s.width.toNat) : s.cell row col + 4 ≤ UInt64.size :=
  Nat.le_trans (Display.cell_lt hr hc) (Nat.le_of_lt small.framebuffer_lt)

/-- Which addresses lie in a word of the framebuffer, and where in it. -/
theorem in_word_iff {a n : Nat} (fits : a + 4 * n + 4 ≤ UInt64.size) (x : Word) :
    ((x - (a + 4 * n).toUInt64).toNat < 4 ↔ a ≤ x.toNat ∧ (x.toNat - a) / 4 = n) ∧
      ((x - (a + 4 * n).toUInt64).toNat < 4 →
        (x - (a + 4 * n).toUInt64).toNat = (x.toNat - a) % 4) := by
  have full : UInt64.size = 2 ^ 64 := rfl
  have bound := x.toNat_lt
  rw [UInt64.toNat_sub, Word.toNat_toUInt64 (by omega)]
  omega

/-- Which addresses lie in a cell. -/
theorem in_cell_iff (fits : s.cell row col + 4 ≤ UInt64.size) (hc : col < s.width.toNat) (x : Word) :
    (x - (s.cell row col).toUInt64).toNat < 4 ↔
      DeviceMap.framebuffer.toNat ≤ x.toNat ∧
        row = (x.toNat - DeviceMap.framebuffer.toNat) / 4 / s.width.toNat ∧
        col = (x.toNat - DeviceMap.framebuffer.toNat) / 4 % s.width.toNat := by
  refine (in_word_iff fits x).1.trans (and_congr_right fun _ => ⟨fun number => ?_, ?_⟩)
  · obtain ⟨quotient, rest⟩ := row_and_column (i := row) hc
    rw [number, Nat.mul_comm]
    exact ⟨quotient.symm, rest.symm⟩
  · rintro ⟨rfl, rfl⟩
    exact (Nat.div_add_mod _ _).symm

/-! ## The pixels of a drawing in memory -/

section Laying

variable {x : Word} {k : Nat}

theorem getElem?_plotted (s : Screen) (d : Drawing) (k : Nat) :
    (plotted s d)[k]? = d.drawn[k]?.map fun p => .write32 (place s d k).toUInt64 p :=
  List.getElem?_mapIdx

theorem lt_count {p : UInt32} (h : d.drawn[k]? = some p) : k < d.count :=
  length_drawn d ▸ (List.getElem?_eq_some_iff.mp h).1

/-- The pixels of a drawing on the screen have addresses. -/
theorem place_add_le (small : s.Small) (lies : d.LiesOn s) (hk : k < d.count) :
    place s d k + 4 ≤ UInt64.size := by
  obtain ⟨hr, hc⟩ := lies.bounds (pixelAt?_of_lt hk).1
  rw [place_eq_cell]
  exact small.cell_lt hr hc

/-- Which addresses a pixel of a drawing is written to. -/
theorem in_place_iff (small : s.Small) (lies : d.LiesOn s) (hk : k < d.count) (x : Word) :
    (x - (place s d k).toUInt64).toNat < 4 ↔
      DeviceMap.framebuffer.toNat ≤ x.toNat ∧
        d.y.toNat + k / d.w.toNat = (x.toNat - DeviceMap.framebuffer.toNat) / 4 / s.width.toNat ∧
        d.x.toNat + k % d.w.toNat =
          (x.toNat - DeviceMap.framebuffer.toNat) / 4 % s.width.toNat := by
  obtain ⟨hr, hc⟩ := lies.bounds (pixelAt?_of_lt hk).1
  rw [place_eq_cell]
  exact in_cell_iff (small.cell_lt hr hc) hc x

/-- No two pixels of a drawing are written to one address. -/
theorem eq_of_in_place (small : s.Small) (lies : d.LiesOn s) {j : Nat} (hj : j < d.count)
    (hk : k < d.count) (first : (x - (place s d j).toUInt64).toNat < 4)
    (second : (x - (place s d k).toUInt64).toNat < 4) : j = k := by
  obtain ⟨-, row₁, col₁⟩ := (in_place_iff small lies hj x).mp first
  obtain ⟨-, row₂, col₂⟩ := (in_place_iff small lies hk x).mp second
  have quotient : j / d.w.toNat = k / d.w.toNat := by omega
  have rest : j % d.w.toNat = k % d.w.toNat := by omega
  rw [← Nat.div_add_mod j d.w.toNat, quotient, rest, Nat.div_add_mod]

/-- A drawing lays at an address what one of its pixels has there. -/
theorem plots?_eq_some_iff (small : s.Small) (lies : d.LiesOn s) {b : UInt8} :
    d.plots? s x = some b ↔ ∃ k p, d.drawn[k]? = some p ∧
      (x - (place s d k).toUInt64).toNat < 4 ∧
      b = Word.byteAt p.toUInt64 (x - (place s d k).toUInt64).toNat := by
  have offset {k : Nat} (hk : k < d.count) (hit : (x - (place s d k).toUInt64).toNat < 4) :
      (x - (place s d k).toUInt64).toNat = (x.toNat - DeviceMap.framebuffer.toNat) % 4 :=
    (in_word_iff (place_add_le small lies hk) x).2 hit
  rw [Drawing.plots?, Option.ite_none_right_eq_some, Option.map_eq_some_iff]
  constructor
  · rintro ⟨above, p, pixel, rfl⟩
    obtain ⟨k, hk, found, row, col⟩ := exists_of_pixelAt? pixel
    have hit := (in_place_iff small lies hk x).mpr ⟨above, row.symm, col.symm⟩
    exact ⟨k, p, found, hit, by rw [offset hk hit]⟩
  · rintro ⟨k, p, found, hit, rfl⟩
    obtain ⟨above, row, col⟩ := (in_place_iff small lies (lt_count found) x).mp hit
    refine ⟨above, p, ?_, by rw [offset (lt_count found) hit]⟩
    rw [← row, ← col, (pixelAt?_of_lt (lt_count found)).2, found]

/-- The bytes of the memory after the pixels are written. -/
theorem byte_after_plotted (small : s.Small) (lies : d.LiesOn s) (m : Memory) (x : Word) :
    (MappedRegisters.after m (plotted s d)).byte x = (d.plots? s x).getD (m.byte x) := by
  have write {j : Nat} {a : Access} (found : (plotted s d)[j]? = some a) :
      ∃ p, d.drawn[j]? = some p ∧ a = .write32 (place s d j).toUInt64 p := by
    rw [getElem?_plotted, Option.map_eq_some_iff] at found
    obtain ⟨p, here, rfl⟩ := found
    exact ⟨p, here, rfl⟩
  cases laid : d.plots? s x with
  | none =>
    refine MappedRegisters.byte_after_of_not_hit (fun a mem => ?_) m
    obtain ⟨j, found⟩ := List.mem_iff_getElem?.mp mem
    obtain ⟨p, here, rfl⟩ := write found
    refine decide_eq_false fun hit => ?_
    have some := (plots?_eq_some_iff small lies).mpr ⟨j, p, here, hit, rfl⟩
    rw [laid] at some
    cases some
  | some b =>
    obtain ⟨k, p, here, hit, rfl⟩ := (plots?_eq_some_iff small lies).mp laid
    refine MappedRegisters.byte_after_of_last (k := k) (by rw [getElem?_plotted, here]; rfl) hit
      (fun j a later found => ?_) m
    obtain ⟨q, there, rfl⟩ := write found
    refine decide_eq_false fun again => ?_
    -- a pixel in the same place would be the same one
    exact Nat.ne_of_lt later (eq_of_in_place small lies (lt_count here) (lt_count there) hit again)

end Laying

def painted (s : Screen) (d : Drawing) (m : Memory) : Memory :=
  (Attempt.runFrom ((draw s d).run MappedRegisters.answer) m).2

/-- Drawing on the screen writes the pixels, then the request to show them, and ends. -/
theorem runFrom_draw (small : s.Small) (lies : d.LiesOn s) (m : Memory) :
    Attempt.runFrom ((draw s d).run MappedRegisters.answer) m =
      (.ok (), MappedRegisters.after m (plotted s d ++ presented d)) := by
  rw [(plots_draw s d).eq_making fun j hj => ?_, present_eq, ← plotted_eq, Routine.making_making,
    MappedRegisters.runFrom_making]
  · rfl
  · have fits := place_add_le small lies (length_drawn d ▸ hj)
    rw [Nat.zero_add]
    omega

/-- Each byte of the memory after a drawing is what the drawing lays there, or else what it was. -/
theorem byte_painted (small : s.Small) (lies : d.LiesOn s) (m : Memory) (x : Word) :
    (painted s d m).byte x = (d.lays? s x).getD (m.byte x) := by
  rw [painted, runFrom_draw small lies, MappedRegisters.after, List.foldl_append, Drawing.lays?,
    presented]
  have pixels := byte_after_plotted small lies m x
  cases d.sync with
  | false => exact pixels
  | true =>
    change ((MappedRegisters.after m (plotted s d)).setHalfWord syncAddress 1).byte x = _
    rw [Memory.byte_setHalfWord, pixels]
    simp only [true_and]
    split <;> rfl

/-! ## Parts of a drawing -/

def Drawing.above (d : Drawing) (h₁ : UInt32) (sync : Bool) : Drawing :=
  { d with h := h₁, pixels := d.pixels.map (·.take (d.w.toNat * h₁.toNat)), sync }

/-- The rows of a drawing below the first ones, with the rest of the pixels. -/
def Drawing.below (d : Drawing) (h₁ : UInt32) : Drawing :=
  { d with
    y := d.y + h₁, h := d.h - h₁, pixels := d.pixels.map (·.drop (d.w.toNat * h₁.toNat)) }

/-- What drawing on a screen comes to. -/
structure DrawsOnScreen (s : Screen) : Prop where
  /-- The size of the framebuffer is computed. -/
  memorySize : ∃ bytes, s.memorySize = .ok bytes ∧
    bytes.toNat = 4 * (s.width.toNat * s.height.toNat)
  /-- The cells of the screen lie in the framebuffer, and it in the address space. -/
  cells : ∀ row < s.height.toNat, ∀ col < s.width.toNat,
    s.cell row col + 4 ≤ DeviceMap.framebuffer.toNat + 4 * (s.width.toNat * s.height.toNat) ∧
      DeviceMap.framebuffer.toNat + 4 * (s.width.toNat * s.height.toNat) < UInt64.size
  /-- A drawing on the screen ends without an overflow. -/
  ends : ∀ d : Drawing, d.LiesOn s → ∀ m,
    (Attempt.runFrom ((draw s d).run MappedRegisters.answer) m).1 = .ok ()
  /-- Every pixel of the drawing is then in its cell. -/
  pixels : ∀ d : Drawing, d.LiesOn s → ∀ m row col p, d.pixelAt? row col = some p →
    (painted s d m).halfWord (s.cell row col).toUInt64 = p
  /-- The device is asked to show them, if it is to, and else not. -/
  sync : ∀ d : Drawing, d.LiesOn s → ∀ m,
    (painted s d m).halfWord syncAddress = if d.sync then 1 else m.halfWord syncAddress
  /-- Nothing else changes. -/
  rest : ∀ d : Drawing, d.LiesOn s → ∀ m (x : Word),
    (∀ row col, (d.pixelAt? row col).isSome = true → ¬(x - (s.cell row col).toUInt64).toNat < 4) →
    (d.sync = true → ¬(x - syncAddress).toNat < 4) → (painted s d m).byte x = m.byte x
  /-- Drawings with no pixel of the screen in common may change places. -/
  commute : ∀ c d : Drawing, c.LiesOn s → d.LiesOn s →
    (∀ row col, ¬(c.Covers row col ∧ d.Covers row col)) → ∀ m x,
      (painted s d (painted s c m)).byte x = (painted s c (painted s d m)).byte x
  /-- A drawing may be made in two parts, one behind the other. -/
  parts : ∀ d : Drawing, d.LiesOn s → ∀ h₁ ≤ d.h, ∀ sync : Bool, (sync = true → d.sync = true) →
    (d.above h₁ sync).LiesOn s ∧ (d.below h₁).LiesOn s ∧ ∀ m x,
      (painted s (d.below h₁) (painted s (d.above h₁ sync) m)).byte x = (painted s d m).byte x

section Parts

variable {x : Word} {h₁ : UInt32} {sync : Bool}

theorem not_in_sync (h : DeviceMap.framebuffer.toNat ≤ x.toNat) :
    ¬(x - syncAddress).toNat < 4 := by
  have base : DeviceMap.framebuffer.toNat = 0xa1000000 := rfl
  have place : syncAddress.toNat = 0xa0000104 := rfl
  rw [UInt64.toNat_sub, place]
  have := x.toNat_lt
  omega

/-- The pixels of a screen are not where the device is asked to show them. -/
theorem plots?_of_sync (h : (x - syncAddress).toNat < 4) : d.plots? s x = none :=
  if_neg fun above => not_in_sync above h

theorem lays?_of_not_sync (h : d.sync = true → ¬(x - syncAddress).toNat < 4) :
    d.lays? s x = d.plots? s x :=
  if_neg fun asked => h asked.1 asked.2

/-- What a drawing lays in the cell of one of its pixels. -/
theorem lays?_cell (small : s.Small) (lies : d.LiesOn s) {p : UInt32}
    (pixel : d.pixelAt? row col = some p) {i : Nat} (hi : i < 4) :
    d.lays? s ((s.cell row col).toUInt64 + i.toUInt64) = some (Word.byteAt p.toUInt64 i) := by
  obtain ⟨k, hk, found, rfl, rfl⟩ := exists_of_pixelAt? pixel
  rw [← place_eq_cell]
  have inside : ((place s d k).toUInt64 + i.toUInt64 - (place s d k).toUInt64).toNat = i :=
    Word.toNat_add_sub _ (Nat.lt_trans hi (by decide))
  have hit : ((place s d k).toUInt64 + i.toUInt64 - (place s d k).toUInt64).toNat < 4 :=
    inside.symm ▸ hi
  obtain ⟨above, -⟩ := (in_place_iff small lies hk _).mp hit
  rw [lays?_of_not_sync fun _ => not_in_sync above, plots?_eq_some_iff small lies]
  exact ⟨k, p, found, hit, by rw [inside]⟩

/-- Two drawings with no pixel in common lay nothing different at one address. -/
theorem lays?_unique {c : Drawing} (apart : ∀ row col, ¬(c.Covers row col ∧ d.Covers row col))
    (x : Word) : c.lays? s x = none ∨ d.lays? s x = none ∨ c.lays? s x = d.lays? s x := by
  by_cases near : (x - syncAddress).toNat < 4
  · simp only [Drawing.lays?, near, plots?_of_sync near]
    cases c.sync <;> cases d.sync <;> simp
  · rw [lays?_of_not_sync fun _ => near, lays?_of_not_sync fun _ => near]
    simp only [Drawing.plots?]
    split
    · rcases Decidable.not_and_iff_not_or_not.mp (apart _ _) with outside | outside
      · exact .inl (by rw [pixelAt?_of_not_covers outside]; rfl)
      · exact .inr (.inl (by rw [pixelAt?_of_not_covers outside]; rfl))
    · exact .inl rfl

theorem Drawing.LiesOn.above (lies : d.LiesOn s) (part : h₁ ≤ d.h) : (d.above h₁ sync).LiesOn s where
  width := lies.width
  height := Nat.le_trans (Nat.add_le_add_left (UInt32.le_iff_toNat_le.mp part) _) lies.height

theorem y_below (lies : d.LiesOn s) (part : h₁ ≤ d.h) :
    (d.below h₁).y.toNat = d.y.toNat + h₁.toNat := by
  have le := UInt32.le_iff_toNat_le.mp part
  have high := lies.height
  have fits := s.height.toNat_lt
  change (d.y + h₁).toNat = _
  rw [UInt32.toNat_add]
  omega

theorem h_below (part : h₁ ≤ d.h) : (d.below h₁).h.toNat = d.h.toNat - h₁.toNat :=
  UInt32.toNat_sub_of_le _ _ part

theorem Drawing.LiesOn.below (lies : d.LiesOn s) (part : h₁ ≤ d.h) : (d.below h₁).LiesOn s where
  width := lies.width
  height := by
    have le := UInt32.le_iff_toNat_le.mp part
    rw [y_below lies part, h_below part]
    have := lies.height
    omega

theorem covers_above :
    (d.above h₁ sync).Covers row col ↔
      (d.y.toNat ≤ row ∧ row < d.y.toNat + h₁.toNat) ∧
        d.x.toNat ≤ col ∧ col < d.x.toNat + d.w.toNat :=
  Iff.rfl

theorem covers_below (lies : d.LiesOn s) (part : h₁ ≤ d.h) :
    (d.below h₁).Covers row col ↔
      (d.y.toNat + h₁.toNat ≤ row ∧ row < d.y.toNat + d.h.toNat) ∧
        d.x.toNat ≤ col ∧ col < d.x.toNat + d.w.toNat := by
  have le := UInt32.le_iff_toNat_le.mp part
  rw [Drawing.Covers, y_below lies part, h_below part, Nat.add_assoc, Nat.add_sub_cancel' le]
  rfl

theorem getD_pixels_above (d : Drawing) (h₁ : UInt32) (sync : Bool) :
    (d.above h₁ sync).pixels.getD [] = (d.pixels.getD []).take (d.w.toNat * h₁.toNat) := by
  unfold Drawing.above
  cases d.pixels with
  | none => exact List.take_nil.symm
  | some => rfl

theorem getD_pixels_below (d : Drawing) (h₁ : UInt32) :
    (d.below h₁).pixels.getD [] = (d.pixels.getD []).drop (d.w.toNat * h₁.toNat) := by
  unfold Drawing.below
  cases d.pixels with
  | none => exact List.drop_nil.symm
  | some => rfl

theorem pixelAt?_above (part : h₁ ≤ d.h) (sync : Bool) (row col : Nat) :
    (d.above h₁ sync).pixelAt? row col =
      if row < d.y.toNat + h₁.toNat then d.pixelAt? row col else none := by
  have le := UInt32.le_iff_toNat_le.mp part
  split
  · next first =>
    have same : (d.above h₁ sync).Covers row col ↔ d.Covers row col := by
      rw [covers_above, Drawing.Covers]
      omega
    by_cases covers : d.Covers row col
    · rw [Drawing.pixelAt?, Drawing.pixelAt?, if_pos covers, if_pos (same.mpr covers),
        getD_pixels_above]
      obtain ⟨⟨top, -⟩, left, right⟩ := covers
      have rows : row - d.y.toNat < h₁.toNat := by omega
      have columns : col - d.x.toNat < d.w.toNat := by omega
      exact List.getElem?_take_of_lt (index_lt rows columns)
    · rw [pixelAt?_of_not_covers covers, pixelAt?_of_not_covers (mt same.mp covers)]
  · next later => exact pixelAt?_of_not_covers fun covers => later covers.1.2

theorem pixelAt?_below (lies : d.LiesOn s) (part : h₁ ≤ d.h) (row col : Nat) :
    (d.below h₁).pixelAt? row col =
      if row < d.y.toNat + h₁.toNat then none else d.pixelAt? row col := by
  split
  · next first =>
    refine pixelAt?_of_not_covers fun covers => ?_
    have top := ((covers_below lies part).mp covers).1.1
    omega
  · next later =>
    have same : (d.below h₁).Covers row col ↔ d.Covers row col := by
      rw [covers_below lies part, Drawing.Covers]
      omega
    obtain ⟨i, rows⟩ := Nat.exists_eq_add_of_le (Nat.not_lt.mp later)
    have number : (row - (d.y.toNat + h₁.toNat)) * d.w.toNat = i * d.w.toNat := by
      rw [rows, Nat.add_sub_cancel_left]
    have whole : (row - d.y.toNat) * d.w.toNat = d.w.toNat * h₁.toNat + i * d.w.toNat := by
      rw [rows, Nat.add_assoc, Nat.add_sub_cancel_left, Nat.add_mul, Nat.mul_comm d.w.toNat]
    rw [Drawing.pixelAt?, Drawing.pixelAt?, getD_pixels_below, y_below lies part,
      List.getElem?_drop]
    change (if _ then (d.pixels.getD [])[_ + ((_ * d.w.toNat) + (col - d.x.toNat))]? else none) = _
    rw [number, ← Nat.add_assoc, ← whole]
    simp only [same]

/-- A pixel of a drawing belongs to one of its parts. -/
theorem pixelAt?_parts (lies : d.LiesOn s) (part : h₁ ≤ d.h) (sync : Bool) (row col : Nat) :
    d.pixelAt? row col =
      ((d.below h₁).pixelAt? row col).or ((d.above h₁ sync).pixelAt? row col) := by
  rw [pixelAt?_below lies part, pixelAt?_above part]
  split
  · rfl
  · exact Option.or_none.symm

theorem plots?_parts (lies : d.LiesOn s) (part : h₁ ≤ d.h) (sync : Bool) (x : Word) :
    d.plots? s x = ((d.below h₁).plots? s x).or ((d.above h₁ sync).plots? s x) := by
  unfold Drawing.plots?
  split
  · dsimp only
    rw [pixelAt?_parts lies part sync, Option.map_or]
  · rfl

theorem lays?_parts (lies : d.LiesOn s) (part : h₁ ≤ d.h) (asked : sync = true → d.sync = true)
    (x : Word) :
    d.lays? s x = ((d.below h₁).lays? s x).or ((d.above h₁ sync).lays? s x) := by
  by_cases shown : d.sync = true ∧ (x - syncAddress).toNat < 4
  · have later : (d.below h₁).lays? s x = d.lays? s x :=
      (if_pos shown).trans (if_pos shown).symm
    rw [later, Drawing.lays?, if_pos shown, Option.some_or]
  · have silent : d.sync = true → ¬(x - syncAddress).toNat < 4 := fun h near => shown ⟨h, near⟩
    rw [lays?_of_not_sync silent, lays?_of_not_sync (d := d.below h₁) silent,
      lays?_of_not_sync (d := d.above h₁ sync) fun h => silent (asked h)]
    exact plots?_parts lies part sync x

end Parts

/-! ## Drawings on the screen of the device -/

theorem Screen.small_ofControl (control : UInt32) : (Screen.ofControl control).Small where
  width := by
    change (control &&& 0xffff).toNat < 2 ^ 16
    rw [UInt32.toNat_and]
    exact Nat.lt_of_le_of_lt Nat.and_le_right (by decide)
  height := by
    have bound := control.toNat_lt
    change (control >>> 16).toNat < 2 ^ 16
    rw [UInt32.toNat_shiftRight, Nat.shiftRight_eq_div_pow]
    change _ / 2 ^ 16 < _
    omega

theorem memorySize_eq (small : s.Small) :
    s.memorySize = .ok (4 * (s.width.toNat * s.height.toNat)).toUInt64 := by
  have bound := small.framebuffer_lt
  have computed := (Word.computes_mul s.width.toUInt64 s.height.toUInt64).bind
    (y := 4 * (s.width.toNat * s.height.toNat)) (k := fun pixels => Word.checkedMul pixels 4)
    (fun fits => by rw [UInt32.toNat_toUInt64, UInt32.toNat_toUInt64]; omega) fun pixels value => by
      have product := Word.computes_mul pixels 4
      rw [value, UInt32.toNat_toUInt64, UInt32.toNat_toUInt64, Nat.mul_comm] at product
      exact product
  exact computed.ok (by omega)

theorem halfWord_painted_sync (small : s.Small) (d : Drawing) (lies : d.LiesOn s) (m : Memory) :
    (painted s d m).halfWord syncAddress = if d.sync then 1 else m.halfWord syncAddress := by
  have inside {i : Nat} (hi : i < 4) : (syncAddress + i.toUInt64 - syncAddress).toNat = i :=
    Word.toNat_add_sub _ (Nat.lt_trans hi (by decide))
  cases asked : d.sync with
  | true =>
    refine Memory.halfWord_eq_of_byteAt fun i hi => ?_
    rw [byte_painted small lies, Drawing.lays?, inside hi, if_pos ⟨asked, hi⟩]
    rfl
  | false =>
    refine Memory.halfWord_congr fun i hi => ?_
    have silent : ¬d.sync = true := by rw [asked]; exact Bool.false_ne_true
    rw [byte_painted small lies, lays?_of_not_sync fun h => absurd h silent,
      plots?_of_sync (by rwa [inside hi])]
    rfl

theorem drawsOnScreen_of_small (small : s.Small) : DrawsOnScreen s where
  memorySize := ⟨_, memorySize_eq small,
    Word.toNat_toUInt64 (Nat.lt_of_le_of_lt (Nat.le_add_left _ _) small.framebuffer_lt)⟩
  cells row hr col hc := ⟨cell_lt hr hc, small.framebuffer_lt⟩
  ends d lies m := by rw [runFrom_draw small lies]
  pixels d lies m row col p pixel := Memory.halfWord_eq_of_byteAt fun i hi => by
    rw [byte_painted small lies, lays?_cell small lies pixel hi, Option.getD_some]
  sync := halfWord_painted_sync small
  rest d lies m x far silent := by
    rw [byte_painted small lies, lays?_of_not_sync silent]
    cases laid : d.plots? s x with
    | none => rfl
    | some b =>
      obtain ⟨k, p, found, hit, -⟩ := (plots?_eq_some_iff small lies).mp laid
      have pixel := (pixelAt?_of_lt (lt_count found)).2.trans found
      exact absurd (place_eq_cell s d k ▸ hit) (far _ _ (by rw [pixel]; rfl))
  commute c d hc hd apart m x := by
    simp only [byte_painted small hc, byte_painted small hd]
    rcases lays?_unique apart x with none | none | same
    · rw [none]
      rfl
    · rw [none]
      rfl
    · rw [same]
  parts d lies h₁ part sync asked :=
    ⟨lies.above part, lies.below part, fun m x => by
      rw [byte_painted small (lies.below part), byte_painted small (lies.above part),
        byte_painted small lies, lays?_parts lies part asked, Option.getD_or]⟩

/-- The device reports a screen that can be drawn on, whatever its control word is, and drawing on
this screen stays on it. -/
theorem drawsOnScreen_reported (m : Memory) :
    ∃ s, Attempt.runFrom (screen.run MappedRegisters.answer) m = (.ok s, m) ∧
      s = .ofControl (m.halfWord DeviceMap.display) ∧ DrawsOnScreen s :=
  ⟨_, rfl, rfl, drawsOnScreen_of_small (Screen.small_ofControl _)⟩

-- A rectangle that leaves the screen at the right runs over into the next row.
example : place ⟨4, 4⟩ ⟨3, 0, 2, 1, none, false⟩ 1 = Screen.cell ⟨4, 4⟩ 1 0 := by decide

end Display

end HartLayer
