import Mathlib.Algebra.Group.Nat.Defs
import HartLayer.Device.Display
import HartLayer.Proofs.Ports

/-!
# What drawing writes

Pixel `k` of a drawing has its place in the framebuffer, a number that may be too large for an
address (`place`). Drawing writes the pixels in order, each at its place, and stops with an overflow
at the first place that is no address (`Plots`, `plots_draw`), although the place is computed row
by row and in several steps, each of which may overflow on its own.

* `Computes e x` : a checked computation gives the number `x`, or overflows as `x` is too large;
* `drawsInOrder_draw` : what any port sees of a drawing.
-/

namespace HartLayer

/-! ## Checked computations -/

namespace Word

/-- A computation gives a number if that fits a word, and overflows else. -/
def Computes (e : Except Overflow Word) (x : Nat) : Prop :=
  if x < UInt64.size then e = .ok x.toUInt64 else ∃ o, e = .error o

variable {e : Except Overflow Word} {x y : Nat}

theorem Computes.ok (h : Computes e x) (fits : x < UInt64.size) : e = .ok x.toUInt64 := by
  rwa [Computes, if_pos fits] at h

theorem Computes.error (h : Computes e x) (large : UInt64.size ≤ x) : ∃ o, e = .error o := by
  rwa [Computes, if_neg (Nat.not_lt.mpr large)] at h

theorem computes_of_ok_iff (h : ∀ c, e = .ok c ↔ x = c.toNat) : Computes e x := by
  unfold Computes
  split
  · next fits => rw [h, toNat_toUInt64 fits]
  · next large =>
    cases e with
    | error o => exact ⟨o, rfl⟩
    | ok c =>
      have value := (h c).mp rfl
      exact absurd (value ▸ c.toNat_lt) large

theorem computes_add (a b : Word) : Computes (checkedAdd a b) (a.toNat + b.toNat) :=
  computes_of_ok_iff fun _ => checkedAdd_eq_ok_iff

theorem computes_mul (a b : Word) : Computes (checkedMul a b) (a.toNat * b.toNat) :=
  computes_of_ok_iff fun _ => checkedMul_eq_ok_iff

/-- A step on the way to a number does not overflow before the number does. -/
theorem Computes.bind {k : Word → Except Overflow Word} (h : Computes e x)
    (fits : y < UInt64.size → x < UInt64.size)
    (rest : ∀ a : Word, a.toNat = x → Computes (k a) y) : Computes (e >>= k) y := by
  by_cases small : x < UInt64.size
  · rw [h.ok small]
    exact rest _ (toNat_toUInt64 small)
  · obtain ⟨o, overflow⟩ := h.error (Nat.not_lt.mp small)
    rw [Computes, if_neg fun fit => small (fits fit), overflow]
    exact ⟨o, rfl⟩

end Word

namespace Routine

variable {α : Type} {e : Except Overflow Word} {x : Nat}

theorem checked_of_lt (h : Word.Computes e x) (fits : x < UInt64.size) (k : Word → Routine α) :
    checked e >>= k = k x.toUInt64 := by
  rw [h.ok fits]
  rfl

theorem checked_of_le (h : Word.Computes e x) (large : UInt64.size ≤ x) (k : Word → Routine α) :
    ∃ o, checked e >>= k = .fail (.overflow o) := by
  obtain ⟨o, overflow⟩ := h.error large
  exact ⟨o, by rw [overflow]; rfl⟩

end Routine

namespace Display

/-! ## Places -/

/-- The place of pixel `k` of a drawing. -/
def place (s : Screen) (d : Drawing) (k : Nat) : Nat :=
  DeviceMap.framebuffer.toNat +
    4 * (s.width.toNat * (d.y.toNat + k / d.w.toNat) + d.x.toNat + k % d.w.toNat)

def Drawing.count (d : Drawing) : Nat :=
  match d.pixels with
  | none => 0
  | some pixels => if d.w = 0 then 0 else min pixels.length (d.w.toNat * d.h.toNat)

def Drawing.drawn (d : Drawing) : List UInt32 := (d.pixels.getD []).take d.count

/-- What has the device show the framebuffer, if it is asked to. -/
def Drawing.present (d : Drawing) : Routine Unit :=
  if d.sync then Routine.access (.write32 syncAddress 1) else .done ()

theorem computes_lineAddress (s : Screen) (d : Drawing) {i : Nat} (hi : i < 2 ^ 32) :
    Word.Computes (lineAddress s d i) (DeviceMap.framebuffer.toNat +
      4 * (s.width.toNat * (d.y.toNat + i) + d.x.toNat)) := by
  have full : UInt64.size = 2 ^ 64 := rfl
  have four : (4 : Word).toNat = 4 := rfl
  have hy := d.y.toNat_lt
  have number : i.toUInt64.toNat = i := Word.toNat_toUInt64 (by omega)
  unfold lineAddress
  refine (Word.computes_add _ _).bind (fun _ => ?_) fun row hrow => ?_
  · rw [number, UInt32.toNat_toUInt64]
    omega
  rw [number, UInt32.toNat_toUInt64] at hrow
  refine (Word.computes_mul _ _).bind (fun _ => ?_) fun start hstart => ?_
  · rw [hrow, UInt32.toNat_toUInt64]
    omega
  rw [hrow, UInt32.toNat_toUInt64] at hstart
  refine (Word.computes_add _ _).bind (fun _ => ?_) fun first hfirst => ?_
  · rw [hstart, UInt32.toNat_toUInt64]
    omega
  rw [hstart, UInt32.toNat_toUInt64] at hfirst
  refine (Word.computes_mul _ _).bind (fun _ => ?_) fun offset hoffset => ?_
  · rw [hfirst, four]
    omega
  rw [hfirst, four] at hoffset
  rw [← hoffset]
  exact Word.computes_add _ _

theorem computes_pixelAddress (line : Word) {j : Nat} (hj : j < 2 ^ 32) :
    Word.Computes (pixelAddress line j) (line.toNat + 4 * j) := by
  have full : UInt64.size = 2 ^ 64 := rfl
  have four : (4 : Word).toNat = 4 := rfl
  have number : j.toUInt64.toNat = j := Word.toNat_toUInt64 (by omega)
  unfold pixelAddress
  refine (Word.computes_mul _ _).bind (fun _ => ?_) fun offset hoffset => ?_
  · rw [number, four]
    omega
  rw [number, four] at hoffset
  rw [← hoffset]
  exact Word.computes_add _ _

/-- The row and the column of a pixel are told from its number. -/
theorem row_and_column {w i j : Nat} (hj : j < w) :
    (i * w + j) / w = i ∧ (i * w + j) % w = j :=
  (Nat.div_mod_unique (Nat.zero_lt_of_lt hj)).mpr ⟨by rw [Nat.mul_comm, Nat.add_comm], hj⟩

/-- Within row `i` the places follow one another. -/
theorem place_row (s : Screen) (d : Drawing) {i j : Nat} (hj : j < d.w.toNat) :
    place s d (i * d.w.toNat + j) = DeviceMap.framebuffer.toNat +
      4 * (s.width.toNat * (d.y.toNat + i) + d.x.toNat) + 4 * j := by
  obtain ⟨row, column⟩ := row_and_column (i := i) hj
  rw [place, row, column]
  omega

/-! ## The writes of a drawing -/

/-- A routine that writes pixels, from pixel `k` on, each at its place, and then goes on with
`rest`, unless a place is no address. -/
inductive Plots (place : Nat → Nat) (rest : Routine Unit) : Nat → List UInt32 → Routine Unit → Prop
  | done (k : Nat) : Plots place rest k [] rest
  | write {k : Nat} {p : UInt32} {ps : List UInt32} {r : Routine Unit} :
    place k < UInt64.size → Plots place rest (k + 1) ps r →
      Plots place rest k (p :: ps) (.ask (.write32 (place k).toUInt64 p) fun _ => r)
  | overflow {k : Nat} {p : UInt32} {ps : List UInt32} {o : Overflow} :
    UInt64.size ≤ place k → Plots place rest k (p :: ps) (.fail (.overflow o))

theorem Plots.append {place : Nat → Nat} {middle rest r : Routine Unit} {k : Nat}
    {ps qs : List UInt32} (first : Plots place middle k ps r)
    (second : Plots place rest (k + ps.length) qs middle) :
    Plots place rest k (ps ++ qs) r := by
  induction first with
  | done k => exact second
  | write fits _ ih =>
    refine .write fits (ih ?_)
    rwa [List.length_cons, Nat.add_comm _ 1, ← Nat.add_assoc] at second
  | overflow large => exact .overflow large

theorem plots_drawPixels {place : Nat → Nat} {line : Word} {rest : Routine Unit} {j k : Nat}
    {ps : List UInt32} (short : j + ps.length ≤ 2 ^ 32)
    (places : ∀ m < ps.length, place (k + m) = line.toNat + 4 * (j + m)) :
    Plots place rest k ps (drawPixels line j ps >>= fun _ => rest) := by
  induction ps generalizing j k with
  | nil => exact .done k
  | cons p ps ih =>
    rw [List.length_cons] at short
    have here : place k = line.toNat + 4 * j := places 0 (Nat.succ_pos _)
    have computed := computes_pixelAddress line (show j < 2 ^ 32 by omega)
    rw [← here] at computed
    have later := ih (j := j + 1) (k := k + 1) (by omega) fun m hm => by
      rw [Nat.add_assoc, Nat.add_comm 1 m, places (m + 1) (Nat.succ_lt_succ hm)]
      omega
    rw [drawPixels]
    by_cases fits : place k < UInt64.size
    · rw [Routine.checked_of_lt computed fits]
      exact .write fits later
    · obtain ⟨o, failed⟩ := Routine.checked_of_le computed (Nat.not_lt.mp fits) _
      rw [failed]
      exact .overflow (Nat.not_lt.mp fits)

/-- A row is written from where its line starts, or not at all. -/
theorem plots_row {s : Screen} {d : Drawing} {rest : Routine Unit} {i : Nat} {row : List UInt32}
    (hi : i < 2 ^ 32) (short : row.length ≤ d.w.toNat) (occupied : row ≠ []) :
    Plots (place s d) rest (i * d.w.toNat) row
      (Routine.checked (lineAddress s d i) >>= fun line =>
        drawPixels line 0 row >>= fun _ => rest) := by
  have narrow := d.w.toNat_lt
  have pos := List.length_pos_iff.mpr occupied
  have computed := computes_lineAddress s d hi
  have first : place s d (i * d.w.toNat) = _ := place_row s d (i := i) (j := 0) (by omega)
  rw [Nat.mul_zero, Nat.add_zero] at first
  rw [← first] at computed
  by_cases fits : place s d (i * d.w.toNat) < UInt64.size
  · rw [Routine.checked_of_lt computed fits]
    refine plots_drawPixels (by omega) fun m hm => ?_
    rw [place_row s d (by omega), ← first, Word.toNat_toUInt64 fits, Nat.zero_add]
  · obtain ⟨o, failed⟩ := Routine.checked_of_le computed (Nat.not_lt.mp fits) _
    rw [failed]
    cases row with
    | nil => exact absurd rfl occupied
    | cons p ps => exact .overflow (Nat.not_lt.mp fits)

theorem rows_nil (w h : Nat) : rows w h [] = [] := by
  cases h <;> rfl

theorem drawRows_cons (s : Screen) (d : Drawing) (i : Nat) (row : List UInt32)
    (rows : List (List UInt32)) (rest : Routine Unit) :
    (drawRows s d i (row :: rows) >>= fun _ => rest) =
      Routine.checked (lineAddress s d i) >>= fun line =>
        drawPixels line 0 row >>= fun _ => drawRows s d (i + 1) rows >>= fun _ => rest := by
  rw [drawRows]
  simp only [Program.bind_eq_andThen, Program.andThen_assoc]

/-- Rows that are written one after the other are their pixels in order. -/
theorem plots_drawRows (s : Screen) {d : Drawing} (rest : Routine Unit) (ps : List UInt32)
    (wide : 0 < d.w.toNat) {h i : Nat} (short : i + h ≤ 2 ^ 32) :
    Plots (place s d) rest (i * d.w.toNat) (ps.take (d.w.toNat * h))
      (drawRows s d i (rows d.w.toNat h ps) >>= fun _ => rest) := by
  induction h generalizing i ps with
  | zero => exact .done _
  | succ h ih =>
    cases ps with
    | nil =>
      rw [List.take_nil]
      exact .done _
    | cons p ps =>
      have later := ih ((p :: ps).drop d.w.toNat) (i := i + 1) (by omega)
      have occupied : (p :: ps).take d.w.toNat ≠ [] := by simp [Nat.ne_of_gt wide]
      rw [Nat.mul_succ, Nat.add_comm (d.w.toNat * h), List.take_add, rows, drawRows_cons]
      refine (plots_row (by omega) (List.length_take_le _ _) occupied).append ?_
      by_cases full : d.w.toNat ≤ (p :: ps).length
      · rw [List.length_take, Nat.min_eq_left full, ← Nat.succ_mul]
        exact later
      · -- this was the last row
        rw [List.drop_of_length_le (by omega), rows_nil, List.take_nil]
        exact .done _

/-- The count of pixels, in the terms of the rows. -/
theorem drawn_eq (d : Drawing) {pixels : List UInt32} (h : d.pixels = some pixels) :
    d.drawn = pixels.take (d.w.toNat * d.h.toNat) := by
  unfold Drawing.drawn Drawing.count
  rw [h]
  dsimp only [Option.getD_some]
  split
  · next none => simp [none]
  · rw [Nat.min_comm, ← List.take_take, List.take_length]

theorem plots_draw (s : Screen) (d : Drawing) :
    Plots (place s d) d.present 0 d.drawn (draw s d) := by
  have rest : d.present = if d.sync then Routine.access (.write32 syncAddress 1) else pure () := rfl
  unfold draw
  rw [rest]
  cases pixels : d.pixels with
  | none =>
    have nothing : d.drawn = [] := by simp [Drawing.drawn, pixels]
    rw [nothing]
    exact .done 0
  | some ps =>
    rw [drawn_eq d pixels]
    have number : 0 < d.w ↔ 0 < d.w.toNat := UInt32.lt_iff_toNat_lt
    by_cases wide : 0 < d.w
    · have rows := plots_drawRows s d.present ps (number.mp wide) (h := d.h.toNat) (i := 0)
        (by have := d.h.toNat_lt; omega)
      rw [Nat.zero_mul] at rows
      dsimp only
      rw [if_pos wide]
      exact rows
    · have none : d.w.toNat = 0 := Nat.eq_zero_of_not_pos (mt number.mpr wide)
      dsimp only
      rw [if_neg wide, none, Nat.zero_mul, List.take_zero]
      exact .done 0

/-- The writes of pixels, from pixel `k` on. -/
def writesFrom (place : Nat → Nat) : Nat → List UInt32 → List Access
  | _, [] => []
  | k, p :: ps => .write32 (place k).toUInt64 p :: writesFrom place (k + 1) ps

theorem writesFrom_eq_mapIdx (place : Nat → Nat) (k : Nat) (ps : List UInt32) :
    writesFrom place k ps = ps.mapIdx fun j p => .write32 (place (k + j)).toUInt64 p := by
  induction ps generalizing k with
  | nil => rfl
  | cons p ps ih => simp [writesFrom, ih, List.mapIdx_cons, Nat.add_assoc, Nat.add_comm 1]

section Making

variable {place : Nat → Nat} {rest r : Routine Unit} {k : Nat} {ps : List UInt32}

theorem Plots.eq_making (h : Plots place rest k ps r)
    (fits : ∀ j < ps.length, place (k + j) < UInt64.size) :
    r = Routine.making (writesFrom place k ps) rest := by
  induction h with
  | done k => rfl
  | @write k p ps r _ _ ih =>
    rw [ih fun j hj => ?_]
    · rfl
    · rw [Nat.add_assoc, Nat.add_comm 1 j]
      exact fits (j + 1) (Nat.succ_lt_succ hj)
  | overflow large => exact absurd (fits 0 (Nat.succ_pos _)) (Nat.not_lt.mpr large)

theorem Plots.eq_making_take (h : Plots place rest k ps r) {m : Nat} (hm : m < ps.length)
    (fits : ∀ j < m, place (k + j) < UInt64.size) (large : UInt64.size ≤ place (k + m)) :
    ∃ o, r = Routine.making ((writesFrom place k ps).take m) (.fail (.overflow o)) := by
  induction h generalizing m with
  | done k => exact absurd hm (Nat.not_lt_zero m)
  | @write k p ps r here _ ih =>
    cases m with
    | zero => exact absurd here (Nat.not_lt.mpr large)
    | succ m =>
      have shift (j : Nat) : k + (j + 1) = k + 1 + j := by omega
      obtain ⟨o, e⟩ := ih (Nat.lt_of_succ_lt_succ hm)
        (fun j hj => shift j ▸ fits (j + 1) (Nat.succ_lt_succ hj)) (shift m ▸ large)
      rw [e]
      exact ⟨o, rfl⟩
  | @overflow k p ps o here =>
    cases m with
    | zero => exact ⟨o, rfl⟩
    | succ m => exact absurd (fits 0 (Nat.succ_pos m)) (Nat.not_lt.mpr here)

end Making

/-! ## What a port sees -/

/-- The writes of the pixels that are drawn. -/
def plotted (s : Screen) (d : Drawing) : List Access :=
  d.drawn.mapIdx fun k p => .write32 (place s d k).toUInt64 p

/-- The write that has the device show the framebuffer, if it is asked to. -/
def presented (d : Drawing) : List Access := if d.sync then [.write32 syncAddress 1] else []

/-- What drawing does, at whatever port. -/
structure DrawsInOrder (s : Screen) (d : Drawing) : Prop where
  /-- If every place is an address, each pixel is written at its place, in order, and the device is
  asked to show them behind the last one. -/
  complete : (∀ k < d.count, place s d k < UInt64.size) →
    ∀ {σ : Type} (port : (a : Access) → StateM σ a.Answer) (start : σ),
      Routine.sees port (draw s d) start = (.ok (), plotted s d ++ presented d)
  /-- Else the pixels before the first place that is no address are written, and drawing ends there
  with an overflow. -/
  cut : ∀ k < d.count, (∀ j < k, place s d j < UInt64.size) → UInt64.size ≤ place s d k →
    ∃ o, ∀ {σ : Type} (port : (a : Access) → StateM σ a.Answer) (start : σ),
      Routine.sees port (draw s d) start = (.error (.overflow o), (plotted s d).take k)

theorem length_drawn (d : Drawing) : d.drawn.length = d.count := by
  unfold Drawing.drawn Drawing.count
  cases d.pixels with
  | none => rfl
  | some pixels =>
    dsimp only [Option.getD_some]
    split
    · rfl
    · rw [List.length_take]
      omega

theorem plotted_eq (s : Screen) (d : Drawing) :
    plotted s d = writesFrom (place s d) 0 d.drawn := by
  simp [plotted, writesFrom_eq_mapIdx]

theorem present_eq (d : Drawing) : d.present = Routine.making (presented d) (.done ()) := by
  unfold Drawing.present presented
  split <;> rfl

/-- Whatever is drawn on whatever screen, a port sees the pixels that are drawn, each at its place
in the framebuffer, one after the other, and then the request to show them. -/
theorem drawsInOrder_draw (s : Screen) (d : Drawing) : DrawsInOrder s d := by
  have plots := plots_draw s d
  constructor
  · intro fits σ port start
    rw [plots.eq_making fun j hj => ?_, present_eq, ← plotted_eq, Routine.making_making]
    · exact Routine.sees_making port _ (fun _ => rfl) start
    · rw [Nat.zero_add]
      exact fits j (length_drawn d ▸ hj)
  · intro k hk fits large
    obtain ⟨o, e⟩ := plots.eq_making_take (m := k) (by rwa [length_drawn])
      (by simpa only [Nat.zero_add] using fits) (by rwa [Nat.zero_add])
    refine ⟨o, fun port start => ?_⟩
    rw [e, ← plotted_eq]
    exact Routine.sees_making port _ (fun _ => rfl) start

-- The first pixel takes the last word of the address space, so the second has no place.
example :
    let d : Drawing := ⟨0x57bfffff, 0x7fffffff, 2, 2, some [1, 2, 3, 4], true⟩
    place ⟨0x80000000, 0⟩ d 0 = 2 ^ 64 - 4 ∧ place ⟨0x80000000, 0⟩ d 1 = 2 ^ 64 := by decide

end Display

end HartLayer
