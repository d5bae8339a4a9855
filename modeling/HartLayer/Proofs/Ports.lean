import HartLayer.Device.Access

/-!
# What a port sees of a routine

A port answers accesses and may change its state with each of them. `Routine.sees` gives the end of
a routine at a port and the accesses that the port sees, and `Routine.leaves` the state behind it. A
routine that makes accesses whatever the answers is seen to make just these
(`Routine.sees_making`).
-/

namespace HartLayer.Routine

variable {α σ : Type}

/-- Makes accesses whose answers do not matter, and goes on. -/
def making (accesses : List Access) (rest : Routine α) : Routine α :=
  accesses.foldr (fun a r => .ask a fun _ => r) rest

/-- A port whose accesses are noted. -/
def watched (port : (a : Access) → StateM σ a.Answer) (a : Access) :
    Attempt (σ × List Access) a.Answer :=
  fun s => (.ok (port a s.1).1, (port a s.1).2, s.2 ++ [a])

/-- How a routine ends at a port, and the accesses that the port sees. -/
def sees (port : (a : Access) → StateM σ a.Answer) (r : Routine α) (start : σ) :
    Except Fault α × List Access :=
  let ended := Attempt.runFrom (r.run (watched port)) (start, [])
  (ended.1, ended.2.2)

def leaves (port : (a : Access) → StateM σ a.Answer) (r : Routine α) (start : σ) : σ :=
  (Attempt.runFrom (r.run (watched port)) (start, [])).2.1

/-- An access is noted, and the routine goes on with its answer. -/
theorem runFrom_ask (port : (a : Access) → StateM σ a.Answer) (a : Access)
    (next : a.Answer → Routine α) (s : σ) (seen : List Access) :
    Attempt.runFrom (Program.run (watched port) (.ask a next)) (s, seen) =
      Attempt.runFrom ((next (port a s).1).run (watched port)) ((port a s).2, seen ++ [a]) := rfl

theorem making_making (first second : List Access) (rest : Routine α) :
    making first (making second rest) = making (first ++ second) rest :=
  (List.foldr_append ..).symm

theorem runFrom_making (port : (a : Access) → StateM σ a.Answer) (accesses : List Access)
    (rest : Routine α) (s : σ) (seen : List Access) :
    ∃ t, Attempt.runFrom ((making accesses rest).run (watched port)) (s, seen) =
      Attempt.runFrom (rest.run (watched port)) (t, seen ++ accesses) := by
  induction accesses generalizing s seen with
  | nil => exact ⟨s, by rw [List.append_nil]; rfl⟩
  | cons a accesses ih =>
    obtain ⟨t, e⟩ := ih (port a s).2 (seen ++ [a])
    rw [List.append_assoc] at e
    exact ⟨t, e⟩

/-- A port sees the accesses that are made, in order. -/
theorem sees_making (port : (a : Access) → StateM σ a.Answer) (accesses : List Access)
    {rest : Routine α} {result : Except Fault α}
    (ends : ∀ s, Attempt.runFrom (rest.run (watched port)) s = (result, s)) (start : σ) :
    sees port (making accesses rest) start = (result, accesses) := by
  obtain ⟨t, e⟩ := runFrom_making port accesses rest start []
  rw [sees, e, ends]
  rfl

end HartLayer.Routine
