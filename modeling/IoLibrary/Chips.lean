import IoLibrary.Calls
import IoLibrary.Effects.Exec

/-! Chips for runs that are computed: what they answer depends on the trace so far. -/
namespace IoLibrary
open Effects

def recorded (answer : IoTrace → (e : Io) → e.Res) : Handler Driver IoTrace Io Io.Res :=
  fun m t e => (answer t e, t ++ [⟨m.toGlobals, e, answer t e⟩])

lemma eval_recorded {α : Type} (answer : IoTrace → (e : Io) → e.Res) (p : Drv α) (m : Driver)
    (t : IoTrace) : Eval anyChip p m t (exec (recorded answer) p m t).1
      (exec (recorded answer) p m t).2.1 (exec (recorded answer) p m t).2.2 :=
  eval_exec (fun _ _ _ => ⟨trivial, rfl⟩) p m t

/-- A chip whose registers read as given. No transfer fails, and each event takes a while. -/
def holding (reg : Addr → Byte) (buf : Addr → List Byte) (us : ℕ) (t : IoTrace) : (e : Io) → e.Res
  | .read8 a => (reg a, false)
  | .readBuf a len => (frameBytes len (buf a), false)
  | .write8 _ _ | .writeBuf _ _ => false
  | .now => us * t.length
  | .wait | .phyLink _ | .sockLock _ | .sockUnlock _ | .globalLock | .globalUnlock => ()

/-- A run that is computed to its end. -/
lemma eval_of_exec {α : Type} {answer : IoTrace → (e : Io) → e.Res} {p : Drv α} {m : Driver}
    {t : IoTrace} {r : α} (h : (exec (recorded answer) p m t).1 = some r) :
    Eval anyChip p m t (some r) (exec (recorded answer) p m t).2.1
      (exec (recorded answer) p m t).2.2 := by
  rw [← h]
  exact eval_recorded answer p m t

end IoLibrary
