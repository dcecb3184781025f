import IoLibrary.Control
import IoLibrary.Effects.Locks

/-! The locks of the driver and their order: the global lock, then the socket locks in ascending
socket order. -/
namespace IoLibrary
open Effects

inductive Lock
  | global
  | sock (n : ℕ)

def Lock.rank : Lock → ℕ
  | .global => 0
  | .sock n => n + 1

lemma Lock.rank_injective : Function.Injective Lock.rank := by
  rintro (_ | n) (_ | k) h
  · rfl
  · simp [rank] at h
  · simp [rank] at h
  · obtain rfl : n = k := by simpa [rank] using h
    rfl

instance : LinearOrder Lock := LinearOrder.lift' Lock.rank Lock.rank_injective

lemma Lock.lt_iff {l l' : Lock} : l < l' ↔ l.rank < l'.rank := Iff.rfl

/-- What a call of the driver does to the locks. -/
def Io.lockAct : Io → LockAct Lock
  | .sockLock n => .acquire (.sock n)
  | .sockUnlock n => .release (.sock n)
  | .globalLock => .acquire .global
  | .globalUnlock => .release .global
  | _ => .other

/-- A call that is no lock callback. -/
def Lockless (e : Io) : Prop := e.lockAct = .other

/-- Takes its locks in order and returns them all, within the footprint. -/
abbrev Balanced (U : (Driver → Driver) → Prop) (C : Io → Prop) {α : Type} (p : Drv α) : Prop :=
  Returns Io.lockAct U C p

variable {U : (Driver → Driver) → Prop} {C C' : Io → Prop} {α : Type}

lemma balanced_pure (a : α) : Balanced U C (pure a) := rfl

lemma balanced_ite {c : Prop} [Decidable c] {p q : Drv α} (hp : Balanced U C p)
    (hq : Balanced U C q) : Balanced U C (if c then p else q) := follows_ite hp hq

lemma balanced_bind {β : Type} {p : Drv α} {f : α → Drv β} (hp : Balanced U C p)
    (hf : ∀ a, Balanced U C (f a)) : Balanced U C (p >>= f) :=
  follows_bind hp fun a held h => by
    subst h
    exact hf a

lemma balanced_of_within {p : Drv α} (hp : Within U C' p) (hC : ∀ e, C' e → C e ∧ Lockless e) :
    Balanced U C p := returns_of_within hp hC

/-- The body of an operation on one socket. -/
lemma balanced_locked {sn : ℕ} {body : Drv α} (hC : C (.sockLock sn) ∧ C (.sockUnlock sn))
    (hbody : Within U C' body) (hC' : ∀ e, C' e → C e ∧ Lockless e) :
    Balanced U C (locked sn body) := by
  have inner : Orderly Io.lockAct U C body {Lock.sock sn} fun _ held => held = {Lock.sock sn} :=
    orderly_of_within hbody hC'
  exact orderly_section rfl rfl hC (by simp) (by simpa using inner) fun _ => rfl

lemma balanced_globalLocked {body : Drv α} (hC : C .globalLock ∧ C .globalUnlock)
    (hbody : Within U C' body) (hC' : ∀ e, C' e → C e ∧ Lockless e) :
    Balanced U C (globalLocked body) := by
  have inner : Orderly Io.lockAct U C body {Lock.global} fun _ held => held = {Lock.global} :=
    orderly_of_within hbody hC'
  exact orderly_section rfl rfl hC (by simp) (by simpa using inner) fun _ => rfl

end IoLibrary
