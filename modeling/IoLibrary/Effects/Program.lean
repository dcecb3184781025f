import Mathlib.Data.BitVec
import Mathlib.Tactic.Common

/-! Programs over a memory and an environment. A program updates the memory by
atomic steps, calls the environment and continues on its answer. Loops of a
modelled program are unrolled up to a bound; `cut` marks a run stopped there, so
that what holds for every bound holds for every finite part of an endless run. -/
namespace IoLibrary.Effects

inductive Prog (M E : Type) (R : E → Type) (α : Type) : Type
  | ret (a : α)
  | mem (f : M → M) (k : M → Prog M E R α)
  | call (e : E) (k : R e → Prog M E R α)
  | cut

namespace Prog
variable {M E : Type} {R : E → Type} {α β γ : Type}

/-- The continuation of a memory step receives the value the memory had before it. -/
def bind : Prog M E R α → (α → Prog M E R β) → Prog M E R β
  | ret a, f => f a
  | mem g k, f => mem g fun m => (k m).bind f
  | call e k, f => call e fun x => (k x).bind f
  | cut, _ => cut

instance : Monad (Prog M E R) where
  pure := ret
  bind := bind

def get : Prog M E R M := mem id ret
def modify (f : M → M) : Prog M E R Unit := mem f fun _ => ret ()
def perform (e : E) : Prog M E R (R e) := call e ret

/-- One turn of a loop: go on from a new loop state, or leave with a result. -/
inductive Turn (σ α : Type) : Type
  | again (s : σ)
  | leave (a : α)

/-- Repeat `body` until it leaves, at most `n` times. -/
def loop {σ : Type} (body : σ → Prog M E R (Turn σ α)) : ℕ → σ → Prog M E R α
  | 0, _ => cut
  | n + 1, s => (body s).bind fun
    | .again s' => loop body n s'
    | .leave a => ret a

/-- Run `body` on `n` successive indices from `i`, up to the first that gives a result. -/
def each (body : ℕ → Prog M E R (Option α)) : ℕ → ℕ → Prog M E R (Option α)
  | 0, _ => ret none
  | n + 1, i => (body i).bind fun
    | some a => ret (some a)
    | none => each body n (i + 1)

private theorem bind_bind (p : Prog M E R α) (f : α → Prog M E R β) (g : β → Prog M E R γ) :
    (p.bind f).bind g = p.bind fun a => (f a).bind g := by
  induction p with
  | ret a => rfl
  | mem h k ih => exact congrArg (mem h) (funext ih)
  | call e k ih => exact congrArg (call e) (funext ih)
  | cut => rfl

private theorem bind_ret (p : Prog M E R α) : p.bind ret = p := by
  induction p with
  | ret a => rfl
  | mem h k ih => exact congrArg (mem h) (funext ih)
  | call e k ih => exact congrArg (call e) (funext ih)
  | cut => rfl

instance : LawfulMonad (Prog M E R) :=
  LawfulMonad.mk' _ bind_ret (fun _ _ => rfl) bind_bind

end Prog

/-- What the environment may answer: from memory `m` and environment state `w`, call `e`
may return `x` and leave the environment in state `w'`. -/
def Env (M W E : Type) (R : E → Type) : Type := M → W → (e : E) → R e → W → Prop

/-- `Eval env p m w r m' w'`: a run of `p` returns `r`, or is cut when `r` is `none`. -/
inductive Eval {M W E : Type} {R : E → Type} {α : Type} (env : Env M W E R) :
    Prog M E R α → M → W → Option α → M → W → Prop
  | ret {a m w} : Eval env (.ret a) m w (some a) m w
  | mem {f k m w r m' w'} (rest : Eval env (k m) (f m) w r m' w') :
      Eval env (.mem f k) m w r m' w'
  | call {e k m w x w₁ r m' w'} (step : env m w e x w₁) (rest : Eval env (k x) m w₁ r m' w') :
      Eval env (.call e k) m w r m' w'
  | cut {m w} : Eval env .cut m w none m w

end IoLibrary.Effects
