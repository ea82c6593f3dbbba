import Mathlib.Logic.Function.Basic
import TenantBilling.Proofs.Execution

/-! Programs that take turns in one world. In a turn a program makes its next call, and goes on
with the answer; only a program that waits for a lock goes on when it is let in. Idle locks may
be evicted between any two turns. -/

namespace TenantBilling

namespace World

/-- Whether a call has to wait: for a lock that another caller has, or for the catalog. -/
def blocks (w : World) : Call → Bool
  | .acquire ticket => !(w.locks.poll ticket).2
  | .enterCatalog => w.catalogTaken
  | _ => false

end World

/-- The result of a program that has ended. -/
def Proc.result? {α : Type} : Proc α → Option α
  | .done a => some a
  | .call _ _ => none

theorem Proc.result?_eq_some {α : Type} {p : Proc α} {a : α} (h : p.result? = some a) :
    p = .done a := by
  cases p with
  | done b => exact congrArg done (Option.some.inj h)
  | call q next => cases h

/-- Programs in the same world. -/
structure Crowd (ι α : Type) where
  world : World
  tasks : ι → Proc α
  /-- The calls that were answered, and whose they were. -/
  log : List (ι × Call)

inductive Turn (ι : Type) where
  | task (i : ι)
  | evictLocks

namespace Crowd
variable {ι α : Type} [DecidableEq ι] {c : Crowd ι α} {i : ι} {q : Call}
  {next : q.Answer → Proc α}

def step (c : Crowd ι α) : Turn ι → Crowd ι α
  | .evictLocks => { c with world := c.world.evictLocks.2 }
  | .task i =>
    match c.tasks i with
    | .done _ => c
    | .call q next =>
      let (a, world) := c.world.answer q
      -- a caller that has to wait stands in line from now on
      if c.world.blocks q then { c with world }
      else ⟨world, Function.update c.tasks i (next a), c.log ++ [(i, q)]⟩

/-- The crowd after some turns. -/
def after (c : Crowd ι α) : List (Turn ι) → Crowd ι α
  | [] => c
  | turn :: turns => (c.step turn).after turns

/-- Who acquired a lock, in that order. -/
def order (c : Crowd ι α) : List ι :=
  c.log.filterMap fun entry => match entry.2 with
    | .acquire _ => some entry.1
    | _ => none

theorem step_done {a : α} (h : c.tasks i = .done a) : c.step (.task i) = c := by
  simp only [step, h]

theorem step_blocked (h : c.tasks i = .call q next) (waits : c.world.blocks q = true) :
    c.step (.task i) = { c with world := (c.world.answer q).2 } := by
  simp only [step, h, waits, if_true]

theorem step_call (h : c.tasks i = .call q next) (goes : c.world.blocks q = false) :
    c.step (.task i) = ⟨(c.world.answer q).2,
      Function.update c.tasks i (next (c.world.answer q).1), c.log ++ [(i, q)]⟩ := by
  simp only [step, h, goes, Bool.false_eq_true, if_false]

/-- What every turn keeps, any schedule keeps. -/
theorem after_keeps (inv : Crowd ι α → Prop) (keeps : ∀ c turn, inv c → inv (c.step turn))
    (hc : inv c) (schedule : List (Turn ι)) : inv (c.after schedule) := by
  induction schedule generalizing c with
  | nil => exact hc
  | cons turn schedule ih => exact ih (keeps c turn hc)

end Crowd

end TenantBilling
