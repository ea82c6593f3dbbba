/-! Planned failures of the calls to a collaborator. For every operation a queue of stretches
says which of its next calls fail; past the end of the queue they succeed. -/

namespace TenantBilling

/-- Calls in a row that share their fate: one, and so many more. -/
structure Stretch where
  fails : Bool
  more : Nat

structure Outages (ο : Type) where
  planned : ο → List Stretch

namespace Outages
variable {ο : Type}

def none : Outages ο := ⟨fun _ => []⟩

instance : Inhabited (Outages ο) := ⟨none⟩

variable [DecidableEq ο]

def set (o : Outages ο) (op : ο) (plan : List Stretch) : Outages ο :=
  ⟨fun x => if x = op then plan else o.planned x⟩

/-- The next calls of an operation, so many of them, fail; what was planned for it is dropped. -/
def failNext (o : Outages ο) (op : ο) : (times : Nat) → Outages ο
  | 0 => o.set op []
  | more + 1 => o.set op [⟨true, more⟩]

/-- Whether a call fails, and what is planned after it. -/
def strike (o : Outages ο) (op : ο) : Bool × Outages ο :=
  match o.planned op with
  | [] => (false, o)
  | ⟨fails, 0⟩ :: rest => (fails, o.set op rest)
  | ⟨fails, more + 1⟩ :: rest => (fails, o.set op (⟨fails, more⟩ :: rest))

@[simp] theorem strike_none (op : ο) : (none : Outages ο).strike op = (false, none) := rfl

end Outages

end TenantBilling
