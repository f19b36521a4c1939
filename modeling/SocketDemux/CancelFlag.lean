/-!
# SocketDemux.CancelFlag

The **cancellation flag** of a socket: one-shot and sticky. A socket and all of its
cancellers share one flag; raising it reports whether this very call raised it,
and nothing ever lowers it again.
-/

namespace SocketDemux

/-- Has cancellation been requested? -/
structure CancelFlag where
  raised : Bool := false
  deriving Repr, DecidableEq

namespace CancelFlag

/-- Requests cancellation; `true` for the request that raised the flag. -/
def raise (flag : CancelFlag) : Bool × CancelFlag := (!flag.raised, ⟨true⟩)

/-- The flag after an event that may raise it. -/
def raiseIf (flag : CancelFlag) (raises : Bool) : CancelFlag := ⟨flag.raised || raises⟩

@[simp] theorem raised_raise (flag : CancelFlag) : flag.raise.2.raised = true := rfl

@[simp] theorem raise_fst (flag : CancelFlag) : flag.raise.1 = !flag.raised := rfl

@[simp] theorem raised_raiseIf (flag : CancelFlag) (raises : Bool) :
    (flag.raiseIf raises).raised = (flag.raised || raises) := rfl

theorem raiseIf_false (flag : CancelFlag) : flag.raiseIf false = flag := by
  simp [raiseIf]

theorem raiseIf_true (flag : CancelFlag) : flag.raiseIf true = flag.raise.2 := by
  simp [raiseIf, raise]

end CancelFlag

end SocketDemux
