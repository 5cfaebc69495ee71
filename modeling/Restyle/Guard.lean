/-!
# Restyle.Guard

The guard that keeps a patched source from being taken for a new edit. Once engaged it holds
until a deadline, which is not moved while it holds. Times are in milliseconds.
-/

namespace Restyle

structure Guard where
  window : Nat
  deadline : Option Nat := none
  deriving Repr, BEq, DecidableEq, Inhabited

namespace Guard

def engage (g : Guard) (now : Nat) : Guard := { g with deadline := some (now + g.window) }

def isEngaged (g : Guard) (now : Nat) : Bool := g.deadline.any (now < ·)

/-- Is there a deadline that has passed? -/
def isExpired (g : Guard) (now : Nat) : Bool := g.deadline.any (· ≤ now)

def reset (g : Guard) : Guard := { g with deadline := none }

/-- Drops a deadline that has passed. -/
def release (g : Guard) (now : Nat) : Guard := if g.isExpired now then g.reset else g

end Guard
end Restyle
