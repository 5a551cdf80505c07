import Mathlib.Order.Basic

/-!
# Leases

A resource that one claimer at a time may hold, for a limited time. The holder can give it back
(`release`); if it does not, the next claimer may take the resource over once the holder's claim is
older than the claimer's deadline. A resource can also be `closed` for good.

* `Lease`, `Lease.Op`, `Lease.Step`: the states of a resource, what may be done, and its effect;
* `Lease.Held`: held since some instant, or closed meanwhile;
* `Lease.Step.held`: as long as nobody claims or releases, a held resource stays so;
* `Lease.Held.claim`: whoever claims a held resource does so after the deadline.

Nothing stops a stranger from releasing: that only the holder does is up to the users of a lease.
-/

/-- The state of a leased resource. -/
inductive Lease (τ : Type)
  | free
  | held (since : τ)
  | closed

namespace Lease

variable {τ : Type}

/-- What may be done to a resource: a claim at `now`, which takes over claims older than
`expiredBefore`, and the unconditional changes. -/
inductive Op (τ : Type)
  | claim (now expiredBefore : τ)
  | release
  | close
  | other

variable [LT τ]

/-- A claim is granted of a free resource, and of one whose claim has expired. -/
def CanClaim (expiredBefore : τ) : Lease τ → Prop
  | free => True
  | held since => since < expiredBefore
  | closed => False

/-- What an operation makes of a resource. -/
inductive Step : Lease τ → Op τ → Lease τ → Prop
  | claim {l now expiredBefore} (h : l.CanClaim expiredBefore) :
      Step l (.claim now expiredBefore) (held now)
  | release {l} : Step l .release free
  | close {l} : Step l .close closed
  | other {l} : Step l .other l

/-- The resource is held since the given instant, unless it was closed meanwhile. -/
def Held (since : τ) (l : Lease τ) : Prop := l = held since ∨ l = closed

variable {l l' : Lease τ} {op : Op τ} {since now expiredBefore : τ}

/-- What is neither claimed nor released stays held. -/
theorem Step.held (h : Step l op l') (hclaim : ∀ now expiredBefore, op ≠ .claim now expiredBefore)
    (hrelease : op ≠ .release) (hl : l.Held since) : l'.Held since := by
  cases h with
  | claim _ => exact absurd rfl (hclaim _ _)
  | release => exact absurd rfl hrelease
  | close => exact Or.inr rfl
  | other => exact hl

/-- A claim of a held resource is granted only after the deadline. -/
theorem Held.claim (hl : l.Held since) (h : l.CanClaim expiredBefore) : since < expiredBefore := by
  rcases hl with rfl | rfl
  · exact h
  · exact h.elim

end Lease
