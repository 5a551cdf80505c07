import IdmMw.Library.OrderedMap
import Mathlib.Order.Lattice

/-!
# Sets whose keys expire

Keys are added with the time at which they expire, and from time to time those that have expired are
removed. Where the clock does not run backwards, what is in the set is what was added and has not
expired.

* `prune`: the entries that have not expired;
* `Tracks`: the set holds, of what was added, what had not expired at the last removal;
* `Tracks.prune`, `Tracks.add`: both keep that.
-/

namespace ExpiringSet

open OrderedMap

variable {κ τ : Type} [LinearOrder τ]

/-- Remove the entries that have expired. -/
def prune (now : τ) (used : List (κ × τ)) : List (κ × τ) :=
  used.filter fun entry => !decide (entry.2 < now)

variable {used : List (κ × τ)} {added : κ → τ → Prop} {key : κ} {expiresAt now later : τ}

theorem mem_prune :
    (key, expiresAt) ∈ prune now used ↔ (key, expiresAt) ∈ used ∧ now ≤ expiresAt := by
  unfold prune
  rw [List.mem_filter]
  simp

/-- A key is added with one time only. -/
def Functional (added : κ → τ → Prop) : Prop :=
  ∀ key expiresAt expiresAt', added key expiresAt → added key expiresAt' → expiresAt = expiresAt'

/-- The set holds what was added and had not expired at the time, and nothing that was not added. -/
structure Tracks (used : List (κ × τ)) (added : κ → τ → Prop) (time : τ) : Prop where
  distinct : Distinct used
  sound : ∀ key expiresAt, (key, expiresAt) ∈ used → added key expiresAt
  complete : ∀ key expiresAt, added key expiresAt → time ≤ expiresAt → (key, expiresAt) ∈ used

theorem tracks_nil (time : τ) (h : ∀ key expiresAt, ¬ added key expiresAt) :
    Tracks [] added time where
  distinct := List.nodup_nil
  sound := fun _ _ hmem => absurd hmem List.not_mem_nil
  complete := fun key expiresAt hadded => absurd hadded (h key expiresAt)

/-- Time passes. -/
theorem Tracks.mono (h : Tracks used added now) (hle : now ≤ later) : Tracks used added later where
  distinct := h.distinct
  sound := h.sound
  complete := fun key expiresAt hadded htime => h.complete key expiresAt hadded (hle.trans htime)

theorem Tracks.prune (h : Tracks used added now) (hle : now ≤ later) :
    Tracks (prune later used) added later where
  distinct := by
    have hsub : ((ExpiringSet.prune later used).map Prod.fst).Sublist (used.map Prod.fst) :=
      List.filter_sublist.map Prod.fst
    exact List.Nodup.sublist hsub h.distinct
  sound := fun key expiresAt hmem => h.sound key expiresAt (mem_prune.1 hmem).1
  complete := fun key expiresAt hadded htime =>
    mem_prune.2 ⟨h.complete key expiresAt hadded (hle.trans htime), htime⟩

/-- A key that is added, with the time it always has. -/
theorem Tracks.add [DecidableEq κ] (h : Tracks used added now) {added' : κ → τ → Prop}
    (hadded : ∀ k e, added' k e ↔ added k e ∨ k = key ∧ e = expiresAt)
    (hfunctional : Functional added') : Tracks (set used key expiresAt) added' now where
  distinct := h.distinct.set key expiresAt
  sound := by
    intro k e hmem
    rw [hadded]
    have hlookup := (h.distinct.set key expiresAt).lookup_of_mem hmem
    rw [lookup_set] at hlookup
    by_cases hk : k = key
    · rw [if_pos hk] at hlookup
      exact Or.inr ⟨hk, (Option.some.inj hlookup).symm⟩
    · rw [if_neg hk] at hlookup
      exact Or.inl (h.sound k e (mem_of_lookup hlookup))
  complete := by
    intro k e hadd htime
    refine mem_of_lookup ?_
    rw [lookup_set]
    by_cases hk : k = key
    · subst hk
      have hnew : added' k expiresAt := (hadded k expiresAt).2 (Or.inr ⟨rfl, rfl⟩)
      rw [if_pos rfl, hfunctional k e expiresAt hadd hnew]
    · rw [if_neg hk]
      rcases (hadded k e).1 hadd with hold | ⟨hkey, -⟩
      · exact h.distinct.lookup_of_mem (h.complete k e hold htime)
      · exact absurd hkey hk

/-- What is in the set once the expired entries are removed. -/
theorem Tracks.mem_iff (h : Tracks used added now) (hle : now ≤ later) :
    (key, expiresAt) ∈ ExpiringSet.prune later used ↔ added key expiresAt ∧ later ≤ expiresAt := by
  constructor
  · intro hmem
    have hboth := mem_prune.1 hmem
    exact ⟨h.sound key expiresAt hboth.1, hboth.2⟩
  · rintro ⟨hadded, htime⟩
    exact (h.prune hle).complete key expiresAt hadded htime

end ExpiringSet
