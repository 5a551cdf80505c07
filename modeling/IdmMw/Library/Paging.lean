import Mathlib.Tactic.Common

/-!
# The first of the matches

A page of a list is its beginning. A search should give the first of the matches; one that takes the
first of the list, and then the matches among these, gives a beginning of that.

* `filter_take_prefix`: the matches among the first are the first of the matches, as far as they go;
* `filter_take_eq_iff`: they are the same exactly if there is no match behind, or nothing else before.
-/

namespace Paging

variable {α : Type} {p : α → Bool} {l : List α} {n : ℕ}

/-- The matches are those among the first, and those behind. -/
theorem filter_eq_append (p : α → Bool) (l : List α) (n : ℕ) :
    l.filter p = (l.take n).filter p ++ (l.drop n).filter p := by
  rw [← List.filter_append, List.take_append_drop]

theorem length_filter_take_le : ((l.take n).filter p).length ≤ n := by
  have hfilter := List.length_filter_le p (l.take n)
  have htake := List.length_take_le n l
  omega

/-- The first of the matches: those among the first, and then those behind as far as they fit. -/
theorem take_filter (p : α → Bool) (l : List α) (n : ℕ) :
    (l.filter p).take n = (l.take n).filter p ++
      ((l.drop n).filter p).take (n - ((l.take n).filter p).length) := by
  rw [filter_eq_append p l n, List.take_append,
    List.take_of_length_le length_filter_take_le]

theorem filter_take_prefix : (l.take n).filter p <+: (l.filter p).take n := by
  rw [take_filter]
  exact List.prefix_append _ _

theorem filter_take_eq_iff :
    (l.take n).filter p = (l.filter p).take n ↔
      (∀ a ∈ l.drop n, p a = false) ∨ ∀ a ∈ l.take n, p a = true := by
  rw [take_filter, eq_comm, List.append_right_eq_self, List.take_eq_nil_iff]
  constructor
  · rintro (hfull | hnone)
    · -- a full page of matches, or a list that is shorter than the page
      have hle := length_filter_take_le (p := p) (l := l) (n := n)
      have htake := List.length_take_le n l
      have hlength : ((l.take n).filter p).length = (l.take n).length := by
        have hfilter := List.length_filter_le p (l.take n)
        omega
      exact Or.inr (List.length_filter_eq_length_iff.1 hlength)
    · exact Or.inl fun a ha => by simpa using List.filter_eq_nil_iff.1 hnone a ha
  · rintro (hnone | hall)
    · exact Or.inr (List.filter_eq_nil_iff.2 fun a ha => by simp [hnone a ha])
    · rw [List.filter_eq_self.2 hall]
      by_cases hshort : n ≤ l.length
      · exact Or.inl (by rw [List.length_take]; omega)
      · exact Or.inr (by rw [List.drop_of_length_le (by omega)]; rfl)

/-- Of the two, only the lengths can differ. -/
theorem filter_take_eq_of_length
    (h : ((l.take n).filter p).length = ((l.filter p).take n).length) :
    (l.take n).filter p = (l.filter p).take n :=
  filter_take_prefix.eq_of_length h

end Paging
