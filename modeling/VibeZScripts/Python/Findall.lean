import VibeZScripts.Python.Text

/-! # `re.findall` for a pattern with one group

`re.findall` tries the pattern at each position from the left. After a match it
goes on where the match ended; otherwise it moves one character on. A pattern is
given by what it does at one position: the text of its group and the input left
after the match. The patterns of the scripts never match the empty string, which
is the field `rest_shorter` and what makes the scan terminate.
-/
namespace VibeZScripts.Python

/-- A compiled regex with one group, as `re.findall` uses it. -/
structure Pattern where
  matchAt : List Char → Option (List Char × List Char)
  rest_shorter : ∀ s g r, matchAt s = some (g, r) → r.length < s.length

namespace Pattern

/-- `re.findall(pattern, s)`: the group of every match, left to right. -/
def findall (p : Pattern) : List Char → List (List Char)
  | [] => []
  | c :: cs =>
    match h : p.matchAt (c :: cs) with
    | some (g, r) =>
      have := p.rest_shorter _ _ _ h
      g :: p.findall r
    | none => p.findall cs
termination_by s => s.length

variable (p : Pattern)

@[simp] theorem findall_nil : p.findall [] = [] := by
  rw [findall]

theorem findall_of_matchAt {s g r : List Char} (h : p.matchAt s = some (g, r)) :
    p.findall s = g :: p.findall r := by
  cases s with
  | nil => exact absurd (p.rest_shorter _ _ _ h) (Nat.not_lt_zero _)
  | cons c cs => rw [findall]; split <;> simp_all

theorem findall_cons_of_matchAt {c : Char} {cs : List Char} (h : p.matchAt (c :: cs) = none) :
    p.findall (c :: cs) = p.findall cs := by
  rw [findall]; split <;> simp_all

theorem findall_append_of_no_match {t s : List Char}
    (h : ∀ u, u <:+ t → u ≠ [] → p.matchAt (u ++ s) = none) :
    p.findall (t ++ s) = p.findall s := by
  induction t with
  | nil => rfl
  | cons c t ih =>
    have hc : p.matchAt (c :: (t ++ s)) = none := h _ (List.suffix_refl _) (List.cons_ne_nil _ _)
    rw [List.cons_append, findall_cons_of_matchAt _ hc]
    exact ih fun u hu hne => h u (hu.trans (List.suffix_cons _ _)) hne

/-- Every group `re.findall` returns comes from a match at a suffix of the text, for a
pattern whose matches leave a suffix of their input. -/
theorem exists_matchAt_of_mem_findall (hsuf : ∀ s g r, p.matchAt s = some (g, r) → r <:+ s)
    {g s : List Char} (h : g ∈ p.findall s) : ∃ u r, u <:+ s ∧ p.matchAt u = some (g, r) := by
  induction s using findall.induct p with
  | case1 => simp at h
  | case2 c cs g' r hm _ ih =>
    rw [findall_of_matchAt p hm] at h
    rcases List.mem_cons.mp h with rfl | h
    · exact ⟨_, _, List.suffix_refl _, hm⟩
    · obtain ⟨u, r', hu, hm'⟩ := ih h
      exact ⟨u, r', hu.trans (hsuf _ _ _ hm), hm'⟩
  | case3 c cs hm ih =>
    rw [findall_cons_of_matchAt p hm] at h
    obtain ⟨u, r, hu, hm'⟩ := ih h
    exact ⟨u, r, hu.trans (List.suffix_cons _ _), hm'⟩

end Pattern

end VibeZScripts.Python
