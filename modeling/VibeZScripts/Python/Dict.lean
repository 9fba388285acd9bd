import Mathlib.Data.List.Nodup

/-! # Insertion-ordered dictionaries

A Python `dict` keeps its keys in the order they were first set, and a
`defaultdict` creates a missing key from its factory on first access. Both are
association lists here; an update changes the first entry of its key or adds one
at the end, and a lookup reads the first entry of its key.
-/
namespace VibeZScripts.Python

variable {κ ν : Type} [DecidableEq κ]

/-- `d[k] = f(d[k])` on a `defaultdict` whose factory gives `dflt`. -/
def dictUpdate : List (κ × ν) → κ → ν → (ν → ν) → List (κ × ν)
  | [], k, dflt, f => [(k, f dflt)]
  | (c, v) :: rest, k, dflt, f =>
    if c = k then (c, f v) :: rest else (c, v) :: dictUpdate rest k dflt f

/-- `d.get(k)`. -/
def dictGet : List (κ × ν) → κ → Option ν
  | [], _ => none
  | (c, v) :: rest, k => if c = k then some v else dictGet rest k

@[simp] theorem dictGet_nil (k : κ) : dictGet ([] : List (κ × ν)) k = none := rfl

theorem dictGet_dictUpdate (d : List (κ × ν)) (k k' : κ) (dflt : ν) (f : ν → ν) :
    dictGet (dictUpdate d k dflt f) k' =
      if k' = k then some (f ((dictGet d k).getD dflt)) else dictGet d k' := by
  induction d with
  | nil => by_cases h : k' = k <;> simp [dictUpdate, dictGet, h, Ne.symm]
  | cons e d ih =>
    obtain ⟨c, v⟩ := e
    by_cases hc : c = k
    · subst hc; by_cases h : k' = c <;> simp [dictUpdate, dictGet, h, Ne.symm]
    · simp only [dictUpdate, dictGet, if_neg hc, ih]
      by_cases h : k' = k
      · simp [h, hc]
      · simp [h]

theorem keys_dictUpdate (d : List (κ × ν)) (k : κ) (dflt : ν) (f : ν → ν) :
    (dictUpdate d k dflt f).map Prod.fst =
      if k ∈ d.map Prod.fst then d.map Prod.fst else d.map Prod.fst ++ [k] := by
  induction d with
  | nil => simp [dictUpdate]
  | cons e d ih =>
    obtain ⟨c, v⟩ := e
    by_cases hc : c = k
    · simp [dictUpdate, hc]
    · simp only [dictUpdate, if_neg hc, List.map_cons, ih, List.mem_cons, Ne.symm hc, false_or]
      split <;> simp

theorem nodup_keys_dictUpdate {d : List (κ × ν)} (h : (d.map Prod.fst).Nodup) (k : κ)
    (dflt : ν) (f : ν → ν) : ((dictUpdate d k dflt f).map Prod.fst).Nodup := by
  rw [keys_dictUpdate]
  split
  · exact h
  · exact h.append (List.nodup_singleton _) (List.disjoint_singleton.mpr ‹_›)

theorem dictUpdate_ne_nil (d : List (κ × ν)) (k : κ) (dflt : ν) (f : ν → ν) :
    dictUpdate d k dflt f ≠ [] := by
  cases d with
  | nil => simp [dictUpdate]
  | cons e d => obtain ⟨c, v⟩ := e; unfold dictUpdate; split <;> simp

theorem dictGet_eq_none_iff {d : List (κ × ν)} {k : κ} :
    dictGet d k = none ↔ k ∉ d.map Prod.fst := by
  induction d with
  | nil => simp
  | cons e d ih =>
    obtain ⟨c, v⟩ := e
    by_cases hc : c = k <;> simp [dictGet, hc, ih, Ne.symm]

theorem map_snd_eq_map_keys {α : Type} {d : List (κ × ν)} (h : (d.map Prod.fst).Nodup)
    (g : ν → α) (dflt : ν) :
    d.map (fun e => g e.2) = (d.map Prod.fst).map fun k => g ((dictGet d k).getD dflt) := by
  induction d with
  | nil => rfl
  | cons e d ih =>
    obtain ⟨c, v⟩ := e
    simp only [List.map_cons, List.nodup_cons, List.mem_map] at h ⊢
    refine congrArg₂ _ (by simp [dictGet]) ((ih h.2).trans (List.map_congr_left fun k hk => ?_))
    have : c ≠ k := fun e => h.1 (e ▸ List.mem_map.mp hk)
    simp [dictGet, this]

theorem mem_of_dictGet_eq_some {d : List (κ × ν)} {k : κ} {v : ν} (h : dictGet d k = some v) :
    (k, v) ∈ d := by
  induction d with
  | nil => cases h
  | cons e d ih =>
    obtain ⟨c, w⟩ := e
    by_cases hc : c = k
    · subst hc; simp only [dictGet, if_true, Option.some.injEq] at h; simp [h]
    · simp only [dictGet, if_neg hc] at h; exact List.mem_cons_of_mem _ (ih h)

theorem dictGet_eq_some_of_forall {d : List (κ × ν)} {k : κ} {v : ν} (hk : (k, v) ∈ d)
    (h : ∀ e ∈ d, e.1 = k → e.2 = v) : dictGet d k = some v := by
  cases hg : dictGet d k with
  | none => exact absurd (List.mem_map_of_mem Prod.fst hk) (dictGet_eq_none_iff.mp hg)
  | some w => exact congrArg some (h _ (mem_of_dictGet_eq_some hg) rfl)

theorem dictGet_eq_some_of_mem {d : List (κ × ν)} (hn : (d.map Prod.fst).Nodup) {k : κ} {v : ν}
    (h : (k, v) ∈ d) : dictGet d k = some v :=
  dictGet_eq_some_of_forall h fun _ he hk => by rw [List.inj_on_of_nodup_map hn he h hk]

/-- `d[k] = v`. -/
def dictSet (d : List (κ × ν)) (k : κ) (v : ν) : List (κ × ν) :=
  dictUpdate d k v fun _ => v

/-- The writes `d[k] = v` of a list, in order. -/
def dictSetAll (d : List (κ × ν)) (ws : List (κ × ν)) : List (κ × ν) :=
  ws.foldl (fun d w => dictSet d w.1 w.2) d

theorem dictGet_dictSet (d : List (κ × ν)) (k k' : κ) (v : ν) :
    dictGet (dictSet d k v) k' = if k' = k then some v else dictGet d k' := by
  simp [dictSet, dictGet_dictUpdate]

theorem dictGet_append (l l' : List (κ × ν)) (k : κ) :
    dictGet (l ++ l') k =
      match dictGet l k with
      | some v => some v
      | none => dictGet l' k := by
  induction l with
  | nil => rfl
  | cons e l ih =>
    obtain ⟨c, v⟩ := e
    by_cases hc : c = k <;> simp [dictGet, hc, ih]

/-- After a list of writes a key holds its last write, or what it held before. -/
theorem dictGet_dictSetAll (d ws : List (κ × ν)) (k : κ) :
    dictGet (dictSetAll d ws) k =
      match dictGet ws.reverse k with
      | some v => some v
      | none => dictGet d k := by
  induction ws generalizing d with
  | nil => simp [dictSetAll]
  | cons w ws ih =>
    rw [dictSetAll, List.foldl_cons, ← dictSetAll, ih, dictGet_dictSet, List.reverse_cons,
      dictGet_append]
    cases dictGet ws.reverse k <;> by_cases h : k = w.1 <;> simp [dictGet, h, Ne.symm]

/-- Dropping entries of other keys changes no lookup of `k`. -/
theorem dictGet_filter (l : List (κ × ν)) {p : κ × ν → Bool} {k : κ}
    (hp : ∀ e ∈ l, e.1 = k → p e) : dictGet (l.filter p) k = dictGet l k := by
  induction l with
  | nil => rfl
  | cons e l ih =>
    obtain ⟨c, v⟩ := e
    have ih := ih fun e he => hp e (List.mem_cons_of_mem _ he)
    by_cases hc : c = k
    · subst hc; simp [List.filter_cons, hp _ (List.mem_cons_self _ _) rfl, dictGet]
    · by_cases h : p (c, v) <;> simp [List.filter_cons, h, dictGet, hc, ih]

theorem mem_keys_dictSetAll_iff {d ws : List (κ × ν)} {k : κ} :
    k ∈ (dictSetAll d ws).map Prod.fst ↔ k ∈ d.map Prod.fst ∨ k ∈ ws.map Prod.fst := by
  have hr : k ∈ ws.map Prod.fst ↔ k ∈ ws.reverse.map Prod.fst := by simp
  rw [hr, ← not_iff_not, not_or, ← dictGet_eq_none_iff, ← dictGet_eq_none_iff,
    ← dictGet_eq_none_iff, dictGet_dictSetAll]
  cases dictGet ws.reverse k <;> simp

theorem dictGet_dictSetAll_of_not_mem {d ws : List (κ × ν)} {k : κ}
    (h : k ∉ ws.map Prod.fst) : dictGet (dictSetAll d ws) k = dictGet d k := by
  rw [dictGet_dictSetAll, dictGet_eq_none_iff.mpr (by simpa using h)]

theorem nodup_keys_dictSetAll {d : List (κ × ν)} (h : (d.map Prod.fst).Nodup)
    (ws : List (κ × ν)) :
    ((dictSetAll d ws).map Prod.fst).Nodup := by
  induction ws generalizing d with
  | nil => exact h
  | cons w ws ih => exact ih (nodup_keys_dictUpdate h _ _ _)

theorem mem_keys_dictSetAll (d ws : List (κ × ν)) {w : κ × ν} (hw : w ∈ ws) :
    w.1 ∈ (dictSetAll d ws).map Prod.fst :=
  mem_keys_dictSetAll_iff.mpr (.inr (List.mem_map_of_mem _ hw))

theorem keys_dictSetAll {d ws : List (κ × ν)} (h : ∀ w ∈ ws, w.1 ∈ d.map Prod.fst) :
    (dictSetAll d ws).map Prod.fst = d.map Prod.fst := by
  induction ws generalizing d with
  | nil => rfl
  | cons w ws ih =>
    have hk : (dictSet d w.1 w.2).map Prod.fst = d.map Prod.fst := by
      rw [dictSet, keys_dictUpdate, if_pos (h w (List.mem_cons_self _ _))]
    rw [dictSetAll, List.foldl_cons, ← dictSetAll,
      ih fun w' hw' => hk ▸ h w' (List.mem_cons_of_mem _ hw'), hk]

/-- A dictionary with distinct keys is fixed by its keys in order and its lookups. -/
theorem eq_of_keys_of_dictGet {d d' : List (κ × ν)} (hk : d.map Prod.fst = d'.map Prod.fst)
    (hn : (d.map Prod.fst).Nodup) (hg : ∀ k, dictGet d k = dictGet d' k) : d = d' := by
  induction d generalizing d' with
  | nil => simpa using hk.symm
  | cons e d ih =>
    obtain ⟨c, v⟩ := e
    cases d' with
    | nil => simp at hk
    | cons e' d' => ?_
    obtain ⟨c', v'⟩ := e'
    simp only [List.map_cons, List.cons.injEq, List.nodup_cons] at hk hn
    obtain ⟨rfl, hk⟩ := hk
    have hv : v = v' := by simpa [dictGet] using hg c
    subst hv
    refine congrArg _ (ih hk hn.2 fun k => ?_)
    by_cases hkc : c = k
    · subst hkc
      rw [dictGet_eq_none_iff.mpr hn.1, dictGet_eq_none_iff.mpr (hk ▸ hn.1)]
    · simpa [dictGet, hkc] using hg k

/-- Doing the same writes twice leaves what doing them once does. -/
theorem dictSetAll_dictSetAll {d : List (κ × ν)} (hn : (d.map Prod.fst).Nodup)
    (ws : List (κ × ν)) :
    dictSetAll (dictSetAll d ws) ws = dictSetAll d ws :=
  eq_of_keys_of_dictGet (keys_dictSetAll fun _ hw => mem_keys_dictSetAll d ws hw)
    (nodup_keys_dictSetAll (nodup_keys_dictSetAll hn ws) ws) fun k => by
      rw [dictGet_dictSetAll, dictGet_dictSetAll d]
      cases dictGet ws.reverse k <;> rfl

theorem mapM_eq_some {α β : Type} {f : α → Option β} {g : α → β} {l : List α}
    (h : ∀ x ∈ l, f x = some (g x)) : l.mapM f = some (l.map g) := by
  induction l with
  | nil => rfl
  | cons x l ih =>
    rw [List.mapM_cons, h x (List.mem_cons_self _ _),
      ih fun y hy => h y (List.mem_cons_of_mem _ hy)]
    rfl

end VibeZScripts.Python
