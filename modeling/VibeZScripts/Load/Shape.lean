import Mathlib.Data.List.Sort
import Mathlib.Algebra.Order.Group.Int

/-! # The staged load shape

`WaveShape.tick` reads the run time and scans `stages` in order. It returns the
user count and spawn rate of the first stage whose `duration` the run time has
not reached, and `None` once every boundary is passed. A `duration` is a
cumulative boundary, not a length. Time is any linear order, since the code
compares a float run time with integer boundaries.
-/
namespace VibeZScripts.Load

/-- One entry of a stage list: cumulative boundary, target users, spawn rate. -/
structure Stage (α : Type) where
  duration : α
  users : ℕ
  spawnRate : ℕ
deriving DecidableEq, Repr

variable {α : Type} [LinearOrder α]

/-- `WaveShape.tick`, with `runTime` the value of `self.get_run_time()`. -/
def tick : List (Stage α) → α → Option (ℕ × ℕ)
  | [], _ => none
  | stage :: rest, runTime =>
    if runTime < stage.duration then some (stage.users, stage.spawnRate) else tick rest runTime

/-- The half-open interval of stage `i`, `[d_{i-1}, d_i)`, unbounded below for the
first stage. -/
def InStage (stages : List (Stage α)) (t : α) (i : ℕ) : Prop :=
  ∃ h : i < stages.length, t < stages[i].duration ∧ (i = 0 ∨ stages[i-1].duration ≤ t)

def Increasing (stages : List (Stage α)) : Prop :=
  (stages.map Stage.duration).Sorted (· < ·)

theorem Increasing.tail {stage : Stage α} {rest : List (Stage α)}
    (h : Increasing (stage :: rest)) : Increasing rest :=
  (List.sorted_cons.mp h).2

theorem Increasing.head_lt {stage : Stage α} {rest : List (Stage α)}
    (h : Increasing (stage :: rest)) {s : Stage α} (hs : s ∈ rest) :
    stage.duration < s.duration :=
  (List.sorted_cons.mp h).1 _ (List.mem_map_of_mem _ hs)

theorem Increasing.le_of_le {stages : List (Stage α)} (h : Increasing stages) {i j : ℕ}
    (hij : i ≤ j) (hj : j < stages.length) :
    stages[i].duration ≤ stages[j].duration := by
  rcases hij.lt_or_eq with hij | rfl
  · have := List.pairwise_iff_getElem.mp h i j (by simpa using hij.trans hj) (by simpa) hij
    simpa using this.le
  · exact le_rfl

/-- Whatever `tick` returns is the pair of a stage whose interval holds `t`; this
direction needs no order on the boundaries. -/
theorem exists_inStage_of_tick {stages : List (Stage α)} {t : α} {v : ℕ × ℕ}
    (h : tick stages t = some v) :
    ∃ i, ∃ hi : i < stages.length,
      InStage stages t i ∧ v = (stages[i].users, stages[i].spawnRate) := by
  induction stages with
  | nil => simp [tick] at h
  | cons stage rest ih =>
    by_cases ht : t < stage.duration
    · simp only [tick, ht, if_true, Option.some.injEq] at h
      exact ⟨0, by simp, ⟨by simp, ht, .inl rfl⟩, by simp [h]⟩
    · simp only [tick, ht, if_false] at h
      obtain ⟨j, hj, ⟨_, hlt, hprev⟩, rfl⟩ := ih h
      refine ⟨j + 1, by simpa using hj,
        ⟨by simpa using hj, by simpa using hlt, .inr ?_⟩, by simp⟩
      rcases j with _ | j
      · simpa using not_lt.mp ht
      · simpa using hprev.resolve_left (Nat.succ_ne_zero j)

/-- On its own interval a stage is the one `tick` returns. -/
theorem tick_of_inStage {stages : List (Stage α)} (hs : Increasing stages) {t : α} {i : ℕ}
    (hi : i < stages.length) (h : InStage stages t i) :
    tick stages t = some (stages[i].users, stages[i].spawnRate) := by
  induction stages generalizing i with
  | nil => simp at hi
  | cons stage rest ih =>
    obtain ⟨_, hlt, hprev⟩ := h
    rcases i with _ | j
    · simp only [List.getElem_cons_zero] at hlt ⊢
      simp [tick, hlt]
    · have hj : j < rest.length := by simpa using hi
      have hle : stage.duration ≤ t := by
        have := hs.le_of_le (Nat.zero_le j) (by simpa using hj.trans (Nat.lt_succ_self _))
        simp only [Nat.add_sub_cancel, Nat.succ_ne_zero, false_or] at hprev
        simpa using this.trans hprev
      rw [tick, if_neg (not_lt.mpr hle)]
      refine (ih hs.tail hj ⟨hj, by simpa using hlt, ?_⟩).trans (by simp)
      rcases j with _ | k
      · exact .inl rfl
      · simpa using hprev

theorem tick_eq_none_iff {stages : List (Stage α)} {t : α} :
    tick stages t = none ↔ ∀ s ∈ stages, s.duration ≤ t := by
  induction stages with
  | nil => simp [tick]
  | cons stage rest ih =>
    by_cases ht : t < stage.duration
    · simp [tick, ht]
    · simp [tick, ht, ih, not_lt.mp ht]

theorem forall_le_iff_getLast? {stages : List (Stage α)} (hs : Increasing stages) {t : α} :
    (∀ s ∈ stages, s.duration ≤ t) ↔
      stages = [] ∨ ∃ s, stages.getLast? = some s ∧ s.duration ≤ t := by
  rw [List.getLast?_eq_getElem?]
  constructor
  · intro h
    by_cases hne : stages = []
    · exact .inl hne
    · have hn : stages.length - 1 < stages.length := by
        have := List.length_pos.mpr hne; omega
      exact .inr ⟨_, List.getElem?_eq_getElem hn, h _ (List.getElem_mem hn)⟩
  · rintro (rfl | ⟨s, hl, hst⟩) x hx
    · simp at hx
    · obtain ⟨i, hi, rfl⟩ := List.mem_iff_getElem.mp hx
      obtain ⟨hn, rfl⟩ := List.getElem?_eq_some_iff.mp hl
      exact (hs.le_of_le (by omega) hn).trans hst

/-- Two stages never share a run time: the intervals are disjoint. -/
theorem inStage_unique {stages : List (Stage α)} (hs : Increasing stages) {t : α} {i j : ℕ}
    (hi : InStage stages t i) (hj : InStage stages t j) : i = j := by
  have key : ∀ {i j}, InStage stages t i → InStage stages t j → ¬ i < j := by
    rintro i j ⟨hi, hlt, -⟩ ⟨hj, -, hprev⟩ hij
    have hle := hs.le_of_le (by omega : i ≤ j - 1) (by omega)
    exact absurd (hlt.trans_le (hle.trans (hprev.resolve_left (by omega)))) (lt_irrefl t)
  exact le_antisymm (not_lt.mp (key hj hi)) (not_lt.mp (key hi hj))

theorem exists_inStage [NoMinOrder α] {stages : List (Stage α)} (hs : Increasing stages)
    {i : ℕ} (hi : i < stages.length) : ∃ t, InStage stages t i := by
  rcases i with _ | j
  · obtain ⟨t, ht⟩ := exists_lt stages[0].duration
    exact ⟨t, hi, ht, .inl rfl⟩
  · have hlt := List.pairwise_iff_getElem.mp hs j (j + 1) (by simp; omega) (by simpa) (by omega)
    exact ⟨stages[j].duration, hi, by simpa using hlt, .inr le_rfl⟩

instance (stages : List (Stage α)) : Decidable (Increasing stages) :=
  inferInstanceAs (Decidable (List.Sorted _ _))

/-- For strictly increasing boundaries `tick` is the step function of the stage
intervals: each stage is returned exactly on its own interval, the intervals are
disjoint and non-empty, and `None` comes exactly past the last boundary. -/
theorem tick_spec [NoMinOrder α] (stages : List (Stage α)) (hs : Increasing stages) :
    (∀ t i (hi : i < stages.length), InStage stages t i →
        tick stages t = some (stages[i].users, stages[i].spawnRate)) ∧
    (∀ t v, tick stages t = some v → ∃ i, ∃ hi : i < stages.length,
        InStage stages t i ∧ v = (stages[i].users, stages[i].spawnRate)) ∧
    (∀ t, tick stages t = none ↔ stages = [] ∨ ∃ s, stages.getLast? = some s ∧ s.duration ≤ t) ∧
    (∀ t i j, InStage stages t i → InStage stages t j → i = j) ∧
    (∀ i, i < stages.length → ∃ t, InStage stages t i) :=
  ⟨fun _ _ hi h => tick_of_inStage hs hi h, fun _ _ h => exists_inStage_of_tick h,
    fun _ => tick_eq_none_iff.trans (forall_le_iff_getLast? hs),
    fun _ _ _ => inStage_unique hs, fun _ hi => exists_inStage hs hi⟩

example : tick [⟨(60 : ℤ), 100, 10⟩, ⟨120, 500, 20⟩, ⟨180, 1000, 50⟩] 60 = some (500, 20) := by
  decide

/-- `WaveShape.stages`: the boundaries are integers, cast into the time type. -/
def WaveShape.stages {β : Type} [NatCast β] : List (Stage β) :=
  [⟨(60 : ℕ), 100, 10⟩, ⟨(120 : ℕ), 500, 20⟩, ⟨(180 : ℕ), 1000, 50⟩, ⟨(240 : ℕ), 2000, 100⟩,
    ⟨(300 : ℕ), 500, 50⟩]

theorem waveShape_tick_spec :
    Increasing (WaveShape.stages : List (Stage ℤ)) ∧
    ((∀ (t : ℤ) i (hi : i < (WaveShape.stages : List (Stage ℤ)).length), InStage WaveShape.stages t i →
        tick WaveShape.stages t =
          some ((WaveShape.stages : List (Stage ℤ))[i].users, (WaveShape.stages : List (Stage ℤ))[i].spawnRate)) ∧
    (∀ (t : ℤ) v, tick WaveShape.stages t = some v →
        ∃ i, ∃ hi : i < (WaveShape.stages : List (Stage ℤ)).length, InStage WaveShape.stages t i ∧
          v = ((WaveShape.stages : List (Stage ℤ))[i].users, (WaveShape.stages : List (Stage ℤ))[i].spawnRate)) ∧
    (∀ t : ℤ, tick WaveShape.stages t = none ↔ (WaveShape.stages : List (Stage ℤ)) = [] ∨
        ∃ s, (WaveShape.stages : List (Stage ℤ)).getLast? = some s ∧ s.duration ≤ t) ∧
    (∀ (t : ℤ) i j, InStage WaveShape.stages t i → InStage WaveShape.stages t j → i = j) ∧
    (∀ i, i < (WaveShape.stages : List (Stage ℤ)).length → ∃ t : ℤ, InStage WaveShape.stages t i)) :=
  ⟨by decide, tick_spec _ (by decide)⟩

end VibeZScripts.Load
