import VibeZScripts.Python.Unicode
import Mathlib.Data.List.Infix
import Mathlib.Data.List.DropRight
import Mathlib.Data.List.Sort
import Mathlib.Data.List.Lex
import Mathlib.Data.Char
import Mathlib.Data.Nat.Digits

/-! # Python text as lists of code points

A Python `str` is a sequence of code points and compares them one by one, so it
is modelled as `List Char`. This module holds the pieces of `str` and `re` that
the scripts share: the whitespace of `str.isspace`, `str.strip`, and the
letter comparison `re.IGNORECASE` makes in a Unicode pattern.
-/
namespace VibeZScripts.Python

/-- `str.isspace` on one character: the class `str.strip()` removes and `\s` matches. -/
def isSpace (c : Char) : Bool :=
  let n := c.toNat
  (9 ≤ n && n ≤ 13) || (28 ≤ n && n ≤ 32) || n == 0x85 || n == 0xA0 || n == 0x1680 ||
    (0x2000 ≤ n && n ≤ 0x200A) || n == 0x2028 || n == 0x2029 || n == 0x202F ||
    n == 0x205F || n == 0x3000

/-- `s.strip()`: leading and trailing whitespace removed. -/
def strip (s : List Char) : List Char :=
  ((s.dropWhile isSpace).reverse.dropWhile isSpace).reverse

theorem strip_eq_nil_iff (s : List Char) : strip s = [] ↔ ∀ c ∈ s, isSpace c := by
  rw [strip, List.reverse_eq_nil_iff, List.dropWhile_eq_nil_iff]
  simp only [List.mem_reverse]
  conv_lhs => rw [← List.dropWhile_eq_nil_iff, List.dropWhile_idempotent]
  exact List.dropWhile_eq_nil_iff

/-- Under `re.IGNORECASE` a pattern letter `k` (ASCII here) matches a text
character with the same lower case, or one of the four non-ASCII letters that
Python's case folding sends onto `i`, `s` or `k`. -/
def ciEq (k c : Char) : Bool :=
  c.toLower == k.toLower ||
    (k.toLower == 'i' && (c == 'İ' || c == 'ı')) ||
    (k.toLower == 's' && c == 'ſ') || (k.toLower == 'k' && c == 'K')

def ciPrefix : List Char → List Char → Bool
  | [], _ => true
  | _ :: _, [] => false
  | k :: ks, c :: cs => ciEq k c && ciPrefix ks cs

theorem prefix_of_prefix_append_cons {w x y : List Char} {a : Char} (ha : a ∉ w)
    (h : w <+: x ++ a :: y) : w <+: x := by
  induction x generalizing w with
  | nil =>
    cases w with
    | nil => exact List.nil_prefix
    | cons d w => simp_all [List.cons_prefix_cons]
  | cons e x ih =>
    cases w with
    | nil => exact List.nil_prefix
    | cons d w =>
      obtain ⟨rfl, hw⟩ := List.cons_prefix_cons.mp h
      exact List.cons_prefix_cons.mpr ⟨rfl, ih (fun h => ha (.tail _ h)) hw⟩

/-- The first occurrence of a character splits a text around it. -/
theorem exists_first_occurrence {a : Char} {s : List Char} (h : a ∈ s) :
    ∃ x y, s = x ++ a :: y ∧ a ∉ x := by
  induction s with
  | nil => cases h
  | cons c s ih =>
    by_cases hc : c = a
    · exact ⟨[], c :: s |>.tail, by rw [hc]; rfl, List.not_mem_nil _⟩
    · obtain ⟨x, y, rfl, hx⟩ := ih ((List.mem_cons.mp h).resolve_left (Ne.symm hc))
      exact ⟨c :: x, y, rfl, by simp [Ne.symm hc, hx]⟩

/-- A text splits at the first occurrence of a character in one way only. -/
theorem eq_of_append_cons_eq {c : Char} {a b x y : List Char} (ha : c ∉ a) (hb : c ∉ b)
    (h : a ++ c :: x = b ++ c :: y) : a = b := by
  have key : ∀ {l r : List Char}, c ∉ l → (l ++ c :: r).takeWhile (· != c) = l := fun hl => by
    rw [List.takeWhile_append_of_pos fun d hd => bne_iff_ne.mpr fun e : d = c => hl (e ▸ hd)]
    simp
  rw [← key ha, h, key hb]

/-! ### Text mode -/

/-- Text mode's universal newlines: `\r\n` and a lone `\r` are read as `\n`. -/
def universalNewlines : List Char → List Char
  | '\r' :: '\n' :: cs => '\n' :: universalNewlines cs
  | '\r' :: cs => '\n' :: universalNewlines cs
  | c :: cs => c :: universalNewlines cs
  | [] => []

@[simp] theorem universalNewlines_nil : universalNewlines [] = [] := rfl

theorem universalNewlines_cons_of_ne {c : Char} (hc : c ≠ '\r') (cs : List Char) :
    universalNewlines (c :: cs) = c :: universalNewlines cs :=
  universalNewlines.eq_3 c cs (fun _ h _ => hc h) hc

theorem universalNewlines_cr {cs : List Char} (h : cs.head? ≠ some '\n') :
    universalNewlines ('\r' :: cs) = '\n' :: universalNewlines cs :=
  universalNewlines.eq_2 cs fun _ he => h (by rw [he]; rfl)

theorem universalNewlines_cr_cons (cs : List Char) :
    ∃ r, universalNewlines ('\r' :: cs) = '\n' :: r := by
  by_cases hn : cs.head? = some '\n'
  · obtain ⟨ds, rfl⟩ : ∃ ds, cs = '\n' :: ds := by cases cs <;> simp_all
    exact ⟨_, universalNewlines.eq_1 ds⟩
  · exact ⟨_, universalNewlines_cr hn⟩

/-- A character is read as itself, or a `\r` as `\n`; a `\r` before `\n` is dropped. -/
theorem universalNewlines_cons (c : Char) (cs : List Char) :
    universalNewlines (c :: cs) = universalNewlines cs ∨
      universalNewlines (c :: cs) = (if c = '\r' then '\n' else c) :: universalNewlines cs := by
  by_cases hc : c = '\r'
  · subst hc
    by_cases hn : cs.head? = some '\n'
    · obtain ⟨ds, rfl⟩ : ∃ ds, cs = '\n' :: ds := by cases cs <;> simp_all
      left
      rw [universalNewlines.eq_1, universalNewlines_cons_of_ne (by decide)]
    · exact .inr (universalNewlines_cr hn)
  · exact .inr (by rw [if_neg hc, universalNewlines_cons_of_ne hc])

theorem mem_universalNewlines {c : Char} {t : List Char} (h : c ∈ universalNewlines t) :
    c = '\n' ∨ c ∈ t ∧ c ≠ '\r' := by
  induction t with
  | nil => cases h
  | cons d t ih =>
    have htail : c ∈ universalNewlines t → c = '\n' ∨ c ∈ d :: t ∧ c ≠ '\r' :=
      fun h => (ih h).imp_right fun ⟨hm, hr⟩ => ⟨List.mem_cons_of_mem _ hm, hr⟩
    rcases universalNewlines_cons d t with he | he <;> rw [he] at h
    · exact htail h
    · rcases List.mem_cons.mp h with rfl | h
      · split_ifs with hr
        · exact .inl rfl
        · exact .inr ⟨List.mem_cons_self _ _, hr⟩
      · exact htail h

theorem cr_not_mem_universalNewlines (t : List Char) : '\r' ∉ universalNewlines t := fun h =>
  (mem_universalNewlines h).elim (absurd · (by decide)) fun h => h.2 rfl

theorem universalNewlines_ne_nil {t : List Char} (h : t ≠ []) : universalNewlines t ≠ [] := by
  obtain ⟨c, cs, rfl⟩ := List.exists_cons_of_ne_nil h
  by_cases hc : c = '\r'
  · obtain ⟨r, hu⟩ := universalNewlines_cr_cons cs
    rw [hc, hu]; exact List.cons_ne_nil _ _
  · rw [universalNewlines_cons_of_ne hc]; exact List.cons_ne_nil _ _

theorem universalNewlines_append_of_cr_not_mem {a : List Char} (h : '\r' ∉ a) (b : List Char) :
    universalNewlines (a ++ b) = a ++ universalNewlines b := by
  induction a with
  | nil => rfl
  | cons c a ih =>
    rw [List.mem_cons, not_or] at h
    rw [List.cons_append, universalNewlines_cons_of_ne (Ne.symm h.1), ih h.2, List.cons_append]

theorem universalNewlines_of_cr_not_mem {a : List Char} (h : '\r' ∉ a) : universalNewlines a = a := by
  simpa using universalNewlines_append_of_cr_not_mem h []

theorem universalNewlines_append_cons {c : Char} (hc : c ≠ '\n') (a cs : List Char) :
    universalNewlines (a ++ c :: cs) = universalNewlines a ++ universalNewlines (c :: cs) := by
  induction a using universalNewlines.induct with
  | case1 a ih => rw [List.cons_append, List.cons_append, universalNewlines.eq_1, ih,
      universalNewlines.eq_1, List.cons_append]
  | case2 a ha ih =>
    have hhead : (a ++ c :: cs).head? ≠ some '\n' := by
      cases a with
      | nil => simpa using hc
      | cons d a => simpa using fun hd => ha a (by rw [hd])
    rw [List.cons_append, universalNewlines_cr hhead, ih, universalNewlines.eq_2 a ha,
      List.cons_append]
  | case3 d a _ hd ih =>
    rw [List.cons_append, universalNewlines_cons_of_ne hd, universalNewlines_cons_of_ne hd, ih,
      List.cons_append]
  | case4 => rfl

/-- A prefix of the text read that holds no line break stands as it is in the file. -/
theorem prefix_of_prefix_universalNewlines {m t : List Char} (hr : '\r' ∉ m) (hn : '\n' ∉ m)
    (h : m <+: universalNewlines t) : m <+: t := by
  induction m generalizing t with
  | nil => exact List.nil_prefix
  | cons d m ih =>
    rw [List.mem_cons, not_or] at hr hn
    cases t with
    | nil => exact absurd (List.prefix_nil.mp h) (List.cons_ne_nil _ _)
    | cons c cs =>
      by_cases hc : c = '\r'
      · obtain ⟨r, hu⟩ := universalNewlines_cr_cons cs
        rw [hc, hu] at h
        exact absurd (List.cons_prefix_cons.mp h).1.symm hn.1
      · rw [universalNewlines_cons_of_ne hc] at h
        obtain ⟨rfl, hm⟩ := List.cons_prefix_cons.mp h
        exact List.cons_prefix_cons.mpr ⟨rfl, ih hr.2 hn.2 hm⟩

/-- `sorted` on a list of strings: code points compared in order. -/
def sortStrings (l : List (List Char)) : List (List Char) :=
  l.insertionSort (· ≤ ·)

theorem sortStrings_perm (l : List (List Char)) : (sortStrings l).Perm l :=
  List.perm_insertionSort _ l

theorem sortStrings_sorted {l : List (List Char)} (h : l.Nodup) :
    (sortStrings l).Sorted (· < ·) :=
  (List.sorted_insertionSort _ l).lt_of_le ((sortStrings_perm l).nodup_iff.mpr h)

theorem sortStrings_eq_of_perm {l l' : List (List Char)} (h : l.Perm l') :
    sortStrings l = sortStrings l' :=
  List.eq_of_perm_of_sorted (((sortStrings_perm l).trans h).trans (sortStrings_perm l').symm)
    (List.sorted_insertionSort _ l) (List.sorted_insertionSort _ l')

/-- A list of string-keyed pairs strictly sorted by key, as two nested `sorted` loops
walk a dict of dicts, is fixed by its members. -/
theorem eq_of_sorted_keys {β : Type} {l₁ l₂ : List (List Char × β)}
    (h₁ : (l₁.map Prod.fst).Sorted (· < ·)) (h₂ : (l₂.map Prod.fst).Sorted (· < ·))
    (h : ∀ x, x ∈ l₁ ↔ x ∈ l₂) : l₁ = l₂ := by
  have : IsAntisymm (List Char × β) fun a b => a.1 < b.1 :=
    ⟨fun _ _ hab hba => absurd (hab.trans hba) (lt_irrefl _)⟩
  have hp := (List.perm_ext_iff_of_nodup (h₁.nodup.of_map _) (h₂.nodup.of_map _)).mpr h
  exact List.eq_of_perm_of_sorted hp (List.pairwise_map.mp h₁) (List.pairwise_map.mp h₂)

theorem mem_toDigitsCore {fuel n : ℕ} {ds : List Char} {c : Char}
    (h : c ∈ Nat.toDigitsCore 10 fuel n ds) : c ∈ ds ∨ ∃ k < 10, c = Nat.digitChar k := by
  induction fuel generalizing n ds with
  | zero => exact .inl h
  | succ fuel ih =>
    have hd : c ∈ Nat.digitChar (n % 10) :: ds → c ∈ ds ∨ ∃ k < 10, c = Nat.digitChar k :=
      fun h => (List.mem_cons.mp h).elim (fun e => .inr ⟨_, Nat.mod_lt n (by decide), e⟩) .inl
    unfold Nat.toDigitsCore at h
    dsimp only at h
    split at h
    · exact hd h
    · exact (ih h).elim hd .inr

theorem mem_toString_nat {n : ℕ} {c : Char} (h : c ∈ (toString n).toList) :
    ∃ k < 10, c = Nat.digitChar k :=
  (mem_toDigitsCore (show c ∈ Nat.toDigits 10 n from h)).resolve_left (List.not_mem_nil _)

end VibeZScripts.Python
