import VibeZScripts.Python.Findall
import VibeZScripts.Markdown.Layout

/-! # `delete-original-md.py` on the consolidated document

The delete script reads `CONSOLIDATED_DOCUMENTATION.md`, collects the paths of its
`**Source**:` lines with `re.findall`, and removes each path that exists. The
regex runs over the whole document, copied file contents included. A piece of
text emits a list of paths when `findall` over it, followed by anything, yields
that list first; the document is cut into such pieces, which is how the paths it
yields are computed.
-/
namespace VibeZScripts.Markdown
open Python

def sourceMarker : List Char := "**Source**: `".toList

/-- `\*\*Source\*\*: `([^`]+)`` at one position: the marker, a non-empty run with
no backtick (the group), then a backtick. -/
def sourceMatch (s : List Char) : Option (List Char × List Char) :=
  if sourceMarker.isPrefixOf s then
    let path := (s.drop sourceMarker.length).takeWhile (· != '`')
    match (s.drop sourceMarker.length).dropWhile (· != '`') with
    | _ :: rest => if path = [] then none else some (path, rest)
    | [] => none
  else none

theorem sourceMatch_rest_shorter (s g r : List Char) (h : sourceMatch s = some (g, r)) :
    r.length < s.length := by
  unfold sourceMatch at h
  split at h
  · split at h
    · rename_i x rest hd
      dsimp only at h
      split at h
      · simp at h
      · obtain ⟨-, rfl⟩ := Prod.mk.inj (Option.some.inj h)
        have h1 := (List.dropWhile_suffix (· != '`') :
          (s.drop sourceMarker.length).dropWhile _ <:+ _).length_le
        have h2 := (List.drop_suffix sourceMarker.length s).length_le
        rw [hd, List.length_cons] at h1
        omega
    · simp at h
  · simp at h

def sourcePattern : Pattern := ⟨sourceMatch, sourceMatch_rest_shorter⟩

/-- `sources = re.findall(...)` over the document's text. -/
def sources (content : List Char) : List (List Char) :=
  sourcePattern.findall content

theorem not_marker_infix_of_backtick {t : List Char} (h : '`' ∉ t) : ¬ sourceMarker <:+: t :=
  fun hm => h (hm.subset (by decide))

theorem sourceMatch_of_not_marker {s : List Char} (h : ¬ sourceMarker <+: s) :
    sourceMatch s = none := by
  rw [sourceMatch, if_neg (by rwa [List.isPrefixOf_iff_prefix])]

theorem sourceMatch_marker_group {g : List Char} (hg : '`' ∉ g) (rest : List Char) :
    sourceMatch (sourceMarker ++ g ++ '`' :: rest) = if g = [] then none else some (g, rest) := by
  have hpre : sourceMarker.isPrefixOf (sourceMarker ++ g ++ '`' :: rest) :=
    List.isPrefixOf_iff_prefix.mpr (by simp)
  have hdrop : (sourceMarker ++ g ++ '`' :: rest).drop sourceMarker.length = g ++ '`' :: rest := by
    simp
  have hne : ∀ c ∈ g, (c != '`') = true := fun c hc => bne_iff_ne.mpr fun e : c = '`' => hg (e ▸ hc)
  simp only [sourceMatch, hpre, if_true, hdrop, List.takeWhile_append_of_pos hne,
    List.dropWhile_append_of_pos hne]
  simp

theorem sourceMatch_marker_no_backtick {y : List Char} (hy : '`' ∉ y) :
    sourceMatch (sourceMarker ++ y) = none := by
  have hpre : sourceMarker.isPrefixOf (sourceMarker ++ y) :=
    List.isPrefixOf_iff_prefix.mpr (List.prefix_append _ _)
  have hd : y.dropWhile (· != '`') = [] :=
    List.dropWhile_eq_nil_iff.mpr fun c hc => bne_iff_ne.mpr fun e : c = '`' => hy (e ▸ hc)
  simp only [sourceMatch, hpre, if_true, List.drop_left, hd]

/-! ### Reading the document in text mode

The delete script opens the document in text mode, so it reads the text with every
`\r\n` and `\r` turned into `\n`. The marker holds neither, so the matches are
those of the text as written, each group read in text mode. -/

theorem sourceMatch_universalNewlines (s : List Char) :
    sourceMatch (universalNewlines s) =
      (sourceMatch s).map fun m => (universalNewlines m.1, universalNewlines m.2) := by
  have hb : ∀ {t : List Char}, '`' ∈ universalNewlines t → '`' ∈ t := fun h =>
    ((mem_universalNewlines h).resolve_left (by decide)).1
  by_cases hm : sourceMarker <+: s
  · obtain ⟨y, rfl⟩ := hm
    rw [universalNewlines_append_of_cr_not_mem (by decide) y]
    by_cases hy : '`' ∈ y
    · obtain ⟨g, r, rfl, hg⟩ := exists_first_occurrence hy
      rw [universalNewlines_append_cons (by decide) g, universalNewlines_cons_of_ne (by decide),
        ← List.append_assoc, ← List.append_assoc, sourceMatch_marker_group hg,
        sourceMatch_marker_group fun h => hg (hb h)]
      by_cases hg0 : g = []
      · subst hg0; rfl
      · rw [if_neg hg0, if_neg (universalNewlines_ne_nil hg0)]; rfl
    · rw [sourceMatch_marker_no_backtick hy, sourceMatch_marker_no_backtick fun h => hy (hb h)]
      rfl
  · rw [sourceMatch_of_not_marker hm, sourceMatch_of_not_marker fun h =>
      hm (prefix_of_prefix_universalNewlines (by decide) (by decide) h)]
    rfl

/-- What the script reads from the document in text mode is the list of paths the text
names, each read in text mode. -/
theorem sources_universalNewlines (t : List Char) :
    sources (universalNewlines t) = (sources t).map universalNewlines := by
  induction t using Pattern.findall.induct sourcePattern with
  | case1 => simp [sources]
  | case2 c cs g r hm _ ih =>
    have hu : sourcePattern.matchAt (universalNewlines (c :: cs)) =
        some (universalNewlines g, universalNewlines r) := by
      show sourceMatch _ = _
      rw [sourceMatch_universalNewlines, show sourceMatch (c :: cs) = some (g, r) from hm]; rfl
    rw [sources, sourcePattern.findall_of_matchAt hu, sources, sourcePattern.findall_of_matchAt hm,
      List.map_cons]
    exact congrArg _ ih
  | case3 c cs hm ih =>
    have hskip : sources (universalNewlines (c :: cs)) = sources (universalNewlines cs) := by
      rcases universalNewlines_cons c cs with he | he
      · rw [he]
      · have hn : sourcePattern.matchAt (universalNewlines (c :: cs)) = none := by
          show sourceMatch _ = none
          rw [sourceMatch_universalNewlines, show sourceMatch (c :: cs) = none from hm]; rfl
        rw [he] at hn ⊢
        exact sourcePattern.findall_cons_of_matchAt hn
    rw [hskip, ih]
    exact congrArg _ (sourcePattern.findall_cons_of_matchAt hm).symm

/-- Text after which `findall` yields `ps`, whatever follows. -/
def Emits (t : List Char) (ps : List (List Char)) : Prop :=
  ∀ s, sources (t ++ s) = ps ++ sources s

theorem sources_of_emits {t : List Char} {ps : List (List Char)} (h : Emits t ps) :
    sources t = ps := by
  simpa [sources] using h []

theorem Emits.append {a b : List Char} {pa pb : List (List Char)} (ha : Emits a pa)
    (hb : Emits b pb) : Emits (a ++ b) (pa ++ pb) := fun s => by
  rw [List.append_assoc, ha, hb, List.append_assoc]

theorem emits_nil : Emits [] [] := fun _ => rfl

/-- No match starts in a line without the marker: a match would need the marker
across the newline. -/
theorem Emits.newline {t u : List Char} {pu : List (List Char)} (ht : ¬ sourceMarker <:+: t)
    (hu : Emits u pu) : Emits (t ++ '\n' :: u) pu := fun s => by
  have hskip : sourcePattern.findall (t ++ '\n' :: (u ++ s)) =
      sourcePattern.findall ('\n' :: (u ++ s)) := by
    refine sourcePattern.findall_append_of_no_match fun v hv _ => ?_
    have hnot : ¬ sourceMarker.isPrefixOf (v ++ '\n' :: (u ++ s)) := fun hm =>
      ht ((prefix_of_prefix_append_cons (by decide) (List.isPrefixOf_iff_prefix.mp hm)).isInfix.trans
        hv.isInfix)
    simp [sourcePattern, sourceMatch, hnot]
  have hnl : sourcePattern.matchAt ('\n' :: (u ++ s)) = none := by
    simp [sourcePattern, sourceMatch, sourceMarker, List.isPrefixOf]
  rw [List.append_assoc, List.cons_append]
  show sourcePattern.findall _ = _
  rw [hskip, sourcePattern.findall_cons_of_matchAt hnl]
  exact hu s

theorem emits_of_getLast (t : List Char) (hl : t.getLast? = some '\n') (ht : ¬ sourceMarker <:+: t) :
    Emits t [] := by
  rw [← List.dropLast_append_getLast? '\n' hl]
  exact Emits.newline (fun h => ht (h.trans (List.dropLast_prefix t).isInfix)) emits_nil

theorem emits_sourceLine {p : List Char} (hp : p ≠ []) (hb : '`' ∉ p) :
    Emits (sourceLine p) [p] := fun s => by
  have hline : sourceLine p ++ s = sourceMarker ++ p ++ '`' :: ("\n\n".toList ++ s) := by
    simp [sourceLine, sourceMarker]
  rw [hline, sources, sourcePattern.findall_of_matchAt ((sourceMatch_marker_group hb _).trans (if_neg hp))]
  exact congrArg _ (emits_of_getLast ("\n\n".toList) rfl (by decide) s)

theorem emits_line (t : List Char) (ht : '`' ∉ t) : Emits (t ++ ['\n']) [] :=
  Emits.newline (not_marker_infix_of_backtick ht) emits_nil

theorem emits_text (t : List Char) (hl : t.getLast? = some '\n') (ht : '`' ∉ t) : Emits t [] :=
  emits_of_getLast t hl (not_marker_infix_of_backtick ht)

theorem emits_flatten_append {a b : List (List Char)} {pa pb : List (List Char)}
    (ha : Emits a.flatten pa) (hb : Emits b.flatten pb) : Emits (a ++ b).flatten (pa ++ pb) := by
  rw [List.flatten_append]
  exact ha.append hb

theorem emits_flatten_flatMap {α : Type} {l : List α} {f : α → List (List Char)}
    {g : α → List (List Char)} (h : ∀ x ∈ l, Emits (f x).flatten (g x)) :
    Emits (l.flatMap f).flatten (l.flatMap g) := by
  induction l with
  | nil => exact emits_nil
  | cons x l ih =>
    simpa using emits_flatten_append (h x (List.mem_cons_self _ _))
      (ih fun y hy => h y (List.mem_cons_of_mem _ hy))

/-! ### The pieces of the document -/

theorem backtick_not_mem_toString (n : ℕ) : '`' ∉ (toString n).toList := fun h =>
  have hdigit : ∀ k < 10, Nat.digitChar k ≠ '`' := by decide
  let ⟨k, hk, he⟩ := mem_toString_nat h
  hdigit k hk he.symm

theorem backtick_not_mem_anchor {cat : List Char} (h : '`' ∉ cat) : '`' ∉ anchor cat := by
  simp only [anchor, List.mem_map, not_exists, not_and]
  intro c hc
  split
  · decide
  · exact fun he => backtick_not_mem_lower h (he ▸ hc)

theorem backtick_not_mem_of_isCategoryOf {p c : List Char} (hc : IsCategoryOf p c) (h : '`' ∉ p) :
    '`' ∉ c := by
  rcases hc with ⟨rest, -, rfl⟩ | ⟨-, rfl⟩
  · exact fun hb => h (List.mem_append_left _ hb)
  · decide

theorem emits_header (generated : Stamp) (total : ℕ) : Emits (header generated total).flatten [] := by
  have hstamp : '`' ∉ generated.text := fun h => by
    rcases generated.valid _ h with h | h | h | h <;> revert h <;> decide
  have h1 : Emits ("# VibeZ Consolidated Documentation\n".toList) [] := emits_text _ rfl (by decide)
  have h2 : Emits ("**Generated**: ".toList ++ generated.text ++ "\n".toList) [] := by
    simpa using emits_line ("**Generated**: ".toList ++ generated.text) (by simp [hstamp])
  have h3 : Emits
      ("**Purpose**: Complete consolidation of all markdown documentation files\n".toList) [] :=
    emits_text _ rfl (by decide)
  have h4 : Emits
      ("**Total Files Consolidated**: ".toList ++ (toString total).toList ++ "\n".toList) [] := by
    simpa using emits_line ("**Total Files Consolidated**: ".toList ++ (toString total).toList)
      (by simp only [List.mem_append, not_or]; exact ⟨by decide, backtick_not_mem_toString total⟩)
  have h5 : Emits ("\n---\n\n".toList) [] := emits_text _ rfl (by decide)
  have h6 : Emits ("## Table of Contents\n\n".toList) [] := emits_text _ rfl (by decide)
  simpa [header] using h1.append (h2.append (h3.append (h4.append (h5.append h6))))

theorem emits_tocLines (n : ℕ) {cats : List (List Char)} (h : ∀ c ∈ cats, '`' ∉ c) :
    Emits (tocLines n cats).flatten [] := by
  induction cats generalizing n with
  | nil => exact emits_nil
  | cons c cats ih =>
    have hc := h c (List.mem_cons_self _ _)
    have hline : Emits (tocLine n c) [] := by
      simpa [tocLine] using emits_line ((toString n).toList ++ ". [".toList ++ c ++ "](#".toList ++
        anchor c ++ ")".toList) (by
          simp only [List.mem_append, not_or]
          exact ⟨⟨⟨⟨⟨backtick_not_mem_toString n, by decide⟩, hc⟩, by decide⟩,
            backtick_not_mem_anchor hc⟩, by decide⟩)
    simpa [tocLines] using hline.append (ih (n + 1) fun d hd => h d (List.mem_cons_of_mem _ hd))

theorem emits_categoryHeader {cat : List Char} (h : '`' ∉ cat) : Emits (categoryHeader cat) [] := by
  simpa [categoryHeader] using emits_line ("# ".toList ++ cat ++ "\n".toList) (by simp [h])

theorem emits_contentChunks {x : List Char} (h : ¬ sourceMarker <:+: x) :
    Emits (contentChunks x).flatten [] := by
  unfold contentChunks
  split_ifs with h1 h2
  · simpa using emits_of_getLast _ h2 h
  · simpa using Emits.newline h emits_nil
  · simpa using emits_text ("*(File is empty)*\n".toList) rfl (by decide)

theorem emits_sectionChunks {p : List Char} {r : FileRead} (hp : p ≠ []) (hb : '`' ∉ p)
    (hr : ¬ sourceMarker <:+: readFileContent r) : Emits (sectionChunks p r).flatten [p] := by
  have h1 : Emits ("## ".toList ++ p ++ "\n\n".toList) [] := by
    simpa using emits_line ("## ".toList ++ p ++ "\n".toList) (by simp [hb])
  have h3 : Emits ("---\n\n".toList) [] := emits_text _ rfl (by decide)
  have h5 : Emits ("\n---\n\n".toList) [] := emits_text _ rfl (by decide)
  have :=
    h1.append ((emits_sourceLine hp hb).append (h3.append ((emits_contentChunks hr).append h5)))
  simpa [sectionChunks] using this

/-- When no path has a backtick and no file text holds the marker, the paths the
delete script reads from a rendered document are its sections' paths, in order. -/
theorem sources_renderDoc (generated : Stamp) {groups : Groups} (hcat : ∀ g ∈ groups, '`' ∉ g.1)
    (hfile : ∀ f ∈ groups.flatMap Prod.snd,
      f.1 ≠ [] ∧ '`' ∉ f.1 ∧ ¬ sourceMarker <:+: readFileContent f.2) :
    sources (renderDoc generated groups).flatten = (groups.flatMap Prod.snd).map Prod.fst := by
  have hbody : Emits (groups.flatMap fun g => categoryHeader g.1 :: g.2.flatMap fun f =>
      sectionChunks f.1 f.2).flatten (groups.flatMap fun g => g.2.flatMap fun f => [f.1]) := by
    refine emits_flatten_flatMap fun g hg => ?_
    have hsec : Emits (g.2.flatMap fun f => sectionChunks f.1 f.2).flatten
        (g.2.flatMap fun f => [f.1]) :=
      emits_flatten_flatMap fun f hf =>
        have ⟨hp, hb, hr⟩ := hfile f (List.mem_flatMap.mpr ⟨g, hg, hf⟩)
        emits_sectionChunks hp hb hr
    simpa using (emits_categoryHeader (hcat g hg)).append hsec
  have hcats : ∀ c ∈ groups.map Prod.fst, '`' ∉ c := by
    simpa using hcat
  have hsep : Emits ["\n---\n\n".toList].flatten [] := by
    simpa using emits_text ("\n---\n\n".toList) rfl (by decide)
  have hhead := emits_header generated (groups.flatMap Prod.snd).length
  have := emits_flatten_append
    (emits_flatten_append (emits_flatten_append hhead (emits_tocLines 1 hcats)) hsep) hbody
  rw [renderDoc, sources_of_emits this]
  rw [List.map_eq_flatMap, List.flatMap_assoc]
  simp

/-! ### The deletion loop -/

/-- The working directory as the loop sees it: the paths `os.path.exists` accepts,
and the message `os.remove` raises for a path, if it raises. -/
structure Disk where
  paths : List (List Char)
  removeError : List Char → Option (List Char)

structure Report where
  deleted : List (List Char)
  notFound : List (List Char)
  errors : List (List Char × List Char)

/-- One turn of `for source in sources`. -/
def deleteStep (st : Disk × Report) (source : List Char) : Disk × Report :=
  if source ∈ st.1.paths then
    match st.1.removeError source with
    | none => ({ st.1 with paths := st.1.paths.erase source },
        { st.2 with deleted := st.2.deleted ++ [source] })
    | some e => (st.1, { st.2 with errors := st.2.errors ++ [(source, e)] })
  else (st.1, { st.2 with notFound := st.2.notFound ++ [source] })

/-- The script after reading the document: the directory and report it leaves. -/
def deleteOriginals (content : List Char) (disk : Disk) : Disk × Report :=
  (sources content).foldl deleteStep (disk, ⟨[], [], []⟩)

theorem deleteStep_disk (st : Disk × Report) (source : List Char) :
    (deleteStep st source).1 = st.1 ∨
      (source ∈ st.1.paths ∧ st.1.removeError source = none ∧
        (deleteStep st source).1 = { st.1 with paths := st.1.paths.erase source }) := by
  unfold deleteStep
  split
  · split <;> simp_all
  · exact .inl rfl

theorem deleteStep_report (st : Disk × Report) (source : List Char) :
    let r := (deleteStep st source).2
    (r.deleted ++ r.notFound ++ r.errors.map Prod.fst).Perm
      (st.2.deleted ++ st.2.notFound ++ st.2.errors.map Prod.fst ++ [source]) := by
  unfold deleteStep
  rw [List.perm_iff_count]
  intro a
  split
  · split
    · simp [List.count_cons]; omega
    · simp [List.count_cons]
  · simp [List.count_cons]

theorem mem_paths_foldl {p : List Char} :
    ∀ (l : List (List Char)) (st : Disk × Report), p ∈ st.1.paths → p ∉ l →
      p ∈ (l.foldl deleteStep st).1.paths
  | [], _, hp, _ => hp
  | src :: rest, st, hp, hnot => by
    have hne : p ≠ src := fun h => hnot (h ▸ List.mem_cons_self _ _)
    refine mem_paths_foldl rest _ ?_ (fun h => hnot (List.mem_cons_of_mem _ h))
    rcases deleteStep_disk st src with h | ⟨-, -, h⟩ <;> rw [h]
    · exact hp
    · exact (List.mem_erase_of_ne hne).mpr hp

/-- Over a whole run, a path leaves the disk only if the document names it. -/
theorem mem_paths_deleteOriginals {content : List Char} {disk : Disk} {p : List Char}
    (hp : p ∈ disk.paths) (hnot : p ∉ sources content) :
    p ∈ (deleteOriginals content disk).1.paths :=
  mem_paths_foldl _ _ hp hnot

/-- The report accounts for every source once: no path is lost or counted twice. -/
theorem deleteOriginals_report (content : List Char) (disk : Disk) :
    let r := (deleteOriginals content disk).2
    (r.deleted ++ r.notFound ++ r.errors.map Prod.fst).Perm (sources content) := by
  unfold deleteOriginals
  suffices ∀ (l : List (List Char)) (st : Disk × Report),
      let r := (l.foldl deleteStep st).2
      (r.deleted ++ r.notFound ++ r.errors.map Prod.fst).Perm
        (st.2.deleted ++ st.2.notFound ++ st.2.errors.map Prod.fst ++ l) by
    simpa using this (sources content) (disk, ⟨[], [], []⟩)
  intro l
  induction l with
  | nil => simp
  | cons src rest ih =>
    intro st
    rw [List.foldl_cons]
    refine (ih _).trans ?_
    simpa using (deleteStep_report st src).append_right rest

/-- Where the starting disk puts a source: a file that `os.remove` removes is deleted, a
missing path is not found, and a file whose removal fails is an error with its message. -/
def Classified (disk : Disk) (r : Report) (p : List Char) : Prop :=
  (p ∈ disk.paths → disk.removeError p = none → p ∈ r.deleted) ∧
    (p ∉ disk.paths → p ∈ r.notFound) ∧
    ∀ e, p ∈ disk.paths → disk.removeError p = some e → (p, e) ∈ r.errors

theorem Classified.mono {disk : Disk} {r r' : Report} {p : List Char} (h : Classified disk r p)
    (hd : r.deleted ⊆ r'.deleted) (hn : r.notFound ⊆ r'.notFound) (he : r.errors ⊆ r'.errors) :
    Classified disk r' p :=
  ⟨fun h1 h2 => hd (h.1 h1 h2), fun h1 => hn (h.2.1 h1), fun e h1 h2 => he (h.2.2 e h1 h2)⟩

/-- The three outcomes of one turn of the loop. -/
theorem deleteStep_cases (st : Disk × Report) (src : List Char) :
    (src ∈ st.1.paths ∧ st.1.removeError src = none ∧ deleteStep st src =
        ({ st.1 with paths := st.1.paths.erase src }, { st.2 with deleted := st.2.deleted ++ [src] })) ∨
      (∃ e, src ∈ st.1.paths ∧ st.1.removeError src = some e ∧
        deleteStep st src = (st.1, { st.2 with errors := st.2.errors ++ [(src, e)] })) ∨
      (src ∉ st.1.paths ∧
        deleteStep st src = (st.1, { st.2 with notFound := st.2.notFound ++ [src] })) := by
  unfold deleteStep
  split_ifs with hp
  · cases he : st.1.removeError src
    · exact .inl ⟨hp, rfl, rfl⟩
    · exact .inr (.inl ⟨_, hp, rfl, rfl⟩)
  · exact .inr (.inr ⟨hp, rfl⟩)

/-- What the loop keeps after the sources `done`: the disk is the starting disk without
the files deleted so far; each list holds only paths of its kind; and every source
handled stands where `Classified` puts it. -/
structure DeleteInv (disk : Disk) (done : List (List Char)) (st : Disk × Report) : Prop where
  disk_eq : st.1 = { disk with paths := disk.paths.filter (· ∉ st.2.deleted) }
  deleted_removable : ∀ p ∈ st.2.deleted, p ∈ disk.paths ∧ disk.removeError p = none
  notFound_absent : ∀ p ∈ st.2.notFound, p ∉ st.1.paths
  errors_failed : ∀ pe ∈ st.2.errors, pe.1 ∈ st.1.paths ∧ disk.removeError pe.1 = some pe.2
  classified : ∀ p ∈ done, Classified disk st.2 p

theorem Classified.of_removed {disk : Disk} {r : Report} {p : List Char} (hp : p ∈ disk.paths)
    (hr : disk.removeError p = none) (hd : p ∈ r.deleted) : Classified disk r p :=
  ⟨fun _ _ => hd, fun h => absurd hp h,
    fun e _ he => absurd (he.symm.trans hr) (Option.some_ne_none e)⟩

theorem Classified.of_failed {disk : Disk} {r : Report} {p e : List Char} (hp : p ∈ disk.paths)
    (hr : disk.removeError p = some e) (he : (p, e) ∈ r.errors) : Classified disk r p :=
  ⟨fun _ h => absurd (hr.symm.trans h) (Option.some_ne_none e), fun h => absurd hp h,
    fun _ _ h => Option.some.inj (hr.symm.trans h) ▸ he⟩

theorem Classified.snoc {disk : Disk} {r r' : Report} {done : List (List Char)} {src : List Char}
    (h : ∀ p ∈ done, Classified disk r p) (hd : r.deleted ⊆ r'.deleted)
    (hn : r.notFound ⊆ r'.notFound) (he : r.errors ⊆ r'.errors) (hsrc : Classified disk r' src) :
    ∀ p ∈ done ++ [src], Classified disk r' p :=
  List.forall_mem_append.mpr ⟨fun p hp => (h p hp).mono hd hn he, List.forall_mem_singleton.mpr hsrc⟩

theorem DeleteInv.step {disk : Disk} (hn : disk.paths.Nodup) {done : List (List Char)}
    {st : Disk × Report} (h : DeleteInv disk done st) (src : List Char) :
    DeleteInv disk (done ++ [src]) (deleteStep st src) := by
  obtain ⟨d, r⟩ := st
  obtain ⟨hd, hdel, hnf, herr, hcl⟩ := h
  dsimp only at hd hdel hnf herr hcl
  subst hd
  have hsub : ∀ {α : Type} (l : List α) (x : α), l ⊆ l ++ [x] := fun l x => List.subset_append_left l [x]
  have hlast : ∀ {α : Type} (l : List α) (x : α), x ∈ l ++ [x] :=
    fun l x => List.mem_append_right l (List.mem_singleton_self x)
  have hon : ∀ {p}, p ∈ disk.paths.filter (· ∉ r.deleted) ↔ p ∈ disk.paths ∧ p ∉ r.deleted := by
    simp
  rcases deleteStep_cases (_, r) src with ⟨hp, hr, he⟩ | ⟨e, hp, hr, he⟩ | ⟨hp, he⟩ <;> rw [he]
  · -- the file is removed
    have hsrc := (hon.mp hp).1
    refine ⟨?_, List.forall_mem_append.mpr ⟨hdel, List.forall_mem_singleton.mpr ⟨hsrc, hr⟩⟩,
      fun p hp' hm => hnf p hp' (List.mem_of_mem_erase hm), fun pe hpe => ?_,
      Classified.snoc hcl (hsub _ _) (List.Subset.refl _) (List.Subset.refl _)
        (.of_removed hsrc hr (hlast _ _))⟩
    · simp only [(hn.filter _).erase_eq_filter, List.filter_filter]
      congr 2
      funext a
      by_cases ha : a = src <;> simp [ha]
    · have ⟨hm, hf⟩ := herr pe hpe
      have hne : pe.1 ≠ src := fun e => absurd ((e ▸ hf).symm.trans hr) (Option.some_ne_none _)
      exact ⟨(List.mem_erase_of_ne hne).mpr hm, hf⟩
  · -- `os.remove` fails
    exact ⟨rfl, hdel, hnf, List.forall_mem_append.mpr ⟨herr, List.forall_mem_singleton.mpr ⟨hp, hr⟩⟩,
      Classified.snoc hcl (List.Subset.refl _) (List.Subset.refl _) (hsub _ _)
        (.of_failed (hon.mp hp).1 hr (hlast _ _))⟩
  · -- the path is not on disk; a path on the starting disk was deleted by an earlier turn
    have hdeleted : src ∈ disk.paths → src ∈ r.deleted := fun hm =>
      by_contra fun hnd => hp (hon.mpr ⟨hm, hnd⟩)
    exact ⟨rfl, hdel, List.forall_mem_append.mpr ⟨hnf, List.forall_mem_singleton.mpr hp⟩, herr,
      Classified.snoc hcl (List.Subset.refl _) (hsub _ _) (List.Subset.refl _)
        ⟨fun hm _ => hdeleted hm, fun _ => hlast _ _,
          fun e hm he => absurd (he.symm.trans (hdel _ (hdeleted hm)).2) (Option.some_ne_none e)⟩⟩

theorem DeleteInv.run {disk : Disk} (hn : disk.paths.Nodup) (l : List (List Char))
    {done : List (List Char)} {st : Disk × Report} (h : DeleteInv disk done st) :
    DeleteInv disk (done ++ l) (l.foldl deleteStep st) := by
  induction l generalizing done st with
  | nil => simpa using h
  | cons src l ih => simpa using ih (h.step hn src)

/-- A run of the delete script: its report names every source of the document once,
as deleted, not found or failed; the disk afterwards is the disk before without
exactly the deleted files; a deleted file was on disk and removable, a path not found
is not on disk, a failed one stays with the message of its failure; and every source
stands where the starting disk puts it. -/
theorem deleteOriginals_spec (content : List Char) (disk : Disk) (hn : disk.paths.Nodup) :
    let st := deleteOriginals content disk
    (st.2.deleted ++ st.2.notFound ++ st.2.errors.map Prod.fst).Perm (sources content) ∧
      st.1 = { disk with paths := disk.paths.filter (· ∉ st.2.deleted) } ∧
      (∀ p ∈ st.2.deleted, p ∈ disk.paths ∧ disk.removeError p = none) ∧
      (∀ p ∈ st.2.notFound, p ∉ st.1.paths) ∧
      (∀ pe ∈ st.2.errors, pe.1 ∈ st.1.paths ∧ disk.removeError pe.1 = some pe.2) ∧
      ∀ p ∈ sources content, Classified disk st.2 p := by
  have hinit : DeleteInv disk [] (disk, ⟨[], [], []⟩) :=
    ⟨by cases disk; simp, by simp, by simp, by simp, by simp⟩
  have h : DeleteInv disk ([] ++ sources content) (deleteOriginals content disk) :=
    hinit.run hn (sources content)
  exact ⟨deleteOriginals_report content disk, h.disk_eq, h.deleted_removable, h.notFound_absent,
    h.errors_failed, fun p hp => h.classified p (by simpa using hp)⟩

theorem deleteOriginals_spec_notes :
    (⟨["README.md".toList, "notes.txt".toList], fun _ => none⟩ : Disk).paths.Nodup ∧
      (let st := deleteOriginals "**Source**: `notes.txt`\n".toList
          ⟨["README.md".toList, "notes.txt".toList], fun _ => none⟩;
        (st.2.deleted ++ st.2.notFound ++ st.2.errors.map Prod.fst).Perm
            (sources "**Source**: `notes.txt`\n".toList) ∧
          st.1 = { (⟨["README.md".toList, "notes.txt".toList], fun _ => none⟩ : Disk) with
            paths := ["README.md".toList, "notes.txt".toList].filter (· ∉ st.2.deleted) } ∧
          (∀ p ∈ st.2.deleted, p ∈ ["README.md".toList, "notes.txt".toList] ∧
            (fun _ => none : List Char → Option (List Char)) p = none) ∧
          (∀ p ∈ st.2.notFound, p ∉ st.1.paths) ∧
          (∀ pe ∈ st.2.errors, pe.1 ∈ st.1.paths ∧
            (fun _ => none : List Char → Option (List Char)) pe.1 = some pe.2) ∧
          ∀ p ∈ sources "**Source**: `notes.txt`\n".toList,
            Classified ⟨["README.md".toList, "notes.txt".toList], fun _ => none⟩ st.2 p) :=
  ⟨by decide, deleteOriginals_spec "**Source**: `notes.txt`\n".toList
    ⟨["README.md".toList, "notes.txt".toList], fun _ => none⟩ (by decide)⟩

/-! ### Running the script again -/

/-- What the sources handled so far leave on disk: each of them still there is a file
`os.remove` fails on. -/
structure OnlyFailures (done : List (List Char)) (d : Disk) : Prop where
  nodup : d.paths.Nodup
  failing : ∀ s ∈ done, s ∈ d.paths → d.removeError s ≠ none

theorem OnlyFailures.step {done : List (List Char)} {st : Disk × Report}
    (h : OnlyFailures done st.1) (src : List Char) :
    OnlyFailures (done ++ [src]) (deleteStep st src).1 := by
  have hold : ∀ s ∈ done ++ [src], s ∈ st.1.paths → s ≠ src → st.1.removeError s ≠ none :=
    fun s hs hp hne => h.failing s ((List.mem_append.mp hs).resolve_right (by simpa using hne)) hp
  unfold deleteStep
  split
  · split
    · refine ⟨h.nodup.erase src, fun s hs hp => ?_⟩
      have hne : s ≠ src := fun e => h.nodup.not_mem_erase (e ▸ hp)
      exact hold s hs ((List.mem_erase_of_ne hne).mp hp) hne
    · rename_i e he
      refine ⟨h.nodup, fun s hs hp => ?_⟩
      by_cases hne : s = src
      · rw [hne, he]; exact Option.some_ne_none e
      · exact hold s hs hp hne
  · refine ⟨h.nodup, fun s hs hp => ?_⟩
    by_cases hne : s = src
    · exact absurd (hne ▸ hp) ‹_›
    · exact hold s hs hp hne

theorem OnlyFailures.run {done : List (List Char)} (l : List (List Char)) {st : Disk × Report}
    (h : OnlyFailures done st.1) : OnlyFailures (done ++ l) (l.foldl deleteStep st).1 := by
  induction l generalizing done st with
  | nil => simpa using h
  | cons src l ih => simpa using ih (h.step src)

theorem foldl_deleteStep_failing {d : Disk} :
    ∀ (l : List (List Char)) (r : Report), (∀ s ∈ l, s ∈ d.paths → d.removeError s ≠ none) →
      (l.foldl deleteStep (d, r)).1 = d ∧ (l.foldl deleteStep (d, r)).2.deleted = r.deleted
  | [], _, _ => ⟨rfl, rfl⟩
  | src :: l, r, h => by
    have hstep : ∃ r', deleteStep (d, r) src = (d, r') ∧ r'.deleted = r.deleted := by
      unfold deleteStep
      split
      · split
        · exact absurd ‹_› (h src (List.mem_cons_self _ _) ‹_›)
        · exact ⟨_, rfl, rfl⟩
      · exact ⟨_, rfl, rfl⟩
    obtain ⟨r', hr, hdel⟩ := hstep
    rw [List.foldl_cons, hr, ← hdel]
    exact foldl_deleteStep_failing l r' fun s hs => h s (List.mem_cons_of_mem _ hs)

/-- Running the delete script a second time on the same document deletes nothing and
leaves the directory as the first run left it. -/
theorem deleteOriginals_rerun (content : List Char) (disk : Disk) (hn : disk.paths.Nodup) :
    let st := deleteOriginals content disk
    (deleteOriginals content st.1).1 = st.1 ∧ (deleteOriginals content st.1).2.deleted = [] := by
  have hinit : OnlyFailures [] (disk, (⟨[], [], []⟩ : Report)).1 := ⟨hn, by simp⟩
  have h : OnlyFailures ([] ++ sources content) (deleteOriginals content disk).1 :=
    hinit.run (sources content)
  exact foldl_deleteStep_failing (sources content) ⟨[], [], []⟩
    fun s hs => h.failing s (by simpa using hs)

theorem deleteOriginals_rerun_notes :
    (⟨["README.md".toList, "notes.txt".toList], fun _ => none⟩ : Disk).paths.Nodup ∧
      (let st := deleteOriginals "**Source**: `notes.txt`\n".toList
          ⟨["README.md".toList, "notes.txt".toList], fun _ => none⟩;
        (deleteOriginals "**Source**: `notes.txt`\n".toList st.1).1 = st.1 ∧
          (deleteOriginals "**Source**: `notes.txt`\n".toList st.1).2.deleted = []) :=
  have hn : (⟨["README.md".toList, "notes.txt".toList], fun _ => none⟩ : Disk).paths.Nodup := by
    decide
  ⟨hn, deleteOriginals_rerun _ _ hn⟩

/-! ### Consolidation, then deletion -/

theorem consolidateMarkdownFiles_eq (generated : Stamp) (tree : Tree) :
    consolidateMarkdownFiles generated tree =
      some ((renderDoc generated (groupsOf (collectMdFiles tree))).flatten, (collectMdFiles tree).length) := by
  simp [consolidateMarkdownFiles, consolidateDoc_eq_renderDoc (nodup_collectMdFiles tree)]

theorem ne_nil_of_mem_collectMdFiles {tree : Tree} {f : List Char × FileRead}
    (hf : f ∈ collectMdFiles tree) : f.1 ≠ [] := by
  obtain ⟨e, -, rfl⟩ := List.mem_map.mp hf
  exact e.relPath_ne_nil

section Tree

variable (generated : Stamp) (tree : Tree)
  (hpath : ∀ f ∈ collectMdFiles tree, '`' ∉ f.1)
  (hread : ∀ f ∈ collectMdFiles tree, ¬ sourceMarker <:+: readFileContent f.2)
include hpath hread

/-- Without a backtick in a path and without the marker in a file's text, the
document names exactly its sections' paths. -/
theorem sources_consolidated :
    sources (renderDoc generated (groupsOf (collectMdFiles tree))).flatten =
      ((groupsOf (collectMdFiles tree)).flatMap Prod.snd).map Prod.fst := by
  have hg := groupedAs_groupsOf (nodup_collectMdFiles tree)
  refine sources_renderDoc generated (fun g hg' => ?_) fun f hf => ?_
  · obtain ⟨f, hf, hc⟩ := (hg.categories_exact g.1).mp (List.mem_map_of_mem _ hg')
    exact backtick_not_mem_of_isCategoryOf hc (hpath f hf)
  · have hf' := hg.files_exact.subset hf
    exact ⟨ne_nil_of_mem_collectMdFiles hf', hpath f hf', hread f hf'⟩

/-- Consolidation followed by deletion, when no relative path holds a backtick or a
carriage return and no text `read_file_content` returns holds `**Source**: ``: the run
returns; the delete script, reading the document in text mode, reads each collected path
once and nothing else; and every file it removes is a collected one whose section in the
document holds, after its `**Source**:` line, what the file shows. -/
theorem consolidate_then_delete (hcr : ∀ f ∈ collectMdFiles tree, '\r' ∉ f.1) (disk : Disk) :
    ∃ doc, consolidateMarkdownFiles generated tree = some (doc, (collectMdFiles tree).length) ∧
      (sources (universalNewlines doc)).Perm ((collectMdFiles tree).map Prod.fst) ∧
      ∀ p ∈ disk.paths, p ∉ (deleteOriginals (universalNewlines doc) disk).1.paths →
        ∃ r, (p, r) ∈ collectMdFiles tree ∧ sectionText p r <:+: doc := by
  have hg := groupedAs_groupsOf (nodup_collectMdFiles tree)
  have hsrc : sources (universalNewlines (layoutDoc generated (groupsOf (collectMdFiles tree)))) =
      ((groupsOf (collectMdFiles tree)).flatMap Prod.snd).map Prod.fst := by
    rw [← flatten_renderDoc, sources_universalNewlines,
      sources_consolidated generated tree hpath hread, List.map_map]
    exact List.map_congr_left fun f hf =>
      universalNewlines_of_cr_not_mem (hcr f (hg.files_exact.subset hf))
  refine ⟨layoutDoc generated (groupsOf (collectMdFiles tree)), ?_,
    hsrc ▸ hg.files_exact.map Prod.fst, fun p hp hrem => ?_⟩
  · rw [consolidateMarkdownFiles_eq, flatten_renderDoc]
  · have hin : p ∈ sources (universalNewlines (layoutDoc generated (groupsOf (collectMdFiles tree)))) :=
      by_contra fun h => hrem (mem_paths_deleteOriginals hp h)
    rw [hsrc] at hin
    obtain ⟨f, hf, rfl⟩ := List.mem_map.mp hin
    exact ⟨f.2, hg.files_exact.subset hf, sectionText_infix_layoutDoc generated hf⟩

end Tree

def sampleTree : Tree :=
  ⟨[⟨["docs".toList], "a.md".toList, .readable "# A\r\n".toList, by decide⟩,
    ⟨[], "README.md".toList, .readable "hello".toList, by decide⟩], by decide⟩

theorem consolidate_then_delete_sample :
    (∀ f ∈ collectMdFiles sampleTree, '`' ∉ f.1) ∧
    (∀ f ∈ collectMdFiles sampleTree, ¬ sourceMarker <:+: readFileContent f.2) ∧
    (∀ f ∈ collectMdFiles sampleTree, '\r' ∉ f.1) ∧
    ∃ doc, consolidateMarkdownFiles ⟨[], by simp⟩ sampleTree =
        some (doc, (collectMdFiles sampleTree).length) ∧
      (sources (universalNewlines doc)).Perm ((collectMdFiles sampleTree).map Prod.fst) ∧
      ∀ p ∈ ["README.md".toList, "notes.txt".toList],
        p ∉ (deleteOriginals (universalNewlines doc)
          ⟨["README.md".toList, "notes.txt".toList], fun _ => none⟩).1.paths →
        ∃ r, (p, r) ∈ collectMdFiles sampleTree ∧ sectionText p r <:+: doc :=
  have h1 : ∀ f ∈ collectMdFiles sampleTree, '`' ∉ f.1 := by decide
  have h2 : ∀ f ∈ collectMdFiles sampleTree, ¬ sourceMarker <:+: readFileContent f.2 := by decide
  have h3 : ∀ f ∈ collectMdFiles sampleTree, '\r' ∉ f.1 := by decide
  ⟨h1, h2, h3, consolidate_then_delete _ _ h1 h2 h3
    ⟨["README.md".toList, "notes.txt".toList], fun _ => none⟩⟩

def unreadableTree : Tree :=
  ⟨[⟨[], "a.md".toList, .unreadable "[Errno 13] Permission denied".toList, by decide⟩], by decide⟩

theorem consolidate_deletes_unreadable :
    ¬ ∀ (generated : Stamp) (tree : Tree) (doc : List Char) (n : ℕ),
      consolidateMarkdownFiles generated tree = some (doc, n) →
      ∀ p ∈ sources (universalNewlines doc),
        ∃ c, (p, FileRead.readable c) ∈ collectMdFiles tree ∧ c <:+: doc := by
  intro h
  let generated : Stamp := ⟨[], by simp⟩
  have hfiles : collectMdFiles unreadableTree =
      [("a.md".toList, .unreadable "[Errno 13] Permission denied".toList)] := by decide
  have hsrc := sources_consolidated generated unreadableTree
    (by rw [hfiles]; decide) (by rw [hfiles]; decide)
  have hperm := (groupedAs_groupsOf (nodup_collectMdFiles unreadableTree)).files_exact
  rw [hfiles, List.perm_singleton] at hperm
  rw [hfiles, hperm] at hsrc
  have hread : sources (universalNewlines
      (renderDoc generated (groupsOf (collectMdFiles unreadableTree))).flatten) = ["a.md".toList] := by
    rw [sources_universalNewlines, hfiles, hsrc]
    decide
  obtain ⟨c, hc, -⟩ := h generated unreadableTree _ _ (consolidateMarkdownFiles_eq generated _) _
    (by rw [hread]; exact List.mem_singleton_self _)
  simp [hfiles] at hc

end VibeZScripts.Markdown
