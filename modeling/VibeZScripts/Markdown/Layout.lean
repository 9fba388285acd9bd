import VibeZScripts.Markdown.Consolidate

/-! # The layout of the consolidated document

The document `consolidate_markdown_files` writes is the rendering of a grouping
of the files: categories in sorted order, each with its files in sorted path
order. The code reaches that grouping through the dict `toc_sections`, two calls
to `sorted`, and a `next(...)` lookup per path; this module shows that these
agree, for every list of files with distinct paths.

The grouping and the text are stated twice: `renderDoc` emits the pieces as the
code does, and `layoutDoc` spells the document out as its format describes it,
with the category of a path given by `IsCategoryOf`. The two meet in
`flatten_renderDoc` and `isCategoryOf_iff`.
-/
namespace VibeZScripts.Markdown
open Python

abbrev Groups := List (List Char × List (List Char × FileRead))

/-- The document a grouping stands for, piece by piece as the code emits it. -/
def renderDoc (generated : Stamp) (groups : Groups) : List (List Char) :=
  header generated (groups.flatMap Prod.snd).length ++ tocLines 1 (groups.map Prod.fst) ++
    ["\n---\n\n".toList] ++
    groups.flatMap fun g => categoryHeader g.1 :: g.2.flatMap fun f => sectionChunks f.1 f.2

/-! ### The document as its format describes it -/

/-- The category a path is filed under: the part before its first `/` when it has one,
`Root` when it has none. -/
def IsCategoryOf (path cat : List Char) : Prop :=
  (∃ rest, '/' ∉ cat ∧ path = cat ++ '/' :: rest) ∨ ('/' ∉ path ∧ cat = "Root".toList)

/-- What a section shows after its rule: a readable file's text, closed by a newline, or
the empty-file marker when the text is whitespace only; for a file that could not be
read, the error comment. -/
def shownText : FileRead → List Char
  | .readable text =>
    if text.all isSpace then "*(File is empty)*\n".toList
    else if text.getLast? = some '\n' then text else text ++ "\n".toList
  | .unreadable e => "<!-- Error reading file: ".toList ++ e ++ " -->\n".toList

/-- A file's section: its heading, its `**Source**:` line, a rule, what it shows, a rule. -/
def sectionText (path : List Char) (read : FileRead) : List Char :=
  "## ".toList ++ path ++ "\n\n".toList ++ "**Source**: `".toList ++ path ++ "`\n\n".toList ++
    "---\n\n".toList ++ shownText read ++ "\n---\n\n".toList

/-- The table of contents from entry `n` on: each category numbered and linked to the
anchor of its heading, the category lowered with spaces as dashes. -/
def tocText (n : ℕ) : List (List Char) → List Char
  | [] => []
  | cat :: cats => (toString n).toList ++ ". [".toList ++ cat ++ "](#".toList ++
      (lower cat).map (fun c => if c = ' ' then '-' else c) ++ ")\n".toList ++ tocText (n + 1) cats

/-- The document of a grouping: the header with the number of files, the table of
contents, then each category's heading followed by the sections of its files. -/
def layoutDoc (generated : Stamp) (groups : Groups) : List Char :=
  "# VibeZ Consolidated Documentation\n".toList ++
    "**Generated**: ".toList ++ generated.text ++ "\n".toList ++
    "**Purpose**: Complete consolidation of all markdown documentation files\n".toList ++
    "**Total Files Consolidated**: ".toList ++
      (toString (groups.flatMap Prod.snd).length).toList ++ "\n".toList ++
    "\n---\n\n".toList ++ "## Table of Contents\n\n".toList ++ tocText 1 (groups.map Prod.fst) ++
    "\n---\n\n".toList ++
    groups.flatMap fun g => "# ".toList ++ g.1 ++ "\n\n".toList ++ g.2.flatMap fun f => sectionText f.1 f.2

/-- The grouping the document must have: sorted distinct categories, exactly the
files' own, each file once under its own category, sorted paths within one. -/
structure GroupedAs (files : List (List Char × FileRead)) (groups : Groups) : Prop where
  categories_sorted : (groups.map Prod.fst).Sorted (· < ·)
  categories_exact : ∀ c, c ∈ groups.map Prod.fst ↔ ∃ f ∈ files, IsCategoryOf f.1 c
  paths_sorted : ∀ g ∈ groups, (g.2.map Prod.fst).Sorted (· < ·)
  own_category : ∀ g ∈ groups, ∀ f ∈ g.2, IsCategoryOf f.1 g.1
  files_exact : (groups.flatMap Prod.snd).Perm files

/-! ### The code's pieces spell the document out -/

/-- `rel_path.split('/')` gives the category `IsCategoryOf` describes. -/
theorem isCategoryOf_iff (p c : List Char) : IsCategoryOf p c ↔ category p = c := by
  by_cases hp : '/' ∈ p
  · obtain ⟨a, r, rfl, ha⟩ := exists_first_occurrence hp
    have hcat : category (a ++ '/' :: r) = a := by
      have hsplit : (a ++ '/' :: r).splitOn '/' = a :: r.splitOn '/' :=
        List.splitOnP_first _ _ (fun x hx => by simpa using fun e : x = '/' => ha (e ▸ hx)) _ rfl _
      obtain ⟨q, qs, hq⟩ := List.exists_cons_of_ne_nil (List.splitOnP_ne_nil (· == '/') r)
      simp only [category, hsplit]
      rw [show r.splitOn '/' = q :: qs from hq]
    rw [hcat]
    constructor
    · rintro (⟨rest, hc, he⟩ | ⟨hn, -⟩)
      · exact eq_of_append_cons_eq ha hc he
      · exact absurd (List.mem_append_right a (List.mem_cons_self _ _)) hn
    · rintro rfl
      exact .inl ⟨r, ha, rfl⟩
  · have hcat : category p = "Root".toList := by
      have hsplit : p.splitOn '/' = [p] := List.splitOnP_eq_single _ _ fun x hx => by
        simpa using fun e : x = '/' => hp (e ▸ hx)
      simp [category, hsplit]
    rw [hcat]
    constructor
    · rintro (⟨rest, -, rfl⟩ | ⟨-, rfl⟩)
      · exact absurd (List.mem_append_right _ (List.mem_cons_self _ _)) hp
      · rfl
    · rintro rfl
      exact .inr ⟨hp, rfl⟩

theorem IsCategoryOf.unique {p a b : List Char} (ha : IsCategoryOf p a) (hb : IsCategoryOf p b) :
    a = b :=
  ((isCategoryOf_iff p a).mp ha).symm.trans ((isCategoryOf_iff p b).mp hb)

theorem flatten_contentChunks (r : FileRead) :
    (contentChunks (readFileContent r)).flatten = shownText r := by
  cases r with
  | readable text =>
    have hblank : strip text = [] ↔ text.all isSpace := by rw [strip_eq_nil_iff, List.all_eq_true]
    simp only [contentChunks, readFileContent, shownText, ← hblank, ne_eq]
    split_ifs <;> simp
  | unreadable e =>
    have hne : strip (readFileContent (.unreadable e)) ≠ [] := fun h =>
      absurd ((strip_eq_nil_iff _).mp h '<' (by simp [readFileContent])) (by decide)
    have hlast : (readFileContent (.unreadable e)).getLast? = some '\n' := by
      rw [readFileContent, List.getLast?_append]; rfl
    rw [contentChunks, if_pos hne, if_pos hlast, List.flatten_cons, List.flatten_nil,
      List.append_nil]
    rfl

theorem flatten_sectionChunks (p : List Char) (r : FileRead) :
    (sectionChunks p r).flatten = sectionText p r := by
  simp [sectionChunks, sectionText, sourceLine, flatten_contentChunks]

theorem flatten_tocLines (n : ℕ) (cats : List (List Char)) :
    (tocLines n cats).flatten = tocText n cats := by
  induction cats generalizing n with
  | nil => rfl
  | cons c cats ih => simp [tocLines, tocText, tocLine, anchor, ih]

theorem flatten_flatMap {α β : Type} (l : List α) (f : α → List (List β)) :
    (l.flatMap f).flatten = l.flatMap fun a => (f a).flatten := by
  induction l with
  | nil => rfl
  | cons a l ih => simp [ih]

/-- Each section of a grouping stands whole in its document. -/
theorem sectionText_infix_layoutDoc (generated : Stamp) {groups : Groups}
    {f : List Char × FileRead} (hf : f ∈ groups.flatMap Prod.snd) :
    sectionText f.1 f.2 <:+: layoutDoc generated groups := by
  obtain ⟨g, hg, hfg⟩ := List.mem_flatMap.mp hf
  have h1 : sectionText f.1 f.2 <:+: g.2.flatMap fun f => sectionText f.1 f.2 := by
    rw [List.flatMap_def]
    exact List.infix_of_mem_flatten (List.mem_map_of_mem _ hfg)
  have h2 : ("# ".toList ++ g.1 ++ "\n\n".toList ++ g.2.flatMap fun f => sectionText f.1 f.2) <:+:
      groups.flatMap fun g =>
        "# ".toList ++ g.1 ++ "\n\n".toList ++ g.2.flatMap fun f => sectionText f.1 f.2 := by
    rw [List.flatMap_def]
    exact List.infix_of_mem_flatten (List.mem_map_of_mem
      (fun g : List Char × List (List Char × FileRead) =>
        "# ".toList ++ g.1 ++ "\n\n".toList ++ g.2.flatMap fun f => sectionText f.1 f.2) hg)
  exact h1.trans ((List.suffix_append _ _).isInfix.trans (h2.trans (List.suffix_append _ _).isInfix))

theorem flatten_renderDoc (generated : Stamp) (groups : Groups) :
    (renderDoc generated groups).flatten = layoutDoc generated groups := by
  simp only [renderDoc, layoutDoc, header, categoryHeader, List.flatten_append, List.flatten_cons,
    List.flatten_nil, List.append_nil, List.append_assoc, flatten_tocLines, flatten_flatMap,
    List.cons_append, List.nil_append, flatten_sectionChunks]

/-! ### The dict `toc_sections` -/

theorem lookupSection_addPath (secs : List (List Char × List (List Char))) (cat p c : List Char) :
    lookupSection (addPath secs cat p) c =
      if c = cat then lookupSection secs c ++ [p] else lookupSection secs c := by
  rw [lookupSection, addPath, dictGet_dictUpdate]
  by_cases h : c = cat
  · subst h; simp [lookupSection]
  · simp [lookupSection, h]

theorem mem_keys_addPath (secs : List (List Char × List (List Char))) (cat p x : List Char) :
    x ∈ (addPath secs cat p).map Prod.fst ↔ x ∈ secs.map Prod.fst ∨ x = cat := by
  rw [addPath, keys_dictUpdate]
  split
  · exact ⟨.inl, fun h => h.elim id fun e => e ▸ ‹_›⟩
  · simp

theorem nodup_keys_addPath {secs : List (List Char × List (List Char))} (cat p : List Char)
    (h : (secs.map Prod.fst).Nodup) : ((addPath secs cat p).map Prod.fst).Nodup :=
  nodup_keys_dictUpdate h _ _ _

def addFile (secs : List (List Char × List (List Char))) (f : List Char × FileRead) :
    List (List Char × List (List Char)) :=
  addPath secs (category f.1) f.1

theorem lookupSection_foldl (l : List (List Char × FileRead)) (acc) (c : List Char) :
    lookupSection (l.foldl addFile acc) c =
      lookupSection acc c ++ (l.filter fun f => category f.1 == c).map Prod.fst := by
  induction l generalizing acc with
  | nil => simp
  | cons f l ih =>
    rw [List.foldl_cons, ih, addFile, lookupSection_addPath]
    by_cases h : c = category f.1
    · simp [h]
    · simp [h, Ne.symm h]

theorem mem_keys_foldl (l : List (List Char × FileRead)) (acc) (x : List Char) :
    x ∈ (l.foldl addFile acc).map Prod.fst ↔
      x ∈ acc.map Prod.fst ∨ ∃ f ∈ l, category f.1 = x := by
  induction l generalizing acc with
  | nil => simp
  | cons f l ih =>
    rw [List.foldl_cons, ih, addFile, mem_keys_addPath]
    constructor
    · rintro ((h | rfl) | ⟨g, hg, rfl⟩)
      · exact .inl h
      · exact .inr ⟨f, List.mem_cons_self _ _, rfl⟩
      · exact .inr ⟨g, List.mem_cons_of_mem _ hg, rfl⟩
    · rintro (h | ⟨g, hg, rfl⟩)
      · exact .inl (.inl h)
      · rcases List.mem_cons.mp hg with rfl | hg
        · exact .inl (.inr rfl)
        · exact .inr ⟨g, hg, rfl⟩

theorem nodup_keys_foldl (l : List (List Char × FileRead))
    {acc : List (List Char × List (List Char))}
    (h : (acc.map Prod.fst).Nodup) : ((l.foldl addFile acc).map Prod.fst).Nodup := by
  induction l generalizing acc with
  | nil => exact h
  | cons f l ih => exact ih (nodup_keys_addPath _ _ h)

theorem tocSections_eq_foldl (mdFiles : List (List Char × FileRead)) :
    tocSections mdFiles = mdFiles.foldl addFile [] := rfl

theorem lookupSection_tocSections (mdFiles : List (List Char × FileRead)) (c : List Char) :
    lookupSection (tocSections mdFiles) c =
      (mdFiles.filter fun f => category f.1 == c).map Prod.fst := by
  simp [tocSections_eq_foldl, lookupSection_foldl]

theorem mem_keys_tocSections (mdFiles : List (List Char × FileRead)) (c : List Char) :
    c ∈ (tocSections mdFiles).map Prod.fst ↔ ∃ f ∈ mdFiles, category f.1 = c := by
  rw [tocSections_eq_foldl, mem_keys_foldl]
  simp

theorem nodup_keys_tocSections (mdFiles : List (List Char × FileRead)) :
    ((tocSections mdFiles).map Prod.fst).Nodup :=
  nodup_keys_foldl mdFiles List.nodup_nil

/-! ### `sorted` and `next(...)` -/


theorem mem_lookupSection_tocSections {p cat : List Char}
    (hp : p ∈ lookupSection (tocSections md) cat) :
    p ∈ md.map Prod.fst := by
  rw [lookupSection_tocSections] at hp
  exact (List.filter_sublist md).map Prod.fst |>.subset hp

section Lookup

variable {md : List (List Char × FileRead)} (hmd : (md.map Prod.fst).Nodup)
include hmd

theorem find?_eq_of_mem {f : List Char × FileRead} (hf : f ∈ md) :
    md.find? (·.1 == f.1) = some f := by
  induction md with
  | nil => simp at hf
  | cons g rest ih =>
    obtain ⟨hg, hrest⟩ := List.nodup_cons.mp hmd
    rcases List.mem_cons.mp hf with rfl | hf
    · simp
    · have hne : g.1 ≠ f.1 := fun h => hg (h ▸ List.mem_map_of_mem _ hf)
      rw [List.find?_cons_of_neg _ (by simpa using hne), ih hrest hf]

theorem mem_filterMap_find? {ps : List (List Char)} {f : List Char × FileRead} :
    f ∈ ps.filterMap (fun p => md.find? (·.1 == p)) ↔ f ∈ md ∧ f.1 ∈ ps := by
  simp only [List.mem_filterMap]
  constructor
  · rintro ⟨p, hp, h⟩
    have hfp : f.1 = p := by simpa using List.find?_some h
    exact ⟨List.mem_of_find?_eq_some h, hfp ▸ hp⟩
  · rintro ⟨hf, hp⟩
    exact ⟨f.1, hp, find?_eq_of_mem hmd hf⟩

theorem map_fst_filterMap_find? {ps : List (List Char)}
    (hps : ∀ p ∈ ps, p ∈ md.map Prod.fst) :
    (ps.filterMap fun p => md.find? (·.1 == p)).map Prod.fst = ps := by
  induction ps with
  | nil => rfl
  | cons p ps ih =>
    obtain ⟨f, hf, rfl⟩ := List.mem_map.mp (hps p (List.mem_cons_self _ _))
    rw [List.filterMap_cons, find?_eq_of_mem hmd hf]
    simp [ih fun q hq => hps q (List.mem_cons_of_mem _ hq)]

/-- Every `next(...)` of one category succeeds, so its sections are emitted. -/
theorem mapM_fileChunks {ps : List (List Char)} (hps : ∀ p ∈ ps, p ∈ md.map Prod.fst) :
    ps.mapM (fileChunks md) =
      some ((ps.filterMap fun p => md.find? (·.1 == p)).map fun f => sectionChunks f.1 f.2) := by
  induction ps with
  | nil => rfl
  | cons p ps ih =>
    obtain ⟨f, hf, rfl⟩ := List.mem_map.mp (hps p (List.mem_cons_self _ _))
    have hfile : fileChunks md f.1 = some (sectionChunks f.1 f.2) := by
      simp [fileChunks, find?_eq_of_mem hmd hf]
    rw [List.mapM_cons, hfile, ih fun q hq => hps q (List.mem_cons_of_mem _ hq)]
    simp [find?_eq_of_mem hmd hf]

def groupFiles (mdFiles : List (List Char × FileRead)) (cat : List Char) :
    List (List Char × FileRead) :=
  (sortStrings (lookupSection (tocSections mdFiles) cat)).filterMap fun p => mdFiles.find? (·.1 == p)

theorem mem_groupFiles {cat : List Char} {f : List Char × FileRead} :
    f ∈ groupFiles md cat ↔ f ∈ md ∧ category f.1 = cat := by
  rw [groupFiles, mem_filterMap_find? hmd, (sortStrings_perm _).mem_iff, lookupSection_tocSections]
  simp only [List.mem_map, List.mem_filter, beq_iff_eq]
  constructor
  · rintro ⟨hf, g, ⟨-, hg⟩, hgf⟩
    exact ⟨hf, hgf ▸ hg⟩
  · rintro ⟨hf, hc⟩
    exact ⟨hf, f, ⟨hf, hc⟩, rfl⟩

theorem groupFiles_sorted (cat : List Char) :
    ((groupFiles md cat).map Prod.fst).Sorted (· < ·) := by
  rw [groupFiles, map_fst_filterMap_find? hmd fun p hp =>
    mem_lookupSection_tocSections ((sortStrings_perm _).subset hp)]
  apply sortStrings_sorted
  rw [lookupSection_tocSections]
  exact hmd.sublist ((List.filter_sublist md).map Prod.fst)

theorem categoryChunks_eq (cat : List Char) :
    categoryChunks md (tocSections md) cat =
      some (categoryHeader cat :: (groupFiles md cat).flatMap fun f => sectionChunks f.1 f.2) := by
  rw [categoryChunks, mapM_fileChunks hmd fun p hp =>
    mem_lookupSection_tocSections ((sortStrings_perm _).subset hp)]
  simp [groupFiles, List.flatMap_def]

end Lookup

/-- The grouping the code computes: `sorted(toc_sections.keys())`, each with the
files its `next(...)` lookups return. -/
def groupsOf (files : List (List Char × FileRead)) : Groups :=
  let mdFiles := sortByPath files
  (sortStrings ((tocSections mdFiles).map Prod.fst)).map fun cat => (cat, groupFiles mdFiles cat)

section Files

variable {files : List (List Char × FileRead)} (h : (files.map Prod.fst).Nodup)
include h

theorem nodup_paths_sortByPath : ((sortByPath files).map Prod.fst).Nodup :=
  ((sortByPath_perm files).map Prod.fst).nodup_iff.mpr h

theorem mem_flatMap_groupsOf {f : List Char × FileRead} :
    f ∈ (groupsOf files).flatMap Prod.snd ↔ f ∈ files := by
  have hmd := nodup_paths_sortByPath h
  rw [List.mem_flatMap]
  constructor
  · rintro ⟨g, hg, hf⟩
    obtain ⟨c, -, rfl⟩ := List.mem_map.mp hg
    exact (sortByPath_perm files).subset ((mem_groupFiles hmd).mp hf).1
  · intro hf
    have hf' := (sortByPath_perm files).symm.subset hf
    refine ⟨_, List.mem_map.mpr ⟨category f.1, ?_, rfl⟩,
      (mem_groupFiles hmd).mpr ⟨hf', rfl⟩⟩
    rw [(sortStrings_perm _).mem_iff, mem_keys_tocSections]
    exact ⟨f, hf', rfl⟩

/-- The code's grouping has every property the document must have. -/
theorem groupedAs_groupsOf : GroupedAs files (groupsOf files) := by
  have hmd := nodup_paths_sortByPath h
  have hkeys := sortStrings_sorted (nodup_keys_tocSections (sortByPath files))
  have hmap : (groupsOf files).map Prod.fst =
      sortStrings ((tocSections (sortByPath files)).map Prod.fst) := by
    simp [groupsOf, Function.comp_def]
  refine ⟨hmap ▸ hkeys, fun c => ?_, ?_, ?_, ?_⟩
  · rw [hmap, (sortStrings_perm _).mem_iff, mem_keys_tocSections]
    have hp := sortByPath_perm files
    exact ⟨fun ⟨f, hf, hc⟩ => ⟨f, hp.subset hf, (isCategoryOf_iff _ _).mpr hc⟩,
      fun ⟨f, hf, hc⟩ => ⟨f, hp.symm.subset hf, (isCategoryOf_iff _ _).mp hc⟩⟩
  · rintro _ hg
    obtain ⟨c, -, rfl⟩ := List.mem_map.mp hg
    exact groupFiles_sorted hmd c
  · rintro _ hg f hf
    obtain ⟨c, -, rfl⟩ := List.mem_map.mp hg
    exact (isCategoryOf_iff _ _).mpr ((mem_groupFiles hmd).mp hf).2
  · refine (List.perm_ext_iff_of_nodup ?_ (List.Nodup.of_map Prod.fst h)).mpr
      fun f => mem_flatMap_groupsOf h
    refine List.nodup_flatMap.mpr ⟨fun _ hg => ?_, ?_⟩
    · obtain ⟨c, -, rfl⟩ := List.mem_map.mp hg
      exact (groupFiles_sorted hmd c).nodup.of_map Prod.fst
    · rw [groupsOf, List.pairwise_map]
      refine hkeys.imp fun {a b} hab f hfa hfb => ?_
      have ha := ((mem_groupFiles hmd).mp hfa).2
      have hb := ((mem_groupFiles hmd).mp hfb).2
      exact absurd (ha ▸ hb ▸ hab) (lt_irrefl _)

/-- `consolidated` is the rendering of the code's grouping; in particular no
`next(...)` fails. -/
theorem consolidateDoc_eq_renderDoc (generated : Stamp) :
    consolidateDoc generated files = some (renderDoc generated (groupsOf files)) := by
  have hmd := nodup_paths_sortByPath h
  have hlen : (sortByPath files).length = ((groupsOf files).flatMap Prod.snd).length := by
    rw [(sortByPath_perm files).length_eq, (groupedAs_groupsOf h).files_exact.length_eq]
  rw [consolidateDoc, renderDoc, hlen]
  simp only [mapM_eq_some fun c _ => categoryChunks_eq hmd c, Option.bind_eq_bind, Option.some_bind]
  simp [groupsOf, List.flatMap_def, Function.comp_def]

end Files

/-- For files with distinct paths, the document is laid out by a grouping with the
properties `GroupedAs` lists: its text is the header with the number of files, the
numbered table of contents of the categories, then under each category's heading one
section per file of the category, with its `**Source**:` line and what it shows. -/
theorem consolidateDoc_layout (generated : Stamp) (files : List (List Char × FileRead))
    (h : (files.map Prod.fst).Nodup) :
    ∃ groups, GroupedAs files groups ∧
      (consolidateDoc generated files).map List.flatten = some (layoutDoc generated groups) :=
  ⟨groupsOf files, groupedAs_groupsOf h, by
    rw [consolidateDoc_eq_renderDoc h generated, Option.map_some', flatten_renderDoc]⟩

theorem consolidateDoc_layout_sample :
    ([("b/x.md".toList, FileRead.readable "hi".toList),
        ("a.md".toList, .unreadable "e".toList)].map Prod.fst).Nodup ∧
      ∃ groups, GroupedAs [("b/x.md".toList, FileRead.readable "hi".toList),
          ("a.md".toList, .unreadable "e".toList)] groups ∧
        (consolidateDoc ⟨"2024-01-01 00:00:00".toList, by decide⟩
            [("b/x.md".toList, FileRead.readable "hi".toList),
              ("a.md".toList, .unreadable "e".toList)]).map List.flatten =
          some (layoutDoc ⟨"2024-01-01 00:00:00".toList, by decide⟩ groups) :=
  ⟨by decide, consolidateDoc_layout _ _ (by decide)⟩

/-! ### The layout fixes the document -/

theorem GroupedAs.mem_files_iff {files : List (List Char × FileRead)} {groups : Groups}
    (h : GroupedAs files groups) {cat : List Char} {fs : List (List Char × FileRead)}
    (hg : (cat, fs) ∈ groups) (f : List Char × FileRead) :
    f ∈ fs ↔ f ∈ files ∧ IsCategoryOf f.1 cat := by
  refine ⟨fun hf => ⟨h.files_exact.mem_iff.mp (List.mem_flatMap.mpr ⟨_, hg, hf⟩),
    h.own_category _ hg f hf⟩, fun ⟨hf, hc⟩ => ?_⟩
  obtain ⟨g, hg', hf'⟩ := List.mem_flatMap.mp (h.files_exact.mem_iff.mpr hf)
  rwa [List.inj_on_of_nodup_map h.categories_sorted.nodup hg' hg
    ((h.own_category g hg' f hf').unique hc)] at hf'

theorem GroupedAs.mem_of_mem {files : List (List Char × FileRead)} {g₁ g₂ : Groups}
    (h₁ : GroupedAs files g₁) (h₂ : GroupedAs files g₂)
    {x : List Char × List (List Char × FileRead)} (hx : x ∈ g₁) : x ∈ g₂ := by
  obtain ⟨⟨c, fs⟩, hy, hc⟩ := List.mem_map.mp ((h₂.categories_exact x.1).mpr
    ((h₁.categories_exact x.1).mp (List.mem_map_of_mem _ hx)))
  obtain ⟨cat, fs'⟩ := x
  obtain rfl : c = cat := hc
  have hfs : fs' = fs := eq_of_sorted_keys (h₁.paths_sorted _ hx) (h₂.paths_sorted _ hy)
    fun f => by rw [h₁.mem_files_iff hx, h₂.mem_files_iff hy]
  exact hfs ▸ hy

/-- Two groupings of the same files with the properties `GroupedAs` lists are equal. -/
theorem GroupedAs.unique {files : List (List Char × FileRead)} {g₁ g₂ : Groups}
    (h₁ : GroupedAs files g₁) (h₂ : GroupedAs files g₂) : g₁ = g₂ :=
  eq_of_sorted_keys h₁.categories_sorted h₂.categories_sorted fun _ =>
    ⟨h₁.mem_of_mem h₂, h₂.mem_of_mem h₁⟩

/-- For files with distinct paths, the document is the rendering of every grouping with
the properties `GroupedAs` lists: those properties fix the document. -/
theorem consolidateDoc_eq_of_groupedAs (generated : Stamp)
    {files : List (List Char × FileRead)} (h : (files.map Prod.fst).Nodup) {groups : Groups}
    (hg : GroupedAs files groups) :
    consolidateDoc generated files = some (renderDoc generated groups) := by
  rw [consolidateDoc_eq_renderDoc h generated, (groupedAs_groupsOf h).unique hg]

theorem consolidateDoc_eq_of_groupedAs_sample :
    ([("b/x.md".toList, FileRead.readable "hi".toList),
        ("a.md".toList, .unreadable "e".toList)].map Prod.fst).Nodup ∧
      GroupedAs [("b/x.md".toList, FileRead.readable "hi".toList),
          ("a.md".toList, .unreadable "e".toList)]
        (groupsOf [("b/x.md".toList, .readable "hi".toList),
          ("a.md".toList, .unreadable "e".toList)]) ∧
      consolidateDoc ⟨"2024-01-01 00:00:00".toList, by decide⟩
          [("b/x.md".toList, FileRead.readable "hi".toList),
            ("a.md".toList, .unreadable "e".toList)] =
        some (renderDoc ⟨"2024-01-01 00:00:00".toList, by decide⟩
          (groupsOf [("b/x.md".toList, .readable "hi".toList),
            ("a.md".toList, .unreadable "e".toList)])) :=
  have h : ([("b/x.md".toList, FileRead.readable "hi".toList),
      ("a.md".toList, .unreadable "e".toList)].map Prod.fst).Nodup := by decide
  ⟨h, groupedAs_groupsOf h, consolidateDoc_eq_of_groupedAs _ h (groupedAs_groupsOf h)⟩

end VibeZScripts.Markdown
